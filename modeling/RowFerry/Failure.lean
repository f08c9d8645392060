import RowFerry.Text.Digits
import RowFerry.Text.Quoted

/-!
What can go wrong, by cause, and how it is reported: the message, the stage it is attributed to, the
exit code and the detailed report.
-/

namespace RowFerry

/-- The operation that a failing statement belongs to. -/
inductive Stage where
  | insert
  | select
  | count
  | update
  | delete
  | native
  | bulk
  deriving Repr, DecidableEq

def Stage.label : Stage → String
  | insert => "insert data"
  | select => "select data"
  | count => "select count data"
  | update => "update data"
  | delete => "delete data"
  | native => "native query"
  | bulk => "bulk create data"

/-- Identifiers have at most this many bytes. -/
def maxIdentifierBytes : Nat := 128

/-- Why a statement cannot be compiled. -/
inductive CompileError where
  | emptyIdentifier
  | nullByte (name : String)
  | tooLong (name : String) (bytes : Nat)
  | notPlainWord (name : String)
  | joinWithoutCondition (table : String)
  | nothingToInsert (table : String)
  | nothingToSet (table : String)
  | reported (message : String)
  deriving Repr, DecidableEq

def natText (n : Nat) : String := String.ofList (Text.numeral n)

def CompileError.message : CompileError → String
  | emptyIdentifier => "Identifier cannot be empty"
  | nullByte name =>
    "SECURITY: Identifier contains null byte (possible injection attempt): " ++ Text.quoted name
  | tooLong name bytes =>
    "SECURITY: Identifier exceeds maximum length of " ++ natText maxIdentifierBytes ++
      " bytes (got " ++ natText bytes ++ " bytes): " ++ Text.quoted name
  | notPlainWord name =>
    "Identifier " ++ Text.quoted name ++
      " must be a plain word when identifiers are case-insensitive"
  | joinWithoutCondition table => "join on " ++ Text.quoted table ++ " has no ON condition"
  | nothingToInsert table => "insert into " ++ Text.quoted table ++ " has no columns"
  | nothingToSet table => "update of " ++ Text.quoted table ++ " sets no columns"
  | reported message => message

/-- Why a configuration is refused. -/
inductive ConfigError where
  | required (field : String)
  | noConnections
  | tooManyIdle (minIdle maxSize : Nat)
  | emptyPages
  | emptyMigrationPages
  | noSource
  | reported (message : String)
  deriving Repr, DecidableEq

def ConfigError.message : ConfigError → String
  | required field => field ++ " is required"
  | noConnections => "target.pool.max_size must be at least 1"
  | tooManyIdle minIdle maxSize =>
    "target.pool.min_idle (" ++ natText minIdle ++ ") cannot exceed max_size (" ++
      natText maxSize ++ ")"
  | emptyPages => "migration.page_limit must be at least 1"
  | emptyMigrationPages => "migration page limit must be at least 1"
  | noSource => "migrate requires a `source` section"
  | reported message => message

/-- Why rows cannot be read from the source database. -/
inductive SourceError where
  | connecting (reason : String)
  | testing (reason : String)
  | reading (table reason : String)
  | decoding (column reason : String)
  | reported (message : String)
  deriving Repr, DecidableEq

def SourceError.message : SourceError → String
  | connecting reason => "creating MySQL source pool: " ++ reason
  | testing reason => "testing MySQL source connection: " ++ reason
  | reading table reason => "reading " ++ table ++ ": " ++ reason
  | decoding column reason => "decoding column " ++ column ++ ": " ++ reason
  | reported message => message

/-- A failed operation. -/
inductive Failure where
  | init (message : String)
  | compile (cause : CompileError)
  | execution (stage : Stage) (message : String)
  | driver (message : String)
  | stream (message : String)
  | source (cause : SourceError)
  | config (cause : ConfigError)
  | io (message : String)
  | yaml (message : String)
  | json (message : String)
  deriving Repr, DecidableEq

namespace Failure

def message : Failure → String
  | init m => "init dmdb error: " ++ m
  | compile c => "compile error: " ++ c.message
  | execution stage m => stage.label ++ " error: " ++ m
  | driver m => m
  | stream m => "large object read error: " ++ m
  | source c => "source database error: " ++ c.message
  | config c => "Configuration error: " ++ c.message
  | io m => "IO error: " ++ m
  | yaml m => "YAML error: " ++ m
  | json m => "JSON error: " ++ m

/-- Attributes a failure to the operation it happened in. A connection that could not be made, a
statement that could not be compiled and a failure with a stage of its own stay as they are. -/
def atStage (f : Failure) (stage : Stage) : Failure :=
  match f with
  | init _ | compile _ | execution .. => f
  | driver m | stream m => execution stage m
  | other => execution stage other.message

/-- A failure while a large object is read is a failure of its stream. -/
def asStream : Failure → Failure
  | stream m => stream m
  | other => stream other.message

/-- A failure of the source of a migration is a source failure. -/
def asSource : Failure → Failure
  | source c => source c
  | other => source (.reported other.message)

/-- The exit code of a program that ends with the failure. -/
def exitCode : Failure → Nat
  | config _ | yaml _ | json _ => 1
  | init _ => 2
  | compile _ | execution .. | driver _ | stream _ => 3
  | source _ => 4
  | io _ => 7

/-- The text of the failure beneath, where there is one. -/
def cause? : Failure → Option String
  | io m | yaml m | json m => some m
  | _ => none

/-- The message, and beneath it the failure that caused it. -/
def report (f : Failure) : String :=
  "Error: " ++ f.message ++ "\n" ++
    match f.cause? with
    | some m => "\nCaused by:\n  1: " ++ m
    | none => ""

end Failure

end RowFerry
