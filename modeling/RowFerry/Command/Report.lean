import RowFerry.Command
import RowFerry.Config.Reading

/-!
What a command does and prints. Lines that are printed before a failure stay printed.
-/

namespace RowFerry

/-- The time a command took, as it is printed: in seconds and in milliseconds. -/
structure Elapsed where
  seconds : String
  milliseconds : String
  deriving Repr, DecidableEq

/-- How the program ends: by itself, or broken off by the system. -/
inductive Ending where
  | exit (code : Nat)
  | killed
  deriving Repr, DecidableEq

/-- What the program prints, the failure it reports, and how it ends. -/
structure Report where
  output : String
  failure : Option Failure
  ending : Ending
  deriving Repr, DecidableEq

namespace Report

def lines (ls : List String) : String := String.join (ls.map fun l => l ++ "\n")

/-- A report of lines, and of the failure after them if there is one. -/
def ofLines (ls : List String) (failure : Option Failure) : Report :=
  ⟨lines ls, failure, .exit (failure.elim 0 Failure.exitCode)⟩

def ofFailure (f : Failure) : Report := ofLines [] (some f)

/-- The report of arguments that name no command. -/
def ofNoCommand : NoCommand → Report
  | .usage => ⟨"", none, .exit 2⟩
  | .version => ofLines ["dmdb-bridge 0.1.0"] none
  | .help =>
    ofLines ["Usage: dmdb-bridge [OPTIONS] <COMMAND>", "", "Commands: migrate, query, health-check",
      "Options: --config <CONFIG>, --output-json, --log-format <FORMAT>, --verbosity <LEVEL>"] none

def ofJson (j : Json) : Report := ofLines [j.pretty] none

/-- What a statement yielded. -/
def ofNative : NativeResult → Report
  | .affected n => ofLines [natText n ++ " row(s) affected"] none
  | .rows rs =>
    ofLines (rs.map (fun r => r.toJson.compact) ++ ["(" ++ natText rs.length ++ " row(s))"]) none

/-- The target as it is named to the user. -/
def address (t : TargetConfig) : String := t.host ++ ":" ++ natText t.port.toNat

/-- What a statement yielded, unless the program crashed on it. -/
def ofReading (g : NativeResult → Report) : Option NativeResult → Report
  | none => ⟨"", none, .exit 101⟩
  | some r => g r

def ofHealth (t : TargetConfig) (json : Bool) (e : Elapsed) : Report :=
  if json then
    ofJson (.object [("connected", .bool true), ("latency_ms", .number e.milliseconds),
      ("target", .string (address t))])
  else
    ofLines ["Health Check Results:",
      "  Target (DM " ++ address t ++ "): OK (" ++ e.milliseconds ++ "ms)"] none

/-- The counts of a migration. -/
def countLines (s : MigrationSummary) (e : Elapsed) : List String :=
  ["  Duration: " ++ e.seconds ++ "s", "  Pages: " ++ natText s.pagesRead,
    "  Rows read: " ++ natText s.rowsRead, "  Rows written: " ++ natText s.rowsWritten]

def failureLines (s : MigrationSummary) : List String :=
  if s.failures.isEmpty then []
  else ("  Failed rows: " ++ natText s.failures.length) :: s.failures.map fun f => "    " ++ f.error

/-- What a migration has done. The name of the target is written last, and may not be writable. -/
def ofMigration (compiler : Compiler) (database sourceTable targetTable : String)
    (s : MigrationSummary) (e : Elapsed) : Report :=
  let head := ["", "Migration completed!", "  Source: " ++ database ++ "." ++ sourceTable]
  match compiler.table targetTable with
  | .error err => ofLines head (some (.compile err))
  | .ok name =>
    ofLines (head ++ ["  Target: " ++ name.text] ++ countLines s e ++ failureLines s) none

end Report

namespace Invocation

variable {σ κ : Type} (a : Adapter σ κ) (c : Config)

/-- Sends a statement. An empty one cannot be sent: the program breaks off where it would be. -/
def runQuery (json : Bool) (sql : String) : Act σ Report :=
  if sql.isEmpty then do
    let _ ← a.engine.acquire
    pure ⟨"", none, .killed⟩
  else do
    let r ← a.native sql []
    pure (.ofReading (fun r => if json then Report.ofJson r.toJson else Report.ofNative r) r)

/-- Opens the pool and tests a connection of it. -/
def runHealthCheck (json : Bool) (e : Elapsed) : Act σ Report := do
  a.engine.openPool
  let r ← a.native Odbc.healthCheck []
  pure (.ofReading (fun _ => Report.ofHealth c.target json e) r)

/-- Migrates a table from the source of the configuration. -/
def runMigration (connect : SourceConfig → Act σ (RowSource σ)) (json : Bool)
    (sourceTable targetTable : String) (pageLimit : Option UInt64) (e : Elapsed) : Act σ Report :=
  match c.source with
  | none => throw (.config .noSource)
  | some source => do
    let options := c.migration.options
    let options := { options with pageLimit := pageLimit.getD options.pageLimit }
    let s ← a.migrateFrom (connect source) sourceTable targetTable options
    pure (if json then Report.ofJson s.toJson
      else Report.ofMigration a.compiler source.database sourceTable targetTable s e)

/-- Runs a command and closes the pool. -/
def run (connect : SourceConfig → Act σ (RowSource σ)) (i : Invocation) (e : Elapsed) :
    StateM σ Report := do
  let result ← ExceptT.run (match i.command with
    | .migrate source target pageLimit => runMigration a c connect i.json source target pageLimit e
    | .query sql => runQuery a i.json sql
    | .healthCheck => runHealthCheck a c i.json e)
  a.engine.closePool
  pure (match result with
    | .ok r => r
    | .error f => Report.ofFailure f)

end Invocation

end RowFerry
