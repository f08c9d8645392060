import RowFerry.Text.Digits
import RowFerry.Text.Lists

/-!
Commands and the arguments they are given by. Options that choose how the program runs stand before
the name of the command, its own options after it.
-/

namespace RowFerry

/-- What the program is asked to do. -/
inductive Command where
  | migrate (sourceTable targetTable : String) (pageLimit : Option UInt64)
  | query (sql : String)
  | healthCheck
  deriving Repr, DecidableEq

/-- A command with the path of its configuration and the form of its output. -/
structure Invocation where
  configPath : String := "config.yaml"
  json : Bool := false
  command : Command
  deriving Repr, DecidableEq

/-- Why arguments name no command: they are wrong, or they ask for the help or the version. -/
inductive NoCommand where
  | usage
  | help
  | version
  deriving Repr, DecidableEq

namespace Command

/-- What an option takes. -/
inductive Takes where
  | nothing
  | text
  | nonEmptyText
  | number
  deriving Repr, DecidableEq

/-- An option, by its long name and perhaps by a letter. -/
structure Spec where
  name : String
  letter : Option Char := none
  takes : Takes
  deriving Repr, DecidableEq

/-- The options before the name of a command. -/
def mainSpecs : List Spec :=
  [⟨"config", some 'c', .nonEmptyText⟩, ⟨"output-json", none, .nothing⟩,
    ⟨"log-format", none, .text⟩, ⟨"verbosity", none, .text⟩]

def migrateSpecs : List Spec :=
  [⟨"source-table", none, .text⟩, ⟨"target-table", none, .text⟩, ⟨"page-limit", none, .number⟩]

def querySpecs : List Spec := [⟨"sql", none, .text⟩]

/-- A natural number of 64 bits. -/
def number? (text : String) : Option UInt64 :=
  if text.toList.head? = some '-' then none
  else (Text.integer? 0 (Nat.pow 2 64 - 1) text.toList).map fun i => UInt64.ofNat i.toNat

/-- Does an option take this value? -/
def Takes.admits (t : Takes) (value : String) : Bool :=
  match t with
  | nothing => false
  | text => true
  | nonEmptyText => !value.isEmpty
  | number => (number? value).isSome

/-- Does an argument look like an option, so that it cannot be the value of another? -/
def looksLikeOption (arg : String) : Bool :=
  match arg.toList with
  | '-' :: _ :: _ => true
  | _ => false

/-- The options given so far, with their values. -/
abbrev Given := List (String × String)

/-- Adds an option; each may be given once. -/
def give (given : Given) (s : Spec) (value : String) : Except NoCommand Given :=
  if (given.lookup s.name).isSome ||
    !(s.takes = .nothing || s.takes.admits value) then .error .usage
  else .ok (given ++ [(s.name, value)])

/-- A name and the value attached to it with an equals sign, if there is one. -/
def cutValue (cs : List Char) : String × Option String :=
  match Text.cutAt '=' cs with
  | some (name, value) => (String.ofList name, some (String.ofList value))
  | none => (String.ofList cs, none)

/-- The value that follows a letter in the same argument. -/
def afterLetter (cs : List Char) : Option String :=
  match cs with
  | [] => none
  | '=' :: value => some (String.ofList value)
  | value => some (String.ofList value)

/-- What an argument that looks like an option says: an option with or without an attached value. -/
def option? (specs : List Spec) (versioned : Bool) (arg : String) :
    Except NoCommand (Spec × Option String) :=
  match arg.toList with
  | '-' :: '-' :: cs =>
    let (name, value) := cutValue cs
    if name = "help" && value.isNone then .error .help
    else if versioned && name = "version" && value.isNone then .error .version
    else
      match specs.find? fun s => s.name == name with
      | some s => if s.takes = .nothing && value.isSome then .error .usage else .ok (s, value)
      | none => .error .usage
  | '-' :: c :: cs =>
    if c = 'h' then .error .help
    else if versioned && c = 'V' then .error .version
    else
      match specs.find? fun s => s.letter == some c with
      | some s => .ok (s, afterLetter cs)
      | none => .error .usage
  | _ => .error .usage

/-- Reads options up to the first argument that is none. After two hyphens nothing may follow. -/
def readOptions (specs : List Spec) (versioned : Bool) (given : Given) :
    List String → Except NoCommand (Given × List String)
  | [] => .ok (given, [])
  | arg :: args =>
    if arg = "--" then if args.isEmpty then .ok (given, []) else .error .usage
    else if !looksLikeOption arg then .ok (given, arg :: args)
    else do
      let (s, attached) ← option? specs versioned arg
      if s.takes = .nothing then readOptions specs versioned (← give given s "") args
      else
        match attached, args with
        | some value, args => readOptions specs versioned (← give given s value) args
        | none, value :: args =>
          if looksLikeOption value then throw .usage
          else readOptions specs versioned (← give given s value) args
        | none, [] => throw .usage

/-- The value of an option that must be given. -/
def needed (given : Given) (name : String) : Except NoCommand String :=
  match given.lookup name with
  | some value => .ok value
  | none => .error .usage

/-- Reads the options of a command, after which nothing may follow. -/
def readOwn (specs : List Spec) (args : List String) : Except NoCommand Given := do
  match ← readOptions specs false [] args with
  | (given, []) => pure given
  | _ => throw .usage

/-- Reads a command with its options. -/
def read : List String → Except NoCommand Command
  | "migrate" :: args => do
    let given ← readOwn migrateSpecs args
    let source ← needed given "source-table"
    let target ← needed given "target-table"
    pure (.migrate source target ((given.lookup "page-limit").bind number?))
  | "query" :: args => do
    let given ← readOwn querySpecs args
    let sql ← needed given "sql"
    pure (.query sql)
  | "health-check" :: args => do
    let _ ← readOwn [] args
    pure .healthCheck
  | ["help"] | ["help", "migrate"] | ["help", "query"] | ["help", "health-check"]
  | ["help", "help"] => throw .help
  | _ => throw .usage

end Command

/-- Reads the arguments of the program. -/
def Invocation.ofArgs (args : List String) : Except NoCommand Invocation := do
  let (given, rest) ← Command.readOptions Command.mainSpecs true [] args
  let command ← Command.read rest
  pure ⟨(given.lookup "config").getD "config.yaml", (given.lookup "output-json").isSome, command⟩

end RowFerry
