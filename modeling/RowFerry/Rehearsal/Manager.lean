import RowFerry.Odbc.Pool
import RowFerry.Rehearsal.Rule
import RowFerry.Rehearsal.Server
import RowFerry.Session

/-!
A driver manager that plays a script. It keeps the keys of the rows that it has accepted, refuses a
key that it has seen, takes its other answers from the script, and logs what it is asked.
-/

namespace RowFerry.Rehearsal

/-- What a manager logs. -/
inductive ManagerEvent where
  | connected (text : String)
  | executed (sql : String) (parameters : List Odbc.Parameter)
  | committed
  | disconnected
  deriving Repr, DecidableEq

/-- The state of a manager that plays a script; its logs have the last event first, and connections
are numbered as they are made. -/
structure Manager where
  rules : List (Rule Odbc.Diagnostic) := []
  outcomes : List Odbc.Answer := []
  keys : List (String × Odbc.Parameter) := []
  log : List ManagerEvent := []
  serverLog : List ServerEvent := []
  made : Nat := 0

namespace Manager

def note (event : ManagerEvent) (m : Manager) : Manager := { m with log := event :: m.log }

def noteServer (events : List ServerEvent) (m : Manager) : Manager :=
  { m with serverLog := events.reverse ++ m.serverLog }

/-- The logs in order, and the manager with empty logs. -/
def takeLogs (m : Manager) : List ManagerEvent × List ServerEvent × Manager :=
  (m.log.reverse, m.serverLog.reverse, { m with log := [], serverLog := [] })

/-- Makes a connection. -/
def connect (text : String) : StateM Manager (Except Odbc.Diagnostic Nat) := do
  let m ← get
  set { m.note (.connected text) with made := m.made + 1 }
  pure (.ok m.made)

/-- Puts a text to the rules. -/
def obey (text : String) : StateM Manager (Option Odbc.Diagnostic) := do
  let m ← get
  let (failure, rules) := Rule.apply text m.rules
  set { m with rules := rules }
  pure failure

/-- The diagnostic of a key that has been seen. -/
def duplicateKey (p : Odbc.Parameter) : Odbc.Diagnostic :=
  ⟨"23000", -6602, "unique constraint violated: " ++ p.plain.getD "NULL"⟩

/-- What is sent for a query that the script does not answer. -/
def noRows : Odbc.Answer := .rows ⟨[], [], none⟩

/-- Answers a statement that no rule fails. -/
def answer (sql : String) (parameters : List Odbc.Parameter) (m : Manager) :
    Except Odbc.Diagnostic Odbc.Answer × Manager :=
  if sql = Odbc.healthCheck then (.ok noRows, m)
  else if startsWith sql "INSERT" then
    let first := parameters.headD .null
    let key := (insertTarget sql, first)
    if m.keys.contains key then (.error (duplicateKey first), m)
    else (.ok (.affected 1), { m with keys := key :: m.keys })
  else if startsWith sql "SET" then (.ok (.affected 0), m)
  else
    match m.outcomes with
    | o :: os => (.ok o, { m with outcomes := os })
    | [] => (.ok (if startsWith sql "SELECT" then noRows else .affected 0), m)

/-- Executes a statement. -/
def execute (sql : String) (parameters : List Odbc.Parameter) :
    StateM Manager (Except Odbc.Diagnostic Odbc.Answer) := do
  modify (note (.executed sql parameters))
  match ← obey sql with
  | some d => pure (.error d)
  | none => modifyGet (answer sql parameters)

def commit : StateM Manager (Except Odbc.Diagnostic Unit) := do
  modify (note .committed)
  match ← obey "COMMIT" with
  | some d => pure (.error d)
  | none => pure (.ok ())

/-- The script as a driver manager. -/
def manager : Odbc.Manager Manager Nat where
  connect := connect
  execute _ := execute
  commit _ := commit
  disconnect _ := modify (note .disconnected)

/-- Adds to the script, after emptying it when told to. -/
def addScript (m : Manager) (clear : Bool) (script : Manager) : Manager :=
  let kept (α : Type) (xs : List α) : List α := if clear then [] else xs
  { m with
    rules := kept _ m.rules ++ script.rules
    outcomes := kept _ m.outcomes ++ script.outcomes }

end Manager

/-- A pool over a manager that plays a script. -/
abbrev ManagedPool := Odbc.PoolState (Odbc.Shelves Nat) Manager Nat Nat

namespace ManagedPool

/-- A change of the manager within the pool. -/
def within (f : Manager → Manager) (p : ManagedPool) : ManagedPool :=
  { p with manager := f p.manager }

def engine (settings : Odbc.PoolSettings) : Engine ManagedPool Nat :=
  Odbc.PoolState.engine Manager.manager (Odbc.Shelves.keeper Manager.manager) settings

/-- A source of rows beside the pool; reading it asks the manager nothing. -/
def source (answers : List PageAnswer) : RowSource ManagedPool where
  answers := answers
  hear _ p := p

/-- Connects a scripted server as a source; the manager keeps its log. -/
def connectServer (s : Server) (user database : String) : Act ManagedPool (RowSource ManagedPool) :=
  s.connect user database fun events => within (Manager.noteServer events)

end ManagedPool

end RowFerry.Rehearsal
