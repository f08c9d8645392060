import RowFerry.Rehearsal.Rule
import RowFerry.Rehearsal.Server
import RowFerry.Session

/-!
A pool that plays a script. It keeps the keys of the rows that it has accepted, refuses a key that
it has seen, takes its other answers from the script, and logs what it is asked.
-/

namespace RowFerry.Rehearsal

/-- What a rehearsal logs. -/
inductive Event where
  | opened
  | acquired
  | released
  | discarded
  | closed
  | executed (sql : String) (values : List Value)
  | committed
  | fetched
  | readerClosed (column : String) (reads : Nat)
  | cursorClosed
  | sourceRead (request : PageRequest)
  deriving Repr, DecidableEq

/-- The state of a pool that plays a script; its logs have the last event first, and `reads` counts
the reads of the large object being read. -/
structure Pool where
  isOpen : Bool := false
  openFailures : List Failure := []
  acquireFailures : List Failure := []
  outcomes : List Outcome := []
  rules : List (Rule Failure) := []
  keys : List (String × Value) := []
  log : List Event := []
  serverLog : List ServerEvent := []
  reads : Nat := 0

namespace Pool

def note (event : Event) (p : Pool) : Pool := { p with log := event :: p.log }

def noteServer (events : List ServerEvent) (p : Pool) : Pool :=
  { p with serverLog := events.reverse ++ p.serverLog }

/-- The logs in order, and the pool with empty logs. -/
def takeLogs (p : Pool) : List Event × List ServerEvent × Pool :=
  (p.log.reverse, p.serverLog.reverse, { p with log := [], serverLog := [] })

/-- Opens the pool, which the script may refuse. -/
def openPool : Act Pool Unit := do
  let p ← get
  if p.isOpen then pure ()
  else
    let p := p.note .opened
    match p.openFailures with
    | [] => set { p with isOpen := true }
    | f :: fs =>
      set { p with openFailures := fs }
      throw f

/-- Hands out the connection, which the script may refuse. -/
def acquire : Act Pool Unit := do
  openPool
  let p := (← get).note .acquired
  match p.acquireFailures with
  | [] => set p
  | f :: fs =>
    set { p with acquireFailures := fs }
    throw f

/-- Puts a text to the rules. -/
def obey (text : String) : Act Pool Unit := do
  let p ← get
  let (failure, rules) := Rule.apply text p.rules
  set { p with rules := rules }
  match failure with
  | none => pure ()
  | some f => throw f

/-- What a statement yields that the script does not answer: the empty result set where the text
asks for one. -/
def plainOutcome (sql : String) (count : Nat) : Outcome :=
  if mentions sql "CURSOR" then .rows Cursor.none else .affected count

/-- Accepts a row whose key is new. -/
def insert (sql : String) (values : List Value) : Act Pool Outcome := do
  let p ← get
  let first := values.headD .null
  let key := (insertTarget sql, first)
  if p.keys.contains key then
    throw (.driver ("unique constraint violated: " ++ first.plain.getD "NULL"))
  else
    set { p with keys := key :: p.keys }
    pure (plainOutcome sql 1)

/-- Executes a statement. -/
def execute (sql : String) (values : List Value) : Act Pool Outcome := do
  modify (note (.executed sql values))
  obey sql
  if startsWith sql "INSERT" then insert sql values
  else if startsWith sql "SET" then pure (plainOutcome sql 0)
  else
    let p ← get
    match p.outcomes with
    | o :: os =>
      set { p with outcomes := os }
      pure o
    | [] => pure (if startsWith sql "SELECT" then .rows Cursor.none else .affected 0)

def commit : Act Pool Unit := do
  modify (note .committed)
  obey "COMMIT"

/-- Logs a call on a result set. -/
def hear (call : CursorCall) (p : Pool) : Pool :=
  match call with
  | .fetch => p.note .fetched
  | .close => p.note .cursorClosed
  | .reader _ .read => { p with reads := p.reads + 1 }
  | .reader column .close => { p.note (.readerClosed column p.reads) with reads := 0 }

/-- The pool as an engine. -/
def engine : Engine Pool Unit where
  openPool := openPool
  isOpen := Pool.isOpen
  closePool := modify fun p => { p.note .closed with isOpen := false }
  acquire := acquire
  release _ := modify (note .released)
  discard _ := modify (note .discarded)
  execute _ := execute
  commit _ := commit
  hear := hear

/-- An adapter with quoted names over the pool. -/
def adapter (tablespace : String) : Adapter Pool Unit := ⟨engine, ⟨tablespace, .quoted⟩⟩

/-- A pool that refuses one commit, after as many others. -/
def refusingCommit (skip : Nat) : Pool where
  rules := [⟨"COMMIT", .driver "commit refused", skip, some 1, 0⟩]

/-- A source of rows over the pool, which logs the requests it gets. -/
def source (answers : List PageAnswer) : RowSource Pool where
  answers := answers
  hear request := note (.sourceRead request)

/-- Connects a scripted server as a source; the pool keeps its log. -/
def connectServer (s : Server) (user database : String) : Act Pool (RowSource Pool) :=
  s.connect user database noteServer

/-- Adds to the script, after emptying it when told to. -/
def addScript (p : Pool) (clear : Bool) (script : Pool) : Pool :=
  let kept (α : Type) (xs : List α) : List α := if clear then [] else xs
  { p with
    openFailures := kept _ p.openFailures ++ script.openFailures
    acquireFailures := kept _ p.acquireFailures ++ script.acquireFailures
    outcomes := kept _ p.outcomes ++ script.outcomes
    rules := kept _ p.rules ++ script.rules }

end Pool

end RowFerry.Rehearsal
