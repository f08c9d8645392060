import RowFerry.Engine.Cursor

/-!
Engines: what a pool of connections answers to each request, as a function of a state of its own.
Nothing is assumed of the answers, so what is said of every engine holds under every pattern of
failures.
-/

namespace RowFerry

/-- A computation over the state of an engine. What it did to the state stays done when it fails. -/
abbrev Act (σ : Type) := ExceptT Failure (StateM σ)

/-- What an executed statement yields. -/
inductive Outcome where
  | affected (count : Nat)
  | rows (cursor : Cursor)
  deriving Repr, DecidableEq

/-- A pool of connections in manual-commit mode. `hear` tells the engine of a call on a result set
that it has handed out. -/
structure Engine (σ κ : Type) where
  openPool : Act σ Unit
  isOpen : σ → Bool
  closePool : StateM σ Unit
  acquire : Act σ κ
  release : κ → StateM σ Unit
  discard : κ → StateM σ Unit
  execute : κ → String → List Value → Act σ Outcome
  commit : κ → Act σ Unit
  hear : CursorCall → σ → σ

namespace Act

variable {σ α : Type}

/-- The result of a computation, failed or not, as a value. -/
def attempt (act : Act σ α) : Act σ (Except Failure α) := ExceptT.lift act.run

/-- A computation with its result given. -/
def ofExcept (r : Except Failure α) : Act σ α := ExceptT.mk (pure r)

/-- A statement that could not be compiled fails before anything else happens. -/
def ofCompiled (r : Except CompileError α) : Act σ α := ofExcept (r.mapError Failure.compile)

/-- A change of the state. -/
def change (f : σ → σ) : Act σ Unit := ExceptT.lift (modify f)

end Act

namespace Engine

variable {σ κ : Type} (e : Engine σ κ)

/-- Tells the engine of calls on a result set. -/
def hearAll (calls : List CursorCall) : Act σ Unit :=
  Act.change fun s => calls.foldl (fun s call => e.hear call s) s

/-- Reads a result set to its end. Nothing comes of a reading that crashes. -/
def collect (c : Cursor) : Act σ (Option (List Row)) :=
  match c.collect with
  | none => pure none
  | some (result, calls) => do
    e.hearAll calls
    Act.ofExcept (result.map some)

/-- The number of rows affected; a result set that came instead is closed and counts as none. -/
def settle : Outcome → Act σ Nat
  | .affected n => pure n
  | .rows _ => do
    e.hearAll [.close]
    pure 0

/-- Runs a computation on a connection of its own, which goes back to the pool whether or not the
computation fails. Its failure is attributed to the stage. -/
def withConnection {α : Type} (stage : Stage) (body : κ → Act σ α) : Act σ α := do
  let c ← e.acquire
  let result ← (body c).attempt
  ExceptT.lift (e.release c)
  Act.ofExcept (result.mapError fun f => f.atStage stage)

/-- What follows a computation on a connection that may have crashed. After a crash nothing does:
the connection is neither released nor discarded. -/
def giveBack {α : Type} (stage : Stage) (c : κ) : Except Failure (Option α) → Act σ (Option α)
  | .ok none => pure none
  | result => do
    ExceptT.lift (e.release c)
    Act.ofExcept (result.mapError fun f => f.atStage stage)

/-- Runs a computation that may crash on a connection of its own, which goes back to the pool unless
the computation crashes. -/
def withConnectionToRead {α : Type} (stage : Stage) (body : κ → Act σ (Option α)) :
    Act σ (Option α) := do
  let c ← e.acquire
  let result ← (body c).attempt
  e.giveBack stage c result

end Engine

end RowFerry
