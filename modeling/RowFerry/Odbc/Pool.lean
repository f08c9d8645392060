import RowFerry.Odbc.Keeper

/-!
A pool of connections over a keeper, opened by the first request that needs it. Opening tests one
connection; when that fails no pool is held and the next request tries again. A discarded connection
is marked as broken before it is given back, so that the keeper drops it.
-/

namespace RowFerry.Odbc

/-- The statement that tests a connection. -/
def healthCheck : String := "SELECT 1 FROM DUAL;"

/-- The state of a pool: the pool of the keeper that is held, whether the pool is announced as open,
the connections marked as broken, and the states of the keeper and of the manager. -/
structure PoolState (ρ μ π κ : Type) where
  held : Option π
  isOpen : Bool
  broken : List κ
  keeper : ρ
  manager : μ

namespace PoolState

variable {ρ μ π κ α : Type}

/-- The pool that has not been opened. -/
def unopened (keeper : ρ) (manager : μ) : PoolState ρ μ π κ := ⟨none, false, [], keeper, manager⟩

/-- The pool that has not been opened, over a keeper that has done nothing. -/
def closed [Inhabited ρ] (manager : μ) : PoolState ρ μ π κ := unopened default manager

/-- A request to the manager within the pool. -/
def ask (act : Act μ α) : Act (PoolState ρ μ π κ) α := fun s =>
  let (result, manager) := act s.manager
  (result, { s with manager := manager })

/-- A request to the keeper within the pool. -/
def below (act : StateM (ρ × μ) α) : StateM (PoolState ρ μ π κ) α := fun s =>
  let (result, keeper, manager) := act (s.keeper, s.manager)
  (result, { s with keeper := keeper, manager := manager })

section Requests

variable (m : Manager μ κ) (k : Keeper ρ μ π κ) (settings : PoolSettings)

/-- Lends a connection of a pool. -/
def checkOut (pool : π) : Act (PoolState ρ μ π κ) κ := do
  match ← ExceptT.lift (below (k.lend pool)) with
  | .error r => throw r.asInit
  | .ok c => pure c

/-- Gives a connection back; the keeper is told whether it has been marked as broken. -/
def giveBack [DecidableEq κ] (c : κ) : StateM (PoolState ρ μ π κ) Unit := do
  let s ← get
  below (k.takeBack c (s.broken.contains c))

/-- Tests one connection of a pool, which is given back whether or not it passes. -/
def testOne [DecidableEq κ] (pool : π) : Act (PoolState ρ μ π κ) Unit := do
  let c ← checkOut k pool
  let answer ← (ask (m.run c healthCheck [])).attempt
  ExceptT.lift (giveBack k c)
  match answer with
  | .error f => throw (.init f.message)
  | .ok _ => pure ()

/-- The pool that is held. When none is held one is built and tested, and given
up when the test fails. -/
def current [DecidableEq κ] : Act (PoolState ρ μ π κ) π := do
  match (← get).held with
  | some pool => pure pool
  | none =>
    let pool ← ExceptT.mk (below (k.build settings).run)
    match ← (testOne m k pool).attempt with
    | .error f =>
      ExceptT.lift (below (k.giveUp pool))
      throw f
    | .ok () =>
      modify fun s => { s with held := some pool, isOpen := true }
      pure pool

/-- Opens the pool unless it is open. -/
def openPool [DecidableEq κ] : Act (PoolState ρ μ π κ) Unit := do
  let _ ← current m k settings
  pure ()

/-- Hands out a connection, opening the pool first if needed. -/
def acquire [DecidableEq κ] : Act (PoolState ρ μ π κ) κ := do
  let pool ← current m k settings
  checkOut k pool

/-- Takes a connection back. -/
def release [DecidableEq κ] (c : κ) : StateM (PoolState ρ μ π κ) Unit := giveBack k c

/-- Drops a connection that was handed out. -/
def discard [DecidableEq κ] (c : κ) : StateM (PoolState ρ μ π κ) Unit := do
  modify fun s => { s with broken := c :: s.broken }
  giveBack k c

/-- Gives the pool up. -/
def closePool : StateM (PoolState ρ μ π κ) Unit := do
  let s ← getModify fun s => { s with held := none }
  match s.held with
  | some pool => below (k.giveUp pool)
  | none => pure ()
  modify fun s => { s with isOpen := false }

/-- The pool as an engine. Its result sets have been fetched when they are handed out, so reading
them asks nothing more. -/
def engine [DecidableEq κ] : Engine (PoolState ρ μ π κ) κ where
  openPool := openPool m k settings
  isOpen := PoolState.isOpen
  closePool := closePool k
  acquire := acquire m k settings
  release := release k
  discard := discard k
  execute c sql values := ask (m.run c sql values)
  commit c := ask (m.commitOn c)
  hear _ s := s

end Requests

end PoolState

end RowFerry.Odbc
