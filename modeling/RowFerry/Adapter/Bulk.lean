import RowFerry.Adapter

/-!
Bulk loading: all rows go over one connection, a row that fails is recorded and the others go on.
Identity insert is switched on before and off after; a connection on which it could not be switched
off is thrown away.
-/

namespace RowFerry

/-- A row that could not be inserted, and why. -/
structure RowFailure where
  error : String
  row : Row
  deriving Repr, DecidableEq

def RowFailure.toJson (f : RowFailure) : Json :=
  .object [("error", .string f.error), ("row", f.row.toJson)]

/-- How many rows were inserted, and the rows that were not, in the order of the input. -/
structure BulkResult where
  successCount : Nat
  failures : List RowFailure
  deriving Repr, DecidableEq

namespace BulkResult

def attempted (r : BulkResult) : Nat := r.successCount + r.failures.length

def toJson (r : BulkResult) : Json :=
  .object [("success_count", .nat r.successCount),
    ("failures", .array (r.failures.map RowFailure.toJson))]

/-- Adds what became of a row before those counted already. -/
def record (row : Row) (result : Except Failure Unit) (r : BulkResult) : BulkResult :=
  match result with
  | .ok () => { r with successCount := r.successCount + 1 }
  | .error f => { r with failures := ⟨f.message, row⟩ :: r.failures }

end BulkResult

namespace Adapter

variable {σ κ : Type} (a : Adapter σ κ)

/-- Executes a statement without values and commits it. -/
def runAndCommit (c : κ) (sql : String) : Act σ Unit := do
  let outcome ← a.engine.execute c sql []
  let _ ← a.engine.settle outcome
  a.engine.commit c

/-- Inserts one row of a batch. -/
def insertRow (c : κ) (table : String) (row : Row) : Act σ Unit := do
  let s ← Act.ofCompiled (a.compiler.create table row)
  match ← (a.engine.execute c s.sql s.values).attempt with
  | .error f => throw (f.atStage .insert)
  | .ok outcome =>
    let _ ← a.engine.settle outcome
    pure ()

/-- Inserts rows one after another, whichever of them fail. -/
def insertRows (c : κ) (table : String) : List Row → Act σ BulkResult
  | [] => pure ⟨0, []⟩
  | row :: rows => do
    let result ← (a.insertRow c table row).attempt
    let rest ← insertRows c table rows
    pure (rest.record row result)

/-- Inserts the rows of a batch and commits them. -/
def insertBatch (c : κ) (table : String) (rows : List Row) : Act σ BulkResult := do
  let result ← a.insertRows c table rows
  match ← (a.engine.commit c).attempt with
  | .error f => throw (f.atStage .bulk)
  | .ok () => pure result

/-- The statements that switch identity insert on and off. -/
def identityToggles (table : String) : Except CompileError (String × String) := do
  let enable ← a.compiler.identityInsert table true
  let disable ← a.compiler.identityInsert table false
  pure (enable, disable)

/-- Loads a batch over a connection without touching identity insert. -/
def loadPlain (table : String) (rows : List Row) : Act σ BulkResult := do
  let c ← a.engine.acquire
  let loaded ← (a.insertBatch c table rows).attempt
  ExceptT.lift (a.engine.release c)
  Act.ofExcept loaded

/-- Loads a batch between the two statements. When the first fails nothing is loaded; when the
second fails the connection is discarded, which does not change the result. -/
def loadToggled (enable disable : String) (table : String) (rows : List Row) :
    Act σ BulkResult := do
  let c ← a.engine.acquire
  match ← (a.runAndCommit c enable).attempt with
  | .error f =>
    ExceptT.lift (a.engine.release c)
    throw (f.atStage .bulk)
  | .ok () =>
    let loaded ← (a.insertBatch c table rows).attempt
    match ← (a.runAndCommit c disable).attempt with
    | .error _ => ExceptT.lift (a.engine.discard c)
    | .ok () => ExceptT.lift (a.engine.release c)
    Act.ofExcept loaded

/-- Inserts every row on one connection. Only what concerns the whole batch is a failure. -/
def bulkCreate (table : String) (rows : List Row) (identityInsert : Bool) : Act σ BulkResult :=
  if identityInsert then do
    let (enable, disable) ← Act.ofCompiled (a.identityToggles table)
    a.loadToggled enable disable table rows
  else a.loadPlain table rows

end Adapter

end RowFerry
