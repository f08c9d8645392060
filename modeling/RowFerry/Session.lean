import RowFerry.Adapter.Migration

/-!
Sessions: operations on one adapter, one after another.
-/

namespace RowFerry

/-- An operation of a session. -/
inductive Step (σ : Type) where
  | openPool
  | closePool
  | isOpen
  | create (table : String) (row : Row)
  | update (table : String) (criteria : Criteria) (row : Row)
  | delete (table : String) (criteria : Criteria)
  | find (table : String) (criteria : Criteria)
  | count (table : String) (criteria : Criteria) (expression : Option String)
  | findAllAndCount (table : String) (criteria : Criteria)
  | native (sql : String) (values : List Value)
  | bulk (table : String) (rows : List Row) (identityInsert : Bool)
  | migrate (connect : Act σ (RowSource σ)) (sourceTable targetTable : String)
      (options : MigrationOptions)

/-- What an operation comes to unless it fails. One that has `crashed` did not return at all. -/
inductive StepResult where
  | crashed
  | done
  | isOpen (answer : Bool)
  | affected (count : Nat)
  | rows (rows : List Row)
  | count (total : Nat)
  | found (result : FindResult)
  | native (result : NativeResult)
  | loaded (result : BulkResult)
  | migrated (summary : MigrationSummary)
  deriving Repr, DecidableEq

/-- What an operation that reads comes to. -/
def StepResult.ofReading {α : Type} (g : α → StepResult) : Option α → StepResult
  | none => crashed
  | some x => g x

namespace Adapter

variable {σ κ : Type} (a : Adapter σ κ)

/-- Performs an operation. -/
def perform : Step σ → Act σ StepResult
  | .openPool => do
    a.engine.openPool
    pure .done
  | .closePool => do
    ExceptT.lift a.engine.closePool
    pure .done
  | .isOpen => do
    let s ← get
    pure (.isOpen (a.engine.isOpen s))
  | .create table row => do
    let n ← a.create table row
    pure (.affected n)
  | .update table criteria row => do
    let n ← a.update table criteria row
    pure (.affected n)
  | .delete table criteria => do
    let n ← a.delete table criteria
    pure (.affected n)
  | .find table criteria => do
    let rows ← a.find table criteria
    pure (.ofReading .rows rows)
  | .count table criteria expression => do
    let n ← a.count table criteria expression
    pure (.ofReading .count n)
  | .findAllAndCount table criteria => do
    let r ← a.findAllAndCount table criteria
    pure (.ofReading .found r)
  | .native sql values => do
    let r ← a.native sql values
    pure (.ofReading .native r)
  | .bulk table rows identityInsert => do
    let r ← a.bulkCreate table rows identityInsert
    pure (.loaded r)
  | .migrate connect sourceTable targetTable options => do
    let s ← a.migrateFrom connect sourceTable targetTable options
    pure (.migrated s)

/-- Performs operations one after another, whichever of them fail or crash: the caller may outlive a
crash. -/
def performAll : List (Step σ) → StateM σ (List (Except Failure StepResult))
  | [] => pure []
  | step :: steps => do
    let result ← (a.perform step).run
    let results ← performAll steps
    pure (result :: results)

end Adapter

end RowFerry
