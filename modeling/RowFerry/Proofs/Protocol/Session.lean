import Mathlib.Data.List.Forall2
import RowFerry.Proofs.Protocol.Migration

/-!
The protocol of every operation of a session, and the calls of a session, one list an operation.
-/

namespace RowFerry

variable {σ κ α β : Type}

/-- A protocol whose result is given in another shape. -/
def Shaped (g : α → β) (P : List (Call κ) → Except Failure α → Prop) (calls : List (Call κ))
    (r : Except Failure β) : Prop :=
  ∃ r', P calls r' ∧ r = r'.map g

namespace Adapter

variable (a : Adapter σ κ)

/-- What an operation may call, and what it gives. -/
def Performs : Step σ → List (Call κ) → Except Failure StepResult → Prop
  | .openPool => Shaped (fun _ => .done) fun calls r => calls = [.openPool r]
  | .closePool => Shaped (fun _ => .done) (Succeeds fun calls (_ : Unit) => calls = [.closePool])
  | .isOpen => Shaped .isOpen (Succeeds fun calls _ => calls = [])
  | .create table row => Shaped .affected (Mutates .insert (a.compiler.create table row))
  | .update table criteria row =>
    Shaped .affected (Mutates .update (a.compiler.update table criteria row))
  | .delete table criteria => Shaped .affected (Mutates .delete (a.compiler.delete table criteria))
  | .find table criteria =>
    Shaped (.ofReading .rows) (Queries .select (a.compiler.find table criteria))
  | .count table criteria expression =>
    Shaped (.ofReading .count) (Counts (a.compiler.count table criteria expression))
  | .findAllAndCount table criteria =>
    Shaped (.ofReading .found) (FindsAndCounts (a.compiler.find table criteria)
      (a.compiler.count table criteria.unpaged none))
  | .native sql values =>
    Shaped (.ofReading .native)
      (BorrowsToRead (AtStage .native fun c => RunsNative c sql values))
  | .bulk table rows identityInsert => Shaped .loaded (a.Loads table rows identityInsert)
  | .migrate _ sourceTable targetTable o =>
    Shaped .migrated (Migrates (fun page => a.Loads targetTable page o.identityInsert) sourceTable
      o.pageLimit)

theorem perform_follows (step : Step σ) :
    Follows (a.traced.perform (step.traced κ)) (a.perform step) (a.Performs step) := by
  cases step with
  | openPool => exact (noted_follows a.engine.openPool fun r => [.openPool r]).shape _
  | closePool => exact (notedChange_follows a.engine.closePool .closePool).shape _
  | isOpen =>
    intro s
    exact ⟨[], ⟨.ok (a.engine.isOpen s), ⟨_, rfl, rfl⟩, rfl⟩, fun before => by
      rw [List.append_nil]; rfl⟩
  | create table row => exact (a.create_follows table row).shape _
  | update table criteria row => exact (a.update_follows table criteria row).shape _
  | delete table criteria => exact (a.delete_follows table criteria).shape _
  | find table criteria => exact (a.find_follows table criteria).shape _
  | count table criteria expression => exact (a.count_follows table criteria expression).shape _
  | findAllAndCount table criteria => exact (a.findAllAndCount_follows table criteria).shape _
  | native sql values => exact (a.native_follows sql values).shape _
  | bulk table rows identityInsert => exact (a.bulkCreate_follows table rows identityInsert).shape _
  | migrate connect sourceTable targetTable o =>
    exact (a.migrateFrom_follows connect sourceTable targetTable o).shape _

/-- The calls of an operation. -/
def stepCalls (step : Step σ) (s : σ) : List (Call κ) :=
  (a.traced.perform (step.traced κ)).callsFrom s

/-- The calls of a session. -/
def sessionCalls : List (Step σ) → σ → List (List (Call κ))
  | [], _ => []
  | step :: steps, s =>
    a.stepCalls step s :: sessionCalls steps ((a.perform step).runFrom s).2

theorem performAll_cons (step : Step σ) (steps : List (Step σ)) (s : σ) :
    (a.performAll (step :: steps)).run s =
      (((a.perform step).runFrom s).1 ::
          ((a.performAll steps).run ((a.perform step).runFrom s).2).1,
        ((a.performAll steps).run ((a.perform step).runFrom s).2).2) := rfl

/-- A session under a trace does what it does without one, and its calls are those of its operations
one after another. -/
theorem performAll_traced (steps : List (Step σ)) (s : σ) (before : List (Call κ)) :
    (a.traced.performAll (steps.map (Step.traced κ))).run ⟨s, before⟩ =
      (((a.performAll steps).run s).1,
        ⟨((a.performAll steps).run s).2, before ++ (a.sessionCalls steps s).flatten⟩) := by
  induction steps generalizing s before with
  | nil =>
    show ([], (⟨s, before⟩ : Traced σ κ)) = ([], ⟨s, before ++ []⟩)
    rw [List.append_nil]
  | cons step steps ih =>
    rw [List.map_cons, performAll_cons, performAll_cons,
      (a.perform_follows step).runFrom s before, ih, sessionCalls, List.flatten_cons,
      ← List.append_assoc]
    rfl

/-- What every operation keeps to in every state, every operation of a session keeps to. -/
theorem session_forall_steps {Law : Step σ → List (Call κ) → Except Failure StepResult → Prop}
    (h : ∀ step s, Law step (a.stepCalls step s) ((a.perform step).runFrom s).1)
    (steps : List (Step σ)) (s : σ) :
    List.Forall₂ (fun p calls => Law p.1 calls p.2) (steps.zip ((a.performAll steps).run s).1)
      (a.sessionCalls steps s) := by
  induction steps generalizing s with
  | nil => exact .nil
  | cons step steps ih =>
    rw [performAll_cons, List.zip_cons_cons]
    exact .cons (h step s) (ih _)

/-- What every operation keeps to, every operation of a session keeps to,
whatever came before it. -/
theorem session_forall {Law : Step σ → List (Call κ) → Except Failure StepResult → Prop}
    (h : ∀ step calls r, a.Performs step calls r → Law step calls r)
    (steps : List (Step σ)) (s : σ) :
    List.Forall₂ (fun p calls => Law p.1 calls p.2) (steps.zip ((a.performAll steps).run s).1)
      (a.sessionCalls steps s) :=
  a.session_forall_steps (fun step s => h _ _ _ ((a.perform_follows step).calls s)) steps s

/-- The same when the law is one of the calls alone. -/
theorem sessionCalls_forall {Law : Step σ → List (Call κ) → Prop}
    (h : ∀ step calls r, a.Performs step calls r → Law step calls) (steps : List (Step σ)) (s : σ) :
    List.Forall₂ Law steps (a.sessionCalls steps s) := by
  induction steps generalizing s with
  | nil => exact .nil
  | cons step steps ih => exact .cons (h _ _ _ ((a.perform_follows step).calls s)) (ih _)

end Adapter

end RowFerry
