import RowFerry.Proofs.Protocol.Session
import RowFerry.Proofs.Sql.Acceptance

/-!
What the compiler does not accept touches nothing. An operation whose statement cannot be compiled
fails with the cause, without a call on the engine and without a change of its state; and a
statement can be compiled exactly when its request is in the input language.
-/

namespace RowFerry

variable {σ κ α β : Type}

/-- The request that an operation compiles before anything else. A load compiles the switches of
identity insert if it uses them; its rows are compiled one by one, later. -/
def Step.request? : Step σ → Option Request
  | .create table row => some (.create table row)
  | .update table criteria row => some (.update table criteria row)
  | .delete table criteria => some (.delete table criteria)
  | .find table criteria | .findAllAndCount table criteria => some (.find table criteria)
  | .count table criteria _ => some (.count table criteria)
  | .bulk table _ true => some (.identityInsert table true)
  | _ => none

/-! ## Why a request is refused -/

/-- The expression of a count plays no part in why it is refused. -/
theorem Compiler.count_error {c : Compiler} {table : String} {criteria : Criteria}
    {e : CompileError} (h : c.count table criteria none = .error e) (expression : Option String) :
    c.count table criteria expression = .error e := by
  obtain ⟨total, -, hcount⟩ := c.count_total
  have hlist (t : String) :
    ((c.resolveSelect table criteria (.expression t)).map Select.statement).map
      (fun _ => ()) = (c.resolveSelect table criteria (.expression "")).map fun _ => () := by
    have hmap {γ δ : Type} (x : Except CompileError γ) (f : γ → δ) :
        (x.map f).map (fun _ => ()) = x.map fun _ => () := by
      cases x <;> rfl
    rw [hmap]
    simp only [resolveSelect, map_of_bind]
    rfl
  have hsame : (c.count table criteria expression).map (fun _ => ()) = .error e := by
    rw [hcount, hlist, ← hlist, ← hcount, h]
    rfl
  cases hresult : c.count table criteria expression with
  | ok s =>
    rw [hresult] at hsame
    cases hsame
  | error e' =>
    rw [hresult] at hsame
    cases hsame
    rfl

/-- What is refused is refused for a cause. -/
theorem Compiler.exists_error_of_not_accepts {c : Compiler} {request : Request}
    (h : ¬ c.Accepts request) : ∃ e, c.compile request = .error e := by
  cases hcompile : c.compile request with
  | error e => exact ⟨e, rfl⟩
  | ok s => exact absurd ((c.exists_compile_iff request).mp ⟨s, hcompile⟩) h

/-! ## Operations that are refused -/

theorem Act.ofCompiled_rejected {compiled : Except CompileError β} {e : CompileError}
    (h : compiled = .error e) (next : β → Act σ α) (s : σ) :
    (Act.ofCompiled compiled >>= next).runFrom s = (.error (.compile e), s) := by
  rw [h]
  exact Act.runFrom_bind_error rfl

theorem Step.request?_traced (κ : Type) (step : Step σ) :
    (step.traced κ).request? = step.request? := by
  cases step with
  | bulk _ _ identityInsert => cases identityInsert <;> rfl
  | _ => rfl

namespace Adapter

variable (a : Adapter σ κ)

/-- Both switches of a table that is refused are. -/
theorem identityToggles_rejected {table : String} {enabled : Bool} {e : CompileError}
    (h : a.compiler.compile (.identityInsert table enabled) = .error e) :
    a.identityToggles table = .error e := by
  have htable : a.compiler.table table = .error e := by
    cases hname : a.compiler.table table with
    | ok name =>
      simp only [Compiler.compile, Compiler.identityInsert, hname] at h
      cases h
    | error e' =>
      simp only [Compiler.compile, Compiler.identityInsert, hname] at h
      cases h
      rfl
  simp only [identityToggles, Compiler.identityInsert, htable]
  rfl

/-- An operation whose request is refused gives the cause and leaves the state as it was. -/
theorem perform_rejected {step : Step σ} {request : Request} (hstep : step.request? = some request)
    {e : CompileError} (he : a.compiler.compile request = .error e) (s : σ) :
    (a.perform step).runFrom s = (.error (.compile e), s) := by
  cases step with
  | create | update | delete | find =>
    obtain rfl := Option.some.inj hstep
    exact Act.runFrom_bind_error (Act.ofCompiled_rejected he _ s)
  | count =>
    obtain rfl := Option.some.inj hstep
    exact Act.runFrom_bind_error (Act.ofCompiled_rejected (Compiler.count_error he _) _ s)
  | findAllAndCount =>
    obtain rfl := Option.some.inj hstep
    exact Act.runFrom_bind_error (Act.runFrom_bind_error (Act.ofCompiled_rejected he _ s))
  | bulk table rows identityInsert =>
    cases identityInsert with
    | false => cases hstep
    | true =>
      obtain rfl := Option.some.inj hstep
      exact Act.runFrom_bind_error (Act.ofCompiled_rejected (a.identityToggles_rejected he) _ s)
  | openPool | closePool | isOpen | native | migrate => cases hstep

/-- An operation whose request is not in the input language fails with the cause, without a call. -/
def RejectionLaw (step : Step σ) (calls : List (Call κ)) (r : Except Failure StepResult) : Prop :=
  ∀ request, step.request? = some request → ¬ a.compiler.Accepts request →
    calls = [] ∧ ∃ e, a.compiler.compile request = .error e ∧ r = .error (.compile e)

/-- Under a trace the calls are part of the state, so there are none. -/
theorem perform_rejectionLaw (step : Step σ) (s : σ) :
    a.RejectionLaw step (a.stepCalls step s) ((a.perform step).runFrom s).1 := by
  intro request hstep hrejected
  obtain ⟨e, he⟩ := Compiler.exists_error_of_not_accepts hrejected
  have htraced := a.traced.perform_rejected ((step.request?_traced κ).trans hstep) he (.start s)
  refine ⟨?_, e, he, ?_⟩
  · rw [stepCalls, Act.callsFrom, htraced]
    rfl
  · rw [a.perform_rejected hstep he]

/-- **What is compiled is exactly the input language, and what is not touches nothing.** A request
compiles exactly when it is accepted, and a count whatever it lists when its query is. In every
session each operation whose request is not accepted makes no call at all, gives the cause, and
leaves the state as it was. -/
theorem rejected_before_pool :
    (∀ (c : Compiler) (request : Request), (∃ s, c.compile request = .ok s) ↔ c.Accepts request) ∧
      (∀ (c : Compiler) (table : String) (criteria : Criteria) (expression : Option String),
        (∃ s, c.count table criteria expression = .ok s) ↔ c.Accepts (.count table criteria)) ∧
      (∀ (steps : List (Step σ)) (s : σ),
        List.Forall₂ (fun p calls => a.RejectionLaw p.1 calls p.2)
          (steps.zip ((a.performAll steps).run s).1) (a.sessionCalls steps s)) ∧
      ∀ (step : Step σ) (request : Request) (s : σ), step.request? = some request →
        ¬ a.compiler.Accepts request → ((a.perform step).runFrom s).2 = s := by
  refine ⟨fun c => c.exists_compile_iff, fun c table criteria expression =>
    Compiler.exists_count_iff, a.session_forall_steps a.perform_rejectionLaw,
      fun step request s hstep hrejected => ?_⟩
  obtain ⟨e, he⟩ := Compiler.exists_error_of_not_accepts hrejected
  rw [a.perform_rejected hstep he]

end Adapter

end RowFerry
