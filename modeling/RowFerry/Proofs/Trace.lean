import RowFerry.Proofs.Sequences
import RowFerry.Session

/-!
Traces. A traced engine answers as the engine beneath it and keeps the calls that were made on it,
so what is said of the calls is said under every pattern of answers. `Follows` is the judgement
about a computation over a traced state: it does what the same computation does without a trace, and
the calls that it makes fit its result.
-/

namespace RowFerry

/-- A call on an engine or on a source, with its answer. `load` ends the loading of a page. -/
inductive Call (κ : Type) where
  | openPool (answer : Except Failure Unit)
  | closePool
  | acquire (answer : Except Failure κ)
  | release (c : κ)
  | discard (c : κ)
  | execute (c : κ) (sql : String) (values : List Value) (answer : Except Failure Outcome)
  | commit (c : κ) (answer : Except Failure Unit)
  | cursor (call : CursorCall)
  | select (request : PageRequest)
  | load (page : List Row) (answer : Except Failure BulkResult)

/-- A state with the calls made so far, the first one first. -/
structure Traced (σ κ : Type) where
  state : σ
  calls : List (Call κ)

/-- A state before any call. -/
def Traced.start {σ κ : Type} (s : σ) : Traced σ κ := ⟨s, []⟩

/-- What a computation gives from a state: its result and the state after it. -/
def Act.runFrom {σ α : Type} (act : Act σ α) (s : σ) : Except Failure α × σ := act s

namespace Act

variable {σ κ α β : Type}

theorem runFrom_bind_ok {act : Act σ α} {next : α → Act σ β} {s s' : σ} {x : α}
    (h : act.runFrom s = (.ok x, s')) : (act >>= next).runFrom s = (next x).runFrom s' :=
  run_bind_ok h

theorem runFrom_bind_error {act : Act σ α} {next : α → Act σ β} {s s' : σ} {f : Failure}
    (h : act.runFrom s = (.error f, s')) : (act >>= next).runFrom s = (.error f, s') :=
  run_bind_error h

theorem runFrom_lift_bind (step : StateM σ α) (next : α → Act σ β) (s : σ) :
    runFrom (ExceptT.lift step >>= next) s = (next (step s).1).runFrom (step s).2 :=
  runFrom_bind_ok rfl

/-- A failure that is looked at does not stop what comes next. -/
theorem runFrom_attempt_bind (act : Act σ α) (next : Except Failure α → Act σ β) (s : σ) :
    (act.attempt >>= next).runFrom s = (next (act.runFrom s).1).runFrom (act.runFrom s).2 :=
  runFrom_bind_ok rfl

theorem runFrom_result (act : Act σ α) (g : α → Except Failure β) (s : σ) :
    ((act >>= fun x => ofExcept (g x)).runFrom s).1 = (act.runFrom s).1.bind g := by
  cases hr : act.runFrom s with
  | mk r s' =>
    cases r with
    | ok x =>
      rw [runFrom_bind_ok hr]
      rfl
    | error f => rw [runFrom_bind_error hr, Except.bind]

/-- A computation under a trace, which notes the calls that its result tells. -/
def noted (act : Act σ α) (calls : Except Failure α → List (Call κ)) : Act (Traced σ κ) α :=
  fun t =>
  ((act.runFrom t.state).1, ⟨(act.runFrom t.state).2, t.calls ++ calls (act.runFrom t.state).1⟩)

end Act

/-- The calls that a computation makes from a state. -/
def Act.callsFrom {σ κ α : Type} (act : Act (Traced σ κ) α) (s : σ) : List (Call κ) :=
  (act.runFrom (.start s)).2.calls

/-- A change of the state under a trace, which notes one call. -/
def notedChange {σ κ : Type} (change : StateM σ Unit) (call : Call κ) : StateM (Traced σ κ) Unit :=
  fun t => ((), ⟨(change t.state).2, t.calls ++ [call]⟩)

/-- The engine that keeps the calls made on it. -/
def Engine.traced {σ κ : Type} (e : Engine σ κ) : Engine (Traced σ κ) κ where
  openPool := e.openPool.noted fun r => [.openPool r]
  isOpen t := e.isOpen t.state
  closePool := notedChange e.closePool .closePool
  acquire := e.acquire.noted fun r => [.acquire r]
  release c := notedChange (e.release c) (.release c)
  discard c := notedChange (e.discard c) (.discard c)
  execute c sql values := (e.execute c sql values).noted fun r => [.execute c sql values r]
  commit c := (e.commit c).noted fun r => [.commit c r]
  hear call t := ⟨e.hear call t.state, t.calls ++ [.cursor call]⟩

/-- The adapter over the engine that keeps its calls. -/
def Adapter.traced {σ κ : Type} (a : Adapter σ κ) : Adapter (Traced σ κ) κ :=
  ⟨a.engine.traced, a.compiler⟩

/-- The source that keeps its requests. -/
def RowSource.traced {σ : Type} (κ : Type) (source : RowSource σ) : RowSource (Traced σ κ) where
  answers := source.answers
  hear request t := ⟨source.hear request t.state, t.calls ++ [.select request]⟩

/-- The same operation under a trace. Connecting to a source calls no engine. -/
def Step.traced {σ : Type} (κ : Type) : Step σ → Step (Traced σ κ)
  | .openPool => .openPool
  | .closePool => .closePool
  | .isOpen => .isOpen
  | .create table row => .create table row
  | .update table criteria row => .update table criteria row
  | .delete table criteria => .delete table criteria
  | .find table criteria => .find table criteria
  | .count table criteria expression => .count table criteria expression
  | .findAllAndCount table criteria => .findAllAndCount table criteria
  | .native sql values => .native sql values
  | .bulk table rows identityInsert => .bulk table rows identityInsert
  | .migrate connect sourceTable targetTable options =>
    .migrate (RowSource.traced κ <$> connect.noted fun _ => []) sourceTable targetTable options

/-! ## The judgement -/

section Judgement

variable {σ κ α β : Type}

/-- The traced computation gives the result and the state of the plain one, and the calls that it
makes, whatever was made before, fit the result. -/
def Follows (traced : Act (Traced σ κ) α) (plain : Act σ α)
    (Q : List (Call κ) → Except Failure α → Prop) : Prop :=
  ∀ s : σ, ∃ calls, Q calls (plain.runFrom s).1 ∧ ∀ before,
    traced.runFrom ⟨s, before⟩ = ((plain.runFrom s).1, ⟨(plain.runFrom s).2, before ++ calls⟩)

theorem Follows.mono {traced : Act (Traced σ κ) α} {plain : Act σ α}
    {P Q : List (Call κ) → Except Failure α → Prop} (h : Follows traced plain P)
    (hPQ : ∀ calls r, P calls r → Q calls r) : Follows traced plain Q := by
  intro s
  obtain ⟨calls, hp, ht⟩ := h s
  exact ⟨calls, hPQ _ _ hp, ht⟩

theorem Follows.calls {traced : Act (Traced σ κ) α} {plain : Act σ α}
    {Q : List (Call κ) → Except Failure α → Prop} (h : Follows traced plain Q) (s : σ) :
    Q (traced.callsFrom s) (plain.runFrom s).1 := by
  obtain ⟨calls, hq, ht⟩ := h s
  rw [Act.callsFrom, Traced.start, ht]
  exact hq

/-- A trace neither changes what a computation does nor depends on what was done before. -/
theorem Follows.runFrom {traced : Act (Traced σ κ) α} {plain : Act σ α}
    {Q : List (Call κ) → Except Failure α → Prop} (h : Follows traced plain Q) (s : σ)
    (before : List (Call κ)) :
    traced.runFrom ⟨s, before⟩ =
      ((plain.runFrom s).1, ⟨(plain.runFrom s).2, before ++ traced.callsFrom s⟩) := by
  obtain ⟨calls, _, ht⟩ := h s
  rw [Act.callsFrom, Traced.start, ht, ht]
  rfl

theorem ofExcept_follows (r : Except Failure α) :
    Follows (κ := κ) (Act.ofExcept r)
    (Act.ofExcept r : Act σ α) (fun calls r' => calls = [] ∧ r' = r) :=
  fun _ => ⟨[], ⟨rfl, rfl⟩, fun before => by rw [List.append_nil]; rfl⟩

theorem pure_follows (x : α) :
    Follows (κ := κ) (pure x) (pure x : Act σ α) (fun calls r => calls = [] ∧ r = .ok x) :=
  ofExcept_follows (.ok x)

theorem throw_follows (f : Failure) :
    Follows (κ := κ) (throw f) (throw f : Act σ α) (fun calls r => calls = [] ∧ r = .error f) :=
  ofExcept_follows (.error f)

/-- In a sequence the calls of the second part come after those of the first, and a failure of the
first part is the failure of the whole. -/
theorem Follows.bind {traced : Act (Traced σ κ) α} {plain : Act σ α}
    {tracedNext : α → Act (Traced σ κ) β} {plainNext : α → Act σ β}
    {P : List (Call κ) → Except Failure α → Prop} {Q : List (Call κ) → Except Failure β → Prop}
    (h : Follows traced plain P)
    (hnext : ∀ x calls, P calls (.ok x) →
      Follows (tracedNext x) (plainNext x) fun more r => Q (calls ++ more) r)
    (hfail : ∀ f calls, P calls (.error f) → Q calls (.error f)) :
    Follows (traced >>= tracedNext) (plain >>= plainNext) Q := by
  intro s
  obtain ⟨calls, hp, ht⟩ := h s
  cases hr : plain.runFrom s with
  | mk r s' =>
    rw [hr] at hp ht
    cases r with
    | error f =>
      rw [Act.runFrom_bind_error hr]
      exact ⟨calls, hfail f calls hp, fun before => Act.runFrom_bind_error (ht before)⟩
    | ok x =>
      rw [Act.runFrom_bind_ok hr]
      obtain ⟨more, hq, hn⟩ := hnext x calls hp s'
      refine ⟨calls ++ more, hq, fun before => ?_⟩
      rw [Act.runFrom_bind_ok (ht before), hn, List.append_assoc]

/-- The calls and the result of a computation that does not fail. -/
def Succeeds (P : List (Call κ) → α → Prop) (calls : List (Call κ)) (r : Except Failure α) : Prop :=
  ∃ x, r = .ok x ∧ P calls x

theorem Follows.bindOk {traced : Act (Traced σ κ) α} {plain : Act σ α}
    {tracedNext : α → Act (Traced σ κ) β} {plainNext : α → Act σ β} {P : List (Call κ) → α → Prop}
    {Q : List (Call κ) → Except Failure β → Prop} (h : Follows traced plain (Succeeds P))
    (hnext : ∀ x calls, P calls x →
      Follows (tracedNext x) (plainNext x) fun more r => Q (calls ++ more) r) :
    Follows (traced >>= tracedNext) (plain >>= plainNext) Q := by
  refine h.bind ?_ ?_
  · rintro x calls ⟨_, hx, hp⟩
    cases hx
    exact hnext x calls hp
  · rintro f calls ⟨_, hf, _⟩
    cases hf

/-- A computation whose failure is looked at makes the calls of the computation. -/
theorem Follows.attempt {traced : Act (Traced σ κ) α} {plain : Act σ α}
    {P : List (Call κ) → Except Failure α → Prop} (h : Follows traced plain P) :
    Follows traced.attempt plain.attempt (Succeeds P) := by
  intro s
  obtain ⟨calls, hp, ht⟩ := h s
  refine ⟨calls, ⟨_, rfl, hp⟩, fun before => ?_⟩
  change (Except.ok (traced.runFrom ⟨s, before⟩).1, (traced.runFrom ⟨s, before⟩).2) = _
  rw [ht]
  rfl

theorem noted_follows (act : Act σ α) (calls : Except Failure α → List (Call κ)) :
    Follows (act.noted calls) act (fun made r => made = calls r) :=
  fun _ => ⟨_, rfl, fun _ => rfl⟩

theorem notedChange_follows (change : StateM σ Unit) (call : Call κ) :
    Follows (ExceptT.lift (notedChange change call)) (ExceptT.lift change)
      (Succeeds fun calls _ => calls = [call]) :=
  fun _ => ⟨[call], ⟨(), rfl, rfl⟩, fun _ => rfl⟩

theorem change_follows (f : σ → σ) (calls : List (Call κ)) :
    Follows (Act.change fun t => ⟨f t.state, t.calls ++ calls⟩) (Act.change f)
      (Succeeds fun made _ => made = calls) :=
  fun _ => ⟨calls, ⟨(), rfl, rfl⟩, fun _ => rfl⟩

/-- The last part of a sequence decides the result without a call. -/
theorem Follows.result {traced : Act (Traced σ κ) α} {plain : Act σ α}
    {P : List (Call κ) → Except Failure α → Prop} (h : Follows traced plain P)
    (g : α → Except Failure β) :
    Follows (traced >>= fun x => Act.ofExcept (g x)) (plain >>= fun x => Act.ofExcept (g x))
      (fun calls r => ∃ r', P calls r' ∧ r = r'.bind g) := by
  refine h.bind (fun x calls hp => (ofExcept_follows (g x)).mono ?_) fun f calls hp => ⟨_, hp, rfl⟩
  rintro _ _ ⟨rfl, rfl⟩
  exact ⟨.ok x, by rwa [List.append_nil], rfl⟩

/-- The last part of a sequence only changes the shape of the result. -/
theorem Follows.shape {traced : Act (Traced σ κ) α} {plain : Act σ α}
    {P : List (Call κ) → Except Failure α → Prop} (h : Follows traced plain P) (g : α → β) :
    Follows (traced >>= fun x => pure (g x)) (plain >>= fun x => pure (g x))
      (fun calls r => ∃ r', P calls r' ∧ r = r'.map g) := by
  refine (h.result fun x => .ok (g x)).mono ?_
  rintro calls _ ⟨r, hp, rfl⟩
  exact ⟨r, hp, by cases r <;> rfl⟩

/-- After a first part that succeeds come the calls of the second, from the state
where the first ended. -/
theorem Follows.callsFrom_bind {traced : Act (Traced σ κ) α} {plain : Act σ α}
    {tracedNext : α → Act (Traced σ κ) β} {next : Act σ β}
    {P : List (Call κ) → Except Failure α → Prop} {Q : List (Call κ) → Except Failure β → Prop}
    (h : Follows traced plain P) {s s' : σ} {x : α} (hx : plain.runFrom s = (.ok x, s'))
    (hnext : Follows (tracedNext x) next Q) :
    (traced >>= tracedNext).callsFrom s = traced.callsFrom s ++ (tracedNext x).callsFrom s' := by
  have hfirst := h.runFrom s []
  rw [hx, List.nil_append] at hfirst
  rw [Act.callsFrom, Traced.start, Act.runFrom_bind_ok hfirst, hnext.runFrom]

/-- Deciding the result at the end makes no call. -/
theorem Follows.callsFrom_result {traced : Act (Traced σ κ) α} {plain : Act σ α}
    {P : List (Call κ) → Except Failure α → Prop} (h : Follows traced plain P)
    (g : α → Except Failure β) (s : σ) :
    (traced >>= fun x => Act.ofExcept (g x)).callsFrom s = traced.callsFrom s := by
  cases hr : plain.runFrom s with
  | mk r s' =>
    cases r with
    | ok x =>
      rw [h.callsFrom_bind hr (ofExcept_follows (g x)), ((ofExcept_follows (g x)).calls s').1,
        List.append_nil]
    | error f =>
      have hfirst := h.runFrom s []
      rw [hr, List.nil_append] at hfirst
      rw [Act.callsFrom, Traced.start, Act.runFrom_bind_error hfirst]

/-- A call that is made whether or not a computation failed comes after its calls. -/
theorem Follows.closing {traced : Act (Traced σ κ) α} {plain : Act σ α}
    {P : List (Call κ) → Except Failure α → Prop} (h : Follows traced plain P)
    (change : StateM σ Unit) (call : Call κ) (g : Except Failure α → Except Failure β) :
    Follows
      (do
        let r ← traced.attempt
        ExceptT.lift (notedChange change call)
        Act.ofExcept (g r))
      (do
        let r ← plain.attempt
        ExceptT.lift change
        Act.ofExcept (g r))
      (fun calls r => ∃ made r', P made r' ∧ calls = made ++ [call] ∧ r = g r') := by
  refine h.attempt.bindOk fun r calls hp => ?_
  refine (notedChange_follows change call).bindOk ?_
  rintro _ _ rfl
  refine (ofExcept_follows (g r)).mono ?_
  rintro _ _ ⟨rfl, rfl⟩
  exact ⟨calls, r, hp, rfl, rfl⟩

end Judgement

/-! ## Calls on the engine -/

section Calls

variable {σ κ : Type} (e : Engine σ κ)

theorem acquire_follows :
    Follows e.traced.acquire e.acquire (fun calls r => calls = [.acquire r]) :=
  noted_follows e.acquire fun r => [.acquire r]

theorem execute_follows (c : κ) (sql : String) (values : List Value) :
    Follows (e.traced.execute c sql values) (e.execute c sql values)
      (fun calls r => calls = [.execute c sql values r]) :=
  noted_follows (e.execute c sql values) fun r => [.execute c sql values r]

theorem commit_follows (c : κ) :
    Follows (e.traced.commit c) (e.commit c) (fun calls r => calls = [.commit c r]) :=
  noted_follows (e.commit c) fun r => [.commit c r]

theorem foldl_hear (calls : List CursorCall) (t : Traced σ κ) :
    calls.foldl (fun t call => e.traced.hear call t) t =
      ⟨calls.foldl (fun s call => e.hear call s) t.state, t.calls ++ calls.map .cursor⟩ := by
  induction calls generalizing t with
  | nil => simp
  | cons call calls ih =>
    rw [List.foldl_cons, ih]
    simp [Engine.traced]

theorem hearAll_follows (calls : List CursorCall) :
    Follows (e.traced.hearAll calls) (e.hearAll calls)
      (Succeeds fun made _ => made = calls.map .cursor) := by
  have h : e.traced.hearAll calls = Act.change fun t : Traced σ κ =>
      ⟨calls.foldl (fun s call => e.hear call s) t.state, t.calls ++ calls.map .cursor⟩ :=
    congrArg Act.change (funext (foldl_hear e calls))
  rw [h]
  exact change_follows _ _

end Calls

end RowFerry
