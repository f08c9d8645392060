import RowFerry.Proofs.Durability

/-!
Success means committed, and only changes commit. A change that succeeds was executed once and then
committed once before its connection went back; a change that is refused is not committed; reads
commit nothing; the rows of a load that succeeds are committed before its connection goes back; and
a result set that comes from a change is closed at once.
-/

namespace RowFerry

variable {σ κ α : Type}

/-! ## What is said of the calls of an operation -/

/-- One connection is acquired, the statement is executed on it once and committed once, both with
success, and the connection is released. -/
def CommittedOnce (sql : String) (values : List Value) (calls : List (Call κ)) : Prop :=
  ∃ c o, calls = .acquire (.ok c) :: .execute c sql values (.ok o) ::
    (o.closing ++ [.commit c (.ok ()), .release c])

/-- Nothing is committed, and no commit is attempted. -/
def NoCommit (calls : List (Call κ)) : Prop := ∀ c r, .commit c r ∉ calls

/-- The engine refuses to execute a statement. -/
def ExecuteRefused (calls : List (Call κ)) : Prop :=
  ∃ c sql values f, .execute c sql values (.error f) ∈ calls

/-- The engine answers a statement with a result set. -/
def YieldsRows (calls : List (Call κ)) : Prop :=
  ∃ c sql values cursor, .execute c sql values (.ok (.rows cursor)) ∈ calls

/-- Does the call hand out a result set, or is it a call on one? -/
def Call.OnResultSet : Call κ → Prop
  | execute _ _ _ (.ok (.rows _)) => True
  | cursor _ => True
  | _ => False

/-- Every result set is closed by the call after the one that handed it out, and there are no other
calls on result sets. -/
inductive Settled : List (Call κ) → Prop
  | nil : Settled []
  | other {call : Call κ} {rest : List (Call κ)} (h : ¬ call.OnResultSet) (hrest : Settled rest) :
    Settled (call :: rest)
  | closed {c : κ} {sql : String} {values : List Value} {cursor : Cursor} {rest : List (Call κ)}
    (hrest : Settled rest) :
    Settled (.execute c sql values (.ok (.rows cursor)) :: .cursor .close :: rest)

/-- A change succeeds only when its statement was executed and committed, once each; it commits
nothing when its statement is refused; and it closes a result set. -/
structure ChangeLaw (compiled : Except CompileError Statement) (calls : List (Call κ))
    (r : Except Failure Nat) : Prop where
  committed : ∀ n, r = .ok n → ∃ s, compiled = .ok s ∧ CommittedOnce s.sql s.values calls
  refused : ExecuteRefused calls → NoCommit calls
  settled : Settled calls

/-- A statement of the caller is committed like a change when it affects rows, and not at all when
it is refused or has a result set. -/
structure NativeLaw (sql : String) (values : List Value) (calls : List (Call κ))
    (r : Except Failure (Option NativeResult)) : Prop where
  committed : ∀ n, r = .ok (some (.affected n)) → CommittedOnce sql values calls
  refused : ExecuteRefused calls → NoCommit calls
  yields : YieldsRows calls → NoCommit calls
  rows : ∀ rs, r = .ok (some (.rows rs)) → NoCommit calls

/-- After every row of a load that succeeds, wherever it was inserted, a commit succeeds on the same
connection before the connection goes back; and every result set is closed. -/
structure LoadLaw (compile : Row → Except CompileError Statement) (rows : List Row)
    (calls : List (Call κ)) (r : Except Failure BulkResult) : Prop where
  committed : ∀ result, r = .ok result → ∀ row ∈ rows, ∀ s, compile row = .ok s →
    ∀ c o before after, calls = before ++ .execute c s.sql s.values (.ok o) :: after →
      ∃ middle rest, after = middle ++ .commit c (.ok ()) :: rest ∧
        ∀ d, .release d ∉ middle ∧ .discard d ∉ middle
  settled : Settled calls

namespace Adapter

variable (a : Adapter σ κ)

/-- What every operation keeps to. A migration loads its pages one after another, each as a load of
its own; whatever is neither a change nor a load commits nothing. -/
def CommitLaw : Step σ → List (Call κ) → Except Failure StepResult → Prop
  | .create table row => Shaped .affected (ChangeLaw (a.compiler.create table row))
  | .update table criteria row =>
    Shaped .affected (ChangeLaw (a.compiler.update table criteria row))
  | .delete table criteria => Shaped .affected (ChangeLaw (a.compiler.delete table criteria))
  | .native sql values => Shaped (.ofReading .native) (NativeLaw sql values)
  | .bulk table rows _ => Shaped .loaded (LoadLaw (a.compiler.create table) rows)
  | .migrate _ sourceTable targetTable o =>
    Shaped .migrated (Migrates (LoadLaw (a.compiler.create targetTable)) sourceTable o.pageLimit)
  | _ => fun calls _ => NoCommit calls

end Adapter

/-! ## Result sets -/

theorem Settled.append {xs ys : List (Call κ)} (hx : Settled xs) (hy : Settled ys) :
    Settled (xs ++ ys) := by
  induction hx with
  | nil => exact hy
  | other h _ ih => exact .other h ih
  | closed _ ih => exact .closed ih

/-- The outcome of a statement is settled before anything else is called. -/
theorem settled_executed (c : κ) (sql : String) (values : List Value) (o : Outcome)
    {rest : List (Call κ)} (hrest : Settled rest) :
    Settled (.execute c sql values (.ok o) :: (o.closing ++ rest)) := by
  cases o with
  | affected n => exact .other id hrest
  | rows cursor => exact .closed hrest

theorem changes_settled {c : κ} {sql : String} {values : List Value} {calls : List (Call κ)}
    {r : Except Failure Nat} (h : Changes c sql values calls r) : Settled calls := by
  cases h with
  | refused f => exact .other id .nil
  | executed o r => exact settled_executed c sql values o (.other id .nil)

theorem switches_settled {c : κ} {sql : String} {calls : List (Call κ)} {r : Except Failure Unit}
    (h : Switches c sql calls r) : Settled calls := by
  obtain ⟨r', hr, -⟩ := h
  exact changes_settled hr

theorem insertsRows_settled {c : κ}
    {compile : Row → Except CompileError Statement} {rows : List Row} {calls : List (Call κ)}
    {result : BulkResult} (h : InsertsRows c compile rows calls result) :
    Settled calls := by
  induction h with
  | nil => exact .nil
  | cons h _ ih =>
    refine Settled.append ?_ ih
    cases h with
    | rejected _ => exact .nil
    | refused _ f => exact .other id .nil
    | @inserted s _ o => simpa using settled_executed c s.sql s.values o .nil

theorem loadsBatch_settled {c : κ} {compile : Row → Except CompileError Statement} {rows : List Row}
    {calls : List (Call κ)} {r : Except Failure BulkResult}
    (h : LoadsBatch compile rows c calls r) :
    Settled calls := by
  cases h with
  | mk h r => exact (insertsRows_settled h).append (.other id .nil)

/-- A connection that is acquired, used and given back adds no call on a result set. -/
theorem settled_exchange {c : κ} {calls : List (Call κ)} {last : Call κ} (h : Settled calls)
    (hlast : last = .release c ∨ last = .discard c) :
    Settled (.acquire (.ok c) :: (calls ++ [last])) := by
  refine .other id (h.append (.other ?_ .nil))
  rcases hlast with rfl | rfl <;> exact id

/-! ## Changes -/

theorem changes_law {stage : Stage} {s : Statement} {calls : List (Call κ)} {r : Except Failure Nat}
    (h : Borrows (AtStage stage fun c => Changes c s.sql s.values) calls r) :
    ChangeLaw (.ok s) calls r := by
  cases h with
  | refused f => exact ⟨nofun, fun _ c r => by simp, .other id .nil⟩
  | @returned c calls _ h =>
    obtain ⟨r, h, rfl⟩ := h
    have hsettled : Settled (.acquire (.ok c) :: (calls ++ [.release c])) :=
      settled_exchange (changes_settled h) (.inl rfl)
    cases h with
    | refused f => exact ⟨nofun, fun _ d r => by simp, hsettled⟩
    | executed o r =>
      refine ⟨fun n hn => ⟨s, rfl, c, o, ?_⟩, ?_, hsettled⟩
      · cases r with
        | error f => cases hn
        | ok u => simp
      · rintro ⟨d, sql, values, f, hmem⟩
        cases o <;> simp [Outcome.closing] at hmem

theorem mutates_law {stage : Stage} {compiled : Except CompileError Statement}
    {calls : List (Call κ)} {r : Except Failure Nat} (h : Adapter.Mutates stage compiled calls r) :
    ChangeLaw compiled calls r := by
  cases h with
  | rejected hrejected => exact ⟨nofun, fun _ _ _ => List.not_mem_nil, .nil⟩
  | accepted hcompiled h =>
    rw [hcompiled]
    exact changes_law h

/-! ## Reads -/

/-- A statement that is executed and whose result set is read is not committed by that. -/
theorem reading_noCommit (c : κ) (sql : String) (values : List Value)
    (answer : Except Failure Outcome) (calls : List CursorCall) :
    NoCommit (.execute c sql values answer :: calls.map .cursor) := by
  intro d r hmem
  rcases List.mem_cons.mp hmem with hmem | hmem
  · cases hmem
  · obtain ⟨call, -, hcall⟩ := List.mem_map.mp hmem
    cases hcall

/-- A result set that is read is not committed either. -/
theorem collects_noCommit (c : κ) (sql : String) (values : List Value) {cursor : Cursor}
    {calls : List (Call κ)} {r : Except Failure (Option (List Row))} (h : Collects cursor calls r) :
    NoCommit (.execute c sql values (.ok (.rows cursor)) :: calls) := by
  obtain ⟨heard, rfl⟩ := h.calls
  exact reading_noCommit c sql values (.ok (.rows cursor)) heard

/-- A connection that is acquired, used without commits and released, or not, commits nothing. -/
theorem noCommit_used (c : κ) {calls : List (Call κ)} (h : NoCommit calls)
    (r : Except Failure (Option α)) : NoCommit (.acquire (.ok c) :: (calls ++ releasing c r)) := by
  have hends : NoCommit (releasing c r : List (Call κ)) := by
    rcases r with f | _ | x <;> simp [NoCommit, releasing]
  intro d answer hmem
  simp only [List.mem_cons, List.mem_append, reduceCtorEq, false_or] at hmem
  exact hmem.elim (h d answer) (hends d answer)

theorem borrowsToRead_noCommit {P : κ → List (Call κ) → Except Failure (Option α) → Prop}
    (hP : ∀ c calls r, P c calls r → NoCommit calls) {calls : List (Call κ)}
    {r : Except Failure (Option α)} (h : BorrowsToRead P calls r) : NoCommit calls := by
  cases h with
  | refused f => simp [NoCommit]
  | used c h => exact noCommit_used c (hP c _ _ h) r

theorem atStage_reads_noCommit {stage : Stage} {c : κ} {sql : String} {values : List Value}
    {calls : List (Call κ)} {r : Except Failure (Option (List Row))}
    (h : AtStage stage (fun c => Reads c sql values) c calls r) : NoCommit calls := by
  obtain ⟨r, h, -⟩ := h
  cases h with
  | refused f => exact reading_noCommit c sql values (.error f) []
  | affected n => exact reading_noCommit c sql values (.ok (.affected n)) []
  | rows h => exact collects_noCommit c sql values h

theorem queries_noCommit {stage : Stage} {compiled : Except CompileError Statement}
    {calls : List (Call κ)} {r : Except Failure (Option (List Row))}
    (h : Adapter.Queries stage compiled calls r) : NoCommit calls :=
  compiled_calls h (fun _ _ => List.not_mem_nil) fun _ _ _ =>
    borrowsToRead_noCommit fun _ _ _ => atStage_reads_noCommit

theorem counts_noCommit {compiled : Except CompileError Statement} {calls : List (Call κ)}
    {r : Except Failure (Option Nat)} (h : Adapter.Counts compiled calls r) : NoCommit calls :=
  compiled_calls h (fun _ _ => List.not_mem_nil) fun _ _ _ ⟨_, hrows, _⟩ =>
    borrowsToRead_noCommit (fun _ _ _ => atStage_reads_noCommit) hrows

theorem findsAndCounts_noCommit {found counted : Except CompileError Statement}
    {calls : List (Call κ)} {r : Except Failure (Option FindResult)}
    (h : Adapter.FindsAndCounts found counted calls r) : NoCommit calls := by
  cases h with
  | notFound h | crashed h => exact queries_noCommit h
  | found h hc =>
    intro c r hmem
    rcases List.mem_append.mp hmem with hmem | hmem
    · exact queries_noCommit h c r hmem
    · exact counts_noCommit hc c r hmem

theorem runsNative_law {sql : String} {values : List Value} {calls : List (Call κ)}
    {r : Except Failure (Option NativeResult)}
    (h : BorrowsToRead (AtStage .native fun c => RunsNative c sql values) calls r) :
    NativeLaw sql values calls r := by
  cases h with
  | refused f =>
    have hnone : NoCommit [Call.acquire (.error f : Except Failure κ)] := by simp [NoCommit]
    exact ⟨nofun, fun _ => hnone, fun _ => hnone, nofun⟩
  | @used c calls _ h =>
    obtain ⟨r, h, rfl⟩ := h
    cases h with
    | refused f =>
      have hnone := noCommit_used c (reading_noCommit c sql values (.error f) [])
        (.error (f.atStage .native) : Except Failure (Option NativeResult))
      exact ⟨nofun, fun _ => hnone, fun _ => hnone, nofun⟩
    | affected n r =>
      refine ⟨fun m hm => ⟨c, .affected n, ?_⟩, ?_, ?_, ?_⟩
      · cases r with
        | error f => cases hm
        | ok u => rfl
      · rintro ⟨d, sql', values', f, hmem⟩
        cases r <;> simp [Except.map, Except.mapError, releasing] at hmem
      · rintro ⟨d, sql', values', cursor, hmem⟩
        cases r <;> simp [Except.map, Except.mapError, releasing] at hmem
      · rintro rs hrs
        cases r <;> cases hrs
    | @rows cursor made r h =>
      have hnone := noCommit_used c (collects_noCommit c sql values h)
        ((r.map (Option.map NativeResult.rows)).mapError (·.atStage .native))
      refine ⟨fun m hm => ?_, fun _ => hnone, fun _ => hnone, fun _ _ => hnone⟩
      rcases r with f | _ | rows <;> cases hm

/-! ## Loads -/

/-- An element that is not in the first of two lists is found in the second. -/
theorem split_right (xs : List α) {x : α} {ys before after : List α}
    (h : xs ++ ys = before ++ x :: after) (hx : x ∉ xs) :
    ∃ middle, before = xs ++ middle ∧ ys = middle ++ x :: after := by
  rcases List.append_eq_append_iff.mp h with ⟨middle, hbefore, hys⟩ | ⟨last, hxs, hrest⟩
  · exact ⟨middle, hbefore, hys⟩
  · cases last with
    | nil => exact ⟨[], by rw [hxs, List.append_nil, List.append_nil], hrest.symm⟩
    | cons y last =>
      obtain ⟨rfl, -⟩ := List.cons.inj hrest
      exact absurd (hxs ▸ by simp) hx

/-- An element that is found in a list, but not at its ends, is found in the middle. -/
theorem split_within {x : α} {front batch back before after : List α}
    (h : front ++ (batch ++ back) = before ++ x :: after) (hfront : x ∉ front) (hback : x ∉ back) :
    ∃ earlier middle, batch = earlier ++ x :: middle ∧ after = middle ++ back := by
  obtain ⟨earlier, -, hbatch⟩ := split_right front h hfront
  rcases List.append_eq_append_iff.mp hbatch with ⟨late, -, hlate⟩ | ⟨last, hlast, hrest⟩
  · exact absurd (hlate ▸ by simp) hback
  · cases last with
    | nil =>
      rw [List.nil_append] at hrest
      exact absurd (hrest ▸ List.mem_cons_self) hback
    | cons y last =>
      obtain ⟨rfl, hafter⟩ := List.cons.inj hrest
      exact ⟨earlier, last, hlast, hafter⟩

/-- After a row of a batch comes the commit of the batch, and nothing between them
gives a connection back. -/
theorem insertsRows_committed {c d : κ} {compile : Row → Except CompileError Statement}
    {rows : List Row} {inserts : List (Call κ)} {result : BulkResult}
    (h : InsertsRows c compile rows inserts result) {sql : String}
    {values : List Value} {o : Outcome} {front back before after : List (Call κ)}
    (hcalls : front ++ (inserts ++ .commit c (.ok ()) :: back) =
      before ++ .execute d sql values (.ok o) :: after)
    (hfront : .execute d sql values (.ok o) ∉ front)
    (hback : .execute d sql values (.ok o) ∉ back) :
    ∃ middle rest, after = middle ++ .commit d (.ok ()) :: rest ∧
      ∀ e, .release e ∉ middle ∧ .discard e ∉ middle := by
  obtain ⟨earlier, middle, rfl, rfl⟩ := split_within hcalls hfront (by simpa using hback)
  have huses := insertsRows_uses h
  obtain rfl : d = c := huses (.execute d sql values (.ok o)) (by simp)
  refine ⟨middle, back, rfl, fun e => ⟨fun hmem => ?_, fun hmem => ?_⟩⟩
  · exact huses (.release e) (by simp [hmem])
  · exact huses (.discard e) (by simp [hmem])

theorem borrows_loadLaw {compile : Row → Except CompileError Statement} {rows : List Row}
    {calls : List (Call κ)} {r : Except Failure BulkResult}
    (h : Borrows (LoadsBatch compile rows) calls r) : LoadLaw compile rows calls r := by
  cases h with
  | refused f => exact ⟨nofun, .other id .nil⟩
  | @returned c calls _ h =>
    refine ⟨?_, settled_exchange (loadsBatch_settled h) (.inl rfl)⟩
    rintro result rfl row - s - d o before after hcalls
    obtain ⟨inserts, hinserts, rfl⟩ := h.ok_calls
    have hsplit : [.acquire (.ok c)] ++ (inserts ++ .commit c (.ok ()) :: [.release c]) =
        before ++ .execute d s.sql s.values (.ok o) :: after := by
      rw [← hcalls]
      simp
    exact insertsRows_committed hinserts hsplit (by simp) (by simp)

namespace Adapter

variable (a : Adapter σ κ)

/-- Switching identity insert executes no statement of a row. -/
theorem switches_no_insert {table sql : String} {enabled : Bool}
    (hsql : a.compiler.identityInsert table enabled = .ok sql) {row : Row} {s : Statement}
    (hs : a.compiler.create table row = .ok s) {c d : κ} {calls : List (Call κ)}
    {r : Except Failure Unit} (h : Switches c sql calls r) {answer : Except Failure Outcome} :
    .execute d s.sql s.values answer ∉ calls := by
  intro hmem
  refine a.compiler.create_not_isSwitch hs ?_
  rw [h.execute_eq hmem]
  exact a.compiler.identityInsert_isSwitch hsql

theorem loadsToggled_loadLaw {table : String} {rows : List Row} {toggles : String × String}
    (htoggles : a.identityToggles table = .ok toggles) {calls : List (Call κ)}
    {r : Except Failure BulkResult}
    (h : LoadsToggled toggles.1 toggles.2 (LoadsBatch (a.compiler.create table) rows) calls r) :
    LoadLaw (a.compiler.create table) rows calls r := by
  obtain ⟨henable, hdisable⟩ := a.identityToggles_ok htoggles
  cases h with
  | refused f => exact ⟨nofun, .other id .nil⟩
  | notEnabled h => exact ⟨nofun, settled_exchange (switches_settled h) (.inl rfl)⟩
  | @loaded c on batch off r reset hon h hoff =>
    have hsettled := settled_exchange ((switches_settled hon).append
      ((loadsBatch_settled h).append (switches_settled hoff))) (ending_gives_back c reset)
    refine ⟨?_, by simpa only [List.append_assoc] using hsettled⟩
    rintro result rfl row - s hs d o before after hcalls
    obtain ⟨inserts, hinserts, rfl⟩ := h.ok_calls
    have hbefore : .execute d s.sql s.values (.ok o) ∉ on := a.switches_no_insert henable hs hon
    have hafter : .execute d s.sql s.values (.ok o) ∉ off := a.switches_no_insert hdisable hs hoff
    have hsplit : (.acquire (.ok c) :: on) ++ (inserts ++ .commit c (.ok ()) ::
        (off ++ [.ending c reset])) = before ++ .execute d s.sql s.values (.ok o) :: after := by
      rw [← hcalls]
      simp
    refine insertsRows_committed hinserts hsplit (by simpa using hbefore) ?_
    cases reset <;> simpa [Call.ending] using hafter

theorem loads_loadLaw {table : String} {rows : List Row} {identityInsert : Bool}
    {calls : List (Call κ)} {r : Except Failure BulkResult}
    (h : a.Loads table rows identityInsert calls r) :
    LoadLaw (a.compiler.create table) rows calls r := by
  cases identityInsert with
  | false => exact borrows_loadLaw h
  | true =>
    cases h with
    | rejected _ => exact ⟨nofun, .nil⟩
    | accepted htoggles h => exact a.loadsToggled_loadLaw htoggles h

end Adapter

/-! ## Sessions -/

theorem LoadsPages.mono {P Q : List Row → List (Call κ) → Except Failure BulkResult → Prop}
    (hPQ : ∀ page calls r, P page calls r → Q page calls r) {table : String} {limit offset : UInt64}
    {summary : MigrationSummary} {answers : List PageAnswer} {calls : List (Call κ)}
    {r : Except Failure MigrationSummary}
    (h : LoadsPages P table limit offset summary answers calls r) :
    LoadsPages Q table limit offset summary answers calls r := by
  induction h with
  | exhausted offset summary => exact .exhausted offset summary
  | unread h => exact .unread h
  | finished h => exact .finished h
  | notLoaded h hne hp => exact .notLoaded h hne (hPQ _ _ _ hp)
  | loaded h hne hp _ ih => exact .loaded h hne (hPQ _ _ _ hp) ih

theorem Migrates.mono {P Q : List Row → List (Call κ) → Except Failure BulkResult → Prop}
    (hPQ : ∀ page calls r, P page calls r → Q page calls r) {table : String} {limit : UInt64}
    {calls : List (Call κ)} {r : Except Failure MigrationSummary}
    (h : Migrates P table limit calls r) :
    Migrates Q table limit calls r := by
  cases h with
  | notConnected f => exact .notConnected f
  | @connected answers _ _ h =>
    refine .connected (?_ : Copies Q answers table limit _ _)
    cases h with
    | noLimit hlimit => exact .noLimit hlimit
    | pages hlimit hp => exact .pages hlimit (hp.mono hPQ)

namespace Adapter

variable (a : Adapter σ κ)

theorem performs_commitLaw {step : Step σ} {calls : List (Call κ)} {r : Except Failure StepResult}
    (h : a.Performs step calls r) : a.CommitLaw step calls r := by
  cases step <;> obtain ⟨r', h, hr⟩ := h
  case openPool =>
    subst h
    simp [CommitLaw, NoCommit]
  case closePool =>
    obtain ⟨u, -, rfl⟩ := h
    simp [CommitLaw, NoCommit]
  case isOpen =>
    obtain ⟨answer, -, rfl⟩ := h
    simp [CommitLaw, NoCommit]
  case create => exact ⟨r', mutates_law h, hr⟩
  case update => exact ⟨r', mutates_law h, hr⟩
  case delete => exact ⟨r', mutates_law h, hr⟩
  case find => exact queries_noCommit h
  case count => exact counts_noCommit h
  case findAllAndCount => exact findsAndCounts_noCommit h
  case native => exact ⟨r', runsNative_law h, hr⟩
  case bulk => exact ⟨r', a.loads_loadLaw h, hr⟩
  case migrate => exact ⟨r', h.mono fun _ _ _ => a.loads_loadLaw, hr⟩

/-- **Success means committed, and only changes commit.** A session makes the same answers with a
trace and without, and each of its operations keeps to its law: changes and statements of the caller
that affect rows are executed once and committed once when they succeed and never committed when
they are refused, the rows of loads that succeed are committed before their connection goes back,
reads commit nothing, and result sets of changes and loads are closed at once. -/
theorem session_commits (steps : List (Step σ)) (s : σ) :
    (a.traced.performAll (steps.map (Step.traced κ))).run (.start s) =
        (((a.performAll steps).run s).1,
          ⟨((a.performAll steps).run s).2, (a.sessionCalls steps s).flatten⟩) ∧
      List.Forall₂ (fun p calls => a.CommitLaw p.1 calls p.2)
        (steps.zip ((a.performAll steps).run s).1) (a.sessionCalls steps s) :=
  ⟨a.performAll_traced steps s [], a.session_forall (fun _ _ _ => a.performs_commitLaw) steps s⟩

end Adapter

end RowFerry
