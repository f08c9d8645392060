import RowFerry.Proofs.Attempts
import RowFerry.Proofs.Commits

/-!
Connections that go back with work that is not committed. Changes are followed by one commit, and
the connection goes back whether that is granted or not; when it is refused, what was changed is
still part of the transaction of the connection, and whoever borrows it next may commit it. Only a
load that switches identity insert is safe: it commits once more, or discards the connection.
-/

namespace RowFerry

variable {σ κ α : Type}

/-! ## Work on a connection -/

/-- Does the operation change rows with a statement that the engine has executed? Statements of the
caller do when they affect rows, those of a load when they insert one. -/
def Step.ChangesRows : Step σ → String → Outcome → Prop
  | .create .., _, _ | .update .., _, _ | .delete .., _, _ => True
  | .native .., _, o => ∃ n, o = .affected n
  | .bulk .., sql, _ | .migrate .., sql, _ => isInsert sql = true
  | _, _, _ => False

/-- Does the operation switch identity insert? -/
def Step.switchesIdentity : Step σ → Bool
  | .bulk _ _ identityInsert => identityInsert
  | .migrate _ _ _ o => o.identityInsert
  | _ => false

/-- A statement of the kind `Q` was executed on the connection. -/
def Call.Works (Q : String → Outcome → Prop) (c : κ) (call : Call κ) : Prop :=
  ∃ sql values o, call = .execute c sql values (.ok o) ∧ Q sql o

/-- The call `last` comes after `first`, and the connection was not acquired anew in between. -/
structure WithinLoan (c : κ) (first last : Call κ) (during calls : List (Call κ)) : Prop where
  found : ∃ before after, calls = before ++ first :: (during ++ last :: after)
  held : .acquire (.ok c) ∉ during

/-- Whatever was changed on a connection was committed with success before its release. -/
def ReleasedClean (Q : String → Outcome → Prop) (calls : List (Call κ)) : Prop :=
  ∀ c work during, work.Works Q c → WithinLoan c work (.release c) during calls →
    .commit c (.ok ()) ∈ during

/-- Something was changed on a connection and a commit after it was refused. -/
def RefusedAfterWork (Q : String → Outcome → Prop) (calls : List (Call κ)) : Prop :=
  ∃ c work during f, work.Works Q c ∧ WithinLoan c work (.commit c (.error f)) during calls

variable {Q : String → Outcome → Prop} {c : κ} {calls : List (Call κ)}

theorem Call.Works.uses {call : Call κ} (h : call.Works Q c) {d : κ}
    (huses : call.Uses d) : c = d := by
  obtain ⟨sql, values, o, rfl, -⟩ := h
  exact huses

theorem WithinLoan.first_mem {first last : Call κ} {during : List (Call κ)}
    (h : WithinLoan c first last during calls) : first ∈ calls := by
  obtain ⟨before, after, rfl⟩ := h.found
  simp

theorem WithinLoan.last_mem {first last : Call κ} {during : List (Call κ)}
    (h : WithinLoan c first last during calls) : last ∈ calls := by
  obtain ⟨before, after, rfl⟩ := h.found
  simp

/-! ## One loan after another -/

/-- A connection that is committed or released was acquired before. -/
theorem Balanced.acquired (h : Balanced calls) {call : Call κ}
    (hcall : call = .release c ∨ ∃ r, call = .commit c r) {before after : List (Call κ)}
    (hcalls : calls = before ++ call :: after) : .acquire (.ok c) ∈ before := by
  have hdetached : ¬ call.Detached := by
    rcases hcall with rfl | ⟨r, rfl⟩ <;> exact id
  have hacquire : ∀ answer, call ≠ .acquire answer := by
    rcases hcall with rfl | ⟨r, rfl⟩ <;> exact fun _ => nofun
  induction h generalizing before with
  | nil => simp at hcalls
  | @detached first rest hfirst _ ih =>
    have hne : call ≠ first := fun heq => hdetached (heq ▸ hfirst)
    obtain ⟨before, rfl, hrest⟩ := split_right [first] hcalls (by simpa using hne)
    exact List.mem_cons_of_mem _ (ih hrest)
  | @refused f rest _ ih =>
    obtain ⟨before, rfl, hrest⟩ :=
      split_right [Call.acquire (.error f)] hcalls (by simpa using hacquire _)
    exact List.mem_cons_of_mem _ (ih hrest)
  | @exchange d used rest last huse hlast _ ih =>
    obtain ⟨before, rfl, hcalls⟩ :=
      split_right [Call.acquire (.ok d)] hcalls (by simpa using hacquire _)
    by_cases hd : d = c
    · exact hd ▸ List.mem_cons_self
    -- The call is of another loan, so it comes after this one.
    have hused : call ∉ used := by
      intro hmem
      have huses := huse call hmem
      rcases hcall with rfl | ⟨r, rfl⟩
      · exact huses
      · exact hd huses.symm
    have hends : call ≠ last := by
      rcases hcall with rfl | ⟨r, rfl⟩ <;> rcases hlast with rfl | rfl <;> simp [Ne.symm hd]
    have hlater : used ++ [last] ++ rest = before ++ call :: after := by simpa using hcalls
    obtain ⟨middle, rfl, hrest⟩ := split_right (used ++ [last]) hlater (by simp [hused, hends])
    exact List.mem_append_right _ (List.mem_append_right _ (ih hrest))

/-- A loan is over before the next list of loans begins, so it is in one of two lists. -/
theorem WithinLoan.append_iff {xs ys : List (Call κ)} (hy : Balanced ys)
    {first last : Call κ} (hlast : last = .release c ∨ ∃ r, last = .commit c r)
    {during : List (Call κ)} : WithinLoan c first last during (xs ++ ys) ↔
      WithinLoan c first last during xs ∨ WithinLoan c first last during ys := by
  constructor
  · rintro ⟨⟨before, after, hcalls⟩, hheld⟩
    rcases List.append_eq_append_iff.mp hcalls with ⟨more, -, hys⟩ | ⟨more, hxs, hrest⟩
    · exact .inr ⟨⟨more, after, hys⟩, hheld⟩
    cases more with
    | nil => exact .inr ⟨⟨[], after, hrest.symm⟩, hheld⟩
    | cons call more =>
      obtain ⟨rfl, hlater⟩ := List.cons.inj hrest
      -- Were the last call in the second list, the connection would have been acquired there.
      rcases List.append_eq_append_iff.mp hlater with ⟨late, hmore, hafter⟩ | ⟨late, rfl, hys⟩
      · cases late with
        | nil =>
          have hfirst : ys = [] ++ last :: after := hafter.symm
          cases hy.acquired hlast hfirst
        | cons call' late =>
          obtain ⟨rfl, -⟩ := List.cons.inj hafter
          exact .inl ⟨⟨before, late, by rw [hxs, hmore]⟩, hheld⟩
      · exact absurd (List.mem_append_right more (hy.acquired hlast hys)) hheld
  · rintro (⟨⟨before, after, rfl⟩, hheld⟩ | ⟨⟨before, after, rfl⟩, hheld⟩)
    · exact ⟨⟨before, after ++ ys, by simp⟩, hheld⟩
    · exact ⟨⟨xs ++ before, after, by simp⟩, hheld⟩

theorem releasedClean_append {xs ys : List (Call κ)} (hy : Balanced ys) :
    ReleasedClean Q (xs ++ ys) ↔ ReleasedClean Q xs ∧ ReleasedClean Q ys := by
  constructor
  · intro h
    refine ⟨fun c work during hwork hloan => ?_, fun c work during hwork hloan => ?_⟩
    · exact h c work during hwork ((WithinLoan.append_iff hy (.inl rfl)).mpr (.inl hloan))
    · exact h c work during hwork ((WithinLoan.append_iff hy (.inl rfl)).mpr (.inr hloan))
  · rintro ⟨hx, hlater⟩ c work during hwork hloan
    rcases (WithinLoan.append_iff hy (.inl rfl)).mp hloan with hloan | hloan
    · exact hx c work during hwork hloan
    · exact hlater c work during hwork hloan

theorem refusedAfterWork_append {xs ys : List (Call κ)} (hy : Balanced ys) :
    RefusedAfterWork Q (xs ++ ys) ↔ RefusedAfterWork Q xs ∨ RefusedAfterWork Q ys := by
  constructor
  · rintro ⟨c, work, during, f, hwork, hloan⟩
    rcases (WithinLoan.append_iff hy (.inr ⟨_, rfl⟩)).mp hloan with hloan | hloan
    · exact .inl ⟨c, work, during, f, hwork, hloan⟩
    · exact .inr ⟨c, work, during, f, hwork, hloan⟩
  · rintro (⟨c, work, during, f, hwork, hloan⟩ | ⟨c, work, during, f, hwork, hloan⟩)
    · exact ⟨c, work, during, f, hwork, (WithinLoan.append_iff hy (.inr ⟨_, rfl⟩)).mpr (.inl hloan)⟩
    · exact ⟨c, work, during, f, hwork, (WithinLoan.append_iff hy (.inr ⟨_, rfl⟩)).mpr (.inr hloan)⟩

/-! ## One loan -/

/-- No rows are changed. -/
def Idle (Q : String → Outcome → Prop) (calls : List (Call κ)) : Prop :=
  ∀ c, ∀ call ∈ calls, ¬ call.Works Q c

theorem Idle.releasedClean (h : Idle Q calls) : ReleasedClean Q calls :=
  fun c work _ hwork hloan => absurd hwork (h c work hloan.first_mem)

theorem Idle.not_refusedAfterWork (h : Idle Q calls) : ¬ RefusedAfterWork Q calls := by
  rintro ⟨c, work, during, f, hwork, hloan⟩
  exact h c work hloan.first_mem hwork

/-- Without statements of rows no rows are changed. -/
theorem idle_of_insertions (h : insertions calls = []) :
    Idle (fun sql _ => isInsert sql = true) calls := by
  rintro c call hmem ⟨sql, values, o, rfl, hsql⟩
  have hnone := List.filterMap_eq_nil_iff.mp h _ hmem
  simp [Call.insertion?, hsql] at hnone

theorem unreleased_releasedClean (h : ∀ c, .release c ∉ calls) : ReleasedClean Q calls :=
  fun c _ _ _ hloan => absurd hloan.last_mem (h c)

/-- A connection whose last call before its release is a commit that succeeds is clean. -/
theorem committed_releasedClean {front : List (Call κ)} (hfront : ∀ d, .release d ∉ front) (c : κ) :
    ReleasedClean Q (front ++ [.commit c (.ok ()), .release c]) := by
  rintro d work during hwork ⟨⟨before, after, hcalls⟩, -⟩
  have hsplit : front ++ [.commit c (.ok ())] ++ .release c :: [] =
      before ++ work :: during ++ .release d :: after := by simpa using hcalls
  obtain ⟨hfirst, hrelease, -⟩ :=
    (List.append_cons_inj_of_notMem (by simp [hfront]) List.not_mem_nil).mp hsplit
  obtain rfl := Call.release.inj hrelease
  rcases during.eq_nil_or_concat with rfl | ⟨during, call, rfl⟩
  · obtain ⟨sql, values, o, rfl, -⟩ := hwork
    have hlast := (List.append_inj' hfirst rfl).2
    simp at hlast
  · have hfirst' : front ++ [.commit c (.ok ())] = (before ++ work :: during) ++ [call] := by
      simpa using hfirst
    obtain ⟨-, hlast⟩ := List.append_inj' hfirst' rfl
    simp [← hlast]

/-- What is done on a connection changes no rows, or its last call is its only commit. -/
inductive CommitsLast (Q : String → Outcome → Prop) (c : κ) : List (Call κ) → Prop
  | idle {calls : List (Call κ)} (h : Idle Q calls) : CommitsLast Q c calls
  | committed {calls : List (Call κ)} (h : NoCommit calls) (r : Except Failure Unit) :
    CommitsLast Q c (calls ++ [.commit c r])

/-- Loans that leave something uncommitted exactly when a commit is refused after work. -/
structure CleanUnlessRefused (Q : String → Outcome → Prop) (calls : List (Call κ)) : Prop where
  balanced : Balanced calls
  clean_iff : ReleasedClean Q calls ↔ ¬ RefusedAfterWork Q calls

theorem Idle.cleanUnlessRefused (h : Idle Q calls) (hbalanced : Balanced calls) :
    CleanUnlessRefused Q calls :=
  ⟨hbalanced, iff_of_true h.releasedClean h.not_refusedAfterWork⟩

theorem cleanUnlessRefused_nil : CleanUnlessRefused Q ([] : List (Call κ)) :=
  Idle.cleanUnlessRefused (fun _ _ hmem => absurd hmem List.not_mem_nil) .nil

theorem CleanUnlessRefused.append {xs ys : List (Call κ)} (hx : CleanUnlessRefused Q xs)
    (hy : CleanUnlessRefused Q ys) : CleanUnlessRefused Q (xs ++ ys) := by
  refine ⟨hx.balanced.append hy.balanced, ?_⟩
  rw [releasedClean_append hy.balanced, refusedAfterWork_append hy.balanced, not_or, hx.clean_iff,
    hy.clean_iff]

section

variable {body : List (Call κ)} (huse : ∀ call ∈ body, call.Uses c) (hnone : NoCommit body)
include huse hnone

/-- The only commit is granted. -/
theorem granted_releasedClean :
    ReleasedClean Q (.acquire (.ok c) :: (body ++ [.commit c (.ok ()), .release c])) ∧
      ¬ RefusedAfterWork Q (.acquire (.ok c) :: (body ++ [.commit c (.ok ()), .release c])) := by
  constructor
  · have hfront : ∀ d, .release d ∉ Call.acquire (.ok c) :: body := by
      simpa using fun d => release_not_mem huse
    exact committed_releasedClean hfront c
  · rintro ⟨d, work, during, f, -, hloan⟩
    have hmem := hloan.last_mem
    simp [hnone d (.error f)] at hmem

/-- The only commit is refused, and there was something to commit. -/
theorem refused_not_releasedClean {work : Call κ} (hmem : work ∈ body) (hwork : work.Works Q c)
    (f : Failure) :
    ¬ ReleasedClean Q (.acquire (.ok c) :: (body ++ [.commit c (.error f), .release c])) ∧
      RefusedAfterWork Q (.acquire (.ok c) :: (body ++ [.commit c (.error f), .release c])) := by
  obtain ⟨before, rest, rfl⟩ := List.append_of_mem hmem
  have hheld : .acquire (.ok c) ∉ rest := fun hmem => huse (.acquire (.ok c)) (by simp [hmem])
  refine ⟨fun hclean => ?_, ?_⟩
  · have hcommit := hclean c work (rest ++ [.commit c (.error f)]) hwork
      ⟨⟨.acquire (.ok c) :: before, [], by simp⟩, by simpa using hheld⟩
    have hrest : .commit c (.ok ()) ∈ rest := by simpa using hcommit
    exact hnone c (.ok ()) (by simp [hrest])
  · exact ⟨c, work, rest, f, hwork, ⟨.acquire (.ok c) :: before, [.release c], by simp⟩, hheld⟩

omit hnone in
/-- Nothing was to be committed. -/
theorem idle_of_body (hbody : ∀ call ∈ body, ¬ call.Works Q c) (r : Except Failure Unit) :
    Idle Q (.acquire (.ok c) :: (body ++ [.commit c r, .release c])) := by
  rintro d call hmem hcall
  have hin : call ∈ body := by
    obtain ⟨sql, values, o, rfl, -⟩ := hcall
    simpa using hmem
  obtain rfl := hcall.uses (huse call hin)
  exact hbody call hin hcall

theorem committed_clean_iff (r : Except Failure Unit) :
    ReleasedClean Q (.acquire (.ok c) :: (body ++ [.commit c r, .release c])) ↔
      ¬ RefusedAfterWork Q (.acquire (.ok c) :: (body ++ [.commit c r, .release c])) := by
  cases r with
  | ok u =>
    obtain ⟨hclean, hrefused⟩ := granted_releasedClean (Q := Q) huse hnone
    exact iff_of_true hclean hrefused
  | error f =>
    by_cases hwork : ∃ work ∈ body, work.Works Q c
    · obtain ⟨work, hmem, hwork⟩ := hwork
      obtain ⟨hclean, hrefused⟩ := refused_not_releasedClean huse hnone hmem hwork f
      exact iff_of_false hclean (not_not.mpr hrefused)
    · have hidle := idle_of_body huse (fun call hc h => hwork ⟨call, hc, h⟩) (.error f)
      exact iff_of_true hidle.releasedClean hidle.not_refusedAfterWork

end

theorem borrows_cleanUnlessRefused
    {P : κ → List (Call κ) → Except Failure α → Prop} (hP : StaysOn P)
    (hlast : ∀ c calls r, P c calls r → CommitsLast Q c calls) {r : Except Failure α}
    (h : Borrows P calls r) : CleanUnlessRefused Q calls := by
  refine ⟨(borrows_exchange hP h).balanced, ?_⟩
  cases h with
  | refused f =>
    have hidle : Idle Q [Call.acquire (.error f : Except Failure κ)] := by
      simp [Idle, Call.Works]
    exact iff_of_true hidle.releasedClean hidle.not_refusedAfterWork
  | @returned c calls r h =>
    have huse := hP c calls r h
    cases hlast c calls r h with
    | idle h =>
      have hidle : Idle Q (.acquire (.ok c) :: (calls ++ [.release c])) := by
        rintro d call hmem ⟨sql, values, o, rfl, hsql⟩
        exact h d _ (by simpa using hmem) ⟨sql, values, o, rfl, hsql⟩
      exact iff_of_true hidle.releasedClean hidle.not_refusedAfterWork
    | @committed body hnone r =>
      have huseBody : ∀ call ∈ body, call.Uses c := fun call hc => huse call (by simp [hc])
      simpa using committed_clean_iff (Q := Q) huseBody hnone r

/-! ## Operations -/

theorem changes_commitsLast {sql : String} {values : List Value} {r : Except Failure Nat}
    (h : Changes c sql values calls r) : CommitsLast Q c calls := by
  cases h with
  | refused f => exact .idle (by simp [Idle, Call.Works])
  | executed o r =>
    have hnone : NoCommit (.execute c sql values (.ok o) :: o.closing) := by simp [NoCommit]
    exact .committed hnone r

/-- A statement whose result set is read changes no rows. -/
theorem collects_idle (c : κ) (sql : String) (values : List Value) {cursor : Cursor}
    {r : Except Failure (Option (List Row))} (h : Collects cursor calls r) :
    Idle (fun _ o => ∃ n, o = .affected n)
      (.execute c sql values (.ok (.rows cursor)) :: calls) := by
  obtain ⟨heard, rfl⟩ := h.calls
  simp [Idle, Call.Works]

theorem runsNative_commitsLast {sql : String} {values : List Value}
    {r : Except Failure (Option NativeResult)} (h : RunsNative c sql values calls r) :
    CommitsLast (fun _ o => ∃ n, o = .affected n) c calls := by
  cases h with
  | refused f => exact .idle (by simp [Idle, Call.Works])
  | affected n r =>
    have hnone : NoCommit [.execute c sql values (.ok (.affected n))] := by simp [NoCommit]
    exact .committed hnone r
  | rows h => exact .idle (collects_idle c sql values h)

theorem loadsBatch_commitsLast {compile : Row → Except CompileError Statement} {rows : List Row}
    {r : Except Failure BulkResult} (h : LoadsBatch compile rows c calls r) :
    CommitsLast Q c calls := by
  cases h with
  | mk h r => exact .committed (fun _ _ => h.no_commit) r

theorem atStage_commitsLast {stage : Stage} {P : κ → List (Call κ) → Except Failure α → Prop}
    (hP : ∀ c calls r, P c calls r → CommitsLast Q c calls) {r : Except Failure α}
    (h : AtStage stage P c calls r) : CommitsLast Q c calls := by
  obtain ⟨r, h, -⟩ := h
  exact hP c calls r h

theorem mutates_cleanUnlessRefused {stage : Stage} {compiled : Except CompileError Statement}
    {r : Except Failure Nat} (h : Adapter.Mutates stage compiled calls r) :
    CleanUnlessRefused Q calls :=
  compiled_calls h cleanUnlessRefused_nil fun s _ _ =>
    borrows_cleanUnlessRefused (atStage_staysOn stage (changes_staysOn s.sql s.values))
      fun _ _ _ => atStage_commitsLast fun _ _ _ => changes_commitsLast

/-- A statement of the caller that crashes has changed no rows. -/
theorem runsNative_clean_iff {sql : String} {values : List Value}
    {r : Except Failure (Option NativeResult)}
    (h : BorrowsToRead (AtStage .native fun c => RunsNative c sql values) calls r) :
    ReleasedClean (fun _ o => ∃ n, o = .affected n) calls ↔
      ¬ RefusedAfterWork (fun _ o => ∃ n, o = .affected n) calls := by
  by_cases hr : r = .ok none
  · subst hr
    cases h with
    | used c h =>
      obtain ⟨hne, -⟩ | ⟨-, sql, values, cursor, -, rfl⟩ :=
        atStage_crashes .native (runsNative_crashes sql values) c _ _ h
      · exact absurd rfl hne
      · have hidle : Idle (fun _ o => ∃ n, o = .affected n)
            (.acquire (.ok c) :: [.execute c sql values (.ok (.rows cursor))]) := by
          simp [Idle, Call.Works]
        exact iff_of_true hidle.releasedClean hidle.not_refusedAfterWork
  · exact (borrows_cleanUnlessRefused (atStage_staysOn .native (runsNative_staysOn sql values))
      (fun _ _ _ => atStage_commitsLast fun _ _ _ => runsNative_commitsLast)
        (h.borrows hr)).clean_iff

namespace Adapter

variable (a : Adapter σ κ)

/-- A load that switches identity insert commits again after the batch, or
discards the connection. -/
theorem loadsToggled_releasedClean {table : String} {toggles : String × String}
    (htoggles : a.identityToggles table = .ok toggles) {rows : List Row}
    {r : Except Failure BulkResult}
    (h : LoadsToggled toggles.1 toggles.2 (LoadsBatch (a.compiler.create table) rows) calls r) :
    ReleasedClean (fun sql _ => isInsert sql = true) calls := by
  obtain ⟨henable, -⟩ := a.identityToggles_ok htoggles
  cases h with
  | refused f => exact unreleased_releasedClean (by simp)
  | notEnabled h =>
    have hon := h.insertions (a.compiler.identityInsert_isSwitch henable)
    exact (idle_of_insertions (by simp [hon])).releasedClean
  | @loaded c on batch off r reset hon h hoff =>
    have huse := loaded_uses (loadsBatch_staysOn (a.compiler.create table) rows) hon h hoff
    cases reset with
    | error f =>
      refine unreleased_releasedClean fun d hmem => release_not_mem (d := d) huse ?_
      simpa [Call.ending] using hmem
    | ok u =>
      obtain ⟨o, rfl⟩ := hoff.ok_calls
      have hfront : ∀ d, .release d ∉ .acquire (.ok c) ::
          (on ++ (batch ++ .execute c toggles.2 [] (.ok o) :: o.closing)) := by
        intro d hmem
        refine release_not_mem (d := d) huse ?_
        simpa [or_assoc] using hmem
      simpa [Call.ending] using
        committed_releasedClean (Q := fun sql _ => isInsert sql = true) hfront c

theorem loads_releasedClean {table : String} {rows : List Row} {r : Except Failure BulkResult}
    (h : a.Loads table rows true calls r) :
    ReleasedClean (fun sql _ => isInsert sql = true) calls := by
  cases h with
  | rejected _ => exact unreleased_releasedClean fun _ => List.not_mem_nil
  | accepted htoggles h => exact a.loadsToggled_releasedClean htoggles h

theorem loads_cleanUnlessRefused {table : String} {rows : List Row} {r : Except Failure BulkResult}
    (h : a.Loads table rows false calls r) :
    CleanUnlessRefused (fun sql _ => isInsert sql = true) calls :=
  borrows_cleanUnlessRefused (loadsBatch_staysOn (a.compiler.create table) rows)
    (fun _ _ _ => loadsBatch_commitsLast) h

theorem performs_clean_iff {step : Step σ} (hs : step.switchesIdentity = false)
    {r : Except Failure StepResult} (h : a.Performs step calls r) :
    ReleasedClean step.ChangesRows calls ↔ ¬ RefusedAfterWork step.ChangesRows calls := by
  have hidle (hnone : ∀ sql o, ¬ step.ChangesRows sql o) : Idle step.ChangesRows calls := by
    rintro c call - ⟨sql, values, o, -, hrows⟩
    exact hnone sql o hrows
  cases step with
  | create | update | delete =>
    obtain ⟨r, h, -⟩ := h
    exact (mutates_cleanUnlessRefused h).clean_iff
  | native sql values =>
    obtain ⟨r, h, -⟩ := h
    exact runsNative_clean_iff h
  | bulk table rows identityInsert =>
    obtain ⟨r, h, -⟩ := h
    obtain rfl : identityInsert = false := hs
    exact (a.loads_cleanUnlessRefused h).clean_iff
  | migrate connect sourceTable targetTable o =>
    obtain ⟨r, h, -⟩ := h
    have hswitch : o.identityInsert = false := hs
    rw [hswitch] at h
    refine (migrates_calls cleanUnlessRefused_nil (fun request => ?_)
      (fun _ _ => CleanUnlessRefused.append) (fun _ _ _ => a.loads_cleanUnlessRefused) h).clean_iff
    exact (idle_of_insertions rfl).cleanUnlessRefused (.detached trivial .nil)
  | _ =>
    have hnone := hidle fun _ _ => id
    exact iff_of_true hnone.releasedClean hnone.not_refusedAfterWork

theorem performs_releasedClean {step : Step σ} (hs : step.switchesIdentity = true)
    {r : Except Failure StepResult} (h : a.Performs step calls r) :
    ReleasedClean step.ChangesRows calls := by
  cases step with
  | bulk table rows identityInsert =>
    obtain ⟨r, h, -⟩ := h
    obtain rfl : identityInsert = true := hs
    exact a.loads_releasedClean h
  | migrate connect sourceTable targetTable o =>
    obtain ⟨r, h, -⟩ := h
    have hswitch : o.identityInsert = true := hs
    rw [hswitch] at h
    refine (migrates_calls (R := fun calls => Balanced calls ∧
      ReleasedClean (fun sql _ => isInsert sql = true) calls) ⟨.nil, ?_⟩
        (fun request => ?_) ?_ ?_ h).2
    · exact unreleased_releasedClean fun _ => List.not_mem_nil
    · exact ⟨.detached trivial .nil, unreleased_releasedClean (by simp)⟩
    · rintro xs ys ⟨hx, hcleanx⟩ ⟨hy, hcleany⟩
      exact ⟨hx.append hy, (releasedClean_append hy).mpr ⟨hcleanx, hcleany⟩⟩
    · exact fun page calls r h => ⟨(a.loads_exchange h).balanced, a.loads_releasedClean h⟩
  | _ => cases hs

/-- **What is left uncommitted when a connection goes back.** In the calls of every operation of
every session, whatever was changed on a connection was committed with success before the connection
was released, unless the operation does not switch identity insert and a commit after such a change
was refused; and then it was not. -/
theorem session_releasedClean_iff (steps : List (Step σ)) (s : σ) :
    (a.traced.performAll (steps.map (Step.traced κ))).run (.start s) =
        (((a.performAll steps).run s).1,
          ⟨((a.performAll steps).run s).2, (a.sessionCalls steps s).flatten⟩) ∧
      List.Forall₂
        (fun step calls => ReleasedClean step.ChangesRows calls ↔
          ¬ (step.switchesIdentity = false ∧ RefusedAfterWork step.ChangesRows calls))
        steps (a.sessionCalls steps s) := by
  refine ⟨a.performAll_traced steps s [], a.sessionCalls_forall (fun step calls r h => ?_) steps s⟩
  cases hs : step.switchesIdentity with
  | false => simpa using a.performs_clean_iff hs h
  | true => simpa using a.performs_releasedClean hs h

/-- The commit of a change is refused, its caller is told so, and the connection goes back all the
same. -/
theorem refused_commit_released :
    ¬ List.Forall₂ (fun (step : Step Rehearsal.Pool) calls => ReleasedClean step.ChangesRows calls)
      [.create "users" (Row.ofList [("id", .i64 1)])]
      ((Rehearsal.Pool.adapter "APP").sessionCalls [.create "users" (Row.ofList [("id", .i64 1)])]
        (.refusingCommit 0)) := by
  have hcalls : (Rehearsal.Pool.adapter "APP").sessionCalls
      [.create "users" (Row.ofList [("id", .i64 1)])] (.refusingCommit 0) =
      [[.acquire (.ok ()),
        .execute () "INSERT INTO \"APP\".\"users\" (\"id\") VALUES (?);" [.i64 1]
          (.ok (.affected 1)),
        .commit () (.error (.driver "commit refused")), .release ()]] := rfl
  rw [hcalls, List.forall₂_cons]
  rintro ⟨hclean, -⟩
  have hcommit := hclean () _ [.commit () (.error (.driver "commit refused"))]
    ⟨_, [.i64 1], .affected 1, rfl, trivial⟩ ⟨⟨[.acquire (.ok ())], [], rfl⟩, by simp⟩
  simp at hcommit

end Adapter

end RowFerry
