import Mathlib.Data.List.Forall2
import RowFerry.Proofs.Protocol.Session
import RowFerry.Proofs.ResultSet
import RowFerry.Rehearsal.Pool

/-!
Connections go back, unless an operation crashes. In the calls of every operation of every
session that does not crash a connection that was acquired is used, and then released or
discarded exactly once before anything else is acquired; nothing uses a connection outside such
an exchange. Only loads discard connections. An operation crashes when a result set that it reads
announces more rows than there is room for; all it has left open then is the connection on which
that result set was handed out.
-/

namespace RowFerry

variable {σ κ α : Type}

namespace Call

/-- Does the call use the connection? Result sets are read while their connection is held. -/
def Uses (c : κ) : Call κ → Prop
  | execute d _ _ _ => d = c
  | commit d _ => d = c
  | cursor _ => True
  | _ => False

/-- Is the call about no connection? -/
def Detached : Call κ → Prop
  | openPool _ => True
  | closePool => True
  | select _ => True
  | load _ _ => True
  | _ => False

/-- Is a connection granted? -/
def grants : Call κ → Bool
  | acquire (.ok _) => true
  | _ => false

/-- Is a connection given back? -/
def givesBack : Call κ → Bool
  | release _ | discard _ => true
  | _ => false

end Call

/-- Calls in which every connection that is acquired is given back, once, before the next is
acquired, and in which only a connection that is held is used. -/
inductive Balanced : List (Call κ) → Prop
  | nil : Balanced []
  | detached {call : Call κ} {rest : List (Call κ)} (h : call.Detached) (hrest : Balanced rest) :
    Balanced (call :: rest)
  | refused (f : Failure) {rest : List (Call κ)} (hrest : Balanced rest) :
    Balanced (.acquire (.error f) :: rest)
  | exchange {c : κ} {calls rest : List (Call κ)} {last : Call κ}
    (huse : ∀ call ∈ calls, call.Uses c) (hlast : last = .release c ∨ last = .discard c)
    (hrest : Balanced rest) :
    Balanced (.acquire (.ok c) :: (calls ++ last :: rest))

theorem Balanced.append {xs ys : List (Call κ)} (hx : Balanced xs) (hy : Balanced ys) :
    Balanced (xs ++ ys) := by
  induction hx with
  | nil => exact hy
  | detached h _ ih => exact .detached h ih
  | refused f _ ih => exact .refused f ih
  | exchange huse hlast _ ih =>
    rw [List.cons_append, List.append_assoc, List.cons_append]
    exact .exchange huse hlast ih

/-! ## What is done on a connection stays on it -/

/-- A protocol all of whose calls use its connection. -/
def StaysOn (P : κ → List (Call κ) → Except Failure α → Prop) : Prop :=
  ∀ c calls r, P c calls r → ∀ call ∈ calls, call.Uses c

theorem closing_uses (c : κ) (o : Outcome) : ∀ call ∈ o.closing, Call.Uses c call := by
  cases o with
  | affected n => simp [Outcome.closing]
  | rows cursor => simp [Outcome.closing, Call.Uses]

theorem reading_uses (c : κ) (calls : List CursorCall) :
    ∀ call ∈ calls.map Call.cursor, Call.Uses c call := by
  intro call h
  obtain ⟨x, -, rfl⟩ := List.mem_map.mp h
  trivial

theorem changes_staysOn (sql : String) (values : List Value) :
    StaysOn fun c : κ => Changes c sql values := by
  intro c calls r h call hc
  cases h with
  | refused f =>
    obtain rfl := List.mem_singleton.mp hc
    rfl
  | executed o r =>
    simp only [List.mem_cons, List.mem_append, List.not_mem_nil, or_false] at hc
    rcases hc with rfl | hc | rfl
    · rfl
    · exact closing_uses c o call hc
    · rfl

/-- A statement and the reading of its result set stay on the connection. -/
theorem collects_uses {c : κ} {sql : String} {values : List Value} {cursor : Cursor}
    {calls : List (Call κ)} {r : Except Failure (Option (List Row))} (h : Collects cursor calls r) :
    ∀ call ∈ Call.execute c sql values (.ok (.rows cursor)) :: calls, call.Uses c := by
  obtain ⟨heard, rfl⟩ := h.calls
  exact List.forall_mem_cons.mpr ⟨rfl, reading_uses c heard⟩

theorem reads_staysOn (sql : String) (values : List Value) :
    StaysOn fun c : κ => Reads c sql values := by
  intro c calls r h call hc
  cases h with
  | refused f =>
    obtain rfl := List.mem_singleton.mp hc
    rfl
  | affected n =>
    obtain rfl := List.mem_singleton.mp hc
    rfl
  | rows h => exact collects_uses h call hc

theorem runsNative_staysOn (sql : String) (values : List Value) :
    StaysOn fun c : κ => RunsNative c sql values := by
  intro c calls r h call hc
  cases h with
  | refused f =>
    obtain rfl := List.mem_singleton.mp hc
    rfl
  | affected n r =>
    simp only [List.mem_cons, List.not_mem_nil, or_false] at hc
    rcases hc with rfl | rfl <;> rfl
  | rows h => exact collects_uses h call hc

theorem atStage_staysOn (stage : Stage) {P : κ → List (Call κ) → Except Failure α → Prop}
    (h : StaysOn P) : StaysOn (AtStage stage P) := by
  rintro c calls _ ⟨r, hp, rfl⟩
  exact h c calls r hp

theorem switches_staysOn (sql : String) : StaysOn fun c : κ => Switches c sql := by
  rintro c calls _ ⟨r, hr, rfl⟩
  exact changes_staysOn sql [] c calls r hr

theorem insertsRow_staysOn (compiled : Except CompileError Statement) :
    StaysOn fun c : κ => InsertsRow c compiled := by
  intro c calls r h call hc
  cases h with
  | rejected _ => cases hc
  | refused _ f =>
    obtain rfl := List.mem_singleton.mp hc
    rfl
  | inserted _ o =>
    rcases List.mem_cons.mp hc with rfl | hc
    · rfl
    · exact closing_uses c o call hc

theorem insertsRows_uses {c : κ} {compile : Row → Except CompileError Statement} {rows : List Row}
    {calls : List (Call κ)} {result : BulkResult} (h : InsertsRows c compile rows calls result) :
    ∀ call ∈ calls, call.Uses c := by
  induction h with
  | nil => simp
  | cons h _ ih =>
    intro call hc
    rcases List.mem_append.mp hc with hc | hc
    · exact insertsRow_staysOn _ c _ _ h call hc
    · exact ih call hc

theorem loadsBatch_staysOn (compile : Row → Except CompileError Statement) (rows : List Row) :
    StaysOn (LoadsBatch (κ := κ) compile rows) := by
  intro c calls r h call hc
  cases h with
  | mk h r =>
    rcases List.mem_append.mp hc with hc | hc
    · exact insertsRows_uses h call hc
    · obtain rfl := List.mem_singleton.mp hc
      rfl

/-! ## Exchanges -/

/-- At most one connection is acquired, used and given back. -/
inductive Exchange : List (Call κ) → Prop
  | nothing : Exchange []
  | refused (f : Failure) : Exchange [.acquire (.error f)]
  | used {c : κ} {calls : List (Call κ)} {last : Call κ} (huse : ∀ call ∈ calls, call.Uses c)
    (hlast : last = .release c ∨ last = .discard c) :
    Exchange (.acquire (.ok c) :: (calls ++ [last]))

theorem Exchange.balanced {calls : List (Call κ)} (h : Exchange calls) : Balanced calls := by
  cases h with
  | nothing => exact .nil
  | refused f => exact .refused f .nil
  | used huse hlast => exact .exchange huse hlast .nil

theorem borrows_exchange {P : κ → List (Call κ) → Except Failure α → Prop} (hP : StaysOn P)
    {calls : List (Call κ)} {r : Except Failure α} (h : Borrows P calls r) : Exchange calls := by
  cases h with
  | refused f => exact .refused f
  | returned c h => exact .used (hP c _ _ h) (.inl rfl)

/-- Balanced calls that discard no connection. -/
def Returned (calls : List (Call κ)) : Prop := Balanced calls ∧ ∀ c, .discard c ∉ calls

theorem returned_nil : Returned ([] : List (Call κ)) := ⟨.nil, fun _ => List.not_mem_nil⟩

theorem Returned.append {xs ys : List (Call κ)} (hx : Returned xs) (hy : Returned ys) :
    Returned (xs ++ ys) := by
  refine ⟨hx.1.append hy.1, fun c hc => ?_⟩
  rcases List.mem_append.mp hc with hc | hc
  · exact hx.2 c hc
  · exact hy.2 c hc

theorem borrows_returned {P : κ → List (Call κ) → Except Failure α → Prop} (hP : StaysOn P)
    {calls : List (Call κ)} {r : Except Failure α} (h : Borrows P calls r) : Returned calls := by
  refine ⟨(borrows_exchange hP h).balanced, ?_⟩
  cases h with
  | refused f => simp
  | returned c h =>
    intro d hd
    simp only [List.mem_cons, List.mem_append, reduceCtorEq, List.not_mem_nil,
      or_false, false_or] at hd
    exact hP c _ _ h _ hd

/-- What holds of no calls and of those of every statement holds of those
of a compiled statement. -/
theorem compiled_calls {β : Type} {compiled : Except CompileError β}
    {P : β → List (Call κ) → Except Failure α → Prop} {calls : List (Call κ)} {r : Except Failure α}
    {R : List (Call κ) → Prop} (h : Compiled compiled P calls r) (hnil : R [])
    (hP : ∀ x calls r, P x calls r → R calls) : R calls := by
  cases h with
  | rejected _ => exact hnil
  | accepted _ hp => exact hP _ _ _ hp

theorem mutates_returned {stage : Stage} {compiled : Except CompileError Statement}
    {calls : List (Call κ)} {r : Except Failure Nat} (h : Adapter.Mutates stage compiled calls r) :
    Returned calls :=
  compiled_calls h returned_nil fun s _ _ =>
    borrows_returned (atStage_staysOn stage (changes_staysOn s.sql s.values))

theorem ending_gives_back (c : κ) (reset : Except Failure Unit) :
    Call.ending c reset = .release c ∨ Call.ending c reset = .discard c := by
  cases reset with
  | error f => exact .inr rfl
  | ok u => exact .inl rfl

/-- What is done between acquiring a connection and its end stays on it. -/
theorem loaded_uses {enable disable : String}
    {P : κ → List (Call κ) → Except Failure BulkResult → Prop} (hP : StaysOn P) {c : κ}
    {on batch off : List (Call κ)} {r : Except Failure BulkResult} {set reset : Except Failure Unit}
    (hon : Switches c enable on set) (h : P c batch r) (hoff : Switches c disable off reset) :
    ∀ call ∈ on ++ (batch ++ off), call.Uses c := by
  intro call hc
  simp only [List.mem_append] at hc
  rcases hc with hc | hc | hc
  · exact switches_staysOn enable c _ _ hon call hc
  · exact hP c _ _ h call hc
  · exact switches_staysOn disable c _ _ hoff call hc

theorem loadsToggled_exchange {enable disable : String}
    {P : κ → List (Call κ) → Except Failure BulkResult → Prop} (hP : StaysOn P)
    {calls : List (Call κ)} {r : Except Failure BulkResult}
    (h : LoadsToggled enable disable P calls r) :
    Exchange calls := by
  cases h with
  | refused f => exact .refused f
  | notEnabled h => exact .used (switches_staysOn enable _ _ _ h) (.inl rfl)
  | @loaded c on batch off r reset hon h hoff =>
    have hall := Exchange.used (loaded_uses hP hon h hoff) (ending_gives_back c reset)
    simpa only [List.append_assoc] using hall

/-- What holds of a request and of the calls of every page, and of such calls one after another,
holds of the calls of all pages. -/
theorem loadsPages_calls {P : List Row → List (Call κ) → Except Failure BulkResult → Prop}
    {R : List (Call κ) → Prop} (hselect : ∀ request, R [.select request])
    (happend : ∀ xs ys, R xs → R ys → R (xs ++ ys)) (hP : ∀ page calls r, P page calls r → R calls)
    {table : String} {limit offset : UInt64} {summary : MigrationSummary}
    {answers : List PageAnswer} {calls : List (Call κ)} {r : Except Failure MigrationSummary}
    (h : LoadsPages P table limit offset summary answers calls r) : R calls := by
  induction h with
  | exhausted => exact hselect _
  | unread _ => exact hselect _
  | finished _ => exact hselect _
  | notLoaded _ _ hp => exact happend [_] _ (hselect _) (hP _ _ _ hp)
  | loaded _ _ hp _ ih => exact happend [_] _ (hselect _) (happend _ _ (hP _ _ _ hp) ih)

theorem migrates_calls {P : List Row → List (Call κ) → Except Failure BulkResult → Prop}
    {R : List (Call κ) → Prop} (hnil : R []) (hselect : ∀ request, R [.select request])
    (happend : ∀ xs ys, R xs → R ys → R (xs ++ ys)) (hP : ∀ page calls r, P page calls r → R calls)
    {table : String} {limit : UInt64} {calls : List (Call κ)} {r : Except Failure MigrationSummary}
    (h : Migrates P table limit calls r) : R calls := by
  cases h with
  | notConnected f => exact hnil
  | connected h =>
    cases h with
    | noLimit _ => exact hnil
    | pages _ hp => exact loadsPages_calls hselect happend hP hp

/-! ## Crashes -/

/-- A result set is handed out that announces more rows than there is room for. -/
def Overfull (calls : List (Call κ)) : Prop :=
  ∃ c sql values cursor, .execute c sql values (.ok (.rows cursor)) ∈ calls ∧
    ∃ n ∈ cursor.announced, Cursor.maxRows < n

/-- After calls that leave nothing open a connection is acquired and such a result set handed out on
it, and nothing comes after that. -/
def Abandons (calls : List (Call κ)) : Prop :=
  ∃ before c sql values cursor, Returned before ∧ (∃ n ∈ cursor.announced, Cursor.maxRows < n) ∧
    calls = before ++ [.acquire (.ok c), .execute c sql values (.ok (.rows cursor))]

theorem overfull_append {xs ys : List (Call κ)} :
    Overfull (xs ++ ys) ↔ Overfull xs ∨ Overfull ys := by
  simp only [Overfull, List.mem_append, or_and_right, exists_or]

theorem Abandons.append {xs ys : List (Call κ)} (hy : Abandons ys) (hx : Returned xs) :
    Abandons (xs ++ ys) := by
  obtain ⟨before, c, sql, values, cursor, hbefore, hmax, rfl⟩ := hy
  exact ⟨xs ++ before, c, sql, values, cursor, hx.append hbefore, hmax, (List.append_assoc ..).symm⟩

theorem Abandons.overfull {calls : List (Call κ)} (h : Abandons calls) : Overfull calls := by
  obtain ⟨before, c, sql, values, cursor, -, hmax, rfl⟩ := h
  exact ⟨c, sql, values, cursor, by simp, hmax⟩

/-- As many connections are given back as were granted. -/
theorem Balanced.countP_eq {calls : List (Call κ)} (h : Balanced calls) :
    calls.countP Call.grants = calls.countP Call.givesBack := by
  induction h with
  | nil => rfl
  | @detached call rest hcall _ ih =>
    rw [List.countP_cons, List.countP_cons, ih]
    cases call <;> first | rfl | cases hcall
  | refused f _ ih => simpa [List.countP_cons, Call.grants, Call.givesBack] using ih
  | @exchange c used rest last huse hlast _ ih =>
    have hused : used.countP Call.grants = 0 ∧ used.countP Call.givesBack = 0 := by
      constructor <;> refine List.countP_eq_zero.mpr fun call hcall => ?_ <;>
        cases call <;> first | exact Bool.false_ne_true | cases huse _ hcall
    rcases hlast with rfl | rfl <;>
      simp [List.countP_cons, Call.grants, Call.givesBack, hused, ih]

/-- A connection that is abandoned is missing. -/
theorem Abandons.not_balanced {calls : List (Call κ)} (h : Abandons calls) : ¬ Balanced calls := by
  obtain ⟨before, c, sql, values, cursor, hbefore, -, rfl⟩ := h
  intro hcalls
  have hcount := hcalls.countP_eq
  rw [List.countP_append, List.countP_append, hbefore.1.countP_eq] at hcount
  simp [List.countP_cons, Call.grants, Call.givesBack] at hcount

theorem Abandons.discard_not_mem {calls : List (Call κ)} (h : Abandons calls) (c : κ) :
    .discard c ∉ calls := by
  obtain ⟨before, d, sql, values, cursor, hbefore, -, rfl⟩ := h
  simpa using hbefore.2 c

/-- What did not crash failed or has a result. -/
theorem error_or_some {r : Except Failure (Option α)} (h : r ≠ .ok none) :
    (∃ f, r = .error f) ∨ ∃ x, r = .ok (some x) := by
  rcases r with f | _ | x
  · exact .inl ⟨f, rfl⟩
  · exact absurd rfl h
  · exact .inr ⟨x, rfl⟩

/-- Either all connections came back and every result set was read, or the last one did not. -/
inductive ReturnsOrCrashes (calls : List (Call κ)) : Except Failure (Option α) → Prop
  | returned {r : Except Failure (Option α)} (hr : r ≠ .ok none) (h : Returned calls)
    (hfits : ¬ Overfull calls) : ReturnsOrCrashes calls r
  | crashed (h : Abandons calls) : ReturnsOrCrashes calls (.ok none)

/-- What is done on a connection crashes on a result set for which there is no room, and on nothing
else. -/
def CrashesOverfull (P : κ → List (Call κ) → Except Failure (Option α) → Prop) : Prop :=
  ∀ c calls r, P c calls r → (r ≠ .ok none ∧ ¬ Overfull calls) ∨
    (r = .ok none ∧ ∃ sql values cursor, (∃ n ∈ cursor.announced, Cursor.maxRows < n) ∧
      calls = [.execute c sql values (.ok (.rows cursor))])

theorem collects_crashes {c : κ} {sql : String} {values : List Value} {cursor : Cursor}
    {calls : List (Call κ)} {r : Except Failure (Option (List Row))} (h : Collects cursor calls r) :
    (r ≠ .ok none ∧ ¬ Overfull (.execute c sql values (.ok (.rows cursor)) :: calls)) ∨
      (r = .ok none ∧ (∃ n ∈ cursor.announced, Cursor.maxRows < n) ∧ calls = []) := by
  cases h with
  | crashed h =>
    have hfits : ¬ cursor.fits = true := by simp [(cursor.collect_eq_none_iff).mp h]
    rw [cursor.fits_iff] at hfits
    simp only [not_forall, exists_prop, not_le] at hfits
    exact .inr ⟨rfl, hfits, rfl⟩
  | @read result heard h =>
    refine .inl ⟨by cases result <;> simp [Except.map], ?_⟩
    rintro ⟨d, sql', values', cursor', hmem, n, hn, hmax⟩
    obtain ⟨-, -, -, rfl⟩ : d = c ∧ sql' = sql ∧ values' = values ∧ cursor' = cursor := by
      simpa using hmem
    have hfits : cursor'.fits = true := by
      refine Bool.of_not_eq_false fun hfits => ?_
      cases h.symm.trans ((cursor'.collect_eq_none_iff).mpr hfits)
    exact absurd ((cursor'.fits_iff).mp hfits n hn) (by omega)

theorem reads_crashes (sql : String) (values : List Value) :
    CrashesOverfull fun c : κ => Reads c sql values := by
  intro c calls r h
  cases h with
  | refused f => exact .inl ⟨nofun, by simp [Overfull]⟩
  | affected n => exact .inl ⟨nofun, by simp [Overfull]⟩
  | rows h =>
    obtain h | ⟨hr, hmax, rfl⟩ := collects_crashes h
    · exact .inl h
    · exact .inr ⟨hr, sql, values, _, hmax, rfl⟩

theorem runsNative_crashes (sql : String) (values : List Value) :
    CrashesOverfull fun c : κ => RunsNative c sql values := by
  intro c calls r h
  cases h with
  | refused f => exact .inl ⟨nofun, by simp [Overfull]⟩
  | affected n r => exact .inl ⟨by cases r <;> nofun, by simp [Overfull]⟩
  | @rows cursor made r' h =>
    obtain ⟨hr, hfits⟩ | ⟨rfl, hmax, rfl⟩ := collects_crashes h
    · obtain ⟨f, rfl⟩ | ⟨rows, rfl⟩ := error_or_some hr <;> exact .inl ⟨nofun, hfits⟩
    · exact .inr ⟨rfl, sql, values, _, hmax, rfl⟩

theorem atStage_crashes (stage : Stage) {P : κ → List (Call κ) → Except Failure (Option α) → Prop}
    (h : CrashesOverfull P) : CrashesOverfull (AtStage stage P) := by
  rintro c calls _ ⟨r, hp, rfl⟩
  obtain ⟨hr, hfits⟩ | ⟨rfl, hcrash⟩ := h c calls r hp
  · refine .inl ⟨?_, hfits⟩
    cases r with
    | error f => nofun
    | ok x => exact hr
  · exact .inr ⟨rfl, hcrash⟩

/-- A connection on which nothing crashed was borrowed like any other. -/
theorem BorrowsToRead.borrows {P : κ → List (Call κ) → Except Failure (Option α) → Prop}
    {calls : List (Call κ)} {r : Except Failure (Option α)} (h : BorrowsToRead P calls r)
    (hr : r ≠ .ok none) : Borrows P calls r := by
  cases h with
  | refused f => exact .refused f
  | used c h =>
    have hreleased : releasing c r = [.release c] := by
      obtain ⟨f, rfl⟩ | ⟨x, rfl⟩ := error_or_some hr <;> rfl
    rw [hreleased]
    exact .returned c h

theorem borrowsToRead_returns {P : κ → List (Call κ) → Except Failure (Option α) → Prop}
    (hP : StaysOn P) (hcrash : CrashesOverfull P) {calls : List (Call κ)}
    {r : Except Failure (Option α)} (h : BorrowsToRead P calls r) : ReturnsOrCrashes calls r := by
  by_cases hr : r = .ok none
  · subst hr
    cases h with
    | used c h =>
      obtain ⟨hne, -⟩ | ⟨-, sql, values, cursor, hmax, rfl⟩ := hcrash c _ _ h
      · exact absurd rfl hne
      · exact .crashed ⟨[], c, sql, values, cursor, returned_nil, hmax, rfl⟩
  · have hreturned := borrows_returned hP (h.borrows hr)
    refine .returned hr hreturned ?_
    cases h with
    | refused f => simp [Overfull]
    | used c h =>
      obtain ⟨-, hfits⟩ | ⟨hnone, -⟩ := hcrash c _ _ h
      · have hends : ¬ Overfull (releasing c r : List (Call κ)) := by
          rcases r with f | _ | x <;> simp [Overfull, releasing]
        rintro ⟨d, sql, values, cursor, hmem, hmax⟩
        rcases List.mem_cons.mp hmem with hmem | hmem
        · cases hmem
        · exact (overfull_append.mp ⟨d, sql, values, cursor, hmem, hmax⟩).elim hfits hends
      · exact absurd hnone hr

theorem not_overfull_nil : ¬ Overfull ([] : List (Call κ)) := by simp [Overfull]

theorem queries_returns {stage : Stage} {compiled : Except CompileError Statement}
    {calls : List (Call κ)} {r : Except Failure (Option (List Row))}
    (h : Adapter.Queries stage compiled calls r) : ReturnsOrCrashes calls r := by
  cases h with
  | rejected _ => exact .returned nofun returned_nil not_overfull_nil
  | @accepted s _ _ _ h =>
    exact borrowsToRead_returns (atStage_staysOn stage (reads_staysOn s.sql s.values))
      (atStage_crashes stage (reads_crashes s.sql s.values)) h

theorem counts_returns {compiled : Except CompileError Statement} {calls : List (Call κ)}
    {r : Except Failure (Option Nat)} (h : Adapter.Counts compiled calls r) :
    ReturnsOrCrashes calls r := by
  cases h with
  | rejected _ => exact .returned nofun returned_nil not_overfull_nil
  | @accepted s _ _ _ h =>
    obtain ⟨rows, h, rfl⟩ := h
    cases borrowsToRead_returns (atStage_staysOn .count (reads_staysOn s.sql s.values))
      (atStage_crashes .count (reads_crashes s.sql s.values)) h with
    | returned hr hreturned hfits =>
      refine .returned ?_ hreturned hfits
      obtain ⟨f, rfl⟩ | ⟨rows, rfl⟩ := error_or_some hr
      · nofun
      · intro hnone
        change (readTotal rows).map some = .ok none at hnone
        cases htotal : readTotal rows <;> rw [htotal] at hnone <;> cases hnone
    | crashed habandons => exact .crashed habandons

theorem findsAndCounts_returns {found counted : Except CompileError Statement}
    {calls : List (Call κ)} {r : Except Failure (Option FindResult)}
    (h : Adapter.FindsAndCounts found counted calls r) : ReturnsOrCrashes calls r := by
  cases h with
  | notFound h =>
    cases queries_returns h with
    | returned _ hreturned hfits => exact .returned nofun hreturned hfits
  | crashed h =>
    cases queries_returns h with
    | returned hr _ _ => exact absurd rfl hr
    | crashed h => exact .crashed h
  | @found _ _ items r h hc =>
    cases queries_returns h with
    | returned _ hreturned hfits =>
      cases counts_returns hc with
      | returned hr hreturned' hfits' =>
        refine .returned ?_ (hreturned.append hreturned') (overfull_append.not.mpr ?_)
        · obtain ⟨f, rfl⟩ | ⟨n, rfl⟩ := error_or_some hr <;> nofun
        · exact not_or.mpr ⟨hfits, hfits'⟩
      | crashed h => exact .crashed (h.append hreturned)

/-! ## Sessions -/

/-- Is the operation about statements of its own, and not a load of many rows? -/
def Step.isSingle : Step σ → Bool
  | .bulk .. | .migrate .. => false
  | _ => true

/-- Does the operation read result sets? The others close one that they are given. -/
def Step.collects : Step σ → Bool
  | .find .. | .count .. | .findAllAndCount .. | .native .. => true
  | _ => false

/-- What holds of the connections of an operation. They all come back unless it crashes, which it
does when a result set that it reads announces too many rows; then the connection that the result
set came on is left, and nothing else. -/
structure ConnectionLaw (step : Step σ) (calls : List (Call κ))
    (r : Except Failure StepResult) : Prop where
  balanced_iff : Balanced calls ↔ r ≠ .ok .crashed
  crashed_iff : r = .ok .crashed ↔ step.collects = true ∧ Overfull calls
  abandoned : r = .ok .crashed → Abandons calls
  single : step.isSingle = true → ∀ c, .discard c ∉ calls

namespace ConnectionLaw

variable {step : Step σ} {calls : List (Call κ)} {r : Except Failure StepResult}

theorem of_balanced (hcollects : step.collects = false) (hr : r ≠ .ok .crashed)
    (h : Balanced calls) (hsingle : step.isSingle = true → ∀ c, .discard c ∉ calls) :
    ConnectionLaw step calls r := by
  refine ⟨iff_of_true h hr, iff_of_false hr ?_, fun hcrash => absurd hcrash hr, hsingle⟩
  simp [hcollects]

/-- An operation that reads comes to a result unless the reading crashes. -/
theorem of_reading (hcollects : step.collects = true) {g : α → StepResult}
    (hg : ∀ x, g x ≠ .crashed) {r : Except Failure (Option α)} (h : ReturnsOrCrashes calls r) :
    ConnectionLaw step calls (r.map (.ofReading g)) := by
  cases h with
  | returned hr hreturned hfits =>
    have hmapped : r.map (StepResult.ofReading g) ≠ .ok .crashed := by
      obtain ⟨f, rfl⟩ | ⟨x, rfl⟩ := error_or_some hr
      · nofun
      · exact fun h => hg x (Except.ok.inj h)
    exact ⟨iff_of_true hreturned.1 hmapped, iff_of_false hmapped fun h => hfits h.2,
      fun hcrash => absurd hcrash hmapped, fun _ => hreturned.2⟩
  | crashed h =>
    exact ⟨iff_of_false h.not_balanced (not_not.mpr rfl),
      iff_of_true rfl ⟨hcollects, h.overfull⟩, fun _ => h, fun _ => h.discard_not_mem⟩

end ConnectionLaw

namespace Adapter

variable (a : Adapter σ κ)

theorem loads_exchange {table : String} {rows : List Row} {identityInsert : Bool}
    {calls : List (Call κ)} {r : Except Failure BulkResult}
    (h : a.Loads table rows identityInsert calls r) : Exchange calls := by
  cases identityInsert with
  | false => exact borrows_exchange (loadsBatch_staysOn _ rows) h
  | true =>
    exact compiled_calls h .nothing fun _ _ _ => loadsToggled_exchange (loadsBatch_staysOn _ rows)

theorem performs_connectionLaw {step : Step σ} {calls : List (Call κ)}
    {r : Except Failure StepResult} (h : a.Performs step calls r) : ConnectionLaw step calls r := by
  have hother {α : Type} {g : α → StepResult} (hg : ∀ x, g x ≠ .crashed) (r : Except Failure α) :
      r.map g ≠ .ok .crashed := by
    cases r with
    | error f => nofun
    | ok x => exact fun h => hg x (Except.ok.inj h)
  cases step <;> obtain ⟨r, h, rfl⟩ := h
  case openPool =>
    subst h
    exact .of_balanced rfl (hother nofun r) (.detached trivial .nil) (by simp)
  case closePool =>
    obtain ⟨_, rfl, rfl⟩ := h
    exact .of_balanced rfl nofun (.detached trivial .nil) (by simp)
  case isOpen =>
    obtain ⟨_, rfl, rfl⟩ := h
    exact .of_balanced rfl nofun .nil (by simp)
  case create | update | delete =>
    have hreturned := mutates_returned h
    exact .of_balanced rfl (hother nofun r) hreturned.1 fun _ => hreturned.2
  case find => exact .of_reading rfl nofun (queries_returns h)
  case count => exact .of_reading rfl nofun (counts_returns h)
  case findAllAndCount => exact .of_reading rfl nofun (findsAndCounts_returns h)
  case native sql values =>
    exact .of_reading rfl nofun <|
      borrowsToRead_returns (atStage_staysOn .native (runsNative_staysOn sql values))
        (atStage_crashes .native (runsNative_crashes sql values)) h
  case bulk => exact .of_balanced rfl (hother nofun r) (a.loads_exchange h).balanced nofun
  case migrate =>
    have hbalanced : Balanced calls :=
      migrates_calls (R := Balanced) .nil (fun _ => .detached trivial .nil)
        (fun _ _ => Balanced.append) (fun _ _ _ hp => (a.loads_exchange hp).balanced) h
    exact .of_balanced rfl (hother nofun r) hbalanced nofun

/-- **Which connections come back.** A session makes the same answers with a trace and without; in
the calls of each of its operations every connection that is acquired is used and then given back
exactly once, unless the operation crashes; and only loads of many rows discard a connection.
Operations that read crash when they are handed a result set that announces more rows than there is
room for, and no operation crashes otherwise; then all earlier connections have come back, and
nothing is called after the statement that the result set is of. -/
theorem session_connections_balanced_iff (steps : List (Step σ)) (s : σ) :
    (a.traced.performAll (steps.map (Step.traced κ))).run (.start s) =
        (((a.performAll steps).run s).1,
          ⟨((a.performAll steps).run s).2, (a.sessionCalls steps s).flatten⟩) ∧
      List.Forall₂ (fun p calls => ConnectionLaw p.1 calls p.2)
        (steps.zip ((a.performAll steps).run s).1) (a.sessionCalls steps s) :=
  ⟨a.performAll_traced steps s [], a.session_forall (fun _ _ _ => a.performs_connectionLaw) steps s⟩

/-- A search is answered with a result set that announces as many rows as 64 bits can count. The
connection is not given back. -/
theorem overfull_search_keeps_connection :
    ¬ List.Forall₂ (fun (_ : Step Rehearsal.Pool) calls => Balanced calls) [.find "users" {}]
      ((Rehearsal.Pool.adapter "APP").sessionCalls [.find "users" {}]
        { outcomes := [.rows ⟨some (2 ^ 64 - 1), [], none⟩] }) := by
  have hcalls : (Rehearsal.Pool.adapter "APP").sessionCalls [.find "users" {}]
      { outcomes := [.rows ⟨some (2 ^ 64 - 1), [], none⟩] } =
      [[.acquire (.ok ()), .execute () "SELECT * FROM \"APP\".\"users\";" []
        (.ok (.rows ⟨some (2 ^ 64 - 1), [], none⟩))]] := rfl
  rw [hcalls, List.forall₂_cons]
  rintro ⟨hbalanced, -⟩
  have hcount := hbalanced.countP_eq
  simp [List.countP_cons, Call.grants, Call.givesBack] at hcount

end Adapter

end RowFerry
