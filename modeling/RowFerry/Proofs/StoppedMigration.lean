import RowFerry.Proofs.MigrationAccounting

/-!
Where a migration stops. The pages before the end were requested one after another, each with its
offset, and each was loaded before the next request. Then comes the last request: it finds no rows,
it fails, or the load of its page does; and after it nothing is called.
-/

namespace RowFerry

variable {σ κ : Type}

/-- The request for a page of a table, the pages counted from zero. -/
def pageRequest (table : String) (limit : UInt64) (page : Nat) : PageRequest :=
  ⟨table, [], limit, UInt64.ofNat (page * limit.toNat)⟩

/-- The calls of the first `k` pages: each was requested, came with rows and was loaded. -/
inductive PagesLoaded (answers : List PageAnswer) (table : String) (limit : UInt64) :
    Nat → List (Call κ) → Prop
  | nothing : PagesLoaded answers table limit 0 []
  | next {k : Nat} {calls made : List (Call κ)} {answer : PageAnswer} {page : List Row}
    {result : BulkResult} (h : PagesLoaded answers table limit k calls)
    (hanswer : answers[k]? = some answer) (hpage : answer (pageRequest table limit k) = .ok page)
    (hne : page ≠ []) (hmade : ∀ call ∈ made, call.Inner) :
    PagesLoaded answers table limit (k + 1)
      (calls ++ .select (pageRequest table limit k) :: (made ++ [.load page (.ok result)]))

/-- The last request of a migration, and what it gives. -/
inductive StopsAt (answers : List PageAnswer) (table : String) (limit : UInt64) (k : Nat) :
    List (Call κ) → Except Failure MigrationSummary → Prop
  | complete (hend : ∀ answer ∈ answers[k]?, answer (pageRequest table limit k) = .ok [])
    (summary : MigrationSummary) :
    StopsAt answers table limit k [.select (pageRequest table limit k)] (.ok summary)
  | unread {answer : PageAnswer} {f : Failure} (hanswer : answers[k]? = some answer)
    (h : answer (pageRequest table limit k) = .error f) :
    StopsAt answers table limit k [.select (pageRequest table limit k)] (.error f.asSource)
  | notLoaded {answer : PageAnswer} {page : List Row} {made : List (Call κ)} {f : Failure}
    (hanswer : answers[k]? = some answer) (hpage : answer (pageRequest table limit k) = .ok page)
    (hmade : ∀ call ∈ made, call.Inner) :
    StopsAt answers table limit k
      (.select (pageRequest table limit k) :: (made ++ [.load page (.error f)])) (.error f)

theorem pageRequest_next (limit : UInt64) (k : Nat) :
    UInt64.ofNat (k * limit.toNat) + limit = UInt64.ofNat ((k + 1) * limit.toNat) := by
  rw [Nat.succ_mul, UInt64.ofNat_add, UInt64.ofNat_toNat]

/-- The answers from one on are this one and those from the next on. -/
theorem answers_left {answers rest : List PageAnswer} {answer : PageAnswer} {k : Nat}
    (h : answer :: rest = answers.drop k) :
    answers[k]? = some answer ∧ rest = answers.drop (k + 1) := by
  have hfirst : (answers.drop k)[0]? = answers[k]? := by rw [List.getElem?_drop, Nat.add_zero]
  rw [← hfirst, ← List.tail_drop, ← h]
  exact ⟨rfl, rfl⟩

/-- Whatever pages came before, a migration comes to its last request. -/
theorem loadsPages_stopsAt {P : List Row → List (Call κ) → Except Failure BulkResult → Prop}
    (hinner : ∀ page calls r, P page calls r → ∀ call ∈ calls, call.Inner)
    {table : String} {limit : UInt64} {answers : List PageAnswer} {offset : UInt64}
    {summary : MigrationSummary} {rest : List PageAnswer} {calls : List (Call κ)}
    {r : Except Failure MigrationSummary}
    (h : LoadsPages (Marked P) table limit offset summary rest calls r) {k : Nat}
    {before : List (Call κ)} (hoffset : offset = UInt64.ofNat (k * limit.toNat))
    (hrest : rest = answers.drop k) (hbefore : PagesLoaded answers table limit k before) :
    ∃ n loaded last, before ++ calls = loaded ++ last ∧ PagesLoaded answers table limit n loaded ∧
      StopsAt answers table limit n last r := by
  -- A page that is loaded goes to the calls before; the offset of the next
  -- is that of the next number.
  induction h generalizing k before with
  | exhausted offset summary =>
    subst hoffset
    have hnone : answers[k]? = none := List.getElem?_eq_none (List.drop_eq_nil_iff.mp hrest.symm)
    exact ⟨k, before, _, rfl, hbefore, .complete (by simp [hnone]) summary⟩
  | unread h =>
    subst hoffset
    exact ⟨k, before, _, rfl, hbefore, .unread (answers_left hrest).1 h⟩
  | @finished _ summary _ _ h =>
    subst hoffset
    refine ⟨k, before, _, rfl, hbefore, .complete (fun answer hanswer => ?_) summary⟩
    obtain rfl := Option.some.inj ((answers_left hrest).1.symm.trans hanswer)
    exact h
  | notLoaded h _ hp =>
    subst hoffset
    obtain ⟨made, hp, rfl⟩ := hp
    exact ⟨k, before, _, rfl, hbefore, .notLoaded (answers_left hrest).1 h (hinner _ _ _ hp)⟩
  | @loaded _ _ _ _ page _ _ result _ h hne hp _ ih =>
    subst hoffset
    obtain ⟨made, hp, rfl⟩ := hp
    obtain ⟨hanswer, hlater⟩ := answers_left hrest
    have hthis : PagesLoaded answers table limit (k + 1)
        (before ++ .select (pageRequest table limit k) :: (made ++ [.load page (.ok result)])) :=
      hbefore.next hanswer h hne (hinner _ _ _ hp)
    obtain ⟨n, loaded, last, hcalls, hloaded, hlast⟩ := ih (pageRequest_next limit k) hlater hthis
    refine ⟨n, loaded, last, ?_, hloaded, hlast⟩
    rw [← hcalls]
    simp [pageRequest]

/-! ## The pages before the last request -/

section PagesLoaded

variable {answers : List PageAnswer} {table : String} {limit : UInt64} {k : Nat}
  {calls : List (Call κ)}

theorem PagesLoaded.requests_eq (h : PagesLoaded answers table limit k calls) :
    requests calls = (List.range k).map (pageRequest table limit) := by
  induction h with
  | nothing => rfl
  | next _ _ _ _ hmade ih => simp [ih, requests_inner hmade, List.range_succ]

theorem PagesLoaded.loads_ok (h : PagesLoaded answers table limit k calls) :
    (loads calls).length = k ∧ ∀ load ∈ loads calls, load.2.isOk = true := by
  induction h with
  | nothing => exact ⟨rfl, by simp⟩
  | next _ _ _ _ hmade ih =>
    simp only [loads_append, loads_select, loads_inner hmade, loads_load,
      loads_nil, List.nil_append]
    refine ⟨by rw [List.length_append, ih.1]; rfl, List.forall_mem_append.mpr ⟨ih.2, ?_⟩⟩
    exact List.forall_mem_singleton.mpr rfl

/-- Every page before the last request came with rows. -/
theorem PagesLoaded.answered (h : PagesLoaded answers table limit k calls) {i : Nat} (hi : i < k) :
    ∃ answer page, answers[i]? = some answer ∧ answer (pageRequest table limit i) =
      .ok page ∧ page ≠ [] := by
  induction h with
  | nothing => cases hi
  | @next k _ _ _ _ _ _ hanswer hpage hne _ ih =>
    rcases Nat.lt_succ_iff_lt_or_eq.mp hi with hi | rfl
    · exact ih hi
    · exact ⟨_, _, hanswer, hpage, hne⟩

end PagesLoaded

/-! ## The failures -/

/-- A migration goes on up to its first failure, and stops there. Pages are counted from zero:
before the one that fails are as many as its number. -/
structure StopsCleanly (answers : List PageAnswer) (table : String) (limit : UInt64)
    (calls : List (Call κ)) (r : Except Failure MigrationSummary) : Prop where
  /-- Without a page limit nothing is called. -/
  noLimit : limit = 0 → calls = [] ∧ r = .error (.config .emptyMigrationPages)
  /-- A request that was made and failed is the last call. The failure is of the source, with its
  own cause or the text of a failure of another kind. -/
  unread : ∀ k answer f, k < (requests calls).length → answers[k]? = some answer →
    answer (pageRequest table limit k) = .error f →
    ∃ before cause, calls = before ++ [.select (pageRequest table limit k)] ∧
      PagesLoaded answers table limit k before ∧ r = .error (.source cause) ∧
      (∀ own, f = .source own → cause = own) ∧
      ((∀ own, f ≠ .source own) → cause = .reported f.message)
  /-- After a load that failed there is no call, and its failure is that of the migration. -/
  notLoaded : ∀ (k : Nat) (page : List Row) (f : Failure), (loads calls)[k]? =
    some (page, .error f) →
    ∃ before made, calls = before ++ .select (pageRequest table limit k) ::
      (made ++ [.load page (.error f)]) ∧
      PagesLoaded answers table limit k before ∧ (∀ call ∈ made, call.Inner) ∧ r = .error f
  /-- There is no other way to fail. -/
  cause : ∀ f, r = .error f → limit = 0 ∨
    (∃ k answer g, k < (requests calls).length ∧ answers[k]? = some answer ∧
      answer (pageRequest table limit k) = .error g) ∨
    ∃ (k : Nat) (page : List Row), (loads calls)[k]? = some (page, .error f)
  /-- Without a failure the last request is the first one that finds no rows. -/
  complete : ∀ summary, r = .ok summary →
    ∃ k before, calls = before ++ [.select (pageRequest table limit k)] ∧
    PagesLoaded answers table limit k before ∧
    ∀ answer ∈ answers[k]?, answer (pageRequest table limit k) = .ok []

section StopsCleanly

variable {answers : List PageAnswer} {table : String} {limit : UInt64} {k : Nat}
  {before last : List (Call κ)} {r : Except Failure MigrationSummary}

/-- A failure of the source has its own cause or the text of a failure of another kind. -/
theorem Failure.asSource_cause (f : Failure) : ∃ cause, f.asSource = .source cause ∧
    (∀ own, f = .source own → cause = own) ∧
    ((∀ own, f ≠ .source own) → cause = .reported f.message) := by
  cases f with
  | source own => exact ⟨own, rfl, fun _ h => Failure.source.inj h, fun h => absurd rfl (h own)⟩
  | _ => exact ⟨_, rfl, (by rintro _ ⟨⟩), fun _ => rfl⟩

theorem StopsAt.requests_eq (h : StopsAt answers table limit k last r) :
    requests last = [pageRequest table limit k] := by
  cases h with
  | complete | unread => rfl
  | notLoaded _ _ hmade => simp [requests_inner hmade]

theorem StopsAt.loads_le (h : StopsAt answers table limit k last r) : (loads last).length ≤ 1 := by
  cases h with
  | complete | unread => exact Nat.zero_le 1
  | notLoaded _ _ hmade => simp [loads_inner hmade]

theorem StopsCleanly.ofNoLimit (hlimit : limit = 0) :
    @StopsCleanly κ answers table limit [] (.error (.config .emptyMigrationPages)) where
  noLimit _ := ⟨rfl, rfl⟩
  unread _ _ _ hk := by cases hk
  notLoaded _ _ _ hload := by cases hload
  cause _ _ := .inl hlimit
  complete _ h := by cases h

theorem PagesLoaded.stopsCleanly (hlimit : limit ≠ 0)
    (hbefore : PagesLoaded answers table limit k before)
    (hlast : StopsAt answers table limit k last r) :
    StopsCleanly answers table limit (before ++ last) r where
  noLimit h := absurd h hlimit
  unread n answer f hn hanswer hf := by
    rw [requests_append, hbefore.requests_eq, hlast.requests_eq] at hn
    have hn : n < k + 1 := by simpa using hn
    rcases Nat.lt_succ_iff_lt_or_eq.mp hn with hn | rfl
    · obtain ⟨answer', page, hanswer', hpage, -⟩ := hbefore.answered hn
      obtain rfl := Option.some.inj (hanswer.symm.trans hanswer')
      cases hf.symm.trans hpage
    · cases hlast with
      | complete hend => cases hf.symm.trans (hend answer hanswer)
      | unread hanswer' h =>
        obtain rfl := Option.some.inj (hanswer.symm.trans hanswer')
        obtain rfl := Except.error.inj (hf.symm.trans h)
        obtain ⟨cause, hsource, hown, hother⟩ := f.asSource_cause
        exact ⟨before, cause, rfl, hbefore, congrArg Except.error hsource, hown, hother⟩
      | notLoaded hanswer' hpage =>
        obtain rfl := Option.some.inj (hanswer.symm.trans hanswer')
        cases hf.symm.trans hpage
  notLoaded n page f hload := by
    obtain ⟨hlength, hok⟩ := hbefore.loads_ok
    rw [loads_append] at hload
    rcases Nat.lt_or_ge n (loads before).length with hn | hn
    · rw [List.getElem?_append_left hn] at hload
      cases hok _ (List.mem_of_getElem? hload)
    · rw [List.getElem?_append_right hn] at hload
      cases hlast with
      | complete | unread => cases hload
      | @notLoaded answer page' made f' _ _ hmade =>
        simp only [loads_select, loads_append, loads_inner hmade, List.nil_append,
          loads_load, loads_nil, List.getElem?_singleton] at hload
        split at hload
        next hfirst =>
          cases hload
          obtain rfl : n = k := by omega
          exact ⟨before, made, rfl, hbefore, hmade, rfl⟩
        next => cases hload
  cause f hf := by
    cases hlast with
    | complete => cases hf
    | @unread answer g hanswer h =>
      refine .inr (.inl ⟨k, answer, g, ?_, hanswer, h⟩)
      rw [requests_append, hbefore.requests_eq]
      simp
    | @notLoaded answer page made g _ _ hmade =>
      cases hf
      refine .inr (.inr ⟨k, page, ?_⟩)
      rw [loads_append, List.getElem?_append_right hbefore.loads_ok.1.le, hbefore.loads_ok.1]
      simp [loads_inner hmade]
  complete summary hok := by
    cases hlast with
    | complete hend => exact ⟨k, before, rfl, hbefore, hend⟩
    | unread | notLoaded => cases hok

end StopsCleanly

namespace Adapter

variable (a : Adapter σ κ)

/-- A page that is answered with a failure is not loaded, nor is any later one; and a migration
that requests it fails. -/
theorem migrate_unread (source : RowSource σ) (sourceTable targetTable : String)
    (o : MigrationOptions) (s : σ) {number : Nat} {answer : PageAnswer} {f : Failure}
    (hanswer : source.answers[number]? = some answer)
    (hunread : answer (pageRequest sourceTable o.pageLimit number) = .error f) :
    (loads ((a.markedMigrate source sourceTable targetTable o).callsFrom s)).length ≤ number ∧
      (number < (requests ((a.markedMigrate source sourceTable targetTable o).callsFrom s)).length →
        ((a.migrate source sourceTable targetTable o).runFrom s).1 = .error f.asSource) := by
  have h := (a.markedMigrate_follows source sourceTable targetTable o).calls s
  generalize (a.markedMigrate source sourceTable targetTable o).callsFrom s = calls,
    ((a.migrate source sourceTable targetTable o).runFrom s).1 = r at h ⊢
  cases h with
  | noLimit => exact ⟨Nat.zero_le _, nofun⟩
  | pages hlimit h =>
    obtain ⟨n, loaded, last, hcalls, hloaded, hlast⟩ :=
      loadsPages_stopsAt (fun _ _ _ hp => exchange_inner (a.loads_exchange hp)) h
        (by simp) rfl .nothing
    rw [List.nil_append] at hcalls
    have hloads : (loads calls).length = n + (loads last).length := by
      rw [hcalls, loads_append, List.length_append, hloaded.loads_ok.1]
    have hrequests : (requests calls).length = n + 1 := by
      rw [hcalls, requests_append, hloaded.requests_eq, hlast.requests_eq]
      simp
    have hle := hlast.loads_le
    -- The last request is at the failure or before it: a page that comes
    -- after was answered with rows.
    rcases Nat.lt_trichotomy n number with hn | rfl | hn
    · exact ⟨by omega, fun hrequested => by omega⟩
    · cases hlast with
      | complete hend => cases hunread.symm.trans (hend answer hanswer)
      | unread hanswer' hf =>
        obtain rfl := Option.some.inj (hanswer.symm.trans hanswer')
        obtain rfl := Except.error.inj (hunread.symm.trans hf)
        exact ⟨hloads.le, fun _ => rfl⟩
      | notLoaded hanswer' hpage =>
        obtain rfl := Option.some.inj (hanswer.symm.trans hanswer')
        cases hunread.symm.trans hpage
    · obtain ⟨answer', page, hanswer', hpage, -⟩ := hloaded.answered hn
      obtain rfl := Option.some.inj (hanswer.symm.trans hanswer')
      cases hunread.symm.trans hpage

/-- **A failed migration stops cleanly.** For every source, page limit, engine and state, a request
that fails is the last call and its failure is a failure of the source; a load that fails ends the
migration with the same failure and without another request; and either way exactly the pages before
were requested with rows and loaded, one after another. Without a page limit there is no call at
all, and without a failure the first request that finds no rows is the last call. -/
theorem migrate_stops_cleanly (source : RowSource σ) (sourceTable targetTable : String)
    (o : MigrationOptions) (s : σ) :
    StopsCleanly source.answers sourceTable o.pageLimit
      ((a.markedMigrate source sourceTable targetTable o).callsFrom s)
      ((a.migrate source sourceTable targetTable o).runFrom s).1 := by
  have h := (a.markedMigrate_follows source sourceTable targetTable o).calls s
  generalize (a.markedMigrate source sourceTable targetTable o).callsFrom s = calls,
    ((a.migrate source sourceTable targetTable o).runFrom s).1 = r at h ⊢
  cases h with
  | noLimit hzero => exact .ofNoLimit hzero
  | pages hlimit h =>
    obtain ⟨n, loaded, last, hcalls, hloaded, hlast⟩ :=
      loadsPages_stopsAt (fun _ _ _ hp => exchange_inner (a.loads_exchange hp)) h
        (by simp) rfl .nothing
    rw [List.nil_append] at hcalls
    rw [hcalls]
    exact hloaded.stopsCleanly hlimit hlast

/-- The source of one row that is lost after its first page. -/
def lostSource : RowSource Rehearsal.Pool :=
  Rehearsal.Pool.source [pageOf [Row.ofList [("id", .i64 1)]], fun _ =>
    .error (.driver "gone away")]

/-- The first page was loaded; the second request is the last call. -/
theorem lostSource_stops :
    ∃ before cause,
      ((Rehearsal.Pool.adapter "APP").markedMigrate lostSource "people" "users" ⟨1, true⟩).callsFrom
        {} =
        before ++ [.select (pageRequest "people" 1 1)] ∧
      PagesLoaded lostSource.answers "people" 1 1 before ∧
      (((Rehearsal.Pool.adapter "APP").migrate lostSource "people" "users" ⟨1, true⟩).runFrom
        {}).1 =
        .error (.source cause) ∧ cause = .reported "gone away" := by
  have hrequests : requests
    (((Rehearsal.Pool.adapter "APP").markedMigrate lostSource "people" "users"
      ⟨1, true⟩).callsFrom {}) = [pageRequest "people" 1 0, pageRequest "people" 1 1] := rfl
  obtain ⟨before, cause, hcalls, hbefore, hresult, -, hother⟩ :=
    ((Rehearsal.Pool.adapter "APP").migrate_stops_cleanly lostSource "people" "users"
      ⟨1, true⟩ {}).unread 1 _
      (.driver "gone away") (by rw [hrequests]; decide) rfl rfl
  exact ⟨before, cause, hcalls, hbefore, hresult, hother (by simp)⟩

end Adapter

end RowFerry
