import Mathlib.Algebra.Group.Nat.Defs
import RowFerry.Proofs.Attempts
import RowFerry.Proofs.Connections
import RowFerry.Proofs.FixedTable
import RowFerry.Rehearsal.Pool

/-!
What a migration copies. The rows of a fixed table are handed to the loader page by page, each of
them once and in order, and the summary accounts for every one. The invariant is about the rows that
are left from an offset on: reading them takes as many pages as they fill, and one request more.
-/

namespace RowFerry

variable {σ κ : Type}

/-! ## Requests and loads -/

/-- The request to the source that the call is, if it is one. -/
def Call.request? : Call κ → Option PageRequest
  | select request => some request
  | _ => none

/-- The page that the call has loaded, and what loading it gave. -/
def Call.loaded? : Call κ → Option (List Row × Except Failure BulkResult)
  | load page answer => some (page, answer)
  | _ => none

/-- The requests to the source, in order. -/
def requests (calls : List (Call κ)) : List PageRequest := calls.filterMap Call.request?

/-- The pages handed to the loader with what loading them gave, in order. -/
def loads (calls : List (Call κ)) : List (List Row × Except Failure BulkResult) :=
  calls.filterMap Call.loaded?

section

variable (request : PageRequest) (page : List Row) (answer : Except Failure BulkResult)
  (xs ys : List (Call κ))

@[simp] theorem requests_nil : requests ([] : List (Call κ)) = [] := rfl

@[simp] theorem requests_select : requests (.select request :: xs) = request :: requests xs := rfl

@[simp] theorem requests_load : requests (.load page answer :: xs) = requests xs := rfl

@[simp] theorem requests_append : requests (xs ++ ys) = requests xs ++ requests ys :=
  List.filterMap_append

@[simp] theorem loads_nil : loads ([] : List (Call κ)) = [] := rfl

@[simp] theorem loads_select : loads (.select request :: xs) = loads xs := rfl

@[simp] theorem loads_load : loads (.load page answer :: xs) = (page, answer) :: loads xs := rfl

@[simp] theorem loads_append : loads (xs ++ ys) = loads xs ++ loads ys := List.filterMap_append

end

/-- Is the call part of the loading of a page? -/
def Call.Inner (call : Call κ) : Prop := call.request? = none ∧ call.loaded? = none

theorem uses_inner {c : κ} {call : Call κ} (h : call.Uses c) : call.Inner := by
  cases call <;> first | exact ⟨rfl, rfl⟩ | cases h

theorem requests_inner {calls : List (Call κ)} (h : ∀ call ∈ calls, call.Inner) :
    requests calls = [] :=
  List.filterMap_eq_nil_iff.mpr fun call hc => (h call hc).1

theorem loads_inner {calls : List (Call κ)} (h : ∀ call ∈ calls, call.Inner) : loads calls = [] :=
  List.filterMap_eq_nil_iff.mpr fun call hc => (h call hc).2

theorem exchange_inner {calls : List (Call κ)} (h : Exchange calls) :
    ∀ call ∈ calls, call.Inner := by
  intro call hc
  cases h with
  | nothing => cases hc
  | refused f =>
    obtain rfl := List.mem_singleton.mp hc
    exact ⟨rfl, rfl⟩
  | used huse hlast =>
    simp only [List.mem_cons, List.mem_append, List.not_mem_nil, or_false] at hc
    rcases hc with rfl | hc | rfl
    · exact ⟨rfl, rfl⟩
    · exact uses_inner (huse call hc)
    · rcases hlast with rfl | rfl <;> exact ⟨rfl, rfl⟩

/-! ## Loading a page -/

/-- Every row of the page was inserted or is among the failures, which are in
the order of the page. -/
structure BulkResult.AccountsFor (result : BulkResult) (page : List Row) : Prop where
  attempted : result.attempted = page.length
  failed : (result.failures.map RowFailure.row).Sublist page

theorem insertsRows_accountsFor {c : κ} {compile : Row → Except CompileError Statement}
    {rows : List Row} {calls : List (Call κ)} {result : BulkResult}
    (h : InsertsRows c compile rows calls result) : result.AccountsFor rows := by
  obtain ⟨attempts, hattempts, -, rfl⟩ := h.attempts
  refine ⟨by rw [BulkResult.of_attempted, hattempts.length_eq], ?_⟩
  rw [← hattempts.rows]
  exact BulkResult.of_failed attempts

theorem loadsBatch_accountsFor {c : κ} {compile : Row → Except CompileError Statement}
    {rows : List Row} {calls : List (Call κ)} {r : Except Failure BulkResult} {result : BulkResult}
    (h : LoadsBatch compile rows c calls r) (hr : r = .ok result) : result.AccountsFor rows := by
  cases h with
  | mk h r =>
    cases r with
    | error f => cases hr
    | ok u =>
      cases hr
      exact insertsRows_accountsFor h

namespace Adapter

variable (a : Adapter σ κ)

theorem loads_accountsFor {table : String} {rows : List Row} {identityInsert : Bool}
    {calls : List (Call κ)} {result : BulkResult}
    (h : a.Loads table rows identityInsert calls (.ok result)) : result.AccountsFor rows := by
  cases identityInsert with
  | false =>
    cases h with
    | returned c h => exact loadsBatch_accountsFor h rfl
  | true =>
    cases h with
    | accepted _ h =>
      cases h with
      | loaded _ h _ => exact loadsBatch_accountsFor h rfl

end Adapter

/-! ## Pages -/

/-- The number of pages that some rows fill, the last of them perhaps in part. -/
def pageCount (rows : Nat) (limit : UInt64) : Nat := (rows + limit.toNat - 1) / limit.toNat

/-- The first page of some rows leaves one page less. -/
theorem pageCount_step {rows : Nat} {limit : UInt64} (hrows : 0 < rows) (hlimit : limit ≠ 0) :
    pageCount rows limit = pageCount (rows - limit.toNat) limit + 1 := by
  have hpos := limit_pos hlimit
  unfold pageCount
  rcases Nat.lt_or_ge rows limit.toNat with hlt | hge
  · have hnone : (rows - limit.toNat + limit.toNat - 1) / limit.toNat = 0 :=
      Nat.div_eq_of_lt (by omega)
    have hone : rows + limit.toNat - 1 = rows - 1 + limit.toNat := by omega
    rw [hnone, hone, Nat.add_div_right _ hpos, Nat.div_eq_of_lt (by omega)]
  · have hone : rows + limit.toNat - 1 =
      rows - limit.toNat + limit.toNat - 1 + limit.toNat := by omega
    rw [hone, Nat.add_div_right _ hpos]

theorem pageCount_zero {limit : UInt64} (hlimit : limit ≠ 0) : pageCount 0 limit = 0 := by
  have hpos := limit_pos hlimit
  exact Nat.div_eq_of_lt (by omega)

/-- The offsets of a table with fewer than `2 ^ 63` rows stay below `2 ^ 64`, also the last one. -/
theorem offset_lt {rows i : Nat} {limit : UInt64} (hlimit : limit ≠ 0) (hrows : rows < 2 ^ 63)
    (hi : i ≤ pageCount rows limit) : i * limit.toNat < 2 ^ 64 := by
  have hpos := limit_pos hlimit
  have hbound := limit.toNat_lt
  have hlast : i * limit.toNat ≤ rows + limit.toNat - 1 :=
    Nat.le_trans (Nat.mul_le_mul_right _ hi) (Nat.div_mul_le_self _ _)
  rcases Nat.lt_or_ge rows limit.toNat with hlt | hge
  · have hone : pageCount rows limit ≤ 1 := Nat.lt_succ_iff.mp (Nat.div_lt_of_lt_mul (by omega))
    have hi' : i * limit.toNat ≤ 1 * limit.toNat := Nat.mul_le_mul_right _ (Nat.le_trans hi hone)
    omega
  · omega

/-! ## The rows that are left -/

/-- The rows that are left from an offset on were requested page by page, loaded once each and in
order, and added to the summary. -/
structure CopiesRest (table : String) (limit : UInt64) (offset : Nat) (rest : List Row)
    (calls : List (Call κ)) (before after : MigrationSummary) : Prop where
  requested : requests calls = (List.range (pageCount rest.length limit + 1)).map fun i =>
    ⟨table, [], limit, UInt64.ofNat (offset + i * limit.toNat)⟩
  loaded : ((loads calls).map Prod.fst).flatten = rest
  pagesRead : after.pagesRead = before.pagesRead + pageCount rest.length limit
  rowsRead : after.rowsRead = before.rowsRead + rest.length
  rowsWritten : after.rowsWritten + after.failures.length =
    before.rowsWritten + before.failures.length + rest.length
  failed : ∃ failures, after.failures = before.failures ++ failures ∧
    (failures.map RowFailure.row).Sublist rest

/-- The request that finds no rows left. -/
theorem copiesRest_nil (table : String) {limit : UInt64} (hlimit : limit ≠ 0) (offset : UInt64)
    (summary : MigrationSummary) :
    CopiesRest (κ := κ) table limit offset.toNat [] [.select ⟨table, [], limit, offset⟩] summary
      summary where
  requested := by
    rw [List.length_nil, pageCount_zero hlimit]
    simp
  loaded := rfl
  pagesRead := by rw [List.length_nil, pageCount_zero hlimit, Nat.add_zero]
  rowsRead := rfl
  rowsWritten := rfl
  failed := ⟨[], (List.append_nil _).symm, .slnil⟩

/-- A page is requested and loaded before the rows after it. -/
theorem copiesRest_page {table : String} {limit offset : UInt64} (hlimit : limit ≠ 0)
    {rest : List Row} (hrest : rest ≠ []) {made more : List (Call κ)}
    (hmade : ∀ call ∈ made, call.Inner) {result : BulkResult}
    (hresult : result.AccountsFor (rest.take limit.toNat)) {before after : MigrationSummary}
    (h : CopiesRest table limit (offset.toNat + limit.toNat) (rest.drop limit.toNat) more
      (before.addPage (rest.take limit.toNat) result) after) :
    CopiesRest table limit offset.toNat rest
      (.select ⟨table, [], limit, offset⟩ ::
        ((made ++ [.load (rest.take limit.toNat) (.ok result)]) ++ more)) before after where
  requested := by
    have hstep := pageCount_step (List.length_pos_of_ne_nil hrest) hlimit
    rw [hstep, List.range_succ_eq_map, List.map_cons, List.map_map,
      requests_select, requests_append, requests_append, requests_inner hmade, requests_load,
      requests_nil, List.nil_append, List.nil_append, h.requested, List.length_drop]
    congr 1
    · simp
    · refine List.map_congr_left fun i _ => ?_
      simp only [Function.comp_apply, Nat.succ_eq_add_one, Nat.add_mul, Nat.one_mul,
        Nat.add_assoc, Nat.add_comm limit.toNat]
  loaded := by
    rw [loads_select, loads_append, loads_append, loads_inner hmade, List.nil_append, loads_load,
      loads_nil, List.singleton_append, List.map_cons, List.flatten_cons, h.loaded,
      List.take_append_drop]
  pagesRead := by
    rw [h.pagesRead, pageCount_step (List.length_pos_of_ne_nil hrest) hlimit, List.length_drop]
    simp only [MigrationSummary.addPage]
    omega
  rowsRead := by
    rw [h.rowsRead]
    simp only [MigrationSummary.addPage, List.length_take, List.length_drop]
    omega
  rowsWritten := by
    have hattempted := hresult.attempted
    rw [h.rowsWritten]
    simp only [BulkResult.attempted, List.length_take] at hattempted
    simp only [MigrationSummary.addPage, BulkResult.attempted, List.length_append, List.length_drop]
    omega
  failed := by
    obtain ⟨failures, hfailures, hsub⟩ := h.failed
    refine ⟨result.failures ++ failures, ?_, ?_⟩
    · rw [hfailures, MigrationSummary.addPage, List.append_assoc]
    · have hall := hresult.failed.append hsub
      rwa [List.take_append_drop, ← List.map_append] at hall

/-- The rows that are left are copied when no load of theirs fails. -/
theorem LoadsRest.copiesRest {P : List Row → List (Call κ) → Except Failure BulkResult → Prop}
    (hinner : ∀ page calls r, P page calls r → ∀ call ∈ calls, call.Inner)
    (haccounts : ∀ page calls result, P page calls (.ok result) → result.AccountsFor page)
    {table : String} {limit : UInt64} (hlimit : limit ≠ 0) {offset : UInt64} {rest : List Row}
    {summary : MigrationSummary} {calls : List (Call κ)} {r : Except Failure MigrationSummary}
    (hloads : ∀ load ∈ loads calls, load.2.isOk = true)
    (h : LoadsRest (Marked P) table limit offset rest summary calls r) :
    ∃ after, r = .ok after ∧ CopiesRest table limit offset.toNat rest calls summary after := by
  induction h with
  | finished offset summary => exact ⟨summary, rfl, copiesRest_nil table hlimit offset summary⟩
  | @notLoaded _ rest _ _ f hne hp =>
    obtain ⟨made, -, rfl⟩ := hp
    have hok := hloads (rest.take limit.toNat, .error f) (by simp)
    cases hok
  | loaded hne hnext hp _ ih =>
    obtain ⟨made, hp, rfl⟩ := hp
    simp only [loads_select, loads_append] at hloads
    have hlater := (List.forall_mem_append.mp hloads).2
    obtain ⟨after, hafter, hcopies⟩ := ih hlater
    rw [hnext] at hcopies
    exact ⟨after, hafter, copiesRest_page hlimit hne (hinner _ _ _ hp) (haccounts _ _ _ hp) hcopies⟩

theorem loadsPages_copiesRest {P : List Row → List (Call κ) → Except Failure BulkResult → Prop}
    (hinner : ∀ page calls r, P page calls r → ∀ call ∈ calls, call.Inner)
    (haccounts : ∀ page calls result, P page calls (.ok result) → result.AccountsFor page)
    {table : String} {limit : UInt64} (hlimit : limit ≠ 0) {rows : List Row}
    (hsize : rows.length < 2 ^ 63) {more : List PageAnswer} {left : Nat} {offset : UInt64}
    {summary : MigrationSummary} {calls : List (Call κ)} {r : Except Failure MigrationSummary}
    (hoffset : offset = 0 ∨ limit.toNat ≤ offset.toNat) (hleft : rows.length - offset.toNat < left)
    (hloads : ∀ load ∈ loads calls, load.2.isOk = true)
    (h : LoadsPages (Marked P) table limit offset summary
      (List.replicate left (pageOf rows) ++ more) calls r) :
    ∃ after, r = .ok after ∧
      CopiesRest table limit offset.toNat (rows.drop offset.toNat) calls summary after :=
  (loadsPages_loadsRest hlimit hsize hoffset hleft h).copiesRest hinner haccounts hlimit hloads

namespace Adapter

variable (a : Adapter σ κ)

/-- **A migration copies every row once and accounts for it.** From a fixed table of fewer than
`2 ^ 63` rows, when no load fails as a whole, it asks for one page more than the rows fill, at
offsets that do not overflow; it hands the rows to the loader once each and in order; and the totals
of its summary and the order of its failures are those of the table. -/
theorem migrate_copies_table (rows : List Row) (source : RowSource σ)
    (sourceTable targetTable : String) (o : MigrationOptions) (s : σ)
    (hsource : tableAnswers rows <+: source.answers) (hlimit : o.pageLimit ≠ 0)
    (hsize : rows.length < 2 ^ 63)
    (hloads : ∀ load ∈ loads ((a.markedMigrate source sourceTable targetTable o).callsFrom s),
      load.2.isOk = true) :
    ∃ summary, ((a.migrate source sourceTable targetTable o).runFrom s).1 = .ok summary ∧
      requests ((a.markedMigrate source sourceTable targetTable o).callsFrom s) =
        (List.range (pageCount rows.length o.pageLimit + 1)).map (fun i =>
          ⟨sourceTable, [], o.pageLimit, UInt64.ofNat (i * o.pageLimit.toNat)⟩) ∧
      (∀ i ≤ pageCount rows.length o.pageLimit, i * o.pageLimit.toNat < 2 ^ 64) ∧
      ((loads ((a.markedMigrate source sourceTable targetTable o).callsFrom s)).map
        Prod.fst).flatten = rows ∧
      summary.pagesRead = pageCount rows.length o.pageLimit ∧
      summary.rowsRead = rows.length ∧
      summary.rowsWritten + summary.failures.length = rows.length ∧
      (summary.failures.map RowFailure.row).Sublist rows := by
  obtain ⟨more, hmore⟩ := hsource
  have h := (a.markedMigrate_follows source sourceTable targetTable o).calls s
  generalize (a.markedMigrate source sourceTable targetTable o).callsFrom s = calls,
    ((a.migrate source sourceTable targetTable o).runFrom s).1 = r at h hloads ⊢
  rw [← hmore, tableAnswers] at h
  cases h with
  | noLimit hzero => exact absurd hzero hlimit
  | pages _ h =>
    obtain ⟨summary, rfl, hcopies⟩ := loadsPages_copiesRest
      (fun _ _ _ hp => exchange_inner (a.loads_exchange hp))
        (fun _ _ _ => a.loads_accountsFor) hlimit
      hsize (.inl rfl) (by omega) hloads h
    rw [UInt64.toNat_zero, List.drop_zero] at hcopies
    obtain ⟨failures, hfailures, hsub⟩ := hcopies.failed
    refine ⟨summary, rfl, ?_, fun i => offset_lt hlimit hsize, hcopies.loaded, ?_, ?_, ?_, ?_⟩
    · simpa only [Nat.zero_add] using hcopies.requested
    · simpa [MigrationSummary.empty] using hcopies.pagesRead
    · simpa [MigrationSummary.empty] using hcopies.rowsRead
    · simpa [MigrationSummary.empty] using hcopies.rowsWritten
    · rwa [hfailures]

/-- Three rows of which the last repeats the key of the first. -/
def repeatedKey : List Row :=
  [Row.ofList [("id", .i64 1)], Row.ofList [("id", .i64 2)], Row.ofList [("id", .i64 1)]]

/-- The last row is refused and accounted for; the third request finds nothing. -/
theorem repeatedKey_copied :
    ∃ summary, (((Rehearsal.Pool.adapter "APP").migrate
      (Rehearsal.Pool.source (tableAnswers repeatedKey))
        "people" "users" ⟨2, true⟩).runFrom {}).1 = .ok summary ∧
      requests (((Rehearsal.Pool.adapter "APP").markedMigrate
        (Rehearsal.Pool.source (tableAnswers repeatedKey)) "people" "users" ⟨2, true⟩).callsFrom
          {}) =
        [⟨"people", [], 2, 0⟩, ⟨"people", [], 2, 2⟩, ⟨"people", [], 2, 4⟩] ∧
      summary.pagesRead = 2 ∧ summary.rowsRead = 3 ∧
      summary.rowsWritten + summary.failures.length = 3 := by
  have hloads : loads (((Rehearsal.Pool.adapter "APP").markedMigrate
      (Rehearsal.Pool.source (tableAnswers repeatedKey)) "people" "users" ⟨2, true⟩).callsFrom {}) =
      [(repeatedKey.take 2, .ok ⟨2, []⟩),
        (repeatedKey.drop 2, .ok ⟨0, [⟨(Failure.execution .insert
          "unique constraint violated: 1").message, Row.ofList [("id", .i64 1)]⟩]⟩)] := rfl
  obtain ⟨summary, hok, hrequests, -, -, hpages, hread, hwritten, -⟩ :=
    (Rehearsal.Pool.adapter "APP").migrate_copies_table repeatedKey
      (Rehearsal.Pool.source (tableAnswers repeatedKey)) "people" "users" ⟨2, true⟩ {}
      (List.prefix_refl _) (by decide) (by decide) (by rw [hloads]; decide)
  exact ⟨summary, hok, hrequests, hpages, hread, hwritten⟩

end Adapter

end RowFerry
