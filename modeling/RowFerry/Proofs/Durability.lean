import RowFerry.Proofs.IdentityInsert

/-!
What a failed bulk load has written. Nothing, with one exception: when identity insert is switched
and the commit of the batch is refused, the rows are still part of the transaction of the
connection, and the commit that follows the switch back makes them durable.
-/

namespace RowFerry

variable {σ κ α : Type}

namespace Adapter

variable (a : Adapter σ κ)

/-- A row was inserted and a commit on its connection succeeded later. -/
def Written (table : String) (rows : List Row) (calls : List (Call κ)) : Prop :=
  ∃ row ∈ rows, ∃ s o c, a.compiler.create table row = .ok s ∧
    [.execute c s.sql s.values (.ok o), .commit c (.ok ())].Sublist calls

/-- A row was inserted, the commit after it was refused, and then identity insert was turned off and
this was committed. -/
def WrittenByReset (table : String) (rows : List Row) (calls : List (Call κ)) : Prop :=
  ∃ row ∈ rows, ∃ s o c f disable o', a.compiler.create table row = .ok s ∧
    a.compiler.identityInsert table false = .ok disable ∧
    [.execute c s.sql s.values (.ok o), .commit c (.error f), .execute c disable [] (.ok o'),
      .commit c (.ok ())].Sublist calls

end Adapter

/-! ## One call before another -/

theorem pair_sublist_append {x y : α} {xs ys : List α} (h : [x, y].Sublist (xs ++ ys)) :
    [x, y].Sublist xs ∨ (x ∈ xs ∧ y ∈ ys) ∨ [x, y].Sublist ys := by
  obtain ⟨l, l', hl, hxs, hys⟩ := List.sublist_append_iff.mp h
  match l, l' with
  | [], _ =>
    obtain rfl : [x, y] = _ := hl
    exact .inr (.inr hys)
  | [_], _ =>
    cases hl
    exact .inr (.inl ⟨List.singleton_sublist.mp hxs, List.singleton_sublist.mp hys⟩)
  | _ :: _ :: l, l' =>
    obtain ⟨rfl, rfl, hnil⟩ : x = _ ∧ y = _ ∧ [] = l ++ l' := by simpa using hl
    obtain ⟨rfl, -⟩ := List.append_eq_nil_iff.mp hnil.symm
    exact .inl hxs

/-- A pair whose first element comes late comes late. -/
theorem pair_sublist_right {x y : α} (xs : List α) {ys : List α} (h : [x, y].Sublist (xs ++ ys))
    (hx : x ∉ xs) : [x, y].Sublist ys := by
  rcases pair_sublist_append h with h | ⟨hmem, -⟩ | h
  · exact absurd (h.subset (List.mem_cons_self ..)) hx
  · exact absurd hmem hx
  · exact h

/-! ## Statements and commits of a load -/

section Calls

variable {c d : κ} {sql sql' : String} {values : List Value} {answer : Except Failure Outcome}
  {r : Except Failure Unit} {calls : List (Call κ)}

@[simp] theorem execute_not_mem_closing (o : Outcome) :
    .execute c sql values answer ∉ o.closing := by
  cases o <;> simp [Outcome.closing]

@[simp] theorem commit_not_mem_closing (o : Outcome) : .commit c r ∉ o.closing := by
  cases o <;> simp [Outcome.closing]

theorem Switches.execute_eq {r : Except Failure Unit} (h : Switches c sql calls r)
    (hmem : .execute d sql' values answer ∈ calls) : sql' = sql := by
  obtain ⟨r', hr, -⟩ := h
  cases hr with
  | refused f =>
    simp only [List.mem_cons, Call.execute.injEq, List.not_mem_nil, or_false] at hmem
    exact hmem.2.1
  | executed o r =>
    simp only [List.mem_cons, Call.execute.injEq, List.mem_append, execute_not_mem_closing,
      reduceCtorEq, List.not_mem_nil, or_self, or_false] at hmem
    exact hmem.2.1

/-- The commit of a switch answers what the switch gives. -/
theorem Switches.commit_eq {r r' : Except Failure Unit} (h : Switches c sql calls r)
    (hmem : .commit d r' ∈ calls) : d = c ∧ r' = r := by
  obtain ⟨r'', hr, rfl⟩ := h
  cases hr with
  | refused f => simp at hmem
  | executed o r =>
    simp only [List.mem_cons, reduceCtorEq, List.mem_append, commit_not_mem_closing,
      Call.commit.injEq, List.not_mem_nil, or_false, false_or] at hmem
    obtain ⟨rfl, rfl⟩ := hmem
    cases r' <;> exact ⟨rfl, rfl⟩

/-- A switch that succeeds is executed and then committed. -/
theorem Switches.sublist (h : Switches c sql calls (.ok ())) :
    ∃ o, [.execute c sql [] (.ok o), .commit c (.ok ())].Sublist calls := by
  obtain ⟨o, rfl⟩ := h.ok_calls
  exact ⟨o, .cons_cons _ (List.sublist_append_right _ _)⟩

/-- Nothing is executed after the commit of a switch. -/
theorem Switches.commit_last {r r' : Except Failure Unit} (h : Switches c sql calls r)
    (hpair : [.commit d r', .execute d sql' values answer].Sublist calls) : False := by
  obtain ⟨r'', hr, -⟩ := h
  cases hr with
  | refused f => simpa using hpair.length_le
  | executed o r =>
    have hlate := pair_sublist_right [_] hpair (by simp)
    have hmem := hlate.subset (List.mem_cons_of_mem _ (List.mem_cons_self ..))
    simp at hmem

theorem InsertsRows.no_commit {compile : Row → Except CompileError Statement} {rows : List Row}
    {result : BulkResult} (h : InsertsRows c compile rows calls result) : .commit d r ∉ calls := by
  induction h with
  | nil => simp
  | cons h _ ih =>
    rw [List.mem_append, not_or]
    refine ⟨?_, ih⟩
    cases h <;> simp

end Calls

/-! ## Batches -/

section Batch

variable {c d : κ} {compile : Row → Except CompileError Statement} {rows : List Row}
  {calls : List (Call κ)}

/-- The only commit of a batch is refused exactly when the batch fails. -/
theorem LoadsBatch.commit_isOk {r : Except Failure BulkResult} {r' : Except Failure Unit}
    (h : LoadsBatch compile rows c calls r) (hmem : .commit d r' ∈ calls) : r'.isOk = r.isOk := by
  cases h with
  | mk h r'' =>
    rcases List.mem_append.mp hmem with hmem | hmem
    · exact absurd hmem h.no_commit
    · obtain ⟨-, rfl⟩ := Call.commit.inj (List.mem_singleton.mp hmem)
      cases r' <;> rfl

/-- What a failed batch has executed comes before its commit. -/
theorem LoadsBatch.refused {f : Failure} {sql : String} {values : List Value}
    {answer : Except Failure Outcome} (h : LoadsBatch compile rows c calls (.error f))
    (hmem : .execute d sql values answer ∈ calls) :
    ∃ f', [.execute d sql values answer, .commit c (.error f')].Sublist calls := by
  generalize hr : (Except.error f : Except Failure BulkResult) = r at h
  cases h with
  | mk h r' =>
    cases r' with
    | ok u => cases hr
    | error f' =>
      have hfirst := List.mem_append.mp hmem
      simp only [List.mem_cons, reduceCtorEq, List.not_mem_nil, or_self, or_false] at hfirst
      exact ⟨f', (List.singleton_sublist.mpr hfirst).append (List.Sublist.refl _)⟩

/-- When a call of a failed batch is committed, the commit is that of the switch after the batch. -/
theorem LoadsBatch.committed_after {f : Failure} (h : LoadsBatch compile rows c calls (.error f))
    {before after : List (Call κ)} {call : Call κ} (hbefore : call ∉ before) (hafter : call ∉ after)
    (hpair : [call, .commit d (.ok ())].Sublist (before ++ (calls ++ after))) :
    call ∈ calls ∧ .commit d (.ok ()) ∈ after := by
  rcases pair_sublist_append (pair_sublist_right before hpair hbefore) with hin | hsplit | hin
  · have hcommit := h.commit_isOk (hin.subset (List.mem_cons_of_mem _ (List.mem_cons_self ..)))
    cases hcommit
  · exact hsplit
  · exact absurd (hin.subset (List.mem_cons_self ..)) hafter

end Batch

namespace Adapter

variable (a : Adapter σ κ)

/-- A load that does not touch identity insert and fails has written nothing. -/
theorem borrows_not_written {table : String} {rows : List Row} {calls : List (Call κ)} {f : Failure}
    (h : Borrows (LoadsBatch (a.compiler.create table) rows) calls (.error f)) :
    ¬ a.Written table rows calls := by
  rintro ⟨row, -, s, o, c, -, hpair⟩
  have hcommit := hpair.subset (List.mem_cons_of_mem _ (List.mem_cons_self ..))
  cases h with
  | refused f => simp at hcommit
  | returned d h =>
    simp only [List.mem_cons, reduceCtorEq, List.mem_append, List.not_mem_nil, or_self, or_false,
      false_or] at hcommit
    have hok := h.commit_isOk hcommit
    cases hok

/-- The commit that makes the rows of a failed load durable is that of the second switch. -/
theorem loadsToggled_written {table : String} {rows : List Row} {toggles : String × String}
    (htoggles : a.identityToggles table = .ok toggles) {calls : List (Call κ)} {f : Failure}
    (h : LoadsToggled toggles.1 toggles.2
      (LoadsBatch (a.compiler.create table) rows) calls (.error f))
    (hwritten : a.Written table rows calls) : a.WrittenByReset table rows calls := by
  obtain ⟨henable, hdisable⟩ := a.identityToggles_ok htoggles
  obtain ⟨row, hrow, s, o, d, hs, hpair⟩ := hwritten
  have hne : ∀ enabled sql, a.compiler.identityInsert table enabled = .ok sql → s.sql ≠ sql := by
    rintro enabled sql hsql rfl
    exact a.compiler.create_not_isSwitch hs (a.compiler.identityInsert_isSwitch hsql)
  cases h with
  | refused f => exact absurd (hpair.subset (List.mem_cons_self ..)) (by simp)
  | @notEnabled c calls f h =>
    have hmem := hpair.subset (List.mem_cons_self ..)
    simp only [List.mem_cons, reduceCtorEq, List.mem_append, List.not_mem_nil, or_self, or_false,
      false_or] at hmem
    exact absurd (h.execute_eq hmem) (hne true _ henable)
  | @loaded c on batch off r reset hon h hoff =>
    -- Only the batch executes rows, so the row is in the batch and the commit after it.
    have hbefore : .execute d s.sql s.values (.ok o) ∉ .acquire (.ok c) :: on := by
      rw [List.mem_cons, not_or]
      exact ⟨nofun, fun hmem => hne true _ henable (hon.execute_eq hmem)⟩
    have hafter : .execute d s.sql s.values (.ok o) ∉ off ++ [.ending c reset] := by
      rw [List.mem_append, not_or]
      refine ⟨fun hmem => hne false _ hdisable (hoff.execute_eq hmem), ?_⟩
      cases reset <;> simp [Call.ending]
    obtain ⟨hexecute, hcommit⟩ := h.committed_after hbefore hafter hpair
    have hreset : .commit d (.ok ()) ∈ off := by
      rcases List.mem_append.mp hcommit with hmem | hmem
      · exact hmem
      · cases reset <;> simp [Call.ending] at hmem
    obtain ⟨rfl, rfl⟩ := hoff.commit_eq hreset
    obtain ⟨f', hbatch⟩ := h.refused hexecute
    obtain ⟨o', hswitch⟩ := hoff.sublist
    refine ⟨row, hrow, s, o, d, f', toggles.2, o', hs, hdisable, ?_⟩
    have hall := hbatch.append (hswitch.append (List.nil_sublist [Call.ending d (.ok ())]))
    exact hall.trans (List.sublist_append_right (.acquire (.ok d) :: on) _)

theorem WrittenByReset.written {table : String} {rows : List Row} {calls : List (Call κ)}
    (h : a.WrittenByReset table rows calls) : a.Written table rows calls := by
  obtain ⟨row, hrow, s, o, c, f, disable, o', hs, -, hchain⟩ := h
  refine ⟨row, hrow, s, o, c, hs, List.Sublist.trans ?_ hchain⟩
  exact .cons_cons _ (.cons _ (.cons _ (.cons_cons _ .slnil)))

/-- Identity insert is turned off after a refused commit only when that was the commit of a failed
batch. -/
theorem loadsToggled_failed {table : String} {rows : List Row} {toggles : String × String}
    {calls : List (Call κ)} {r : Except Failure BulkResult}
    (h : LoadsToggled toggles.1 toggles.2 (LoadsBatch (a.compiler.create table) rows) calls r)
    (hreset : a.WrittenByReset table rows calls) : ∃ f, r = .error f := by
  obtain ⟨row, -, s, o, d, f, disable, o', -, -, hchain⟩ := hreset
  have hpair : [.commit d (.error f), .execute d disable [] (.ok o')].Sublist calls :=
    List.Sublist.trans (.cons _ (.cons_cons _ (.cons_cons _ (.cons _ .slnil)))) hchain
  cases h with
  | refused f => exact ⟨f, rfl⟩
  | notEnabled h => exact ⟨_, rfl⟩
  | @loaded c on batch off r reset hon h hoff =>
    cases r with
    | error f => exact ⟨f, rfl⟩
    | ok result =>
      have hnotOn : .commit d (.error f) ∉ .acquire (.ok c) :: on := by
        simp only [List.mem_cons, reduceCtorEq, false_or]
        intro hmem
        cases (hon.commit_eq hmem).2
      have hnotBatch : .commit d (.error f) ∉ batch := by
        intro hmem
        cases h.commit_isOk hmem
      have hlate := pair_sublist_right batch (pair_sublist_right _ hpair hnotOn) hnotBatch
      have hend : .execute d disable [] (.ok o') ∉ [Call.ending c reset] := by
        cases reset <;> simp [Call.ending]
      rcases pair_sublist_append hlate with hin | ⟨-, hmem⟩ | hin
      · exact (hoff.commit_last hin).elim
      · exact absurd hmem hend
      · exact absurd (hin.subset (List.mem_cons_of_mem _ (List.mem_cons_self ..))) hend

/-- A load that does not touch identity insert turns nothing off. -/
theorem borrows_not_writtenByReset {table : String} {rows : List Row} {calls : List (Call κ)}
    {r : Except Failure BulkResult}
    (h : Borrows (LoadsBatch (a.compiler.create table) rows) calls r) :
    ¬ a.WrittenByReset table rows calls := by
  rintro ⟨row, -, s, o, c, f, disable, o', -, hdisable, hchain⟩
  have hmem : .execute c disable [] (.ok o') ∈ calls := hchain.subset (by simp)
  exact a.borrows_quiet c h _ hmem ⟨rfl, a.compiler.identityInsert_isSwitch hdisable⟩

/-- **A load that fails has written nothing, with one exception.** For every batch and every pattern
of answers, no commit succeeds after a row of a failed load was inserted, unless the commit of the
batch is refused and then identity insert is turned off and this is committed. -/
theorem bulkCreate_failed_not_written_iff (table : String) (rows : List Row) (identityInsert : Bool)
    (s : σ) :
    (∀ f, ((a.bulkCreate table rows identityInsert).runFrom s).1 = .error f →
        ¬ a.Written table rows ((a.traced.bulkCreate table rows identityInsert).callsFrom s)) ↔
      ¬ a.WrittenByReset table rows
        ((a.traced.bulkCreate table rows identityInsert).callsFrom s) := by
  have h := (a.bulkCreate_follows table rows identityInsert).calls s
  generalize (a.traced.bulkCreate table rows identityInsert).callsFrom s = calls,
    ((a.bulkCreate table rows identityInsert).runFrom s).1 = r at h ⊢
  cases identityInsert with
  | false =>
    refine iff_of_true ?_ (a.borrows_not_writtenByReset h)
    rintro f rfl
    exact a.borrows_not_written h
  | true =>
    cases h with
    | rejected _ =>
      refine iff_of_true ?_ ?_
      · rintro f - ⟨row, -, s, o, c, -, hpair⟩
        simp at hpair
      · rintro ⟨row, -, s, o, c, f, disable, o', -, -, hchain⟩
        simp at hchain
    | accepted htoggles h =>
      constructor
      · intro hclean hreset
        obtain ⟨f, hf⟩ := a.loadsToggled_failed h hreset
        exact hclean f hf (WrittenByReset.written a hreset)
      · rintro hreset f rfl hwritten
        exact hreset (a.loadsToggled_written htoggles h hwritten)

/-- The exception: the commit of the batch is refused, the load fails, and the commit that turns
identity insert off makes the row durable. -/
theorem failed_load_written_by_reset :
    ¬ (∀ f, (((Rehearsal.Pool.adapter "APP").bulkCreate "users" [Row.ofList [("id", .i64 1)]]
        true).runFrom (.refusingCommit 1)).1 = .error f →
      ¬ (Rehearsal.Pool.adapter "APP").Written "users" [Row.ofList [("id", .i64 1)]]
        (((Rehearsal.Pool.adapter "APP").traced.bulkCreate "users" [Row.ofList [("id", .i64 1)]]
          true).callsFrom (.refusingCommit 1))) := by
  intro hclean
  refine hclean (.execution .bulk "commit refused") rfl ?_
  have hcalls : ((Rehearsal.Pool.adapter "APP").traced.bulkCreate "users"
      [Row.ofList [("id", .i64 1)]] true).callsFrom (.refusingCommit 1) =
      [.acquire (.ok ()),
        .execute () "SET IDENTITY_INSERT \"APP\".\"users\" ON;" [] (.ok (.affected 0)),
        .commit () (.ok ()),
        .execute () "INSERT INTO \"APP\".\"users\" (\"id\") VALUES (?);" [.i64 1]
          (.ok (.affected 1)),
        .commit () (.error (.driver "commit refused")),
        .execute () "SET IDENTITY_INSERT \"APP\".\"users\" OFF;" [] (.ok (.affected 0)),
        .commit () (.ok ()), .release ()] := rfl
  rw [hcalls]
  refine ⟨Row.ofList [("id", .i64 1)], List.mem_singleton_self _,
    ⟨"INSERT INTO \"APP\".\"users\" (\"id\") VALUES (?);", [.i64 1]⟩, .affected 1, (), rfl, ?_⟩
  exact .cons _ (.cons _ (.cons _
    (.cons_cons _ (.cons _ (.cons _ (.cons_cons _ (.cons _ .slnil)))))))

end Adapter

end RowFerry
