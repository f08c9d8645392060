import RowFerry.Proofs.Protocol.Bulk
import RowFerry.Proofs.StatementText
import RowFerry.Rehearsal.Pool

/-!
What a load makes of its rows. Every row is attempted once, in the order of the batch: the compiler
rejects it, the engine refuses it, or it is inserted. The statements that a load executes for its
rows, the failures that it reports and the rows that it counts are those of the attempts.
-/

namespace RowFerry

variable {σ κ : Type}

/-! ## Attempts -/

/-- What became of a row that was to be inserted. -/
inductive Attempt where
  | rejected (row : Row) (e : CompileError)
  | refused (row : Row) (s : Statement) (f : Failure)
  | inserted (row : Row) (s : Statement) (o : Outcome)

namespace Attempt

def row : Attempt → Row
  | rejected row _ | refused row _ _ | inserted row _ _ => row

/-- What the compiler has made of the row. -/
def compiled : Attempt → Except CompileError Statement
  | rejected _ e => .error e
  | refused _ s _ | inserted _ s _ => .ok s

/-- The statement of the row and the answer to it, when the row was compiled. -/
def executed? : Attempt → Option (Statement × Except Failure Outcome)
  | rejected .. => none
  | refused _ s f => some (s, .error f)
  | inserted _ s o => some (s, .ok o)

/-- What is reported of a row that was not inserted: that it cannot be compiled, or why the engine
refused to insert it. -/
def failure? : Attempt → Option RowFailure
  | rejected row e => some ⟨(Failure.compile e).message, row⟩
  | refused row _ f => some ⟨(f.atStage .insert).message, row⟩
  | inserted .. => none

/-- The call that executes the statement of the row, when the row was compiled. -/
def call? (c : κ) (t : Attempt) : Option (Call κ) :=
  t.executed?.map fun x => .execute c x.1.sql x.1.values x.2

/-- What is reported of a row names the row. -/
theorem failure_row (t : Attempt) {f : RowFailure} (h : t.failure? = some f) : f.row = t.row := by
  cases t with
  | inserted row s o => cases h
  | rejected row e =>
    cases h
    rfl
  | refused row s g =>
    cases h
    rfl

end Attempt

/-- The rows are attempted in their order, each with what the compiler makes of it. -/
structure Attempts (compile : Row → Except CompileError Statement) (rows : List Row)
    (attempts : List Attempt) : Prop where
  rows : attempts.map Attempt.row = rows
  compiled : ∀ t ∈ attempts, compile t.row = t.compiled

namespace Attempts

variable {compile : Row → Except CompileError Statement}

theorem nil : Attempts compile [] [] := ⟨rfl, by simp⟩

theorem cons {t : Attempt} {rows : List Row} {attempts : List Attempt}
    (ht : compile t.row = t.compiled) (h : Attempts compile rows attempts) :
    Attempts compile (t.row :: rows) (t :: attempts) :=
  ⟨congrArg (t.row :: ·) h.rows, List.forall_mem_cons.mpr ⟨ht, h.compiled⟩⟩

theorem append {xs ys : List Row} {as bs : List Attempt} (ha : Attempts compile xs as)
    (hb : Attempts compile ys bs) : Attempts compile (xs ++ ys) (as ++ bs) :=
  ⟨by rw [List.map_append, ha.rows, hb.rows], List.forall_mem_append.mpr ⟨ha.compiled, hb.compiled⟩⟩

theorem length_eq {rows : List Row} {attempts : List Attempt} (h : Attempts compile rows attempts) :
    attempts.length = rows.length := by
  rw [← h.rows, List.length_map]

/-- A statement that was executed is what the compiler made of some row. -/
theorem executed {rows : List Row} {attempts : List Attempt} (h : Attempts compile rows attempts)
    {x : Statement × Except Failure Outcome} (hx : x ∈ attempts.filterMap Attempt.executed?) :
    ∃ row ∈ rows, compile row = .ok x.1 := by
  obtain ⟨t, ht, hexecuted⟩ := List.mem_filterMap.mp hx
  have hrow : t.row ∈ rows := by
    rw [← h.rows]
    exact List.mem_map_of_mem ht
  refine ⟨t.row, hrow, ?_⟩
  rw [h.compiled t ht]
  cases t with
  | rejected row e => cases hexecuted
  | refused row s f =>
    cases hexecuted
    rfl
  | inserted row s o =>
    cases hexecuted
    rfl

end Attempts

namespace BulkResult

/-- What a load reports of its attempts. -/
def of (attempts : List Attempt) : BulkResult :=
  ⟨attempts.countP fun t => t.failure?.isNone, attempts.filterMap Attempt.failure?⟩

theorem of_cons_failed {t : Attempt} {f : RowFailure} (h : t.failure? = some f)
    (attempts : List Attempt) :
    of (t :: attempts) = ⟨(of attempts).successCount, f :: (of attempts).failures⟩ := by
  simp [of, h]

theorem of_cons_inserted {t : Attempt} (h : t.failure? = none) (attempts : List Attempt) :
    of (t :: attempts) = ⟨(of attempts).successCount + 1, (of attempts).failures⟩ := by
  simp [of, h]

theorem of_append (as bs : List Attempt) :
    of (as ++ bs) = ⟨(of as).successCount + (of bs).successCount,
      (of as).failures ++ (of bs).failures⟩ := by
  simp [of]

/-- No row is lost and none invented. -/
theorem of_attempted (attempts : List Attempt) : (of attempts).attempted = attempts.length := by
  induction attempts with
  | nil => rfl
  | cons t attempts ih =>
    simp only [attempted] at ih ⊢
    cases h : t.failure? with
    | none =>
      simp only [of_cons_inserted h, List.length_cons]
      omega
    | some f =>
      simp only [of_cons_failed h, List.length_cons]
      omega

/-- The failures are of rows that were attempted, in their order. -/
theorem of_failed (attempts : List Attempt) :
    ((of attempts).failures.map RowFailure.row).Sublist (attempts.map Attempt.row) := by
  induction attempts with
  | nil => exact .slnil
  | cons t attempts ih =>
    cases h : t.failure? with
    | none =>
      rw [of_cons_inserted h]
      exact ih.cons t.row
    | some f =>
      rw [of_cons_failed h, List.map_cons, List.map_cons, t.failure_row h]
      exact ih.cons_cons t.row

end BulkResult

/-! ## The calls of a load -/

/-- The calls, those on result sets aside. -/
def withoutCursors (calls : List (Call κ)) : List (Call κ) :=
  calls.filter fun
    | .cursor _ => false
    | _ => true

/-- The statement that inserts a row which the call executes, with its connection and its answer. -/
def Call.insertion? : Call κ → Option (κ × Statement × Except Failure Outcome)
  | execute c sql values answer => if isInsert sql then some (c, ⟨sql, values⟩, answer) else none
  | _ => none

/-- The statements that insert rows, in the order in which they were executed. -/
def insertions (calls : List (Call κ)) : List (κ × Statement × Except Failure Outcome) :=
  calls.filterMap Call.insertion?

section

variable (c : κ) (xs ys : List (Call κ))

@[simp] theorem withoutCursors_append :
    withoutCursors (xs ++ ys) = withoutCursors xs ++ withoutCursors ys :=
  List.filter_append ..

@[simp] theorem withoutCursors_closing (o : Outcome) :
    withoutCursors (o.closing : List (Call κ)) = [] := by
  cases o <;> rfl

@[simp] theorem insertions_nil : insertions ([] : List (Call κ)) = [] := rfl

@[simp] theorem insertions_acquire (answer : Except Failure κ) :
    insertions (.acquire answer :: xs) = insertions xs := rfl

@[simp] theorem insertions_execute (sql : String) (values : List Value)
    (answer : Except Failure Outcome) : insertions (.execute c sql values answer :: xs) =
      if isInsert sql then (c, ⟨sql, values⟩, answer) :: insertions xs else insertions xs := by
  cases h : isInsert sql <;> simp [insertions, Call.insertion?, h]

@[simp] theorem insertions_closing (o : Outcome) : insertions (o.closing : List (Call κ)) = [] := by
  cases o <;> rfl

@[simp] theorem insertions_commit (answer : Except Failure Unit) :
    insertions (.commit c answer :: xs) = insertions xs := rfl

@[simp] theorem insertions_release : insertions (.release c :: xs) = insertions xs := rfl

@[simp] theorem insertions_ending (reset : Except Failure Unit) :
    insertions (.ending c reset :: xs) = insertions xs := by
  cases reset <;> rfl

@[simp] theorem insertions_append : insertions (xs ++ ys) = insertions xs ++ insertions ys :=
  List.filterMap_append

/-- Calls on result sets insert nothing. -/
theorem insertions_withoutCursors (calls : List (Call κ)) :
    insertions (withoutCursors calls) = insertions calls := by
  rw [withoutCursors, insertions, List.filterMap_filter]
  refine List.filterMap_congr fun call _ => ?_
  cases call <;> rfl

end

theorem InsertsRow.attempt {c : κ} {compile : Row → Except CompileError Statement} {row : Row}
    {calls : List (Call κ)} {r : Except Failure Unit} (h : InsertsRow c (compile row) calls r) :
    ∃ t : Attempt, t.row = row ∧ compile t.row = t.compiled ∧
      withoutCursors calls = (t.call? c).toList ∧
      ∀ attempts, (BulkResult.of attempts).record row r = BulkResult.of (t :: attempts) := by
  cases h with
  | @rejected e h =>
    exact ⟨.rejected row e, rfl, h, rfl, fun ts => (BulkResult.of_cons_failed rfl ts).symm⟩
  | @refused s h f =>
    exact ⟨.refused row s f, rfl, h, rfl, fun ts => (BulkResult.of_cons_failed rfl ts).symm⟩
  | @inserted s h o =>
    refine ⟨.inserted row s o, rfl, h, ?_, fun ts => (BulkResult.of_cons_inserted rfl ts).symm⟩
    cases o <;> rfl

/-- Every row of a batch is attempted once. -/
theorem InsertsRows.attempts {c : κ}
    {compile : Row → Except CompileError Statement} {rows : List Row} {calls : List (Call κ)}
    {result : BulkResult} (h : InsertsRows c compile rows calls result) :
    ∃ attempts, Attempts compile rows attempts ∧
      withoutCursors calls = attempts.filterMap (Attempt.call? c) ∧
      result = BulkResult.of attempts := by
  induction h with
  | nil => exact ⟨[], .nil, rfl, rfl⟩
  | cons h _ ih =>
    obtain ⟨t, rfl, hcompiled, hcalls, hrecord⟩ := h.attempt
    obtain ⟨attempts, hattempts, hmore, rfl⟩ := ih
    refine ⟨t :: attempts, .cons hcompiled hattempts, ?_, hrecord attempts⟩
    rw [withoutCursors_append, hcalls, hmore]
    cases hcall : t.call? c <;> simp [hcall]

/-- The statements that a batch executes are those of the attempts. -/
theorem Attempts.insertions {c : κ}
    {compile : Row → Except CompileError Statement} {rows : List Row} {attempts : List Attempt}
    (h : Attempts compile rows attempts)
    (hinsert : ∀ row s, compile row = .ok s → isInsert s.sql = true) :
    RowFerry.insertions (attempts.filterMap (Attempt.call? c)) =
      (attempts.filterMap Attempt.executed?).map fun x => (c, x) := by
  have hcalls : attempts.filterMap (Attempt.call? c) =
      (attempts.filterMap Attempt.executed?).map fun x => .execute c x.1.sql x.1.values x.2 :=
    List.map_filterMap.symm
  rw [hcalls, RowFerry.insertions, List.filterMap_map, ← List.filterMap_eq_map]
  refine List.filterMap_congr fun x hx => ?_
  obtain ⟨row, -, hrow⟩ := h.executed hx
  simp [Call.insertion?, hinsert row x.1 hrow]

/-- A switch inserts nothing. -/
theorem Switches.insertions {c : κ} {sql : String} (hsql : IsSwitch sql) {calls : List (Call κ)}
    {r : Except Failure Unit} (h : Switches c sql calls r) : RowFerry.insertions calls = [] := by
  obtain ⟨r', hr, -⟩ := h
  cases hr with
  | refused f => simp [hsql.not_isInsert]
  | executed o r => simp [hsql.not_isInsert]

/-- A batch inserts what its attempts have executed. -/
theorem InsertsRows.insertions {c : κ}
    {compile : Row → Except CompileError Statement} {rows : List Row} {calls : List (Call κ)}
    {result : BulkResult} (h : InsertsRows c compile rows calls result)
    (hinsert : ∀ row s, compile row = .ok s → isInsert s.sql = true) :
    ∃ attempts, Attempts compile rows attempts ∧
      RowFerry.insertions calls = (attempts.filterMap Attempt.executed?).map (fun x => (c, x)) ∧
      result = BulkResult.of attempts := by
  obtain ⟨attempts, hattempts, hcalls, hresult⟩ := h.attempts
  refine ⟨attempts, hattempts, ?_, hresult⟩
  rw [← insertions_withoutCursors, hcalls, hattempts.insertions hinsert]

namespace Adapter

variable (a : Adapter σ κ)

theorem loads_attempts {table : String} {rows : List Row} {identityInsert : Bool}
    {calls : List (Call κ)} {result : BulkResult}
    (h : a.Loads table rows identityInsert calls (.ok result)) :
    ∃ c attempts, .acquire (.ok c) ∈ calls ∧ Attempts (a.compiler.create table) rows attempts ∧
      insertions calls = (attempts.filterMap Attempt.executed?).map (fun x => (c, x)) ∧
      result = BulkResult.of attempts := by
  have hinsert : ∀ row s, a.compiler.create table row = .ok s → isInsert s.sql = true :=
    fun row s => a.compiler.create_isInsert
  cases identityInsert with
  | false =>
    cases h with
    | returned c h =>
      obtain ⟨inserts, hinserts, rfl⟩ := h.ok_calls
      obtain ⟨attempts, hattempts, hcalls, hresult⟩ := hinserts.insertions hinsert
      exact ⟨c, attempts, List.mem_cons_self, hattempts, by simp [hcalls], hresult⟩
  | true =>
    cases h with
    | accepted htoggles h =>
      obtain ⟨henable, hdisable⟩ := a.identityToggles_ok htoggles
      cases h with
      | @loaded c on batch off r reset hon h hoff =>
        obtain ⟨inserts, hinserts, rfl⟩ := h.ok_calls
        obtain ⟨attempts, hattempts, hcalls, hresult⟩ := hinserts.insertions hinsert
        have hon' := hon.insertions (a.compiler.identityInsert_isSwitch henable)
        have hoff' := hoff.insertions (a.compiler.identityInsert_isSwitch hdisable)
        exact ⟨c, attempts, List.mem_cons_self, hattempts, by simp [hcalls, hon', hoff'], hresult⟩

/-- **A load that succeeds loses no row and invents none.** Every row was attempted once and in the
order of the batch, on the one connection of the load: the statements executed for rows are those of
the rows that compile, the failures are those of the rows that do not compile or were refused, each
with its own error, and the rows that were inserted are counted. -/
theorem bulkCreate_accounts (table : String) (rows : List Row) (identityInsert : Bool) (s : σ)
    (result : BulkResult)
    (h : ((a.bulkCreate table rows identityInsert).runFrom s).1 = .ok result) :
    ∃ c attempts,
      .acquire (.ok c) ∈ (a.traced.bulkCreate table rows identityInsert).callsFrom s ∧
      Attempts (a.compiler.create table) rows attempts ∧
      insertions ((a.traced.bulkCreate table rows identityInsert).callsFrom s) =
        (attempts.filterMap Attempt.executed?).map (fun x => (c, x)) ∧
      result.failures = attempts.filterMap Attempt.failure? ∧
      result.successCount + result.failures.length = rows.length := by
  have hloads := (a.bulkCreate_follows table rows identityInsert).calls s
  rw [h] at hloads
  obtain ⟨c, attempts, hacquire, hattempts, hinsertions, rfl⟩ := a.loads_attempts hloads
  refine ⟨c, attempts, hacquire, hattempts, hinsertions, rfl, ?_⟩
  rw [← hattempts.length_eq, ← BulkResult.of_attempted attempts, BulkResult.attempted]

/-- A row, one without columns, and one that repeats the key of the first. -/
def mixedRows : List Row := [Row.ofList [("id", .i64 1)], Row.empty, Row.ofList [("id", .i64 1)]]

/-- What loading them gives: the second row does not compile, the third is refused. -/
def mixedResult : BulkResult :=
  ⟨1, [⟨"compile error: insert into \"users\" has no columns", Row.empty⟩,
    ⟨"insert data error: unique constraint violated: 1", Row.ofList [("id", .i64 1)]⟩]⟩

theorem mixedRows_accounted :
    (((Rehearsal.Pool.adapter "APP").bulkCreate "users" mixedRows true).runFrom {}).1 =
      .ok mixedResult ∧
    ∃ c attempts,
      .acquire (.ok c) ∈
        ((Rehearsal.Pool.adapter "APP").traced.bulkCreate "users" mixedRows true).callsFrom {} ∧
      Attempts ((Rehearsal.Pool.adapter "APP").compiler.create "users") mixedRows attempts ∧
      insertions (((Rehearsal.Pool.adapter "APP").traced.bulkCreate "users" mixedRows
        true).callsFrom {}) =
        (attempts.filterMap Attempt.executed?).map (fun x => (c, x)) ∧
      mixedResult.failures = attempts.filterMap Attempt.failure? ∧
      mixedResult.successCount + mixedResult.failures.length = mixedRows.length := by
  have h : (((Rehearsal.Pool.adapter "APP").bulkCreate "users" mixedRows true).runFrom {}).1 =
      .ok mixedResult := rfl
  exact ⟨h, (Rehearsal.Pool.adapter "APP").bulkCreate_accounts "users" mixedRows
    true {} mixedResult h⟩

end Adapter

end RowFerry
