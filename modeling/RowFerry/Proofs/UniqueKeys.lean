import Mathlib.Data.Set.Card
import RowFerry.Proofs.PageLimit

/-!
Loading rows into a table with a unique key. Of the rows with a key that is new the first is
inserted and the others are refused, and so are all rows with a key that is there already. Which
rows fail depends on their order; how many do and which keys there are in the end does not.
-/

namespace RowFerry

variable {σ κ K : Type} (key : Value → K)

/-! ## Keys -/

/-- The key of a statement that inserts a row: its first value, as the table compares them. -/
def Statement.keyBy (s : Statement) : K := key (s.values.headD .null)

/-- The key of a row. -/
def Row.keyBy (row : Row) : K := key (row.values.headD .null)

/-- The keys of some rows. -/
def keySet (rows : List Row) : Set K := {k | ∃ row ∈ rows, row.keyBy key = k}

/-- The keys that are there after some statements: those before them and
those of the accepted ones. -/
def keysAfter (present : Set K) (executed : List (Statement × Except Failure Outcome)) : Set K :=
  present ∪ {k | ∃ s o, (s, Except.ok o) ∈ executed ∧ s.keyBy key = k}

/-- Each statement was accepted exactly when its key was not there. -/
def AnsweredByKeys (present : Set K)
    (executed : List (Statement × Except Failure Outcome)) : Prop :=
  ∀ before s answer after, executed = before ++ (s, answer) :: after →
    (answer.isOk = true ↔ s.keyBy key ∉ keysAfter key present before)

/-- The target granted every call but those that insert rows, which it answered by their keys. -/
structure KeyedTarget (present : Set K) (calls : List (Call κ)) : Prop where
  granted : ∀ call ∈ calls, call.isGranted = true
  answered : AnsweredByKeys key present ((insertions calls).map Prod.snd)

theorem keySet_nil : keySet key [] = ∅ := by
  simp [keySet]

theorem keySet_cons (row : Row) (rows : List Row) :
    keySet key (row :: rows) = insert (row.keyBy key) (keySet key rows) := by
  ext k
  simp [keySet, eq_comm]

theorem keySet_finite (rows : List Row) : (keySet key rows).Finite := by
  induction rows with
  | nil => rw [keySet_nil]; exact Set.finite_empty
  | cons row rows ih => rw [keySet_cons]; exact ih.insert _

theorem keySet_perm {rows₁ rows₂ : List Row} (h : rows₁.Perm rows₂) :
    keySet key rows₁ = keySet key rows₂ := by
  ext k
  simp [keySet, h.mem_iff]

section Executed

variable (present : Set K) (executed more : List (Statement × Except Failure Outcome))
  (s : Statement)

theorem keysAfter_nil : keysAfter key present [] = present := by
  simp [keysAfter]

theorem keysAfter_append :
    keysAfter key present (executed ++ more) =
      keysAfter key (keysAfter key present executed) more := by
  ext k
  simp only [keysAfter, Set.mem_union, Set.mem_ofPred_eq, List.mem_append]
  grind

theorem keysAfter_accepted (o : Outcome) :
    keysAfter key present [(s, .ok o)] = insert (s.keyBy key) present := by
  ext k
  simp [keysAfter, eq_comm, or_comm]

theorem keysAfter_refused (f : Failure) : keysAfter key present [(s, .error f)] = present := by
  simp [keysAfter]

theorem answeredByKeys_nil : AnsweredByKeys key present [] := by
  intro before s answer after h
  simp at h

/-- The first statement is answered by the keys that are there, the others by those after it. -/
theorem answeredByKeys_cons (answer : Except Failure Outcome) :
    AnsweredByKeys key present ((s, answer) :: more) ↔
      (answer.isOk = true ↔ s.keyBy key ∉ present) ∧
        AnsweredByKeys key (keysAfter key present [(s, answer)]) more := by
  constructor
  · intro h
    refine ⟨?_, fun before t answer' after hmore => ?_⟩
    · have hfirst := h [] s answer more rfl
      rwa [keysAfter_nil] at hfirst
    · rw [← keysAfter_append]
      exact h ((s, answer) :: before) t answer' after (congrArg _ hmore)
  · rintro ⟨hfirst, h⟩ before t answer' after hexecuted
    cases before with
    | nil =>
      cases hexecuted
      rwa [keysAfter_nil]
    | cons x before =>
      cases hexecuted
      rw [← List.singleton_append, keysAfter_append]
      exact h before t answer' after rfl

end Executed

/-! ## Rows by their keys -/

/-- What the attempts of some rows come to when keys are unique. -/
structure KeyedResult [DecidableEq K] (present : Set K) (rows : List Row) (result : BulkResult)
    (executed : List (Statement × Except Failure Outcome)) : Prop where
  /-- As many rows are inserted as there are keys that are new. -/
  inserted : result.successCount = (keySet key rows \ present).ncard
  keys : keysAfter key present executed = present ∪ keySet key rows
  /-- Of the rows with a key that is new all but the first fail. -/
  new : ∀ k ∉ present, (result.failures.map RowFailure.row).filter (fun row => row.keyBy key = k) =
    (rows.filter fun row => row.keyBy key = k).tail
  /-- All rows with a key that is there already fail. -/
  old : ∀ k ∈ present, (result.failures.map RowFailure.row).filter (fun row => row.keyBy key = k) =
    rows.filter fun row => row.keyBy key = k

section Keyed

variable [DecidableEq K] {present : Set K} {row : Row} {rows : List Row} {s : Statement}
  {o : Outcome} {f : Failure} {attempts : List Attempt}

theorem KeyedResult.nil (present : Set K) : KeyedResult key present [] (BulkResult.of []) [] where
  inserted := by simp [BulkResult.of, keySet_nil]
  keys := by rw [keysAfter_nil, keySet_nil, Set.union_empty]
  new _ _ := rfl
  old _ _ := rfl

/-- The first row with a new key is inserted, and the key is no longer new. -/
theorem KeyedResult.consInserted (hkey : s.keyBy key = row.keyBy key)
    (hnew : row.keyBy key ∉ present)
    (h : KeyedResult key (insert (row.keyBy key) present) rows (BulkResult.of attempts)
      (attempts.filterMap Attempt.executed?)) :
    KeyedResult key present (row :: rows) (BulkResult.of (.inserted row s o :: attempts))
      ((Attempt.inserted row s o :: attempts).filterMap Attempt.executed?) where
  inserted := by
    have hkeys : keySet key (row :: rows) \ present =
        insert (row.keyBy key) (keySet key rows \ insert (row.keyBy key) present) := by
      ext k
      simp only [keySet_cons, Set.mem_sdiff, Set.mem_insert_iff]
      grind
    have hfresh : row.keyBy key ∉ keySet key rows \ insert (row.keyBy key) present := by simp
    rw [hkeys, Set.ncard_insert_of_notMem hfresh (keySet_finite key rows).sdiff, ← h.inserted,
      BulkResult.of_cons_inserted rfl]
  keys := by
    have hexecuted : (Attempt.inserted row s o :: attempts).filterMap Attempt.executed? =
        [(s, .ok o)] ++ attempts.filterMap Attempt.executed? := rfl
    rw [hexecuted, keysAfter_append, keysAfter_accepted, hkey, h.keys,
      keySet_cons, Set.insert_union, Set.union_insert]
  new k hk := by
    rw [BulkResult.of_cons_inserted rfl]
    by_cases hrow : row.keyBy key = k
    · rw [List.filter_cons_of_pos (by simpa using hrow), List.tail_cons]
      exact h.old k (hrow ▸ Set.mem_insert _ _)
    · rw [List.filter_cons_of_neg (by simpa using hrow)]
      exact h.new k (by simp [hk, Ne.symm hrow])
  old k hk := by
    have hrow : row.keyBy key ≠ k := fun hrow => hnew (hrow ▸ hk)
    rw [BulkResult.of_cons_inserted rfl, List.filter_cons_of_neg (by simpa using hrow)]
    exact h.old k (Set.mem_insert_of_mem _ hk)

/-- A row whose key is there already fails and changes nothing. -/
theorem KeyedResult.consRefused (hold : row.keyBy key ∈ present)
    (h : KeyedResult key present rows (BulkResult.of attempts)
      (attempts.filterMap Attempt.executed?)) :
    KeyedResult key present (row :: rows) (BulkResult.of (.refused row s f :: attempts))
      ((Attempt.refused row s f :: attempts).filterMap Attempt.executed?) where
  inserted := by
    rw [BulkResult.of_cons_failed rfl, keySet_cons, Set.insert_sdiff_of_mem _ hold, h.inserted]
  keys := by
    have hexecuted : (Attempt.refused row s f :: attempts).filterMap Attempt.executed? =
        [(s, .error f)] ++ attempts.filterMap Attempt.executed? := rfl
    rw [hexecuted, keysAfter_append, keysAfter_refused, h.keys, keySet_cons, Set.union_insert,
      Set.insert_eq_of_mem (Set.mem_union_left _ hold)]
  new k hk := by
    have hrow : row.keyBy key ≠ k := fun hrow => hk (hrow ▸ hold)
    rw [BulkResult.of_cons_failed rfl, List.map_cons, List.filter_cons_of_neg (by simpa using hrow),
      List.filter_cons_of_neg (by simpa using hrow)]
    exact h.new k hk
  old k hk := by
    rw [BulkResult.of_cons_failed rfl, List.map_cons]
    by_cases hrow : row.keyBy key = k
    · rw [List.filter_cons_of_pos (by simpa using hrow),
        List.filter_cons_of_pos (by simpa using hrow), h.old k hk]
    · rw [List.filter_cons_of_neg (by simpa using hrow),
        List.filter_cons_of_neg (by simpa using hrow), h.old k hk]

/-- The answers by keys decide what becomes of rows that all compile. -/
theorem Attempts.keyedResult {compile : Row → Except CompileError Statement}
    (hcompiled : ∀ row ∈ rows, ∃ s, compile row = .ok s ∧ s.keyBy key = row.keyBy key)
    (h : Attempts compile rows attempts)
    (hanswered : AnsweredByKeys key present (attempts.filterMap Attempt.executed?)) :
    KeyedResult key present rows (BulkResult.of attempts)
      (attempts.filterMap Attempt.executed?) := by
  obtain rfl := h.rows
  -- A key that was accepted is there for the rows after it, a refusal leaves the keys as they are.
  induction attempts generalizing present with
  | nil => exact .nil key present
  | cons t attempts ih =>
    have hmore : Attempts compile (attempts.map Attempt.row) attempts :=
      ⟨rfl, fun u hu => h.compiled u (List.mem_cons_of_mem t hu)⟩
    have hlater := fun row hrow => hcompiled row (List.mem_cons_of_mem t.row hrow)
    obtain ⟨s, hs, hkey⟩ := hcompiled t.row List.mem_cons_self
    have ht := (h.compiled t List.mem_cons_self).symm.trans hs
    cases t with
    | rejected row e => cases ht
    | refused row s' f =>
      cases ht
      obtain ⟨hfirst, hrest⟩ := (answeredByKeys_cons key present _ s (.error f)).mp hanswered
      rw [keysAfter_refused] at hrest
      have hold : row.keyBy key ∈ present := by
        by_contra hnew
        cases hfirst.mpr (hkey ▸ hnew)
      exact .consRefused key hold (ih hrest hlater hmore)
    | inserted row s' o =>
      cases ht
      obtain ⟨hfirst, hrest⟩ := (answeredByKeys_cons key present _ s (.ok o)).mp hanswered
      rw [keysAfter_accepted, hkey] at hrest
      exact .consInserted key hkey (hkey ▸ hfirst.mp rfl) (ih hrest hlater hmore)

end Keyed

/-! ## Loads -/

/-- What loading some rows comes to when keys are unique: the rows are executed in their order, each
is inserted or fails, and their keys decide which. -/
structure LoadsByKey [DecidableEq K]
    (compile : Row → Except CompileError Statement) (present : Set K) (rows : List Row)
    (result : BulkResult) (executed : List (Statement × Except Failure Outcome)) : Prop
    extends KeyedResult key present rows result executed where
  ordered : executed.map (fun x => Except.ok x.1) = rows.map compile
  others : result.successCount + result.failures.length = rows.length

/-- When all rows compile, their statements are executed in the order of the rows. -/
theorem Attempts.ordered {compile : Row → Except CompileError Statement} {rows : List Row}
    {attempts : List Attempt} (hcompiled : ∀ row ∈ rows, ∃ s, compile row = .ok s)
    (h : Attempts compile rows attempts) :
    (attempts.filterMap Attempt.executed?).map (fun x => Except.ok x.1) = rows.map compile := by
  obtain rfl := h.rows
  have hexecuted : ∀ t ∈ attempts, t.executed?.map (fun x => Except.ok x.1) =
    some (compile t.row) := by
    intro t ht
    obtain ⟨s, hs⟩ := hcompiled t.row (List.mem_map_of_mem ht)
    have hsame := (h.compiled t ht).symm.trans hs
    rw [hs]
    cases t with
    | rejected row e => cases hsame
    | refused row s' f | inserted row s' o =>
      cases hsame
      rfl
  rw [List.map_filterMap, List.map_map, ← List.filterMap_eq_map]
  exact List.filterMap_congr hexecuted

namespace Adapter

variable (a : Adapter σ κ)

/-- A row has the key of its statement. -/
theorem create_keyBy {table : String} {row : Row} {s : Statement}
    (h : a.compiler.create table row = .ok s) :
    s.keyBy key = row.keyBy key := by
  obtain ⟨i, hi, rfl⟩ := map_eq_ok_iff.mp h
  obtain ⟨-, -, -, hvalues⟩ := Compiler.resolveInsert_ok hi
  exact congrArg (fun values => key (values.headD .null)) hvalues

theorem bulkCreate_loadsByKey [DecidableEq K] {table : String} {rows : List Row}
    {identityInsert : Bool} {present : Set K} {s : σ}
    (htoggles : identityInsert = true → ∃ toggles, a.identityToggles table = .ok toggles)
    (hcompiled : ∀ row ∈ rows, ∃ s, a.compiler.create table row = .ok s)
    (htarget : KeyedTarget key present
      ((a.traced.bulkCreate table rows identityInsert).callsFrom s)) :
    ∃ result, ((a.bulkCreate table rows identityInsert).runFrom s).1 = .ok result ∧
      LoadsByKey key (a.compiler.create table) present rows result
        ((insertions ((a.traced.bulkCreate table rows identityInsert).callsFrom s)).map
          Prod.snd) := by
  have h := (a.bulkCreate_follows table rows identityInsert).calls s
  obtain ⟨result, hresult⟩ := a.loads_granted htoggles h htarget.granted
  rw [hresult] at h
  obtain ⟨c, attempts, -, hattempts, hinsertions, rfl⟩ := a.loads_attempts h
  have hexecuted : (insertions ((a.traced.bulkCreate table rows identityInsert).callsFrom s)).map
    Prod.snd =
      attempts.filterMap Attempt.executed? := by
    rw [hinsertions, List.map_map, Function.comp_def, List.map_id']
  have hkeyed : ∀ row ∈ rows, ∃ s, a.compiler.create table row = .ok s ∧
    s.keyBy key = row.keyBy key := by
    intro row hrow
    obtain ⟨s, hs⟩ := hcompiled row hrow
    exact ⟨s, hs, a.create_keyBy key hs⟩
  refine ⟨_, hresult, ?_⟩
  have hanswered := htarget.answered
  rw [hexecuted] at hanswered ⊢
  exact ⟨hattempts.keyedResult key hkeyed hanswered, hattempts.ordered hcompiled,
    (BulkResult.of_attempted attempts).trans hattempts.length_eq⟩

/-- **With unique keys a load does not depend on the order of its rows.** Two loads of the
same rows in two orders, from any states, into a target that grants everything but rows and
refuses a row exactly when its key is there: both succeed; each inserts one row for every key
that is new, the first of those that have it, and reports all other rows; and both count the
same and leave the same keys. -/
theorem bulkCreate_order_irrelevant [DecidableEq K] {table : String} {rows₁ rows₂ : List Row}
    {identityInsert : Bool} {present : Set K} {s₁ s₂ : σ} (hperm : rows₁.Perm rows₂)
    (htoggles : identityInsert = true → ∃ toggles, a.identityToggles table = .ok toggles)
    (hcompiled : ∀ row ∈ rows₁, ∃ s, a.compiler.create table row = .ok s)
    (htarget₁ : KeyedTarget key present
      ((a.traced.bulkCreate table rows₁ identityInsert).callsFrom s₁))
    (htarget₂ : KeyedTarget key present
      ((a.traced.bulkCreate table rows₂ identityInsert).callsFrom s₂)) :
    ∃ result₁ result₂,
      ((a.bulkCreate table rows₁ identityInsert).runFrom s₁).1 = .ok result₁ ∧
      ((a.bulkCreate table rows₂ identityInsert).runFrom s₂).1 = .ok result₂ ∧
      LoadsByKey key (a.compiler.create table) present rows₁ result₁
        ((insertions ((a.traced.bulkCreate table rows₁ identityInsert).callsFrom s₁)).map
          Prod.snd) ∧
      LoadsByKey key (a.compiler.create table) present rows₂ result₂
        ((insertions ((a.traced.bulkCreate table rows₂ identityInsert).callsFrom s₂)).map
          Prod.snd) ∧
      result₁.successCount = result₂.successCount ∧
      result₁.failures.length = result₂.failures.length ∧
      keysAfter key present
          ((insertions ((a.traced.bulkCreate table rows₁ identityInsert).callsFrom s₁)).map
            Prod.snd) =
        keysAfter key present
          ((insertions ((a.traced.bulkCreate table rows₂ identityInsert).callsFrom s₂)).map
            Prod.snd) := by
  have hcompiled₂ : ∀ row ∈ rows₂, ∃ s, a.compiler.create table row = .ok s := fun row hrow =>
    hcompiled row (hperm.mem_iff.mpr hrow)
  obtain ⟨result₁, hresult₁, h₁⟩ := a.bulkCreate_loadsByKey key htoggles hcompiled htarget₁
  obtain ⟨result₂, hresult₂, h₂⟩ := a.bulkCreate_loadsByKey key htoggles hcompiled₂ htarget₂
  have hkeys := keySet_perm key hperm
  have hcount : result₁.successCount = result₂.successCount := by
    rw [h₁.inserted, h₂.inserted, hkeys]
  have hfailures : result₁.failures.length = result₂.failures.length := by
    have hlength := hperm.length_eq
    have hothers₁ := h₁.others
    have hothers₂ := h₂.others
    omega
  exact ⟨result₁, result₂, hresult₁, hresult₂, h₁, h₂, hcount, hfailures,
    h₁.keys.trans (hkeys ▸ h₂.keys.symm)⟩

/-- Three rows, the last of which has the key of the first. -/
def rowsNamed (first last : String) : List Row :=
  [Row.ofList [("id", .i64 1), ("name", .string first)],
    Row.ofList [("id", .i64 2), ("name", .string "b")],
    Row.ofList [("id", .i64 1), ("name", .string last)]]

def insertNamed (id : Int64) (name : String) : Statement :=
  ⟨"INSERT INTO \"APP\".\"users\" (\"id\", \"name\") VALUES (?, ?);", [.i64 id, .string name]⟩

/-- A pool that has the key of the second row. -/
def poolWithKey : Rehearsal.Pool where
  keys := [("INSERT INTO \"APP\".\"users\"", .i64 2)]

/-- What the pool answers to the rows. -/
def executedNamed (first last : String) : List (Statement × Except Failure Outcome) :=
  [(insertNamed 1 first, .ok (.affected 1)),
    (insertNamed 2 "b", .error (.driver "unique constraint violated: 2")),
    (insertNamed 1 last, .error (.driver "unique constraint violated: 1"))]

theorem executedNamed_answered (first last : String) :
    AnsweredByKeys id {.i64 2} (executedNamed first last) := by
  simp [executedNamed, answeredByKeys_cons, answeredByKeys_nil, keysAfter_accepted,
    keysAfter_refused, Statement.keyBy, insertNamed, Except.isOk, Except.toBool]

/-- In both orders one row is inserted, the first with the key that is new. -/
theorem rowsNamed_order_irrelevant :
    ∃ result₁ result₂,
      (((Rehearsal.Pool.adapter "APP").bulkCreate "users" (rowsNamed "a" "c") true).runFrom
        poolWithKey).1 =
        .ok result₁ ∧
      (((Rehearsal.Pool.adapter "APP").bulkCreate "users" (rowsNamed "c" "a") true).runFrom
        poolWithKey).1 =
        .ok result₂ ∧
      result₁.successCount = result₂.successCount ∧ result₁.failures.length =
        result₂.failures.length := by
  have hcompiled : ∀ row ∈ rowsNamed "a" "c", ∃ s,
      (Rehearsal.Pool.adapter "APP").compiler.create "users" row = .ok s := by
    simp only [rowsNamed, List.forall_mem_cons]
    exact ⟨⟨insertNamed 1 "a", rfl⟩, ⟨insertNamed 2 "b", rfl⟩, ⟨insertNamed 1 "c", rfl⟩, by simp⟩
  have hperm : (rowsNamed "a" "c").Perm (rowsNamed "c" "a") := by decide +kernel
  have hexecuted₁ : (insertions (((Rehearsal.Pool.adapter "APP").traced.bulkCreate "users"
      (rowsNamed "a" "c") true).callsFrom poolWithKey)).map Prod.snd = executedNamed "a" "c" := rfl
  have hexecuted₂ : (insertions (((Rehearsal.Pool.adapter "APP").traced.bulkCreate "users"
      (rowsNamed "c" "a") true).callsFrom poolWithKey)).map Prod.snd = executedNamed "c" "a" := rfl
  obtain ⟨result₁, result₂, h₁, h₂, -, -, hcount, hfailures, -⟩ :=
    (Rehearsal.Pool.adapter "APP").bulkCreate_order_irrelevant id hperm
      (fun _ => ⟨_, rfl⟩) hcompiled
      ⟨by decide +kernel, hexecuted₁ ▸ executedNamed_answered "a" "c"⟩
      ⟨by decide +kernel, hexecuted₂ ▸ executedNamed_answered "c" "a"⟩
  exact ⟨result₁, result₂, h₁, h₂, hcount, hfailures⟩

end Adapter

end RowFerry
