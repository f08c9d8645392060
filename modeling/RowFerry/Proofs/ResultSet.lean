import RowFerry.Engine.Cursor
import RowFerry.Proofs.LargeObject

/-!
Every handle is closed exactly once, if there is room for the announced rows. Reading a result set
then comes to one of four ends: as many rows as were announced, no more rows, a fetch that fails, a
large object that fails. On the way to each of them the large objects of a row are closed one by one
before anything else is called, also those after one that failed, which are not read; and the result
set is closed once, last of all. Without room nothing is called, and the result set stays open.
-/

namespace RowFerry

/-- The value that stands for a cell in a row that was read. -/
def Cell.value : Cell → Value
  | .scalar v => v
  | .large o => .string (Text.Utf8.read o.chunks.flatten)

namespace Cursor

/-! ## What is said of the calls -/

/-- The large objects of a row, in order, with their columns. -/
def objects : RawRow → List (String × LargeObject)
  | [] => []
  | (_, .scalar _) :: cells => objects cells
  | (column, .large o) :: cells => (column, o) :: objects cells

/-- The calls on large objects, one object after another. Each is read so many
times and then closed. -/
def visits (reads : LargeObject → Nat) (os : List (String × LargeObject)) : List CursorCall :=
  os.flatMap fun p => List.replicate (reads p.2) (.reader p.1 .read) ++ [.reader p.1 .close]

/-- The reads up to the end or the failure of an object: one for each chunk and one more. -/
def throughout (o : LargeObject) : Nat := o.chunks.length + 1

/-- No reads at all. -/
def unread (_ : LargeObject) : Nat := 0

/-- The calls of a row whose large objects are all read. -/
def fetching (raw : RawRow) : List CursorCall := .fetch :: visits throughout (objects raw)

/-- No large object of the row fails. -/
def Readable (raw : RawRow) : Prop := ∀ p ∈ objects raw, p.2.failure = Option.none

/-- The row with the values of its cells. -/
def values (raw : RawRow) : Row := Row.ofList (raw.map fun p => (p.1, p.2.value))

/-- The calls of fetching rows before the result set is closed, and what they give. -/
inductive Fetches (failure : Option Failure) (wanted : Option Nat) (rows : List RawRow) :
    List CursorCall → Except Failure (List Row) → Prop
  /-- As many rows have come as were wanted. -/
  | satisfied {fetched rest : List RawRow} (hrows : rows = fetched ++ rest)
    (hwanted : wanted = some fetched.length) (hread : ∀ raw ∈ fetched, Readable raw) :
    Fetches failure wanted rows (fetched.flatMap fetching) (.ok (fetched.map values))
  /-- There are no more rows. -/
  | exhausted (hwanted : ∀ n ∈ wanted, rows.length < n) (hread : ∀ raw ∈ rows, Readable raw)
    (hfailure : failure = Option.none) :
    Fetches failure wanted rows (rows.flatMap fetching ++ [.fetch]) (.ok (rows.map values))
  /-- A fetch fails. -/
  | refused {f : Failure} (hwanted : ∀ n ∈ wanted, rows.length < n)
    (hread : ∀ raw ∈ rows, Readable raw) (hfailure : failure = some f) :
    Fetches failure wanted rows (rows.flatMap fetching ++ [.fetch]) (.error f)
  /-- A large object fails, the first that does. Those after it in its row are closed unread. -/
  | broken {fetched rest : List RawRow} {raw : RawRow} {before after : List (String × LargeObject)}
    {column : String} {o : LargeObject} {f : Failure} (hrows : rows = fetched ++ raw :: rest)
    (hwanted : ∀ n ∈ wanted, fetched.length < n) (hread : ∀ raw ∈ fetched, Readable raw)
    (hobjects : objects raw = before ++ (column, o) :: after)
    (hbefore : ∀ p ∈ before, p.2.failure = Option.none) (hfailure : o.failure = some f) :
    Fetches failure wanted rows
      (fetched.flatMap fetching ++
        .fetch :: (visits throughout (before ++ [(column, o)]) ++ visits unread after))
      (.error (.stream f.streamMessage))

/-! ## The cells of a row -/

theorem mem_objects {raw : RawRow} {p : String × LargeObject} (h : p ∈ objects raw) :
    (p.1, Cell.large p.2) ∈ raw := by
  induction raw with
  | nil => cases h
  | cons cell cells ih =>
    obtain ⟨column, v | o⟩ := cell
    · exact List.mem_cons_of_mem _ (ih h)
    · rcases List.mem_cons.mp h with rfl | hlater
      · exact List.mem_cons_self
      · exact List.mem_cons_of_mem _ (ih hlater)

theorem visits_cons (reads : LargeObject → Nat) (p : String × LargeObject)
    (os : List (String × LargeObject)) :
    visits reads (p :: os) = visits reads [p] ++ visits reads os := by
  simp [visits]

theorem closeCells_eq (raw : RawRow) : closeCells raw = visits unread (objects raw) := by
  induction raw with
  | nil => rfl
  | cons cell cells ih =>
    obtain ⟨column, v | o⟩ := cell
    · exact ih
    · rw [closeCells, ih]
      rfl

theorem readCells_ended (row : Row) (column : String) {o : LargeObject}
    (h : o.failure = Option.none) (cells : RawRow) :
    readCells row ((column, .large o) :: cells) =
      ((readCells (row.insert column (Cell.large o).value) cells).1,
        visits throughout [(column, o)] ++
          (readCells (row.insert column (Cell.large o).value) cells).2) := by
  rw [readCells, LargeObject.read_ended h]
  simp [Cell.value, visits, throughout]

theorem readCells_failed (row : Row) (column : String) {o : LargeObject} {f : Failure}
    (h : o.failure = some f) (cells : RawRow) :
    readCells row ((column, .large o) :: cells) =
      (.error (.stream f.streamMessage),
        visits throughout [(column, o)] ++ visits unread (objects cells)) := by
  rw [readCells, LargeObject.read_failed h, closeCells_eq]
  simp [visits, throughout]

/-- Either all large objects of a row are read and the row has the values of its cells, or reading
stops at the first object that fails. -/
theorem readCells_cases (row : Row) (cells : RawRow) :
    (Readable cells ∧ readCells row cells =
        (.ok ((cells.map fun p => (p.1, p.2.value)).foldl (fun r p => r.insert p.1 p.2) row),
          visits throughout (objects cells))) ∨
      ∃ before column o after f, objects cells = before ++ (column, o) :: after ∧
        (∀ p ∈ before, p.2.failure = Option.none) ∧ o.failure = some f ∧
        readCells row cells = (.error (.stream f.streamMessage),
          visits throughout (before ++ [(column, o)]) ++ visits unread after) := by
  induction cells generalizing row with
  | nil => exact .inl ⟨by simp [Readable, objects], rfl⟩
  | cons cell cells ih =>
    obtain ⟨column, v | o⟩ := cell
    · exact ih (row.insert column v)
    · cases hfailure : o.failure with
      | some f =>
        exact .inr ⟨[], column, o, objects cells, f, rfl, by simp, hfailure,
          readCells_failed row column hfailure cells⟩
      | none =>
        rw [readCells_ended row column hfailure]
        obtain ⟨hread, hcells⟩ | ⟨before, column', o', after, f, hobjects, hbefore, hf, hcells⟩ :=
          ih (row.insert column (Cell.large o).value)
        · refine .inl ⟨List.forall_mem_cons.mpr ⟨hfailure, hread⟩, ?_⟩
          rw [hcells, objects, visits_cons _ _ (objects cells)]
          rfl
        · refine .inr ⟨(column, o) :: before, column', o', after, f, congrArg _ hobjects,
            List.forall_mem_cons.mpr ⟨hfailure, hbefore⟩, hf, ?_⟩
          rw [hcells, List.cons_append, visits_cons _ _ (before ++ _), List.append_assoc]

/-! ## The rows of a result set -/

section Fetches

variable {failure : Option Failure} {wanted : Option Nat} {rows : List RawRow}
  {calls : List CursorCall} {r : Except Failure (List Row)}

theorem Fetches.nothing (h : wanted = some 0) (rows : List RawRow) :
    Fetches failure wanted rows [] (.ok []) :=
  .satisfied (show rows = [] ++ rows from rfl) h (by simp)

theorem wanted_pos (h : wanted ≠ some 0) : ∀ n ∈ wanted, 0 < n := by
  rintro n rfl
  exact Nat.pos_of_ne_zero fun hzero => h (congrArg some hzero)

/-- A row that is wanted and read comes before the others. -/
theorem Fetches.cons {raw : RawRow} (hraw : Readable raw) (hwanted : wanted ≠ some 0)
    (h : Fetches failure (wanted.map (· - 1)) rows calls r) :
    Fetches failure wanted (raw :: rows) (fetching raw ++ calls) (r.map (values raw :: ·)) := by
  have hmore {k : Nat} (h : ∀ n ∈ wanted.map (· - 1), k < n) : ∀ n ∈ wanted, k + 1 < n := by
    rintro n rfl
    have := h (n - 1) rfl
    omega
  have hall {rows : List RawRow} (h : ∀ raw ∈ rows, Readable raw) :
    ∀ raw' ∈ raw :: rows, Readable raw' :=
    List.forall_mem_cons.mpr ⟨hraw, h⟩
  cases h with
  | @satisfied fetched rest hrows hn hread =>
    obtain ⟨n, rfl, hlength⟩ := Option.map_eq_some_iff.mp hn
    have hpos := wanted_pos hwanted n rfl
    have hsucc : n = (raw :: fetched).length := by
      rw [List.length_cons]
      omega
    have hsplit : raw :: rows = (raw :: fetched) ++ rest := congrArg (raw :: ·) hrows
    exact .satisfied hsplit (congrArg some hsucc) (hall hread)
  | exhausted hn hread hfailure =>
    rw [← List.append_assoc, ← List.flatMap_cons]
    exact .exhausted (hmore hn) (hall hread) hfailure
  | refused hn hread hfailure =>
    rw [← List.append_assoc, ← List.flatMap_cons]
    exact .refused (hmore hn) (hall hread) hfailure
  | @broken fetched rest raw' _ _ _ _ _ hrows hn hread hobjects hbefore hfailure =>
    have hsplit : raw :: rows = (raw :: fetched) ++ raw' :: rest := congrArg (raw :: ·) hrows
    rw [← List.append_assoc, ← List.flatMap_cons]
    exact .broken hsplit (hmore hn) (hall hread) hobjects hbefore hfailure

/-- Fetching keeps to its protocol, whatever rows came before. -/
theorem fetchRows_fetches (failure : Option Failure) (wanted : Option Nat) (done : List Row)
    (rows : List RawRow) :
    ∃ r, (fetchRows failure wanted done rows).1 = r.map (done.reverse ++ ·) ∧
      Fetches failure wanted rows (fetchRows failure wanted done rows).2 r := by
  induction rows generalizing wanted done with
  | nil =>
    unfold fetchRows
    by_cases hwanted : wanted = some 0
    · rw [if_pos hwanted]
      exact ⟨.ok [], by simp [Except.map], .nothing hwanted _⟩
    · rw [if_neg hwanted]
      cases failure with
      | some f => exact ⟨.error f, rfl, .refused (wanted_pos hwanted) (by simp) rfl⟩
      | none => exact ⟨.ok [], by simp [Except.map], .exhausted (wanted_pos hwanted) (by simp) rfl⟩
  | cons raw rows ih =>
    unfold fetchRows
    by_cases hwanted : wanted = some 0
    · rw [if_pos hwanted]
      exact ⟨.ok [], by simp [Except.map], .nothing hwanted _⟩
    · rw [if_neg hwanted]
      obtain ⟨hread, hcells⟩ | ⟨before, column, o, after, f, hobjects, hbefore, hf, hcells⟩ :=
        readCells_cases Row.empty raw
      · obtain ⟨r, hr, hfetches⟩ := ih (wanted.map (· - 1)) (values raw :: done)
        rw [hcells]
        refine ⟨r.map (values raw :: ·), ?_, hfetches.cons hread hwanted⟩
        have hdone : (fetchRows failure (wanted.map (· - 1)) (values raw :: done) rows).1 =
            (r.map (values raw :: ·)).map (done.reverse ++ ·) := by
          rw [hr]
          cases r <;> simp [Except.map]
        exact hdone
      · rw [hcells]
        have hsplit : raw :: rows = [] ++ raw :: rows := rfl
        exact ⟨.error (.stream f.streamMessage), rfl,
          .broken hsplit (wanted_pos hwanted) (by simp) hobjects hbefore hf⟩

/-! ## Closing -/

/-- What is done with objects is neither a fetch nor the end of the result set. -/
theorem mem_visits {call : CursorCall} {reads : LargeObject → Nat}
    {os : List (String × LargeObject)} (h : call ∈ visits reads os) :
    ∃ column reader, call = .reader column reader := by
  obtain ⟨p, -, hp⟩ := List.mem_flatMap.mp h
  rcases List.mem_append.mp hp with hp | hp
  · exact ⟨_, _, (List.mem_replicate.mp hp).2⟩
  · exact ⟨_, _, List.mem_singleton.mp hp⟩

@[simp]
theorem close_not_mem_visits (reads : LargeObject → Nat) (os : List (String × LargeObject)) :
    .close ∉ visits reads os := by
  intro h
  obtain ⟨_, _, hcall⟩ := mem_visits h
  cases hcall

@[simp]
theorem count_fetch_visits (reads : LargeObject → Nat) (os : List (String × LargeObject)) :
    (visits reads os).count .fetch = 0 := by
  rw [List.count_eq_zero]
  intro h
  obtain ⟨_, _, hcall⟩ := mem_visits h
  cases hcall

/-- Each of the objects is closed once, however often it is read. -/
@[simp]
theorem count_close_visits (column : String) (reads : LargeObject → Nat)
    (os : List (String × LargeObject)) :
    (visits reads os).count (.reader column .close) = os.countP fun p => p.1 = column := by
  induction os with
  | nil => rfl
  | cons p os ih =>
    rw [visits, List.flatMap_cons, List.count_append, ← visits, ih, List.countP_cons, Nat.add_comm]
    simp [List.count_replicate, List.count_cons]

theorem close_not_mem_fetching (rows : List RawRow) : .close ∉ rows.flatMap fetching := by
  simp [fetching]

theorem count_fetch_fetching (rows : List RawRow) :
    (rows.flatMap fetching).count .fetch = rows.length := by
  induction rows with
  | nil => rfl
  | cons raw rows ih => simp [fetching, ih]

theorem count_close_fetching (column : String) (rows : List RawRow) :
    (rows.flatMap fetching).count (.reader column .close) =
      (rows.flatMap objects).countP fun p => p.1 = column := by
  induction rows with
  | nil => rfl
  | cons raw rows ih => simp [fetching, ih]

/-- Fetching rows does not close the result set. -/
theorem Fetches.close_not_mem (h : Fetches failure wanted rows calls r) : .close ∉ calls := by
  cases h with
  | satisfied => exact close_not_mem_fetching _
  | exhausted => simpa using close_not_mem_fetching rows
  | refused => simpa using close_not_mem_fetching rows
  | @broken fetched => simpa using close_not_mem_fetching fetched

/-- Every large object of a row that was fetched is closed once. -/
theorem Fetches.count_close (h : Fetches failure wanted rows calls r) (column : String) :
    calls.count (.reader column .close) =
      ((rows.take (calls.count .fetch)).flatMap objects).countP fun p => p.1 = column := by
  cases h with
  | satisfied hrows => rw [count_fetch_fetching, count_close_fetching, hrows, List.take_left]
  | exhausted | refused =>
    rw [List.count_append, List.count_append, count_fetch_fetching, count_close_fetching,
      List.take_of_length_le (by simp)]
    simp
  | @broken fetched rest raw before after column' o f hrows _ _ hobjects =>
    have htake : rows.take (fetched.length + 1) = fetched ++ [raw] := by
      rw [hrows, List.append_cons, List.take_left' (by simp)]
    simp only [List.count_append, List.count_cons_self, List.count_cons_of_ne, ne_eq, reduceCtorEq,
      not_false_eq_true, count_fetch_fetching, count_close_fetching, count_fetch_visits,
      count_close_visits, Nat.add_zero, htake, hobjects, List.flatMap_append, List.flatMap_cons,
      List.flatMap_nil, List.append_nil, List.countP_append, List.countP_cons, List.countP_nil]
    omega

end Fetches

/-! ## Room -/

theorem fits_iff (c : Cursor) : c.fits = true ↔ ∀ n ∈ c.announced, n ≤ maxRows := by
  cases hc : c.announced <;> simp [fits, hc]

/-- Reading crashes where there is no room, and nowhere else. -/
theorem collect_eq_none_iff (c : Cursor) : c.collect = Option.none ↔ c.fits = false := by
  unfold collect
  cases c.fits <;> simp

/-- Reading a result set makes the calls of fetching its rows, and closes it. -/
theorem collect_fetches {c : Cursor} {r : Except Failure (List Row)} {made : List CursorCall}
    (h : c.collect = some (r, made)) :
    ∃ calls, made = calls ++ [.close] ∧ Fetches c.failure c.announced c.rows calls r := by
  unfold collect at h
  split at h
  next =>
    obtain ⟨r', hr, hfetches⟩ := fetchRows_fetches c.failure c.announced [] c.rows
    cases h
    have hresult : (fetchRows c.failure c.announced [] c.rows).1 = r' := by
      rw [hr]
      cases r' <;> simp [Except.map]
    exact ⟨_, rfl, hresult ▸ hfetches⟩
  next => cases h

theorem exists_collect {c : Cursor} (h : c.fits = true) : ∃ r made, c.collect = some (r, made) :=
  ⟨_, _, if_pos h⟩

/-- Every handle is closed exactly once. The calls end with the only one that closes the result set.
Before it rows are fetched, and the large objects of each row are closed before the next call that
is not about one of them, the objects after one that fails without a read; no row is fetched after
that. For each column there are as many closes as there are large objects in it among the fetched
rows. What is given is the rows, or the first failure and no rows. -/
def ClosesEveryHandle (c : Cursor) : Prop :=
  ∃ r calls, c.collect = some (r, calls ++ [.close]) ∧ .close ∉ calls ∧
    Fetches c.failure c.announced c.rows calls r ∧
    ∀ column, calls.count (.reader column .close) =
      ((c.rows.take (calls.count .fetch)).flatMap objects).countP fun p => p.1 = column

/-- **Handles are closed exactly once, where there is room.** Every handle is closed when no number
of rows is announced, or one that room can be made for. For any larger number the reading crashes,
before it has called anything and without closing the result set. -/
theorem closes_every_handle_iff (c : Cursor) :
    (c.ClosesEveryHandle ↔ ∀ n ∈ c.announced, n ≤ maxRows) ∧
      ((∃ n ∈ c.announced, maxRows < n) → c.collect = Option.none) := by
  rw [← fits_iff]
  refine ⟨⟨?_, fun hfits => ?_⟩, fun ⟨n, hn, hmax⟩ => ?_⟩
  · rintro ⟨r, calls, hcollect, -⟩
    refine Bool.of_not_eq_false fun hfits => ?_
    cases hcollect.symm.trans ((collect_eq_none_iff c).mpr hfits)
  · obtain ⟨r, made, hcollect⟩ := exists_collect hfits
    obtain ⟨calls, rfl, hfetches⟩ := collect_fetches hcollect
    exact ⟨r, calls, hcollect, hfetches.close_not_mem, hfetches, hfetches.count_close⟩
  · refine (collect_eq_none_iff c).mpr (Bool.eq_false_iff.mpr fun hfits => ?_)
    exact absurd ((fits_iff c).mp hfits n hn) (by omega)

/-- A result set without rows that announces as many as 64 bits can count is never closed. -/
theorem largest_count_not_closed :
    Cursor.collect ⟨some (2 ^ 64 - 1), [], Option.none⟩ = Option.none ∧
      ¬ ClosesEveryHandle ⟨some (2 ^ 64 - 1), [], Option.none⟩ := by
  have hcrash : Cursor.collect ⟨some (2 ^ 64 - 1), [], Option.none⟩ =
    Option.none := by decide +kernel
  refine ⟨hcrash, ?_⟩
  rintro ⟨r, calls, hcollect, -⟩
  cases hcollect.symm.trans hcrash

end Cursor

end RowFerry
