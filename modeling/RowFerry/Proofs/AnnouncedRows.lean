import Mathlib.Data.List.Forall2
import RowFerry.Proofs.ResultSet
import RowFerry.Proofs.Row

/-!
How much of a result set is read. Without a number of rows announced the reading goes on to the
end, which one more fetch finds. With one it stops there, without that fetch, or at the end if
fewer rows come. The rows are the raw ones in their order, each large object replaced by the text
that its bytes are read as.
-/

namespace RowFerry

/-- A value stands for a cell: the scalar itself, or the text of the large object. -/
inductive Cell.ReadsAs : Cell → Value → Prop where
  | scalar (v : Value) : ReadsAs (.scalar v) v
  | large {o : LargeObject} {text : String} (h : Text.Utf8.Lossy o.chunks.flatten text.toList) :
    ReadsAs (.large o) (.string text)

theorem Cell.readsAs_iff (cell : Cell) (v : Value) : cell.ReadsAs v ↔ cell.value = v := by
  constructor
  · intro h
    cases h with
    | scalar => rfl
    | large h => exact congrArg Value.string ((Text.Utf8.read_eq_iff _ _).mpr h)
  · rintro rfl
    cases cell with
    | scalar v => exact .scalar v
    | large o => exact .large ((Text.Utf8.read_eq_iff _ _).mp rfl)

namespace Cursor

/-- A row stands for a raw row: it has the columns of the raw row, each where it comes first, and
the value of a column stands for the last cell that the raw row has in it. -/
structure ReadsAs (raw : RawRow) (row : Row) : Prop where
  names : row.names = (raw.map Prod.fst).eraseDups
  cells : ∀ column, Option.Rel Cell.ReadsAs (raw.reverse.lookup column) (row.get? column)

theorem names_values (raw : RawRow) : (values raw).names = (raw.map Prod.fst).eraseDups := by
  rw [values, Row.names_ofList, List.map_map]
  rfl

theorem get?_values (raw : RawRow) (column : String) :
    (values raw).get? column = (raw.reverse.lookup column).map Cell.value := by
  have hmap (cells : RawRow) :
      (cells.map fun p => (p.1, p.2.value)).lookup column =
        (cells.lookup column).map Cell.value := by
    induction cells with
    | nil => rfl
    | cons p cells ih =>
      rw [List.map_cons, List.lookup_cons, List.lookup_cons, ih]
      cases column == p.1 <;> rfl
  rw [values, Row.get?_ofList, ← List.map_reverse, hmap]

/-- One row stands for a raw row, the one that is read. -/
theorem readsAs_iff (raw : RawRow) (row : Row) : ReadsAs raw row ↔ values raw = row := by
  have hcells (cell : Option Cell) (v : Option Value) :
      Option.Rel Cell.ReadsAs cell v ↔ cell.map Cell.value = v := by
    cases cell <;> cases v <;> simp [Cell.readsAs_iff]
  constructor
  · rintro ⟨hnames, h⟩
    refine Row.eq_of_get? ((names_values raw).trans hnames.symm) fun column _ => ?_
    rw [get?_values]
    exact (hcells _ _).mp (h column)
  · rintro rfl
    refine ⟨names_values raw, fun column => ?_⟩
    rw [get?_values]
    exact (hcells _ _).mpr rfl

theorem forall₂_values (raws : List RawRow) : List.Forall₂ ReadsAs raws (raws.map values) :=
  List.forall₂_map_right_iff.mpr (List.forall₂_same.mpr fun raw _ => (readsAs_iff raw _).mpr rfl)

/-- The rows that a result set without failures gives, and after how many fetches. -/
structure GivesAnnounced (c : Cursor) (rows : List Row) (fetches : Nat) : Prop where
  /-- Without an announced number all rows are given, and a fetch finds the end. -/
  all : c.announced = Option.none → List.Forall₂ ReadsAs c.rows rows ∧ fetches = c.rows.length + 1
  /-- With one no more rows are given than that. -/
  upTo : ∀ n, c.announced = some n → List.Forall₂ ReadsAs (c.rows.take n) rows
  enough : ∀ n, c.announced = some n → n ≤ c.rows.length → fetches = n
  tooFew : ∀ n, c.announced = some n → c.rows.length < n → fetches = c.rows.length + 1

/-- **Of a result set exactly the announced rows are read.** When there is room for the announced
rows and no fetch and no large object fails, the result is rows: all of them where no number is
announced, else the first ones up to the announced number, each with the columns of the raw row in
the order in which they first come and in each column what came last, large objects as the text of
their bytes. One fetch is made for each row, and one that finds the end where no number is announced
or fewer rows come than announced; a result set that announces no rows is not fetched from. -/
theorem collect_announced (c : Cursor) (hroom : ∀ n ∈ c.announced, n ≤ maxRows)
    (hfailure : c.failure = Option.none) (hreadable : ∀ raw ∈ c.rows, Readable raw) :
    ∃ rows calls, c.collect = some (.ok rows, calls) ∧
      c.GivesAnnounced rows (calls.count .fetch) := by
  obtain ⟨r, made, hcollect⟩ := exists_collect ((fits_iff c).mpr hroom)
  obtain ⟨calls, rfl, hfetches⟩ := collect_fetches hcollect
  suffices hgives : ∃ rows, r = .ok rows ∧ c.GivesAnnounced rows (calls.count .fetch) by
    obtain ⟨rows, rfl, hgives⟩ := hgives
    refine ⟨rows, _, hcollect, ?_⟩
    rwa [List.count_append, List.count_singleton, if_neg (by decide)]
  clear hcollect
  cases hfetches with
  | @satisfied fetched rest hrows hwanted _ =>
    have htake : c.rows.take fetched.length = fetched := by rw [hrows, List.take_left]
    have hlength : fetched.length ≤ c.rows.length := by
      rw [hrows, List.length_append]
      omega
    refine ⟨_, rfl, ⟨fun h => ?_, fun n h => ?_, fun n h _ => ?_, fun n h hmore => ?_⟩⟩ <;>
      cases hwanted.symm.trans h
    · rw [htake]
      exact forall₂_values fetched
    · exact count_fetch_fetching fetched
    · omega
  | exhausted hwanted _ _ =>
    have hfetched : (c.rows.flatMap fetching ++ [CursorCall.fetch]).count .fetch =
      c.rows.length + 1 := by
      rw [List.count_append, count_fetch_fetching]
      rfl
    refine ⟨_, rfl, ⟨fun _ => ⟨forall₂_values c.rows, hfetched⟩, fun n h => ?_, fun n h hless => ?_,
      fun _ _ _ => hfetched⟩⟩
    · rw [List.take_of_length_le (hwanted n h).le]
      exact forall₂_values c.rows
    · exact absurd (hwanted n h) (by omega)
  | refused _ _ hrefused => cases hfailure.symm.trans hrefused
  | @broken fetched rest raw before after column o f hrows _ _ hobjects _ hbroken =>
    have hraw : raw ∈ c.rows := by simp [hrows]
    have hobject : (column, o) ∈ objects raw := by simp [hobjects]
    cases (hreadable raw hraw _ hobject).symm.trans hbroken

/-- Two rows; the first has a column twice and a large object whose chunks share a character. -/
def twoRows (announced : Option Nat) : Cursor where
  announced := announced
  rows := [[("id", .scalar (.i64 1)), ("note", .large ⟨[[0xC3], [0xA9]], Option.none⟩),
    ("id", .scalar (.i64 2))], [("id", .scalar (.i64 3))]]
  failure := Option.none

theorem twoRows_announced : ∃ rows calls, (twoRows (some 3)).collect = some (.ok rows, calls) ∧
    (twoRows (some 3)).GivesAnnounced rows (calls.count .fetch) :=
  collect_announced (twoRows (some 3)) (by simp [twoRows, maxRows]) rfl
    (by simp [twoRows, Readable, objects])

example : (twoRows (some 1)).collect.map Prod.fst =
    some (.ok [Row.ofList [("id", .i64 2), ("note", .string "é")]]) := by
  decide +kernel

end Cursor

end RowFerry
