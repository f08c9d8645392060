import RowFerry.Odbc.Driver
import RowFerry.Proofs.AnnouncedRows
import RowFerry.Proofs.Sequences

/-!
What becomes of the cells that a driver renders. A fetched row is a row with the columns of the
result set in their order. A short value is read by the type of its column; a long one is cut
into chunks, handed out chunk by chunk and put together again, and what is read then is what its
bytes are read as at once.
-/

namespace RowFerry

namespace Odbc

open Text

variable {type : ColumnType} {columns : List (String × ColumnType)}
  {cells : List WireCell} {raw : RawRow} {s : WireSet} {raws : List RawRow}

/-! ## Chunks -/

/-- Chunks that hold all bytes in order, none of them empty or too long, and
no more than are needed. -/
structure CutInto (bs : List UInt8) (cs : List (List UInt8)) : Prop where
  whole : cs.flatten = bs
  sizes : ∀ chunk ∈ cs, chunk ≠ [] ∧ chunk.length ≤ chunkSize
  count : cs.length = (bs.length + chunkSize - 1) / chunkSize

theorem chunks_nil : chunks [] = [] := by
  rw [chunks]
  rfl

theorem chunks_of_ne_nil {bs : List UInt8} (h : bs ≠ []) :
    chunks bs = bs.take chunkSize :: chunks (bs.drop chunkSize) := by
  rw [chunks, if_neg (by simpa using h)]

theorem chunks_cut (bs : List UInt8) : CutInto bs (chunks bs) := by
  induction bs using chunks.induct with
  | case1 bs h =>
    obtain rfl := List.isEmpty_iff.mp h
    rw [chunks_nil]
    exact ⟨rfl, by simp, rfl⟩
  | case2 bs h ih =>
    have hne : bs ≠ [] := by simpa using h
    have hpos := List.length_pos_of_ne_nil hne
    rw [chunks_of_ne_nil hne]
    refine ⟨?_, List.forall_mem_cons.mpr ⟨⟨?_, List.length_take_le ..⟩, ih.sizes⟩, ?_⟩
    · rw [List.flatten_cons, ih.whole, List.take_append_drop]
    · simpa [chunkSize] using hne
    · rw [List.length_cons, ih.count, List.length_drop]
      simp only [chunkSize]
      omega

/-- A long value is put together from its chunks: one read for each, and one that finds the end. -/
theorem read_chunks (bs : List UInt8) : LargeObject.read ⟨chunks bs, none⟩ =
    (.ok (Utf8.read bs),
      List.replicate ((bs.length + chunkSize - 1) / chunkSize + 1) .read ++ [.close]) := by
  have hcut := chunks_cut bs
  rw [LargeObject.read_ended rfl, hcut.whole, hcut.count]

/-! ## Cells -/

/-- The value that stands for a cell of a column of the type. The text of a short value is read by
the type, that of a long value is left as it is. -/
inductive WireCell.ReadsAs (type : ColumnType) : WireCell → Value → Prop where
  | null : ReadsAs type .null .null
  | binary {bs : List UInt8} (h : type.isBinary = true) : ReadsAs type (.bytes bs) (.bytes bs)
  | short {bs : List UInt8} {text : String} (hlong : type.isLong = false)
    (hbinary : type.isBinary = false) (htext : Utf8.Lossy bs text.toList) :
    ReadsAs type (.bytes bs) (type.parse text)
  | long {bs : List UInt8} {text : String} (h : type.isLong = true)
    (htext : Utf8.Lossy bs text.toList) :
    ReadsAs type (.bytes bs) (.string text)

/-- A row stands for the cells of a fetched row: it has the columns in their order, and each has the
value that stands for its cell. -/
structure StandsFor (columns : List (String × ColumnType)) (cells : List WireCell)
    (row : Row) : Prop where
  names : row.names = columns.map Prod.fst
  values : List.Forall₂ (fun p v => p.2.ReadsAs p.1.2 v) (columns.zip cells) row.values

/-- A cell that is read stands for the same value when it is read whole as
when it comes in chunks. -/
theorem readCell_readsAs {cell : WireCell} {c : Cell} (h : readCell type cell = .ok c) :
    cell.ReadsAs type c.value ∧ ∀ o, c = .large o → o.failure = none := by
  cases cell with
  | null =>
    cases h
    exact ⟨.null, by rintro _ ⟨⟩⟩
  | failed d => cases h
  | bytes bs =>
    have hlossy : Utf8.Lossy bs (Utf8.read bs).toList := (Utf8.read_eq_iff _ _).mp rfl
    cases hlong : type.isLong with
    | true =>
      simp only [readCell, hlong, if_true, Except.ok.injEq] at h
      subst h
      refine ⟨?_, by rintro _ ⟨⟩; rfl⟩
      rw [Cell.value, (chunks_cut bs).whole]
      exact .long hlong hlossy
    | false =>
      cases hbinary : type.isBinary with
      | true =>
        simp only [readCell, hlong, hbinary, Bool.false_eq_true, if_false, if_true,
          Except.ok.injEq] at h
        subst h
        exact ⟨.binary hbinary, by rintro _ ⟨⟩⟩
      | false =>
        simp only [readCell, hlong, hbinary, Bool.false_eq_true, if_false, Except.ok.injEq] at h
        subst h
        exact ⟨.short hlong hbinary hlossy, by rintro _ ⟨⟩⟩

/-! ## Rows -/

theorem readRow_cells (h : readRow columns cells = .ok raw) :
    List.Forall₂ (fun p q => q.1 = p.1.1 ∧ readCell p.1.2 p.2 = .ok q.2)
      (columns.zip cells) raw := by
  refine (mapM_eq_ok_iff.mp h).imp fun p q hpq => ?_
  obtain ⟨value, hvalue, hq⟩ := bind_eq_ok_iff.mp hpq
  cases hq
  exact ⟨rfl, hvalue⟩

theorem readRow_names (hcells : cells.length = columns.length)
    (h : readRow columns cells = .ok raw) :
    raw.map Prod.fst = columns.map Prod.fst :=
  forall₂_zip_names hcells ((readRow_cells h).imp fun _ _ hpq => hpq.1)

/-- The large objects of a row have not failed: their bytes were fetched with the row. -/
theorem readRow_readable (h : readRow columns cells = .ok raw) : Cursor.Readable raw := by
  have hcells : ∀ q ∈ raw, ∀ o, q.2 = .large o → o.failure = none :=
    forall₂_right (fun _ _ hpq => (readCell_readsAs hpq.2).2) (readRow_cells h)
  exact fun p hp => hcells _ (Cursor.mem_objects hp) _ rfl

theorem readRow_standsFor (hnames : (columns.map Prod.fst).Nodup)
    (hcells : cells.length = columns.length) (h : readRow columns cells = .ok raw) :
    StandsFor columns cells (Cursor.values raw) := by
  have hcolumns := readRow_names hcells h
  have hentries : (Cursor.values raw).entries = raw.map fun p => (p.1, p.2.value) := by
    refine Row.entries_ofList ?_
    rw [List.map_map]
    change (raw.map Prod.fst).Nodup
    rwa [hcolumns]
  refine ⟨?_, ?_⟩
  · rw [Row.names, hentries, List.map_map, ← hcolumns]
    rfl
  · rw [Row.values, hentries, List.map_map, List.forall₂_map_right_iff]
    exact (readRow_cells h).imp fun _ _ hpq => (readCell_readsAs hpq.2).1

/-! ## Result sets -/

theorem fetchAll_rows (h : s.fetchAll = .ok raws) :
    List.Forall₂ (fun cells raw => readRow s.columns cells = .ok raw) s.rows raws := by
  obtain ⟨rows, hrows, h⟩ := bind_eq_ok_iff.mp h
  split at h
  next => cases h
  next =>
    cases h
    exact mapM_eq_ok_iff.mp hrows

/-- Rows that were fetched are read to the last one. -/
theorem collect_buffered (hroom : raws.length ≤ Cursor.maxRows)
    (h : ∀ raw ∈ raws, Cursor.Readable raw) :
    ∃ calls, (buffered raws).collect = some (.ok (raws.map Cursor.values), calls) := by
  have hfits : ∀ n ∈ (buffered raws).announced,
    n ≤ Cursor.maxRows := by simpa [buffered] using hroom
  obtain ⟨r, made, hcollect⟩ := Cursor.exists_collect ((Cursor.fits_iff _).mpr hfits)
  obtain ⟨calls, -, hfetches⟩ := Cursor.collect_fetches hcollect
  suffices hr : r = .ok (raws.map Cursor.values) from ⟨made, hr ▸ hcollect⟩
  clear hcollect
  cases hfetches with
  | @satisfied fetched rest hrows hwanted _ =>
    have hall : raws.length = fetched.length := Option.some.inj hwanted
    have htake := congrArg (List.take fetched.length) hrows
    rw [List.take_left, ← hall] at htake
    have hfetched : raws = fetched := (List.take_length (l := raws)).symm.trans htake
    rw [hfetched]
  | exhausted hwanted => exact absurd (hwanted _ rfl) (Nat.lt_irrefl _)
  | refused hwanted => exact absurd (hwanted _ rfl) (Nat.lt_irrefl _)
  | @broken fetched rest raw before after column o f hrows _ _ hobjects _ hfailure =>
    have hraw : raw ∈ (buffered raws).rows := by simp [hrows]
    have hobject : (column, o) ∈ Cursor.objects raw := by simp [hobjects]
    cases (h raw hraw _ hobject).symm.trans hfailure

/-- **Cells that are fetched are neither lost nor changed.** When a result set is fetched,
reading it gives one row for each fetched row, in order, with the columns of the result set in
their order: a missing cell is null, a binary cell its bytes, a short text what the type of its
column reads, and a long value the text of all its bytes. Rows that were fetched are in memory,
so there is room for as many. A long value is handed out in the fewest chunks that hold its
bytes, none of them empty; reading them takes one read for each and one more, and gives the text
that the bytes are read as at once. -/
theorem fetched_cells_collected (hnames : (s.columns.map Prod.fst).Nodup)
    (hcells : ∀ cells ∈ s.rows, cells.length = s.columns.length) (h : s.fetchAll = .ok raws)
    (hroom : raws.length ≤ Cursor.maxRows) :
    (∃ rows calls, (buffered raws).collect = some (.ok rows, calls) ∧
        List.Forall₂ (StandsFor s.columns) s.rows rows) ∧
      ∀ bs : List UInt8, CutInto bs (chunks bs) ∧
        LargeObject.read ⟨chunks bs, none⟩ = (.ok (Utf8.read bs),
          List.replicate ((bs.length + chunkSize - 1) / chunkSize + 1) .read ++ [.close]) := by
  have hfetched := fetchAll_rows h
  have hreadable : ∀ raw ∈ raws, Cursor.Readable raw :=
    forall₂_right (fun _ _ hread => readRow_readable hread) hfetched
  obtain ⟨calls, hcollect⟩ := collect_buffered hroom hreadable
  refine ⟨⟨_, calls, hcollect, ?_⟩, fun bs => ⟨chunks_cut bs, read_chunks bs⟩⟩
  rw [List.forall₂_map_right_iff]
  have hrows := (List.forall₂_and_left _ _).mpr ⟨hcells, hfetched⟩
  exact hrows.imp fun _ _ ⟨hlength, hread⟩ => readRow_standsFor hnames hlength hread

/-- A text whose last character begins with the last byte of the first chunk. -/
def longText : List UInt8 := List.replicate 65535 0x78 ++ [0xC3, 0xA9]

/-- Two rows with a short and a long column, the second without values. -/
def longBody : WireSet where
  columns := [("id", .bigInt), ("body", .longVarchar)]
  rows := [[.bytes [0x37], .bytes longText], [.null, .null]]
  failure := none

theorem longBody_collected :
    (longBody.columns.map Prod.fst).Nodup ∧
    (∀ cells ∈ longBody.rows, cells.length = longBody.columns.length) ∧
      ∃ raws, longBody.fetchAll = .ok raws ∧
        ∃ rows calls, (buffered raws).collect = some (.ok rows, calls) ∧
          List.Forall₂ (StandsFor longBody.columns) longBody.rows rows := by
  have hnames : (longBody.columns.map Prod.fst).Nodup := by decide
  have hcells : ∀ cells ∈ longBody.rows, cells.length =
    longBody.columns.length := by simp [longBody]
  have hfetch : longBody.fetchAll = .ok
      [[("id", .scalar (.i64 7)), ("body", .large ⟨chunks longText, none⟩)],
        [("id", .scalar .null), ("body", .scalar .null)]] := rfl
  exact ⟨hnames, hcells, _, hfetch, (fetched_cells_collected hnames hcells hfetch (by decide)).1⟩

end Odbc

end RowFerry
