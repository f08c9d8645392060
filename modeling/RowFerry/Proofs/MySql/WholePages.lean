import RowFerry.MySql.Source
import RowFerry.Proofs.Row
import RowFerry.Proofs.Sequences
import RowFerry.Proofs.StoppedMigration
import RowFerry.Rehearsal.Decoder

/-!
A page of a MySQL server is read whole or not at all, whatever the decoder makes of its cells. Every
row that was sent is read, with all its cells in their order, or the first cell that cannot be
decoded refuses the page, and a migration ends there. If the decoder tells the cells that were not
sent from the others, they are null in what is read and nothing else is.
-/

namespace RowFerry.MySql

variable {d : Decoder} {t : WireTable} {rows : List Row}
  {columns : List (String × String)} {row : Row} {type : String} {cell : Cell} {f : Failure}

/-! ## Cells -/

/-- The cells of a table with their columns, row by row. -/
def WireTable.cells (t : WireTable) : List ((String × String) × Cell) :=
  t.rows.flatMap t.columns.zip

/-- The decoder takes a cell of the table for null if it was not sent, and no other. -/
def Decoder.TellsNulls (d : Decoder) (t : WireTable) : Prop :=
  ∀ p ∈ t.cells, d.isNull p.1.2 p.2 = .ok (decide (p.2 = .null))

theorem map_ne_null {α : Type} {g : α → Value} (hg : ∀ x, g x ≠ .null) (r : Except String α) :
    r.map g ≠ .ok .null := by
  cases r with
  | error => nofun
  | ok x => exact fun h => hg x (Except.ok.inj h)

theorem ofUnsigned_ne_null (n : UInt64) : ofUnsigned n ≠ .null := by
  unfold ofUnsigned
  split <;> nofun

/-- No cell is decoded to null because of its type. -/
theorem Decoder.read_ne_null (d : Decoder) (type : String) (cell : Cell) :
    d.read type cell ≠ .ok .null := by
  unfold read
  cases ColumnKind.ofName type with
  | unsigned => exact map_ne_null ofUnsigned_ne_null _
  | text =>
    cases d.text type cell with
    | ok => nofun
    | error => exact map_ne_null (by simp) _
  | _ => exact map_ne_null (by simp) _

/-- A cell that the decoder tells is null, or decoded by its type. -/
theorem Decoder.decode_eq (h : d.isNull type cell = .ok (decide (cell = .null))) :
    d.decode type cell = if cell = .null then .ok .null else d.read type cell := by
  rw [decode, h]
  by_cases hnull : cell = .null
  · simp [hnull]
    rfl
  · simp [hnull]
    rfl

theorem Decoder.decode_eq_null_iff (h : d.isNull type cell = .ok (decide (cell = .null))) :
    d.decode type cell = .ok .null ↔ cell = .null := by
  rw [d.decode_eq h]
  split
  next hnull => exact iff_of_true rfl hnull
  next hnull => exact iff_of_false (d.read_ne_null type cell) hnull

/-- A cell with the name of its column, decoded. -/
def Decoder.decodeCell (d : Decoder) (p : (String × String) × Cell) :
    Except Failure (String × Value) :=
  match d.decode p.1.2 p.2 with
  | .ok v => .ok (p.1.1, v)
  | .error reason => .error (.source (.decoding p.1.1 reason))

theorem Decoder.decodeRow_eq (d : Decoder) (columns : List (String × String)) (cells : List Cell) :
    d.decodeRow columns cells = ((columns.zip cells).mapM d.decodeCell).map Row.ofList := by
  change (columns.zip cells).mapM d.decodeCell >>= _ = _
  cases (columns.zip cells).mapM d.decodeCell <;> rfl

theorem Decoder.decodeCell_eq_ok_iff {p : (String × String) × Cell} {q : String × Value} :
    d.decodeCell p = .ok q ↔ q.1 = p.1.1 ∧ d.decode p.1.2 p.2 = .ok q.2 := by
  unfold decodeCell
  grind

theorem Decoder.decodeCell_eq_error_iff {p : (String × String) × Cell} :
    d.decodeCell p = .error f ↔
      ∃ reason, d.decode p.1.2 p.2 = .error reason ∧ f = .source (.decoding p.1.1 reason) := by
  unfold decodeCell
  grind

/-! ## Pages that are read -/

/-- A row has the columns in their order, and each has the value that its cell is decoded to. -/
structure ReadFrom (d : Decoder) (columns : List (String × String)) (cells : List Cell)
    (row : Row) : Prop where
  names : row.names = columns.map Prod.fst
  values : List.Forall₂ (fun p v => d.decode p.1.2 p.2 = .ok v) (columns.zip cells) row.values

/-- There is one row for each that was sent, in order. -/
def WireTable.ReadWhole (t : WireTable) (d : Decoder) (rows : List Row) : Prop :=
  List.Forall₂ (ReadFrom d t.columns) t.rows rows

/-- Every cell is null that was not sent, and no other. -/
def WireTable.NullsAsSent (t : WireTable) (rows : List Row) : Prop :=
  List.Forall₂ (fun cells row =>
    List.Forall₂ (fun p v => v = Value.null ↔ p.2 = .null) (t.columns.zip cells) row.values)
    t.rows rows

theorem Decoder.decodeRow_readFrom {cells : List Cell} (hnames : (columns.map Prod.fst).Nodup)
    (hcells : cells.length = columns.length) (h : d.decodeRow columns cells = .ok row) :
    ReadFrom d columns cells row := by
  rw [d.decodeRow_eq] at h
  obtain ⟨pairs, hpairs, rfl⟩ := map_eq_ok_iff.mp h
  have hpairs := (mapM_eq_ok_iff.mp hpairs).imp fun _ _ => decodeCell_eq_ok_iff.mp
  have hcolumns : pairs.map Prod.fst = columns.map Prod.fst :=
    forall₂_zip_names hcells (hpairs.imp fun _ _ hp => hp.1)
  have hentries : (Row.ofList pairs).entries = pairs := Row.entries_ofList (by rwa [hcolumns])
  refine ⟨?_, ?_⟩
  · rw [Row.names, hentries, hcolumns]
  · rw [Row.values, hentries, List.forall₂_map_right_iff]
    exact hpairs.imp fun _ _ hp => hp.2

theorem Decoder.decodeTable_readWhole (hnames : (t.columns.map Prod.fst).Nodup)
    (hcells : ∀ cells ∈ t.rows, cells.length = t.columns.length) (h : d.decodeTable t = .ok rows) :
    t.ReadWhole d rows := by
  have hrows := (List.forall₂_and_left _ _).mpr ⟨hcells, mapM_eq_ok_iff.mp h⟩
  exact hrows.imp fun _ _ ⟨hlength, hrow⟩ => decodeRow_readFrom hnames hlength hrow

theorem WireTable.ReadWhole.nullsAsSent (h : t.ReadWhole d rows) (hnulls : d.TellsNulls t) :
    t.NullsAsSent rows := by
  have hrows := (List.forall₂_and_left _ _).mpr ⟨List.forall_mem_flatMap.mp hnulls, h⟩
  refine hrows.imp fun cells row ⟨htold, hrow⟩ => ?_
  have hvalues := (List.forall₂_and_left _ _).mpr ⟨htold, hrow.values⟩
  refine hvalues.imp fun p v ⟨htold, hv⟩ => ?_
  rw [← d.decode_eq_null_iff htold, hv, Except.ok.injEq]

/-! ## Pages that are refused -/

/-- A table that is refused is refused for the first cell that is not decoded. -/
theorem Decoder.decodeTable_error (h : d.decodeTable t = .error f) :
    ∃ before name type cell after reason, t.cells = before ++ ((name, type), cell) :: after ∧
      (∀ p ∈ before, ∃ v, d.decode p.1.2 p.2 = .ok v) ∧ d.decode type cell = .error reason ∧
      f = .source (.decoding name reason) := by
  obtain ⟨before, cells, after, hrows, hbefore, hrow⟩ := mapM_eq_error_iff.mp h
  rw [d.decodeRow_eq, map_eq_error_iff] at hrow
  obtain ⟨read, ⟨⟨name, type⟩, cell⟩, left, hzip, hread, hcell⟩ := mapM_eq_error_iff.mp hrow
  obtain ⟨reason, hreason, rfl⟩ := decodeCell_eq_error_iff.mp hcell
  refine ⟨before.flatMap t.columns.zip ++ read, name, type, cell,
    left ++ after.flatMap t.columns.zip, reason, ?_, ?_, hreason, rfl⟩
  · rw [WireTable.cells, hrows, List.flatMap_append, List.flatMap_cons, hzip]
    simp
  · -- A row that was decoded has decoded all its cells.
    have hdecodes : ∀ p, (∃ q, d.decodeCell p = .ok q) → ∃ v, d.decode p.1.2 p.2 = .ok v :=
      fun p ⟨q, hq⟩ => ⟨q.2, (decodeCell_eq_ok_iff.mp hq).2⟩
    refine List.forall_mem_append.mpr
      ⟨fun p hp => hdecodes p ?_, fun p hp => hdecodes p (hread p hp)⟩
    obtain ⟨row, hmem, hp⟩ := List.mem_flatMap.mp hp
    obtain ⟨decoded, hdecoded⟩ := hbefore row hmem
    rw [d.decodeRow_eq] at hdecoded
    obtain ⟨pairs, hpairs, -⟩ := map_eq_ok_iff.mp hdecoded
    exact exists_mapM_ok_iff.mp ⟨pairs, hpairs⟩ p hp

/-- The first cell that was sent and cannot be decoded by its type is in the column. -/
def WireTable.FirstRejected (t : WireTable) (d : Decoder) (name reason : String) : Prop :=
  ∃ before type cell after, t.cells = before ++ ((name, type), cell) :: after ∧
    (∀ p ∈ before, ∃ v, d.decode p.1.2 p.2 = .ok v) ∧ cell ≠ .null ∧
    d.read type cell = .error reason

theorem Decoder.decodeTable_firstRejected (hnulls : d.TellsNulls t)
    (h : d.decodeTable t = .error f) :
    ∃ name reason, f = .source (.decoding name reason) ∧ t.FirstRejected d name reason := by
  obtain ⟨before, name, type, cell, after, reason, hsplit, hbefore, hcell, rfl⟩ :=
    decodeTable_error h
  have htold := hnulls ((name, type), cell) (by simp [hsplit])
  rw [d.decode_eq htold] at hcell
  have hsent : cell ≠ .null := by
    rintro rfl
    cases hcell
  rw [if_neg hsent] at hcell
  exact ⟨name, reason, rfl, before, type, cell, after, hsplit, hbefore, hsent, hcell⟩

/-- Whatever a migration is whose query of the number this is, it loads neither the page nor a later
one, and if it comes to the page it fails. -/
def Server.NeverLoads (s : Server) (number : Nat) (q : PageQuery) (f : Failure) : Prop :=
  ∀ (σ κ : Type) (a : Adapter σ κ) (source : RowSource σ) (sourceTable targetTable : String)
    (o : MigrationOptions) (count : Nat) (st : σ),
    source.answers = s.answers count → number < count →
    q = pageQuery (pageRequest sourceTable o.pageLimit number) →
    (loads ((a.markedMigrate source sourceTable targetTable o).callsFrom st)).length ≤ number ∧
      (number <
          (requests ((a.markedMigrate source sourceTable targetTable o).callsFrom st)).length →
        ((a.migrate source sourceTable targetTable o).runFrom st).1 = .error f)

theorem Server.neverLoads {s : Server} {number : Nat} {q : PageQuery} {cause : SourceError}
    (h : s.select number q = .error (.source cause)) : s.NeverLoads number q (.source cause) := by
  rintro σ κ a source sourceTable targetTable o count st hsource hnumber rfl
  have hanswer : source.answers[number]? = some fun r => s.select number (pageQuery r) := by
    rw [hsource, answers, List.getElem?_map, List.getElem?_range hnumber, Option.map_some]
  exact a.migrate_unread source sourceTable targetTable o st hanswer h

/-- **A page is read whole or refused.** Of the rows that a server sends for a query, all are
read, in order and each with all its columns, and every cell is null that was not sent and no
other; or the first cell in the order of the rows that was sent and cannot be decoded refuses the
page in the name of its column, and no migration loads it. That is so for every decoder that tells
the cells that were not sent. -/
theorem page_whole_or_refused {s : Server} {number : Nat} {q : PageQuery} {text : String}
    (hsql : q.sql = .ok text) (hanswer : s.answer number q = .ok t)
    (hnames : (t.columns.map Prod.fst).Nodup)
    (hcells : ∀ cells ∈ t.rows, cells.length = t.columns.length) (hnulls : s.decoder.TellsNulls t) :
    (∃ rows, s.select number q = .ok rows ∧ t.ReadWhole s.decoder rows ∧ t.NullsAsSent rows) ∨
      ∃ name reason, s.select number q = .error (.source (.decoding name reason)) ∧
        t.FirstRejected s.decoder name reason ∧
        s.NeverLoads number q (.source (.decoding name reason)) := by
  have hselect : s.select number q = s.decoder.decodeTable t := by
    rw [Server.select, hsql, hanswer]
    rfl
  cases hdecode : s.decoder.decodeTable t with
  | ok rows =>
    have hwhole := Decoder.decodeTable_readWhole hnames hcells hdecode
    exact .inl ⟨rows, hselect.trans hdecode, hwhole, hwhole.nullsAsSent hnulls⟩
  | error f =>
    obtain ⟨name, reason, rfl, hfirst⟩ := Decoder.decodeTable_firstRejected hnulls hdecode
    have hrefused := hselect.trans hdecode
    exact .inr ⟨name, reason, hrefused, hfirst, Server.neverLoads hrefused⟩

/-- The server that sends one table for every query. -/
def sending (t : WireTable) : Server := ⟨Rehearsal.decoder, none, none, fun _ _ => .ok t⟩

/-- Two people. For the second no birthday was sent, and a number that may be any text. -/
def people (number : String) : WireTable :=
  ⟨[("id", "BIGINT"), ("born", "DATE")], [[.text "1", .text "2024-02-29"], [.text number, .null]]⟩

/-- The query for all of them. -/
def allPeople : PageQuery := ⟨"people", [], 100, 0⟩

/-- The page is read with the missing birthday, and refused without the number. -/
theorem people_whole_or_refused :
    allPeople.sql = .ok "SELECT * FROM `people` LIMIT ? OFFSET ?" ∧
      (∀ number, ((people number).columns.map Prod.fst).Nodup ∧
        (∀ cells ∈ (people number).rows, cells.length = (people number).columns.length) ∧
        (sending (people number)).decoder.TellsNulls (people number)) ∧
      (∃ rows, (sending (people "2")).select 0 allPeople = .ok rows ∧
        (people "2").ReadWhole Rehearsal.decoder rows ∧ (people "2").NullsAsSent rows) ∧
      ∃ reason, (people "two").FirstRejected Rehearsal.decoder "id" reason ∧
        (sending (people "two")).NeverLoads 0 allPeople (.source (.decoding "id" reason)) := by
  have hsql : allPeople.sql = .ok "SELECT * FROM `people` LIMIT ? OFFSET ?" := by decide +kernel
  have hnames (number : String) : ((people number).columns.map Prod.fst).Nodup := by simp [people]
  have hcells (number : String) :
      ∀ cells ∈ (people number).rows, cells.length = (people number).columns.length := by
    simp [people]
  have hnulls (number : String) : (sending (people number)).decoder.TellsNulls (people number) := by
    have hday : Rehearsal.isZeroDate "2024-02-29" = false := by decide
    have hnumber : Rehearsal.isDated "BIGINT" = false := by decide
    simp [sending, people, Decoder.TellsNulls, WireTable.cells, Rehearsal.decoder, Cell.shown, hday,
      hnumber]
  have hanswer (number : String) :
      (sending (people number)).answer 0 allPeople = .ok (people number) := rfl
  refine ⟨hsql, fun number => ⟨hnames number, hcells number, hnulls number⟩, ?_, ?_⟩
  · obtain hread | ⟨name, reason, hrefused, -⟩ :=
      page_whole_or_refused hsql (hanswer "2") (hnames _) (hcells _) (hnulls _)
    · exact hread
    · cases hrefused
  · obtain ⟨rows, hread, -⟩ | ⟨name, reason, hrefused, hfirst, hnever⟩ :=
      page_whole_or_refused hsql (hanswer "two") (hnames _) (hcells _) (hnulls _)
    · cases hread
    · obtain rfl : "id" = name := by
        cases hrefused
        rfl
      exact ⟨reason, hfirst, hnever⟩

end RowFerry.MySql
