import Mathlib.Data.List.Perm.Subperm
import Mathlib.Data.List.Rotate
import RowFerry.MySql.Source
import RowFerry.Proofs.MigrationAccounting
import RowFerry.Proofs.MySql.Ticks
import RowFerry.Proofs.Sequences
import RowFerry.Rehearsal.Decoder

/-!
The pages of a migration are separate queries, and no query says in which order the rows are to
come. A server that answers all of them in one order sends every row once. A server may choose an
order for each query; then a table that fits in a page is still read once, and of every larger table
a row can be read twice and another never.
-/

namespace RowFerry.MySql

variable {σ κ α : Type}

/-! ## What a query says of the order -/

/-- The text of a query orders its rows. -/
def FixesOrder (sql : String) : Prop := " ORDER BY ".toList <:+: outsideTicks false sql.toList

/-- A text that ends outside names and has no `Y` there. -/
structure Unordered (sql : String) : Prop where
  outside : endsInTicks false sql.toList = false
  noY : 'Y' ∉ outsideTicks false sql.toList

theorem Unordered.not_fixesOrder {sql : String} (h : Unordered sql) : ¬ FixesOrder sql :=
  fun horder => h.noY (horder.subset (by simp))

theorem Unordered.append {s t : String} (hs : Unordered s) (ht : Unordered t) :
    Unordered (s ++ t) where
  outside := by rw [String.toList_append, endsInTicks_append, hs.outside, ht.outside]
  noY := by
    rw [String.toList_append, outsideTicks_append, hs.outside, List.mem_append, not_or]
    exact ⟨hs.noY, ht.noY⟩

theorem ticked_unordered (name : String) : Unordered (ticked name) := by
  obtain ⟨hends, hnone⟩ := ticked_outside name
  exact ⟨hends, by simp [hnone]⟩

theorem quoteName_unordered {name text : String} (h : quoteName name = .ok text) :
    Unordered text := by
  obtain ⟨-, -, rfl⟩ := map_eq_ok_iff.mp h
  exact ticked_unordered name

theorem joinWith_unordered {separator : String} (hseparator : Unordered separator)
    {ts : List String} (h : ∀ t ∈ ts, Unordered t) : Unordered (Text.joinWith separator ts) := by
  induction ts with
  | nil => exact ⟨rfl, by simp [Text.joinWith, outsideTicks]⟩
  | cons t ts ih =>
    obtain ⟨ht, hts⟩ := List.forall_mem_cons.mp h
    cases ts with
    | nil => exact ht
    | cons u us => exact (ht.append hseparator).append (ih hts)

theorem predicate_unordered {filter : String × Value} {text : String}
    (h : PageQuery.predicate filter = .ok text) : Unordered text := by
  obtain ⟨column, hcolumn, htext⟩ := bind_eq_ok_iff.mp h
  have hname := quoteName_unordered hcolumn
  cases hnull : filter.2.isNull <;> rw [hnull] at htext <;> cases htext
  · exact hname.append ⟨by decide, by decide⟩
  · exact hname.append ⟨by decide, by decide⟩

/-- No query says in which order its rows are to come. -/
theorem sql_not_fixesOrder {q : PageQuery} {text : String} (h : q.sql = .ok text) :
    ¬ FixesOrder text := by
  obtain ⟨table, htable, h⟩ := bind_eq_ok_iff.mp h
  obtain ⟨predicates, hpredicates, h⟩ := bind_eq_ok_iff.mp h
  obtain rfl := Except.ok.inj h
  have hall : ∀ p ∈ predicates, Unordered p := by
    refine forall₂_right (fun filter text hp => ?_) (mapM_eq_ok_iff.mp hpredicates)
    exact predicate_unordered hp
  have hcondition : Unordered (if predicates.isEmpty then ""
      else " WHERE " ++ Text.joinWith " AND " predicates) := by
    split
    · exact ⟨by decide, by decide⟩
    · exact .append ⟨by decide, by decide⟩
        (joinWith_unordered ⟨by decide, by decide⟩ hall)
  refine Unordered.not_fixesOrder
    (.append (.append (.append ?_ (quoteName_unordered htable)) hcondition) ?_)
  · exact ⟨by decide, by decide⟩
  · exact ⟨by decide, by decide⟩

/-! ## A server and the orders that it chooses -/

/-- The server sends for a query on the table, from the offset on and up to the limit, the rows in
an order of its choice; where the text of a query fixes the order it is the same for every query of
that text. What it sends is decoded by the decoder. -/
structure Server.Serves (s : Server) (d : Decoder) (table : String) (t : WireTable)
    (order : Nat → PageQuery → List (List Cell)) : Prop where
  decoder : s.decoder = d
  ordering : ∀ number q, (order number q).Perm t.rows
  fixed : ∀ number number' q q' text, q.sql = .ok text → q'.sql = .ok text → FixesOrder text →
    order number q = order number' q'
  answer : ∀ number q, q.table = table → q.filters = [] → s.answer number q =
    .ok ⟨t.columns, ((order number q).drop q.offset.toNat).take q.limit.toNat⟩

/-- The rows of a page, before they are decoded. -/
def pageCells (order : Nat → PageQuery → List (List Cell)) (table : String) (limit : UInt64)
    (number offset : Nat) : List (List Cell) :=
  ((order number ⟨table, [], limit, UInt64.ofNat offset⟩).drop offset).take limit.toNat

/-- The rows of the pages that were loaded. -/
def rowsRead (calls : List (Call κ)) : List Row := ((loads calls).map Prod.fst).flatten

theorem mapM_of_forall {f : List Cell → Except Failure Row} {g : List Cell → Row}
    {cs : List (List Cell)} (h : ∀ c ∈ cs, f c = .ok (g c)) : cs.mapM f = .ok (cs.map g) := by
  induction cs with
  | nil => rfl
  | cons c cs ih =>
    obtain ⟨hc, hcs⟩ := List.forall_mem_cons.mp h
    rw [List.mapM_cons, hc, ih hcs]
    rfl

/-- A table that is decoded is decoded row by row. -/
theorem Decoder.decodeTable_eq {d : Decoder} {t : WireTable} {rows : List Row}
    (h : d.decodeTable t = .ok rows) :
    ∃ g, (∀ c ∈ t.rows, d.decodeRow t.columns c = .ok (g c)) ∧ rows = t.rows.map g := by
  let g (c : List Cell) : Row := (d.decodeRow t.columns c).toOption.getD Row.empty
  have hg : ∀ c ∈ t.rows, d.decodeRow t.columns c = .ok (g c) := by
    intro c hc
    obtain ⟨row, hrow⟩ := exists_mapM_ok_iff.mp ⟨rows, h⟩ c hc
    simp only [g, hrow]
    rfl
  exact ⟨g, hg, Except.ok.inj (h.symm.trans (mapM_of_forall hg))⟩

section Run

variable {s : Server} {d : Decoder} {table : String} {t : WireTable}
  {order : Nat → PageQuery → List (List Cell)} {g : List Cell → Row} {limit : UInt64}

/-- A page that is read is the decoded page of the order that was chosen for it. -/
theorem Server.Serves.select_eq (h : s.Serves d table t order)
    (hg : ∀ c ∈ t.rows, d.decodeRow t.columns c = .ok (g c)) {number : Nat}
    {offset : UInt64} {page : List Row}
    (hpage : s.select number (pageQuery ⟨table, [], limit, offset⟩) = .ok page) :
    page = (pageCells order table limit number offset.toNat).map g := by
  obtain ⟨-, -, hpage⟩ := bind_eq_ok_iff.mp hpage
  rw [h.answer number _ rfl rfl, h.decoder] at hpage
  have hcells : ∀ c ∈ pageCells order table limit number offset.toNat,
      d.decodeRow t.columns c = .ok (g c) := by
    intro c hc
    exact hg c ((h.ordering number _).mem_iff.mp (List.mem_of_mem_drop (List.mem_of_mem_take hc)))
  have hdecoded := mapM_of_forall hcells
  rw [pageCells, UInt64.ofNat_toNat] at hdecoded ⊢
  exact Except.ok.inj (hpage.symm.trans hdecoded)

theorem length_pageCells (hordering : ∀ number q, (order number q).Perm t.rows)
    (number offset : Nat) :
    (pageCells order table limit number offset).length =
      min limit.toNat (t.rows.length - offset) := by
  rw [pageCells, List.length_take, List.length_drop, (hordering number _).length_eq]

/-- A migration that succeeds has read the pages of the rows from its offset on, each in the order
that was chosen for it. There are more answers than rows. -/
theorem loadsPages_pageCells (h : s.Serves d table t order)
    (hg : ∀ c ∈ t.rows, d.decodeRow t.columns c = .ok (g c)) (hlimit : limit ≠ 0)
    (hsize : t.rows.length < 2 ^ 63)
    {P : List Row → List (Call κ) → Except Failure BulkResult → Prop}
    (hinner : ∀ page calls r, P page calls r → ∀ call ∈ calls, call.Inner) {count number : Nat}
    {offset : UInt64} (hoffset : offset = 0 ∨ limit.toNat ≤ offset.toNat)
    (hcount : t.rows.length - offset.toNat < count) {summary after : MigrationSummary}
    {calls : List (Call κ)}
    (hloads : LoadsPages (Marked P) table limit offset summary
      ((List.range' number count).map fun i r => s.select i (Server.pageQuery r))
        calls (.ok after)) :
    (loads calls).map Prod.fst =
      (List.range (pageCount (t.rows.length - offset.toNat) limit)).map fun i =>
      (pageCells order table limit (number + i) (offset.toNat + i * limit.toNat)).map g := by
  have hpos := limit_pos hlimit
  induction count generalizing number offset summary calls with
  | zero => omega
  | succ count ih =>
    rw [List.range'_succ, List.map_cons] at hloads
    cases hloads with
    | finished hpage =>
      have hlength := congrArg List.length (h.select_eq hg hpage)
      rw [List.length_map, length_pageCells h.ordering, List.length_nil] at hlength
      have hnone : t.rows.length - offset.toNat = 0 := by omega
      rw [hnone, pageCount_zero hlimit]
      rfl
    | loaded hpage hne hp hrest =>
      obtain rfl := h.select_eq hg hpage
      obtain ⟨made, hp, rfl⟩ := hp
      have hsome : 0 < t.rows.length - offset.toNat := by
        have hlength := List.length_pos_of_ne_nil hne
        rw [List.length_map, length_pageCells h.ordering] at hlength
        omega
      have hnext := next_offset offset limit (by omega) hoffset
      have hlater := ih (.inr (by omega)) (by omega) hrest
      rw [hnext] at hlater
      rw [pageCount_step hsome hlimit, List.range_succ_eq_map, List.map_cons,
        List.map_map, loads_select, loads_append, loads_append, loads_inner (hinner _ _ _ hp),
        List.nil_append, loads_load, loads_nil, List.singleton_append, List.map_cons,
        hlater, Nat.sub_sub]
      congr 1
      · simp
      · refine List.map_congr_left fun i _ => ?_
        simp only [Function.comp_apply, Nat.succ_eq_add_one, Nat.add_mul,
          Nat.one_mul, Nat.add_assoc, Nat.add_comm 1, Nat.add_comm limit.toNat]

/-- The rows that a migration which succeeds has read. -/
theorem migrate_rowsRead (h : s.Serves d table t order)
    (hg : ∀ c ∈ t.rows, d.decodeRow t.columns c = .ok (g c)) (hsize : t.rows.length < 2 ^ 63)
    {a : Adapter σ κ} {source : RowSource σ} {count : Nat}
    (hsource : source.answers = s.answers count) (hcount : t.rows.length < count)
    {targetTable : String} {o : MigrationOptions} {st : σ} {summary : MigrationSummary}
    (hok : ((a.migrate source table targetTable o).runFrom st).1 = .ok summary) :
    rowsRead ((a.markedMigrate source table targetTable o).callsFrom st) =
      ((List.range (pageCount t.rows.length o.pageLimit)).map fun i =>
        (pageCells order table o.pageLimit i (i * o.pageLimit.toNat)).map g).flatten := by
  have hcopies := (a.markedMigrate_follows source table targetTable o).calls st
  rw [hok] at hcopies
  generalize (a.markedMigrate source table targetTable o).callsFrom st = calls at hcopies
  cases hcopies with
  | pages hlimit hloads =>
    rw [hsource, Server.answers, List.range_eq_range'] at hloads
    have hpages := loadsPages_pageCells h hg hlimit hsize
      (fun _ _ _ hp => exchange_inner (a.loads_exchange hp)) (.inl rfl)
        (by simpa using hcount) hloads
    rw [rowsRead, hpages]
    simp

/-- Slices of one list, one after another. -/
theorem flatten_slices (hlimit : limit ≠ 0) (xs : List α) (offset : Nat) :
    ((List.range (pageCount (xs.length - offset) limit)).map fun i =>
      (xs.drop (offset + i * limit.toNat)).take limit.toNat).flatten = xs.drop offset := by
  have hpos := limit_pos hlimit
  induction hn : xs.length - offset using Nat.strong_induction_on generalizing offset with
  | _ n ih =>
    subst hn
    rcases Nat.eq_zero_or_pos (xs.length - offset) with hnone | hsome
    · rw [hnone, pageCount_zero hlimit, List.drop_eq_nil_of_le (by omega)]
      rfl
    · have hlater := ih (xs.length - (offset + limit.toNat)) (by omega) (offset + limit.toNat) rfl
      rw [pageCount_step hsome hlimit, List.range_succ_eq_map, List.map_cons, List.map_map,
        List.flatten_cons, Nat.sub_sub]
      have hshift : ((fun i => (xs.drop (offset + i * limit.toNat)).take limit.toNat) ∘ Nat.succ) =
          fun i => (xs.drop (offset + limit.toNat + i * limit.toNat)).take limit.toNat := by
        funext i
        simp only [Function.comp_apply, Nat.succ_eq_add_one, Nat.add_mul,
          Nat.one_mul, Nat.add_assoc, Nat.add_comm limit.toNat]
      rw [hshift, hlater, Nat.zero_mul, Nat.add_zero, ← List.drop_drop, List.take_append_drop]

/-- As many rows are read as the table has, whatever the orders. -/
theorem length_pages (hordering : ∀ number q, (order number q).Perm t.rows) (hlimit : limit ≠ 0) :
    ((List.range (pageCount t.rows.length limit)).map fun i =>
      (pageCells order table limit i (i * limit.toNat)).map g).flatten.length = t.rows.length := by
  have hslices := congrArg List.length (flatten_slices hlimit t.rows 0)
  rw [List.drop_zero, List.length_flatten, List.map_map] at hslices
  rw [List.length_flatten, List.map_map]
  refine Eq.trans ?_ hslices
  simp [Function.comp_def, length_pageCells hordering]

/-- In one order every row is read once. -/
theorem Server.Serves.pages_perm_of_one_order {cells : List (List Cell)}
    (h : s.Serves d table t fun _ _ => cells) (hlimit : limit ≠ 0) :
    (((List.range (pageCount t.rows.length limit)).map fun i =>
      (pageCells (fun _ _ => cells) table limit i (i * limit.toNat)).map g).flatten).Perm
        (t.rows.map g) := by
  have hperm : cells.Perm t.rows := h.ordering 0 ⟨table, [], limit, 0⟩
  have hslices := congrArg (List.map g) (flatten_slices hlimit cells 0)
  rw [List.map_flatten, List.map_map, List.drop_zero, Nat.sub_zero, hperm.length_eq] at hslices
  simp only [pageCells]
  simp only [Nat.zero_add, Function.comp_def] at hslices
  rw [hslices]
  exact hperm.map g

/-- A table that fits in a page is read once. -/
theorem Server.Serves.pages_perm_of_le (h : s.Serves d table t order) (hlimit : limit ≠ 0)
    (hfits : t.rows.length ≤ limit.toNat) :
    (((List.range (pageCount t.rows.length limit)).map fun i =>
      (pageCells order table limit i (i * limit.toNat)).map g).flatten).Perm (t.rows.map g) := by
  rcases Nat.eq_zero_or_pos t.rows.length with hnone | hsome
  · rw [hnone, pageCount_zero hlimit, List.length_eq_zero_iff.mp hnone]
    exact .nil
  · have hperm := h.ordering 0 ⟨table, [], limit, UInt64.ofNat 0⟩
    have hone : pageCount t.rows.length limit = 1 := by
      rw [pageCount_step hsome hlimit, Nat.sub_eq_zero_of_le hfits, pageCount_zero hlimit]
    have hall : pageCells order table limit 0 0 = order 0 ⟨table, [], limit, UInt64.ofNat 0⟩ := by
      rw [pageCells, List.drop_zero, List.take_of_length_le (by rw [hperm.length_eq]; exact hfits)]
    rw [hone]
    simpa [hall] using hperm.map g

/-! ## A server that turns the table -/

/-- The order for every page but the first puts the first row where the second page begins. -/
def turned (t : WireTable) (limit : UInt64) (_ : Nat) (q : PageQuery) : List (List Cell) :=
  if q.offset = 0 then t.rows else t.rows.rotate (t.rows.length - limit.toNat)

theorem turned_perm (t : WireTable) (limit : UInt64) (number : Nat) (q : PageQuery) :
    (turned t limit number q).Perm t.rows := by
  unfold turned
  split
  · exact .refl _
  · exact List.rotate_perm ..

/-- The server that answers in these orders. -/
def turning (d : Decoder) (t : WireTable) (limit : UInt64) : Server where
  decoder := d
  connecting := none
  testing := none
  answer number q := .ok ⟨t.columns,
    ((turned t limit number q).drop q.offset.toNat).take q.limit.toNat⟩

theorem turning_serves (d : Decoder) (t : WireTable) (limit : UInt64) (table : String) :
    (turning d t limit).Serves d table t (turned t limit) where
  decoder := rfl
  ordering := turned_perm t limit
  fixed _ _ _ _ _ hsql _ hfixed := absurd hfixed (sql_not_fixesOrder hsql)
  answer _ _ _ _ := rfl

/-- The first row is on the first two pages. -/
theorem turned_twice (table : String) (hlimit : limit ≠ 0) (hmore : limit.toNat < t.rows.length) :
    ∃ c ∈ t.rows, c ∈ pageCells (turned t limit) table limit 0 0 ∧
      c ∈ pageCells (turned t limit) table limit 1 limit.toNat := by
  have hpos := limit_pos hlimit
  have hsome : 0 < t.rows.length := by omega
  refine ⟨t.rows[0], List.getElem_mem _, ?_, ?_⟩ <;> refine List.mem_of_getElem? (i := 0) ?_
  · have hzero : UInt64.ofNat 0 = 0 := rfl
    rw [pageCells, turned, if_pos hzero, List.drop_zero, List.getElem?_take_of_lt hpos,
      List.getElem?_eq_getElem hsome]
  · have hoffset : UInt64.ofNat limit.toNat ≠ 0 := by rwa [UInt64.ofNat_toNat]
    have hwhole : limit.toNat + (t.rows.length - limit.toNat) = t.rows.length := by omega
    rw [pageCells, turned, if_neg hoffset, List.getElem?_take_of_lt hpos,
      List.getElem?_drop, Nat.add_zero, List.getElem?_rotate hmore, hwhole, Nat.mod_self,
      List.getElem?_eq_getElem hsome]

/-- Of a table with more rows than a page some row is read twice and another is not read. -/
theorem turning_repeats (hlimit : limit ≠ 0) (hmore : limit.toNat < t.rows.length)
    (hdistinct : (t.rows.map g).Nodup) {read : List Row}
    (hread : read = ((List.range (pageCount t.rows.length limit)).map fun i =>
      (pageCells (turned t limit) table limit i (i * limit.toNat)).map g).flatten) :
    (∃ row ∈ t.rows.map g, 2 ≤ read.count row) ∧ ∃ row ∈ t.rows.map g, row ∉ read := by
  have hpos := limit_pos hlimit
  obtain ⟨c, hc, hfirst, hsecond⟩ := turned_twice table hlimit hmore
  have hpages : pageCount t.rows.length limit =
      pageCount (t.rows.length - limit.toNat - limit.toNat) limit + 1 + 1 := by
    rw [pageCount_step (by omega) hlimit, pageCount_step (by omega) hlimit]
  have htwice : 2 ≤ read.count (g c) := by
    rw [hread, hpages, List.range_succ_eq_map, List.range_succ_eq_map]
    simp only [List.map_cons, List.flatten_cons, List.count_append, Nat.zero_mul,
      Nat.succ_eq_add_one, Nat.zero_add, Nat.one_mul]
    have h0 := List.count_pos_iff.mpr (List.mem_map_of_mem (f := g) hfirst)
    have h1 := List.count_pos_iff.mpr (List.mem_map_of_mem (f := g) hsecond)
    omega
  refine ⟨⟨g c, List.mem_map_of_mem hc, htwice⟩, ?_⟩
  -- If every row were read, as many as there are, each would be read once.
  by_contra hall
  have hsub : t.rows.map g ⊆ read := fun row hrow => by
    by_contra hnot
    exact hall ⟨row, hrow, hnot⟩
  have hlength : read.length = (t.rows.map g).length := by
    rw [hread, length_pages (turned_perm t limit) hlimit, List.length_map]
  have hperm := (List.subperm_of_subset hdistinct hsub).perm_of_length_le hlength.le
  have honce := List.nodup_iff_count_le_one.mp hdistinct (g c)
  rw [hperm.count_eq] at honce
  omega

end Run

/-! ## Migrations -/

/-- What every migration of the table has read that succeeds, if the source has more answers
than the table has rows. -/
def Server.AlwaysRead (s : Server) (a : Adapter σ κ) (table targetTable : String)
    (o : MigrationOptions) (size : Nat) (read : List Row → Prop) : Prop :=
  ∀ (source : RowSource σ) (count : Nat) (st : σ) (summary : MigrationSummary),
    source.answers = s.answers count → size < count →
    ((a.migrate source table targetTable o).runFrom st).1 = .ok summary →
    read (rowsRead ((a.markedMigrate source table targetTable o).callsFrom st))

/-- **A table is read once if one order serves all its pages.** No query fixes the order of its
rows. From a server that answers all of them in one order a migration that succeeds has read every
row once, and from any server if the table fits in a page. Of a larger table there is a server that
makes every migration read a row twice and another never. -/
theorem read_once_of_one_order (a : Adapter σ κ) {d : Decoder} {t : WireTable} {rows : List Row}
    (hrows : d.decodeTable t = .ok rows) (hdistinct : rows.Nodup) (hsize : rows.length < 2 ^ 63)
    {o : MigrationOptions} (hlimit : o.pageLimit ≠ 0) (table targetTable : String) :
    (∀ q text, PageQuery.sql q = .ok text → ¬ FixesOrder text) ∧
      (∀ (s : Server) (cells : List (List Cell)), s.Serves d table t (fun _ _ => cells) →
        s.AlwaysRead a table targetTable o rows.length (·.Perm rows)) ∧
      (rows.length ≤ o.pageLimit.toNat →
        ∀ (s : Server) (order : Nat → PageQuery → List (List Cell)), s.Serves d table t order →
          s.AlwaysRead a table targetTable o rows.length (·.Perm rows)) ∧
      (o.pageLimit.toNat < rows.length → ∃ s order, Server.Serves s d table t order ∧
        s.AlwaysRead a table targetTable o rows.length fun read =>
          (∃ row ∈ rows, 2 ≤ read.count row) ∧ ∃ row ∈ rows, row ∉ read) := by
  obtain ⟨g, hg, rfl⟩ := d.decodeTable_eq hrows
  rw [List.length_map] at hsize ⊢
  refine ⟨fun q text => sql_not_fixesOrder, ?_, ?_, ?_⟩
  · intro s cells h source count st summary hsource hcount hok
    rw [migrate_rowsRead h hg hsize hsource hcount hok]
    exact h.pages_perm_of_one_order hlimit
  · intro hfits s order h source count st summary hsource hcount hok
    rw [migrate_rowsRead h hg hsize hsource hcount hok]
    exact h.pages_perm_of_le hlimit hfits
  · intro hmore
    have h := turning_serves d t o.pageLimit table
    refine ⟨_, _, h, fun source count st summary hsource hcount hok => ?_⟩
    exact turning_repeats hlimit hmore hdistinct (migrate_rowsRead h hg hsize hsource hcount hok)

/-- Two rows, as a server sends them. -/
def twoCells : WireTable := ⟨[("id", "BIGINT")], [[.text "1"], [.text "2"]]⟩

/-- The rows that they are decoded to. -/
def twoRows : List Row := [Row.ofList [("id", .i64 1)], Row.ofList [("id", .i64 2)]]

/-- In pages of one row a server has to keep to one order. -/
theorem twoRows_read_once_of_one_order :
    Rehearsal.decoder.decodeTable twoCells = .ok twoRows ∧ twoRows.Nodup ∧ twoRows.length < 2 ^ 63 ∧
      (⟨1, true⟩ : MigrationOptions).pageLimit ≠ 0 ∧
      (∀ (s : Server) (cells : List (List Cell)),
        s.Serves Rehearsal.decoder "people" twoCells (fun _ _ => cells) →
        s.AlwaysRead (Rehearsal.Pool.adapter "APP") "people" "users" ⟨1, true⟩ 2 (·.Perm twoRows)) ∧
      ∃ s order, Server.Serves s Rehearsal.decoder "people" twoCells order ∧
        s.AlwaysRead (Rehearsal.Pool.adapter "APP") "people" "users" ⟨1, true⟩ 2 fun read =>
          (∃ row ∈ twoRows, 2 ≤ read.count row) ∧ ∃ row ∈ twoRows, row ∉ read := by
  have hdecode : Rehearsal.decoder.decodeTable twoCells = .ok twoRows := by decide +kernel
  have hdistinct : twoRows.Nodup := by decide
  have hsize : twoRows.length < 2 ^ 63 := by decide
  have hlimit : (⟨1, true⟩ : MigrationOptions).pageLimit ≠ 0 := by decide
  obtain ⟨-, hone, -, hmany⟩ :=
    read_once_of_one_order (Rehearsal.Pool.adapter "APP") hdecode hdistinct hsize hlimit
      "people" "users"
  exact ⟨hdecode, hdistinct, hsize, hlimit, hone, hmany (by decide)⟩

/-- The second query is answered in the other order: the first row is read twice, the second never,
and the migration succeeds. -/
theorem turned_order_loses_row :
    ((turning Rehearsal.decoder twoCells 1).Serves Rehearsal.decoder "people" twoCells
      (turned twoCells 1)) ∧
      Rehearsal.decoder.decodeTable twoCells = .ok twoRows ∧ twoRows.Nodup ∧
      (((Rehearsal.Pool.adapter "APP").migrate
        (Rehearsal.Pool.source ((turning Rehearsal.decoder twoCells 1).answers 3)) "people" "users"
          ⟨1, true⟩).runFrom {}).1.isOk = true ∧
      rowsRead (((Rehearsal.Pool.adapter "APP").markedMigrate
        (Rehearsal.Pool.source ((turning Rehearsal.decoder twoCells 1).answers 3)) "people" "users"
          ⟨1, true⟩).callsFrom {}) =
          [Row.ofList [("id", .i64 1)], Row.ofList [("id", .i64 1)]] ∧
      ¬ [Row.ofList [("id", .i64 1)], Row.ofList [("id", .i64 1)]].Perm twoRows := by
  refine ⟨turning_serves .., by decide +kernel, by decide, ?_, ?_, by decide⟩
  · decide +kernel
  · decide +kernel

end RowFerry.MySql
