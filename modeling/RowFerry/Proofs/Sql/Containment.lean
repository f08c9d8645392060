import RowFerry.Proofs.Sql.Fragments

/-!
No name leaves its place in a statement, and no value enters one. Whatever the names are, a
statement ends outside quoted names, and outside them it ends once, at its last character, and has
none of the characters that begin texts, comments and escapes. Values change no text: two requests
that differ in their values compile to the same text.
-/

namespace RowFerry

variable {style : NameStyle}

/-- Names in the text stay in their places: reading ends outside quoted names, the only bare
semicolon is the last character, nothing harmful is bare, and folded names bring no double
quotes. -/
structure Contained (style : NameStyle) (sql : String) : Prop where
  closed : Closed sql
  terminated : ∃ body, sql = body ++ ";" ∧ (bare sql).filter (fun m => m.2 = ';') = [(body, ';')]
  harmless : ∀ m ∈ bare sql, m.2 ∉ ['\'', '`', '-', '/', '\\', '\x00', '\n', '\r']
  unquoted : style = .folded → '"' ∉ sql.toList

theorem Fragment.contained {body : String} (h : Fragment style dangerous body) :
    Contained style (body ++ ";") := by
  have hend : Fragment style (dangerous.erase ';') ";" := .plain (by decide)
  have hwhole : Fragment style (dangerous.erase ';') (body ++ ";") :=
    (h.mono (List.erase_subset ..)).append hend
  refine ⟨hwhole.closed, ⟨body, rfl, ?_⟩, hwhole.bare_not_mem, hwhole.unquoted⟩
  have hbody : (bare body).filter (fun m => m.2 = ';') = [] := by
    rw [List.filter_eq_nil_iff]
    intro m hm hsemicolon
    refine h.bare_not_mem m hm ?_
    rw [of_decide_eq_true hsemicolon]
    exact List.mem_cons_self
  have hlast : bare ";" = [("", ';')] := by decide
  rw [bare_append h.closed, List.filter_append, hbody, hlast]
  simp

/-! ## Requests that differ in their values -/

/-- The same filter but for its operand, which is missing in both or in neither. -/
inductive Filter.Alike : Filter → Filter → Prop
  | compares (c : Comparison) {v w : Value} (h : v.isNull = w.isNull) :
      Alike (.compares c v) (.compares c w)
  | isNull : Alike .isNull .isNull
  | isNotNull : Alike .isNotNull .isNotNull

/-- The same filters in order but for their operands. -/
def FiltersAlike : List (String × Filter) → List (String × Filter) → Prop :=
  List.Forall₂ fun f g => f.1 = g.1 ∧ f.2.Alike g.2

/-- The same request but for its values: rows have the same columns in the same order, and filters
differ in their operands only. -/
inductive Request.Alike : Request → Request → Prop
  | create {table : String} {row row' : Row} (hrow : row.names = row'.names) :
      Alike (.create table row) (.create table row')
  | find {table : String} {criteria : Criteria} {filters : List (String × Filter)}
      (hfilters : FiltersAlike criteria.filters filters) :
      Alike (.find table criteria) (.find table { criteria with filters })
  | count {table : String} {criteria : Criteria} {filters : List (String × Filter)}
      (hfilters : FiltersAlike criteria.filters filters) :
      Alike (.count table criteria) (.count table { criteria with filters })
  | update {table : String} {criteria : Criteria}
    {filters : List (String × Filter)} {row row' : Row}
      (hfilters : FiltersAlike criteria.filters filters) (hrow : row.names = row'.names) :
      Alike (.update table criteria row) (.update table { criteria with filters } row')
  | delete {table : String} {criteria : Criteria} {filters : List (String × Filter)}
      (hfilters : FiltersAlike criteria.filters filters) :
      Alike (.delete table criteria) (.delete table { criteria with filters })
  | identityInsert {table : String} {enabled : Bool} :
      Alike (.identityInsert table enabled) (.identityInsert table enabled)

theorem Filter.test_compares (c : Comparison) (v : Value) :
    (Filter.compares c v).test =
      if v.isNull then
        match c with
        | .eq => .isNull
        | .ne => .isNotNull
        | c => .holds c v
      else .holds c v := by
  cases v <;> cases c <;> rfl

theorem Filter.Alike.text_eq {f g : Filter} (h : f.Alike g) (column : ColumnName style) :
    (Predicate.mk column f.test).text = (Predicate.mk column g.test).text := by
  cases h with
  | isNull | isNotNull => rfl
  | compares c h =>
    rw [test_compares, test_compares, h]
    split
    · cases c <;> rfl
    · rfl

/-- Alike filters are refused alike or resolve to predicates of the same texts. -/
theorem Predicate.of_alike {scope : List String} {fs gs : List (String × Filter)}
    (h : FiltersAlike fs gs) :
    (Predicate.of style scope fs).map (List.map text) =
      (Predicate.of style scope gs).map (List.map text) := by
  have hresolved : (resolved style scope fs).1.map text = (resolved style scope gs).1.map text ∧
      (resolved style scope fs).2 = (resolved style scope gs).2 := by
    induction h with
    | nil => exact ⟨rfl, rfl⟩
    | @cons f g fs gs hfg _ ih =>
      obtain ⟨hname, halike⟩ := hfg
      unfold resolved
      rw [← hname]
      cases ColumnName.of style scope f.1 with
      | error e => exact ⟨rfl, rfl⟩
      | ok column => exact ⟨congrArg₂ List.cons (halike.text_eq column) ih.1, ih.2⟩
  rcases hfs : resolved style scope fs with ⟨ps, e⟩
  rcases hgs : resolved style scope gs with ⟨qs, e'⟩
  rw [hfs, hgs] at hresolved
  obtain ⟨htext, rfl⟩ := hresolved
  simp only [Predicate.of, hfs, hgs]
  cases e with
  | none => exact congrArg Except.ok htext
  | some e => rfl

/-- The clause depends on the texts of its predicates only. -/
theorem Predicate.listText_congr {ps qs : List (Predicate style)} (h : ps.map text = qs.map text) :
    listText ps = listText qs := by
  have hempty : ps.isEmpty = qs.isEmpty := by
    rw [← List.isEmpty_map (f := text), h, List.isEmpty_map]
  rw [listText, listText, h, hempty]

/-- Continuing from results with equal images gives the same when the images decide it. -/
theorem bind_eq_bind {ε α β γ : Type} {x y : Except ε α} {k : α → β} {f g : α → Except ε γ}
    (h : x.map k = y.map k) (hfg : ∀ a b, k a = k b → f a = g b) : (x >>= f) = (y >>= g) := by
  cases x with
  | error e => cases y <;> simp_all [Except.map, bind, Except.bind]
  | ok a =>
    cases y with
    | error e => simp [Except.map] at h
    | ok b => exact hfg a b (Except.ok.inj h)

theorem Row.isEmpty_of_names {row row' : Row} (h : row.names = row'.names) :
    row.isEmpty = row'.isEmpty := by
  rw [isEmpty, isEmpty, ← List.isEmpty_map (f := Prod.fst), ← names, h, names, List.isEmpty_map]

namespace Compiler

variable {c : Compiler} {table : String} {criteria : Criteria} {filters : List (String × Filter)}
  {row row' : Row}

theorem resolveSelect_alike (h : FiltersAlike criteria.filters filters) (projection : Projection) :
    (c.resolveSelect table criteria projection).map Select.text =
      (c.resolveSelect table { criteria with filters } projection).map Select.text := by
  unfold resolveSelect
  simp only [map_of_bind]
  refine bind_congr fun selection => bind_congr fun name => bind_congr fun joins => ?_
  refine bind_eq_bind (Predicate.of_alike h) fun ps qs hpsqs => bind_congr fun order => ?_
  simp only [pure, Except.pure, Except.map, Select.text, Predicate.listText_congr hpsqs]

theorem resolveInsert_alike (hrow : row.names = row'.names) :
    (c.resolveInsert table row).map Insert.text = (c.resolveInsert table row').map Insert.text := by
  unfold resolveInsert
  rw [Row.isEmpty_of_names hrow, hrow]
  split
  · rfl
  · simp only [map_of_bind]
    rfl

theorem resolveUpdate_alike (h : FiltersAlike criteria.filters filters)
    (hrow : row.names = row'.names) :
    (c.resolveUpdate table criteria row).map Update.text =
      (c.resolveUpdate table { criteria with filters } row').map Update.text := by
  unfold resolveUpdate
  rw [Row.isEmpty_of_names hrow, hrow]
  split
  · rfl
  · simp only [map_of_bind]
    refine bind_congr fun name => bind_congr fun columns => ?_
    refine bind_eq_bind (Predicate.of_alike h) fun ps qs hpsqs => ?_
    simp only [pure, Except.pure, Except.map, Update.text, Predicate.listText_congr hpsqs]

theorem resolveDelete_alike (h : FiltersAlike criteria.filters filters) :
    (c.resolveDelete table criteria).map Delete.text =
      (c.resolveDelete table { criteria with filters }).map Delete.text := by
  unfold resolveDelete
  simp only [map_of_bind]
  refine bind_congr fun name => bind_eq_bind (Predicate.of_alike h) fun ps qs hpsqs => ?_
  simp only [pure, Except.pure, Except.map, Delete.text, Predicate.listText_congr hpsqs]

/-- Requests that differ in their values compile to the same text, or are refused alike. -/
theorem compile_alike (c : Compiler) {q q' : Request} (h : q.Alike q') :
    (c.compile q).map Statement.sql = (c.compile q').map Statement.sql := by
  have hmap {α β γ : Type} (x : Except CompileError α) (f : α → β) (k : β → γ) :
      (x.map f).map k = x.map (k ∘ f) := by
    cases x <;> rfl
  cases h with
  | create hrow =>
    simp only [compile, create, hmap]
    exact resolveInsert_alike hrow
  | find hfilters =>
    simp only [compile, find, hmap]
    exact resolveSelect_alike hfilters _
  | count hfilters =>
    simp only [compile, count, map_of_bind, hmap]
    exact bind_congr fun projection => resolveSelect_alike hfilters projection
  | update hfilters hrow =>
    simp only [compile, update, hmap]
    exact resolveUpdate_alike hfilters hrow
  | delete hfilters =>
    simp only [compile, delete, hmap]
    exact resolveDelete_alike hfilters
  | identityInsert => rfl

/-! ## Containment -/

/-- Every statement is a fragment without dangerous characters before its semicolon. -/
theorem compile_fragment {q : Request} {s : Statement} (hq : q.NamesOnly)
    (h : c.compile q = .ok s) :
    ∃ body, s.sql = body ++ ";" ∧ Fragment c.style dangerous body := by
  cases q with
  | create table row =>
    obtain ⟨i, hi, rfl⟩ := map_eq_ok_iff.mp h
    exact ⟨i.body, i.text_eq, (resolveInsert_checked hi).fragment⟩
  | find table criteria =>
    obtain ⟨i, hi, rfl⟩ := map_eq_ok_iff.mp h
    exact ⟨i.body, i.text_eq, (find_checked hq hi).fragment⟩
  | count table criteria =>
    obtain ⟨total, i, htotal, hi, rfl⟩ := count_ok h
    exact ⟨i.body, i.text_eq, (count_checked htotal hi).fragment⟩
  | update table criteria row =>
    obtain ⟨i, hi, rfl⟩ := map_eq_ok_iff.mp h
    obtain ⟨hchecked, hne⟩ := resolveUpdate_checked hi
    exact ⟨i.body, i.text_eq, hchecked.fragment hne⟩
  | delete table criteria =>
    obtain ⟨i, hi, rfl⟩ := map_eq_ok_iff.mp h
    exact ⟨i.body, i.text_eq, (resolveDelete_checked hi).fragment⟩
  | identityInsert table enabled =>
    obtain ⟨sql, hsql, rfl⟩ := map_eq_ok_iff.mp h
    obtain ⟨name, hname, rfl⟩ := map_eq_ok_iff.mp hsql
    have hbody := IdentityInsert.fragment (s := ⟨name, enabled⟩) (TableName.of_ok hname).2
    exact ⟨_, IdentityInsert.text_eq _, hbody.mono (List.subset_cons_self _ _)⟩

/-- Whatever the names of a request are, they stay in their places in its statement, and no value of
it stands in the text: with other values in their places the text is the same. -/
theorem compile_contained (c : Compiler) {q : Request} {s : Statement} (hq : q.NamesOnly)
    (h : c.compile q = .ok s) :
    Contained c.style s.sql ∧
      ∀ q', q.Alike q' → (c.compile q').map Statement.sql = .ok s.sql := by
  obtain ⟨body, hbody, hfragment⟩ := compile_fragment hq h
  rw [hbody]
  refine ⟨hfragment.contained, fun q' hq' => ?_⟩
  rw [← compile_alike c hq', h, ← hbody]
  rfl

/-- A table name that tries to end the statement stays in its quotes. -/
theorem hostileName_contained :
    Contained .quoted "DELETE FROM \"APP\".\"x\"\"; DROP TABLE y; --\" WHERE \"id\" = ?;" ∧
      ∀ q', (Request.delete "x\"; DROP TABLE y; --"
          { filters := [("id", .compares .eq (.i64 7))] }).Alike q' →
        (Compiler.compile ⟨"APP", .quoted⟩ q').map Statement.sql =
          .ok "DELETE FROM \"APP\".\"x\"\"; DROP TABLE y; --\" WHERE \"id\" = ?;" :=
  compile_contained ⟨"APP", .quoted⟩
    (q := .delete "x\"; DROP TABLE y; --" { filters := [("id", .compares .eq (.i64 7))] })
    (s := ⟨"DELETE FROM \"APP\".\"x\"\"; DROP TABLE y; --\" WHERE \"id\" = ?;", [.i64 7]⟩)
      trivial rfl

end Compiler

end RowFerry
