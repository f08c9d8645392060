import RowFerry.Proofs.Sql.Fragments

/-!
Placeholders and bound values line up. The values of a statement are collected beside its text, so
that they meet the right placeholders has to be said of both: read from the left, the placeholders
of a statement are those of its columns and filters in order, each directly after the column and the
operator that it belongs to, and the values are in the same order.
-/

namespace RowFerry

variable {style : NameStyle} {excluded : List Char} {α : Type}

/-- The text ends with the lead, and before it with one of the keywords, outside quoted names. -/
def StandsAfter (keywords : List String) (lead before : String) : Prop :=
  ∃ rest, ∃ k ∈ keywords, Closed rest ∧ before = rest ++ (k ++ lead)

/-- The placeholders and the bound values of filters. A filter that compares with an operand has one
of each, the placeholder directly after its column and operator; a filter that asks whether its
column is missing has none. -/
inductive BindsFilters (style : NameStyle) (scope : List String) :
    List (String × Filter) → List String → List Value → Prop
  | nil : BindsFilters style scope [] [] []
  | bound {reference : String} {comparison : Comparison} {operand : Value}
    {column : ColumnName style}
      {before : String} {filters : List (String × Filter)} {marks : List String}
      {values : List Value} (hoperand : ¬(operand = .null ∧ (comparison = .eq ∨ comparison = .ne)))
      (hcolumn : ColumnName.of style scope reference = .ok column)
      (hbefore : StandsAfter [" WHERE ", " AND "]
        (column.text ++ " " ++ comparison.symbol ++ " ") before)
      (hrest : BindsFilters style scope filters marks values) :
      BindsFilters style scope ((reference, .compares comparison operand) :: filters)
        (before :: marks) (operand :: values)
  | unbound {reference : String} {filter : Filter} {filters : List (String × Filter)}
      {marks : List String} {values : List Value}
      (hfilter : filter ∈ [.isNull, .isNotNull, .compares .eq .null, .compares .ne .null])
      (hrest : BindsFilters style scope filters marks values) :
      BindsFilters style scope ((reference, filter) :: filters) marks values

/-- The first placeholders of a list, with a comma after each. -/
def marksBefore : Nat → String
  | 0 => ""
  | k + 1 => "?, " ++ marksBefore k

/-- The placeholders of a request, given by the texts before them, and its values, in order. A new
row has the placeholders of its list, one for each column; a change has those of the columns that it
sets and then those of its filters. -/
def Request.Binds (c : Compiler) (marks : List String) (values : List Value) : Request → Prop
  | .create table row =>
    ∃ i : Insert c.style, TableName.of c.style c.tablespace table = .ok i.table ∧
      List.Forall₂ (fun name column => Ident.of c.style name = .ok column) row.names i.columns ∧
      marks = (List.range row.size).map (fun k => i.lead ++ marksBefore k) ∧ values = row.values
  | .find table criteria | .count table criteria =>
    BindsFilters c.style (criteria.scope table) criteria.filters marks values
  | .update table criteria row =>
    ∃ set rest bound, marks = set ++ rest ∧ values = row.values ++ bound ∧
      List.Forall₂ (fun name before => ∃ column, Ident.of c.style name = .ok column ∧
        StandsAfter [" SET ", ", "] (column.text ++ " = ") before) row.names set ∧
      BindsFilters c.style [table] criteria.filters rest bound
  | .delete table criteria => BindsFilters c.style [table] criteria.filters marks values
  | .identityInsert _ _ => marks = [] ∧ values = []

/-! ## Placeholders of series -/

theorem StandsAfter.after {keywords : List String} {lead before s : String} (hs : Closed s)
    (h : StandsAfter keywords lead before) : StandsAfter keywords lead (s ++ before) := by
  obtain ⟨rest, k, hk, hrest, rfl⟩ := h
  exact ⟨s ++ rest, k, hk, hs.append hrest, by rw [String.append_assoc]⟩

theorem standsAfter_keyword {keywords : List String} {k : String}
    (hk : k ∈ keywords) (lead : String) :
    StandsAfter keywords lead (k ++ lead) :=
  ⟨"", k, hk, rfl, by rw [String.empty_append]⟩

theorem placeholders_append_inert {s t : String} (hs : Closed s) (ht : Fragment style excluded t)
    (hmark : '?' ∈ excluded) : placeholders (s ++ t) = placeholders s := by
  rw [placeholders_append hs, ht.placeholders_eq_nil hmark, List.map_nil, List.append_nil]

theorem placeholders_inert_append {s : String} (hs : Fragment style excluded s)
    (hmark : '?' ∈ excluded) (t : String) :
    placeholders (s ++ t) = (placeholders t).map fun before => s ++ before := by
  rw [placeholders_append hs.closed, hs.placeholders_eq_nil hmark, List.nil_append]

/-- The placeholders of a part that follows a keyword stand after it, and so
do all the later ones. -/
theorem standsAfter_part {keywords : List String} {k x rest : String} {leads : List String}
    (hk : k ∈ keywords) (hplain : Fragment style excluded k)
    (hmark : '?' ∈ excluded) (hx : Closed x)
    (hrest : List.Forall₂ (StandsAfter keywords) leads (placeholders rest)) :
    List.Forall₂ (StandsAfter keywords) (placeholders x ++ leads)
      (placeholders (k ++ (x ++ rest))) := by
  rw [placeholders_inert_append hplain hmark, placeholders_append hx, List.map_append, List.map_map]
  refine List.rel_append ?_ ?_
  · rw [List.forall₂_map_right_iff, List.forall₂_same]
    exact fun lead _ => standsAfter_keyword hk lead
  · rw [List.forall₂_map_right_iff]
    exact hrest.imp fun _ _ h => (h.after hx).after hplain.closed

theorem placeholders_following {keywords : List String} {separator : String}
    (hseparator : separator ∈ keywords) (hplain : Fragment style excluded separator)
    (hmark : '?' ∈ excluded) {text : α → String} {xs : List α} (htext : ∀ x ∈ xs, Closed (text x)) :
    List.Forall₂ (StandsAfter keywords) (xs.flatMap fun x => placeholders (text x))
      (placeholders (following separator text xs)) := by
  induction xs with
  | nil => exact .nil
  | cons x xs ih =>
    obtain ⟨hx, hxs⟩ := List.forall_mem_cons.mp htext
    exact standsAfter_part hseparator hplain hmark hx (ih hxs)

theorem placeholders_series {lead separator : String} (hlead : Fragment style excluded lead)
    (hseparator : Fragment style excluded separator) (hmark : '?' ∈ excluded) {text : α → String}
    {xs : List α} (htext : ∀ x ∈ xs, Closed (text x)) :
    List.Forall₂ (StandsAfter [lead, separator]) (xs.flatMap fun x => placeholders (text x))
      (placeholders (series lead separator text xs)) := by
  cases xs with
  | nil => exact .nil
  | cons x xs =>
    obtain ⟨hx, hxs⟩ := List.forall_mem_cons.mp htext
    exact standsAfter_part List.mem_cons_self hlead hmark hx
      (placeholders_following (by simp) hseparator hmark hxs)

/-! ## Filters -/

theorem bindsFilters_of_forall₂ {scope : List String} {filters : List (String × Filter)}
    {ps : List (Predicate style)} (hps : List.Forall₂ (fun f p =>
      ColumnName.of style scope f.1 = .ok p.column ∧ p.test = f.2.test) filters ps)
    {marks : List String} (hmarks : List.Forall₂ (StandsAfter [" WHERE ", " AND "])
      (ps.flatMap fun p => placeholders p.text) marks) :
    BindsFilters style scope filters marks (Predicate.operands ps) := by
  induction hps generalizing marks with
  | nil =>
    cases hmarks
    exact .nil
  | @cons f p filters ps hfp _ ih =>
    obtain ⟨reference, filter⟩ := f
    obtain ⟨hcolumn, htest⟩ := hfp
    rw [List.flatMap_cons, Predicate.placeholders_text (ColumnName.of_checked hcolumn)] at hmarks
    obtain ⟨c, v, rfl, hoperand, hholds⟩ | hasks := Filter.test_cases filter
    · have hvalue : p.operand? = some v := by rw [Predicate.operand?, htest, hholds]
      rw [htest, hholds] at hmarks
      cases hmarks with
      | cons hbefore hrest =>
        rw [Predicate.operands_cons, hvalue]
        exact .bound hoperand hcolumn hbefore (ih hrest)
    · have hmissing : filter.test = .isNull ∨ filter.test = .isNotNull :=
        hasks.imp And.right And.right
      have hfilter : filter ∈ [.isNull, .isNotNull, .compares .eq .null, .compares .ne .null] := by
        rcases hasks with ⟨hmem, -⟩ | ⟨hmem, -⟩ <;>
          rcases List.mem_pair.mp hmem with rfl | rfl <;> simp
      have hvalue : p.operand? = none := by
        rw [Predicate.operand?, htest]
        rcases hmissing with h | h <;> rw [h]
      have hnone : List.Forall₂ (StandsAfter [" WHERE ", " AND "])
          (ps.flatMap fun p => placeholders p.text) marks := by
        rw [htest] at hmarks
        rcases hmissing with h | h <;> rw [h] at hmarks <;> exact hmarks
      rw [Predicate.operands_cons, hvalue]
      exact .unbound hfilter (ih hnone)

/-- The clause of filters, wherever it stands in a text, binds them. -/
theorem bindsFilters_where {scope : List String} {filters : List (String × Filter)}
    {ps : List (Predicate style)} (hps : Predicate.of style scope filters = .ok ps) {front : String}
    (hfront : Closed front) :
    BindsFilters style scope filters
      ((placeholders (series " WHERE " " AND " Predicate.text ps)).map fun before =>
        front ++ before)
      (Predicate.operands ps) := by
  refine bindsFilters_of_forall₂ (Predicate.of_ok hps) ?_
  rw [List.forall₂_map_right_iff]
  have hwhere : Fragment style ['?'] " WHERE " := .plain (by decide)
  have hand : Fragment style ['?'] " AND " := .plain (by decide)
  refine (placeholders_series hwhere hand List.mem_cons_self fun p hp => ?_).imp
    fun _ _ h => h.after hfront
  exact (Predicate.fragment (Compiler.predicates_checked hps p hp)).closed

/-! ## New rows -/

theorem marksBefore_succ (k : Nat) :
    placeholder ++ (", " ++ marksBefore k) = marksBefore (k + 1) := by
  rw [marksBefore, ← String.append_assoc]
  rfl

theorem placeholders_marks (xs : List α) :
    placeholders (following ", " (fun _ => placeholder) xs) =
      (List.range xs.length).map fun k => ", " ++ marksBefore k := by
  have hcomma : Fragment .quoted ['?'] ", " := .plain (by decide)
  have hmark : Closed placeholder := by decide
  induction xs with
  | nil => rfl
  | cons x xs ih =>
    rw [following, placeholders_inert_append hcomma List.mem_cons_self, placeholders_append hmark,
      Predicate.placeholders_placeholder, ih, List.length_cons, List.range_succ_eq_map]
    simp only [List.map_cons, List.map_map, Function.comp_def, List.cons_append, List.nil_append,
      marksBefore_succ]
    rfl

/-- The list of placeholders of a new row has one for each column. -/
theorem placeholders_list (xs : List α) :
    placeholders (series "" ", " (fun _ => placeholder) xs) =
      (List.range xs.length).map marksBefore := by
  have hmark : Closed placeholder := by decide
  cases xs with
  | nil => rfl
  | cons x xs =>
    rw [series, String.empty_append, placeholders_append hmark, Predicate.placeholders_placeholder,
      placeholders_marks, List.length_cons, List.range_succ_eq_map]
    simp only [List.map_cons, List.map_map, Function.comp_def, List.cons_append, List.nil_append,
      marksBefore_succ]
    rfl

theorem Insert.Checked.placeholders_body {s : Insert style} (h : s.Checked) :
    placeholders s.body = (List.range s.columns.length).map fun k => s.lead ++ marksBefore k := by
  have hseries : Fragment style [] (series "" ", " (fun _ => placeholder) s.columns) :=
    .series (.plain (by decide)) (.plain (by decide)) fun _ _ => .plain (by decide)
  have hbracket : Fragment style ['?'] ")" := .plain (by decide)
  rw [body, placeholders_inert_append h.lead_fragment List.mem_cons_self,
    placeholders_append_inert hseries.closed hbracket List.mem_cons_self, placeholders_list,
    List.map_map]
  rfl

/-! ## Statements -/

/-- The semicolon adds no placeholder. -/
theorem placeholders_semicolon {body : String} (h : Closed body) :
    placeholders (body ++ ";") = placeholders body :=
  have hend : Fragment .quoted ['?'] ";" := .plain (by decide)
  placeholders_append_inert h hend List.mem_cons_self

theorem Select.Checked.placeholders_body {s : Select style} (h : s.Checked) :
    placeholders s.body = (placeholders (series " WHERE " " AND " Predicate.text s.predicates)).map
      fun before => s.front ++ before := by
  rw [body_eq_front, placeholders_inert_append h.front_fragment List.mem_cons_self,
    placeholders_append_inert (where_fragment h.predicates).closed h.back_fragment
      List.mem_cons_self]

theorem Update.Checked.placeholders_front {s : Update style} (h : s.Checked) :
    List.Forall₂ (fun column before => StandsAfter [" SET ", ", "] (setLead column) before)
      s.columns (placeholders s.front) := by
  have hupdate : Fragment style ['?'] "UPDATE " := .plain (by decide)
  have hset : Fragment style ['?'] " SET " := .plain (by decide)
  have hcomma : Fragment style ['?'] ", " := .plain (by decide)
  have hmarks : (s.columns.flatMap fun column => placeholders (setLead column ++ placeholder)) =
      s.columns.map setLead := by
    rw [List.map_eq_flatMap]
    refine List.flatMap_congr fun column hcolumn => ?_
    rw [placeholders_inert_append (setLead_fragment (h.columns column hcolumn)) List.mem_cons_self,
      Predicate.placeholders_placeholder, List.map_singleton, String.append_empty]
  have hclosed : ∀ column ∈ s.columns, Closed (setLead column ++ placeholder) :=
    fun column hcolumn =>
    (setLead_fragment (h.columns column hcolumn)).closed.append (by decide)
  have hseries := placeholders_series hset hcomma List.mem_cons_self hclosed
  rw [hmarks, List.forall₂_map_left_iff] at hseries
  rw [front, placeholders_inert_append hupdate List.mem_cons_self,
    placeholders_inert_append h.table.fragment List.mem_cons_self, List.forall₂_map_right_iff,
    List.forall₂_map_right_iff]
  exact hseries.imp fun _ _ hbefore => (hbefore.after h.table.fragment.closed).after hupdate.closed

namespace Compiler

variable {c : Compiler}

/-- The placeholders of a query are those of its filters, whatever its list is. -/
theorem resolveSelect_binds {table : String} {criteria : Criteria} {projection : Projection}
    {i : Select c.style} (hi : c.resolveSelect table criteria projection = .ok i)
    (hchecked : i.Checked) :
    BindsFilters c.style (criteria.scope table) criteria.filters (placeholders i.text)
      (Predicate.operands i.predicates) := by
  rw [i.text_eq, placeholders_semicolon hchecked.fragment.closed, hchecked.placeholders_body]
  exact bindsFilters_where (resolveSelect_ok hi).2.2.2.1 hchecked.front_fragment.closed

/-- The placeholders of a statement and the values bound to them are those of
its request, in order. -/
theorem compile_binds {q : Request} {s : Statement} (hq : q.NamesOnly) (h : c.compile q = .ok s) :
    q.Binds c (placeholders s.sql) s.values := by
  cases q with
  | create table row =>
    obtain ⟨i, hi, rfl⟩ := map_eq_ok_iff.mp h
    obtain ⟨-, hname, hcolumns, hvalues⟩ := resolveInsert_ok hi
    have hchecked := resolveInsert_checked hi
    have hsize : i.columns.length = row.size := by
      rw [← hcolumns.length_eq, Row.names, List.length_map, Row.size]
    refine ⟨i, hname, hcolumns, ?_, hvalues⟩
    rw [Insert.statement, i.text_eq, placeholders_semicolon hchecked.fragment.closed,
      hchecked.placeholders_body, hsize]
  | find table criteria =>
    obtain ⟨i, hi, rfl⟩ := map_eq_ok_iff.mp h
    exact resolveSelect_binds hi (find_checked hq hi)
  | count table criteria =>
    obtain ⟨total, i, htotal, hi, rfl⟩ := count_ok h
    exact resolveSelect_binds hi (count_checked htotal hi)
  | update table criteria row =>
    obtain ⟨i, hi, rfl⟩ := map_eq_ok_iff.mp h
    obtain ⟨-, hname, hcolumns, hvalues, hpredicates⟩ := resolveUpdate_ok hi
    obtain ⟨hchecked, hne⟩ := resolveUpdate_checked hi
    rw [Update.statement, i.text_eq, placeholders_semicolon (hchecked.fragment hne).closed,
      Update.body_eq_front hne, placeholders_append hchecked.front_fragment.closed, hvalues]
    refine ⟨_, _, _, rfl, rfl, ?_, bindsFilters_where hpredicates hchecked.front_fragment.closed⟩
    exact forall₂_comp (fun _ column _ hof hbefore => ⟨column, hof, hbefore⟩) hcolumns
      hchecked.placeholders_front
  | delete table criteria =>
    obtain ⟨i, hi, rfl⟩ := map_eq_ok_iff.mp h
    have hchecked := resolveDelete_checked hi
    rw [Delete.statement, i.text_eq, placeholders_semicolon hchecked.fragment.closed,
      i.body_eq_front, placeholders_inert_append hchecked.front_fragment List.mem_cons_self]
    exact bindsFilters_where (resolveDelete_ok hi).2 hchecked.front_fragment.closed
  | identityInsert table enabled =>
    obtain ⟨sql, hsql, rfl⟩ := map_eq_ok_iff.mp h
    obtain ⟨name, hname, rfl⟩ := map_eq_ok_iff.mp hsql
    have hbody := IdentityInsert.fragment (s := ⟨name, enabled⟩) (TableName.of_ok hname).2
    refine ⟨?_, rfl⟩
    rw [IdentityInsert.text_eq, placeholders_semicolon hbody.closed,
      hbody.placeholders_eq_nil List.mem_cons_self]

/-- Question marks in names are no placeholders, and a comparison with a missing value has none. -/
theorem questionMark_binds :
    placeholders "UPDATE \"t?\" SET \"a?\" = ? WHERE \"b\" IS NULL AND \"c\" > ?;" =
        ["UPDATE \"t?\" SET \"a?\" = ",
          "UPDATE \"t?\" SET \"a?\" = ? WHERE \"b\" IS NULL AND \"c\" > "] ∧
      Request.Binds ⟨"", .quoted⟩
        (placeholders "UPDATE \"t?\" SET \"a?\" = ? WHERE \"b\" IS NULL AND \"c\" > ?;")
          [.i64 1, .i64 2]
        (.update "t?" { filters := [("b", .compares .eq .null), ("c", .compares .gt (.i64 2))] }
          (Row.ofList [("a?", .i64 1)])) :=
  ⟨by decide,
    compile_binds (c := ⟨"", .quoted⟩)
      (q := .update "t?" { filters := [("b", .compares .eq .null), ("c", .compares .gt (.i64 2))] }
        (Row.ofList [("a?", .i64 1)]))
      (s := ⟨"UPDATE \"t?\" SET \"a?\" = ? WHERE \"b\" IS NULL AND \"c\" > ?;", [.i64 1, .i64 2]⟩)
        trivial rfl⟩

end Compiler

end RowFerry
