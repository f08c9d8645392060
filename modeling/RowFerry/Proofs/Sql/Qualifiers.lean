import RowFerry.Proofs.Sql.Acceptance
import RowFerry.Proofs.Sql.Case
import RowFerry.Proofs.Sql.Unambiguous

/-!
No query has a dangling qualifier. References are resolved against the names that the criteria give,
empty aliases included, while a query is made of checked names: its tables and the aliases that are
not empty. What qualifies a column in a query is the text of one of these.
-/

namespace RowFerry

variable {style : NameStyle} {scope : List String}

/-! ## Resolved references -/

/-- Only the empty name is the same as the empty name. -/
theorem NameStyle.eq_empty_of_sameName {name : String} (h : style.sameName "" name = true) :
    name = "" := by
  cases style with
  | quoted => exact (eq_of_beq h).symm
  | folded =>
    have hempty : Unicode.upper "" = Unicode.upper name := eq_of_beq h
    exact Unicode.upper_eq_empty_iff.mp hempty.symm

/-- A reference that begins with a dot is the column after the dot. -/
theorem ColumnName.of_leadingDot {column : String} {n : ColumnName style}
    (h : ColumnName.of style scope ("." ++ column) = .ok n) :
    n.qualifier = none ∧ Ident.of style column = .ok n.column := by
  rw [ColumnName.of_leadingDot_eq] at h
  obtain ⟨c, hcolumn, rfl⟩ := map_eq_ok_iff.mp h
  exact ⟨rfl, hcolumn⟩

/-- The qualifier of a resolved reference is a name in scope, and it is not empty. -/
theorem ColumnName.of_qualifier {reference : String} {n : ColumnName style}
    (h : ColumnName.of style scope reference = .ok n) :
    ∀ i ∈ n.qualifier, style.InScope scope i.name ∧ i.name ≠ "" := by
  intro i hi
  obtain ⟨parts, hparts⟩ := ReferenceParts.exists style scope reference
  cases hparts with
  | unqualified column =>
    rw [(ColumnName.of_leadingDot h).1] at hi
    cases hi
  | @qualified qualifier column hne hdot hscope =>
    rw [ColumnName.of_cut (cutAt_dot_iff.mpr ⟨rfl, hdot⟩) (.inr hscope)] at h
    obtain ⟨-, ⟨hempty, -⟩ | ⟨q, hsome, hq⟩⟩ := ColumnName.qualified_ok h
    · exact absurd hempty hne
    · rw [hsome] at hi
      cases hi
      rw [Ident.of_name hq]
      exact ⟨hscope, hne⟩
  | whole hwhole =>
    rw [ColumnName.of_whole hwhole] at h
    obtain ⟨c, -, rfl⟩ := map_eq_ok_iff.mp h
    cases hi

/-! ## References and qualifiers of queries -/

/-- The references of a query: what it lists, joins on, filters and sorts by. -/
def Criteria.references (criteria : Criteria) (projection : Projection) : List String :=
  projection.references ++ criteria.joins.flatMap
    (fun j => j.conditions.flatMap fun p => [p.1, p.2]) ++
    criteria.filters.map Prod.fst ++ criteria.sort.map Prod.fst

namespace Select

/-- The columns that a query names, clause by clause. -/
def references (q : Select style) : List (ColumnName style) :=
  q.selection.names ++ q.joins.flatMap (fun j => j.conditions.flatMap fun p => [p.1, p.2]) ++
    q.predicates.map Predicate.column ++ q.order.map SortKey.column

/-- What may qualify a column in a query: the tables that it reads, as they are written after their
tablespace, and the aliases that it gives them. -/
def qualifiers (q : Select style) : List String :=
  q.table.table.text :: q.joins.flatMap fun j =>
    j.table.table.text :: j.aliasName.toList.map Ident.text

end Select

theorem Selection.of_references {p : Projection} {s : Selection style}
    (h : Selection.of style scope p = .ok s) :
    List.Forall₂ (fun r n => ColumnName.of style scope r = .ok n) p.references s.names := by
  cases p with
  | expression text =>
    cases h
    exact .nil
  | all => exact (Selection.of_ok Projection.ofColumns_all h).1
  | columns references => exact (Selection.of_ok (Projection.ofColumns_columns references) h).1

namespace Compiler

variable {c : Compiler} {table : String} {criteria : Criteria} {projection : Projection}
  {q : Select c.style}

/-- The columns of a query are the references of its criteria, one by one. -/
theorem resolveSelect_references (h : c.resolveSelect table criteria projection = .ok q) :
    List.Forall₂ (fun r n => ColumnName.of c.style (criteria.scope table) r = .ok n)
      (criteria.references projection) q.references := by
  obtain ⟨hselection, -, hjoins, hpredicates, -, -, horder⟩ := resolveSelect_ok h
  have hon : List.Forall₂ (fun r n => ColumnName.of c.style (criteria.scope table) r = .ok n)
      (criteria.joins.flatMap fun j => j.conditions.flatMap fun p => [p.1, p.2])
      (q.joins.flatMap fun j => j.conditions.flatMap fun p => [p.1, p.2]) := by
    refine List.rel_flatMap hjoins fun spec j hj => ?_
    refine List.rel_flatMap (Join.of_ok hj).2.2.2.2 fun r n hn => ?_
    exact .cons hn.1 (.cons hn.2 .nil)
  have hfilters : List.Forall₂ (fun r n => ColumnName.of c.style (criteria.scope table) r = .ok n)
      (criteria.filters.map Prod.fst) (q.predicates.map Predicate.column) := by
    rw [List.forall₂_map_left_iff, List.forall₂_map_right_iff]
    exact (Predicate.of_ok hpredicates).imp fun f p hp => hp.1
  have hsort : List.Forall₂ (fun r n => ColumnName.of c.style (criteria.scope table) r = .ok n)
      (criteria.sort.map Prod.fst) (q.order.map SortKey.column) := by
    rw [List.forall₂_map_left_iff, List.forall₂_map_right_iff]
    exact horder.imp fun key k hk => (SortKey.of_ok hk).1
  have hlisted := Selection.of_references hselection
  exact List.rel_append (List.rel_append (List.rel_append hlisted hon) hfilters) hsort

/-- A name in scope that is not empty is written in the query. -/
theorem text_mem_qualifiers (h : c.resolveSelect table criteria projection = .ok q)
    {i : Ident c.style} (hscope : c.style.InScope (criteria.scope table) i.name)
    (hne : i.name ≠ "") :
    i.text ∈ q.qualifiers := by
  obtain ⟨-, htable, hjoins, -⟩ := resolveSelect_ok h
  obtain ⟨name, hname, hsame⟩ := hscope
  rcases List.mem_cons.mp hname with rfl | hjoined
  · rw [← (TableName.of_ok htable).1] at hsame
    rw [← Ident.text_eq_iff.mpr hsame]
    exact List.mem_cons_self
  · obtain ⟨spec, hspec, hname⟩ := List.mem_flatMap.mp hjoined
    obtain ⟨j, hj, hof⟩ := forall₂_mem_left hjoins hspec
    obtain ⟨-, hjtable, halias, -⟩ := Join.of_ok hof
    refine List.mem_cons_of_mem _ (List.mem_flatMap.mpr ⟨j, hj, ?_⟩)
    rcases List.mem_cons.mp hname with rfl | hnamed
    · rw [← (TableName.of_ok hjtable).1] at hsame
      rw [← Ident.text_eq_iff.mpr hsame]
      exact List.mem_cons_self
    · have hnonempty : name ≠ "" := by
        rintro rfl
        exact hne (NameStyle.eq_empty_of_sameName hsame)
      have hgiven : spec.alias? = some name := by
        rw [Option.mem_toList] at hnamed
        simp [JoinSpec.alias?, hnamed, hnonempty]
      rw [hgiven] at halias
      obtain ⟨a, ha, rfl⟩ := Option.map_eq_some_iff.mp halias
      rw [← Ident.text_eq_iff.mpr hsame]
      exact List.mem_cons_of_mem _ (by simp [ha])

end Compiler

/-- The references of the criteria are written one by one, and what qualifies them is
written in the same query. -/
structure Compiler.Anchored (c : Compiler) (table : String) (criteria : Criteria)
    (projection : Projection) (q : Select c.style) : Prop where
  references : List.Forall₂ (fun r n => ColumnName.of c.style (criteria.scope table) r = .ok n)
    (criteria.references projection) q.references
  qualifiers : ∀ n ∈ q.references, ∀ i ∈ n.qualifier, i.text ∈ q.qualifiers ∧ i.name ≠ ""
  leadingDot : List.Forall₂ (fun r n => ∀ column, r = "." ++ column →
      (Ident.of c.style column).map Ident.text = .ok n.text)
    (criteria.references projection) q.references
  aliases : List.Forall₂ (fun spec j => j.table.table.name = spec.table ∧
      (spec.aliasName = none ∨ spec.aliasName = some "" → j.aliasName = none ∧
        j.targetText = j.table.text))
    criteria.joins q.joins

namespace Compiler

variable {c : Compiler} {table : String} {criteria : Criteria} {projection : Projection}
  {q : Select c.style}

theorem resolveSelect_anchored (h : c.resolveSelect table criteria projection = .ok q) :
    c.Anchored table criteria projection q := by
  have hreferences := resolveSelect_references h
  constructor
  · exact hreferences
  · refine forall₂_right (fun r n hn => ?_) hreferences
    intro i hi
    obtain ⟨hscope, hne⟩ := ColumnName.of_qualifier hn i hi
    exact ⟨text_mem_qualifiers h hscope hne, hne⟩
  · refine hreferences.imp fun r n hn => ?_
    rintro column rfl
    obtain ⟨hnone, hcolumn⟩ := ColumnName.of_leadingDot hn
    rw [hcolumn, ColumnName.text, hnone]
    rfl
  · refine (resolveSelect_ok h).2.2.1.imp fun spec j hj => ?_
    obtain ⟨-, htable, halias, -⟩ := Join.of_ok hj
    refine ⟨(TableName.of_ok htable).1, fun hempty => ?_⟩
    have hnone : j.aliasName = none := by
      have hgiven : spec.alias? = none := by
        rcases hempty with hspec | hspec <;> simp [JoinSpec.alias?, hspec]
      rw [hgiven] at halias
      exact Option.map_eq_none_iff.mp halias
    exact ⟨hnone, by rw [Join.targetText, hnone]⟩

/-- **No query has a dangling qualifier.** In every search and every count that compiles, each
reference of the criteria is written once, and what qualifies it is the text of a table or of an
alias of the same query. Empty aliases are not written and qualify nothing, and a reference with a
leading dot is written as its column. -/
theorem no_dangling_qualifier (c : Compiler) (table : String) (criteria : Criteria) :
    (∀ s, c.find table criteria = .ok s →
      ∃ q, c.resolveSelect table criteria criteria.projection = .ok q ∧ s = q.statement ∧
        c.Anchored table criteria criteria.projection q) ∧
    (∀ expression s, c.count table criteria expression = .ok s →
      ∃ list q, c.resolveSelect table criteria (.expression list) = .ok q ∧ s = q.statement ∧
        c.Anchored table criteria (.expression list) q) := by
  constructor
  · intro s h
    obtain ⟨q, hq, rfl⟩ := map_eq_ok_iff.mp h
    exact ⟨q, hq, rfl, resolveSelect_anchored hq⟩
  · intro expression s h
    obtain ⟨total, q, -, hq, rfl⟩ := count_ok h
    exact ⟨_, q, hq, rfl, resolveSelect_anchored hq⟩

/-- An alias qualifies in any case where names are folded, an empty one does not appear. -/
example :
    (Compiler.mk "app" .folded).find "users"
        { projection := .columns ["Users.id", ".name", "o.total"],
          joins := [⟨.left, "orders", some "O", [("users.id", "o.uid")]⟩,
            ⟨.inner, "cities", some "", [("users.city", "Cities.id")]⟩] } =
      .ok ⟨"SELECT USERS.ID, NAME, O.TOTAL FROM APP.USERS" ++
        " LEFT JOIN APP.ORDERS O ON USERS.ID = O.UID" ++
        " INNER JOIN APP.CITIES ON USERS.CITY = CITIES.ID;", []⟩ := by decide +kernel

end Compiler

end RowFerry
