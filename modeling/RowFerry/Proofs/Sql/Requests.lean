import RowFerry.Proofs.Sequences
import RowFerry.Sql.Compiler

/-!
Requests to the compiler, and what it says of a request that it was compiled. One lemma for each
resolver gives the parts of what it resolved; names that were resolved are checked, and so is every
name in a statement.
-/

namespace RowFerry

variable {style : NameStyle}

/-- A statement that the compiler is asked for. Counts are counts of rows. -/
inductive Request where
  | create (table : String) (row : Row)
  | find (table : String) (criteria : Criteria)
  | count (table : String) (criteria : Criteria)
  | update (table : String) (criteria : Criteria) (row : Row)
  | delete (table : String) (criteria : Criteria)
  | identityInsert (table : String) (enabled : Bool)

/-- Is the list of a projection made of columns, and not written by the caller? -/
def Projection.OfColumns (p : Projection) : Prop := ∀ text, p ≠ .expression text

/-- Does the caller write no part of the text? A count does not use the projection. -/
def Request.NamesOnly : Request → Prop
  | .find _ criteria => criteria.projection.OfColumns
  | _ => True

/-- The statement for a request. -/
def Compiler.compile (c : Compiler) : Request → Except CompileError Statement
  | .create table row => c.create table row
  | .find table criteria => c.find table criteria
  | .count table criteria => c.count table criteria none
  | .update table criteria row => c.update table criteria row
  | .delete table criteria => c.delete table criteria
  | .identityInsert table enabled => (c.identityInsert table enabled).map fun sql => ⟨sql, []⟩

/-! ## Names -/

/-- The name has passed the check of its style. -/
def Ident.Checked (i : Ident style) : Prop := Ident.of style i.name = .ok i

theorem Ident.of_name {name : String} {i : Ident style} (h : Ident.of style name = .ok i) :
    i.name = name := by
  unfold Ident.of at h
  cases hcheck : checkName name with
  | error e => simp [hcheck] at h
  | ok u =>
    rw [hcheck] at h
    cases style with
    | quoted =>
      cases h
      rfl
    | folded =>
      by_cases hword : isPlainWord name.toList = true
      · simp only [hword, if_true, Except.ok.injEq] at h
        rw [← h]
      · simp [hword] at h

theorem Ident.of_checked {name : String} {i : Ident style} (h : Ident.of style name = .ok i) :
    i.Checked := by
  rw [Ident.Checked, Ident.of_name h]
  exact h

/-- A folded name that was checked is a plain word. -/
theorem Ident.Checked.plainWord {i : Ident .folded} (h : i.Checked) :
    isPlainWord i.name.toList = true := by
  unfold Ident.Checked Ident.of at h
  by_cases hword : isPlainWord i.name.toList = true
  · exact hword
  · cases hcheck : checkName i.name <;> simp [hcheck, hword] at h

/-- Every part of a name that may be qualified is checked. -/
def TableName.Checked (n : TableName style) : Prop :=
  n.table.Checked ∧ ∀ s ∈ n.tablespace, s.Checked

@[inherit_doc TableName.Checked]
def ColumnName.Checked (n : ColumnName style) : Prop :=
  n.column.Checked ∧ ∀ q ∈ n.qualifier, q.Checked

theorem TableName.of_parts {tablespace table : String} {n : TableName style}
    (h : TableName.of style tablespace table = .ok n) :
    Ident.of style table = .ok n.table ∧
      ((tablespace = "" ∧ n.tablespace = none) ∨
        ∃ s, n.tablespace = some s ∧ Ident.of style tablespace = .ok s) := by
  obtain ⟨t, ht, h⟩ := bind_eq_ok_iff.mp h
  split at h
  next hempty =>
    cases h
    exact ⟨ht, .inl ⟨by simpa using hempty, rfl⟩⟩
  next =>
    obtain ⟨s, hs, h⟩ := bind_eq_ok_iff.mp h
    cases h
    exact ⟨ht, .inr ⟨s, rfl, hs⟩⟩

theorem TableName.of_ok {tablespace table : String} {n : TableName style}
    (h : TableName.of style tablespace table = .ok n) : n.table.name = table ∧ n.Checked := by
  obtain ⟨ht, ⟨-, hnone⟩ | ⟨s, hsome, hs⟩⟩ := TableName.of_parts h
  · exact ⟨Ident.of_name ht, Ident.of_checked ht, by simp [hnone]⟩
  · exact ⟨Ident.of_name ht, Ident.of_checked ht, by simpa [hsome] using Ident.of_checked hs⟩

theorem ColumnName.qualified_ok {qualifier column : String} {n : ColumnName style}
    (h : ColumnName.qualified style qualifier column = .ok n) :
    Ident.of style column = .ok n.column ∧
      ((qualifier = "" ∧ n.qualifier = none) ∨
        ∃ q, n.qualifier = some q ∧ Ident.of style qualifier = .ok q) := by
  obtain ⟨c, hc, h⟩ := bind_eq_ok_iff.mp h
  split at h
  next hempty =>
    cases h
    exact ⟨hc, .inl ⟨by simpa using hempty, rfl⟩⟩
  next =>
    obtain ⟨q, hq, h⟩ := bind_eq_ok_iff.mp h
    cases h
    exact ⟨hc, .inr ⟨q, rfl, hq⟩⟩

/-- A reference is the name of a column, or it is cut at a dot. -/
theorem ColumnName.of_ok {scope : List String} {reference : String} {n : ColumnName style}
    (h : ColumnName.of style scope reference = .ok n) :
    (n.qualifier = none ∧ Ident.of style reference = .ok n.column) ∨
      ∃ qualifier column, reference = qualifier ++ "." ++ column ∧
        ColumnName.qualified style qualifier column = .ok n := by
  have whole (h : (do let c ← Ident.of style reference; pure (ColumnName.mk none c)) = .ok n) :
      n.qualifier = none ∧ Ident.of style reference = .ok n.column := by
    obtain ⟨c, hc, h⟩ := bind_eq_ok_iff.mp h
    cases h
    exact ⟨rfl, hc⟩
  unfold ColumnName.of at h
  cases hcut : Text.cutAt '.' reference.toList with
  | none =>
    rw [hcut] at h
    exact .inl (whole h)
  | some p =>
    simp only [hcut] at h
    split at h
    · refine .inr ⟨_, _, ?_, h⟩
      rw [← String.toList_inj, (Text.cutAt_eq_some_iff.mp hcut).1]
      simp
    · exact .inl (whole h)

theorem ColumnName.of_checked {scope : List String} {reference : String} {n : ColumnName style}
    (h : ColumnName.of style scope reference = .ok n) : n.Checked := by
  obtain ⟨hnone, hwhole⟩ | ⟨q, c, -, hqualified⟩ := ColumnName.of_ok h
  · exact ⟨Ident.of_checked hwhole, by simp [hnone]⟩
  · obtain ⟨hcolumn, ⟨-, hnone⟩ | ⟨i, hsome, hi⟩⟩ := ColumnName.qualified_ok hqualified
    · exact ⟨Ident.of_checked hcolumn, by simp [hnone]⟩
    · exact ⟨Ident.of_checked hcolumn, by simpa [hsome] using Ident.of_checked hi⟩

/-! ## Clauses -/

/-- The references of a projection of columns; none of them means all columns. -/
def Projection.references : Projection → List String
  | .columns references => references
  | _ => []

/-- The columns of a selection; none of them means all columns. -/
def Selection.names : Selection style → List (ColumnName style)
  | .columns names => names
  | _ => []

/-- Does the selection list a column or mean all of them? -/
def Selection.OfColumns (s : Selection style) : Prop := s = .all ∨ ∃ n ns, s = .columns (n :: ns)

theorem Selection.of_ok {scope : List String} {p : Projection} (hp : p.OfColumns)
    {s : Selection style} (h : Selection.of style scope p = .ok s) :
    List.Forall₂ (fun r n => ColumnName.of style scope r = .ok n) p.references s.names ∧
      s.OfColumns := by
  match p with
  | .all | .columns [] =>
    cases h
    exact ⟨.nil, .inl rfl⟩
  | .columns (r :: rs) =>
    obtain ⟨names, hnames, h⟩ := bind_eq_ok_iff.mp h
    cases h
    have hresolved := mapM_eq_ok_iff.mp hnames
    cases hresolved with
    | cons hr hrs => exact ⟨.cons hr hrs, .inr ⟨_, _, rfl⟩⟩
  | .expression text => exact absurd rfl (hp text)

/-- The alias of a join; an empty one is none. -/
def JoinSpec.alias? (j : JoinSpec) : Option String := j.aliasName.filter fun a => a ≠ ""

/-- The alias of a join with its name checked. -/
def JoinSpec.resolveAlias (style : NameStyle) (j : JoinSpec) :
    Except CompileError (Option (Ident style)) :=
  match j.alias? with
  | none => .ok none
  | some a => (Ident.of style a).map some

theorem Join.of_eq (tablespace : String) (scope : List String) (spec : JoinSpec) :
    Join.of style tablespace scope spec =
      if spec.conditions.isEmpty then .error (.joinWithoutCondition spec.table)
      else (do
        let table ← TableName.of style tablespace spec.table
        let aliasName ← spec.resolveAlias style
        let conditions ← spec.conditions.mapM fun r => do
          let left ← ColumnName.of style scope r.1
          let right ← ColumnName.of style scope r.2
          pure (left, right)
        pure ⟨spec.kind, table, aliasName, conditions⟩) := by
  unfold Join.of JoinSpec.resolveAlias JoinSpec.alias?
  cases spec.conditions.isEmpty with
  | true => rfl
  | false =>
    cases spec.aliasName with
    | none => rfl
    | some a =>
      by_cases h : a = ""
      · subst h
        rfl
      · have hempty : a.isEmpty = false := by simpa using h
        simp only [hempty, Bool.false_eq_true, if_false, Option.filter, h, ne_eq, not_false_eq_true,
          decide_true, if_true]

theorem Join.of_ok {tablespace : String} {scope : List String} {spec : JoinSpec} {j : Join style}
    (h : Join.of style tablespace scope spec = .ok j) :
    j.kind = spec.kind ∧ TableName.of style tablespace spec.table = .ok j.table ∧
      j.aliasName.map Ident.name = spec.alias? ∧ (∀ a ∈ j.aliasName, a.Checked) ∧
      List.Forall₂ (fun r n => ColumnName.of style scope r.1 = .ok n.1 ∧
        ColumnName.of style scope r.2 = .ok n.2) spec.conditions j.conditions := by
  rw [Join.of_eq] at h
  split at h
  · cases h
  obtain ⟨table, htable, h⟩ := bind_eq_ok_iff.mp h
  obtain ⟨aliasName, halias, h⟩ := bind_eq_ok_iff.mp h
  obtain ⟨conditions, hconditions, h⟩ := bind_eq_ok_iff.mp h
  cases h
  have hname : aliasName.map Ident.name = spec.alias? ∧ ∀ a ∈ aliasName, a.Checked := by
    unfold JoinSpec.resolveAlias at halias
    cases hspec : spec.alias? with
    | none =>
      rw [hspec] at halias
      cases halias
      simp
    | some a =>
      simp only [hspec] at halias
      obtain ⟨i, hi, rfl⟩ := map_eq_ok_iff.mp halias
      simp [Ident.of_name hi, Ident.of_checked hi]
  have hpairs : List.Forall₂ (fun r n => ColumnName.of style scope r.1 = .ok n.1 ∧
      ColumnName.of style scope r.2 = .ok n.2) spec.conditions conditions := by
    refine (mapM_eq_ok_iff.mp hconditions).imp fun r n hpair => ?_
    obtain ⟨left, hleft, hpair⟩ := bind_eq_ok_iff.mp hpair
    obtain ⟨right, hright, hpair⟩ := bind_eq_ok_iff.mp hpair
    cases hpair
    exact ⟨hleft, hright⟩
  exact ⟨rfl, htable, hname.1, hname.2, hpairs⟩

/-- A filter compares with an operand, or it asks whether its column is missing or is not. -/
theorem Filter.test_cases (f : Filter) :
    (∃ c v, f = .compares c v ∧ ¬(v = .null ∧ (c = .eq ∨ c = .ne)) ∧ f.test = .holds c v) ∨
      (f ∈ [.isNull, .compares .eq .null] ∧ f.test = .isNull) ∨
      (f ∈ [.isNotNull, .compares .ne .null] ∧ f.test = .isNotNull) := by
  cases f with
  | isNull => exact .inr (.inl ⟨by simp, rfl⟩)
  | isNotNull => exact .inr (.inr ⟨by simp, rfl⟩)
  | compares c v =>
    by_cases hmissing : v = .null ∧ (c = .eq ∨ c = .ne)
    · obtain ⟨rfl, rfl | rfl⟩ := hmissing
      · exact .inr (.inl ⟨by simp, rfl⟩)
      · exact .inr (.inr ⟨by simp, rfl⟩)
    · refine .inl ⟨c, v, rfl, hmissing, ?_⟩
      unfold test
      split <;> simp_all

theorem Predicate.resolved_ok {scope : List String} {filters : List (String × Filter)}
    {ps : List (Predicate style)} (h : Predicate.resolved style scope filters = (ps, none)) :
    List.Forall₂ (fun f p => ColumnName.of style scope f.1 = .ok p.column ∧ p.test = f.2.test)
      filters ps := by
  induction filters generalizing ps with
  | nil =>
    cases h
    exact .nil
  | cons f filters ih =>
    unfold Predicate.resolved at h
    cases hcolumn : ColumnName.of style scope f.1 with
    | error e => simp [hcolumn] at h
    | ok column =>
      simp only [hcolumn, Prod.mk.injEq] at h
      obtain ⟨rfl, hnone⟩ := h
      exact .cons ⟨hcolumn, rfl⟩ (ih (Prod.ext rfl hnone))

theorem Predicate.of_ok {scope : List String} {filters : List (String × Filter)}
    {ps : List (Predicate style)} (h : Predicate.of style scope filters = .ok ps) :
    List.Forall₂ (fun f p => ColumnName.of style scope f.1 = .ok p.column ∧ p.test = f.2.test)
      filters ps := by
  unfold Predicate.of at h
  split at h
  next hresolved =>
    cases h
    exact Predicate.resolved_ok hresolved
  next => cases h

/-- A predicate brings its operand before those of the later ones. -/
theorem Predicate.operands_cons (p : Predicate style) (ps : List (Predicate style)) :
    operands (p :: ps) = p.operand?.toList ++ operands ps := by
  unfold operands
  cases h : p.operand? <;> simp [h]

theorem SortKey.of_ok {scope : List String} {key : String × SortDirection} {k : SortKey style}
    (h : SortKey.of style scope key = .ok k) :
    ColumnName.of style scope key.1 = .ok k.column ∧ k.direction = key.2 := by
  obtain ⟨column, hcolumn, h⟩ := bind_eq_ok_iff.mp h
  cases h
  exact ⟨hcolumn, rfl⟩

/-! ## Statements -/

namespace Compiler

variable {c : Compiler} {table : String} {criteria : Criteria} {row : Row}

theorem resolveInsert_ok {s : Insert c.style} (h : c.resolveInsert table row = .ok s) :
    row.names ≠ [] ∧ TableName.of c.style c.tablespace table = .ok s.table ∧
      List.Forall₂ (fun n i => Ident.of c.style n = .ok i) row.names s.columns ∧
      s.values = row.values := by
  unfold resolveInsert at h
  split at h
  · cases h
  next hempty =>
    obtain ⟨columns, hcolumns, h⟩ := bind_eq_ok_iff.mp h
    obtain ⟨name, hname, h⟩ := bind_eq_ok_iff.mp h
    cases h
    refine ⟨?_, hname, mapM_eq_ok_iff.mp hcolumns, rfl⟩
    simpa [Row.isEmpty, Row.names] using hempty

theorem resolveSelect_ok {projection : Projection} {s : Select c.style}
    (h : c.resolveSelect table criteria projection = .ok s) :
    Selection.of c.style (criteria.scope table) projection = .ok s.selection ∧
      TableName.of c.style c.tablespace table = .ok s.table ∧
      List.Forall₂ (fun spec j => Join.of c.style c.tablespace (criteria.scope table) spec = .ok j)
        criteria.joins s.joins ∧
      Predicate.of c.style (criteria.scope table) criteria.filters = .ok s.predicates ∧
      s.limit = criteria.limit ∧ s.offset = criteria.offset ∧
      List.Forall₂ (fun key k => SortKey.of c.style (criteria.scope table) key = .ok k)
        criteria.sort s.order := by
  obtain ⟨selection, hselection, h⟩ := bind_eq_ok_iff.mp h
  obtain ⟨name, hname, h⟩ := bind_eq_ok_iff.mp h
  obtain ⟨joins, hjoins, h⟩ := bind_eq_ok_iff.mp h
  obtain ⟨predicates, hpredicates, h⟩ := bind_eq_ok_iff.mp h
  obtain ⟨order, horder, h⟩ := bind_eq_ok_iff.mp h
  cases h
  exact ⟨hselection, hname, mapM_eq_ok_iff.mp hjoins, hpredicates, rfl, rfl,
    mapM_eq_ok_iff.mp horder⟩

theorem resolveUpdate_ok {s : Update c.style} (h : c.resolveUpdate table criteria row = .ok s) :
    row.names ≠ [] ∧ TableName.of c.style c.tablespace table = .ok s.table ∧
      List.Forall₂ (fun n i => Ident.of c.style n = .ok i) row.names s.columns ∧
      s.values = row.values ∧ Predicate.of c.style [table] criteria.filters = .ok s.predicates := by
  unfold resolveUpdate at h
  split at h
  · cases h
  next hempty =>
    obtain ⟨name, hname, h⟩ := bind_eq_ok_iff.mp h
    obtain ⟨columns, hcolumns, h⟩ := bind_eq_ok_iff.mp h
    obtain ⟨predicates, hpredicates, h⟩ := bind_eq_ok_iff.mp h
    cases h
    refine ⟨?_, hname, mapM_eq_ok_iff.mp hcolumns, rfl, hpredicates⟩
    simpa [Row.isEmpty, Row.names] using hempty

theorem resolveDelete_ok {s : Delete c.style} (h : c.resolveDelete table criteria = .ok s) :
    TableName.of c.style c.tablespace table = .ok s.table ∧
      Predicate.of c.style [table] criteria.filters = .ok s.predicates := by
  obtain ⟨name, hname, h⟩ := bind_eq_ok_iff.mp h
  obtain ⟨predicates, hpredicates, h⟩ := bind_eq_ok_iff.mp h
  cases h
  exact ⟨hname, hpredicates⟩

/-- A count is a query whose list is the aggregate under its own name. -/
theorem count_ok {expression : Option String} {s : Statement}
    (h : c.count table criteria expression = .ok s) :
    ∃ total q, Ident.of c.style countColumn = .ok total ∧
      c.resolveSelect table criteria
        (.expression (expression.getD countRows ++ " AS " ++ total.text)) = .ok q ∧
      q.statement = s := by
  obtain ⟨projection, hprojection, h⟩ := bind_eq_ok_iff.mp h
  obtain ⟨total, htotal, hprojection⟩ := bind_eq_ok_iff.mp hprojection
  cases hprojection
  obtain ⟨q, hq, h⟩ := map_eq_ok_iff.mp h
  exact ⟨total, q, htotal, hq, h⟩

end Compiler

end RowFerry
