import RowFerry.Proofs.MatchSet

/-!
The input language of the compiler. A name is accepted when it has 1 to 128 bytes and no NUL, and
where names are folded when it is a plain word besides; a reference is accepted when the names that
it is made of are, and which names these are depends on the scope. A request compiles exactly when
every name in it is accepted, every join has a condition, and a row that is written has a column.
-/

namespace RowFerry

variable {style : NameStyle} {α β ε : Type}

/-! ## What is accepted -/

/-- A letter or `_`, then letters, numbers, `_`, `$` and `#`. -/
def PlainWord (name : String) : Prop :=
  ∃ first rest, name.toList = first :: rest ∧ startsWord first = true ∧
    ∀ c ∈ rest, continuesWord c = true

/-- The name can be written. -/
structure NameStyle.Accepts (style : NameStyle) (name : String) : Prop where
  nonempty : 1 ≤ name.utf8ByteSize
  short : name.utf8ByteSize ≤ 128
  noNul : '\x00' ∉ name.toList
  plainWord : style = .folded → PlainWord name

/-- The text names something in scope. -/
def NameStyle.InScope (style : NameStyle) (scope : List String) (qualifier : String) : Prop :=
  ∃ name ∈ scope, style.sameName name qualifier = true

/-- The names that a reference is made of. It is cut at its first dot when nothing stands before the
dot or when a name in scope does; else it is one name, with its dots. -/
inductive ReferenceParts (style : NameStyle) (scope : List String) : String → List String → Prop
  | unqualified (column : String) : ReferenceParts style scope ("." ++ column) [column]
  | qualified {qualifier column : String} (hne : qualifier ≠ "") (hdot : '.' ∉ qualifier.toList)
    (hscope : style.InScope scope qualifier) :
    ReferenceParts style scope (qualifier ++ "." ++ column) [qualifier, column]
  | whole {reference : String} (h : ∀ qualifier column, reference = qualifier ++ "." ++ column →
      '.' ∉ qualifier.toList → qualifier ≠ "" ∧ ¬ style.InScope scope qualifier) :
    ReferenceParts style scope reference [reference]

/-- Every name that the reference is made of is accepted. -/
def NameStyle.AcceptsReference (style : NameStyle) (scope : List String)
    (reference : String) : Prop :=
  ∃ parts, ReferenceParts style scope reference parts ∧ ∀ part ∈ parts, style.Accepts part

namespace Compiler

variable (c : Compiler)

/-- The table and the tablespace are accepted; an empty tablespace is none. -/
def AcceptsTable (table : String) : Prop :=
  c.style.Accepts table ∧ (c.tablespace = "" ∨ c.style.Accepts c.tablespace)

/-- The join has a condition, and all its names are accepted; an empty alias is none. -/
structure AcceptsJoin (scope : List String) (j : JoinSpec) : Prop where
  nonempty : j.conditions ≠ []
  table : c.AcceptsTable j.table
  aliasName : ∀ a ∈ j.aliasName, a ≠ "" → c.style.Accepts a
  conditions : ∀ p ∈ j.conditions,
    c.style.AcceptsReference scope p.1 ∧ c.style.AcceptsReference scope p.2

/-- What a query reads, and how it is ordered, is accepted. -/
structure AcceptsQuery (table : String) (criteria : Criteria) : Prop where
  name : c.AcceptsTable table
  joins : ∀ j ∈ criteria.joins, c.AcceptsJoin (criteria.scope table) j
  filters : ∀ f ∈ criteria.filters, c.style.AcceptsReference (criteria.scope table) f.1
  sort : ∀ key ∈ criteria.sort, c.style.AcceptsReference (criteria.scope table) key.1

/-- The input language. Columns of a row are names, whatever dots they have; changes and removals
have only their own table in scope. -/
def Accepts : Request → Prop
  | .create table row =>
    row.names ≠ [] ∧ c.AcceptsTable table ∧ ∀ name ∈ row.names, c.style.Accepts name
  | .find table criteria =>
    c.AcceptsQuery table criteria ∧
      ∀ r ∈ criteria.projection.references, c.style.AcceptsReference (criteria.scope table) r
  | .count table criteria => c.AcceptsQuery table criteria
  | .update table criteria row =>
    row.names ≠ [] ∧ c.AcceptsTable table ∧ (∀ name ∈ row.names, c.style.Accepts name) ∧
      ∀ f ∈ criteria.filters, c.style.AcceptsReference [table] f.1
  | .delete table criteria =>
    c.AcceptsTable table ∧ ∀ f ∈ criteria.filters, c.style.AcceptsReference [table] f.1
  | .identityInsert table _ => c.AcceptsTable table

end Compiler

/-! ## Names -/

namespace Text.Utf8

theorem length_charBytes (c : Char) : (charBytes c).length = c.utf8Size := by
  have hval : c.val.toNat = c.toNat := rfl
  unfold charBytes Char.utf8Size
  simp only [UInt32.le_iff_toNat_le, hval]
  split_ifs <;> simp_all <;> omega

theorem size_eq (s : String) : size s = s.utf8ByteSize := by
  have hfrom (cs : List Char) (n : Nat) :
      cs.foldl (fun n c => n + (charBytes c).length) n = n + (String.ofList cs).utf8ByteSize := by
    induction cs generalizing n with
    | nil => simp
    | cons c cs ih =>
      have hcons : String.ofList (c :: cs) = String.singleton c ++ String.ofList cs := by
        rw [← String.toList_inj]
        simp
      rw [List.foldl_cons, ih, length_charBytes, hcons, String.utf8ByteSize_append,
        String.utf8ByteSize_singleton, Nat.add_assoc]
  rw [size, hfrom, Nat.zero_add, String.ofList_toList]

end Text.Utf8

theorem isPlainWord_iff (name : String) : isPlainWord name.toList = true ↔ PlainWord name := by
  unfold PlainWord
  cases name.toList with
  | nil => simp [isPlainWord]
  | cons c cs => simp [isPlainWord]

theorem checkName_eq_ok_iff (name : String) :
    checkName name = .ok () ↔
      1 ≤ name.utf8ByteSize ∧ name.utf8ByteSize ≤ 128 ∧ '\x00' ∉ name.toList := by
  have hempty : name.toList.isEmpty = true ↔ name.utf8ByteSize = 0 := by simp
  unfold checkName
  rw [Text.Utf8.size_eq]
  by_cases h0 : name.utf8ByteSize = 0
  · rw [if_pos (hempty.mpr h0)]
    simp [h0]
  · rw [if_neg (hempty.not.mpr h0)]
    by_cases hnul : '\x00' ∈ name.toList
    · simp [hnul]
    · by_cases hlong : 128 < name.utf8ByteSize
      · simp [hnul, hlong, maxIdentifierBytes]
      · simp [hnul, hlong, maxIdentifierBytes]
        omega

theorem Ident.exists_of_iff {name : String} :
    (∃ i, Ident.of style name = .ok i) ↔ style.Accepts name := by
  have haccepts : style.Accepts name ↔
      checkName name = .ok () ∧ (style = .folded → isPlainWord name.toList = true) := by
    rw [checkName_eq_ok_iff, isPlainWord_iff]
    exact ⟨fun ⟨h1, h2, h3, h4⟩ => ⟨⟨h1, h2, h3⟩, h4⟩, fun ⟨⟨h1, h2, h3⟩, h4⟩ => ⟨h1, h2, h3, h4⟩⟩
  rw [haccepts]
  unfold Ident.of
  cases hcheck : checkName name with
  | error e => simp
  | ok u =>
    cases style with
    | quoted => simp
    | folded => by_cases hword : isPlainWord name.toList = true <;> simp [hword]

theorem Ident.exists_error {name : String} (h : ¬ style.Accepts name) :
    ∃ e, Ident.of style name = .error e := by
  cases hname : Ident.of style name with
  | error e => exact ⟨e, rfl⟩
  | ok i => exact absurd (Ident.exists_of_iff.mp ⟨i, hname⟩) h

theorem NameStyle.not_accepts_of_error {name : String} {e : CompileError}
    (h : Ident.of style name = .error e) : ¬ style.Accepts name := by
  intro haccepts
  obtain ⟨i, hi⟩ := Ident.exists_of_iff.mpr haccepts
  rw [h] at hi
  cases hi

/-- A name that may be left out is checked only if it is there. -/
theorem Ident.exists_optional_iff {name : String} (f : Option (Ident style) → α) :
    (∃ b, (if name.isEmpty then pure (f none)
      else do
        let i ← Ident.of style name
        pure (f (some i)) : Except CompileError α) = .ok b) ↔ (name = "" ∨ style.Accepts name) := by
  by_cases hempty : name = ""
  · simp [hempty, pure, Except.pure]
  · have hmap : (do
        let i ← Ident.of style name
        pure (f (some i)) : Except CompileError α) = (Ident.of style name).map fun i =>
          f (some i) := rfl
    rw [if_neg (by simpa using hempty), hmap, exists_map_ok_iff, Ident.exists_of_iff]
    simp [hempty]

theorem TableName.exists_of_iff {tablespace table : String} :
    (∃ n, TableName.of style tablespace table = .ok n) ↔
      style.Accepts table ∧ (tablespace = "" ∨ style.Accepts tablespace) := by
  have htable : (∃ i, Ident.of style table = .ok i) ↔ style.Accepts table := Ident.exists_of_iff
  rw [← htable]
  exact exists_bind_ok_iff fun t => Ident.exists_optional_iff fun s => TableName.mk s t

/-! ## References -/

/-- A text is cut where it has its first dot. -/
theorem cutAt_dot_iff {reference qualifier column : String} :
    Text.cutAt '.' reference.toList = some (qualifier.toList, column.toList) ↔
      reference = qualifier ++ "." ++ column ∧ '.' ∉ qualifier.toList := by
  rw [Text.cutAt_eq_some_iff, ← String.toList_inj]
  simp

theorem inScope_iff {scope : List String} {qualifier : String} :
    scope.any (style.sameName · qualifier) = true ↔
    style.InScope scope qualifier := List.any_eq_true

theorem ReferenceParts.exists (style : NameStyle) (scope : List String) (reference : String) :
    ∃ parts, ReferenceParts style scope reference parts := by
  by_cases hcut : ∃ qualifier column, reference = qualifier ++ "." ++ column ∧
      '.' ∉ qualifier.toList ∧ (qualifier = "" ∨ style.InScope scope qualifier)
  · obtain ⟨qualifier, column, rfl, hdot, hscope⟩ := hcut
    by_cases hempty : qualifier = ""
    · subst hempty
      rw [String.empty_append]
      exact ⟨_, .unqualified column⟩
    · exact ⟨_, .qualified hempty hdot (hscope.resolve_left hempty)⟩
  · refine ⟨_, .whole fun qualifier column hreference hdot => ?_⟩
    exact not_or.mp fun hscope => hcut ⟨qualifier, column, hreference, hdot, hscope⟩

theorem ColumnName.exists_qualified_iff {qualifier column : String} :
    (∃ n, ColumnName.qualified style qualifier column = .ok n) ↔
      style.Accepts column ∧ (qualifier = "" ∨ style.Accepts qualifier) := by
  have hcolumn : (∃ i, Ident.of style column = .ok i) ↔ style.Accepts column := Ident.exists_of_iff
  rw [← hcolumn]
  exact exists_bind_ok_iff fun c => Ident.exists_optional_iff fun q => ColumnName.mk q c

/-- A reference that is cut is resolved as a qualified column. -/
theorem ColumnName.of_cut {scope : List String} {reference qualifier column : String}
    (hcut : Text.cutAt '.' reference.toList = some (qualifier.toList, column.toList))
    (hscope : qualifier = "" ∨ style.InScope scope qualifier) :
    ColumnName.of style scope reference = ColumnName.qualified style qualifier column := by
  unfold ColumnName.of
  have hknown : (qualifier.isEmpty || scope.any (style.sameName · qualifier)) = true := by
    rw [Bool.or_eq_true, inScope_iff]
    simpa using hscope
  simp only [hcut, String.ofList_toList, hknown, if_true]

/-- A reference with a leading dot is resolved as the column after the dot. -/
theorem ColumnName.of_leadingDot_eq {scope : List String} (column : String) :
    ColumnName.of style scope ("." ++ column) = (Ident.of style column).map
      (ColumnName.mk none) := by
  have hcut : Text.cutAt '.' ("." ++ column).toList = some ("".toList, column.toList) := by
    simp [Text.cutAt]
  rw [ColumnName.of_cut hcut (.inl rfl)]
  rfl

theorem ColumnName.of_whole {scope : List String} {reference : String}
    (h : ∀ qualifier column, reference = qualifier ++ "." ++ column →
      '.' ∉ qualifier.toList → qualifier ≠ "" ∧ ¬ style.InScope scope qualifier) :
    ColumnName.of style scope reference = (Ident.of style reference).map (ColumnName.mk none) := by
  unfold ColumnName.of
  cases hcut : Text.cutAt '.' reference.toList with
  | none => rfl
  | some p =>
    obtain ⟨q, c⟩ := p
    have hparts : Text.cutAt '.' reference.toList =
        some ((String.ofList q).toList, (String.ofList c).toList) := by
      rw [hcut, String.toList_ofList, String.toList_ofList]
    obtain ⟨hreference, hdot⟩ := cutAt_dot_iff.mp hparts
    obtain ⟨hne, hscope⟩ := h _ _ hreference hdot
    have hunknown : ((String.ofList q).isEmpty || scope.any (style.sameName · (String.ofList q))) =
        false := by
      rw [Bool.or_eq_false_iff, ← Bool.not_eq_true (scope.any _), inScope_iff]
      exact ⟨by simpa using hne, hscope⟩
    simp only [hunknown]
    rfl

theorem ReferenceParts.exists_of_iff {scope : List String} {reference : String}
    {parts : List String} (h : ReferenceParts style scope reference parts) :
    (∃ n, ColumnName.of style scope reference = .ok n) ↔ ∀ part ∈ parts, style.Accepts part := by
  cases h with
  | unqualified column =>
    rw [ColumnName.of_leadingDot_eq, exists_map_ok_iff, Ident.exists_of_iff]
    simp
  | @qualified qualifier column hne hdot hscope =>
    rw [ColumnName.of_cut (cutAt_dot_iff.mpr ⟨rfl, hdot⟩) (.inr hscope),
      ColumnName.exists_qualified_iff]
    simp [hne, and_comm]
  | whole h =>
    rw [ColumnName.of_whole h, exists_map_ok_iff, Ident.exists_of_iff]
    simp

/-- A reference resolves exactly when every name that it is made of is accepted. -/
theorem ColumnName.exists_of_iff {scope : List String} {reference : String} :
    (∃ n, ColumnName.of style scope reference = .ok n) ↔
    style.AcceptsReference scope reference := by
  constructor
  · intro h
    obtain ⟨parts, hparts⟩ := ReferenceParts.exists style scope reference
    exact ⟨parts, hparts, hparts.exists_of_iff.mp h⟩
  · rintro ⟨parts, hparts, haccepted⟩
    exact hparts.exists_of_iff.mpr haccepted

/-! ## Clauses -/

theorem Selection.exists_of_iff {scope : List String} {p : Projection} :
    (∃ s, Selection.of style scope p = .ok s) ↔
      ∀ r ∈ p.references, style.AcceptsReference scope r := by
  match p with
  | .all | .columns [] | .expression text => simp [Selection.of, Projection.references]
  | .columns (r :: rs) =>
    have hof : Selection.of style scope (.columns (r :: rs)) =
        ((r :: rs).mapM (ColumnName.of style scope)).map .columns := rfl
    rw [hof, exists_map_ok_iff, exists_mapM_ok_iff]
    simp only [ColumnName.exists_of_iff, Projection.references]

theorem JoinSpec.exists_resolveAlias_iff {j : JoinSpec} :
    (∃ a, j.resolveAlias style = .ok a) ↔ ∀ a ∈ j.aliasName, a ≠ "" → style.Accepts a := by
  have halias : (∀ a ∈ j.aliasName, a ≠ "" → style.Accepts a) ↔
    ∀ a ∈ j.alias?, style.Accepts a := by
    simp [JoinSpec.alias?, Option.filter_eq_some_iff]
  rw [halias, JoinSpec.resolveAlias]
  cases j.alias? with
  | none => simp
  | some a => simp [exists_map_ok_iff, Ident.exists_of_iff]

theorem Join.exists_of_iff {c : Compiler} {scope : List String} {spec : JoinSpec} :
    (∃ j, Join.of c.style c.tablespace scope spec = .ok j) ↔ c.AcceptsJoin scope spec := by
  have hpair (r : String × String) :
      (∃ p, (do
        let left ← ColumnName.of c.style scope r.1
        let right ← ColumnName.of c.style scope r.2
        pure (left, right) : Except CompileError (ColumnName c.style × ColumnName c.style)) =
          .ok p) ↔
        c.style.AcceptsReference scope r.1 ∧ c.style.AcceptsReference scope r.2 := by
    rw [← ColumnName.exists_of_iff, ← ColumnName.exists_of_iff]
    exact exists_bind_ok_iff fun left => exists_map_ok_iff fun right => (left, right)
  rw [Join.of_eq]
  by_cases hempty : spec.conditions = []
  · have hjoin : ¬ c.AcceptsJoin scope spec := fun h => h.nonempty hempty
    simp [hempty, hjoin]
  · rw [if_neg (by simpa using hempty)]
    refine (exists_bind_ok_iff fun table => exists_bind_ok_iff fun aliasName =>
      exists_map_ok_iff fun conditions => Join.mk spec.kind table aliasName conditions).trans ?_
    rw [TableName.exists_of_iff, JoinSpec.exists_resolveAlias_iff, exists_mapM_ok_iff]
    simp only [hpair]
    exact ⟨fun ⟨h1, h2, h3⟩ => ⟨hempty, h1, h2, h3⟩, fun ⟨_, h1, h2, h3⟩ => ⟨h1, h2, h3⟩⟩

theorem Predicate.exists_of_iff {scope : List String} {filters : List (String × Filter)} :
    (∃ ps, Predicate.of style scope filters = .ok ps) ↔
      ∀ f ∈ filters, style.AcceptsReference scope f.1 := by
  have hresolved : (resolved style scope filters).2 = none ↔
      ∀ f ∈ filters, style.AcceptsReference scope f.1 := by
    induction filters with
    | nil => simp [resolved]
    | cons f filters ih =>
      rw [List.forall_mem_cons, ← ih, ← ColumnName.exists_of_iff, resolved]
      cases ColumnName.of style scope f.1 <;> simp
  rw [← hresolved, Predicate.of]
  split
  next hnone => simp [hnone]
  next hsome => simp [hsome]

theorem SortKey.exists_of_iff {scope : List String} {key : String × SortDirection} :
    (∃ k, SortKey.of style scope key = .ok k) ↔ style.AcceptsReference scope key.1 := by
  have hof : SortKey.of style scope key =
      (ColumnName.of style scope key.1).map (SortKey.mk · key.2) := rfl
  rw [hof, exists_map_ok_iff, ColumnName.exists_of_iff]

/-! ## Requests -/

namespace Compiler

variable {c : Compiler} {table : String} {criteria : Criteria}

theorem exists_table_iff : (∃ n, c.table table = .ok n) ↔ c.AcceptsTable table :=
  TableName.exists_of_iff

theorem exists_columns_iff {row : Row} :
    (∃ is, row.names.mapM (Ident.of c.style) = .ok is) ↔
    ∀ name ∈ row.names, c.style.Accepts name := by
  simp only [exists_mapM_ok_iff, Ident.exists_of_iff]

theorem exists_resolveSelect_iff {projection : Projection} :
    (∃ s, c.resolveSelect table criteria projection = .ok s) ↔
      c.AcceptsQuery table criteria ∧
        ∀ r ∈ projection.references, c.style.AcceptsReference (criteria.scope table) r := by
  refine (exists_bind_ok_iff fun selection => exists_bind_ok_iff fun name =>
    exists_bind_ok_iff fun joins => exists_bind_ok_iff fun predicates =>
      exists_map_ok_iff fun order => Select.mk selection name joins predicates criteria.limit
        criteria.offset order).trans ?_
  rw [Selection.exists_of_iff, exists_table_iff, exists_mapM_ok_iff, Predicate.exists_of_iff,
    exists_mapM_ok_iff]
  simp only [Join.exists_of_iff, SortKey.exists_of_iff]
  exact ⟨fun ⟨h1, h2, h3, h4, h5⟩ => ⟨⟨h2, h3, h4, h5⟩, h1⟩,
    fun ⟨⟨h2, h3, h4, h5⟩, h1⟩ => ⟨h1, h2, h3, h4, h5⟩⟩

/-- A count needs what its query needs, whatever it lists. -/
theorem exists_count_iff {expression : Option String} :
    (∃ s, c.count table criteria expression = .ok s) ↔ c.AcceptsQuery table criteria := by
  obtain ⟨total, -, hcount⟩ := c.count_total
  rw [hcount, exists_map_ok_iff, exists_resolveSelect_iff]
  simp [Projection.references]

/-- A row that is written needs a column. -/
theorem exists_written_iff {row : Row} {e : CompileError} {x : Except CompileError α} :
    (∃ s, (if row.isEmpty then .error e else x) = .ok s) ↔ row.names ≠ [] ∧ ∃ s, x = .ok s := by
  have hempty : row.isEmpty = true ↔ row.names = [] := by simp [Row.isEmpty, Row.names]
  by_cases h : row.names = []
  · rw [if_pos (hempty.mpr h)]
    simp [h]
  · rw [if_neg (hempty.not.mpr h)]
    simp [h]

theorem exists_resolveInsert_iff {row : Row} :
    (∃ s, c.resolveInsert table row = .ok s) ↔
      row.names ≠ [] ∧ c.AcceptsTable table ∧ ∀ name ∈ row.names, c.style.Accepts name := by
  have heq : c.resolveInsert table row =
      if row.isEmpty then .error (.nothingToInsert table)
      else (do
        let columns ← row.names.mapM (Ident.of c.style)
        let name ← c.table table
        pure ⟨name, columns, row.values⟩) := by
    unfold resolveInsert
    cases row.isEmpty <;> rfl
  rw [heq, exists_written_iff, ← exists_table_iff, ← exists_columns_iff]
  refine and_congr_right fun _ => Iff.trans ?_ and_comm
  exact exists_bind_ok_iff fun columns => exists_map_ok_iff fun name =>
    Insert.mk name columns row.values

theorem exists_resolveUpdate_iff {row : Row} :
    (∃ s, c.resolveUpdate table criteria row = .ok s) ↔
      row.names ≠ [] ∧ c.AcceptsTable table ∧ (∀ name ∈ row.names, c.style.Accepts name) ∧
        ∀ f ∈ criteria.filters, c.style.AcceptsReference [table] f.1 := by
  have heq : c.resolveUpdate table criteria row =
      if row.isEmpty then .error (.nothingToSet table)
      else (do
        let name ← c.table table
        let columns ← row.names.mapM (Ident.of c.style)
        let predicates ← Predicate.of c.style [table] criteria.filters
        pure ⟨name, columns, row.values, predicates⟩) := by
    unfold resolveUpdate
    cases row.isEmpty <;> rfl
  rw [heq, exists_written_iff, ← exists_table_iff, ← exists_columns_iff, ← Predicate.exists_of_iff]
  exact and_congr_right fun _ => exists_bind_ok_iff fun name => exists_bind_ok_iff fun columns =>
    exists_map_ok_iff fun predicates => Update.mk name columns row.values predicates

/-- A request compiles exactly when it is in the input language. -/
theorem exists_compile_iff (request : Request) :
    (∃ s, c.compile request = .ok s) ↔ c.Accepts request := by
  cases request with
  | create table row => rw [compile, create, exists_map_ok_iff, exists_resolveInsert_iff, Accepts]
  | find table criteria => rw [compile, find, exists_map_ok_iff, exists_resolveSelect_iff, Accepts]
  | count table criteria => rw [compile, exists_count_iff, Accepts]
  | update table criteria row =>
    rw [compile, update, exists_map_ok_iff, exists_resolveUpdate_iff, Accepts]
  | delete table criteria =>
    rw [compile, delete, exists_map_ok_iff, Accepts, ← exists_table_iff, ← Predicate.exists_of_iff]
    exact exists_bind_ok_iff fun name => exists_map_ok_iff fun predicates =>
      Delete.mk name predicates
  | identityInsert table enabled =>
    rw [compile, identityInsert, exists_map_ok_iff, exists_map_ok_iff, exists_table_iff, Accepts]

end Compiler

end RowFerry
