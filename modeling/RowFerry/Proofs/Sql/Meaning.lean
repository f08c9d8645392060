import RowFerry.Proofs.Sql.Unambiguous

/-!
A statement with quoted names and the values bound to it tell what was asked. Two requests
with the same text and related values mean the same: the same kind of statement for the same
table, with columns, joins, filters, pages and order that resolve alike. What the engine is
given leaves nothing open.
-/

namespace RowFerry

variable {R : Value → Value → Prop}

/-! ## What requests mean -/

/-- Two references resolve to the same column, each with the names of its own query in scope. -/
def SameColumn (scope scope' : List String) (r r' : String) : Prop :=
  ∃ n, ColumnName.of .quoted scope r = .ok n ∧ ColumnName.of .quoted scope' r' = .ok n

/-- Two filters ask the same of their columns. Being equal or unequal to a missing value is being
missing or not. -/
inductive SameTest (R : Value → Value → Prop) : Filter → Filter → Prop
  | compares (c : Comparison) {v w : Value} (h : R v w) : SameTest R (.compares c v) (.compares c w)
  | missing {f g : Filter} (hf : f ∈ [.isNull, .compares .eq .null])
      (hg : g ∈ [.isNull, .compares .eq .null]) : SameTest R f g
  | present {f g : Filter} (hf : f ∈ [.isNotNull, .compares .ne .null])
      (hg : g ∈ [.isNotNull, .compares .ne .null]) : SameTest R f g

/-- The same filters in the same order. -/
def SameFilters (R : Value → Value → Prop) (scope scope' : List String) :
    List (String × Filter) → List (String × Filter) → Prop :=
  List.Forall₂ fun f g => SameColumn scope scope' f.1 g.1 ∧ SameTest R f.2 g.2

/-- The same join; an empty alias is none. -/
structure SameJoin (scope scope' : List String) (j j' : JoinSpec) : Prop where
  kind : j.kind = j'.kind
  table : j.table = j'.table
  alias? : j.alias? = j'.alias?
  conditions : List.Forall₂
    (fun p q => SameColumn scope scope' p.1 q.1 ∧ SameColumn scope scope' p.2 q.2)
    j.conditions j'.conditions

/-- The same rows of the same table, in the same order and pages. -/
structure SameSearch (R : Value → Value → Prop) (table : String) (a b : Criteria) : Prop where
  joins : List.Forall₂ (SameJoin (a.scope table) (b.scope table)) a.joins b.joins
  filters : SameFilters R (a.scope table) (b.scope table) a.filters b.filters
  limit : a.limit = b.limit
  offset : a.offset = b.offset
  sort : List.Forall₂ (fun k l => SameColumn (a.scope table) (b.scope table) k.1 l.1 ∧ k.2 = l.2)
    a.sort b.sort

/-- The same columns in the same order, with related values. -/
def SameRow (R : Value → Value → Prop) (row row' : Row) : Prop :=
  List.Forall₂ (fun e f => e.1 = f.1 ∧ R e.2 f.2) row.entries row'.entries

/-- Two requests ask for the same, up to the relation of their values. Queries without columns of
their own mean all columns. -/
inductive SameMeaning (R : Value → Value → Prop) : Request → Request → Prop
  | create {table : String} {row row' : Row} (hrow : SameRow R row row') :
      SameMeaning R (.create table row) (.create table row')
  | find {table : String} {a b : Criteria}
      (hcolumns : List.Forall₂ (SameColumn (a.scope table) (b.scope table)) a.projection.references
        b.projection.references)
      (hsearch : SameSearch R table a b) : SameMeaning R (.find table a) (.find table b)
  | count {table : String} {a b : Criteria} (hsearch : SameSearch R table a b) :
      SameMeaning R (.count table a) (.count table b)
  | update {table : String} {a b : Criteria} {row row' : Row} (hrow : SameRow R row row')
      (hfilters : SameFilters R [table] [table] a.filters b.filters) :
      SameMeaning R (.update table a row) (.update table b row')
  | delete {table : String} {a b : Criteria}
      (hfilters : SameFilters R [table] [table] a.filters b.filters) :
      SameMeaning R (.delete table a) (.delete table b)
  | identityInsert {table : String} {enabled : Bool} :
      SameMeaning R (.identityInsert table enabled) (.identityInsert table enabled)

/-! ## Names and filters -/

/-- References that resolve to the same columns are the same. -/
theorem sameColumns {scope scope' : List String} {rs rs' : List String}
    {ns : List (ColumnName .quoted)}
    (h : List.Forall₂ (fun r n => ColumnName.of .quoted scope r = .ok n) rs ns)
    (h' : List.Forall₂ (fun r n => ColumnName.of .quoted scope' r = .ok n) rs' ns) :
    List.Forall₂ (SameColumn scope scope') rs rs' :=
  forall₂_comp (fun _ n _ hr hr' => ⟨n, hr, hr'⟩) h h'.flip

/-- Checked columns are the names of their row. -/
theorem names_eq {style : NameStyle} {names : List String} {columns : List (Ident style)}
    (h : List.Forall₂ (fun n i => Ident.of style n = .ok i) names columns) :
    names = columns.map Ident.name := by
  induction h with
  | nil => rfl
  | cons hn _ ih => rw [List.map_cons, Ident.of_name hn, ← ih]

/-- Two tests ask the same, up to the relation of their operands. -/
inductive Test.Same (R : Value → Value → Prop) : Test → Test → Prop
  | holds (c : Comparison) {v w : Value} (h : R v w) : Same R (.holds c v) (.holds c w)
  | isNull : Same R .isNull .isNull
  | isNotNull : Same R .isNotNull .isNotNull

/-- Filters of the same tests ask the same. -/
theorem Test.Same.sameTest {f g : Filter} (h : Test.Same R f.test g.test) : SameTest R f g := by
  -- Two filters that fall into different cases have different tests.
  obtain ⟨c, v, rfl, -, hf⟩ | ⟨hfmem, hf⟩ | ⟨hfmem, hf⟩ := Filter.test_cases f <;>
    obtain ⟨d, w, rfl, -, hg⟩ | ⟨hgmem, hg⟩ | ⟨hgmem, hg⟩ := Filter.test_cases g <;>
    rw [hf, hg] at h <;> cases h
  case inl.inl.holds hvalue => exact .compares c hvalue
  case inr.inl.inr.inl.isNull => exact .missing hfmem hgmem
  case inr.inr.inr.inr.isNotNull => exact .present hfmem hgmem

/-- Tests of one form bind an operand each or neither, and are the same when their operands are. -/
theorem Test.same_of_form {p q : Predicate .quoted} {vs ws : List Value}
    (hform : p.test.form = q.test.form)
    (hvalues : List.Forall₂ R (p.operand?.toList ++ vs) (q.operand?.toList ++ ws)) :
    Test.Same R p.test q.test ∧ List.Forall₂ R vs ws := by
  unfold Predicate.operand? at hvalues
  cases hp : p.test <;> cases hq : q.test <;>
    simp only [hp, hq, form] at hform hvalues <;> cases hform
  · cases hvalues with
    | cons hvalue hrest => exact ⟨.holds _ hvalue, hrest⟩
  · exact ⟨.isNull, hvalues⟩
  · exact ⟨.isNotNull, hvalues⟩

/-- Forms and operands together are the predicates. -/
theorem samePredicates {ps qs : List (Predicate .quoted)}
    (hforms : ps.map Predicate.form = qs.map Predicate.form)
    (hvalues : List.Forall₂ R (Predicate.operands ps) (Predicate.operands qs)) :
    List.Forall₂ (fun p q => p.column = q.column ∧ Test.Same R p.test q.test) ps qs := by
  induction ps generalizing qs with
  | nil =>
    rw [List.map_eq_nil_iff.mp hforms.symm]
    exact .nil
  | cons p ps ih =>
    cases qs with
    | nil => simp at hforms
    | cons q qs =>
      rw [List.map_cons, List.map_cons, List.cons.injEq] at hforms
      obtain ⟨hform, hrest⟩ := hforms
      rw [Predicate.operands_cons, Predicate.operands_cons] at hvalues
      obtain ⟨htest, hvalues⟩ := Test.same_of_form (congrArg Prod.snd hform) hvalues
      exact .cons ⟨congrArg Prod.fst hform, htest⟩ (ih hrest hvalues)

theorem sameFilters {scope scope' : List String} {fs gs : List (String × Filter)}
    {ps qs : List (Predicate .quoted)} (hps : Predicate.of .quoted scope fs = .ok ps)
    (hqs : Predicate.of .quoted scope' gs = .ok qs)
    (hforms : ps.map Predicate.form = qs.map Predicate.form)
    (hvalues : List.Forall₂ R (Predicate.operands ps) (Predicate.operands qs)) :
    SameFilters R scope scope' fs gs := by
  have hleft := forall₂_comp (fun f p q hfp hpq =>
    (⟨hpq.1 ▸ hfp.1, hfp.2 ▸ hpq.2⟩ : ColumnName.of .quoted scope f.1 = .ok q.column ∧
      Test.Same R f.2.test q.test)) (Predicate.of_ok hps) (samePredicates hforms hvalues)
  refine forall₂_comp (fun f q g hfq hqg => ?_) hleft (Predicate.of_ok hqs).flip
  obtain ⟨hcolumn, htest⟩ := hqg
  exact ⟨⟨q.column, hfq.1, hcolumn⟩, Test.Same.sameTest (htest ▸ hfq.2)⟩

/-! ## Statements -/

theorem forall₂_of_append {vs vs' ws ws' : List Value} (hlength : vs.length = vs'.length)
    (h : List.Forall₂ R (vs ++ ws) (vs' ++ ws')) :
    List.Forall₂ R vs vs' ∧ List.Forall₂ R ws ws' := by
  induction vs generalizing vs' with
  | nil =>
    rw [List.length_eq_zero_iff.mp hlength.symm] at h ⊢
    exact ⟨.nil, h⟩
  | cons v vs ih =>
    cases vs' with
    | nil => simp at hlength
    | cons v' vs' =>
      cases h with
      | cons hv hrest =>
        obtain ⟨hvs, hws⟩ := ih (Nat.succ.inj hlength) hrest
        exact ⟨.cons hv hvs, hws⟩

theorem sameRow {row row' : Row} (hnames : row.names = row'.names)
    (hvalues : List.Forall₂ R row.values row'.values) : SameRow R row row' := by
  unfold SameRow
  rw [Row.names, Row.names] at hnames
  rw [Row.values, Row.values] at hvalues
  generalize row.entries = es at *
  generalize row'.entries = fs at *
  induction es generalizing fs with
  | nil =>
    rw [List.map_eq_nil_iff.mp hnames.symm]
    exact .nil
  | cons e es ih =>
    cases fs with
    | nil => simp at hnames
    | cons f fs =>
      obtain ⟨hname, hrest⟩ := List.cons.inj hnames
      cases hvalues with
      | cons hvalue hvalues => exact .cons ⟨hname, hvalue⟩ (ih fs hrest hvalues)

theorem sameJoin {tablespace : String} {scope scope' : List String} {a b : JoinSpec}
    {j : Join .quoted} (ha : Join.of .quoted tablespace scope a = .ok j)
    (hb : Join.of .quoted tablespace scope' b = .ok j) :
    SameJoin scope scope' a b := by
  obtain ⟨hakind, hatable, haalias, -, haconditions⟩ := Join.of_ok ha
  obtain ⟨hbkind, hbtable, hbalias, -, hbconditions⟩ := Join.of_ok hb
  refine ⟨hakind.symm.trans hbkind, ?_, haalias.symm.trans hbalias, ?_⟩
  · exact (TableName.of_ok hatable).1.symm.trans (TableName.of_ok hbtable).1
  · exact forall₂_comp (fun p n q hp hq => ⟨⟨n.1, hp.1, hq.1⟩, ⟨n.2, hp.2, hq.2⟩⟩) haconditions
      hbconditions.flip

theorem sameSearch {tablespace table : String} {a b : Criteria} {p q : Projection}
    {i j : Select .quoted}
    (hi : Compiler.resolveSelect ⟨tablespace, .quoted⟩ table a p = .ok i)
    (hj : Compiler.resolveSelect ⟨tablespace, .quoted⟩ table b q = .ok j)
    (hjoins : i.joins = j.joins)
    (hforms : i.predicates.map Predicate.form = j.predicates.map Predicate.form)
    (hvalues : List.Forall₂ R (Predicate.operands i.predicates) (Predicate.operands j.predicates))
    (hpages : (i.limit, i.offset, i.order) = (j.limit, j.offset, j.order)) :
    SameSearch R table a b := by
  obtain ⟨-, -, hajoins, hafilters, halimit, haoffset, hasort⟩ := Compiler.resolveSelect_ok hi
  obtain ⟨-, -, hbjoins, hbfilters, hblimit, hboffset, hbsort⟩ := Compiler.resolveSelect_ok hj
  simp only [Prod.mk.injEq] at hpages
  obtain ⟨hlimit, hoffset, horder⟩ := hpages
  rw [← hjoins] at hbjoins
  rw [← horder] at hbsort
  constructor
  · refine forall₂_comp (fun _ _ _ ha hb => ?_) hajoins hbjoins.flip
    exact sameJoin ha hb
  · exact sameFilters hafilters hbfilters hforms hvalues
  · rw [← halimit, ← hblimit, hlimit]
  · rw [← haoffset, ← hboffset, hoffset]
  · refine forall₂_comp (fun k n l hk hl => ?_) hasort hbsort.flip
    obtain ⟨hkcolumn, hkdirection⟩ := SortKey.of_ok hk
    obtain ⟨hlcolumn, hldirection⟩ := SortKey.of_ok hl
    exact ⟨⟨n.column, hkcolumn, hlcolumn⟩, hkdirection.symm.trans hldirection⟩

namespace Request

/-- The kinds of statements. -/
inductive Kind where
  | create
  | find
  | count
  | update
  | delete
  | identityInsert
  deriving DecidableEq

def kind : Request → Kind
  | .create _ _ => .create
  | .find _ _ => .find
  | .count _ _ => .count
  | .update _ _ _ => .update
  | .delete _ _ => .delete
  | .identityInsert _ _ => .identityInsert

/-- How the statements of a kind begin. -/
def Kind.openings : Kind → List String
  | create => ["INSERT INTO "]
  | find => ["SELECT *", "SELECT \""]
  | count => ["SELECT COUNT(*)"]
  | update => ["UPDATE "]
  | delete => ["DELETE"]
  | identityInsert => ["SET IDENTITY_INSERT"]

theorem Kind.eq_of_begins {k l : Kind} {t : String} (hk : Begins k.openings t)
    (hl : Begins l.openings t) : k = l := by
  by_contra hne
  have hapart : Apart k.openings l.openings := by
    cases k <;> cases l <;> first | exact absurd rfl hne | decide
  exact hapart.absurd hk hl

end Request

namespace Compiler

variable {tablespace : String} {table : String} {criteria : Criteria} {row : Row}

theorem begins_semicolon : Begins [";"] ";" := ⟨";", List.mem_singleton_self _, "", rfl⟩

theorem begins_any (t : String) : Begins [""] t :=
  ⟨"", List.mem_singleton_self _, t, by rw [String.empty_append]⟩

/-- The text of a search for columns, as it is read back. -/
theorem find_text {i : Select .quoted} (hcolumns : criteria.projection.OfColumns)
    (h : resolveSelect ⟨tablespace, .quoted⟩ table criteria criteria.projection = .ok i) :
    i.text = "SELECT " ++ (columnList i.selection.names ++ i.tail) ++ ";" := by
  rw [i.text_eq, Select.body,
    Selection.listText_eq (Selection.of_ok hcolumns (resolveSelect_ok h).1).2]

theorem count_text {total : Ident .quoted} {i : Select .quoted}
    (h : resolveSelect ⟨tablespace, .quoted⟩ table criteria
      (.expression (countRows ++ " AS " ++ total.text)) = .ok i) :
    i.text = "SELECT " ++ (countRows ++ (" AS " ++ total.text)) ++ (i.tail ++ ";") := by
  rw [i.text_eq, Select.body, ← Except.ok.inj (resolveSelect_ok h).1, Selection.listText]
  simp only [String.append_assoc]

theorem compile_begins {q : Request} {s : Statement} (hq : q.NamesOnly)
    (h : compile ⟨tablespace, .quoted⟩ q = .ok s) : Begins q.kind.openings s.sql := by
  cases q with
  | create table row =>
    obtain ⟨i, hi, rfl⟩ := map_eq_ok_iff.mp h
    rw [Insert.statement, i.text_eq, Insert.body, String.append_assoc]
    exact Insert.lead_readsBack.begins i _ (begins_any _)
  | find table criteria =>
    obtain ⟨i, hi, rfl⟩ := map_eq_ok_iff.mp h
    rw [Select.statement, find_text hq hi, String.append_assoc, String.append_assoc]
    have hlist := columnList_readsBack.begins i.selection.names _
      (Select.tail_readsBack.begins i ";" begins_semicolon)
    have hopening : Begins Request.Kind.find.openings _ := hlist.after "SELECT " (by decide)
    exact hopening
  | count table criteria =>
    obtain ⟨total, i, htotal, hi, rfl⟩ := count_ok h
    rw [Select.statement, count_text hi, String.append_assoc, String.append_assoc]
    have hcount (t : String) : Begins ["COUNT(*)"] (countRows ++ t) :=
      ⟨"COUNT(*)", List.mem_singleton_self _, t, rfl⟩
    have hopening (t : String) :
      Begins Request.Kind.count.openings ("SELECT " ++ (countRows ++ t)) :=
      (hcount t).after "SELECT " (by decide)
    exact hopening _
  | update table criteria row =>
    obtain ⟨i, hi, rfl⟩ := map_eq_ok_iff.mp h
    rw [Update.statement, i.text_eq]
    exact Update.readsBack.begins i ";" begins_semicolon
  | delete table criteria =>
    obtain ⟨i, hi, rfl⟩ := map_eq_ok_iff.mp h
    rw [Delete.statement, i.text_eq]
    exact Delete.readsBack.begins i ";" begins_semicolon
  | identityInsert table enabled =>
    obtain ⟨sql, hsql, rfl⟩ := map_eq_ok_iff.mp h
    obtain ⟨name, hname, rfl⟩ := map_eq_ok_iff.mp hsql
    rw [IdentityInsert.text_eq]
    exact IdentityInsert.readsBack.begins _ ";" begins_semicolon

/-- Tables of one name are the same table. -/
theorem table_eq {table table' : String} {n n' : TableName .quoted}
    (h : TableName.of .quoted tablespace table = .ok n)
    (h' : TableName.of .quoted tablespace table' = .ok n') (heq : n = n') : table = table' := by
  rw [← (TableName.of_ok h).1, ← (TableName.of_ok h').1, heq]

theorem create_unambiguous {table' : String} {row' : Row} {s s' : Statement}
    (h : create ⟨tablespace, .quoted⟩ table row = .ok s)
    (h' : create ⟨tablespace, .quoted⟩ table' row' = .ok s') (hsql : s.sql = s'.sql)
    (hvalues : List.Forall₂ R s.values s'.values) :
    SameMeaning R (.create table row) (.create table' row') := by
  obtain ⟨i, hi, rfl⟩ := map_eq_ok_iff.mp h
  obtain ⟨j, hj, rfl⟩ := map_eq_ok_iff.mp h'
  obtain ⟨-, hitable, hicolumns, hivalues⟩ := resolveInsert_ok hi
  obtain ⟨-, hjtable, hjcolumns, hjvalues⟩ := resolveInsert_ok hj
  rw [Insert.statement, Insert.statement, i.text_eq, j.text_eq, String.append_left_inj, Insert.body,
    Insert.body] at hsql
  have hparts := (Insert.lead_readsBack.determines (begins_any _) (begins_any _) hsql).1
  simp only [Prod.mk.injEq] at hparts
  obtain rfl := table_eq hitable hjtable hparts.1
  rw [Insert.statement, Insert.statement, hivalues, hjvalues] at hvalues
  refine .create (sameRow ?_ hvalues)
  rw [names_eq hicolumns, names_eq hjcolumns, hparts.2]

theorem find_unambiguous {table' : String} {a b : Criteria} {s s' : Statement}
    (ha : a.projection.OfColumns) (hb : b.projection.OfColumns)
    (h : find ⟨tablespace, .quoted⟩ table a = .ok s)
    (h' : find ⟨tablespace, .quoted⟩ table' b = .ok s') (hsql : s.sql = s'.sql)
    (hvalues : List.Forall₂ R s.values s'.values) :
    SameMeaning R (.find table a) (.find table' b) := by
  obtain ⟨i, hi, rfl⟩ := map_eq_ok_iff.mp h
  obtain ⟨j, hj, rfl⟩ := map_eq_ok_iff.mp h'
  rw [Select.statement, Select.statement, find_text ha hi, find_text hb hj] at hsql
  have hparts := (Select.readsBack.determines begins_semicolon begins_semicolon hsql).1
  simp only [Prod.mk.injEq] at hparts
  obtain ⟨hnames, htable, hjoins, hforms, hpages⟩ := hparts
  obtain rfl := table_eq (resolveSelect_ok hi).2.1 (resolveSelect_ok hj).2.1 htable
  refine .find ?_ (sameSearch hi hj hjoins hforms hvalues (by simpa using hpages))
  have hacolumns := (Selection.of_ok ha (resolveSelect_ok hi).1).1
  rw [hnames] at hacolumns
  exact sameColumns hacolumns (Selection.of_ok hb (resolveSelect_ok hj).1).1

theorem count_unambiguous {table' : String} {a b : Criteria} {s s' : Statement}
    (h : count ⟨tablespace, .quoted⟩ table a none = .ok s)
    (h' : count ⟨tablespace, .quoted⟩ table' b none = .ok s') (hsql : s.sql = s'.sql)
    (hvalues : List.Forall₂ R s.values s'.values) :
    SameMeaning R (.count table a) (.count table' b) := by
  obtain ⟨total, i, htotal, hi, rfl⟩ := count_ok h
  obtain ⟨total', j, htotal', hj, rfl⟩ := count_ok h'
  obtain rfl : total = total' := Except.ok.inj (htotal.symm.trans htotal')
  have htexts : i.text = j.text := hsql
  rw [count_text hi, count_text hj, String.append_right_inj] at htexts
  have hparts := (Select.tail_readsBack.determines begins_semicolon begins_semicolon htexts).1
  simp only [Prod.mk.injEq] at hparts
  obtain ⟨htable, hjoins, hforms, hpages⟩ := hparts
  obtain rfl := table_eq (resolveSelect_ok hi).2.1 (resolveSelect_ok hj).2.1 htable
  exact .count (sameSearch hi hj hjoins hforms hvalues (by simpa using hpages))

theorem update_unambiguous {table' : String} {a b : Criteria} {row' : Row} {s s' : Statement}
    (h : update ⟨tablespace, .quoted⟩ table a row = .ok s)
    (h' : update ⟨tablespace, .quoted⟩ table' b row' = .ok s') (hsql : s.sql = s'.sql)
    (hvalues : List.Forall₂ R s.values s'.values) :
    SameMeaning R (.update table a row) (.update table' b row') := by
  obtain ⟨i, hi, rfl⟩ := map_eq_ok_iff.mp h
  obtain ⟨j, hj, rfl⟩ := map_eq_ok_iff.mp h'
  obtain ⟨-, hitable, hicolumns, hivalues, hipredicates⟩ := resolveUpdate_ok hi
  obtain ⟨-, hjtable, hjcolumns, hjvalues, hjpredicates⟩ := resolveUpdate_ok hj
  have htexts : i.text = j.text := hsql
  rw [i.text_eq, j.text_eq] at htexts
  have hparts := (Update.readsBack.determines begins_semicolon begins_semicolon htexts).1
  simp only [Prod.mk.injEq] at hparts
  obtain ⟨htable, hcolumns, hforms⟩ := hparts
  obtain rfl := table_eq hitable hjtable htable
  have hnames : row.names = row'.names := by rw [names_eq hicolumns, names_eq hjcolumns, hcolumns]
  have hlength : row.values.length = row'.values.length := by
    have hlengths := congrArg List.length hnames
    simpa [Row.names, Row.values] using hlengths
  rw [Update.statement, Update.statement, hivalues, hjvalues] at hvalues
  obtain ⟨hset, hoperands⟩ := forall₂_of_append hlength hvalues
  exact .update (sameRow hnames hset) (sameFilters hipredicates hjpredicates hforms hoperands)

theorem delete_unambiguous {table' : String} {a b : Criteria} {s s' : Statement}
    (h : delete ⟨tablespace, .quoted⟩ table a = .ok s)
    (h' : delete ⟨tablespace, .quoted⟩ table' b = .ok s') (hsql : s.sql = s'.sql)
    (hvalues : List.Forall₂ R s.values s'.values) :
    SameMeaning R (.delete table a) (.delete table' b) := by
  obtain ⟨i, hi, rfl⟩ := map_eq_ok_iff.mp h
  obtain ⟨j, hj, rfl⟩ := map_eq_ok_iff.mp h'
  obtain ⟨hitable, hipredicates⟩ := resolveDelete_ok hi
  obtain ⟨hjtable, hjpredicates⟩ := resolveDelete_ok hj
  have htexts : i.text = j.text := hsql
  rw [i.text_eq, j.text_eq] at htexts
  have hparts := (Delete.readsBack.determines begins_semicolon begins_semicolon htexts).1
  simp only [Prod.mk.injEq] at hparts
  obtain rfl := table_eq hitable hjtable hparts.1
  exact .delete (sameFilters hipredicates hjpredicates hparts.2 hvalues)

theorem identityInsert_unambiguous {table' : String} {enabled enabled' : Bool} {sql : String}
    (h : identityInsert ⟨tablespace, .quoted⟩ table enabled = .ok sql)
    (h' : identityInsert ⟨tablespace, .quoted⟩ table' enabled' = .ok sql) :
    SameMeaning R (.identityInsert table enabled) (.identityInsert table' enabled') := by
  obtain ⟨n, hn, rfl⟩ := map_eq_ok_iff.mp h
  obtain ⟨n', hn', hsql⟩ := map_eq_ok_iff.mp h'
  rw [IdentityInsert.text_eq, IdentityInsert.text_eq] at hsql
  have hparts := (IdentityInsert.readsBack.determines begins_semicolon begins_semicolon hsql).1
  simp only [Prod.mk.injEq] at hparts
  obtain rfl := table_eq hn' hn hparts.1
  obtain rfl := hparts.2
  exact .identityInsert

/-- With quoted names, a statement and the values bound to it tell which request they were compiled
from, up to its meaning. -/
theorem compile_unambiguous (tablespace : String) {q q' : Request} {s s' : Statement}
    (hq : q.NamesOnly) (hq' : q'.NamesOnly) (h : compile ⟨tablespace, .quoted⟩ q = .ok s)
    (h' : compile ⟨tablespace, .quoted⟩ q' = .ok s') (hsql : s.sql = s'.sql)
    (hvalues : List.Forall₂ R s.values s'.values) : SameMeaning R q q' := by
  have hkind : q.kind = q'.kind :=
    Request.Kind.eq_of_begins (compile_begins hq h) (hsql ▸ compile_begins hq' h')
  cases q <;> cases q' <;> cases hkind
  · exact create_unambiguous h h' hsql hvalues
  · exact find_unambiguous hq hq' h h' hsql hvalues
  · exact count_unambiguous h h' hsql hvalues
  · exact update_unambiguous h h' hsql hvalues
  · exact delete_unambiguous h h' hsql hvalues
  · obtain ⟨sql, hon, rfl⟩ := map_eq_ok_iff.mp h
    obtain ⟨sql', hoff, rfl⟩ := map_eq_ok_iff.mp h'
    obtain rfl : sql = sql' := hsql
    exact identityInsert_unambiguous hon hoff

/-- No columns, an empty alias and equality with a missing value mean all columns, no alias and a
missing column. -/
theorem emptyAlias_sameMeaning :
    SameMeaning Eq
      (.find "u" { projection := .columns [], joins := [⟨.left, "r", some "", [("u.id", "r.uid")]⟩],
                   filters := [("a", .compares .eq .null), ("r.b", .compares .gt (.i64 2))] })
      (.find "u" { projection := .all, joins := [⟨.left, "r", none, [("u.id", "r.uid")]⟩],
                   filters := [("a", .isNull), ("r.b", .compares .gt (.i64 2))] }) :=
  compile_unambiguous ""
    (s := ⟨"SELECT * FROM \"u\" LEFT JOIN \"r\" ON \"u\".\"id\" = \"r\".\"uid\"" ++
      " WHERE \"a\" IS NULL AND \"r\".\"b\" > ?;", [.i64 2]⟩)
    (fun _ h => by cases h) (fun _ h => by cases h) rfl rfl rfl (.cons rfl .nil)

end Compiler

end RowFerry
