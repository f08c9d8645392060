import RowFerry.Proofs.Sql.Layout
import RowFerry.Proofs.Sql.Names
import RowFerry.Proofs.Unicode.Upper

/-!
Folded names ignore case. What the compiler writes for a folded name is its upper-case form, so
requests whose names have the same forms get the same statement, and a statement is its own
upper-case form but for the text that the caller wrote.

A reference is cut at a dot before it is folded, and whether it is cut depends on the
scope. Neither shows in the text: it is the form of the reference, without the dot that
stands for an empty qualifier.
-/

namespace RowFerry

open Unicode (upper upper_append upper_upper upper_eq_empty_iff)

variable {α β γ δ : Type}

/-! ## Requests that differ in case -/

/-- The projection with its references in upper case. -/
def Projection.upperNames : Projection → Projection
  | .columns references => .columns (references.map upper)
  | p => p

/-- The join with its names in upper case. -/
def JoinSpec.upperNames (j : JoinSpec) : JoinSpec where
  kind := j.kind
  table := upper j.table
  aliasName := j.aliasName.map upper
  conditions := j.conditions.map fun c => (upper c.1, upper c.2)

/-- The criteria with their names in upper case; values and raw expressions stay. -/
def Criteria.upperNames (c : Criteria) : Criteria where
  projection := c.projection.upperNames
  filters := c.filters.map fun f => (upper f.1, f.2)
  joins := c.joins.map JoinSpec.upperNames
  sort := c.sort.map fun k => (upper k.1, k.2)
  limit := c.limit
  offset := c.offset

/-- The entries of a row with their columns in upper case. Different columns may then be one. -/
def Row.upperNames (r : Row) : List (String × Value) := r.entries.map fun e => (upper e.1, e.2)

/-- The same request but for the case of its names. -/
inductive Request.SameButCase : Request → Request → Prop
  | create {table table' : String} {row row' : Row} (htable : upper table = upper table')
      (hrow : row.upperNames = row'.upperNames) :
      SameButCase (.create table row) (.create table' row')
  | find {table table' : String} {criteria criteria' : Criteria}
    (htable : upper table = upper table')
      (hcriteria : criteria.upperNames = criteria'.upperNames) :
      SameButCase (.find table criteria) (.find table' criteria')
  | count {table table' : String} {criteria criteria' : Criteria}
    (htable : upper table = upper table')
      (hcriteria : criteria.upperNames = criteria'.upperNames) :
      SameButCase (.count table criteria) (.count table' criteria')
  | update {table table' : String} {criteria criteria' : Criteria} {row row' : Row}
      (htable : upper table = upper table') (hcriteria : criteria.upperNames = criteria'.upperNames)
      (hrow : row.upperNames = row'.upperNames) :
      SameButCase (.update table criteria row) (.update table' criteria' row')
  | delete {table table' : String} {criteria criteria' : Criteria}
    (htable : upper table = upper table')
      (hcriteria : criteria.upperNames = criteria'.upperNames) :
      SameButCase (.delete table criteria) (.delete table' criteria')
  | identityInsert {table table' : String} {enabled : Bool} (htable : upper table = upper table') :
      SameButCase (.identityInsert table enabled) (.identityInsert table' enabled)

/-! ## Equal texts of related lists -/

/-- Members that are related to members of equal images have equal images. -/
theorem map_eq_of_forall₂ {R R' : α → β → Prop} {f : α → γ} {g : β → δ}
    (h : ∀ x x' y y', R x y → R' x' y' → f x = f x' → g y = g y')
    {xs xs' : List α} {ys ys' : List β} (hys : List.Forall₂ R xs ys)
    (hys' : List.Forall₂ R' xs' ys') (hxs : xs.map f = xs'.map f) :
    ys.map g = ys'.map g := by
  induction hys generalizing xs' ys' with
  | nil =>
    cases hys' with
    | nil => rfl
    | cons _ _ => simp at hxs
  | cons hxy _ ih =>
    cases hys' with
    | nil => simp at hxs
    | cons hxy' hrest =>
      rw [List.map_cons, List.map_cons, List.cons.injEq] at hxs
      rw [List.map_cons, List.map_cons, h _ _ _ _ hxy hxy' hxs.1, ih hrest hxs.2]

theorem following_congr (separator : String) {text : α → String} {xs ys : List α}
    (h : xs.map text = ys.map text) :
    following separator text xs = following separator text ys := by
  have hmap (zs : List α) : following separator text zs = following separator id (zs.map text) := by
    induction zs with
    | nil => rfl
    | cons z zs ih => rw [List.map_cons, following, following, ih, id]
  rw [hmap xs, hmap ys, h]

theorem series_congr (lead separator : String) {text : α → String} {xs ys : List α}
    (h : xs.map text = ys.map text) :
    series lead separator text xs = series lead separator text ys := by
  match xs, ys with
  | [], [] => rfl
  | [], _ :: _ | _ :: _, [] => simp at h
  | x :: xs, y :: ys =>
    rw [List.map_cons, List.map_cons, List.cons.injEq] at h
    rw [series, series, h.1, following_congr separator h.2]

/-! ## Names -/

variable {tablespace tablespace' : String} {scope scope' : List String}

/-- The text of a folded name with its qualifier; an empty qualifier is none. -/
def foldedText (qualifier name : String) : String :=
  if upper qualifier = "" then upper name else upper qualifier ++ "." ++ upper name

/-- The text without the dot at its head, if there is one. -/
def undotted (t : String) : String :=
  match t.toList with
  | '.' :: cs => String.ofList cs
  | _ => t

theorem Ident.text_folded {name : String} {i : Ident .folded} (h : Ident.of .folded name = .ok i) :
    i.text = upper name := by
  rw [Ident.text, Ident.of_name h]

theorem qualifiedText_folded {qualifier name : String} {q : Option (Ident .folded)}
    {i : Ident .folded} (hi : Ident.of .folded name = .ok i)
    (hq : (qualifier = "" ∧ q = none) ∨ ∃ j, q = some j ∧ Ident.of .folded qualifier = .ok j) :
    qualifiedText q i = foldedText qualifier name := by
  obtain ⟨rfl, rfl⟩ | ⟨j, rfl, hj⟩ := hq
  · rw [qualifiedText, foldedText, if_pos (upper_eq_empty_iff.mpr rfl), Ident.text_folded hi]
  · have hne : upper qualifier ≠ "" := by
      rw [← Ident.text_folded hj]
      exact (Ident.of_checked hj).text_ne
    rw [qualifiedText, foldedText, if_neg hne, Ident.text_folded hi, Ident.text_folded hj]

theorem TableName.text_folded {table : String} {n : TableName .folded}
    (h : TableName.of .folded tablespace table = .ok n) : n.text = foldedText tablespace table :=
  qualifiedText_folded (TableName.of_parts h).1 (TableName.of_parts h).2

/-- The form of a plain word does not begin with a dot. -/
theorem undotted_folded {name : String} {i : Ident .folded} (h : Ident.of .folded name = .ok i)
    (rest : String) : undotted (upper name ++ rest) = upper name ++ rest := by
  have hchecked := Ident.of_checked h
  have hne := hchecked.text_ne
  have hwords := hchecked.keepsWord
  rw [Ident.text_folded h] at hne hwords
  have hdot : ∀ cs, (upper name ++ rest).toList ≠ '.' :: cs := by
    intro cs hcs
    rw [String.toList_append] at hcs
    cases hname : (upper name).toList with
    | nil => exact hne (String.toList_eq_nil_iff.mp hname)
    | cons d ds =>
      rw [hname, List.cons_append, List.cons.injEq] at hcs
      have hword := hwords d (by simp [hname])
      rw [hcs.1] at hword
      revert hword
      decide
  unfold undotted
  split
  next cs hcs => exact absurd hcs (hdot cs)
  next => rfl

theorem undotted_dot (t : String) : undotted ("." ++ t) = t := by
  have hhead : ("." ++ t).toList = '.' :: t.toList := by
    rw [String.toList_append]
    rfl
  simp only [undotted, hhead, String.ofList_toList]

theorem ColumnName.text_folded {reference : String} {n : ColumnName .folded}
    (h : ColumnName.of .folded scope reference = .ok n) : n.text = undotted (upper reference) := by
  rw [ColumnName.text_eq]
  obtain ⟨hnone, hwhole⟩ | ⟨qualifier, column, rfl, hqualified⟩ := ColumnName.of_ok h
  · have htext := undotted_folded hwhole ""
    rw [String.append_empty] at htext
    rw [hnone, qualifiedText, Ident.text_folded hwhole, htext]
  · have hdot : upper "." = "." := by decide
    obtain ⟨hcolumn, hqualifier⟩ := ColumnName.qualified_ok hqualified
    rw [qualifiedText_folded hcolumn hqualifier, foldedText, upper_append, upper_append, hdot]
    split
    next hempty => rw [hempty, String.empty_append, undotted_dot]
    next hne =>
      obtain ⟨rfl, -⟩ | ⟨q, -, hq⟩ := hqualifier
      · exact absurd (upper_eq_empty_iff.mpr rfl) hne
      · rw [String.append_assoc, undotted_folded hq]

theorem TableName.text_congr {table table' : String} {n n' : TableName .folded}
    (h : TableName.of .folded tablespace table = .ok n)
    (h' : TableName.of .folded tablespace' table' = .ok n')
    (hspace : upper tablespace = upper tablespace') (htable : upper table = upper table') :
    n.text = n'.text := by
  rw [TableName.text_folded h, TableName.text_folded h', foldedText, foldedText, hspace, htable]

theorem ColumnName.text_congr {reference reference' : String} {n n' : ColumnName .folded}
    (h : ColumnName.of .folded scope reference = .ok n)
    (h' : ColumnName.of .folded scope' reference' = .ok n')
    (href : upper reference = upper reference') : n.text = n'.text := by
  rw [ColumnName.text_folded h, ColumnName.text_folded h', href]

theorem Ident.texts_congr {names names' : List String} {is is' : List (Ident .folded)}
    (h : List.Forall₂ (fun n i => Ident.of .folded n = .ok i) names is)
    (h' : List.Forall₂ (fun n i => Ident.of .folded n = .ok i) names' is')
    (hnames : names.map upper = names'.map upper) : is.map Ident.text = is'.map Ident.text := by
  refine map_eq_of_forall₂ (fun _ _ _ _ hi hi' hname => ?_) h h' hnames
  rw [Ident.text_folded hi, Ident.text_folded hi', hname]

/-! ## Clauses -/

theorem columnList_congr {ns ns' : List (ColumnName .folded)}
    (h : ns.map ColumnName.text = ns'.map ColumnName.text) : columnList ns = columnList ns' := by
  match ns, ns' with
  | [], [] => rfl
  | [], _ :: _ | _ :: _, [] => simp at h
  | _ :: _, _ :: _ => exact series_congr _ _ h

theorem Projection.ofColumns_all : Projection.all.OfColumns := nofun

theorem Projection.ofColumns_columns (references : List String) :
    (Projection.columns references).OfColumns := nofun

theorem Selection.listText_ofColumns {p p' : Projection} {s s' : Selection .folded}
    (hof : p.OfColumns) (hof' : p'.OfColumns) (h : Selection.of .folded scope p = .ok s)
    (h' : Selection.of .folded scope' p' = .ok s')
    (hrefs : p.references.map upper = p'.references.map upper) : s.listText = s'.listText := by
  obtain ⟨hnames, hlist⟩ := Selection.of_ok hof h
  obtain ⟨hnames', hlist'⟩ := Selection.of_ok hof' h'
  have htexts : s.names.map ColumnName.text = s'.names.map ColumnName.text := by
    refine map_eq_of_forall₂ (fun _ _ _ _ hn hn' href => ?_) hnames hnames' hrefs
    exact ColumnName.text_congr hn hn' href
  rw [listText_eq hlist, listText_eq hlist', columnList_congr htexts]

theorem Selection.listText_congr {p p' : Projection} {s s' : Selection .folded}
    (h : Selection.of .folded scope p = .ok s) (h' : Selection.of .folded scope' p' = .ok s')
    (hp : p.upperNames = p'.upperNames) : s.listText = s'.listText := by
  match p, p', hp with
  | .all, .all, _ =>
    exact listText_ofColumns Projection.ofColumns_all Projection.ofColumns_all h h' rfl
  | .columns rs, .columns rs', hp =>
    exact listText_ofColumns (Projection.ofColumns_columns rs)
      (Projection.ofColumns_columns rs') h h' (Projection.columns.inj hp)
  | .expression text, .expression text', hp =>
    cases h
    cases h'
    exact Projection.expression.inj hp

theorem JoinSpec.alias?_upperNames (j : JoinSpec) : j.upperNames.alias? = j.alias?.map upper := by
  unfold JoinSpec.alias?
  rw [JoinSpec.upperNames, Option.filter_map]
  congr 2
  funext a
  simp [upper_eq_empty_iff]

theorem Join.text_congr {spec spec' : JoinSpec} {j j' : Join .folded}
    (h : Join.of .folded tablespace scope spec = .ok j)
    (h' : Join.of .folded tablespace' scope' spec' = .ok j')
    (hspace : upper tablespace = upper tablespace') (hspec : spec.upperNames = spec'.upperNames) :
    j.text = j'.text := by
  obtain ⟨hkind, htable, halias, -, hconditions⟩ := Join.of_ok h
  obtain ⟨hkind', htable', halias', -, hconditions'⟩ := Join.of_ok h'
  have hkinds : j.kind = j'.kind := by
    rw [hkind, hkind']
    exact congrArg (·.kind) hspec
  have htables : j.table.text = j'.table.text :=
    TableName.text_congr htable htable' hspace (congrArg JoinSpec.table hspec)
  have haliases : j.aliasName.toList.map Ident.text = j'.aliasName.toList.map Ident.text := by
    have hupper (a : Option (Ident .folded)) :
        a.toList.map Ident.text = ((a.map Ident.name).map upper).toList := by
      cases a <;> rfl
    rw [hupper, hupper, halias, halias']
    rw [← JoinSpec.alias?_upperNames, ← JoinSpec.alias?_upperNames, hspec]
  have hpairs : j.conditions.map conditionText = j'.conditions.map conditionText := by
    refine map_eq_of_forall₂ (fun _ _ _ _ hpair hpair' hrefs => ?_) hconditions hconditions'
      (congrArg JoinSpec.conditions hspec)
    obtain ⟨hleft, hright⟩ := Prod.mk.inj hrefs
    rw [conditionText, ColumnName.text_congr hpair.1 hpair'.1 hleft,
      ColumnName.text_congr hpair.2 hpair'.2 hright, conditionText]
  rw [text_eq, text_eq, hkinds, htables, following_congr _ haliases, series_congr _ _ hpairs]

/-- Predicates on columns of one form have one text and bind the same operands. -/
theorem Predicate.texts_congr {filters filters' : List (String × Filter)}
    {ps ps' : List (Predicate .folded)} (h : Predicate.of .folded scope filters = .ok ps)
    (h' : Predicate.of .folded scope' filters' = .ok ps')
    (hfilters : filters.map (fun f => (upper f.1, f.2)) = filters'.map fun f => (upper f.1, f.2)) :
    ps.map Predicate.text = ps'.map Predicate.text ∧ operands ps = operands ps' := by
  have hoperands (qs : List (Predicate .folded)) :
    operands qs = (qs.map operand?).filterMap id := by
    rw [operands, List.filterMap_map]
    rfl
  refine ⟨map_eq_of_forall₂ (fun _ _ _ _ hp hp' hf => ?_) (of_ok h) (of_ok h') hfilters, ?_⟩
  · obtain ⟨hcolumn, hfilter⟩ := Prod.mk.inj hf
    rw [text, text, hp.2, hp'.2, hfilter, ColumnName.text_congr hp.1 hp'.1 hcolumn]
  · rw [hoperands, hoperands,
      map_eq_of_forall₂ (fun _ _ _ _ hp hp' hf => ?_) (of_ok h) (of_ok h') hfilters]
    rw [operand?, operand?, hp.2, hp'.2, (Prod.mk.inj hf).2]

theorem SortKey.texts_congr {sort sort' : List (String × SortDirection)}
    {ks ks' : List (SortKey .folded)}
    (h : List.Forall₂ (fun key k => SortKey.of .folded scope key = .ok k) sort ks)
    (h' : List.Forall₂ (fun key k => SortKey.of .folded scope' key = .ok k) sort' ks')
    (hsort : sort.map (fun k => (upper k.1, k.2)) = sort'.map fun k => (upper k.1, k.2)) :
    ks.map SortKey.text = ks'.map SortKey.text := by
  refine map_eq_of_forall₂ (fun _ _ _ _ hk hk' hkey => ?_) h h' hsort
  obtain ⟨hcolumn, hdirection⟩ := Prod.mk.inj hkey
  obtain ⟨hof, hdir⟩ := SortKey.of_ok hk
  obtain ⟨hof', hdir'⟩ := SortKey.of_ok hk'
  rw [text, text, ColumnName.text_congr hof hof' hcolumn, hdir, hdir', hdirection]

/-! ## Statements -/

theorem Row.upperNames_congr {row row' : Row} (h : row.upperNames = row'.upperNames) :
    row.names.map upper = row'.names.map upper ∧ row.values = row'.values := by
  have hnames (r : Row) : r.names.map upper = r.upperNames.map Prod.fst := by
    simp [Row.names, Row.upperNames]
  have hvalues (r : Row) : r.values = r.upperNames.map Prod.snd := by
    simp [Row.values, Row.upperNames]
  rw [hnames, hnames, hvalues, hvalues, h]
  exact ⟨rfl, rfl⟩

namespace Compiler

variable {space space' table table' : String} {criteria criteria' : Criteria} {row row' : Row}

theorem insert_congr {s s' : Insert .folded}
    (h : (Compiler.mk space .folded).resolveInsert table row = .ok s)
    (h' : (Compiler.mk space' .folded).resolveInsert table' row' = .ok s')
    (hspace : upper space = upper space') (htable : upper table = upper table')
    (hrow : row.upperNames = row'.upperNames) : s.statement = s'.statement := by
  obtain ⟨-, hname, hcolumns, hvalues⟩ := resolveInsert_ok h
  obtain ⟨-, hname', hcolumns', hvalues'⟩ := resolveInsert_ok h'
  obtain ⟨hnames, hsame⟩ := Row.upperNames_congr hrow
  have htables := TableName.text_congr hname hname' hspace htable
  have hlists := Ident.texts_congr hcolumns hcolumns' hnames
  have hmarks : s.columns.map (fun _ => placeholder) = s'.columns.map fun _ => placeholder := by
    rw [List.map_const', List.map_const', ← List.length_map Ident.text, hlists, List.length_map]
  rw [Insert.statement, Insert.statement, Insert.text_eq, Insert.text_eq, Insert.body, Insert.body,
    Insert.lead, Insert.lead, htables, series_congr _ _ hlists, series_congr _ _ hmarks, hvalues,
    hvalues', hsame]

theorem select_congr {p p' : Projection} {s s' : Select .folded}
    (h : (Compiler.mk space .folded).resolveSelect table criteria p = .ok s)
    (h' : (Compiler.mk space' .folded).resolveSelect table' criteria' p' = .ok s')
    (hspace : upper space = upper space') (htable : upper table = upper table')
    (hcriteria : criteria.upperNames = criteria'.upperNames) (hp : p.upperNames = p'.upperNames) :
    s.statement = s'.statement := by
  obtain ⟨hselection, hname, hjoins, hpredicates, hlimit, hoffset, horder⟩ := resolveSelect_ok h
  obtain ⟨hselection', hname', hjoins', hpredicates', hlimit', hoffset', horder'⟩ :=
    resolveSelect_ok h'
  have hlist := Selection.listText_congr hselection hselection' hp
  have htables := TableName.text_congr hname hname' hspace htable
  have hjoined : s.joins.map Join.text = s'.joins.map Join.text := by
    refine map_eq_of_forall₂ (fun _ _ _ _ hj hj' hspec => ?_) hjoins hjoins'
      (congrArg (·.joins) hcriteria)
    exact Join.text_congr hj hj' hspace hspec
  obtain ⟨hwhere, hoperands⟩ :=
    Predicate.texts_congr hpredicates hpredicates' (congrArg (·.filters) hcriteria)
  have hsorted := SortKey.texts_congr horder horder' (congrArg (·.sort) hcriteria)
  have hlimits : s.limit = s'.limit := by
    rw [hlimit, hlimit']
    exact congrArg (·.limit) hcriteria
  have hoffsets : s.offset = s'.offset := by
    rw [hoffset, hoffset']
    exact congrArg (·.offset) hcriteria
  rw [Select.statement, Select.statement, Select.text_eq, Select.text_eq, Select.body, Select.body,
    Select.tail, Select.tail, hlist, htables, following_congr _ hjoined, series_congr _ _ hwhere,
    hlimits, hoffsets, series_congr _ _ hsorted, hoperands]

theorem update_congr {s s' : Update .folded}
    (h : (Compiler.mk space .folded).resolveUpdate table criteria row = .ok s)
    (h' : (Compiler.mk space' .folded).resolveUpdate table' criteria' row' = .ok s')
    (hspace : upper space = upper space') (htable : upper table = upper table')
    (hcriteria : criteria.upperNames = criteria'.upperNames)
    (hrow : row.upperNames = row'.upperNames) : s.statement = s'.statement := by
  obtain ⟨-, hname, hcolumns, hvalues, hpredicates⟩ := resolveUpdate_ok h
  obtain ⟨-, hname', hcolumns', hvalues', hpredicates'⟩ := resolveUpdate_ok h'
  obtain ⟨hnames, hsame⟩ := Row.upperNames_congr hrow
  have htables := TableName.text_congr hname hname' hspace htable
  have hlists := Ident.texts_congr hcolumns hcolumns' hnames
  have hassigned : s.columns.map (fun c => c.text ++ " = " ++ placeholder) =
      s'.columns.map fun c => c.text ++ " = " ++ placeholder := by
    have hcomp (is : List (Ident .folded)) : is.map (fun c => c.text ++ " = " ++ placeholder) =
        (is.map Ident.text).map fun t => t ++ " = " ++ placeholder := by
      rw [List.map_map]
      rfl
    rw [hcomp, hcomp, hlists]
  obtain ⟨hwhere, hoperands⟩ :=
    Predicate.texts_congr hpredicates hpredicates' (congrArg (·.filters) hcriteria)
  rw [Update.statement, Update.statement, Update.text_eq, Update.text_eq, Update.body, Update.body,
    htables, series_congr _ _ hassigned, series_congr _ _ hwhere, hvalues,
    hvalues', hsame, hoperands]

theorem delete_congr {s s' : Delete .folded}
    (h : (Compiler.mk space .folded).resolveDelete table criteria = .ok s)
    (h' : (Compiler.mk space' .folded).resolveDelete table' criteria' = .ok s')
    (hspace : upper space = upper space') (htable : upper table = upper table')
    (hcriteria : criteria.upperNames = criteria'.upperNames) : s.statement = s'.statement := by
  obtain ⟨hname, hpredicates⟩ := resolveDelete_ok h
  obtain ⟨hname', hpredicates'⟩ := resolveDelete_ok h'
  have htables := TableName.text_congr hname hname' hspace htable
  obtain ⟨hwhere, hoperands⟩ :=
    Predicate.texts_congr hpredicates hpredicates' (congrArg (·.filters) hcriteria)
  rw [Delete.statement, Delete.statement, Delete.text_eq, Delete.text_eq, Delete.body, Delete.body,
    htables, series_congr _ _ hwhere, hoperands]

/-- Counts whose criteria differ in case are one statement, whatever they count. -/
theorem count_congr {expression : Option String} {s s' : Statement}
    (h : (Compiler.mk space .folded).count table criteria expression = .ok s)
    (h' : (Compiler.mk space' .folded).count table' criteria' expression = .ok s')
    (hspace : upper space = upper space') (htable : upper table = upper table')
    (hcriteria : criteria.upperNames = criteria'.upperNames) : s = s' := by
  obtain ⟨total, q, htotal, hq, rfl⟩ := count_ok h
  obtain ⟨total', q', htotal', hq', rfl⟩ := count_ok h'
  cases htotal.symm.trans htotal'
  exact select_congr hq hq' hspace htable hcriteria rfl

theorem compile_congr {r r' : Request} {s s' : Statement} (hr : r.SameButCase r')
    (hspace : upper space = upper space') (h : (Compiler.mk space .folded).compile r = .ok s)
    (h' : (Compiler.mk space' .folded).compile r' = .ok s') : s = s' := by
  cases hr with
  | create htable hrow =>
    obtain ⟨i, hi, rfl⟩ := map_eq_ok_iff.mp h
    obtain ⟨i', hi', rfl⟩ := map_eq_ok_iff.mp h'
    exact insert_congr hi hi' hspace htable hrow
  | find htable hcriteria =>
    obtain ⟨q, hq, rfl⟩ := map_eq_ok_iff.mp h
    obtain ⟨q', hq', rfl⟩ := map_eq_ok_iff.mp h'
    exact select_congr hq hq' hspace htable hcriteria (congrArg (·.projection) hcriteria)
  | count htable hcriteria => exact count_congr h h' hspace htable hcriteria
  | update htable hcriteria hrow =>
    obtain ⟨u, hu, rfl⟩ := map_eq_ok_iff.mp h
    obtain ⟨u', hu', rfl⟩ := map_eq_ok_iff.mp h'
    exact update_congr hu hu' hspace htable hcriteria hrow
  | delete htable hcriteria =>
    obtain ⟨d, hd, rfl⟩ := map_eq_ok_iff.mp h
    obtain ⟨d', hd', rfl⟩ := map_eq_ok_iff.mp h'
    exact delete_congr hd hd' hspace htable hcriteria
  | identityInsert htable =>
    obtain ⟨sql, hsql, rfl⟩ := map_eq_ok_iff.mp h
    obtain ⟨sql', hsql', rfl⟩ := map_eq_ok_iff.mp h'
    obtain ⟨n, hn, rfl⟩ := map_eq_ok_iff.mp hsql
    obtain ⟨n', hn', rfl⟩ := map_eq_ok_iff.mp hsql'
    rw [IdentityInsert.text, IdentityInsert.text, TableName.text_congr hn hn' hspace htable]

end Compiler

end RowFerry
