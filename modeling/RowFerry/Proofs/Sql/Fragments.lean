import RowFerry.Proofs.Sql.Names

/-!
Clauses and statements as fragments. A clause whose names are checked has nothing dangerous in it,
and predicates are the only clauses of a query with placeholders.
-/

namespace RowFerry

variable {style : NameStyle}

/-! ## Clauses -/

/-- Every name of a join is checked. -/
def Join.Checked (j : Join style) : Prop :=
  j.table.Checked ∧ (∀ a ∈ j.aliasName, a.Checked) ∧ ∀ p ∈ j.conditions, p.1.Checked ∧ p.2.Checked

theorem Join.of_checked {tablespace : String} {scope : List String}
    {spec : JoinSpec} {j : Join style}
    (h : Join.of style tablespace scope spec = .ok j) : j.Checked := by
  obtain ⟨-, htable, -, halias, hconditions⟩ := Join.of_ok h
  refine ⟨(TableName.of_ok htable).2, halias, ?_⟩
  exact forall₂_right (fun _ _ h => ⟨ColumnName.of_checked h.1, ColumnName.of_checked h.2⟩)
    hconditions

theorem JoinKind.keyword_fragment (kind : JoinKind) :
    Fragment style ('?' :: dangerous) kind.keyword := by
  cases kind <;> exact Fragment.plain (by decide)

theorem Join.Checked.fragment {j : Join style} (h : j.Checked) :
    Fragment style ('?' :: dangerous) j.text := by
  obtain ⟨htable, halias, hconditions⟩ := h
  rw [Join.text_eq]
  refine j.kind.keyword_fragment.append (.append (.plain (by decide)) (htable.fragment.append ?_))
  refine .append (.following (.plain (by decide)) fun a ha => ?_) (.append (.plain (by decide)) ?_)
  · exact (halias a (by simpa using ha)).fragment
  · refine .series (.plain (by decide)) (.plain (by decide)) fun p hp => ?_
    exact ((hconditions p hp).1.fragment.append (.plain (by decide))).append
      (hconditions p hp).2.fragment

theorem SortKey.fragment {k : SortKey style} (h : k.column.Checked) :
    Fragment style ('?' :: dangerous) k.text := by
  refine (h.fragment.append (.plain (by decide))).append ?_
  cases k.direction <;> exact .plain (by decide)

theorem columnList_fragment {names : List (ColumnName style)} (h : ∀ n ∈ names, n.Checked) :
    Fragment style ('?' :: dangerous) (columnList names) := by
  match names with
  | [] =>
    have hall : Fragment style ('?' :: dangerous) "*" := .plain (by decide)
    exact hall
  | n :: ns => exact .series (.plain (by decide)) (.plain (by decide)) fun m hm => (h m hm).fragment

theorem uint64Text_fragment (n : UInt64) : Fragment style ('?' :: dangerous) (uint64Text n) := by
  refine .plain fun c hc => Unicode.KeepsWord.plain ?_
  rw [uint64Text, natText, String.toList_ofList] at hc
  have hdigit := Nat.isDigit_of_mem_toDigits (by decide) (by decide) hc
  exact .inr (.inl (by simp [Char.isAlphanum, hdigit]))

namespace Predicate

/-- The text of a predicate up to its placeholder. -/
def lead (p : Predicate style) (c : Comparison) : String := p.column.text ++ " " ++ c.symbol ++ " "

theorem lead_fragment {p : Predicate style} (h : p.column.Checked) (c : Comparison) :
    Fragment style ('?' :: dangerous) (p.lead c) := by
  have hsymbol : Fragment style ('?' :: dangerous) c.symbol := by
    cases c <;> exact .plain (by decide)
  exact ((h.fragment.append (.plain (by decide))).append hsymbol).append (.plain (by decide))

theorem placeholder_fragment : Fragment style dangerous placeholder := .plain (by decide)

theorem fragment {p : Predicate style} (h : p.column.Checked) :
    Fragment style dangerous p.text := by
  unfold text
  split
  next c _ _ =>
    exact ((lead_fragment h c).mono (List.subset_cons_self _ _)).append placeholder_fragment
  · exact (h.fragment.mono (List.subset_cons_self _ _)).append (.plain (by decide))
  · exact (h.fragment.mono (List.subset_cons_self _ _)).append (.plain (by decide))

theorem placeholders_placeholder : placeholders placeholder = [""] := by decide

/-- Only a comparison with an operand has a placeholder, which stands at its end. -/
theorem placeholders_text {p : Predicate style} (h : p.column.Checked) :
    placeholders p.text = match p.test with
      | .holds c _ => [p.lead c]
      | _ => [] := by
  unfold text
  split
  next c _ htest =>
    have hlead := lead_fragment h c
    rw [htest, ← lead, placeholders_append hlead.closed,
      hlead.placeholders_eq_nil List.mem_cons_self, placeholders_placeholder]
    simp
  next htest =>
    rw [htest]
    exact (h.fragment.append (.plain (by decide))).placeholders_eq_nil List.mem_cons_self
  next htest =>
    rw [htest]
    exact (h.fragment.append (.plain (by decide))).placeholders_eq_nil List.mem_cons_self

end Predicate

/-- The clause of predicates whose columns are checked. -/
theorem where_fragment {ps : List (Predicate style)} (h : ∀ p ∈ ps, p.column.Checked) :
    Fragment style dangerous (series " WHERE " " AND " Predicate.text ps) :=
  .series (.plain (by decide)) (.plain (by decide)) fun p hp => Predicate.fragment (h p hp)

/-! ## Statements

Each text of a statement with predicates is split at them: only the predicates, and the columns that
a change sets, bring placeholders. -/

namespace Insert

/-- Every name of a new row is checked. -/
structure Checked (s : Insert style) : Prop where
  table : s.table.Checked
  columns : ∀ c ∈ s.columns, c.Checked

variable {s : Insert style}

theorem Checked.lead_fragment (h : s.Checked) : Fragment style ('?' :: dangerous) s.lead := by
  refine .append (.plain (by decide)) (h.table.fragment.append (.append (.plain (by decide)) ?_))
  refine .append (.series (.plain (by decide)) (.plain (by decide)) fun c hc => ?_)
    (.plain (by decide))
  exact (h.columns c hc).fragment

theorem Checked.fragment (h : s.Checked) : Fragment style dangerous s.body := by
  refine .append (h.lead_fragment.mono (List.subset_cons_self _ _)) ?_
  exact .append (.series (.plain (by decide)) (.plain (by decide)) fun _ _ =>
    Predicate.placeholder_fragment) (.plain (by decide))

end Insert

namespace Select

/-- Every name of a query is checked, and so is the list that it returns. -/
structure Checked (s : Select style) : Prop where
  list : Fragment style ('?' :: dangerous) s.selection.listText
  table : s.table.Checked
  joins : ∀ j ∈ s.joins, j.Checked
  predicates : ∀ p ∈ s.predicates, p.column.Checked
  order : ∀ k ∈ s.order, k.column.Checked

/-- What stands before the predicates in a query. -/
def front (s : Select style) : String :=
  "SELECT " ++ (s.selection.listText ++
    (" FROM " ++ (s.table.text ++ following " " Join.text s.joins)))

/-- What follows the predicates in a query. -/
def back (s : Select style) : String :=
  following " LIMIT " uint64Text s.limit.toList ++
    (following " OFFSET " uint64Text s.offset.toList ++
      series " ORDER BY " ", " SortKey.text s.order)

theorem body_eq_front (s : Select style) :
    s.body = s.front ++ (series " WHERE " " AND " Predicate.text s.predicates ++ s.back) := by
  simp only [body, tail, front, back, String.append_assoc]

variable {s : Select style}

theorem Checked.front_fragment (h : s.Checked) : Fragment style ('?' :: dangerous) s.front := by
  refine .append (.plain (by decide)) (h.list.append (.append (.plain (by decide)) ?_))
  exact h.table.fragment.append
    (.following (.plain (by decide)) fun j hj => (h.joins j hj).fragment)

theorem Checked.back_fragment (h : s.Checked) : Fragment style ('?' :: dangerous) s.back := by
  refine .append (.following (.plain (by decide)) fun n _ => uint64Text_fragment n) (.append ?_ ?_)
  · exact .following (.plain (by decide)) fun n _ => uint64Text_fragment n
  · exact .series (.plain (by decide)) (.plain (by decide)) fun k hk =>
      SortKey.fragment (h.order k hk)

theorem Checked.fragment (h : s.Checked) : Fragment style dangerous s.body := by
  rw [body_eq_front]
  exact .append (h.front_fragment.mono (List.subset_cons_self _ _))
    (.append (where_fragment h.predicates) (h.back_fragment.mono (List.subset_cons_self _ _)))

end Select

namespace Update

/-- Every name of a change is checked. -/
structure Checked (s : Update style) : Prop where
  table : s.table.Checked
  columns : ∀ c ∈ s.columns, c.Checked
  predicates : ∀ p ∈ s.predicates, p.column.Checked

/-- The text that sets a column up to its placeholder. -/
def setLead (c : Ident style) : String := c.text ++ " = "

/-- What stands before the predicates in a change. -/
def front (s : Update style) : String :=
  "UPDATE " ++ (s.table.text ++
    series " SET " ", " (fun c : Ident style => setLead c ++ placeholder) s.columns)

variable {s : Update style}

theorem body_eq_front (h : s.columns ≠ []) :
    s.body = s.front ++ series " WHERE " " AND " Predicate.text s.predicates := by
  rw [body, front, ← series_lead " SET " ", " _ h]
  simp only [String.append_assoc, setLead]

theorem setLead_fragment {c : Ident style} (h : c.Checked) :
    Fragment style ('?' :: dangerous) (setLead c) :=
  h.fragment.append (.plain (by decide))

theorem Checked.front_fragment (h : s.Checked) : Fragment style dangerous s.front := by
  refine .append (.plain (by decide))
    (.append (h.table.fragment.mono (List.subset_cons_self _ _)) ?_)
  refine .series (.plain (by decide)) (.plain (by decide)) fun c hc => ?_
  exact ((setLead_fragment (h.columns c hc)).mono (List.subset_cons_self _ _)).append
    Predicate.placeholder_fragment

theorem Checked.fragment (h : s.Checked) (hne : s.columns ≠ []) :
    Fragment style dangerous s.body := by
  rw [body_eq_front hne]
  exact h.front_fragment.append (where_fragment h.predicates)

end Update

namespace Delete

/-- Every name of a removal is checked. -/
structure Checked (s : Delete style) : Prop where
  table : s.table.Checked
  predicates : ∀ p ∈ s.predicates, p.column.Checked

/-- What stands before the predicates in a removal. -/
def front (s : Delete style) : String := "DELETE" ++ (" FROM " ++ s.table.text)

theorem body_eq_front (s : Delete style) :
    s.body = s.front ++ series " WHERE " " AND " Predicate.text s.predicates := by
  simp only [body, front, String.append_assoc]

variable {s : Delete style}

theorem Checked.front_fragment (h : s.Checked) : Fragment style ('?' :: dangerous) s.front :=
  .append (.plain (by decide)) (.append (.plain (by decide)) h.table.fragment)

theorem Checked.fragment (h : s.Checked) : Fragment style dangerous s.body := by
  rw [body_eq_front]
  exact (h.front_fragment.mono (List.subset_cons_self _ _)).append (where_fragment h.predicates)

end Delete

theorem IdentityInsert.fragment {s : IdentityInsert style} (h : s.table.Checked) :
    Fragment style ('?' :: dangerous) s.body := by
  have hlead : Fragment style ('?' :: dangerous) lead := .plain (by decide)
  have hsegment : Fragment style ('?' :: dangerous) (segment s.table.text) := by
    unfold segment
    split
    · exact .plain (by decide)
    · exact .append (.plain (by decide)) h.fragment
  have hword : Fragment style ('?' :: dangerous) s.word := by
    unfold word
    split <;> exact .plain (by decide)
  exact hlead.append (hsegment.append hword)

/-! ## Compiled statements -/

namespace Compiler

variable {c : Compiler} {table : String} {criteria : Criteria} {row : Row}

theorem resolveInsert_checked {s : Insert c.style} (h : c.resolveInsert table row = .ok s) :
    s.Checked := by
  obtain ⟨-, hname, hcolumns, -⟩ := resolveInsert_ok h
  exact ⟨(TableName.of_ok hname).2, forall₂_right (fun _ _ h => Ident.of_checked h) hcolumns⟩

theorem predicates_checked {scope : List String} {filters : List (String × Filter)}
    {ps : List (Predicate style)} (h : Predicate.of style scope filters = .ok ps) :
    ∀ p ∈ ps, p.column.Checked :=
  forall₂_right (fun _ _ h => ColumnName.of_checked h.1) (Predicate.of_ok h)

/-- Only the list of a query can be written by the caller; every other name is checked. -/
theorem resolveSelect_checked {projection : Projection} {s : Select c.style}
    (h : c.resolveSelect table criteria projection = .ok s)
    (hlist : Fragment c.style ('?' :: dangerous) s.selection.listText) : s.Checked := by
  obtain ⟨-, hname, hjoins, hpredicates, -, -, horder⟩ := resolveSelect_ok h
  refine ⟨hlist, (TableName.of_ok hname).2, ?_, predicates_checked hpredicates, ?_⟩
  · exact forall₂_right (fun _ _ h => Join.of_checked h) hjoins
  · exact forall₂_right (fun _ _ h => ColumnName.of_checked (SortKey.of_ok h).1) horder

theorem find_checked (hcolumns : criteria.projection.OfColumns) {s : Select c.style}
    (h : c.resolveSelect table criteria criteria.projection = .ok s) : s.Checked := by
  obtain ⟨hnames, hselection⟩ := Selection.of_ok hcolumns (resolveSelect_ok h).1
  refine resolveSelect_checked h ?_
  rw [Selection.listText_eq hselection]
  exact columnList_fragment (forall₂_right (fun _ _ h => ColumnName.of_checked h) hnames)

theorem count_checked {total : Ident c.style} (htotal : Ident.of c.style countColumn = .ok total)
    {s : Select c.style} (h : c.resolveSelect table criteria
      (.expression (countRows ++ " AS " ++ total.text)) = .ok s) : s.Checked := by
  have hselection := Except.ok.inj (resolveSelect_ok h).1
  refine resolveSelect_checked h ?_
  rw [← hselection]
  exact .append (.plain (by decide)) (Ident.of_checked htotal).fragment

theorem resolveUpdate_checked {s : Update c.style}
    (h : c.resolveUpdate table criteria row = .ok s) :
    s.Checked ∧ s.columns ≠ [] := by
  obtain ⟨hne, hname, hcolumns, -, hpredicates⟩ := resolveUpdate_ok h
  refine ⟨⟨(TableName.of_ok hname).2, ?_, predicates_checked hpredicates⟩, ?_⟩
  · exact forall₂_right (fun _ _ h => Ident.of_checked h) hcolumns
  · intro hnil
    rw [hnil] at hcolumns
    exact hne (List.forall₂_nil_right_iff.mp hcolumns)

theorem resolveDelete_checked {s : Delete c.style} (h : c.resolveDelete table criteria = .ok s) :
    s.Checked := by
  obtain ⟨hname, hpredicates⟩ := resolveDelete_ok h
  exact ⟨(TableName.of_ok hname).2, predicates_checked hpredicates⟩

end Compiler

end RowFerry
