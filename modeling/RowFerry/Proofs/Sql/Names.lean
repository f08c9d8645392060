import RowFerry.Proofs.Sql.Bare
import RowFerry.Proofs.Sql.Folding

/-!
The texts of checked names are fragments without placeholders and without dangerous characters. In
quotes nothing is bare, because the double quotes of a name are written twice. A folded name is a
plain word, and upper-casing keeps words.
-/

namespace RowFerry

variable {style : NameStyle}

theorem Unicode.KeepsWord.plain {c : Char} (h : KeepsWord c) : c ≠ '"' ∧ c ∉ '?' :: dangerous := by
  have hnone : ('"' :: '?' :: dangerous).all (fun d => ¬ KeepsWord d) = true := by decide
  have hc : c ∉ '"' :: '?' :: dangerous := fun hmem =>
    of_decide_eq_true (List.all_eq_true.mp hnone c hmem) h
  exact not_or.mp (List.mem_cons.not.mp hc)

namespace Ident

/-- Reading the doubled characters of a name stays inside it. -/
theorem bareFrom_doubled (cs before : List Char) : bareFrom true before (doubled cs) = [] := by
  induction cs generalizing before with
  | nil => rfl
  | cons c cs ih =>
    rw [doubled, List.flatMap_cons, ← doubled]
    split
    · simp [bareFrom, ih]
    next hc => simp [bareFrom, hc, ih]

theorem endsInside_doubled (cs : List Char) : endsInside true (doubled cs) = true := by
  induction cs with
  | nil => rfl
  | cons c cs ih =>
    rw [doubled, List.flatMap_cons, ← doubled]
    split
    · simp [endsInside, ih]
    next hc => simp [endsInside, hc, ih]

theorem quoted_fragment (i : Ident .quoted) (excluded : List Char) :
    Fragment .quoted excluded i.text where
  closed := by
    have hdoubled := endsInside_doubled i.name.toList
    simp [Closed, text, endsInside, endsInside_append, hdoubled]
  bare_not_mem := by
    have hbare : bare i.text = [] := by
      have hdoubled := bareFrom_doubled i.name.toList ['"']
      simp [bare, text, bareFrom, bareFrom_append, hdoubled]
    simp [hbare]
  unquoted := by simp

theorem Checked.keepsWord {i : Ident .folded} (h : i.Checked) :
    ∀ d ∈ i.text.toList, Unicode.KeepsWord d := by
  intro d hd
  rw [text, Unicode.upper, String.toList_ofList] at hd
  obtain ⟨c, hc, hform⟩ := List.mem_flatMap.mp hd
  exact Unicode.upperForm_keepsWord (Unicode.plainWord_continues h.plainWord c hc) hform

theorem Checked.fragment {i : Ident style} (h : i.Checked) :
    Fragment style ('?' :: dangerous) i.text := by
  cases style with
  | quoted => exact quoted_fragment i _
  | folded => exact Fragment.plain fun d hd => Unicode.KeepsWord.plain (h.keepsWord d hd)

/-- A checked name is written with some character. -/
theorem Checked.text_ne {i : Ident style} (h : i.Checked) : i.text ≠ "" := by
  cases style with
  | quoted => simp [text]
  | folded =>
    have hword := h.plainWord
    cases hname : i.name.toList with
    | nil =>
      rw [hname] at hword
      cases hword
    | cons c cs => simp [text, Unicode.upper, hname, Unicode.upperForm_ne_nil c]

end Ident

theorem qualified_fragment {q : Option (Ident style)} {i : Ident style}
    (hq : ∀ q' ∈ q, q'.Checked) (hi : i.Checked) :
    Fragment style ('?' :: dangerous) (qualifiedText q i) := by
  cases q with
  | none => exact hi.fragment
  | some q => exact ((hq q rfl).fragment.append (Fragment.plain (by decide))).append hi.fragment

theorem TableName.Checked.fragment {n : TableName style} (h : n.Checked) :
    Fragment style ('?' :: dangerous) n.text :=
  qualified_fragment h.2 h.1

theorem TableName.Checked.text_ne {n : TableName style} (h : n.Checked) : n.text ≠ "" := by
  cases hs : n.tablespace with
  | none => simpa [TableName.text, hs] using h.1.text_ne
  | some s => simp [TableName.text, hs]

theorem ColumnName.Checked.fragment {n : ColumnName style} (h : n.Checked) :
    Fragment style ('?' :: dangerous) n.text :=
  qualified_fragment h.2 h.1

end RowFerry
