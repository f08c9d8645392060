import RowFerry.Proofs.Sql.Acceptance
import RowFerry.Proofs.Sql.Meaning
import RowFerry.Proofs.Sql.Names

/-!
How references meet the scope. A qualifier that is written in a query is the text of a table or of
an alias of the same query. Which part of a reference is its qualifier is decided at the first dot,
so a name in scope that has a dot of its own qualifies nothing.
-/

namespace RowFerry

variable {style : NameStyle} {scope : List String} {reference qualifier column : String}

/-! ## Refused names -/

/-- The name that an error is about; errors that are about no name are about the empty one. -/
def CompileError.refusedName : CompileError → String
  | nullByte name | tooLong name _ | notPlainWord name => name
  | _ => ""

theorem Ident.refusedName_of_error {name : String} {e : CompileError}
    (h : Ident.of style name = .error e) : e.refusedName = name := by
  have hcheck {e : CompileError} (hcheck : checkName name = .error e) : e.refusedName = name := by
    unfold checkName at hcheck
    split_ifs at hcheck with hempty hnul hlong <;> cases hcheck
    · exact (by simpa using hempty : name = "").symm
    · rfl
    · rfl
  unfold Ident.of at h
  split at h
  next hname =>
    cases h
    exact hcheck hname
  next =>
    cases style with
    | quoted => cases h
    | folded =>
      dsimp only at h
      split_ifs at h
      cases h
      rfl

/-- Names that are refused for the same reason are the same. -/
theorem Ident.eq_of_error {a b : String} {e : CompileError} (ha : Ident.of style a = .error e)
    (hb : Ident.of style b = .error e) : a = b :=
  (refusedName_of_error ha).symm.trans (refusedName_of_error hb)

/-- The column is checked before its qualifier. -/
theorem ColumnName.qualified_eq_error_iff {e : CompileError} :
    ColumnName.qualified style qualifier column = .error e ↔
      Ident.of style column = .error e ∨
        (style.Accepts column ∧ qualifier ≠ "" ∧ Ident.of style qualifier = .error e) := by
  unfold ColumnName.qualified
  cases hcolumn : Ident.of style column with
  | error f => simp [bind, Except.bind, NameStyle.not_accepts_of_error hcolumn]
  | ok c =>
    have haccepts : style.Accepts column := Ident.exists_of_iff.mp ⟨c, hcolumn⟩
    by_cases hempty : qualifier = ""
    · simp [hempty, bind, Except.bind, pure, Except.pure]
    · cases hqualifier : Ident.of style qualifier <;>
        simp [hempty, haccepts, bind, Except.bind, pure, Except.pure]

theorem NameStyle.Accepts.ne_empty {name : String} (h : style.Accepts name) : name ≠ "" := by
  rintro rfl
  have hnonempty := h.nonempty
  simp at hnonempty

/-- No name with a dot is folded. -/
theorem NameStyle.not_accepts_dotted {name : String} (h : '.' ∈ name.toList) :
    ¬ NameStyle.folded.Accepts name := by
  intro haccepts
  have hword := (isPlainWord_iff name).mpr (haccepts.plainWord rfl)
  have hdot := Unicode.plainWord_continues hword '.' h
  revert hdot
  decide

/-- The end of a name that can be quoted can be quoted. -/
theorem NameStyle.Accepts.suffix {front back : String}
    (h : NameStyle.quoted.Accepts (front ++ back)) (hne : back ≠ "") :
    NameStyle.quoted.Accepts back := by
  obtain ⟨-, hshort, hnul, -⟩ := h
  rw [String.utf8ByteSize_append] at hshort
  rw [String.toList_append, List.mem_append, not_or] at hnul
  constructor
  · rw [Nat.one_le_iff_ne_zero]
    simpa using hne
  · omega
  · exact hnul.2
  · intro hfolded
    cases hfolded

/-! ## Resolving by the scope -/

/-- A reference resolves as the scope says: a name in scope before a dot qualifies the column after
the dot, nothing before a dot qualifies nothing, and any other reference is the name of a column. -/
structure ResolvesByScope (style : NameStyle) (scope : List String)
    (reference : String) : Prop where
  qualified : ∀ qualifier column, reference = qualifier ++ "." ++ column → qualifier ≠ "" →
    style.InScope scope qualifier →
      (ColumnName.of style scope reference).map ColumnName.text =
        (ColumnName.qualified style qualifier column).map ColumnName.text
  unqualified : ∀ column, reference = "." ++ column →
    (ColumnName.of style scope reference).map ColumnName.text =
      (Ident.of style column).map Ident.text
  whole : (∀ qualifier column, reference = qualifier ++ "." ++ column →
      qualifier ≠ "" ∧ ¬ style.InScope scope qualifier) →
    (ColumnName.of style scope reference).map ColumnName.text =
      (Ident.of style reference).map Ident.text

/-- Cutting at the first dot and cutting after the qualifier are refused alike: what follows the
first dot is the qualifier once more, and it is refused. -/
def RefusedAlike (style : NameStyle) (scope : List String) (qualifier column : String) : Prop :=
  ¬ style.Accepts qualifier ∧ style.Accepts column ∧
    ∃ first, '.' ∉ first.toList ∧ style.InScope scope first ∧
      first ++ "." ++ qualifier = qualifier ++ "." ++ column

theorem exists_first_dot {t : String} (h : '.' ∈ t.toList) :
    ∃ first rest, t = first ++ "." ++ rest ∧ '.' ∉ first.toList := by
  obtain ⟨first, rest, ht, hfirst⟩ := List.eq_append_cons_of_mem h
  refine ⟨String.ofList first, String.ofList rest, ?_, by simpa using hfirst⟩
  rw [← String.toList_inj, ht]
  simp

/-- A text has one first dot. -/
theorem first_dot_unique {t first rest first' rest' : String} (h : t = first ++ "." ++ rest)
    (hfirst : '.' ∉ first.toList) (h' : t = first' ++ "." ++ rest')
    (hfirst' : '.' ∉ first'.toList) :
    first = first' := by
  have hcut := cutAt_dot_iff.mpr ⟨h, hfirst⟩
  rw [cutAt_dot_iff.mpr ⟨h', hfirst'⟩, Option.some.injEq, Prod.mk.injEq] at hcut
  exact (String.toList_inj.mp hcut.1).symm

theorem length_dotted (front back : String) :
    (front ++ "." ++ back).length = front.length + 1 + back.length := by
  rw [String.length_append, String.length_append]
  rfl

/-- Where a text with a dot before it is the text with a column behind it, the column is empty. -/
theorem eq_empty_of_turned {t : String}
    (h : t ++ "." ++ column = "" ++ "." ++ t) : column = "" := by
  have hlength := congrArg String.length h
  rw [length_dotted, length_dotted, String.length_empty] at hlength
  rw [← String.length_eq_zero_iff]
  omega

theorem dotted_ne_empty {t : String} (h : '.' ∈ t.toList) : t ≠ "" := by
  rintro rfl
  simp at h

theorem ColumnName.map_text_eq {x y : Except CompileError (ColumnName style)}
    (h : x.map text = y.map text) :
    (∃ e, x = .error e ∧ y = .error e) ∨ ∃ n m, x = .ok n ∧ y = .ok m ∧ n.text = m.text := by
  cases x with
  | error e =>
    cases y with
    | error f => exact .inl ⟨e, rfl, congrArg _ (Except.error.inj h).symm⟩
    | ok m => cases h
  | ok n =>
    cases y with
    | error f => cases h
    | ok m => exact .inr ⟨n, m, rfl, rfl, Except.ok.inj h⟩

/-- Quoted names of one text are one name, and no other name has a dot in its column. -/
theorem ColumnName.eq_of_text {n m : ColumnName style} (haccepts : style.Accepts n.column.name)
    (hdot : '.' ∈ n.column.name.toList) (h : n.text = m.text) : n = m := by
  cases style with
  | folded => exact absurd haccepts (NameStyle.not_accepts_dotted hdot)
  | quoted =>
    have hread : ReadsBack ["\""] [";"] (text : ColumnName .quoted → String) id :=
      ColumnName.readsBack (by decide)
    have hend := Compiler.begins_semicolon
    exact (hread.determines hend hend (congrArg (· ++ ";") h)).1

/-- A longer column with a dot is not the column, whatever qualifies it. -/
theorem ColumnName.texts_ne {n m : ColumnName style} {longer : String}
    (hlonger : Ident.of style longer = .ok n.column) (hdot : '.' ∈ longer.toList)
    (hcolumn : Ident.of style column = .ok m.column) (hlength : column.length < longer.length) :
    n.text ≠ m.text := by
  intro htext
  have hname := Ident.of_name hlonger
  rw [← hname] at hdot
  have haccepts : style.Accepts n.column.name := by
    rw [hname]
    exact Ident.exists_of_iff.mp ⟨_, hlonger⟩
  have hsame := ColumnName.eq_of_text haccepts hdot htext
  have hnames : longer = column := by
    rw [← hname, hsame]
    exact Ident.of_name hcolumn
  rw [hnames] at hlength
  exact Nat.lt_irrefl _ hlength

/-- As the name of a column the reference is written in another way, or
refused for another reason. -/
theorem ColumnName.whole_ne_qualified (qualifier column : String) :
    ((Ident.of style (qualifier ++ "." ++ column)).map (ColumnName.mk none)).map text ≠
      (ColumnName.qualified style qualifier column).map text := by
  intro h
  rcases ColumnName.map_text_eq h with ⟨e, hwhole, hparts⟩ | ⟨n, m, hwhole, hparts, htext⟩
  · have herror : Ident.of style (qualifier ++ "." ++ column) = .error e := by
      cases hname : Ident.of style (qualifier ++ "." ++ column) <;> simp_all [Except.map]
    rcases ColumnName.qualified_eq_error_iff.mp hparts with hcolumn | ⟨-, -, hqualifier⟩
    · have hlength := congrArg String.length (Ident.eq_of_error herror hcolumn)
      rw [length_dotted] at hlength
      omega
    · have hlength := congrArg String.length (Ident.eq_of_error herror hqualifier)
      rw [length_dotted] at hlength
      omega
  · obtain ⟨i, hi, rfl⟩ := map_eq_ok_iff.mp hwhole
    refine ColumnName.texts_ne (n := ⟨none, i⟩) hi (by simp)
      (ColumnName.qualified_ok hparts).1 ?_ htext
    rw [length_dotted]
    omega

/-- Two qualifiers that cut the reference at different dots are refused
alike or not at all alike. -/
theorem ColumnName.refusedAlike_of_eq {first rest : String} (hfirst : '.' ∉ first.toList)
    (hknown : first = "" ∨ style.InScope scope first)
    (h : (ColumnName.qualified style first (rest ++ "." ++ column)).map text =
      (ColumnName.qualified style (first ++ "." ++ rest) column).map text) :
    RefusedAlike style scope (first ++ "." ++ rest) column := by
  rcases ColumnName.map_text_eq h with ⟨e, hlater, hparts⟩ | ⟨n, m, hlater, hparts, htext⟩
  · rcases ColumnName.qualified_eq_error_iff.mp hlater with hlater | ⟨hlater, hne, hfirstError⟩
    · rcases ColumnName.qualified_eq_error_iff.mp hparts with hcolumn | ⟨hcolumn, -, hqualifier⟩
      · have hlength := congrArg String.length (Ident.eq_of_error hlater hcolumn)
        rw [length_dotted] at hlength
        omega
      · have hsame : rest ++ "." ++ column = first ++ "." ++ rest :=
          Ident.eq_of_error hlater hqualifier
        refine ⟨NameStyle.not_accepts_of_error hqualifier, hcolumn, first, hfirst, ?_, ?_⟩
        · refine hknown.resolve_left ?_
          rintro rfl
          exact hcolumn.ne_empty (eq_empty_of_turned hsame)
        · calc first ++ "." ++ (first ++ "." ++ rest)
              = first ++ "." ++ (rest ++ "." ++ column) := by rw [hsame]
            _ = first ++ "." ++ rest ++ "." ++ column := by simp only [String.append_assoc]
    · rcases ColumnName.qualified_eq_error_iff.mp hparts with hcolumn | ⟨hcolumn, -, hqualifier⟩
      · -- The column is the first part, and it is accepted as the end of the rest.
        cases style with
        | folded => exact absurd hlater (NameStyle.not_accepts_dotted (by simp))
        | quoted =>
          have hsame := Ident.eq_of_error hfirstError hcolumn
          have haccepts := hlater.suffix (hsame ▸ hne)
          exact absurd haccepts (NameStyle.not_accepts_of_error hcolumn)
      · have hlength := congrArg String.length (Ident.eq_of_error hfirstError hqualifier)
        rw [length_dotted] at hlength
        omega
  · refine absurd htext (ColumnName.texts_ne (ColumnName.qualified_ok hlater).1 (by simp)
      (ColumnName.qualified_ok hparts).1 ?_)
    rw [length_dotted]
    omega

/-- A dotted qualifier is the one that counts only where both ways of cutting are refused alike. -/
theorem ColumnName.of_dotted_eq_iff (hdot : '.' ∈ qualifier.toList) :
    (ColumnName.of style scope (qualifier ++ "." ++ column)).map text =
        (ColumnName.qualified style qualifier column).map text ↔
      RefusedAlike style scope qualifier column := by
  constructor
  · intro h
    obtain ⟨first, rest, rfl, hfirst⟩ := exists_first_dot hdot
    have hcut : first ++ "." ++ rest ++ "." ++ column = first ++ "." ++
      (rest ++ "." ++ column) := by
      simp only [String.append_assoc]
    by_cases hknown : first = "" ∨ style.InScope scope first
    · rw [ColumnName.of_cut (cutAt_dot_iff.mpr ⟨hcut, hfirst⟩) hknown] at h
      exact ColumnName.refusedAlike_of_eq hfirst hknown h
    · refine absurd h ?_
      rw [ColumnName.of_whole]
      · exact ColumnName.whole_ne_qualified _ _
      · intro q c hreference hq
        rw [← first_dot_unique hcut hfirst hreference hq]
        exact not_or.mp hknown
  · rintro ⟨hrefused, hcolumn, first, hfirst, hscope, hcut⟩
    obtain ⟨e, he⟩ := Ident.exists_error hrefused
    have hearly : ColumnName.qualified style first qualifier = .error e :=
      ColumnName.qualified_eq_error_iff.mpr (.inl he)
    have hlate : ColumnName.qualified style qualifier column = .error e :=
      ColumnName.qualified_eq_error_iff.mpr (.inr ⟨hcolumn, dotted_ne_empty hdot, he⟩)
    rw [ColumnName.of_cut (cutAt_dot_iff.mpr ⟨hcut.symm, hfirst⟩) (.inr hscope), hearly, hlate]

/-- **References resolve by the scope at the first dot only.** A reference resolves as the scope
says exactly when no qualifier with a dot of its own is in scope for it, but for those where both
ways of cutting the reference are refused for the same name. -/
theorem resolvesByScope_iff (style : NameStyle) (scope : List String) (reference : String) :
    ResolvesByScope style scope reference ↔
      ∀ qualifier column, reference = qualifier ++ "." ++ column → style.InScope scope qualifier →
        '.' ∈ qualifier.toList → RefusedAlike style scope qualifier column := by
  have hmap (name : String) : ((Ident.of style name).map (ColumnName.mk none)).map ColumnName.text =
      (Ident.of style name).map Ident.text := by
    cases Ident.of style name <;> rfl
  constructor
  · rintro h qualifier column rfl hscope hdot
    exact (ColumnName.of_dotted_eq_iff hdot).mp
      (h.qualified qualifier column rfl (dotted_ne_empty hdot) hscope)
  · intro h
    constructor
    · intro qualifier column hreference hne hscope
      by_cases hdot : '.' ∈ qualifier.toList
      · have halike := h qualifier column hreference hscope hdot
        subst hreference
        exact (ColumnName.of_dotted_eq_iff hdot).mpr halike
      · rw [ColumnName.of_cut (cutAt_dot_iff.mpr ⟨hreference, hdot⟩) (.inr hscope)]
    · rintro column rfl
      rw [ColumnName.of_leadingDot_eq, hmap]
    · intro hnone
      rw [ColumnName.of_whole fun q c hreference _ => hnone q c hreference, hmap]

/-- Both ways of cutting come to the name that is no word. -/
example :
    ColumnName.of .folded ["a", "a.a"] "a.a.a" = .error (.notPlainWord "a.a") ∧
      ColumnName.qualified .folded "a.a" "a" = .error (.notPlainWord "a.a") := by decide

/-- A column of a table with a dot in its name is taken for the name of a column. -/
theorem dotted_table_not_resolved :
    (ColumnName.of .quoted ["a.b"] "a.b.c").map ColumnName.text = .ok "\"a.b.c\"" ∧
      (ColumnName.qualified .quoted "a.b" "c").map ColumnName.text = .ok "\"a.b\".\"c\"" ∧
      NameStyle.quoted.InScope ["a.b"] "a.b" ∧ ¬ ResolvesByScope .quoted ["a.b"] "a.b.c" := by
  have hwhole : (ColumnName.of .quoted ["a.b"] "a.b.c").map ColumnName.text = .ok "\"a.b.c\"" := by
    decide
  have hparts : (ColumnName.qualified .quoted "a.b" "c").map ColumnName.text =
    .ok "\"a.b\".\"c\"" := by
    decide
  have hscope : NameStyle.quoted.InScope ["a.b"] "a.b" :=
    ⟨"a.b", List.mem_singleton_self _, by decide⟩
  refine ⟨hwhole, hparts, hscope, fun h => ?_⟩
  have hsame := h.qualified "a.b" "c" (by decide) (by decide) hscope
  rw [hwhole, hparts] at hsame
  exact absurd (Except.ok.inj hsame) (by decide)

end RowFerry
