import RowFerry.Proofs.Sql.Case

/-!
Folded statements are in upper case. Every part of a statement but a list that the caller wrote is
its own upper-case form: names are forms already, and keywords, marks and numbers have no other
form. With this, compiling to folded names ignores case.
-/

namespace RowFerry

open Unicode (upper upper_append upper_upper upper_eq_self)

variable {α : Type}

/-- Every character of the text is its own upper-case form. -/
def UpperChars (t : String) : Prop := ∀ c ∈ t.toList, Unicode.upperForm c = [c]

-- The text's characters are checked, not all the characters there are.
instance (t : String) : Decidable (UpperChars t) :=
  List.decidableBAll _ _

/-- The text is its own upper-case form. -/
def IsUpper (t : String) : Prop := upper t = t

namespace IsUpper

theorem plain {t : String} (h : UpperChars t) : IsUpper t := upper_eq_self h

theorem empty : IsUpper "" := plain (by decide)

theorem append {s t : String} (hs : IsUpper s) (ht : IsUpper t) : IsUpper (s ++ t) := by
  rw [IsUpper, upper_append, hs, ht]

theorem following {separator : String} {text : α → String} {xs : List α} (hsep : IsUpper separator)
    (h : ∀ x ∈ xs, IsUpper (text x)) : IsUpper (following separator text xs) := by
  induction xs with
  | nil => exact empty
  | cons x xs ih =>
    rw [List.forall_mem_cons] at h
    exact hsep.append (h.1.append (ih h.2))

theorem series {lead separator : String} {text : α → String} {xs : List α} (hlead : IsUpper lead)
    (hsep : IsUpper separator) (h : ∀ x ∈ xs, IsUpper (text x)) :
    IsUpper (series lead separator text xs) := by
  cases xs with
  | nil => exact empty
  | cons x xs =>
    rw [List.forall_mem_cons] at h
    exact hlead.append (h.1.append (following hsep h.2))

end IsUpper

/-! ## Names and clauses -/

theorem Ident.isUpper (i : Ident .folded) : IsUpper i.text := upper_upper i.name

theorem qualifiedText_isUpper (q : Option (Ident .folded)) (i : Ident .folded) :
    IsUpper (qualifiedText q i) := by
  cases q with
  | none => exact i.isUpper
  | some q => exact (q.isUpper.append (.plain (by decide))).append i.isUpper

theorem TableName.isUpper (n : TableName .folded) : IsUpper n.text := qualifiedText_isUpper _ _

theorem ColumnName.isUpper (n : ColumnName .folded) : IsUpper n.text := qualifiedText_isUpper _ _

theorem columnList_isUpper (ns : List (ColumnName .folded)) : IsUpper (columnList ns) := by
  match ns with
  | [] => exact .plain (by decide)
  | n :: ns => exact .series (.plain (by decide)) (.plain (by decide)) fun m _ => m.isUpper

theorem Join.isUpper (j : Join .folded) : IsUpper j.text := by
  have hkind : IsUpper j.kind.keyword := by
    cases j.kind <;> exact .plain (by decide)
  rw [Join.text_eq]
  refine hkind.append (.append (.plain (by decide)) (j.table.isUpper.append ?_))
  refine .append (.following (.plain (by decide)) fun a _ => a.isUpper)
    (.append (.plain (by decide)) (.series (.plain (by decide)) (.plain (by decide)) fun p _ => ?_))
  exact (p.1.isUpper.append (.plain (by decide))).append p.2.isUpper

theorem Predicate.isUpper (p : Predicate .folded) : IsUpper p.text := by
  unfold Predicate.text
  split
  next c _ _ =>
    have hsymbol : IsUpper c.symbol := by
      cases c <;> exact .plain (by decide)
    exact (((p.column.isUpper.append (.plain (by decide))).append hsymbol).append
      (.plain (by decide))).append (.plain (by decide))
  · exact p.column.isUpper.append (.plain (by decide))
  · exact p.column.isUpper.append (.plain (by decide))

theorem SortKey.isUpper (k : SortKey .folded) : IsUpper k.text := by
  refine (k.column.isUpper.append (.plain (by decide))).append ?_
  cases k.direction <;> exact .plain (by decide)

theorem uint64Text_isUpper (n : UInt64) : IsUpper (uint64Text n) := by
  have hdigits {c : Char} (hc : c.toNat < 0x80) : c.isDigit = true → Unicode.upperForm c = [c] :=
    Unicode.ascii_forall (P := fun c => c.isDigit = true → Unicode.upperForm c = [c])
      (by decide) hc
  refine .plain fun c hc => ?_
  rw [uint64Text, natText, String.toList_ofList] at hc
  have hdigit := Nat.isDigit_of_mem_toDigits (by decide) (by decide) hc
  have hbound : c.toNat < 0x80 :=
    Nat.lt_of_le_of_lt (Char.isDigit_iff_toNat.mp hdigit).2 (by decide)
  exact hdigits hbound hdigit

/-- The clause of predicates. -/
theorem where_isUpper (ps : List (Predicate .folded)) :
    IsUpper (series " WHERE " " AND " Predicate.text ps) :=
  .series (.plain (by decide)) (.plain (by decide)) fun p _ => p.isUpper

/-! ## Statements -/

theorem Insert.isUpper (s : Insert .folded) : IsUpper s.text := by
  have hcolumns : IsUpper (series "" ", " Ident.text s.columns) :=
    .series (.plain (by decide)) (.plain (by decide)) fun c _ => c.isUpper
  have hmarks : IsUpper (series "" ", " (fun _ => placeholder) s.columns) :=
    .series (.plain (by decide)) (.plain (by decide)) fun _ _ => .plain (by decide)
  have hlead : IsUpper s.lead :=
    .append (.plain (by decide)) (s.table.isUpper.append
      (.append (.plain (by decide)) (hcolumns.append (.plain (by decide)))))
  rw [Insert.text_eq]
  exact (hlead.append (hmarks.append (.plain (by decide)))).append (.plain (by decide))

/-- What follows the list of columns of a query, with the semicolon. -/
theorem Select.tail_isUpper (s : Select .folded) : IsUpper (s.tail ++ ";") := by
  refine .append ?_ (.plain (by decide))
  refine .append (.plain (by decide)) (s.table.isUpper.append ?_)
  refine .append (.following (.plain (by decide)) fun j _ => j.isUpper) ?_
  refine (where_isUpper s.predicates).append ?_
  refine .append (.following (.plain (by decide)) fun n _ => uint64Text_isUpper n) ?_
  refine .append (.following (.plain (by decide)) fun n _ => uint64Text_isUpper n) ?_
  exact .series (.plain (by decide)) (.plain (by decide)) fun k _ => k.isUpper

theorem Select.text_eq_list (s : Select .folded) :
    s.text = "SELECT " ++ s.selection.listText ++ (s.tail ++ ";") := by
  rw [Select.text_eq, Select.body]
  simp only [String.append_assoc]

theorem Update.isUpper (s : Update .folded) : IsUpper s.text := by
  have hcolumns : IsUpper
      (series "" ", " (fun c : Ident .folded => c.text ++ " = " ++ placeholder) s.columns) := by
    refine .series (.plain (by decide)) (.plain (by decide)) fun c _ => ?_
    exact (c.isUpper.append (.plain (by decide))).append (.plain (by decide))
  rw [Update.text_eq]
  refine .append (.append (.plain (by decide)) (s.table.isUpper.append ?_)) (.plain (by decide))
  exact .append (.plain (by decide)) (hcolumns.append (where_isUpper s.predicates))

theorem Delete.isUpper (s : Delete .folded) : IsUpper s.text := by
  rw [Delete.text_eq]
  refine .append (.append (.plain (by decide)) (.append (.plain (by decide)) ?_))
    (.plain (by decide))
  exact s.table.isUpper.append (where_isUpper s.predicates)

theorem IdentityInsert.isUpper (s : IdentityInsert .folded) : IsUpper s.text := by
  have hsegment : IsUpper (segment s.table.text) := by
    unfold segment
    split
    · exact .plain (by decide)
    · exact .append (.plain (by decide)) s.table.isUpper
  have hword : IsUpper s.word := by
    unfold IdentityInsert.word
    split <;> exact .plain (by decide)
  rw [IdentityInsert.text_eq]
  exact .append (.append (.plain (by decide)) (hsegment.append hword)) (.plain (by decide))

/-! ## Compiled statements -/

namespace Compiler

variable {space : String}

/-- Only the list of a query can be written by the caller. -/
theorem select_isUpper (s : Select .folded) :
    ∃ rest, s.statement.sql = "SELECT " ++ s.selection.listText ++ rest ∧ upper rest = rest :=
  ⟨_, s.text_eq_list, s.tail_isUpper⟩

theorem compile_isUpper {r : Request} {s : Statement} (hr : r.NamesOnly)
    (h : (Compiler.mk space .folded).compile r = .ok s) : IsUpper s.sql := by
  cases r with
  | create table row =>
    obtain ⟨i, -, rfl⟩ := map_eq_ok_iff.mp h
    exact Insert.isUpper i
  | find table criteria =>
    obtain ⟨q, hq, rfl⟩ := map_eq_ok_iff.mp h
    obtain ⟨rest, hsql, hrest⟩ := select_isUpper q
    have hlist := Selection.listText_eq (Selection.of_ok hr (resolveSelect_ok hq).1).2
    rw [hsql, hlist]
    exact .append (.append (.plain (by decide)) (columnList_isUpper _)) hrest
  | count table criteria =>
    obtain ⟨total, q, -, hq, rfl⟩ := count_ok h
    obtain ⟨rest, hsql, hrest⟩ := select_isUpper q
    rw [hsql, ← Except.ok.inj (resolveSelect_ok hq).1]
    refine .append (.append (.plain (by decide)) ?_) hrest
    exact .append (.append (.plain (by decide)) (.plain (by decide))) total.isUpper
  | update table criteria row =>
    obtain ⟨u, -, rfl⟩ := map_eq_ok_iff.mp h
    exact Update.isUpper u
  | delete table criteria =>
    obtain ⟨d, -, rfl⟩ := map_eq_ok_iff.mp h
    exact Delete.isUpper d
  | identityInsert table enabled =>
    obtain ⟨sql, hsql, rfl⟩ := map_eq_ok_iff.mp h
    obtain ⟨n, -, rfl⟩ := map_eq_ok_iff.mp hsql
    exact IdentityInsert.isUpper _

/-- A query with an expression of the caller's is in upper case after it. -/
theorem find_expression {table text : String} {criteria : Criteria} {s : Statement}
    (hprojection : criteria.projection = .expression text)
    (h : (Compiler.mk space .folded).find table criteria = .ok s) :
    ∃ rest, s.sql = "SELECT " ++ text ++ rest ∧ upper rest = rest := by
  obtain ⟨q, hq, rfl⟩ := map_eq_ok_iff.mp h
  rw [hprojection] at hq
  obtain ⟨rest, hsql, hrest⟩ := select_isUpper q
  rw [← Except.ok.inj (resolveSelect_ok hq).1] at hsql
  exact ⟨rest, hsql, hrest⟩

theorem count_expression {table text : String} {criteria : Criteria} {s : Statement}
    (h : (Compiler.mk space .folded).count table criteria (some text) = .ok s) :
    ∃ rest, s.sql = "SELECT " ++ text ++ rest ∧ upper rest = rest := by
  obtain ⟨total, q, -, hq, rfl⟩ := count_ok h
  obtain ⟨rest, hsql, hrest⟩ := select_isUpper q
  rw [← Except.ok.inj (resolveSelect_ok hq).1] at hsql
  refine ⟨" AS " ++ total.text ++ rest, ?_, ?_⟩
  · rw [hsql]
    simp only [Selection.listText, Option.getD_some, String.append_assoc]
  · exact IsUpper.append (.append (.plain (by decide)) total.isUpper) hrest

/-- Compiling to folded names ignores case. Requests whose tablespaces, tables, columns, references
and aliases have the same upper-case forms get the same statement whenever both compile, the text
and the values, and so do counts of any expression. The text is its own upper-case form; with an
expression of the caller's in it, what stands before and after the expression is. -/
theorem folded_ignores_case {space space' : String} (hspace : upper space = upper space') :
    (∀ (r r' : Request) (s s' : Statement), r.SameButCase r' →
      (Compiler.mk space .folded).compile r = .ok s →
      (Compiler.mk space' .folded).compile r' = .ok s' → s = s') ∧
    (∀ (table table' : String) (criteria criteria' : Criteria) (expression : Option String)
        (s s' : Statement), upper table = upper table' →
        criteria.upperNames = criteria'.upperNames →
      (Compiler.mk space .folded).count table criteria expression = .ok s →
      (Compiler.mk space' .folded).count table' criteria' expression = .ok s' → s = s') ∧
    (∀ (r : Request) (s : Statement), r.NamesOnly → (Compiler.mk space .folded).compile r = .ok s →
      upper s.sql = s.sql) ∧
    (∀ (table text : String) (criteria : Criteria) (s : Statement),
      (criteria.projection = .expression text ∧
          (Compiler.mk space .folded).find table criteria = .ok s) ∨
        (Compiler.mk space .folded).count table criteria (some text) = .ok s →
      ∃ before after, s.sql = before ++ text ++ after ∧ upper before = before ∧
        upper after = after) := by
  refine ⟨fun r r' s s' hr => compile_congr hr hspace, ?_, fun r s => compile_isUpper, ?_⟩
  · intro table table' criteria criteria' expression s s' htable hcriteria h h'
    exact count_congr h h' hspace htable hcriteria
  · have hselect : IsUpper "SELECT " := .plain (by decide)
    rintro table text criteria s (⟨hprojection, h⟩ | h)
    · obtain ⟨rest, hsql, hrest⟩ := find_expression hprojection h
      exact ⟨_, rest, hsql, hselect, hrest⟩
    · obtain ⟨rest, hsql, hrest⟩ := count_expression h
      exact ⟨_, rest, hsql, hselect, hrest⟩

/-- A sharp s is written as two letters, in the scope and in the text alike. -/
theorem sharpS_ignores_case :
    ∃ s, (Compiler.mk "räume" .folded).compile
        (.delete "straße" { filters := [("straße.größe", .compares .gt (.i32 9))] }) = .ok s ∧
      (Compiler.mk "RÄUME" .folded).compile
        (.delete "STRASSE" { filters := [("Strasse.GRÖSSE", .compares .gt (.i32 9))] }) =
          .ok s := by
  have hspace : upper "räume" = upper "RÄUME" := by decide +kernel
  have hlower : (Compiler.mk "räume" .folded).compile
      (.delete "straße" { filters := [("straße.größe", .compares .gt (.i32 9))] }) =
        .ok ⟨"DELETE FROM RÄUME.STRASSE WHERE STRASSE.GRÖSSE > ?;", [.i32 9]⟩ := by decide +kernel
  obtain ⟨s, hs⟩ : ∃ s, (Compiler.mk "RÄUME" .folded).compile
      (.delete "STRASSE" { filters := [("Strasse.GRÖSSE", .compares .gt (.i32 9))] }) = .ok s :=
    ⟨⟨"DELETE FROM RÄUME.STRASSE WHERE STRASSE.GRÖSSE > ?;", [.i32 9]⟩, by decide +kernel⟩
  have hsame := (folded_ignores_case hspace).1 _ _ _ _
    (.delete (by decide +kernel) (by decide +kernel)) hlower hs
  exact ⟨_, hlower, hsame ▸ hs⟩

end Compiler

end RowFerry
