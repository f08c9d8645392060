import Mathlib.Data.List.Nodup
import RowFerry.Proofs.MatchSet
import RowFerry.Proofs.Sql.Meaning

/-!
Which columns a statement writes. A row has its columns under different names, and a statement names
each of them once, in the order of the row. Quoted names are written as they are, so the columns of
the statement differ as well; folded names are written in upper case, and then names that differ in
case only are one column, which the statement has twice.
-/

namespace RowFerry

variable {style : NameStyle}

/-- The columns of a statement are the names of a row as they are written, and they are different if
no two of the names are the same to the engine. -/
structure WritesColumns (style : NameStyle) (names columns : List String) : Prop where
  written : List.Forall₂ (fun name column => (Ident.of style name).map Ident.text = .ok column)
    names columns
  quoted : style = .quoted → columns.Nodup
  nodup_iff : columns.Nodup ↔ ∀ a ∈ names, ∀ b ∈ names, style.sameName a b = true → a = b

/-- The columns of different names are different when the names are different to the engine. -/
theorem Ident.texts_nodup_iff {names : List String} {columns : List (Ident style)}
    (hnames : names.Nodup) (h : List.Forall₂ (fun n i => Ident.of style n = .ok i) names columns) :
    (columns.map Ident.text).Nodup ↔ ∀ a ∈ names, ∀ b ∈ names, style.sameName a b =
      true → a = b := by
  have hcolumns : columns.map Ident.text = names.map fun n => (Ident.mk n : Ident style).text := by
    rw [names_eq h, List.map_map]
    rfl
  rw [hcolumns, List.nodup_map_iff_inj_on hnames]
  simp only [Ident.text_eq_iff]

theorem writesColumns {names : List String} {columns : List (Ident style)} (hnames : names.Nodup)
    (h : List.Forall₂ (fun n i => Ident.of style n = .ok i) names columns) :
    WritesColumns style names (columns.map Ident.text) := by
  have hiff := Ident.texts_nodup_iff hnames h
  constructor
  · rw [List.forall₂_map_right_iff]
    refine h.imp fun n i hi => ?_
    rw [hi]
    rfl
  · rintro rfl
    rw [hiff]
    intro a _ b _ hsame
    exact eq_of_beq hsame
  · exact hiff

theorem Insert.text_eq_list (s : Insert style) :
    s.text = "INSERT INTO " ++ s.table.text ++ " (" ++ Text.joinWith ", "
      (s.columns.map Ident.text) ++
      ") VALUES (" ++ Text.joinWith ", " ((s.columns.map Ident.text).map fun _ => placeholder) ++
        ");" := by
  have hmarks : ((s.columns.map Ident.text).map fun _ => placeholder) = s.columns.map fun _ =>
    placeholder := by
    rw [List.map_map]
    rfl
  rw [text_eq, body, lead, hmarks, joinWith_eq_series, joinWith_eq_series]
  simp only [String.append_assoc]
  rfl

theorem setText_eq (columns : List (Ident style)) :
    setText columns = "SET " ++
      Text.joinWith ", " ((columns.map Ident.text).map fun column =>
        column ++ " = " ++ placeholder) := by
  rw [setText, List.map_map]
  rfl

namespace Compiler

/-- **A column is written twice only if names are folded together.** A row that compiles to
an INSERT or an UPDATE has all its columns in the statement, in order. They are pairwise
different where names are quoted, and in general exactly when no two names of the row are
the same to the engine. -/
theorem columns_nodup_iff (c : Compiler) (table : String) (criteria : Criteria) (row : Row) :
    (∀ s, c.create table row = .ok s → ∃ name columns,
      s.sql = "INSERT INTO " ++ name ++ " (" ++ Text.joinWith ", " columns ++ ") VALUES (" ++
        Text.joinWith ", " (columns.map fun _ => placeholder) ++ ");" ∧
      WritesColumns c.style row.names columns) ∧
    (∀ s, c.update table criteria row = .ok s → ∃ name columns rest,
      s.sql = "UPDATE " ++ name ++ " SET " ++
        Text.joinWith ", " (columns.map fun column => column ++ " = " ++ placeholder) ++ rest ∧
      WritesColumns c.style row.names columns) := by
  constructor
  · intro s h
    obtain ⟨i, hi, rfl⟩ := map_eq_ok_iff.mp h
    obtain ⟨-, -, hcolumns, -⟩ := resolveInsert_ok hi
    exact ⟨_, _, i.text_eq_list, writesColumns row.nodup hcolumns⟩
  · intro s h
    obtain ⟨u, hu, rfl⟩ := map_eq_ok_iff.mp h
    obtain ⟨-, -, hcolumns, -⟩ := resolveUpdate_ok hu
    refine ⟨u.table.text, _, segment (Predicate.listText u.predicates) ++ ";", ?_,
      writesColumns row.nodup hcolumns⟩
    rw [Update.statement, Update.text_eq_where, setText_eq]
    simp only [String.append_assoc]
    rfl

/-- Two names that differ in case are two columns of a row and one column of the table. -/
theorem folded_column_twice :
    (Row.ofList [("a", .i64 1), ("A", .i64 2)]).names = ["a", "A"] ∧
      (Compiler.mk "" .folded).create "t" (Row.ofList [("a", .i64 1), ("A", .i64 2)]) =
        .ok ⟨"INSERT INTO T (" ++ Text.joinWith ", " ["A", "A"] ++ ") VALUES (?, ?);",
          [.i64 1, .i64 2]⟩ ∧
      (Compiler.mk "" .folded).update "t" {} (Row.ofList [("a", .i64 1), ("A", .i64 2)]) =
        .ok ⟨"UPDATE T SET A = ?, A = ?;", [.i64 1, .i64 2]⟩ ∧
      ¬ ["A", "A"].Nodup := by
  refine ⟨rfl, ?_, ?_, by decide⟩
  · decide
  · decide

end Compiler

end RowFerry
