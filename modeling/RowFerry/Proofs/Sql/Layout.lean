import RowFerry.Proofs.Sql.Requests

/-!
The texts of statements as sequences of clauses. Every clause is a series: its parts with a lead
before the first of them and a separator between neighbours, and no text at all without parts. Each
lemma here gives one text in this form, which is the form in which later proofs read it.
-/

namespace RowFerry

variable {style : NameStyle} {α : Type}

/-- The texts of the parts in order, each after the separator. -/
def following (separator : String) (text : α → String) : List α → String
  | [] => ""
  | x :: xs => separator ++ (text x ++ following separator text xs)

/-- The texts of the parts in order, after the lead and with separators; no text without parts. -/
def series (lead separator : String) (text : α → String) : List α → String
  | [] => ""
  | x :: xs => lead ++ (text x ++ following separator text xs)

theorem joinWith_eq_series (separator : String) (text : α → String) (xs : List α) :
    Text.joinWith separator (xs.map text) = series "" separator text xs := by
  match xs with
  | [] => rfl
  | [x] => simp [Text.joinWith, series, following]
  | x :: y :: ys =>
    have ih := joinWith_eq_series separator text (y :: ys)
    simp only [List.map_cons, series, String.empty_append] at ih
    simp only [List.map_cons, Text.joinWith, ih, series, following, String.empty_append,
      String.append_assoc]

/-- A lead before joined texts is the lead of their series. -/
theorem series_lead (lead separator : String) (text : α → String) {xs : List α} (h : xs ≠ []) :
    lead ++ series "" separator text xs = series lead separator text xs := by
  cases xs with
  | nil => exact absurd rfl h
  | cons x xs => simp only [series, String.empty_append]

/-! ## Segments -/

/-- A segment after the first, with the blank before it. -/
def segment (t : String) : String := if t.isEmpty then "" else " " ++ t

theorem segment_of_ne {t : String} (h : t ≠ "") : segment t = " " ++ t := by
  simp [segment, h]

/-- A segment that begins with a text of its own. -/
theorem segment_append (lead : String) (h : lead ≠ "") (t : String) :
    segment (lead ++ t) = " " ++ lead ++ t := by
  rw [segment_of_ne (by simp [h]), String.append_assoc]

private theorem following_segments (segments : List String) :
    following " " id (segments.filter fun s => !s.isEmpty) = following "" segment segments := by
  induction segments with
  | nil => rfl
  | cons s segments ih =>
    by_cases h : s = ""
    · rw [List.filter_cons_of_neg (by simp [h]), ih]
      simp [following, h, segment]
    · rw [List.filter_cons_of_pos (by simp [h]), following, following, ih, segment_of_ne h]
      simp [String.append_assoc]

theorem assemble_cons {head : String} (h : head ≠ "") (segments : List String) :
    assemble (head :: segments) = head ++ following "" segment segments ++ ";" := by
  have hjoin := joinWith_eq_series " " id (head :: segments.filter fun s => !s.isEmpty)
  rw [List.map_id] at hjoin
  rw [assemble, List.filter_cons_of_pos (by simp [h]), hjoin, series, following_segments, id,
    String.empty_append]

/-- A segment made of a keyword and joined texts, which is empty without them. -/
theorem segment_series (lead : String) (hlead : lead ≠ "") (separator : String) (text : α → String)
    (xs : List α) :
    segment (if xs.isEmpty then "" else lead ++ Text.joinWith separator (xs.map text)) =
      series (" " ++ lead) separator text xs := by
  cases xs with
  | nil => rfl
  | cons x xs =>
    rw [List.isEmpty_cons, if_neg Bool.false_ne_true, segment_append lead hlead, joinWith_eq_series,
      series_lead _ _ _ (List.cons_ne_nil x xs)]

/-! ## Clauses -/

/-- The text of a name with its qualifier, if there is one. -/
def qualifiedText (q : Option (Ident style)) (i : Ident style) : String :=
  match q with
  | none => i.text
  | some q => q.text ++ "." ++ i.text

theorem TableName.text_eq (n : TableName style) : n.text = qualifiedText n.tablespace n.table := rfl

theorem ColumnName.text_eq (n : ColumnName style) :
    n.text = qualifiedText n.qualifier n.column := rfl

/-- The list of a query that lists columns; none of them means all columns. -/
def columnList : List (ColumnName style) → String
  | [] => "*"
  | name :: names => series "" ", " ColumnName.text (name :: names)

theorem Selection.listText_eq {s : Selection style} (h : s.OfColumns) :
    s.listText = columnList s.names := by
  obtain rfl | ⟨n, ns, rfl⟩ := h
  · rfl
  · exact joinWith_eq_series ", " ColumnName.text (n :: ns)

theorem segment_predicates (ps : List (Predicate style)) :
    segment (Predicate.listText ps) = series " WHERE " " AND " Predicate.text ps :=
  segment_series "WHERE " (by decide) " AND " Predicate.text ps

theorem segment_order (ks : List (SortKey style)) :
    segment (SortKey.listText ks) = series " ORDER BY " ", " SortKey.text ks :=
  segment_series "ORDER BY " (by decide) ", " SortKey.text ks

theorem segment_limit (n : Option UInt64) :
    segment (limitText n) = following " LIMIT " uint64Text n.toList := by
  cases n with
  | none => rfl
  | some n =>
    rw [limitText, segment_append _ (by decide), Option.toList_some, following, following,
      String.append_empty]
    rfl

theorem segment_offset (n : Option UInt64) :
    segment (offsetText n) = following " OFFSET " uint64Text n.toList := by
  cases n with
  | none => rfl
  | some n =>
    rw [offsetText, segment_append _ (by decide), Option.toList_some, following, following,
      String.append_empty]
    rfl

theorem Join.text_eq (j : Join style) :
    j.text = j.kind.keyword ++
      (" " ++ (j.table.text ++ (following " " Ident.text j.aliasName.toList ++
        (" ON " ++ series "" " AND " Join.conditionText j.conditions)))) := by
  rw [Join.text, Join.targetText, joinWith_eq_series]
  cases j.aliasName with
  | none => simp [following, String.append_assoc]
  | some a => simp [following, String.append_assoc]

theorem Join.text_ne (j : Join style) : j.text ≠ "" := by
  rw [Join.text_eq]
  cases j.kind <;> simp [JoinKind.keyword]

theorem segment_joins (js : List (Join style)) :
    segment (Join.listText js) = following " " Join.text js := by
  cases js with
  | nil => rfl
  | cons j js =>
    have hne : series "" " " Join.text (j :: js) ≠ "" := by simp [series, Join.text_ne]
    rw [Join.listText, joinWith_eq_series, segment_of_ne hne,
      series_lead " " " " _ (List.cons_ne_nil j js)]
    rfl

/-! ## Statements

The body of a statement is its text without the semicolon at the end. -/

namespace Insert

/-- The text up to the first placeholder. -/
def lead (s : Insert style) : String :=
  "INSERT INTO " ++ (s.table.text ++
    (" (" ++ (series "" ", " Ident.text s.columns ++ ") VALUES (")))

def body (s : Insert style) : String :=
  s.lead ++ (series "" ", " (fun _ => placeholder) s.columns ++ ")")

theorem text_eq (s : Insert style) : s.text = s.body ++ ";" := by
  have hvalues (t : String) : ")" ++ (" VALUES (" ++ t) = ") VALUES (" ++ t := by
    rw [← String.append_assoc]
    rfl
  rw [text, assemble_cons (by simp)]
  simp only [following, String.append_assoc, segment_append "(" (by decide),
    segment_append "VALUES (" (by decide), joinWith_eq_series, body, lead, hvalues,
    String.reduceAppend, String.empty_append]

end Insert

namespace Select

/-- What follows the list of columns. -/
def tail (s : Select style) : String :=
  " FROM " ++ (s.table.text ++ (following " " Join.text s.joins ++
    (series " WHERE " " AND " Predicate.text s.predicates ++
      (following " LIMIT " uint64Text s.limit.toList ++
        (following " OFFSET " uint64Text s.offset.toList ++
          series " ORDER BY " ", " SortKey.text s.order)))))

def body (s : Select style) : String := "SELECT " ++ (s.selection.listText ++ s.tail)

theorem text_eq (s : Select style) : s.text = s.body ++ ";" := by
  rw [text, assemble_cons (by simp [Selection.text])]
  simp only [following, segment_joins, segment_predicates, segment_limit, segment_offset,
    segment_order, segment_append "FROM " (by decide), Selection.text, body, tail,
    String.append_assoc, String.reduceAppend, String.empty_append]

end Select

namespace Update

def body (s : Update style) : String :=
  "UPDATE " ++ (s.table.text ++ (" SET " ++
    (series "" ", " (fun c : Ident style => c.text ++ " = " ++ placeholder) s.columns ++
      series " WHERE " " AND " Predicate.text s.predicates)))

theorem text_eq (s : Update style) : s.text = s.body ++ ";" := by
  rw [text, assemble_cons (by simp)]
  simp only [following, segment_predicates, setText, segment_append "SET " (by decide),
    joinWith_eq_series, body, String.append_assoc, String.reduceAppend, String.empty_append]

end Update

namespace Delete

def body (s : Delete style) : String :=
  "DELETE" ++ (" FROM " ++ (s.table.text ++ series " WHERE " " AND " Predicate.text s.predicates))

theorem text_eq (s : Delete style) : s.text = s.body ++ ";" := by
  rw [text, assemble_cons (by decide)]
  simp only [following, segment_predicates, segment_append "FROM " (by decide), body,
    String.append_assoc, String.reduceAppend, String.empty_append]

end Delete

namespace IdentityInsert

def lead : String := "SET IDENTITY_INSERT"

/-- The word at the end. -/
def word (s : IdentityInsert style) : String := if s.enabled then " ON" else " OFF"

def body (s : IdentityInsert style) : String := lead ++ (segment s.table.text ++ s.word)

theorem text_eq (s : IdentityInsert style) : s.text = s.body ++ ";" := by
  have hword : segment (if s.enabled then "ON" else "OFF") = s.word := by
    unfold word
    cases s.enabled <;> rfl
  have htext : s.text = lead ++ following "" segment [_, _] ++ ";" := assemble_cons (by decide) _
  rw [htext, body]
  simp only [following, hword, String.empty_append, String.append_empty]

end IdentityInsert

end RowFerry
