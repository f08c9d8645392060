import RowFerry.Proofs.Sql.Names

/-!
How statements begin. The statements that insert rows and those that switch identity
insert begin with words of their own, so no table name makes one the other; after these
words both name their table.
-/

namespace RowFerry

variable {style : NameStyle}

/-- The text of a statement begins with its first segment. -/
theorem assemble_begins (head : String) (h : head ≠ "") (segments : List String) :
    ∃ rest, assemble (head :: segments) = head ++ rest := by
  have hfilter : (head :: segments).filter (fun s => !s.isEmpty) =
      head :: segments.filter fun s => !s.isEmpty :=
    List.filter_cons_of_pos (by simpa using h)
  rw [assemble, hfilter]
  cases segments.filter fun s => !s.isEmpty with
  | nil => exact ⟨";", rfl⟩
  | cons t ts =>
    exact ⟨" " ++ Text.joinWith " " (t :: ts) ++
      ";", by simp only [Text.joinWith, String.append_assoc]⟩

/-- Does the text switch identity insert, on or off, for whatever table? -/
def IsSwitch (sql : String) : Prop := ∃ rest, sql = "SET IDENTITY_INSERT" ++ rest

/-- Does the text insert a row, into whatever table? -/
def isInsert (sql : String) : Bool := "INSERT INTO ".toList.isPrefixOf sql.toList

@[simp] theorem isInsert_append (rest : String) : isInsert ("INSERT INTO " ++ rest) = true := by
  simp [isInsert]

theorem IsSwitch.not_isInsert {sql : String} (h : IsSwitch sql) : isInsert sql = false := by
  obtain ⟨rest, rfl⟩ := h
  rw [isInsert, String.toList_append]
  rfl

/-- A statement that inserts a row names its table first and then the columns. -/
theorem Insert.text_begins (i : Insert style) :
    ∃ columns, i.text = "INSERT INTO " ++ i.table.text ++ " (" ++ columns := by
  rw [i.text_eq, Insert.body, Insert.lead]
  simp only [String.append_assoc]
  exact ⟨_, rfl⟩

theorem IdentityInsert.text_of_checked {s : IdentityInsert style} (h : s.table.Checked) :
    s.text = "SET IDENTITY_INSERT " ++ s.table.text ++ if s.enabled then " ON;" else " OFF;" := by
  have hword : s.word ++ ";" = if s.enabled then " ON;" else " OFF;" := by
    unfold IdentityInsert.word
    cases s.enabled <;> rfl
  have hlead : "SET IDENTITY_INSERT " = IdentityInsert.lead ++ " " := rfl
  rw [s.text_eq, IdentityInsert.body, segment_of_ne h.text_ne, ← hword, hlead]
  simp only [String.append_assoc]

theorem identityInsert_isSwitch (s : IdentityInsert style) : IsSwitch s.text :=
  assemble_begins _ (by decide) _

theorem insert_not_isSwitch (s : Insert style) : ¬ IsSwitch s.text := by
  rintro ⟨rest, hswitch⟩
  obtain ⟨columns, hinsert⟩ := assemble_begins ("INSERT INTO " ++ s.table.text) (by simp)
    ["(" ++ Text.joinWith ", " (s.columns.map Ident.text) ++ ")",
      "VALUES (" ++ Text.joinWith ", " (s.columns.map fun _ => placeholder) ++ ")"]
  have h : "INSERT INTO " ++ s.table.text ++ columns = "SET IDENTITY_INSERT" ++ rest :=
    hinsert.symm.trans hswitch
  have hfirst := congrArg (fun t => t.toList.head?) h
  simp at hfirst

/-- The two switches of a table are different texts. -/
theorem identityInsert_text_ne (table : TableName style) :
    (IdentityInsert.mk table true).text ≠ (IdentityInsert.mk table false).text := by
  intro h
  have hlength := congrArg String.length h
  by_cases ht : table.text = ""
  · simp [IdentityInsert.text, assemble, Text.joinWith, ht] at hlength
    exact absurd hlength (by decide)
  · simp [IdentityInsert.text, assemble, Text.joinWith, ht] at hlength
    exact absurd hlength (by decide)

namespace Compiler

variable (c : Compiler)

theorem create_not_isSwitch {table : String} {row : Row} {s : Statement}
    (h : c.create table row = .ok s) : ¬ IsSwitch s.sql := by
  cases hi : c.resolveInsert table row with
  | error e => rw [create, hi] at h; cases h
  | ok i =>
    rw [create, hi] at h
    cases h
    exact insert_not_isSwitch i

/-- What a row is compiled to inserts into the table by its name. -/
theorem create_begins {table : String} {row : Row} {s : Statement}
    (h : c.create table row = .ok s) :
    ∃ name columns, c.table table = .ok name ∧
      s.sql = "INSERT INTO " ++ name.text ++ " (" ++ columns := by
  obtain ⟨i, hi, rfl⟩ := map_eq_ok_iff.mp h
  obtain ⟨columns, hcolumns⟩ := i.text_begins
  exact ⟨i.table, columns, (resolveInsert_ok hi).2.1, hcolumns⟩

theorem create_isInsert {table : String} {row : Row} {s : Statement}
    (h : c.create table row = .ok s) :
    isInsert s.sql = true := by
  obtain ⟨name, columns, -, hsql⟩ := c.create_begins h
  simp [hsql, String.append_assoc]

/-- The two switches of a table differ in their last word. -/
theorem identityInsert_eq {table : String} {name : TableName c.style} (h : c.table table = .ok name)
    (enabled : Bool) : c.identityInsert table enabled =
      .ok ("SET IDENTITY_INSERT " ++ name.text ++ if enabled then " ON;" else " OFF;") := by
  have htext : (IdentityInsert.mk name enabled).text = _ :=
    IdentityInsert.text_of_checked (TableName.of_ok h).2
  rw [identityInsert, h, ← htext]
  rfl

theorem identityInsert_isSwitch {table sql : String} {enabled : Bool}
    (h : c.identityInsert table enabled = .ok sql) : IsSwitch sql := by
  cases hn : c.table table with
  | error e => rw [identityInsert, hn] at h; cases h
  | ok name =>
    rw [identityInsert, hn] at h
    cases h
    exact RowFerry.identityInsert_isSwitch _

/-- The statement that switches on is not the one that switches off. -/
theorem identityInsert_on_ne_off {table sql : String} (h : c.identityInsert table true = .ok sql) :
    c.identityInsert table false ≠ .ok sql := by
  cases hn : c.table table with
  | error e => rw [identityInsert, hn] at h; cases h
  | ok name =>
    rw [identityInsert, hn] at h ⊢
    intro hoff
    have htext := h.trans hoff.symm
    exact identityInsert_text_ne name (Except.ok.inj htext)

end Compiler

end RowFerry
