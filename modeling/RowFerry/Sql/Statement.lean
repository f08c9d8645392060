import RowFerry.Row
import RowFerry.Sql.Clause

/-!
Statements: first as resolved parts, then as text with the values that it binds.
-/

namespace RowFerry

variable {style : NameStyle}

/-- A statement as the engine takes it: its text and the values bound to its placeholders. -/
structure Statement where
  sql : String
  values : List Value
  deriving Repr, DecidableEq

def Statement.toJson (s : Statement) : Json :=
  .object [("sql", .string s.sql), ("values", .array (s.values.map Value.toJson))]

/-- A new row. -/
structure Insert (style : NameStyle) where
  table : TableName style
  columns : List (Ident style)
  values : List Value
  deriving Repr, DecidableEq

namespace Insert

def text (s : Insert style) : String :=
  assemble [
    "INSERT INTO " ++ s.table.text,
    "(" ++ Text.joinWith ", " (s.columns.map Ident.text) ++ ")",
    "VALUES (" ++ Text.joinWith ", " (s.columns.map fun _ => placeholder) ++ ")"]

def statement (s : Insert style) : Statement := ⟨s.text, s.values⟩

end Insert

/-- A query. -/
structure Select (style : NameStyle) where
  selection : Selection style
  table : TableName style
  joins : List (Join style)
  predicates : List (Predicate style)
  limit : Option UInt64
  offset : Option UInt64
  order : List (SortKey style)
  deriving Repr, DecidableEq

namespace Select

def text (s : Select style) : String :=
  assemble [
    s.selection.text,
    "FROM " ++ s.table.text,
    Join.listText s.joins,
    Predicate.listText s.predicates,
    limitText s.limit,
    offsetText s.offset,
    SortKey.listText s.order]

def statement (s : Select style) : Statement := ⟨s.text, Predicate.operands s.predicates⟩

end Select

/-- A change of the rows that match. -/
structure Update (style : NameStyle) where
  table : TableName style
  columns : List (Ident style)
  values : List Value
  predicates : List (Predicate style)
  deriving Repr, DecidableEq

namespace Update

def text (s : Update style) : String :=
  assemble ["UPDATE " ++ s.table.text, setText s.columns, Predicate.listText s.predicates]

/-- The values set come first, then the operands of the predicates. -/
def statement (s : Update style) : Statement :=
  ⟨s.text, s.values ++ Predicate.operands s.predicates⟩

end Update

/-- A removal of the rows that match. -/
structure Delete (style : NameStyle) where
  table : TableName style
  predicates : List (Predicate style)
  deriving Repr, DecidableEq

namespace Delete

def text (s : Delete style) : String :=
  assemble ["DELETE", "FROM " ++ s.table.text, Predicate.listText s.predicates]

def statement (s : Delete style) : Statement := ⟨s.text, Predicate.operands s.predicates⟩

end Delete

/-- Whether rows may bring their own values for the identity column of a table. -/
structure IdentityInsert (style : NameStyle) where
  table : TableName style
  enabled : Bool
  deriving Repr, DecidableEq

def IdentityInsert.text (s : IdentityInsert style) : String :=
  assemble ["SET IDENTITY_INSERT", s.table.text, if s.enabled then "ON" else "OFF"]

end RowFerry
