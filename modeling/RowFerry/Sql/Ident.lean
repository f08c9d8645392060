import RowFerry.Failure
import RowFerry.Text.Lists
import RowFerry.Text.Utf8
import RowFerry.Unicode.Alphabetic
import RowFerry.Unicode.Numeric
import RowFerry.Unicode.Upper

/-!
Identifiers in statements. They cannot be bound as parameters, so a name becomes an identifier only
after a check, and its text depends on the style: quoted names stand between double quotes as they
are, folded names stand bare in upper case, which is how the engine folds a bare name. Nothing
protects a bare name, so only plain words are folded.
-/

namespace RowFerry

/-- How identifiers are written. -/
inductive NameStyle where
  | quoted
  | folded
  deriving Repr, DecidableEq

/-- Refuses names that no style can write. -/
def checkName (name : String) : Except CompileError Unit :=
  if name.toList.isEmpty then .error .emptyIdentifier
  else if name.toList.contains '\x00' then .error (.nullByte name)
  else if maxIdentifierBytes < Text.Utf8.size name then
    .error (.tooLong name (Text.Utf8.size name))
  else .ok ()

/-- May the character stand first in a plain word? -/
def startsWord (c : Char) : Bool := Unicode.isAlphabetic c || c == '_'

/-- May the character stand in a plain word? -/
def continuesWord (c : Char) : Bool :=
  Unicode.isAlphabetic c || Unicode.isNumeric c || c == '_' || c == '$' || c == '#'

/-- Letters of any script, numbers, `_`, `$` and `#`, beginning with a letter or `_`. -/
def isPlainWord : List Char → Bool
  | [] => false
  | c :: cs => startsWord c && cs.all continuesWord

/-- A name that the style can write. -/
structure Ident (style : NameStyle) where
  name : String
  deriving Repr, DecidableEq

namespace Ident

/-- Checks a name. -/
def of (style : NameStyle) (name : String) : Except CompileError (Ident style) :=
  match checkName name with
  | .error e => .error e
  | .ok () =>
    match style with
    | .quoted => .ok ⟨name⟩
    | .folded => if isPlainWord name.toList then .ok ⟨name⟩ else .error (.notPlainWord name)

/-- The characters of a name with every double quote written twice. -/
def doubled (cs : List Char) : List Char := cs.flatMap fun c => if c = '"' then ['"', '"'] else [c]

/-- The text of an identifier. -/
def text {style : NameStyle} (i : Ident style) : String :=
  match style with
  | .quoted => String.ofList ('"' :: doubled i.name.toList ++ ['"'])
  | .folded => Unicode.upper i.name

end Ident

/-- Do two names name the same thing? -/
def NameStyle.sameName (style : NameStyle) (a b : String) : Bool :=
  match style with
  | .quoted => a == b
  | .folded => Unicode.upper a == Unicode.upper b

/-- A table, qualified with its tablespace if there is one. -/
structure TableName (style : NameStyle) where
  tablespace : Option (Ident style)
  table : Ident style
  deriving Repr, DecidableEq

namespace TableName

/-- Checks the table, then the tablespace; an empty tablespace is none. -/
def of (style : NameStyle) (tablespace table : String) : Except CompileError (TableName style) := do
  let t ← Ident.of style table
  if tablespace.isEmpty then pure ⟨none, t⟩
  else
    let s ← Ident.of style tablespace
    pure ⟨some s, t⟩

def text {style : NameStyle} (n : TableName style) : String :=
  match n.tablespace with
  | none => n.table.text
  | some s => s.text ++ "." ++ n.table.text

end TableName

/-- A column, qualified with a table or an alias if there is one. -/
structure ColumnName (style : NameStyle) where
  qualifier : Option (Ident style)
  column : Ident style
  deriving Repr, DecidableEq

namespace ColumnName

/-- Checks the column, then the qualifier; an empty qualifier is none. -/
def qualified (style : NameStyle) (qualifier column : String) :
    Except CompileError (ColumnName style) := do
  let c ← Ident.of style column
  if qualifier.isEmpty then pure ⟨none, c⟩
  else
    let q ← Ident.of style qualifier
    pure ⟨some q, c⟩

/-- Resolves a reference. It is cut at its first dot when the part before the dot is empty or names
something in scope; any other reference, dots included, is the name of a column. -/
def of (style : NameStyle) (scope : List String) (reference : String) :
    Except CompileError (ColumnName style) :=
  let whole := do
    let c ← Ident.of style reference
    pure ⟨none, c⟩
  match Text.cutAt '.' reference.toList with
  | none => whole
  | some (q, c) =>
    let q := String.ofList q
    if q.isEmpty || scope.any (style.sameName · q) then qualified style q (String.ofList c)
    else whole

def text {style : NameStyle} (n : ColumnName style) : String :=
  match n.qualifier with
  | none => n.column.text
  | some q => q.text ++ "." ++ n.column.text

end ColumnName

end RowFerry
