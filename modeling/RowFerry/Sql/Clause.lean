import RowFerry.Criteria
import RowFerry.Sql.Ident

/-!
Clauses of statements. Resolving turns the references of a clause into checked names; the text of a
resolved clause then cannot fail. A clause without content is the empty text.
-/

namespace RowFerry

variable {style : NameStyle}

/-- A projection with its columns resolved. -/
inductive Selection (style : NameStyle) where
  | all
  | columns (names : List (ColumnName style))
  | expression (text : String)
  deriving Repr, DecidableEq

namespace Selection

/-- No columns at all mean all of them. -/
def of (style : NameStyle) (scope : List String) :
    Projection → Except CompileError (Selection style)
  | .all => .ok .all
  | .columns [] => .ok .all
  | .columns references => do
    let names ← references.mapM (ColumnName.of style scope)
    pure (.columns names)
  | .expression text => .ok (.expression text)

def listText : Selection style → String
  | .all => "*"
  | .columns names => Text.joinWith ", " (names.map ColumnName.text)
  | .expression text => text

def text (s : Selection style) : String := "SELECT " ++ s.listText

end Selection

/-- A join with its names resolved. -/
structure Join (style : NameStyle) where
  kind : JoinKind
  table : TableName style
  aliasName : Option (Ident style)
  conditions : List (ColumnName style × ColumnName style)
  deriving Repr, DecidableEq

namespace Join

/-- Resolves a join; it needs a condition, and an empty alias is none. -/
def of (style : NameStyle) (tablespace : String) (scope : List String) (spec : JoinSpec) :
    Except CompileError (Join style) := do
  if spec.conditions.isEmpty then throw (.joinWithoutCondition spec.table)
  let table ← TableName.of style tablespace spec.table
  let aliasName ← match spec.aliasName with
    | none => pure none
    | some a => if a.isEmpty then pure none else (Ident.of style a).map some
  let conditions ← spec.conditions.mapM fun (left, right) => do
    let l ← ColumnName.of style scope left
    let r ← ColumnName.of style scope right
    pure (l, r)
  pure ⟨spec.kind, table, aliasName, conditions⟩

def conditionText (pair : ColumnName style × ColumnName style) : String :=
  pair.1.text ++ " = " ++ pair.2.text

def targetText (j : Join style) : String :=
  match j.aliasName with
  | none => j.table.text
  | some a => j.table.text ++ " " ++ a.text

def text (j : Join style) : String :=
  j.kind.keyword ++ " " ++ j.targetText ++ " ON " ++
    Text.joinWith " AND " (j.conditions.map conditionText)

/-- All joins of a statement. -/
def listText (js : List (Join style)) : String := Text.joinWith " " (js.map Join.text)

end Join

/-- The mark that a bound value takes in a statement. -/
def placeholder : String := "?"

/-- What a predicate asks of its column. -/
inductive Test where
  | holds (comparison : Comparison) (operand : Value)
  | isNull
  | isNotNull
  deriving Repr, DecidableEq

/-- Being equal or unequal to a missing value is being missing or not. -/
def Filter.test : Filter → Test
  | .compares .eq .null => .isNull
  | .compares .ne .null => .isNotNull
  | .compares c v => .holds c v
  | .isNull => .isNull
  | .isNotNull => .isNotNull

/-- A condition on a resolved column. -/
structure Predicate (style : NameStyle) where
  column : ColumnName style
  test : Test
  deriving Repr, DecidableEq

namespace Predicate

def text (p : Predicate style) : String :=
  match p.test with
  | .holds c _ => p.column.text ++ " " ++ c.symbol ++ " " ++ placeholder
  | .isNull => p.column.text ++ " IS NULL"
  | .isNotNull => p.column.text ++ " IS NOT NULL"

/-- The value that a predicate binds. -/
def operand? (p : Predicate style) : Option Value :=
  match p.test with
  | .holds _ v => some v
  | _ => none

/-- The values that predicates bind, in order. -/
def operands (ps : List (Predicate style)) : List Value := ps.filterMap operand?

/-- The predicates before the first column that is refused, and why it is refused. -/
def resolved (style : NameStyle) (scope : List String) :
    List (String × Filter) → List (Predicate style) × Option CompileError
  | [] => ([], none)
  | (reference, filter) :: fs =>
    match ColumnName.of style scope reference with
    | .error e => ([], some e)
    | .ok column =>
      let (ps, e) := resolved style scope fs
      (⟨column, filter.test⟩ :: ps, e)

/-- Resolves all filters of a statement. -/
def of (style : NameStyle) (scope : List String) (filters : List (String × Filter)) :
    Except CompileError (List (Predicate style)) :=
  match resolved style scope filters with
  | (ps, none) => .ok ps
  | (_, some e) => .error e

/-- The clause of all predicates of a statement. -/
def listText (ps : List (Predicate style)) : String :=
  if ps.isEmpty then "" else "WHERE " ++ Text.joinWith " AND " (ps.map Predicate.text)

end Predicate

/-- Writing a clause whose operands are bound on the way. What has been bound stays bound when the
clause cannot be written. -/
abbrev Binding := ExceptT CompileError (StateM (List Value))

/-- Binds the operand of a predicate behind the values bound so far. -/
def Predicate.bindOperand (p : Predicate style) : Binding Unit :=
  match p.operand? with
  | some v => modify fun bound => bound ++ [v]
  | none => pure ()

/-- The text of a filter. Its operand is bound once its column has been accepted. -/
def Predicate.write (style : NameStyle) (scope : List String) (filter : String × Filter) :
    Binding String := do
  let column ← ExceptT.mk (pure (ColumnName.of style scope filter.1))
  let p : Predicate style := ⟨column, filter.2.test⟩
  p.bindOperand
  pure p.text

/-- The clause of the filters, with the values bound before it and those that it binds. -/
def whereClause (style : NameStyle) (scope : List String) (filters : List (String × Filter))
    (bound : List Value) : Except CompileError String × List Value :=
  if filters.isEmpty then (.ok "", bound)
  else
    let clause : Binding String := do
      let texts ← filters.mapM (Predicate.write style scope)
      pure ("WHERE " ++ Text.joinWith " AND " texts)
    clause.run.run bound

def uint64Text (n : UInt64) : String := natText n.toNat

def limitText : Option UInt64 → String
  | none => ""
  | some n => "LIMIT " ++ uint64Text n

def offsetText : Option UInt64 → String
  | none => ""
  | some n => "OFFSET " ++ uint64Text n

/-- A key of an order with its column resolved. -/
structure SortKey (style : NameStyle) where
  column : ColumnName style
  direction : SortDirection
  deriving Repr, DecidableEq

namespace SortKey

def of (style : NameStyle) (scope : List String) (key : String × SortDirection) :
    Except CompileError (SortKey style) := do
  let column ← ColumnName.of style scope key.1
  pure ⟨column, key.2⟩

def text (k : SortKey style) : String := k.column.text ++ " " ++ k.direction.keyword

def listText (ks : List (SortKey style)) : String :=
  if ks.isEmpty then "" else "ORDER BY " ++ Text.joinWith ", " (ks.map SortKey.text)

end SortKey

/-- The columns that a statement sets, each to a bound value. -/
def setText (columns : List (Ident style)) : String :=
  "SET " ++ Text.joinWith ", " (columns.map fun c => c.text ++ " = " ++ placeholder)

/-- The segments that are not empty, with blanks between them and a semicolon after them. -/
def assemble (segments : List String) : String :=
  Text.joinWith " " (segments.filter fun s => !s.isEmpty) ++ ";"

end RowFerry
