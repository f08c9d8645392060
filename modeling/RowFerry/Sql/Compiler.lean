import RowFerry.Sql.Statement

/-!
Compiling criteria and rows into statements for one tablespace and one style of names. Nothing here
touches a connection.
-/

namespace RowFerry

/-- Where tables live and how names are written. -/
structure Compiler where
  tablespace : String
  style : NameStyle
  deriving Repr, DecidableEq

/-- The aggregate that counts rows. -/
def countRows : String := "COUNT(*)"

/-- The column that a count is read back from. -/
def countColumn : String := "total"

/-- The names that may qualify a column: the table, each joined table and each alias. -/
def Criteria.scope (c : Criteria) (table : String) : List String :=
  table :: c.joins.flatMap fun j => j.table :: j.aliasName.toList

namespace Compiler

/-- The table as statements name it. -/
def table (c : Compiler) (name : String) : Except CompileError (TableName c.style) :=
  TableName.of c.style c.tablespace name

/-- Resolves a new row. -/
def resolveInsert (c : Compiler) (table : String) (row : Row) :
    Except CompileError (Insert c.style) := do
  if row.isEmpty then throw (.nothingToInsert table)
  let columns ← row.names.mapM (Ident.of c.style)
  let table ← c.table table
  pure ⟨table, columns, row.values⟩

/-- Resolves a query with a projection of its own. -/
def resolveSelect (c : Compiler) (table : String) (criteria : Criteria) (projection : Projection) :
    Except CompileError (Select c.style) := do
  let scope := criteria.scope table
  let selection ← Selection.of c.style scope projection
  let table ← c.table table
  let joins ← criteria.joins.mapM (Join.of c.style c.tablespace scope)
  let predicates ← Predicate.of c.style scope criteria.filters
  let order ← criteria.sort.mapM (SortKey.of c.style scope)
  pure ⟨selection, table, joins, predicates, criteria.limit, criteria.offset, order⟩

/-- The projection that counts under the name that counts are read back from. -/
def countProjection (c : Compiler) (expression : Option String) :
    Except CompileError Projection := do
  let total ← Ident.of c.style countColumn
  pure (.expression (expression.getD countRows ++ " AS " ++ total.text))

/-- Resolves a change. -/
def resolveUpdate (c : Compiler) (table : String) (criteria : Criteria) (row : Row) :
    Except CompileError (Update c.style) := do
  if row.isEmpty then throw (.nothingToSet table)
  let name ← c.table table
  let columns ← row.names.mapM (Ident.of c.style)
  let predicates ← Predicate.of c.style [table] criteria.filters
  pure ⟨name, columns, row.values, predicates⟩

/-- Resolves a removal. -/
def resolveDelete (c : Compiler) (table : String) (criteria : Criteria) :
    Except CompileError (Delete c.style) := do
  let name ← c.table table
  let predicates ← Predicate.of c.style [table] criteria.filters
  pure ⟨name, predicates⟩

def create (c : Compiler) (table : String) (row : Row) : Except CompileError Statement :=
  (c.resolveInsert table row).map Insert.statement

def find (c : Compiler) (table : String) (criteria : Criteria) : Except CompileError Statement :=
  (c.resolveSelect table criteria criteria.projection).map Select.statement

/-- Counts what the criteria match. Their projection plays no part, their pages and order do. -/
def count (c : Compiler) (table : String) (criteria : Criteria) (expression : Option String) :
    Except CompileError Statement := do
  let projection ← c.countProjection expression
  (c.resolveSelect table criteria projection).map Select.statement

def update (c : Compiler) (table : String) (criteria : Criteria) (row : Row) :
    Except CompileError Statement :=
  (c.resolveUpdate table criteria row).map Update.statement

def delete (c : Compiler) (table : String) (criteria : Criteria) : Except CompileError Statement :=
  (c.resolveDelete table criteria).map Delete.statement

/-- The statement that lets rows bring their own identity values, or no longer. -/
def identityInsert (c : Compiler) (table : String) (enabled : Bool) : Except CompileError String :=
  (c.table table).map fun name => (IdentityInsert.mk name enabled).text

end Compiler

end RowFerry
