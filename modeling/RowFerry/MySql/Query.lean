import RowFerry.Failure
import RowFerry.Sql.Ident
import RowFerry.Value

/-!
Page queries to a MySQL server. Names stand between backticks with every backtick written twice;
filters are bound in order, and the limit and the offset after them.
-/

namespace RowFerry.MySql

/-- The characters of a name with every backtick written twice. -/
def doubledTicks (cs : List Char) : List Char :=
  cs.flatMap fun c => if c = '\x60' then ['\x60', '\x60'] else [c]

/-- A name between backticks. -/
def ticked (name : String) : String :=
  String.ofList ('\x60' :: doubledTicks name.toList ++ ['\x60'])

/-- Checks a name and writes it. -/
def quoteName (name : String) : Except CompileError String :=
  (checkName name).map fun () => ticked name

/-- A value as it is bound to a query. -/
inductive Parameter where
  | tiny (b : Bool)
  | long (n : Int32)
  | longLong (n : Int64)
  | unsignedLongLong (n : UInt64)
  | double (x : Binary64)
  | string (s : String)
  | blob (bs : List UInt8)
  | decimal (d : Decimal)
  | date (d : Date)
  | time (t : Time)
  | dateTime (m : DateTime)
  deriving Repr, DecidableEq

/-- How a value is bound; a missing one is not. -/
def Parameter.ofValue? : Value → Option Parameter
  | .null => none
  | .bool b => some (tiny b)
  | .i32 n => some (long n)
  | .i64 n => some (longLong n)
  | .f64 x => some (double x)
  | .string s => some (string s)
  | .bytes bs => some (blob bs)
  | .decimal d => some (decimal d)
  | .dateTime m => some (dateTime m)
  | .date d => some (date d)
  | .time t => some (time t)
  | .uuid u => some (string u.text)

/-- A query for some rows of a table, whose columns equal the values of the filters. -/
structure PageQuery where
  table : String
  filters : List (String × Value)
  limit : UInt64
  offset : UInt64
  deriving Repr, DecidableEq

namespace PageQuery

/-- The condition of one filter. -/
def predicate (filter : String × Value) : Except CompileError String := do
  let column ← quoteName filter.1
  pure (if filter.2.isNull then column ++ " IS NULL" else column ++ " = ?")

/-- The text of a query. -/
def sql (q : PageQuery) : Except CompileError String := do
  let table ← quoteName q.table
  let predicates ← q.filters.mapM predicate
  let condition :=
    if predicates.isEmpty then "" else " WHERE " ++ Text.joinWith " AND " predicates
  pure ("SELECT * FROM " ++ table ++ condition ++ " LIMIT ? OFFSET ?")

/-- The values bound to a query. -/
def parameters (q : PageQuery) : List Parameter :=
  q.filters.filterMap (fun f => Parameter.ofValue? f.2) ++
    [.unsignedLongLong q.limit, .unsignedLongLong q.offset]

end PageQuery

end RowFerry.MySql
