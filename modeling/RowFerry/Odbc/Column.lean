import RowFerry.Value

/-!
Column types and what becomes of the text that a driver renders for them; and parameters, which bind
integers, floating-point numbers, truth values and bytes as they are and everything else as text.
-/

namespace RowFerry.Odbc

/-- The type of a column. Types without a rule of their own are `other`. -/
inductive ColumnType where
  | tinyInt
  | smallInt
  | integer
  | bigInt
  | bit
  | real
  | float
  | double
  | decimal
  | numeric
  | date
  | time
  | timestamp
  | binary
  | varbinary
  | longVarchar
  | longVarbinary
  | other
  deriving Repr, DecidableEq

namespace ColumnType

/-- Columns of long types are read whole and handed out as large objects. -/
def isLong : ColumnType → Bool
  | longVarchar | longVarbinary => true
  | _ => false

def isBinary : ColumnType → Bool
  | binary | varbinary => true
  | _ => false

/-- The type by its name. -/
def ofName (name : String) : ColumnType :=
  match name with
  | "TINYINT" => tinyInt
  | "SMALLINT" => smallInt
  | "INTEGER" => integer
  | "BIGINT" => bigInt
  | "BIT" => bit
  | "REAL" => real
  | "FLOAT" => float
  | "DOUBLE" => double
  | "DECIMAL" => decimal
  | "NUMERIC" => numeric
  | "DATE" => date
  | "TIME" => time
  | "TIMESTAMP" => timestamp
  | "BINARY" => binary
  | "VARBINARY" => varbinary
  | "LONGVARCHAR" => longVarchar
  | "LONGVARBINARY" => longVarbinary
  | _ => other

/-- Reads a trimmed text by the type of its column. -/
def read? (type : ColumnType) (text : String) : Option Value :=
  match type with
  | tinyInt | smallInt | integer =>
    (Text.integer? (-(Nat.pow 2 31)) (Nat.pow 2 31 - 1) text.toList).map fun i =>
      .i32 (Int32.ofInt i)
  | bigInt =>
    (Text.integer? Value.minInt Value.maxInt text.toList).map fun i => .i64 (Int64.ofInt i)
  | bit =>
    if text = "1" then some (.bool true) else if text = "0" then some (.bool false) else none
  | real | float | double => (Binary64.ofText? text).map .f64
  | decimal | numeric => (Decimal.ofText? text).map .decimal
  | date => (Date.ofText? text).map .date
  | time => (Time.ofText? text).map .time
  | timestamp => (DateTime.ofText? text).map .dateTime
  | _ => none

/-- The value of a text by the type of its column; a text that the type does not admit stays a text,
with the blanks around it. -/
def parse (type : ColumnType) (text : String) : Value :=
  let trimmed := String.ofList (Text.trimBy Unicode.isWhiteSpace text.toList)
  (type.read? trimmed).getD (.string text)

end ColumnType

/-- A value as it is bound. -/
inductive Parameter where
  | null
  | bit (b : Bool)
  | long (n : Int32)
  | bigint (n : Int64)
  | double (x : Binary64)
  | binary (bs : List UInt8)
  | text (s : String)
  deriving Repr, DecidableEq

namespace Parameter

def ofValue : Value → Parameter
  | .null => null
  | .bool b => bit b
  | .i32 n => long n
  | .i64 n => bigint n
  | .f64 x => double x
  | .bytes bs => binary bs
  | v => text (v.text?.getD "")

/-- The text of a parameter by itself; a missing one has none. -/
def plain : Parameter → Option String
  | null => none
  | bit b => some (if b then "1" else "0")
  | long n => some (Value.intText n.toInt)
  | bigint n => some (Value.intText n.toInt)
  | double x => some (Value.plainFloat.write x)
  | binary bs => some (String.ofList (Text.hexBytes bs))
  | text s => some s

end Parameter

end RowFerry.Odbc
