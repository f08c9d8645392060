import RowFerry.Text.Utf8
import RowFerry.Value

/-!
Columns of a MySQL server: what becomes of a cell by the name of the type of its column. How a cell
is decoded as what it is asked for is up to the library that talks to the server, and a parameter
here. A cell that is not null and cannot be decoded fails.
-/

namespace RowFerry.MySql

/-- The kinds of columns that are read differently. -/
inductive ColumnKind where
  | signed
  | unsigned
  | year
  | float
  | double
  | decimal
  | boolean
  | bytes
  | date
  | time
  | dateTime
  | text
  deriving Repr, DecidableEq

/-- The kind by the name of the type, in either case. Bit fields are read as
integers without a sign. -/
def ColumnKind.ofName (name : String) : ColumnKind :=
  match String.ofList (name.toList.map Char.toLower) with
  | "tinyint" | "smallint" | "mediumint" | "int" | "bigint" => signed
  | "tinyint unsigned" | "smallint unsigned" | "mediumint unsigned" | "int unsigned"
  | "bigint unsigned" | "bit" => unsigned
  | "year" => year
  | "float" => float
  | "double" => double
  | "decimal" => decimal
  | "boolean" => boolean
  | "binary" | "varbinary" | "blob" | "tinyblob" | "mediumblob" | "longblob" => bytes
  | "date" => date
  | "time" => time
  | "datetime" | "timestamp" => dateTime
  | _ => text

/-- A cell as a server sends it: missing, a text, or bytes. -/
inductive Cell where
  | null
  | text (s : String)
  | bytes (bs : List UInt8)
  deriving Repr, DecidableEq

/-- What the library that talks to the server makes of a cell in a column of a type: whether it is
null, and the cell as what it is asked for, or why it cannot be that. A `float` is given as the
wider number that it is, and `raw` is not checked against the type. -/
structure Decoder where
  isNull : String → Cell → Except String Bool
  signed : String → Cell → Except String Int64
  unsigned : String → Cell → Except String UInt64
  year : String → Cell → Except String UInt16
  float : String → Cell → Except String Binary64
  double : String → Cell → Except String Binary64
  decimal : String → Cell → Except String Decimal
  boolean : String → Cell → Except String Bool
  bytes : String → Cell → Except String (List UInt8)
  date : String → Cell → Except String Date
  time : String → Cell → Except String Time
  dateTime : String → Cell → Except String DateTime
  text : String → Cell → Except String String
  raw : String → Cell → Except String (List UInt8)

/-- An unsigned number; beyond the signed integers of 64 bits it is a decimal. -/
def ofUnsigned (n : UInt64) : Value :=
  if (n.toNat : Int) ≤ Value.maxInt then .i64 (Int64.ofInt n.toNat)
  else .decimal (Decimal.ofNat n.toNat)

namespace Decoder

variable (d : Decoder)

/-- The value of a cell that is not null. What is no text is read as one with its invalid parts
replaced. -/
def read (type : String) (cell : Cell) : Except String Value :=
  match ColumnKind.ofName type with
  | .signed => (d.signed type cell).map .i64
  | .unsigned => (d.unsigned type cell).map ofUnsigned
  | .year => (d.year type cell).map fun n => .i32 (Int32.ofInt n.toNat)
  | .float => (d.float type cell).map .f64
  | .double => (d.double type cell).map .f64
  | .decimal => (d.decimal type cell).map .decimal
  | .boolean => (d.boolean type cell).map .bool
  | .bytes => (d.bytes type cell).map .bytes
  | .date => (d.date type cell).map .date
  | .time => (d.time type cell).map .time
  | .dateTime => (d.dateTime type cell).map .dateTime
  | .text =>
    match d.text type cell with
    | .ok s => .ok (.string s)
    | .error _ => (d.raw type cell).map fun bs => .string (Text.Utf8.read bs)

/-- The value of a cell. -/
def decode (type : String) (cell : Cell) : Except String Value := do
  if ← d.isNull type cell then pure .null else d.read type cell

end Decoder

end RowFerry.MySql
