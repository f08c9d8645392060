import RowFerry.Calendar.Reading
import RowFerry.Json
import RowFerry.Number.Decimal
import RowFerry.Number.Shortest
import RowFerry.Text.Quoted
import RowFerry.Uuid

/-!
Values that travel between databases, and their texts: plain, as bound to a statement, as shown in
messages, and as JSON.
-/

namespace RowFerry

/-- A scalar of a table. -/
inductive Value where
  | null
  | bool (b : Bool)
  | i32 (n : Int32)
  | i64 (n : Int64)
  | f64 (x : Binary64)
  | string (s : String)
  | bytes (bs : List UInt8)
  | decimal (d : Decimal)
  | dateTime (m : DateTime)
  | date (d : Date)
  | time (t : Time)
  | uuid (u : Uuid)
  deriving Repr, DecidableEq

namespace Value

/-- Plain numbers have no exponent and no `.0`. -/
def plainFloat : FloatLayout := ⟨fun _ => true, false, false, .up⟩

/-- Shown numbers keep `.0` and turn to an exponent below `0.0001` and from `1e16` on. -/
def shownFloat : FloatLayout := ⟨fun point => -3 ≤ point && point ≤ 16, true, false, .up⟩

/-- JSON numbers keep `.0`, turn to an exponent below `0.00001` and from `1e16` on, and give a
positive exponent its sign. -/
def jsonFloat : FloatLayout := ⟨fun point => -4 ≤ point && point ≤ 16, true, true, .even⟩

def isNull : Value → Bool
  | null => true
  | _ => false

def intText (i : Int) : String := String.ofList (Text.signedNumeral i)

/-- The text of a value by itself; a missing value has none. -/
def plain : Value → Option String
  | null => none
  | bool b => some (if b then "true" else "false")
  | i32 n => some (intText n.toInt)
  | i64 n => some (intText n.toInt)
  | f64 x => some (plainFloat.write x)
  | string s => some s
  | bytes bs => some (String.ofList (Text.hexBytes bs))
  | decimal d => some d.text
  | dateTime m => some m.text
  | date d => some d.text
  | time t => some t.text
  | uuid u => some u.text

/-- The text that binds a value to a statement where values are bound as text: truth values are
digits and times have six digits of a fraction. -/
def text? : Value → Option String
  | bool b => some (if b then "1" else "0")
  | dateTime m => some (String.ofList m.microChars)
  | time t => some (String.ofList t.microChars)
  | v => v.plain

/-- The value as messages show it. -/
def shown : Value → String
  | null => "Null"
  | bool b => "Bool(" ++ (if b then "true" else "false") ++ ")"
  | i32 n => "I32(" ++ intText n.toInt ++ ")"
  | i64 n => "I64(" ++ intText n.toInt ++ ")"
  | f64 x => "F64(" ++ shownFloat.write x ++ ")"
  | string s => "String(" ++ Text.quoted s ++ ")"
  | bytes bs =>
    "Bytes([" ++ Text.joinWith ", " (bs.map fun b => String.ofList (Text.numeral b.toNat)) ++ "])"
  | decimal d => "Decimal(" ++ d.text ++ ")"
  | dateTime m => "DateTime(" ++ m.text ++ ")"
  | date d => "Date(" ++ d.text ++ ")"
  | time t => "Time(" ++ t.text ++ ")"
  | uuid u => "Uuid(" ++ u.text ++ ")"

/-- The value in JSON. Numbers that are not finite are null. -/
def toJson : Value → Json
  | null => .null
  | bool b => .bool b
  | i32 n => .number (intText n.toInt)
  | i64 n => .number (intText n.toInt)
  | f64 x => if x.isNaN || x.isInfinite then .null else .number (jsonFloat.write x)
  | string s => .string s
  | v => .string (v.plain.getD "")

def minInt : Int := -(Nat.pow 2 63)
def maxInt : Int := Nat.pow 2 63 - 1

/-- An integer when it lies within 64 bits. -/
def withinBounds? (i : Int) : Option Int := if minInt ≤ i && i ≤ maxInt then some i else none

/-- The integer that a value stands for. Drivers report totals as integers, as decimals, as text or
as floating-point numbers; the places of a decimal are dropped, and an integral floating-point
number beyond 64 bits counts as the nearest bound. -/
def integer? : Value → Option Int
  | i32 n => some n.toInt
  | i64 n => some n.toInt
  | decimal d => withinBounds? d.truncated
  | string s => Text.integer? minInt maxInt (Text.trimBy Unicode.isWhiteSpace s.toList)
  | f64 x => x.integer?.map fun i => max minInt (min i maxInt)
  | _ => none

/-- Equality of values: the same kind, decimals by number, floating-point numbers by number. -/
def same : Value → Value → Bool
  | f64 x, f64 y => x.sameNumber y
  | decimal a, decimal b => a.sameNumber b
  | v, w => v == w

end Value

end RowFerry
