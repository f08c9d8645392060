import RowFerry.MySql.Column

/-!
A decoder for cells that a script writes: numbers, dates and times as texts, the bytes of a bit
field as bytes. Zero dates are null and times lose their sign.
-/

namespace RowFerry

/-- The text of a cell, invalid parts replaced. -/
def MySql.Cell.shown : Cell → String
  | null => ""
  | text s => s
  | bytes bs => Text.Utf8.read bs

/-- The bytes of a cell. -/
def MySql.Cell.content : Cell → List UInt8
  | null => []
  | text s => Text.Utf8.bytes s
  | bytes bs => bs

namespace Rehearsal

/-- The number of a bit field: its bytes, the highest first, the last eight of them. -/
def ofBits (bs : List UInt8) : Nat := bs.foldl (fun n b => (n * 256 + b.toNat) % Nat.pow 2 64) 0

/-- A natural number below a bound. -/
def natural? (bound : Nat) (s : String) : Option Nat :=
  (Text.integer? 0 (bound - 1) s.toList).map Int.toNat

/-- The nearest binary32 number to a numeral. -/
def float32? (s : String) : Option Binary64 :=
  let (negative, cs) := Binary64.signAndRest s.toList
  (Binary64.Scientific.ofChars? negative cs).map fun n =>
    if 0 ≤ n.exponent then Binary64.ofRatio32 negative (n.digits * Nat.pow 10 n.exponent.toNat) 1
    else Binary64.ofRatio32 negative n.digits (Nat.pow 10 (-n.exponent).toNat)

/-- Do columns of the type hold dates? -/
def isDated (type : String) : Bool := type = "DATE" || type = "DATETIME" || type = "TIMESTAMP"

/-- Is it the date whose numbers are all zero, with a time of zeros or without one? -/
def isZeroDate (s : String) : Bool :=
  !s.isEmpty && s.toList.all fun c => c = '0' || c = '-' || c = ':' || c = ' ' || c = '.'

/-- Reads a time: an optional sign, which is lost, the days, and the time of the day. Days count as
24 hours, so only day zero holds a time of day. -/
def time? (s : String) : Option Time :=
  let cs := match s.toList with
    | '-' :: cs => cs
    | cs => cs
  match Text.cutAt ' ' cs with
  | some (days, rest) =>
    if !days.isEmpty && days.all (· == '0') then Time.ofText? (String.ofList rest) else none
  | none => Time.ofText? (String.ofList cs)

/-- Reads a date and a time; a date alone has midnight. -/
def dateTime? (s : String) : Option DateTime :=
  match DateTime.ofText? s with
  | some m => some m
  | none => do
    let date ← Date.ofText? s
    let midnight ← Time.of? 0 0 0 0
    pure ⟨date, midnight⟩

/-- What a cell holds, if it holds what is asked for. -/
def holding {α : Type} : Option α → Except String α
  | some a => .ok a
  | none => .error "the cell holds no such value"

/-- The decoder. A column of timestamps does not hold dates and times as they are asked for. -/
def decoder : MySql.Decoder where
  isNull type cell := .ok (cell = .null || (isDated type && isZeroDate cell.shown))
  signed _ cell :=
    holding ((Text.integer? Value.minInt Value.maxInt cell.shown.toList).map Int64.ofInt)
  unsigned _ cell :=
    match cell with
    | .bytes bs => .ok (UInt64.ofNat (ofBits bs))
    | cell => holding ((natural? (Nat.pow 2 64) cell.shown).map UInt64.ofNat)
  year _ cell := holding ((natural? (Nat.pow 2 16) cell.shown).map UInt16.ofNat)
  float _ cell := holding (float32? cell.shown)
  double _ cell := holding (Binary64.ofText? cell.shown)
  decimal _ cell := holding (Decimal.ofText? cell.shown)
  boolean _ cell :=
    holding ((Text.integer? Value.minInt Value.maxInt cell.shown.toList).map fun i => i != 0)
  bytes _ cell := .ok cell.content
  date _ cell := holding (Date.ofText? cell.shown)
  time _ cell := holding (time? cell.shown)
  dateTime type cell := holding (if type = "TIMESTAMP" then none else dateTime? cell.shown)
  text _ cell := .ok cell.shown
  raw _ cell := .ok cell.content

end Rehearsal

end RowFerry
