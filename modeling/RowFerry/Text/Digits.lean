/-!
Digits of numbers: decimal numerals, zero-padded fields, hexadecimal bytes.
-/

namespace RowFerry.Text

/-- The value of a decimal digit. -/
def digitValue (c : Char) : Nat := c.toNat - '0'.toNat

/-- The number that a list of decimal digits denotes. -/
def ofDigits (cs : List Char) : Nat := cs.foldl (fun n c => n * 10 + digitValue c) 0

/-- The decimal numeral of a natural number. -/
def numeral (n : Nat) : List Char := Nat.toDigits 10 n

/-- The decimal numeral of an integer, with a sign only when it is negative. -/
def signedNumeral (i : Int) : List Char :=
  if i < 0 then '-' :: numeral i.natAbs else numeral i.natAbs

/-- A decimal numeral filled up with zeros on the left. -/
def padded (width n : Nat) : List Char :=
  let ds := numeral n
  List.replicate (width - ds.length) '0' ++ ds

/-- The lower-case hexadecimal digit of a number below sixteen. -/
def hexDigit (n : Nat) : Char := Nat.digitChar n

/-- The value of a hexadecimal digit of either case. -/
def hexValue? (c : Char) : Option Nat :=
  if c.isDigit then some (digitValue c)
  else if 'a' ≤ c && c ≤ 'f' then some (c.toNat - 'a'.toNat + 10)
  else if 'A' ≤ c && c ≤ 'F' then some (c.toNat - 'A'.toNat + 10)
  else none

/-- Two lower-case hexadecimal digits for each byte. -/
def hexBytes (bytes : List UInt8) : List Char :=
  bytes.flatMap fun b => [hexDigit (b.toNat / 16), hexDigit (b.toNat % 16)]

/-- Reads hexadecimal bytes after those in `done` (the last one first). -/
def readHex (done : List UInt8) : List Char → Option (List UInt8)
  | [] => some done.reverse
  | [_] => none
  | a :: b :: cs =>
    match hexValue? a, hexValue? b with
    | some high, some low => readHex (UInt8.ofNat (high * 16 + low) :: done) cs
    | _, _ => none

/-- Reads what `hexBytes` writes, in either case. -/
def bytesOfHex? (cs : List Char) : Option (List UInt8) := readHex [] cs

/-- Reads an integer: an optional sign, then digits only, and the value within bounds. -/
def integer? (low high : Int) (cs : List Char) : Option Int :=
  let (negative, ds) := match cs with
    | '-' :: ds => (true, ds)
    | '+' :: ds => (false, ds)
    | ds => (false, ds)
  if ds.isEmpty || !ds.all Char.isDigit then none
  else
    let i : Int := if negative then -(ofDigits ds : Int) else ofDigits ds
    if low ≤ i && i ≤ high then some i else none

end RowFerry.Text
