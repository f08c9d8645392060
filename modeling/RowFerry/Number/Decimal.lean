import RowFerry.Text.Digits

/-!
Decimal numbers with a 96-bit coefficient and up to 28 places. Places are kept: `1.50` and `1.5` are
different texts of the same number.
-/

namespace RowFerry

/-- The number `coefficient / 10 ^ scale`. -/
structure Decimal where
  coefficient : Int
  scale : Nat
  deriving Repr, DecidableEq

namespace Decimal

/-- One more than the largest coefficient. -/
def limit : Nat := Nat.pow 2 96

/-- The largest number of places. -/
def maxScale : Nat := 28

/-- The digits before and after the point. -/
def text (d : Decimal) : String :=
  let ds := Text.padded (d.scale + 1) d.coefficient.natAbs
  let whole := ds.take (ds.length - d.scale)
  let fraction := ds.drop (ds.length - d.scale)
  let body := if fraction.isEmpty then whole else whole ++ '.' :: fraction
  String.ofList (if d.coefficient < 0 then '-' :: body else body)

/-- The number without its places, cut toward zero. -/
def truncated (d : Decimal) : Int := d.coefficient.tdiv (Nat.pow 10 d.scale)

/-- Equality of numbers, whatever their places. -/
def sameNumber (a b : Decimal) : Bool :=
  a.coefficient * Nat.pow 10 b.scale == b.coefficient * Nat.pow 10 a.scale

/-- The natural number as a decimal without places. -/
def ofNat (n : Nat) : Decimal := ⟨n, 0⟩

/-- What has been read of a decimal: the digits as a number, the places among them, and whether a
point and a digit have been seen. -/
structure Reading where
  value : Nat
  scale : Nat
  point : Bool
  digit : Bool
  deriving Repr, DecidableEq

/-- Rounds half up by the first digit that no longer fits, and drops the rest of the text. A
separator or a second point there counts as zero. -/
def Reading.rounded (r : Reading) (c : Char) : Option Reading :=
  let next? : Option Nat :=
    if c.isDigit then some (Text.digitValue c)
    else if c = '_' || c = '.' then some 0 else none
  match next? with
  | none => none
  | some next =>
    if next < 5 then some r
    else if r.value + 1 < limit then some { r with value := r.value + 1 }
    else if r.scale = 0 then none
    else some { r with value := (r.value + 5) / 10, scale := r.scale - 1 }

/-- Reads digits, one point, and separators after a digit. A number without room for a digit before
its point is too large; places without room are rounded. -/
def Reading.ofChars? (r : Reading) : List Char → Option Reading
  | [] => if r.digit then some r else none
  | c :: cs =>
    if r.point && maxScale ≤ r.scale then r.rounded c
    else if c.isDigit then
      let value := r.value * 10 + Text.digitValue c
      if value < limit then
        ofChars? ⟨value, if r.point then r.scale + 1 else 0, r.point, true⟩ cs
      else if r.point then r.rounded c else none
    else if c = '.' && !r.point then ofChars? { r with point := true } cs
    else if c = '_' && r.digit then ofChars? r cs
    else none

/-- Moves the point of a number by the exponent `e`; the result must have room. -/
def shifted? (value scale : Nat) (e : Int) : Option (Nat × Nat) :=
  let places : Int := scale - e
  if 0 ≤ places then if places ≤ maxScale then some (value, places.toNat) else none
  else if value = 0 then some (0, 0)
  else if maxScale < (-places).toNat then none
  else
    let value := value * Nat.pow 10 (-places).toNat
    if value < limit then some (value, 0) else none

/-- Reads the exponent of a number: an optional sign and digits. -/
def exponent? : List Char → Option Int
  | '-' :: cs => (Text.integer? 0 (Nat.pow 2 32 - 1) cs).map fun e => -e
  | '+' :: '-' :: _ => none
  | cs => Text.integer? 0 (Nat.pow 2 32 - 1) cs

/-- Reads a number without a sign. -/
def magnitude? (cs : List Char) : Option (Nat × Nat) :=
  let isExponentMark (c : Char) : Bool := c == 'e' || c == 'E'
  let start : Reading := ⟨0, 0, false, false⟩
  match cs.dropWhile fun c => !isExponentMark c with
  | [] => (start.ofChars? cs).map fun r => (r.value, r.scale)
  | _ :: es => do
    let r ← start.ofChars? (cs.takeWhile fun c => !isExponentMark c)
    let e ← exponent? es
    shifted? r.value r.scale e

/-- Reads a number: a sign, digits with an optional point, separators between digits, an exponent.
Zero has no sign. -/
def ofText? (text : String) : Option Decimal :=
  let (negative, cs) := match text.toList with
    | '-' :: cs => (true, cs)
    | '+' :: cs => (false, cs)
    | cs => (false, cs)
  (magnitude? cs).map fun (value, scale) => ⟨if negative then -(value : Int) else value, scale⟩

end Decimal

end RowFerry
