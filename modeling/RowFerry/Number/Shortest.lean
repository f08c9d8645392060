import RowFerry.Number.Binary64

/-!
The shortest decimal digits that read back as a given number. Of the decimal grids, from one digit
upwards, the first with a point in the interval of reals that round to the number is taken, and on
it the nearer of the number's two neighbours. How digits are laid out is up to the format that
writes them, which is a record.
-/

namespace RowFerry

/-- Which neighbour a number exactly between two points of its grid takes. -/
inductive Tie where
  | up
  | even
  deriving Repr, DecidableEq

/-- Decimal digits after a point, moved `point` places to the right: `0.digits * 10 ^ point`. -/
structure DecimalDigits where
  digits : List Char
  point : Int
  deriving Repr, DecidableEq

namespace Shortest

/-- A number and the ends of the interval that rounds to it, over one denominator. -/
structure Interval where
  low : Nat
  mid : Nat
  high : Nat
  den : Nat
  closed : Bool

/-- The interval of a finite number other than zero. The ends lie halfway to the neighbours; the
lower neighbour of a power of two is only half as far away. -/
def interval (m : Nat) (q : Int) : Interval :=
  let below := if m = Nat.pow 2 52 && -1074 < q then 4 * m - 1 else 4 * m - 2
  if 2 ≤ q then
    let unit := Nat.pow 2 (q - 2).toNat
    ⟨below * unit, 4 * m * unit, (4 * m + 2) * unit, 1, m % 2 == 0⟩
  else ⟨below, 4 * m, 4 * m + 2, Nat.pow 2 (2 - q).toNat, m % 2 == 0⟩

/-- The interval measured in units of `10 ^ g`. -/
def Interval.inUnits (i : Interval) (g : Int) : Interval :=
  if 0 ≤ g then { i with den := i.den * Nat.pow 10 g.toNat }
  else
    let u := Nat.pow 10 (-g).toNat
    { i with low := i.low * u, mid := i.mid * u, high := i.high * u }

/-- Does a point of the grid lie in the interval? -/
def Interval.holds (i : Interval) (d : Nat) : Bool :=
  if i.closed then i.low ≤ d * i.den && d * i.den ≤ i.high
  else i.low < d * i.den && d * i.den < i.high

/-- The power of ten just above a positive ratio. -/
def pointOf (num den : Nat) : Int :=
  if den ≤ num then (Text.numeral (num / den)).length
  else 1 - ((Text.numeral ((den - 1) / num)).length : Int)

/-- The neighbour of the interval's number on the grid of whole units that lies in the interval, the
nearer one when both do. -/
def Interval.pick? (i : Interval) (tie : Tie) : Option Nat :=
  let d := i.mid / i.den
  let r := i.mid % i.den
  match i.holds d, i.holds (d + 1) with
  | true, true =>
    if 2 * r < i.den then some d
    else if i.den < 2 * r then some (d + 1)
    else match tie with
      | .up => some (d + 1)
      | .even => some (if d % 2 = 0 then d else d + 1)
  | true, false => some d
  | false, true => some (d + 1)
  | false, false => none

/-- Digits without the zeros at their end. -/
def dropZeros (ds : List Char) : List Char := (ds.reverse.dropWhile (· == '0')).reverse

/-- Tries the grids of `count` digits and more, `left` of them. -/
def search (i : Interval) (tie : Tie) (point : Int) : (left count : Nat) → DecimalDigits
  | 0, _ => ⟨[], point⟩
  | left + 1, count =>
    let j := i.inUnits (point - count)
    match j.pick? tie with
    | some d =>
      let ds := Text.numeral d
      ⟨dropZeros ds, point + ((ds.length : Int) - count)⟩
    | none => search i tie point left (count + 1)

end Shortest

namespace Binary64

/-- The shortest digits of a finite number other than zero. Seventeen are always enough. -/
def shortest (x : Binary64) (tie : Tie) : DecimalDigits :=
  let i := Shortest.interval x.significand x.exponent
  Shortest.search i tie (Shortest.pointOf i.mid i.den) 17 1

end Binary64

/-- How a format lays out digits: where the point may stand for positional notation, whether a
whole number keeps `.0`, whether a positive exponent has a sign, and how ties go. -/
structure FloatLayout where
  isPositional : Int → Bool
  keepsPoint : Bool
  plusInExponent : Bool
  tie : Tie

namespace FloatLayout

/-- Digits in positional notation. -/
def positional (l : FloatLayout) (d : DecimalDigits) : List Char :=
  let n : Int := d.digits.length
  if d.point ≤ 0 then '0' :: '.' :: List.replicate (-d.point).toNat '0' ++ d.digits
  else if n ≤ d.point then
    d.digits ++ List.replicate (d.point - n).toNat '0' ++ (if l.keepsPoint then ['.', '0'] else [])
  else d.digits.take d.point.toNat ++ '.' :: d.digits.drop d.point.toNat

/-- Digits with an exponent, one of them before the point. -/
def scientific (l : FloatLayout) (d : DecimalDigits) : List Char :=
  let e := d.point - 1
  let fraction := match d.digits with
    | [] => []
    | [c] => [c]
    | c :: cs => c :: '.' :: cs
  fraction ++ 'e' :: (if l.plusInExponent && 0 < e then ['+'] else []) ++ Text.signedNumeral e

/-- The text of a number. -/
def write (l : FloatLayout) (x : Binary64) : String :=
  if x.isNaN then "NaN"
  else
    let body :=
      if x.isInfinite then ['i', 'n', 'f']
      else if x.isZero then if l.keepsPoint then ['0', '.', '0'] else ['0']
      else
        let d := x.shortest l.tie
        if l.isPositional d.point then l.positional d else l.scientific d
    String.ofList (if x.negative then '-' :: body else body)

end FloatLayout

end RowFerry
