import RowFerry.Text.Digits

/-!
Binary floating-point numbers of 64 bits, kept as their bits and computed with in exact natural
arithmetic: decoding, rounding a ratio to the nearest number, reading decimal text.
-/

namespace RowFerry

/-- A binary64 number, by its bits. -/
structure Binary64 where
  bits : UInt64
  deriving Repr, DecidableEq

/-- A binary format: how many bits a significand has and which exponents it may carry. -/
structure BinaryFormat where
  precision : Nat
  minExponent : Int
  maxExponent : Int

namespace BinaryFormat

def binary64 : BinaryFormat := ⟨53, -1074, 971⟩
def binary32 : BinaryFormat := ⟨24, -149, 104⟩

/-- The ratio `num / den` measured in units of `2 ^ q`, as a ratio. -/
def measured (num den : Nat) (q : Int) : Nat × Nat :=
  if 0 ≤ q then (num, den * Nat.pow 2 q.toNat) else (num * Nat.pow 2 (-q).toNat, den)

/-- The natural number nearest to a ratio; halves go to the even neighbour. -/
def roundHalfEven (num den : Nat) : Nat :=
  let d := num / den
  let r := num % den
  if den < 2 * r || (2 * r == den && d % 2 == 1) then d + 1 else d

/-- The significand and exponent nearest to a ratio with a positive denominator, however large the
exponent. -/
def nearest (f : BinaryFormat) (num den : Nat) : Nat × Int :=
  if num = 0 then (0, f.minExponent)
  else
    let k : Int := (num.log2 : Int) - den.log2
    let least := max (k - f.precision) f.minExponent
    let (a, b) := measured num den least
    let q := if Nat.pow 2 f.precision ≤ a / b then least + 1 else least
    let (a, b) := measured num den q
    (roundHalfEven a b, q)

end BinaryFormat

namespace Binary64

def negative (x : Binary64) : Bool := Nat.pow 2 63 ≤ x.bits.toNat
def exponentField (x : Binary64) : Nat := x.bits.toNat / Nat.pow 2 52 % Nat.pow 2 11
def fractionField (x : Binary64) : Nat := x.bits.toNat % Nat.pow 2 52

def isNaN (x : Binary64) : Bool := x.exponentField == 2047 && x.fractionField != 0
def isInfinite (x : Binary64) : Bool := x.exponentField == 2047 && x.fractionField == 0
def isZero (x : Binary64) : Bool := x.exponentField == 0 && x.fractionField == 0

/-- The natural number `m` of the magnitude `m * 2 ^ q` of a finite number. -/
def significand (x : Binary64) : Nat :=
  if x.exponentField = 0 then x.fractionField else Nat.pow 2 52 + x.fractionField

/-- The exponent `q` of the magnitude `m * 2 ^ q` of a finite number. -/
def exponent (x : Binary64) : Int :=
  if x.exponentField = 0 then -1074 else (x.exponentField : Int) - 1075

/-- The number with the given sign whose other bits are a natural number. -/
def ofMagnitudeBits (negative : Bool) (n : Nat) : Binary64 :=
  ⟨UInt64.ofNat (if negative then Nat.pow 2 63 + n else n)⟩

def nan : Binary64 := ofMagnitudeBits false (2047 * Nat.pow 2 52 + Nat.pow 2 51)
def infinity (negative : Bool) : Binary64 := ofMagnitudeBits negative (2047 * Nat.pow 2 52)
def zero (negative : Bool) : Binary64 := ofMagnitudeBits negative 0

/-- The number nearest to a signed ratio with a positive denominator; beyond the largest number it
is infinite. -/
def ofRatio (negative : Bool) (num den : Nat) : Binary64 :=
  let (m, q) := BinaryFormat.binary64.nearest num den
  if BinaryFormat.binary64.maxExponent < q then infinity negative
  else if m < Nat.pow 2 52 then ofMagnitudeBits negative m
  else ofMagnitudeBits negative ((q + 1075).toNat * Nat.pow 2 52 + (m - Nat.pow 2 52))

/-- The number nearest to `d * 10 ^ e`. Exponents that no rounding can bring back into range are
settled without computing the power. -/
def ofScientific (negative : Bool) (d : Nat) (e : Int) : Binary64 :=
  let size := (Text.numeral d).length + e
  if d = 0 || size < -400 then zero negative
  else if 400 < size then infinity negative
  else if 0 ≤ e then ofRatio negative (d * Nat.pow 10 e.toNat) 1
  else ofRatio negative d (Nat.pow 10 (-e).toNat)

/-- The binary32 number nearest to a ratio, as a binary64 number. -/
def ofRatio32 (negative : Bool) (num den : Nat) : Binary64 :=
  let (m, q) := BinaryFormat.binary32.nearest num den
  if BinaryFormat.binary32.maxExponent < q ||
    (q == BinaryFormat.binary32.maxExponent && m == Nat.pow 2 24)
  then infinity negative
  else
    let (a, b) := BinaryFormat.measured m 1 (-q)
    ofRatio negative a b

/-- The integer that a finite integral number is. -/
def integer? (x : Binary64) : Option Int :=
  if x.exponentField = 2047 then none
  else
    let signed (n : Nat) : Int := if x.negative then -(n : Int) else n
    if 0 ≤ x.exponent then some (signed (x.significand * Nat.pow 2 x.exponent.toNat))
    else
      let unit := Nat.pow 2 (-x.exponent).toNat
      if x.significand % unit = 0 then some (signed (x.significand / unit)) else none

/-- Equality of numbers: no NaN equals anything, and the two zeros are equal. -/
def sameNumber (x y : Binary64) : Bool :=
  !x.isNaN && !y.isNaN && (x == y || (x.isZero && y.isZero))

/-- A decimal numeral in scientific form: what precedes the exponent, and the exponent. -/
structure Scientific where
  negative : Bool
  digits : Nat
  exponent : Int
  deriving Repr, DecidableEq

/-- Reads digits with an optional point and an optional exponent. At least one digit must stand
before the exponent, and one in it. -/
def Scientific.ofChars? (negative : Bool) (cs : List Char) : Option Scientific :=
  let whole := cs.takeWhile Char.isDigit
  let rest := cs.dropWhile Char.isDigit
  let (fraction, rest) := match rest with
    | '.' :: r => (r.takeWhile Char.isDigit, r.dropWhile Char.isDigit)
    | r => ([], r)
  if whole.isEmpty && fraction.isEmpty then none
  else
    let shift : Int := fraction.length
    let digits := Text.ofDigits (whole ++ fraction)
    match rest with
    | [] => some ⟨negative, digits, -shift⟩
    | c :: r =>
      if c != 'e' && c != 'E' then none
      else
        let (down, ds) := match r with
          | '-' :: ds => (true, ds)
          | '+' :: ds => (false, ds)
          | ds => (false, ds)
        if ds.isEmpty || !ds.all Char.isDigit then none
        else
          let e : Int := if down then -(Text.ofDigits ds : Int) else Text.ofDigits ds
          some ⟨negative, digits, e - shift⟩

/-- The sign in front of a number and what follows it. -/
def signAndRest : List Char → Bool × List Char
  | '-' :: cs => (true, cs)
  | '+' :: cs => (false, cs)
  | cs => (false, cs)

/-- Reads a decimal numeral, `inf`, `infinity` or `nan` in any case, each with an optional sign, to
the nearest number. -/
def ofText? (text : String) : Option Binary64 :=
  let (negative, cs) := signAndRest text.toList
  let word := String.ofList (cs.map Char.toLower)
  if word = "inf" || word = "infinity" then some (infinity negative)
  else if word = "nan" then some nan
  else (Scientific.ofChars? negative cs).map fun s => ofScientific s.negative s.digits s.exponent

end Binary64

end RowFerry
