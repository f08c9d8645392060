import RowFerry.Number.Shortest
import RowFerry.Text.Lists
import RowFerry.Text.Quoted
import RowFerry.Yaml.Event
import RowFerry.Yaml.Fault

/-!
What a scalar says. A plain scalar may be null, a truth value, an integer in base 10, 16, 8 or 2, or
a floating-point number; anything else is text. Digits after a leading zero are text too.
-/

namespace RowFerry.Yaml

/-- What a scalar says. -/
inductive Datum where
  | null
  | bool (b : Bool)
  | integer (i : Int)
  | float (x : Binary64)
  | text (s : String)
  deriving Repr, DecidableEq

def isNullWord (s : String) : Bool := s = "null" || s = "Null" || s = "NULL" || s = "~"

def boolWord? (s : String) : Option Bool :=
  if s = "true" || s = "True" || s = "TRUE" then some true
  else if s = "false" || s = "False" || s = "FALSE" then some false
  else none

/-- The number that digits denote in a base up to sixteen. -/
def ofBase? (base : Nat) (cs : List Char) : Option Nat :=
  if cs.isEmpty then none
  else cs.foldlM (fun n c => (Text.hexValue? c).bind fun d =>
    if d < base then some (n * base + d) else none) 0

/-- The base that a numeral announces, and its digits. -/
def based? : List Char → Option (Nat × List Char)
  | '0' :: 'x' :: cs => some (16, cs)
  | '0' :: 'o' :: cs => some (8, cs)
  | '0' :: 'b' :: cs => some (2, cs)
  | _ => none

/-- A numeral without a sign. Digits after a leading zero are not one. -/
def magnitude? (cs : List Char) : Option Nat :=
  match based? cs with
  | some (base, digits) => ofBase? base digits
  | none => if 1 < cs.length && cs.head? = some '0' then none else ofBase? 10 cs

/-- A numeral without a minus sign. -/
def natural? (s : String) : Option Nat :=
  match s.toList with
  | '+' :: cs => magnitude? cs
  | cs => magnitude? cs

/-- A numeral of at most 128 bits. -/
def integer? (s : String) : Option Int :=
  match s.toList with
  | '-' :: cs => (magnitude? cs).bind fun n => if n ≤ Nat.pow 2 127 then some (-(n : Int)) else none
  | _ => (natural? s).bind fun n => if n < Nat.pow 2 128 then some (n : Int) else none

/-- Digits after a leading zero, with a sign or without one. -/
def isPaddedNumeral (s : String) : Bool :=
  let cs := match s.toList with
    | '-' :: cs | '+' :: cs => cs
    | cs => cs
  1 < cs.length && cs.head? = some '0' && cs.all Char.isDigit

/-- A floating-point number. Only words with a point in front are infinite or no number. -/
def float? (s : String) : Option Binary64 :=
  let unsigned := match s.toList with
    | '+' :: cs => String.ofList cs
    | _ => s
  if unsigned = ".inf" || unsigned = ".Inf" || unsigned = ".INF" then some (Binary64.infinity false)
  else if s = "-.inf" || s = "-.Inf" || s = "-.INF" then some (Binary64.infinity true)
  else if s = ".nan" || s = ".NaN" || s = ".NAN" then some Binary64.nan
  else if unsigned != s && unsigned.toList.head?.any (fun c => c = '+' || c = '-') then none
  else (Binary64.ofText? unsigned).filter fun x => !x.isNaN && !x.isInfinite

namespace Datum

/-- What a plain scalar says. -/
def ofPlain (s : String) : Datum :=
  if s = "" || isNullWord s then null
  else
    match boolWord? s, integer? s with
    | some b, _ => bool b
    | none, some i => integer i
    | none, none =>
      match if isPaddedNumeral s then none else float? s with
      | some x => float x
      | none => text s

/-- Numbers in messages have no exponent and keep `.0`. -/
def messageFloat : FloatLayout := ⟨fun _ => true, true, false, .up⟩

/-- The datum as a message names it. Integers beyond 64 bits say so. -/
def shown : Datum → String
  | null => "unit value"
  | bool b => "boolean \x60" ++ (if b then "true" else "false") ++ "\x60"
  | integer i =>
    let wide := if Nat.pow 2 64 ≤ i then " as u128" else if i <
      -(Nat.pow 2 63) then " as i128" else ""
    "integer \x60" ++ String.ofList (Text.signedNumeral i) ++ "\x60" ++ wide
  | float x => "floating point \x60" ++ messageFloat.write x ++ "\x60"
  | text s => "string " ++ Text.quoted s

end Datum

namespace Scalar

/-- Must the text be taken for a datum: a plain scalar, or a literal one whose tag says so? -/
def isBare (s : Scalar) (tag : String) : Bool :=
  s.style = .plain || (s.style = .literal && s.tag = some tag)

/-- Is it a node that was left out? -/
def isLeftOut (s : Scalar) : Bool := s.style = .plain && s.text = ""

/-- What a scalar says, which its tag may decide; a tag that the text does not fit is
a mismatch of its own. -/
def datum (s : Scalar) : Except Mismatch Datum :=
  let shownText := (Datum.text s.text).shown
  let fits (d : Option Datum) (expected : String) : Except Mismatch Datum :=
    match d with
    | some d => .ok d
    | none => .error (.wrongValue shownText expected)
  if s.tag = some boolTag then fits ((boolWord? s.text).map .bool) "a boolean"
  else if s.tag = some intTag then fits ((integer? s.text).map .integer) "an integer"
  else if s.tag = some floatTag then fits ((float? s.text).map .float) "a float"
  else if s.tag = some nullTag then fits (if isNullWord s.text then some .null else none) "null"
  else
    let own := match s.tag with
      | some tag => tag.toList.head? = some '!'
      | none => true
    .ok (if s.style = .plain && own then Datum.ofPlain s.text else .text s.text)

/-- The mismatch of a scalar where something else was expected. -/
def mismatch (s : Scalar) (expected : String) : Mismatch :=
  match s.datum with
  | .ok d => .wrongType d.shown expected
  | .error m => m

end Scalar

end RowFerry.Yaml
