import RowFerry.Text.Digits
import RowFerry.Text.Lists

/-!
Universally unique identifiers: 128 bits, written as 32 hexadecimal digits in five groups.
-/

namespace RowFerry

/-- A universally unique identifier. -/
structure Uuid where
  bits : BitVec 128
  deriving Repr, DecidableEq

namespace Uuid

/-- The lengths of the groups of digits. -/
def groups : List Nat := [8, 4, 4, 4, 12]

/-- The 32 digits, first the highest. -/
def digits (u : Uuid) : List Char :=
  (List.range 32).map fun i => Text.hexDigit (u.bits.toNat / Nat.pow 16 (31 - i) % 16)

/-- Cuts digits into groups with hyphens between them. -/
def grouped : List Nat → List Char → List Char
  | [], ds => ds
  | [n], ds => ds.take n
  | n :: ns, ds => ds.take n ++ '-' :: grouped ns (ds.drop n)

/-- The lower-case text with hyphens. -/
def text (u : Uuid) : String := String.ofList (grouped groups u.digits)

/-- Reads 32 digits without hyphens. -/
def ofDigits? (ds : List Char) : Option Uuid :=
  if ds.length = 32 then
    (ds.mapM Text.hexValue?).map fun ns => ⟨BitVec.ofNat 128 (ns.foldl (fun n d => n * 16 + d) 0)⟩
  else none

/-- Removes the hyphens of the grouped form; other texts have none to remove. -/
def ungrouped (ns : List Nat) (cs : List Char) : Option (List Char) :=
  match ns with
  | [] => if cs.isEmpty then some [] else none
  | [n] => if cs.length = n then some cs else none
  | n :: ns =>
    match cs.drop n with
    | '-' :: rest => (ungrouped ns rest).map (cs.take n ++ ·)
    | _ => none

/-- Reads a text with hyphens or without. -/
def plain? (cs : List Char) : Option Uuid :=
  if cs.length = 32 then ofDigits? cs else (ungrouped groups cs).bind ofDigits?

/-- Reads the hyphenated, simple, braced and `urn:uuid:` forms, in either case. -/
def ofText? (text : String) : Option Uuid :=
  let cs := text.toList
  match Text.dropLead "urn:uuid:".toList cs with
  | some rest => (ungrouped groups rest).bind ofDigits?
  | none =>
    match cs with
    | '\x7b' :: rest =>
      if rest.getLast? = some '\x7d' then (ungrouped groups rest.dropLast).bind ofDigits? else none
    | _ => plain? cs

end Uuid

end RowFerry
