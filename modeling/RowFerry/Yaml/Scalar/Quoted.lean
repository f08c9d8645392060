import RowFerry.Text.Digits
import RowFerry.Yaml.Fault
import RowFerry.Yaml.Scalar.Gap

/-!
Quoted scalars. Between single quotes a doubled quote stands for one; between double quotes a
backslash begins an escape. Line breaks fold as they do between words.
-/

namespace RowFerry.Yaml

/-- What a character after a backslash begins: a character, or a number of so many digits. -/
inductive Escape where
  | char (c : Char)
  | code (digits : Nat)
  deriving Repr, DecidableEq

def Escape.of? : Char → Option Escape
  | '0' => some (char '\x00')
  | 'a' => some (char '\x07')
  | 'b' => some (char '\x08')
  | 't' | '\t' => some (char '\t')
  | 'n' => some (char '\n')
  | 'v' => some (char '\x0b')
  | 'f' => some (char '\x0c')
  | 'r' => some (char '\r')
  | 'e' => some (char '\x1b')
  | ' ' => some (char ' ')
  | '"' => some (char '"')
  | '/' => some (char '/')
  | '\\' => some (char '\\')
  | 'N' => some (char '\x85')
  | '_' => some (char '\xa0')
  | 'L' => some (char '\u2028')
  | 'P' => some (char '\u2029')
  | 'x' => some (code 2)
  | 'u' => some (code 4)
  | 'U' => some (code 8)
  | _ => none

/-- The character of a number, if it has one. -/
def charOf? (n : Nat) : Option Char := if n.isValidChar then some (Char.ofNat n) else none

/-- Where reading stands: in the text, after a backslash, among the digits of a number, or after a
single quote. -/
inductive QuoteState where
  | text
  | escape
  | code (left value : Nat)
  | quote
  deriving Repr, DecidableEq

/-- Reads a quoted scalar after the characters in `done` (the last one first) and a gap. -/
def readQuoted (single : Bool) (state : QuoteState) (done : List Char) (gap : Gap) (p : Position) :
    List Char → Except Fault (List Char × Input)
  | [] =>
    match state with
    | .quote => .ok (done.reverse, ⟨[], p⟩)
    | _ => .error (.malformed .unclosedQuote p)
  | '\r' :: '\n' :: cs =>
    match state with
    | .text => readQuoted single .text done (gap.addBreak '\n') (p.nextLine 2) cs
    | .escape => readQuoted single .text done .escaped (p.nextLine 2) cs
    | .code .. => .error (.malformed .badEscape p)
    | .quote => .ok (done.reverse, ⟨'\r' :: '\n' :: cs, p⟩)
  | c :: cs =>
    match state with
    | .quote =>
      if c = '\'' then readQuoted single .text (c :: done) .none p.next cs
      else .ok (done.reverse, ⟨c :: cs, p⟩)
    | .escape =>
      if isBreak c then readQuoted single .text done .escaped (p.nextLine 1) cs
      else
        match Escape.of? c with
        | some (.char e) => readQuoted single .text (e :: done) .none p.next cs
        | some (.code digits) => readQuoted single (.code digits 0) done .none p.next cs
        | none => .error (.malformed .badEscape p)
    | .code left value =>
      match Text.hexValue? c with
      | none => .error (.malformed .badEscape p)
      | some digit =>
        let value := value * 16 + digit
        if 1 < left then readQuoted single (.code (left - 1) value) done .none p.next cs
        else
          match charOf? value with
          | some e => readQuoted single .text (e :: done) .none p.next cs
          | none => .error (.malformed .badEscape p)
    | .text =>
      if isBreak c then readQuoted single .text done (gap.addBreak c) (p.nextLine 1) cs
      else if isBlank c then readQuoted single .text done (gap.addBlank c) p.next cs
      else if p.column = 0 && atMarker (c :: cs) then .error (.malformed .markerInQuotes p)
      else
        let done := gap.text ++ done
        if single && c = '\'' then readQuoted single .quote done .none p.next cs
        else if !single && c = '"' then .ok (done.reverse, ⟨cs, p.next⟩)
        else if !single && c = '\\' then readQuoted single .escape done .none p.next cs
        else readQuoted single .text (c :: done) .none p.next cs

/-- Reads a quoted scalar whose first quote stands here. -/
def Input.quoted (i : Input) (single : Bool) : Except Fault (List Char × Input) :=
  readQuoted single .text [] .none i.position.next (i.chars.drop 1)

end RowFerry.Yaml
