import RowFerry.Yaml.Fault
import RowFerry.Yaml.Scalar.Gap

/-!
Plain scalars: words without quotes. Outside of brackets a scalar goes on over the lines that are
indented deeper than what surrounds it; it ends at a comment, at a colon with space after it, at a
document marker, and within brackets at what separates or closes there.
-/

namespace RowFerry.Yaml

/-- The characters that separate and close within brackets. -/
def isFlowMark (c : Char) : Bool := c = ',' || c = '[' || c = ']' || c = '\x7b' || c = '\x7d'

/-- A plain scalar, whether a line was broken after it, and what is left. -/
structure PlainReading where
  text : List Char
  broken : Bool
  rest : Input

/-- Does the word end before this character? -/
def endsWord (flow : Bool) (c : Char) (cs : List Char) : Bool :=
  (c = ':' && atSpace cs) || (flow && isFlowMark c)

/-- Does the scalar end before the word that begins with this character? -/
def endsPlain (flow : Bool) (indent : Int) (p : Position) (c : Char) (cs : List Char) : Bool :=
  (!flow && p.column < indent) || (p.column = 0 && atMarker (c :: cs)) || c = '#'

/-- Is this a colon that nothing within brackets can follow on? -/
def isStrayColon (flow : Bool) (c : Char) (cs : List Char) : Bool :=
  flow && c = ':' && match cs with
    | d :: _ => d = '?' || isFlowMark d
    | [] => false

/-- Reads a plain scalar after the characters in `done` (the last one first) and a gap. `indent` is
the least column of its further lines. -/
def readPlain (flow : Bool) (indent : Int) (done : List Char) (gap : Gap) (p : Position) :
    List Char → Except Fault PlainReading
  | [] => .ok ⟨done.reverse, gap.broken, ⟨[], p⟩⟩
  | '\r' :: '\n' :: cs => readPlain flow indent done (gap.addBreak '\n') (p.nextLine 2) cs
  | c :: cs =>
    if isBreak c then readPlain flow indent done (gap.addBreak c) (p.nextLine 1) cs
    else if isBlank c then
      if gap.broken && p.column < indent && c = '\t' then .error (.malformed .tabIndentation p)
      else readPlain flow indent done (gap.addBlank c) p.next cs
    else if !gap.isNone && endsPlain flow indent p c cs then
      .ok ⟨done.reverse, gap.broken, ⟨c :: cs, p⟩⟩
    else if isStrayColon flow c cs then .error (.malformed .unexpectedColon p)
    else if endsWord flow c cs then .ok ⟨done.reverse, gap.broken, ⟨c :: cs, p⟩⟩
    else readPlain flow indent (c :: (gap.text ++ done)) .none p.next cs

/-- Reads the plain scalar that begins here. -/
def Input.plain (i : Input) (flow : Bool) (indent : Int) : Except Fault PlainReading :=
  readPlain flow indent [] .none i.position i.chars

end RowFerry.Yaml
