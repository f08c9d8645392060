import RowFerry.Yaml.Position

/-!
The space between two words of a scalar that may run over several lines. On one line it stays as it
is. One line break becomes a blank, and of several the first one is dropped.
-/

namespace RowFerry.Yaml

/-- A line break as it is kept: the two Unicode separators stay, all others become line feeds. -/
def keptBreak (c : Char) : Char := if c = '\u2028' || c = '\u2029' then c else '\n'

/-- Blanks and line breaks in a row, the last one first. Once a line is broken, blanks do not count.
An escaped line break breaks the line without being kept. -/
structure Gap where
  blanks : List Char
  first : Option Char
  further : List Char
  broken : Bool
  deriving Repr, DecidableEq

namespace Gap

def none : Gap := ⟨[], .none, [], false⟩

/-- The gap that an escaped line break begins. -/
def escaped : Gap := ⟨[], .none, [], true⟩

def isNone (g : Gap) : Bool := g.blanks.isEmpty && !g.broken

def addBlank (g : Gap) (c : Char) : Gap :=
  if g.broken then g else { g with blanks := c :: g.blanks }

def addBreak (g : Gap) (c : Char) : Gap :=
  if g.broken then { g with further := keptBreak c :: g.further }
  else ⟨[], some (keptBreak c), [], true⟩

/-- What the gap becomes, the last character first. -/
def text (g : Gap) : List Char :=
  if !g.broken then g.blanks
  else if g.first = some '\n' then (if g.further.isEmpty then [' '] else g.further)
  else g.further ++ g.first.toList

end Gap

end RowFerry.Yaml
