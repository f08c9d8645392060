import RowFerry.Text.Digits
import RowFerry.Yaml.Fault
import RowFerry.Yaml.Scalar.Gap

/-!
Block scalars: lines that are indented alike. A literal scalar keeps its line breaks. In a folded
one a line break between two lines that begin without blanks becomes a blank.
-/

namespace RowFerry.Yaml

/-- What becomes of the line breaks at the end: all are dropped, one is kept, or all are kept. -/
inductive Chomping where
  | strip
  | clip
  | keep
  deriving Repr, DecidableEq

/-- How a block scalar is announced; `deeper` is how much deeper it stands than what surrounds it,
or zero when its first line tells. -/
structure BlockHeader where
  chomping : Chomping
  deeper : Nat
  deriving Repr, DecidableEq

/-- Reads a chomping mark. -/
def chomping? : List Char → Option (Chomping × List Char)
  | '+' :: cs => some (.keep, cs)
  | '-' :: cs => some (.strip, cs)
  | _ => none

/-- Reads a depth of one digit, which cannot be zero. -/
def deeper? : List Char → Except Problem (Nat × List Char)
  | c :: cs =>
    if c = '0' then .error .badHeader
    else if c.isDigit then .ok (Text.digitValue c, cs)
    else .ok (0, c :: cs)
  | [] => .ok (0, [])

/-- Reads the marks after the indicator, in either order. -/
def BlockHeader.read (cs : List Char) : Except Problem (BlockHeader × List Char) :=
  match chomping? cs with
  | some (chomping, cs) => do
    let (deeper, cs) ← deeper? cs
    .ok (⟨chomping, deeper⟩, cs)
  | none => do
    let (deeper, cs) ← deeper? cs
    match if deeper = 0 then none else chomping? cs with
    | some (chomping, cs) => .ok (⟨chomping, deeper⟩, cs)
    | none => .ok (⟨.clip, deeper⟩, cs)

/-- The lines read so far, the last character first. `indent` is zero until it is known, and then
`deepest` is the deepest column among the blank lines. -/
structure BlockLines where
  indent : Nat
  deepest : Nat
  done : List Char
  last : Option Char
  blank : List Char
  blankStart : Bool
  deriving Repr, DecidableEq

namespace BlockLines

/-- Is this column still within the indentation? -/
def isMargin (b : BlockLines) (column : Nat) : Bool := b.indent = 0 || column < b.indent

/-- Ends a line with content. -/
def endLine (b : BlockLines) (c : Char) : BlockLines := { b with last := some (keptBreak c) }

/-- Ends a blank line at a column. -/
def endBlank (b : BlockLines) (column : Nat) (c : Char) : BlockLines :=
  { b with deepest := max b.deepest column, blank := keptBreak c :: b.blank }

/-- Learns the indentation from the first line with content. -/
def settle (b : BlockLines) (floor column : Nat) : BlockLines :=
  if b.indent = 0 then { b with indent := max (max b.deepest column) floor } else b

/-- Begins a line with its first character. -/
def begin (b : BlockLines) (literal : Bool) (c : Char) : BlockLines :=
  let folds := !literal && b.last = some '\n' && !b.blankStart && !isBlank c
  let joined :=
    if folds then (if b.blank.isEmpty then ' ' :: b.done else b.done) else b.last.toList ++ b.done
  { b with done := c :: (b.blank ++ joined), last := none, blank := [], blankStart := isBlank c }

/-- The text, with the line breaks at its end treated as announced. -/
def text (b : BlockLines) (chomping : Chomping) : List Char :=
  let tail := match chomping with
    | .strip => []
    | .clip => b.last.toList
    | .keep => b.blank ++ b.last.toList
  (tail ++ b.done).reverse

end BlockLines

/-- Reads the lines of a block scalar. `floor` is the least depth of its lines, and `within` tells
whether a line has begun. -/
def readBlock (literal : Bool) (floor : Nat) (within : Bool) (b : BlockLines) (p : Position) :
    List Char → Except Fault (BlockLines × Input)
  | [] => .ok (b, ⟨[], p⟩)
  | '\r' :: '\n' :: cs =>
    let b := if within then b.endLine '\n' else b.endBlank p.column '\n'
    readBlock literal floor false b (p.nextLine 2) cs
  | c :: cs =>
    if isBreak c then
      let b := if within then b.endLine c else b.endBlank p.column c
      readBlock literal floor false b (p.nextLine 1) cs
    else if within then readBlock literal floor true { b with done := c :: b.done } p.next cs
    else if b.isMargin p.column && c = ' ' then readBlock literal floor false b p.next cs
    else if b.isMargin p.column && c = '\t' then .error (.malformed .tabIndentation p)
    else
      let b := b.settle floor p.column
      if p.column = b.indent then readBlock literal floor true (b.begin literal c) p.next cs
      else .ok (b, ⟨c :: cs, p⟩)

/-- Reads the block scalar whose indicator stands here, within what is indented by `outer`. -/
def Input.block (i : Input) (literal : Bool) (outer : Int) : Except Fault (List Char × Input) := do
  let (header, cs) ← (BlockHeader.read (i.chars.drop 1)).mapError fun p => .malformed p i.position
  let i := (i.drop (i.chars.length - cs.length)).dropComment
  match i.chars with
  | c :: _ => if isBreak c then pure () else throw (.malformed .badHeader i.position)
  | [] => pure ()
  let i := i.dropBreak
  let indent := if header.deeper = 0 then 0 else (max outer 0).toNat + header.deeper
  let (b, rest) ← readBlock literal (max (outer + 1) 1).toNat false
    ⟨indent, 0, [], none, [], false⟩ i.position i.chars
  .ok (b.text header.chomping, rest)

end RowFerry.Yaml
