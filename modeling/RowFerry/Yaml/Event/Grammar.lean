import RowFerry.Yaml.Event
import RowFerry.Yaml.Token.Lexer

/-!
From tokens to events. What is still to come is a stack of expectations; each step takes the top one
and the tokens that meet it.
-/

namespace RowFerry.Yaml

/-- What is expected next. -/
inductive Expected where
  | document (implicit : Bool)
  | content
  | node
  | documentEnd
  | blockEntry
  | flatEntry
  | blockKey
  | blockValue
  | flowItem (first : Bool)
  | pairKey
  | pairValue
  | pairEnd
  | flowKey (first : Bool)
  | flowValue
  | flowNoValue
  deriving Repr, DecidableEq

/-- The state of reading events: what is expected, the tokens left, the fault they end with, and
what the directives and the anchors of the document have introduced. -/
structure Grammar where
  expected : List Expected
  tokens : List Token
  fault : Option Fault
  handles : Handles
  anchors : List (String × Nat)

namespace Grammar

/-- An event, if the step has one, and the state after it. -/
abbrev Step := Except (Option Fault) (Option Event × Grammar)

/-- The next token. -/
def peek (g : Grammar) : Except (Option Fault) Token :=
  match g.tokens with
  | t :: _ => .ok t
  | [] => .error g.fault

def skip (g : Grammar) : Grammar := { g with tokens := g.tokens.drop 1 }

/-- Goes past the next token if it is of a kind. -/
def skipIf (g : Grammar) (kind : TokenKind) : Grammar :=
  match g.tokens with
  | t :: ts => if t.kind = kind then { g with tokens := ts } else g
  | [] => g

def expect (g : Grammar) (e : Expected) : Grammar := { g with expected := e :: g.expected }

def fail {α : Type} (problem : Problem) (p : Position) : Except (Option Fault) α :=
  .error (some (.malformed problem p))

def emit (g : Grammar) (kind : EventKind) (p : Position) : Step := .ok (some ⟨kind, p⟩, g)

/-- A node that is left out. -/
def leaveOut (g : Grammar) (p : Position) : Step := g.emit (.scalar none ⟨"", .plain, none⟩) p

/-- Numbers an anchor by how many names were anchored before it. -/
def number (g : Grammar) : Option String → Option Nat × Grammar
  | none => (none, g)
  | some name =>
    let n := g.anchors.length
    (some n, { g with anchors := (name, n) :: g.anchors.filter fun a => a.1 != name })

/-- An anchor and a tag, in either order, as they stand before a node. -/
def properties (g : Grammar) : Except (Option Fault) (Option String × Option Tag × Grammar) := do
  match (← g.peek).kind with
  | .anchor name =>
    let g := g.skip
    match (← g.peek).kind with
    | .tag t => pure (some name, some t, g.skip)
    | _ => pure (some name, none, g)
  | .tag t =>
    let g := g.skip
    match (← g.peek).kind with
    | .anchor name => pure (some name, some t, g.skip)
    | _ => pure (none, some t, g)
  | _ => pure (none, none, g)

/-- The full name of a tag. -/
def tagName (g : Grammar) (p : Position) : Option Tag → Except (Option Fault) (Option String)
  | none => pure none
  | some t =>
    match t.name? g.handles with
    | some name => pure (some name)
    | none => fail .unknownHandle p

/-- Reads a node, or the beginning of one. Only `block` admits collections told by indentation, and
only `flat` a sequence that is not deeper than its key. -/
def node (g : Grammar) (block flat : Bool) : Step := do
  let first ← g.peek
  match first.kind with
  | .reference name =>
    match g.anchors.lookup name with
    | some n => g.skip.emit (.reference n) first.position
    | none => fail .unknownAnchor first.position
  | _ =>
    let (name, tag, g) ← g.properties
    let tag ← g.tagName first.position tag
    let t ← g.peek
    let p := first.position
    let (anchor, numbered) := g.number name
    match t.kind with
    | .scalar style text =>
      let tag := if tag = some "!" then none else tag
      numbered.skip.emit (.scalar anchor ⟨text, style, tag⟩) p
    | .openBracket => (numbered.skip.expect (.flowItem true)).emit (.sequenceStart anchor) p
    | .openBrace => (numbered.skip.expect (.flowKey true)).emit (.mappingStart anchor) p
    | kind =>
      if flat && kind = .entry then (numbered.expect .flatEntry).emit (.sequenceStart anchor) p
      else if block && kind = .blockSequence then
        (numbered.skip.expect .blockEntry).emit (.sequenceStart anchor) p
      else if block && kind = .blockMapping then
        (numbered.skip.expect .blockKey).emit (.mappingStart anchor) p
      else if name.isSome || tag.isSome then
        numbered.emit (.scalar anchor ⟨"", .plain, tag⟩) p
      else fail .noContent t.position

/-- Reads the directives before a document; each may stand once. -/
def directives (version : Bool) (g : Grammar) :
    List Token → Except (Option Fault) Grammar
  | [] => .error g.fault
  | t :: ts =>
    match t.kind with
    | .version major minor =>
      if version then fail .repeatedDirective t.position
      else if major = 1 && (minor = 1 || minor = 2) then directives true g ts
      else fail .unknownVersion t.position
    | .handle name meaning =>
      if (g.handles.lookup name).isSome then fail .repeatedDirective t.position
      else directives version { g with handles := (name, meaning) :: g.handles } ts
    | _ => .ok { g with tokens := t :: ts }

/-- Begins a document, or ends the text. The first document needs no marker. -/
def document (g : Grammar) (implicit : Bool) : Step := do
  let g := if implicit then g else
    { g with tokens := g.tokens.dropWhile fun t => t.kind = .documentEnd }
  let t ← g.peek
  let g := { g with handles := [], anchors := [] }
  match t.kind with
  | .textEnd => g.skip.emit .textEnd t.position
  | .version .. | .handle .. | .documentStart =>
    let g ← g.directives false g.tokens
    let t ← g.peek
    if t.kind = .documentStart then
      pure (none, (g.skip.expect .documentEnd).expect .content)
    else fail .noDocumentStart t.position
  | _ =>
    if implicit then pure (none, (g.expect .documentEnd).expect .node)
    else fail .noDocumentStart t.position

/-- Reads what stands between a document marker and the end of its document. -/
def content (g : Grammar) : Step := do
  let t ← g.peek
  match t.kind with
  | .version .. | .handle .. | .documentStart | .documentEnd | .textEnd => g.leaveOut t.position
  | _ => g.node true false

/-- Reads an entry of a block sequence, or its end. -/
def blockEntry (g : Grammar) : Step := do
  let t ← g.peek
  match t.kind with
  | .entry =>
    let g := g.skip
    match (← g.peek).kind with
    | .entry | .blockEnd => (g.expect .blockEntry).leaveOut t.position.next
    | _ => (g.expect .blockEntry).node true false
  | .blockEnd => g.skip.emit .sequenceEnd t.position
  | _ => fail .noEntry t.position

/-- Reads an entry of a sequence that is not deeper than its key, or its end. -/
def flatEntry (g : Grammar) : Step := do
  let t ← g.peek
  match t.kind with
  | .entry =>
    let g := g.skip
    match (← g.peek).kind with
    | .entry | .key | .value | .blockEnd => (g.expect .flatEntry).leaveOut t.position.next
    | _ => (g.expect .flatEntry).node true false
  | _ => g.emit .sequenceEnd t.position

/-- Reads a key of a block mapping, or its end. -/
def blockKey (g : Grammar) : Step := do
  let t ← g.peek
  match t.kind with
  | .key =>
    let g := g.skip
    match (← g.peek).kind with
    | .key | .value | .blockEnd => (g.expect .blockValue).leaveOut t.position.next
    | _ => (g.expect .blockValue).node true true
  | .blockEnd => g.skip.emit .mappingEnd t.position
  | _ => fail .noKey t.position

def blockValue (g : Grammar) : Step := do
  let t ← g.peek
  let g := g.expect .blockKey
  match t.kind with
  | .value =>
    let g := g.skip
    match (← g.peek).kind with
    | .key | .value | .blockEnd => g.leaveOut t.position.next
    | _ => g.node true true
  | _ => g.leaveOut t.position

/-- Reads an item between brackets, or the closing bracket. An item may be a pair without braces. -/
def flowItem (g : Grammar) (first : Bool) : Step := do
  let t ← g.peek
  if !first && t.kind != .comma && t.kind != .closeBracket then fail .noCommaOrBracket t.position
  else
    let g := if first then g else g.skipIf .comma
    let t ← g.peek
    match t.kind with
    | .closeBracket => g.skip.emit .sequenceEnd t.position
    | .key =>
      ((g.skip.expect (.flowItem false)).expect .pairKey).emit (.mappingStart none) t.position
    | _ => (g.expect (.flowItem false)).node false false

/-- Reads the key of a pair without braces; what stands in place of a missing one is passed over. -/
def pairKey (g : Grammar) : Step := do
  let t ← g.peek
  let g := g.expect .pairValue
  match t.kind with
  | .value | .comma | .closeBracket => g.skip.leaveOut t.position.next
  | _ => g.node false false

def pairValue (g : Grammar) : Step := do
  let t ← g.peek
  let rest := g.skipIf .value
  let g := rest.expect .pairEnd
  if t.kind = .value then
    let t ← g.peek
    match t.kind with
    | .comma | .closeBracket => g.leaveOut t.position
    | _ => g.node false false
  else g.leaveOut t.position

/-- Reads a key between braces, or the closing brace. -/
def flowKey (g : Grammar) (first : Bool) : Step := do
  let t ← g.peek
  if !first && t.kind != .comma && t.kind != .closeBrace then fail .noCommaOrBrace t.position
  else
    let g := if first then g else g.skipIf .comma
    let t ← g.peek
    match t.kind with
    | .closeBrace => g.skip.emit .mappingEnd t.position
    | .key =>
      let g := g.skip.expect .flowValue
      let t ← g.peek
      match t.kind with
      | .value | .comma | .closeBrace => g.leaveOut t.position
      | _ => g.node false false
    | _ => (g.expect .flowNoValue).node false false

def flowValue (g : Grammar) : Step := do
  let t ← g.peek
  let rest := g.skipIf .value
  let g := rest.expect (.flowKey false)
  if t.kind = .value then
    let t ← g.peek
    match t.kind with
    | .comma | .closeBrace => g.leaveOut t.position
    | _ => g.node false false
  else g.leaveOut t.position

/-- Meets the expectation on top of the stack, which has been taken off. -/
def meet (g : Grammar) : Expected → Step
  | .document implicit => g.document implicit
  | .content => g.content
  | .node => g.node true false
  | .documentEnd => do
    let t ← g.peek
    ((g.skipIf .documentEnd).expect (.document false)).emit .documentEnd t.position
  | .blockEntry => g.blockEntry
  | .flatEntry => g.flatEntry
  | .blockKey => g.blockKey
  | .blockValue => g.blockValue
  | .flowItem first => g.flowItem first
  | .pairKey => g.pairKey
  | .pairValue => g.pairValue
  | .pairEnd => do
    let t ← g.peek
    g.emit .mappingEnd t.position
  | .flowKey first => g.flowKey first
  | .flowValue => g.flowValue
  | .flowNoValue => do
    let t ← g.peek
    (g.expect (.flowKey false)).leaveOut t.position

/-- Takes step after step until nothing is expected, after the events in `done` (the last one
first). -/
def run (fuel : Nat) (done : List Event) (g : Grammar) : List Event × Option Fault :=
  match fuel, g.expected with
  | 0, _ | _, [] => (done.reverse, none)
  | fuel + 1, e :: es =>
    match meet { g with expected := es } e with
    | .error f => (done.reverse, f)
    | .ok (event, g) => run fuel (event.toList ++ done) g

end Grammar

/-- The events of a text, up to a fault if it has one. Between two tokens there are at most eight
steps. -/
def eventsOf (text : String) : List Event × Option Fault :=
  let (tokens, fault) := tokensOf text
  Grammar.run (8 * (tokens.length + 1)) [] ⟨[.document true], tokens, fault, [], []⟩

end RowFerry.Yaml
