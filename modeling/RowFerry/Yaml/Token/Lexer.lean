import RowFerry.Yaml.Scalar.Block
import RowFerry.Yaml.Scalar.Plain
import RowFerry.Yaml.Scalar.Quoted
import RowFerry.Yaml.Token.Directive

/-!
From a text to its tokens. A key need not be marked: whatever stands on one line before a colon is
one. So a place where a key may begin is remembered, and the token that marks it is put there when
the colon is found.
-/

namespace RowFerry.Yaml

/-- A place where a key may begin: the number of its token, and whether nothing but a key can stand
there. -/
structure KeyPlace where
  number : Nat
  required : Bool
  position : Position
  deriving Repr, DecidableEq

/-- The state of reading tokens: what is left, the tokens found (the last one first), the
indentation with those around it, and for each bracket that is open, the innermost first, the place
where a key may begin. -/
structure Lexer where
  input : Input
  tokens : List Token
  count : Nat
  indent : Int
  outerIndents : List Int
  key : Option KeyPlace
  outerKeys : List (Option KeyPlace)
  keyAllowed : Bool

namespace Lexer

def start (text : String) : Lexer := ⟨Input.ofText text, [], 0, -1, [], none, [], true⟩

/-- Is a bracket open? -/
def inFlow (l : Lexer) : Bool := !l.outerKeys.isEmpty

def position (l : Lexer) : Position := l.input.position

def fail {α : Type} (l : Lexer) (problem : Problem) : Except Fault α :=
  .error (.malformed problem l.position)

/-- Adds a token that begins at a place. -/
def emitAt (l : Lexer) (kind : TokenKind) (p : Position) : Lexer :=
  { l with tokens := ⟨kind, p⟩ :: l.tokens, count := l.count + 1 }

/-- Puts a token before the one of a given number. -/
def insertAt (l : Lexer) (number : Nat) (kind : TokenKind) (p : Position) : Lexer :=
  let later := l.tokens.take (l.count - number)
  let earlier := l.tokens.drop (l.count - number)
  { l with tokens := later ++ ⟨kind, p⟩ :: earlier, count := l.count + 1 }

/-- Adds a token for the characters that stand here. -/
def mark (l : Lexer) (kind : TokenKind) (length : Nat) : Lexer :=
  { l.emitAt kind l.position with input := l.input.drop length }

/-- A key begins and ends on one line and has at most 1024 characters. -/
def isStale (l : Lexer) (k : KeyPlace) : Bool :=
  k.position.line < l.position.line || k.position.index + 1024 < l.position.index

/-- Gives up the place where a key might have begun. -/
def dropKey (l : Lexer) : Except Fault Lexer :=
  match l.key with
  | some k => if k.required then l.fail .missingColon else .ok { l with key := none }
  | none => .ok l

/-- Gives up the places that are too far behind. -/
def dropStale (l : Lexer) : Except Fault Lexer := do
  let lost (k : Option KeyPlace) : Bool := k.any fun k => k.required && l.isStale k
  let keep (k : Option KeyPlace) : Option KeyPlace := k.filter fun k => !l.isStale k
  if (l.key :: l.outerKeys).any lost then l.fail .missingColon
  else pure { l with key := keep l.key, outerKeys := l.outerKeys.map keep }

/-- Remembers that a key may begin here. -/
def noteKey (l : Lexer) : Except Fault Lexer :=
  if l.keyAllowed then do
    let required := !l.inFlow && l.indent == l.position.column
    let l ← l.dropKey
    pure { l with key := some ⟨l.count, required, l.position⟩ }
  else pure l

/-- Begins a collection if this column is deeper than what surrounds it; its token is put before the
one of a given number. -/
def deepen (l : Lexer) (kind : TokenKind) (number : Nat) (p : Position) : Lexer :=
  if !l.inFlow && l.indent < p.column then
    { l.insertAt number kind p with indent := p.column, outerIndents := l.indent :: l.outerIndents }
  else l

/-- Ends the collections that are deeper than a column. -/
def closeIndents (l : Lexer) (column : Int) : List Int → Lexer
  | [] => l
  | outer :: outers =>
    if column < l.indent then
      closeIndents { l.emitAt .blockEnd l.position with indent := outer, outerIndents := outers }
        column outers
    else l

/-- Ends the collections that are deeper than a column, outside of brackets. -/
def flatten (l : Lexer) (column : Int) : Lexer :=
  if l.inFlow then l else l.closeIndents column l.outerIndents

/-- Goes past blanks, comments and line breaks. Outside of brackets a tab cannot stand where a key
may begin, and a key may begin on a new line. -/
def skipSpace (fuel : Nat) (l : Lexer) : Lexer :=
  match fuel with
  | 0 => l
  | fuel + 1 =>
    let i := l.input
    let i := if i.position.column = 0 && i.chars.head? = some '\ufeff' then i.drop 1 else i
    let i := i.dropWhile fun c => c = ' ' || ((l.inFlow || !l.keyAllowed) && c = '\t')
    let i := if i.chars.head? = some '#' then i.dropWhile (fun c => !isBreak c) else i
    match i.chars with
    | c :: _ =>
      if isBreak c then
        skipSpace fuel { l with input := i.dropBreak, keyAllowed := l.keyAllowed || !l.inFlow }
      else { l with input := i }
    | [] => { l with input := i }

/-- The end of the text ends every collection. -/
def finish (l : Lexer) : Except Fault Lexer := do
  let p := l.position
  let p := if p.column = 0 then p else p.nextLine 0
  let l ← ({ l with input := ⟨[], p⟩ }.flatten (-1)).dropKey
  pure ({ l with keyAllowed := false }.emitAt .textEnd p)

/-- A document marker or a directive ends every collection. -/
def leave (l : Lexer) : Except Fault Lexer := do
  let l ← (l.flatten (-1)).dropKey
  pure { l with keyAllowed := false }

def directive (l : Lexer) : Except Fault Lexer := do
  let l ← l.leave
  let (kind, rest) ← l.input.directive
  pure { l.emitAt kind l.position with input := rest }

def marker (l : Lexer) (kind : TokenKind) : Except Fault Lexer := do
  let l ← l.leave
  pure (l.mark kind 3)

def openFlow (l : Lexer) (kind : TokenKind) : Except Fault Lexer := do
  let l ← l.noteKey
  pure { l.mark kind 1 with key := none, outerKeys := l.key :: l.outerKeys, keyAllowed := true }

def closeFlow (l : Lexer) (kind : TokenKind) : Except Fault Lexer := do
  let l ← l.dropKey
  let l := match l.outerKeys with
    | k :: ks => { l with key := k, outerKeys := ks }
    | [] => l
  pure { l.mark kind 1 with keyAllowed := false }

def comma (l : Lexer) : Except Fault Lexer := do
  let l ← l.dropKey
  pure { l.mark .comma 1 with keyAllowed := true }

/-- An entry of a sequence; within brackets it is read too, and refused later. -/
def entry (l : Lexer) : Except Fault Lexer := do
  if !l.inFlow && !l.keyAllowed then l.fail .misplacedEntry
  else
    let l ← (l.deepen .blockSequence l.count l.position).dropKey
    pure { l.mark .entry 1 with keyAllowed := true }

/-- A key with a mark of its own. -/
def markedKey (l : Lexer) : Except Fault Lexer := do
  if !l.inFlow && !l.keyAllowed then l.fail .misplacedKey
  else
    let l ← (l.deepen .blockMapping l.count l.position).dropKey
    pure { l.mark .key 1 with keyAllowed := !l.inFlow }

/-- A colon: the key before it, if there is one, gets its mark. -/
def value (l : Lexer) : Except Fault Lexer :=
  match l.key with
  | some k =>
    let l := (l.insertAt k.number .key k.position).deepen .blockMapping k.number k.position
    .ok { l.mark .value 1 with key := none, keyAllowed := false }
  | none =>
    if !l.inFlow && !l.keyAllowed then l.fail .misplacedValue
    else
      let l := l.deepen .blockMapping l.count l.position
      .ok { l.mark .value 1 with keyAllowed := !l.inFlow }

/-- The name of an anchor, or of a reference to one. -/
def named (l : Lexer) (kind : String → TokenKind) : Except Fault Lexer := do
  let l ← l.noteKey
  let name := (l.input.chars.drop 1).takeWhile isNameChar
  let ends := match (l.input.chars.drop 1).dropWhile isNameChar with
    | [] => true
    | c :: _ => isSpace c || "?:,]\x7d%@\x60".toList.contains c
  if name.isEmpty || !ends then l.fail .badAnchor
  else pure { l.mark (kind (String.ofList name)) (name.length + 1) with keyAllowed := false }

def tag (l : Lexer) : Except Fault Lexer := do
  let l ← l.noteKey
  let (t, rest) ← (Tag.read l.input.chars).mapError fun p => .malformed p l.position
  if !atSpace rest && !(l.inFlow && rest.head? == some ',') then l.fail .badTag
  else pure { l.mark (.tag t) (l.input.chars.length - rest.length) with keyAllowed := false }

def blockScalar (l : Lexer) (literal : Bool) : Except Fault Lexer := do
  let l ← l.dropKey
  let (text, rest) ← l.input.block literal l.indent
  let kind := TokenKind.scalar (if literal then .literal else .folded) (String.ofList text)
  pure { l.emitAt kind l.position with input := rest, keyAllowed := true }

def quoted (l : Lexer) (single : Bool) : Except Fault Lexer := do
  let l ← l.noteKey
  let (text, rest) ← l.input.quoted single
  pure { l.emitAt (.scalar .quoted (String.ofList text)) l.position with
    input := rest, keyAllowed := false }

def plain (l : Lexer) : Except Fault Lexer := do
  let l ← l.noteKey
  let r ← l.input.plain l.inFlow (l.indent + 1)
  pure { l.emitAt (.scalar .plain (String.ofList r.text)) l.position with
    input := r.rest, keyAllowed := r.broken }

/-- May a plain scalar begin with this character? -/
def startsPlain (flow : Bool) (c : Char) (cs : List Char) : Bool :=
  if c = '-' then match cs with
    | d :: _ => !isBlank d
    | [] => true
  else if c = '?' || c = ':' then !flow && !atSpace cs
  else !isSpace c && !",[]\x7b\x7d#&*!|>'\"%@\x60".toList.contains c

/-- Reads the token that begins here. -/
def token (l : Lexer) : List Char → Except Fault Lexer
  | [] => l.finish
  | c :: cs =>
    let flow := l.inFlow
    let first := l.position.column = 0
    if first && c = '%' then l.directive
    else if first && atMarker (c :: cs) then
      l.marker (if c = '-' then .documentStart else .documentEnd)
    else if c = '[' then l.openFlow .openBracket
    else if c = '\x7b' then l.openFlow .openBrace
    else if c = ']' then l.closeFlow .closeBracket
    else if c = '\x7d' then l.closeFlow .closeBrace
    else if c = ',' then l.comma
    else if c = '-' && atSpace cs then l.entry
    else if c = '?' && (flow || atSpace cs) then l.markedKey
    else if c = ':' && (flow || atSpace cs) then l.value
    else if c = '*' then l.named .reference
    else if c = '&' then l.named .anchor
    else if c = '!' then l.tag
    else if c = '|' && !flow then l.blockScalar true
    else if c = '>' && !flow then l.blockScalar false
    else if c = '\'' then l.quoted true
    else if c = '"' then l.quoted false
    else if startsPlain flow c cs then l.plain
    else l.fail .noToken

/-- Goes to the next token and reads it. -/
def next (l : Lexer) : Except Fault Lexer := do
  let l ← (l.skipSpace (l.input.chars.length + 1)).dropStale
  let l := l.flatten l.position.column
  l.token l.input.chars

/-- The tokens before the first place where a key may begin; they stay as
they are whatever comes. -/
def settled (l : Lexer) : List Token :=
  let places := (l.key :: l.outerKeys).filterMap fun k => k.filter fun k => !l.isStale k
  let count := places.foldl (fun n k => min n k.number) l.count
  l.tokens.reverse.take count

/-- Reads token after token. -/
def run (fuel : Nat) (l : Lexer) : List Token × Option Fault :=
  match fuel with
  | 0 => (l.tokens.reverse, none)
  | fuel + 1 =>
    match l.next with
    | .error f => (l.settled, some f)
    | .ok l =>
      match l.tokens with
      | ⟨.textEnd, _⟩ :: _ => (l.tokens.reverse, none)
      | _ => run fuel l

end Lexer

/-- The tokens of a text, up to a fault if it has one. Each token but the last takes a character. -/
def tokensOf (text : String) : List Token × Option Fault :=
  if text.toList.all isAllowed then (Lexer.start text).run (text.toList.length + 1)
  else ([], some (.malformed .controlCharacter Position.start))

end RowFerry.Yaml
