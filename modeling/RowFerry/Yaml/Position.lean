import RowFerry.Text.Digits

/-!
Places in a YAML text, and the classes of characters that its tokens are made of. Lines and columns
count from zero; a carriage return with a line feed after it is one line break.
-/

namespace RowFerry.Yaml

/-- A place in a text: characters before it, lines before it, characters before it on its line. -/
structure Position where
  index : Nat
  line : Nat
  column : Nat
  deriving Repr, DecidableEq

def isBlank (c : Char) : Bool := c = ' ' || c = '\t'

def isBreak (c : Char) : Bool :=
  c = '\r' || c = '\n' || c = '\x85' || c = '\u2028' || c = '\u2029'

def isSpace (c : Char) : Bool := isBlank c || isBreak c

/-- Is a text at its end, or at a blank or a line break? -/
def atSpace : List Char → Bool
  | [] => true
  | c :: _ => isSpace c

/-- The characters of names of anchors, directives and tag handles. -/
def isNameChar (c : Char) : Bool := c.isAlphanum || c = '_' || c = '-'

/-- The characters that a text may hold. -/
def isAllowed (c : Char) : Bool :=
  let n := c.toNat
  n = 0x9 || n = 0xa || n = 0xd || (0x20 ≤ n && n ≤ 0x7e) || n = 0x85 ||
    (0xa0 ≤ n && n ≤ 0xd7ff) || (0xe000 ≤ n && n ≤ 0xfffd) || 0x10000 ≤ n

/-- Does a document marker stand here, followed by space? -/
def atMarker : List Char → Bool
  | '-' :: '-' :: '-' :: cs => atSpace cs
  | '.' :: '.' :: '.' :: cs => atSpace cs
  | _ => false

namespace Position

def start : Position := ⟨0, 0, 0⟩

/-- The place after a character that is not a line break. -/
def next (p : Position) : Position := ⟨p.index + 1, p.line, p.column + 1⟩

/-- The place after a line break of so many characters. -/
def nextLine (p : Position) (count : Nat) : Position := ⟨p.index + count, p.line + 1, 0⟩

/-- The place after some characters. -/
def after (p : Position) : List Char → Position
  | [] => p
  | '\r' :: '\n' :: cs => after (p.nextLine 2) cs
  | c :: cs => after (if isBreak c then p.nextLine 1 else p.next) cs

/-- Where a reader finds it, with lines and columns counted from one; nothing is said of the very
start. -/
def text (p : Position) : String :=
  if p.line = 0 && p.column = 0 then ""
  else
    " at line " ++ String.ofList (Text.numeral (p.line + 1)) ++
      " column " ++ String.ofList (Text.numeral (p.column + 1))

end Position

/-- What is left to read, and where it stands. -/
structure Input where
  chars : List Char
  position : Position
  deriving Repr, DecidableEq

namespace Input

def ofText (text : String) : Input := ⟨text.toList, Position.start⟩

/-- Goes past `n` characters. -/
def drop (i : Input) (n : Nat) : Input := ⟨i.chars.drop n, i.position.after (i.chars.take n)⟩

/-- Goes past the characters of a class. -/
def dropWhile (i : Input) (p : Char → Bool) : Input :=
  ⟨i.chars.dropWhile p, i.position.after (i.chars.takeWhile p)⟩

/-- Goes past one line break if it stands here. -/
def dropBreak (i : Input) : Input :=
  match i.chars with
  | '\r' :: '\n' :: cs => ⟨cs, i.position.nextLine 2⟩
  | c :: cs => if isBreak c then ⟨cs, i.position.nextLine 1⟩ else i
  | [] => i

/-- Goes past blanks and a comment, if one follows, to the end of the line. -/
def dropComment (i : Input) : Input :=
  let i := i.dropWhile isBlank
  match i.chars with
  | '#' :: _ => i.dropWhile fun c => !isBreak c
  | _ => i

end Input

end RowFerry.Yaml
