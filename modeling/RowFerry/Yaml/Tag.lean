import RowFerry.Text.Digits
import RowFerry.Yaml.Fault

/-!
Tags: a handle, which a directive may abbreviate, and the rest of the name of a type.
-/

namespace RowFerry.Yaml

/-- A tag as it is written. A tag between angle brackets has no handle, nor has the tag `!`. -/
structure Tag where
  handle : String
  suffix : String
  deriving Repr, DecidableEq

/-- The abbreviations that directives introduce: handles with what they stand for. -/
abbrev Handles := List (String × String)

/-- The handles that every document has. -/
def standardHandles : Handles := [("!", "!"), ("!!", "tag:yaml.org,2002:")]

/-- The full name of a tag, if its handle is known. -/
def Tag.name? (t : Tag) (handles : Handles) : Option String :=
  if t.handle = "" then some t.suffix
  else ((handles ++ standardHandles).lookup t.handle).map fun start => start ++ t.suffix

def nullTag : String := "tag:yaml.org,2002:null"
def boolTag : String := "tag:yaml.org,2002:bool"
def intTag : String := "tag:yaml.org,2002:int"
def floatTag : String := "tag:yaml.org,2002:float"

/-- The characters of a tag; between angle brackets also those that separate within brackets. -/
def isTagChar (verbatim : Bool) (c : Char) : Bool :=
  isNameChar c || ";/?:@&=+$.%!~*'()".toList.contains c || (verbatim && ",[]".toList.contains c)

/-- How many bytes the encoding of a character has, by its first byte; zero if none begins so. -/
def sequenceLength (byte : Nat) : Nat :=
  if byte < 0x80 then 1
  else if byte / 0x20 = 6 then 2
  else if byte / 0x10 = 14 then 3
  else if byte / 8 = 30 then 4
  else 0

/-- Reads a tag with its escapes decoded into bytes, after the characters in `done` (the last one
first). `left` counts the bytes that an escaped character still lacks. -/
def readTag (verbatim : Bool) (left : Nat) (done : List Char) :
    List Char → Except Problem (List Char × List Char)
  | '%' :: a :: b :: cs =>
    match Text.hexValue? a, Text.hexValue? b with
    | some high, some low =>
      let byte := high * 16 + low
      let owed := if left = 0 then sequenceLength byte else left
      let fits := if left = 0 then owed != 0 else byte / 0x40 == 2
      if fits then readTag verbatim (owed - 1) (Char.ofNat byte :: done) cs else .error .badTag
    | _, _ => .error .badTag
  | [] => if left = 0 then .ok (done.reverse, []) else .error .badTag
  | c :: cs =>
    if left != 0 || c = '%' then .error .badTag
    else if isTagChar verbatim c then readTag verbatim 0 (c :: done) cs
    else .ok (done.reverse, c :: cs)

/-- Reads a handle: an exclamation mark, name characters, and a second mark if it stands there. -/
def readHandle : List Char → Except Problem (List Char × List Char)
  | '!' :: cs =>
    let name := cs.takeWhile isNameChar
    match cs.dropWhile isNameChar with
    | '!' :: rest => .ok ('!' :: name ++ ['!'], rest)
    | rest => .ok ('!' :: name, rest)
  | _ => .error .badTag

/-- Is this a handle, and not the beginning of a tag without one? -/
def isHandle (cs : List Char) : Bool := 2 ≤ cs.length && cs.getLast? = some '!'

/-- Reads the tag between angle brackets after `!<`. -/
def Tag.readVerbatim (cs : List Char) : Except Problem (Tag × List Char) := do
  let (name, rest) ← readTag true 0 [] cs
  match rest with
  | '>' :: rest => if name.isEmpty then .error .badTag else .ok (⟨"", String.ofList name⟩, rest)
  | _ => .error .badTag

/-- Reads the tag that begins here. -/
def Tag.read (cs : List Char) : Except Problem (Tag × List Char) := do
  match cs with
  | '!' :: '<' :: cs => Tag.readVerbatim cs
  | cs =>
    let (handle, rest) ← readHandle cs
    let (suffix, rest) ← readTag false 0 [] rest
    if isHandle handle then
      if suffix.isEmpty then .error .badTag
      else .ok (⟨String.ofList handle, String.ofList suffix⟩, rest)
    else
      let name := handle.drop 1 ++ suffix
      if name.isEmpty then .ok (⟨"", "!"⟩, rest) else .ok (⟨"!", String.ofList name⟩, rest)

end RowFerry.Yaml
