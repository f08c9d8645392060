import RowFerry.Text.Digits
import RowFerry.Text.Lists

/-!
JSON trees whose objects keep the order of their fields, and their two layouts: on one line without
blanks, and over several lines with two blanks for each level.
-/

namespace RowFerry

/-- A JSON tree. A number is given by its text. -/
inductive Json where
  | null
  | bool (b : Bool)
  | number (text : String)
  | string (text : String)
  | array (items : List Json)
  | object (fields : List (String × Json))

namespace Json

/-- How a JSON string spells one character. -/
def spelled (c : Char) : List Char :=
  if c = '"' then ['\\', '"']
  else if c = '\\' then ['\\', '\\']
  else if c = '\n' then ['\\', 'n']
  else if c = '\r' then ['\\', 'r']
  else if c = '\t' then ['\\', 't']
  else if c = '\x08' then ['\\', 'b']
  else if c = '\x0c' then ['\\', 'f']
  else if c.toNat < 0x20 then
    ['\\', 'u', '0', '0', Text.hexDigit (c.toNat / 16), Text.hexDigit (c.toNat % 16)]
  else [c]

/-- A JSON string with its quotes. -/
def stringChars (text : String) : List Char := '"' :: text.toList.flatMap spelled ++ ['"']

/-- The text of a tree that has no parts. -/
def wordChars (b : Bool) : List Char := (if b then "true" else "false").toList

mutual

def compactChars : Json → List Char
  | null => "null".toList
  | bool b => wordChars b
  | number text => text.toList
  | string text => stringChars text
  | array items => '[' :: compactItems items ++ [']']
  | object fields => '\x7b' :: compactFields fields ++ ['\x7d']

def compactItems : List Json → List Char
  | [] => []
  | [j] => compactChars j
  | j :: js => compactChars j ++ ',' :: compactItems js

def compactFields : List (String × Json) → List Char
  | [] => []
  | [(name, j)] => stringChars name ++ ':' :: compactChars j
  | (name, j) :: fs => stringChars name ++ ':' :: compactChars j ++ ',' :: compactFields fs

end

/-- The tree on one line, without blanks. -/
def compact (j : Json) : String := String.ofList j.compactChars

/-- A new line at a level of depth. -/
def newLine (depth : Nat) : List Char := '\n' :: List.replicate (2 * depth) ' '

mutual

def prettyChars (depth : Nat) : Json → List Char
  | null => "null".toList
  | bool b => wordChars b
  | number text => text.toList
  | string text => stringChars text
  | array [] => ['[', ']']
  | array items => '[' :: prettyItems (depth + 1) items ++ newLine depth ++ [']']
  | object [] => ['\x7b', '\x7d']
  | object fields => '\x7b' :: prettyFields (depth + 1) fields ++ newLine depth ++ ['\x7d']

def prettyItems (depth : Nat) : List Json → List Char
  | [] => []
  | [j] => newLine depth ++ prettyChars depth j
  | j :: js => newLine depth ++ prettyChars depth j ++ ',' :: prettyItems depth js

def prettyFields (depth : Nat) : List (String × Json) → List Char
  | [] => []
  | [(name, j)] => newLine depth ++ stringChars name ++ ':' :: ' ' :: prettyChars depth j
  | (name, j) :: fs =>
    newLine depth ++ stringChars name ++ ':' :: ' ' :: prettyChars depth j ++
      ',' :: prettyFields depth fs

end

/-- The tree over several lines. -/
def pretty (j : Json) : String := String.ofList (j.prettyChars 0)

/-- A natural number as a JSON number. -/
def nat (n : Nat) : Json := .number (String.ofList (Text.numeral n))

end Json

end RowFerry
