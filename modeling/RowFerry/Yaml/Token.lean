import RowFerry.Yaml.Tag

/-!
Tokens: the marks, names and scalars of a YAML text. Collections that are told by indentation begin
and end with tokens of their own.
-/

namespace RowFerry.Yaml

/-- How a scalar is written. -/
inductive ScalarStyle where
  | plain
  | quoted
  | literal
  | folded
  deriving Repr, DecidableEq

inductive TokenKind where
  | version (major minor : Nat)
  | handle (name meaning : String)
  | documentStart
  | documentEnd
  | blockSequence
  | blockMapping
  | blockEnd
  | openBracket
  | closeBracket
  | openBrace
  | closeBrace
  | entry
  | comma
  | key
  | value
  | reference (name : String)
  | anchor (name : String)
  | tag (tag : Tag)
  | scalar (style : ScalarStyle) (text : String)
  | textEnd
  deriving Repr, DecidableEq

/-- A token and where it begins. -/
structure Token where
  kind : TokenKind
  position : Position
  deriving Repr, DecidableEq

end RowFerry.Yaml
