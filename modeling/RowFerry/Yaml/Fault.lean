import RowFerry.Text.Lists
import RowFerry.Yaml.Position

/-!
What can be wrong with a YAML text: it is not well formed, or what it says is not what was expected.
-/

namespace RowFerry.Yaml

/-- Why a text is not well formed. -/
inductive Problem where
  | controlCharacter
  | missingColon
  | misplacedEntry
  | misplacedKey
  | misplacedValue
  | noToken
  | badDirective
  | badAnchor
  | badTag
  | badHeader
  | tabIndentation
  | markerInQuotes
  | unclosedQuote
  | badEscape
  | unexpectedColon
  | noDocumentStart
  | repeatedDirective
  | unknownVersion
  | unknownHandle
  | noContent
  | noEntry
  | noKey
  | noCommaOrBracket
  | noCommaOrBrace
  | unknownAnchor
  | severalDocuments
  deriving Repr, DecidableEq

def Problem.message : Problem → String
  | controlCharacter => "control characters are not allowed"
  | missingColon => "could not find expected ':'"
  | misplacedEntry => "block sequence entries are not allowed in this context"
  | misplacedKey => "mapping keys are not allowed in this context"
  | misplacedValue => "mapping values are not allowed in this context"
  | noToken => "found character that cannot start any token"
  | badDirective => "found a directive that cannot be read"
  | badAnchor => "did not find expected alphabetic or numeric character"
  | badTag => "did not find expected tag"
  | badHeader => "did not find expected comment or line break"
  | tabIndentation => "found a tab character where an indentation space is expected"
  | markerInQuotes => "found unexpected document indicator"
  | unclosedQuote => "found unexpected end of stream"
  | badEscape => "found unknown escape character"
  | unexpectedColon => "found unexpected ':'"
  | noDocumentStart => "did not find expected <document start>"
  | repeatedDirective => "found duplicate directive"
  | unknownVersion => "found incompatible YAML document"
  | unknownHandle => "found undefined tag handle"
  | noContent => "did not find expected node content"
  | noEntry => "did not find expected '-' indicator"
  | noKey => "did not find expected key"
  | noCommaOrBracket => "did not find expected ',' or ']'"
  | noCommaOrBrace => "did not find expected ',' or '\x7d'"
  | unknownAnchor => "unknown anchor"
  | severalDocuments => "found more than one document"

/-- Why a well-formed part is not what was expected. -/
inductive Mismatch where
  | missingField (name : String)
  | repeatedField (name : String)
  | wrongType (found expected : String)
  | wrongValue (found expected : String)
  deriving Repr, DecidableEq

def Mismatch.message : Mismatch → String
  | missingField name => "missing field \x60" ++ name ++ "\x60"
  | repeatedField name => "duplicate field \x60" ++ name ++ "\x60"
  | wrongType found expected => "invalid type: " ++ found ++ ", expected " ++ expected
  | wrongValue found expected => "invalid value: " ++ found ++ ", expected " ++ expected

/-- What is wrong with a text, and where. The path names the fields on the way to a mismatch. -/
inductive Fault where
  | malformed (problem : Problem) (position : Position)
  | mismatch (cause : Mismatch) (path : List String) (position : Position)
  deriving Repr, DecidableEq

def Fault.message : Fault → String
  | malformed problem position => problem.message ++ position.text
  | mismatch cause path position =>
    let way := if path.isEmpty then "" else Text.joinWith "." path ++ ": "
    way ++ cause.message ++ position.text

end RowFerry.Yaml
