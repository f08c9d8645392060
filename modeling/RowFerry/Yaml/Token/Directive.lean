import RowFerry.Yaml.Token

/-!
Directives: lines that begin with a percent sign and stand before a document. They give the version
of the language, or a handle for tags.
-/

namespace RowFerry.Yaml

/-- Reads a number of one to nine digits. -/
def versionNumber? (cs : List Char) : Option (Nat × List Char) :=
  let digits := cs.takeWhile Char.isDigit
  if digits.isEmpty || 9 < digits.length then none
  else some (Text.ofDigits digits, cs.dropWhile Char.isDigit)

/-- Reads the two numbers of a version. -/
def version? (cs : List Char) : Option (TokenKind × List Char) := do
  let (major, cs) ← versionNumber? cs
  match cs with
  | '.' :: cs =>
    let (minor, cs) ← versionNumber? cs
    some (.version major minor, cs)
  | _ => none

/-- Reads a handle and what it stands for. -/
def handleMeaning? (cs : List Char) : Option (TokenKind × List Char) := do
  let (handle, cs) ← (readHandle cs).toOption
  if handle.length != 1 && !isHandle handle then none
  else
    match cs with
    | c :: _ =>
      if !isBlank c then none
      else
        let (meaning, cs) ← (readTag true 0 [] (cs.dropWhile isBlank)).toOption
        if meaning.isEmpty || !atSpace cs then none
        else some (.handle (String.ofList handle) (String.ofList meaning), cs)
    | [] => none

/-- Reads the directive whose percent sign stands here, with its line. -/
def Input.directive (i : Input) : Except Fault (TokenKind × Input) := do
  let bad := Fault.malformed .badDirective i.position
  let cs := i.chars.drop 1
  let name := String.ofList (cs.takeWhile isNameChar)
  let rest := cs.dropWhile isNameChar
  if !atSpace rest then throw bad
  let read := if name = "YAML" then version? else if name =
    "TAG" then handleMeaning? else fun _ => none
  match read (rest.dropWhile isBlank) with
  | none => throw bad
  | some (kind, rest) =>
    let after := (i.drop (i.chars.length - rest.length)).dropComment
    match after.chars with
    | c :: _ => if isBreak c then pure (kind, after.dropBreak) else throw bad
    | [] => pure (kind, after)

end RowFerry.Yaml
