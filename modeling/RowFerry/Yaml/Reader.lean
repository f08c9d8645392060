import RowFerry.Yaml.Datum
import RowFerry.Yaml.Document

/-!
Reading what is expected from the nodes of a document. Fields are read in the order of the text, so
of two faults the first in the text is reported; a text that breaks off is read as far as it goes.
-/

namespace RowFerry.Yaml

/-- A reader of nodes of a document, given the path to the node. -/
abbrev Reader (α : Type) := Document → List String → Node → Except Fault α

/-- A field with its reader, whatever that gives. -/
structure Field where
  name : String
  read : Reader Unit

def Field.of {α : Type} (name : String) (read : Reader α) : Field :=
  ⟨name, fun d path n => (read d path n).map fun _ => ()⟩

/-- A value of a mapping under the name of a field, and the path to it. -/
structure Entry where
  name : String
  path : List String
  value : Node

/-- The fault of a node that is not what was expected. -/
def unexpected {α : Type} (d : Document) (path : List String) (expected : String) :
    Node → Except Fault α
  | .scalar p s => .error (.mismatch (s.mismatch expected) path p)
  | .sequence p _ => .error (.mismatch (.wrongType "sequence" expected) path p)
  | .mapping p _ => .error (.mismatch (.wrongType "map" expected) path p)
  | .reference _ | .cut => .error d.broken

/-- Reads any scalar as a text. -/
def readText (expected : String) : Reader String := fun d path n =>
  match d.deref n with
  | .scalar _ s => .ok s.text
  | n => unexpected d path expected n

/-- Reads a truth value. -/
def readBool : Reader Bool := fun d path n =>
  let n := d.deref n
  let expected := "a boolean"
  match n with
  | .scalar _ s =>
    match if s.isBare boolTag then boolWord? s.text else none with
    | some b => .ok b
    | none => unexpected d path expected n
  | n => unexpected d path expected n

/-- Reads a natural number of so many bits. -/
def readNatural (bits : Nat) : Reader Nat := fun d path n =>
  let n := d.deref n
  let expected := "u" ++ String.ofList (Text.numeral bits)
  match n with
  | .scalar p s =>
    match if s.isBare intTag then (natural? s.text).filter (· < Nat.pow 2 64) else none with
    | some i =>
      if i < Nat.pow 2 bits then .ok i
      else .error (.mismatch (.wrongValue (Datum.integer i).shown expected) path p)
    | none => unexpected d path expected n
  | n => unexpected d path expected n

/-- Reads what may be missing: a node that was left out, or null. -/
def readOptional {α : Type} (read : Reader α) (outer : List String) (place : Position) :
    Reader (Option α) := fun d path n =>
  match d.deref n with
  | .scalar p s =>
    if s.style != .plain then some <$> read d path n
    else if s.tag = some nullTag then
      if isNullWord s.text then .ok none
      else .error (.mismatch (s.mismatch "null") outer place)
    else if s.tag = none && (s.text = "" || isNullWord s.text) then .ok none
    else some <$> read d path (.scalar p s)
  | n => some <$> read d path n

/-- Reads the entries of a mapping in order: keys are scalars, known fields stand once and must be
readable, and all else must be whole. -/
def readEntries (d : Document) (path : List String) (p : Position) (fields : List Field)
    (seen : List Entry) : List (Node × Node) → Except Fault (List Entry)
  | [] => .ok seen
  | (key, value) :: rest => do
    let name ← readText "field identifier" d path key
    let step := match key with
      | .scalar .. => name
      | _ => "?"
    match fields.find? fun f => f.name == name with
    | none =>
      if value.isWhole then readEntries d path p fields seen rest else throw d.broken
    | some f =>
      if seen.any fun e => e.name == name then throw (.mismatch (.repeatedField name) path p)
      else
        f.read d (path ++ [step]) value
        readEntries d path p fields (seen ++ [⟨name, path ++ [step], value⟩]) rest

/-- A section of a configuration: its fields as they stand in the text, and where it stands. -/
structure Section where
  document : Document
  path : List String
  position : Position
  entries : List Entry

/-- Reads a section. A section that was left out has no fields. -/
def readSection (name : String) (fields : Position → List Field) : Reader Section := fun d path n =>
  match d.deref n with
  | .mapping p entries => do
    let entries ← readEntries d path p (fields p) [] entries
    .ok ⟨d, path, p, entries⟩
  | .scalar p s =>
    if s.isLeftOut then .ok ⟨d, path, p, []⟩
    else .error (.mismatch (s.mismatch ("struct " ++ name)) path p)
  | n => unexpected d path ("struct " ++ name) n

namespace Section

variable {α : Type} (s : Section)

/-- A field, if it stands in the text. -/
def field? (name : String) (read : Reader α) : Except Fault (Option α) :=
  match s.entries.find? fun e => e.name == name with
  | some e => some <$> read s.document e.path e.value
  | none => .ok none

/-- A field that has a default. -/
def field (name : String) (read : Reader α) (default : α) : Except Fault α :=
  (s.field? name read).map fun v => v.getD default

/-- A field that must stand in the text. -/
def required (name : String) (read : Reader α) : Except Fault α := do
  match ← s.field? name read with
  | some v => .ok v
  | none => .error (.mismatch (.missingField name) s.path s.position)

end Section

/-- Reads the document of a text. A text without a document has no fields. -/
def readText? {α : Type} (read : Reader α) (text : String) : Except Fault α := do
  let d := Document.ofText text
  let root := match d.blankAt with
    | some p => .scalar p ⟨"", .plain, none⟩
    | none => d.root
  let value ← read d [] root
  match d.leftover with
  | some f => throw f
  | none => pure value

end RowFerry.Yaml
