import RowFerry.Yaml.Token

/-!
Events: the nodes of the documents of a YAML text in order, a collection as its beginning and its
end. Nodes that are left out appear as empty plain scalars, and anchors appear as numbers.
-/

namespace RowFerry.Yaml

/-- A scalar with the name of its tag, if it has one. -/
structure Scalar where
  text : String
  style : ScalarStyle
  tag : Option String
  deriving Repr, DecidableEq

inductive EventKind where
  | scalar (anchor : Option Nat) (scalar : Scalar)
  | sequenceStart (anchor : Option Nat)
  | sequenceEnd
  | mappingStart (anchor : Option Nat)
  | mappingEnd
  | reference (anchor : Nat)
  | documentEnd
  | textEnd
  deriving Repr, DecidableEq

/-- An event and where its node begins. -/
structure Event where
  kind : EventKind
  position : Position
  deriving Repr, DecidableEq

/-- The number of the anchor of an event. -/
def Event.anchor? (e : Event) : Option Nat :=
  match e.kind with
  | .scalar a _ | .sequenceStart a | .mappingStart a => a
  | _ => none

end RowFerry.Yaml
