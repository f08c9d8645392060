import RowFerry.Yaml.Event

/-!
Nodes: the tree that events describe. Where the events end too soon the tree says so, so that what
stands before the break can still be read.
-/

namespace RowFerry.Yaml

/-- A node and where it begins. A reference gives the number of an anchor; `cut` stands
where the text breaks off. -/
inductive Node where
  | scalar (position : Position) (scalar : Scalar)
  | sequence (position : Position) (items : List Node)
  | mapping (position : Position) (entries : List (Node × Node))
  | reference (anchor : Nat)
  | cut

namespace Node

mutual

/-- Is nothing of the node cut off? -/
def isWhole : Node → Bool
  | scalar .. | reference _ => true
  | sequence _ items => areWhole items
  | mapping _ entries => pairsAreWhole entries
  | cut => false

def areWhole : List Node → Bool
  | [] => true
  | n :: ns => n.isWhole && areWhole ns

def pairsAreWhole : List (Node × Node) → Bool
  | [] => true
  | (k, v) :: es => k.isWhole && v.isWhole && pairsAreWhole es

end

/-- A collection whose end has not been read, with its parts so far (the last one first) and the key
that waits for its value. -/
inductive Open where
  | sequence (position : Position) (items : List Node)
  | mapping (position : Position) (entries : List (Node × Node)) (key : Option Node)

/-- The collection with a further part. -/
def Open.add (n : Node) : Open → Open
  | .sequence p items => .sequence p (n :: items)
  | .mapping p entries none => .mapping p entries (some n)
  | .mapping p entries (some k) => .mapping p ((k, n) :: entries) none

/-- The collection as a node; a key that still waits is dropped with it. -/
def Open.close : Open → Node
  | .sequence p items => .sequence p items.reverse
  | .mapping p entries _ => .mapping p entries.reverse

/-- The collection as a node that breaks off after a last part. -/
def Open.cutAfter (n : Node) (o : Open) : Node :=
  match o.add n with
  | .mapping p entries (some k) => .mapping p ((k, cut) :: entries).reverse
  | o => o.close

/-- Reads the rest of a node, within collections that are open (the innermost first). -/
def build (opened : List Open) : List Event → Node
  | [] => opened.foldl (fun n o => o.cutAfter n) cut
  | e :: es =>
    let place (n : Node) (outer : List Open) (rest : List Open → Node) : Node :=
      match outer with
      | [] => n
      | o :: os => rest (o.add n :: os)
    match e.kind with
    | .scalar _ s => place (scalar e.position s) opened fun os => build os es
    | .reference a => place (reference a) opened fun os => build os es
    | .sequenceStart _ => build (.sequence e.position [] :: opened) es
    | .mappingStart _ => build (.mapping e.position [] none :: opened) es
    | .sequenceEnd | .mappingEnd =>
      match opened with
      | [] => cut
      | o :: os => place o.close os fun os => build os es
    | .documentEnd | .textEnd => cut

/-- The node that begins with the first event. -/
def ofEvents (es : List Event) : Node := build [] es

end Node

end RowFerry.Yaml
