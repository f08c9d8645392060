import RowFerry.Yaml.Event.Grammar
import RowFerry.Yaml.Node

/-!
Documents. A text has one document; what follows it, and a fault anywhere, matter only after what
can be read has been read.
-/

namespace RowFerry.Yaml

/-- The first document of a text: its events, the fault it breaks off with, whether another document
follows, and where the text ends if there is no document at all. -/
structure Document where
  events : List Event
  fault : Option Fault
  followed : Bool
  blankAt : Option Position

namespace Document

/-- Does an event end a document or the text? -/
def endsDocument (e : Event) : Bool := e.kind = .documentEnd || e.kind = .textEnd

def ofText (text : String) : Document :=
  let (events, fault) := eventsOf text
  let first := events.takeWhile fun e => !endsDocument e
  match events.dropWhile fun e => !endsDocument e with
  | [] => ⟨first, fault, false, none⟩
  | ⟨.textEnd, p⟩ :: _ => ⟨first, none, false, some p⟩
  | _ :: rest => ⟨first, none, rest.head?.map Event.kind != some .textEnd, none⟩

/-- The document as a tree. -/
def root (d : Document) : Node := Node.ofEvents d.events

/-- The events from the last one on that has an anchor of a given number. -/
def anchored (anchor : Nat) : List Event → Option (List Event)
  | [] => none
  | e :: es =>
    match anchored anchor es with
    | some found => some found
    | none => if e.anchor? = some anchor then some (e :: es) else none

/-- The node that a node stands for: references stand for the anchored node. -/
def deref (d : Document) (n : Node) : Node :=
  match n with
  | .reference a =>
    match anchored a d.events with
    | some es => Node.ofEvents es
    | none => .cut
  | n => n

/-- The fault of a document that breaks off. -/
def broken (d : Document) : Fault := d.fault.getD (.malformed .noContent Position.start)

/-- The fault that remains when everything could be read. -/
def leftover (d : Document) : Option Fault :=
  if d.fault.isSome then d.fault
  else if d.followed then some (.malformed .severalDocuments Position.start)
  else none

end Document

end RowFerry.Yaml
