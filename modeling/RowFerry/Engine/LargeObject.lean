import RowFerry.Failure
import RowFerry.Text.Utf8

/-!
Large objects: column values that a driver hands out in chunks. They are drained to the end and
decoded once, so a character that two chunks share survives, and the reader is closed on every path.
-/

namespace RowFerry

/-- What a reader answers to successive reads: its chunks, then the failure or the end. -/
structure LargeObject where
  chunks : List (List UInt8)
  failure : Option Failure
  deriving Repr, DecidableEq

/-- A call on the reader of a large object. -/
inductive ReaderCall where
  | read
  | close
  deriving Repr, DecidableEq

namespace LargeObject

/-- Reads until the reader has no more, after the chunks in `done` (the last one first). -/
def drain (failure : Option Failure) (done : List (List UInt8)) :
    List (List UInt8) → Except Failure (List UInt8) × List ReaderCall
  | [] =>
    match failure with
    | some f => (.error f.asStream, [.read])
    | none => (.ok done.reverse.flatten, [.read])
  | chunk :: chunks =>
    let (result, calls) := drain failure (chunk :: done) chunks
    (result, .read :: calls)

/-- The text of a large object, and the calls that reading it makes. -/
def read (o : LargeObject) : Except Failure String × List ReaderCall :=
  let (result, calls) := drain o.failure [] o.chunks
  (result.map Text.Utf8.read, calls ++ [.close])

end LargeObject

end RowFerry
