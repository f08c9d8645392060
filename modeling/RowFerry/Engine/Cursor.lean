import RowFerry.Engine.LargeObject
import RowFerry.Row

/-!
Result sets. Rows are fetched one at a time and every large object in them is replaced by its text.
Once there is room for the rows, a result set is closed on every path, and so is every large object
of a row that was fetched. Without room the reading crashes before its first call. Room is what can
be addressed at all; that less memory is left than that is not modelled.
-/

namespace RowFerry

/-- A column value as a driver hands it out. -/
inductive Cell where
  | scalar (value : Value)
  | large (object : LargeObject)
  deriving Repr, DecidableEq

/-- The cell as messages show it. -/
def Cell.shown : Cell → String
  | scalar v => "Scalar(" ++ v.shown ++ ")"
  | large _ => "StreamableBlob(..)"

/-- A row as a driver hands it out. -/
abbrev RawRow := List (String × Cell)

/-- A result set: the number of rows that the driver announces, if it knows it, and what successive
fetches give, the rows and then the failure or the end. -/
structure Cursor where
  announced : Option Nat
  rows : List RawRow
  failure : Option Failure
  deriving Repr, DecidableEq

/-- A call on a result set or on a large object in one of its rows. -/
inductive CursorCall where
  | fetch
  | reader (column : String) (call : ReaderCall)
  | close
  deriving Repr, DecidableEq

namespace Cursor

/-- The result set that announces that it has no rows. -/
def none : Cursor := ⟨some 0, [], Option.none⟩

/-- Closes the large objects of the cells that are left, unread. -/
def closeCells : RawRow → List CursorCall
  | [] => []
  | (_, .scalar _) :: cells => closeCells cells
  | (column, .large _) :: cells => .reader column .close :: closeCells cells

/-- Replaces the large objects of a row by their texts, after the columns in `row`. After the first
that fails the others are closed unread. -/
def readCells (row : Row) : RawRow → Except Failure Row × List CursorCall
  | [] => (.ok row, [])
  | (column, .scalar v) :: cells => readCells (row.insert column v) cells
  | (column, .large o) :: cells =>
    let (text, calls) := o.read
    let calls := calls.map (CursorCall.reader column)
    match text with
    | .error f => (.error f, calls ++ closeCells cells)
    | .ok text =>
      let (result, more) := readCells (row.insert column (.string text)) cells
      (result, calls ++ more)

/-- Fetches rows until as many as are wanted have come, after those in `done` (the last one first).
Without a wanted number all rows are fetched. -/
def fetchRows (failure : Option Failure) (wanted : Option Nat) (done : List Row) :
    List RawRow → Except Failure (List Row) × List CursorCall
  | [] =>
    if wanted = some 0 then (.ok done.reverse, [])
    else match failure with
      | some f => (.error f, [.fetch])
      | Option.none => (.ok done.reverse, [.fetch])
  | raw :: rows =>
    if wanted = some 0 then (.ok done.reverse, [])
    else
      let (row, calls) := readCells Row.empty raw
      match row with
      | .error f => (.error f, .fetch :: calls)
      | .ok row =>
        let (result, more) := fetchRows failure (wanted.map (· - 1)) (row :: done) rows
        (result, .fetch :: calls ++ more)

/-- The most rows that room can be made for: each takes 24 bytes, and no list
more than `2 ^ 63 - 1`. -/
def maxRows : Nat := (Nat.pow 2 63 - 1) / 24

/-- Can room be made for the announced rows? -/
def fits (c : Cursor) : Bool := c.announced.all (· ≤ maxRows)

/-- The rows of a result set, and the calls that reading it makes. One that announces no rows is
closed without a fetch. Room for the announced rows is made first of all; where that cannot be done,
the reading crashes without a call, and there is no result. -/
def collect (c : Cursor) : Option (Except Failure (List Row) × List CursorCall) :=
  if c.fits then
    let (result, calls) := fetchRows c.failure c.announced [] c.rows
    some (result, calls ++ [.close])
  else Option.none

end Cursor

end RowFerry
