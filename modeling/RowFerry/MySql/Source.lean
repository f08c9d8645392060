import RowFerry.Adapter.Migration
import RowFerry.MySql.Column
import RowFerry.MySql.Query

/-!
A MySQL server as a source of rows. Connecting logs in and tests the connection; a
page is read whole or fails.
-/

namespace RowFerry.MySql

/-- What a server says about a failure. -/
structure ServerFailure where
  code : Int
  state : String
  message : String
  deriving Repr, DecidableEq

def ServerFailure.text (f : ServerFailure) : String :=
  "error returned from database: " ++ Value.intText f.code ++ " (" ++ f.state ++ "): " ++ f.message

/-- Rows as a server sends them, with the names of their columns and of the columns' types. -/
structure WireTable where
  columns : List (String × String)
  rows : List (List Cell)
  deriving Repr, DecidableEq

/-- What a server answers: why it cannot be connected to or tested, if so, and what it sends for the
query of a given number; and how the cells that it sends are decoded. -/
structure Server where
  decoder : Decoder
  connecting : Option String
  testing : Option String
  answer : Nat → PageQuery → Except String WireTable

namespace Decoder

variable (d : Decoder)

/-- The cells of a row, decoded in order; the first that fails names its column. -/
def decodeRow (columns : List (String × String)) (cells : List Cell) : Except Failure Row := do
  let pairs ← (columns.zip cells).mapM fun ((name, type), cell) =>
    match d.decode type cell with
    | .ok v => .ok (name, v)
    | .error reason => .error (.source (.decoding name reason))
  pure (Row.ofList pairs)

def decodeTable (t : WireTable) : Except Failure (List Row) := t.rows.mapM (d.decodeRow t.columns)

end Decoder

namespace Server

/-- Logs in and tests the connection. -/
def connect (s : Server) : Except Failure Unit :=
  match s.connecting, s.testing with
  | some reason, _ => .error (.source (.connecting reason))
  | none, some reason => .error (.source (.testing reason))
  | none, none => .ok ()

/-- Reads a page with the query of a given number. A name that cannot be quoted fails
before anything is sent. -/
def select (s : Server) (number : Nat) (q : PageQuery) : Except Failure (List Row) := do
  let _ ← q.sql.mapError Failure.compile
  match s.answer number q with
  | .error reason => throw (.source (.reading q.table reason))
  | .ok table => s.decoder.decodeTable table

/-- The query for a page of a migration. -/
def pageQuery (r : PageRequest) : PageQuery := ⟨r.table, r.filters, r.limit, r.offset⟩

/-- The answers to the first `count` requests of a migration. -/
def answers (s : Server) (count : Nat) : List PageAnswer :=
  (List.range count).map fun number r => s.select number (pageQuery r)

end Server

end RowFerry.MySql
