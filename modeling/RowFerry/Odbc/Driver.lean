import RowFerry.Engine.Pool
import RowFerry.Odbc.Column

/-!
Drivers and connections. A result set is fetched whole while its statement runs; long values in it
are handed out afterwards in chunks.
-/

namespace RowFerry.Odbc

/-- The call that a driver reports a failure of. -/
inductive DriverCall where
  | connect
  | execute
  | endTransaction
  | fetch
  | getData
  deriving Repr, DecidableEq

def DriverCall.name : DriverCall → String
  | connect => "SQLDriverConnect"
  | execute => "SQLExecDirect"
  | endTransaction => "SQLEndTran"
  | fetch => "SQLFetch"
  | getData => "SQLGetData"

/-- What a driver says about a failure. -/
structure Diagnostic where
  state : String
  native : Int
  message : String
  deriving Repr, DecidableEq

def Diagnostic.text (d : Diagnostic) (call : DriverCall) : String :=
  "ODBC emitted an error calling '" ++ call.name ++ "':\nState: " ++ d.state ++
    ", Native error: " ++ Value.intText d.native ++ ", Message: " ++ d.message

/-- The failure of a call on a statement or a transaction. -/
def Diagnostic.failure (d : Diagnostic) (call : DriverCall) : Failure := .driver (d.text call)

/-- A cell as a driver renders it. -/
inductive WireCell where
  | null
  | bytes (bs : List UInt8)
  | failed (diagnostic : Diagnostic)
  deriving Repr, DecidableEq

/-- A result set as a driver gives it: columns, rows, and the failure that fetching ends with. -/
structure WireSet where
  columns : List (String × ColumnType)
  rows : List (List WireCell)
  failure : Option Diagnostic
  deriving Repr, DecidableEq

/-- What a driver answers to a statement; a negative count is an unknown one. -/
inductive Answer where
  | affected (count : Int)
  | rows (set : WireSet)
  deriving Repr, DecidableEq

/-- The length of the chunks in which long values are handed out. -/
def chunkSize : Nat := 65536

/-- Cuts bytes into chunks; the last one may be shorter, and none is empty. -/
def chunks (bytes : List UInt8) : List (List UInt8) :=
  if bytes.isEmpty then [] else bytes.take chunkSize :: chunks (bytes.drop chunkSize)
termination_by bytes.length
decreasing_by
  rename_i h
  cases bytes with
  | nil => simp at h
  | cons b bs => simp only [List.length_drop, List.length_cons, chunkSize]; omega

/-- The value of a cell by the type of its column. -/
def readCell (type : ColumnType) : WireCell → Except Failure Cell
  | .null => .ok (.scalar .null)
  | .failed d => .error (d.failure .getData)
  | .bytes bs =>
    if type.isLong then .ok (.large ⟨chunks bs, none⟩)
    else if type.isBinary then .ok (.scalar (.bytes bs))
    else .ok (.scalar (type.parse (Text.Utf8.read bs)))

/-- The values of a row, column by column. -/
def readRow (columns : List (String × ColumnType)) (cells : List WireCell) :
    Except Failure RawRow :=
  (columns.zip cells).mapM fun ((name, type), cell) => do
    let value ← readCell type cell
    pure (name, value)

/-- Fetches a result set completely. -/
def WireSet.fetchAll (s : WireSet) : Except Failure (List RawRow) := do
  let rows ← s.rows.mapM (readRow s.columns)
  match s.failure with
  | some d => throw (d.failure .fetch)
  | none => pure rows

/-- The result set that hands out fetched rows. -/
def buffered (rows : List RawRow) : Cursor := ⟨some rows.length, rows, none⟩

/-- What a driver manager answers to each request, as a function of a state of its own. -/
structure Manager (μ κ : Type) where
  connect : String → StateM μ (Except Diagnostic κ)
  execute : κ → String → List Parameter → StateM μ (Except Diagnostic Answer)
  commit : κ → StateM μ (Except Diagnostic Unit)
  disconnect : κ → StateM μ Unit

namespace Manager

variable {μ κ : Type} (m : Manager μ κ)

/-- Makes a connection in manual-commit mode. -/
def connection (text : String) : Act μ κ := do
  match ← ExceptT.lift (m.connect text) with
  | .error d => throw (.init ("Failed to connect to DM via ODBC: " ++ d.text .connect))
  | .ok c => pure c

/-- Executes a statement and fetches its result set if it has one. -/
def run (c : κ) (sql : String) (values : List Value) : Act μ Outcome := do
  match ← ExceptT.lift (m.execute c sql (values.map Parameter.ofValue)) with
  | .error d => throw (d.failure .execute)
  | .ok (.affected n) => pure (.affected n.toNat)
  | .ok (.rows s) =>
    let rows ← Act.ofExcept s.fetchAll
    pure (.rows (buffered rows))

def commitOn (c : κ) : Act μ Unit := do
  match ← ExceptT.lift (m.commit c) with
  | .error d => throw (d.failure .endTransaction)
  | .ok () => pure ()

end Manager

end RowFerry.Odbc
