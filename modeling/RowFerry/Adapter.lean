import RowFerry.Engine.Pool
import RowFerry.Sql.Compiler

/-!
The adapter: rows are created, found, counted, updated and deleted over an engine. A statement is
compiled before a connection is acquired; changes are committed before their connection goes back.
-/

namespace RowFerry

/-- An engine and the compiler of the statements for it. -/
structure Adapter (σ κ : Type) where
  engine : Engine σ κ
  compiler : Compiler

/-- The rows of one page together with the size of the whole match set. -/
structure FindResult where
  items : List Row
  total : Nat
  deriving Repr, DecidableEq

def FindResult.toJson (r : FindResult) : Json :=
  .object [("items", .array (r.items.map Row.toJson)), ("total", .nat r.total)]

/-- What a statement written by the caller yields. -/
inductive NativeResult where
  | affected (count : Nat)
  | rows (rows : List Row)
  deriving Repr, DecidableEq

def NativeResult.toJson : NativeResult → Json
  | affected n => .object [("affected", .nat n)]
  | rows rs => .object [("rows", .array (rs.map Row.toJson))]

/-- Are two names equal when the case of ASCII letters is ignored? -/
def sameAsciiName (a b : String) : Bool :=
  a.toList.map Char.toLower == b.toList.map Char.toLower

/-- The column of a count: the one with the name of the count, else the first. -/
def Row.total? (r : Row) : Option Value :=
  match r.entries.find? fun e => sameAsciiName e.1 countColumn with
  | some e => some e.2
  | none => r.values.head?

/-- The number that a count reports. No row and a missing total are zero; anything that is not a
natural number is refused. -/
def readTotal (rows : List Row) : Except Failure Nat :=
  match rows.head?.bind Row.total? with
  | none | some .null => .ok 0
  | some v =>
    match v.integer? with
    | some (.ofNat n) => .ok n
    | _ => .error (.execution .count ("unexpected total " ++ v.shown))

namespace Adapter

variable {σ κ : Type} (a : Adapter σ κ)

/-- Executes a statement that changes rows, and commits it. -/
def mutate (stage : Stage) (s : Statement) : Act σ Nat :=
  a.engine.withConnection stage fun c => do
    let outcome ← a.engine.execute c s.sql s.values
    let n ← a.engine.settle outcome
    a.engine.commit c
    pure n

/-- Executes a statement that reads rows. As in all that reads, nothing comes
of it when it crashes. -/
def query (stage : Stage) (s : Statement) : Act σ (Option (List Row)) :=
  a.engine.withConnectionToRead stage fun c => do
    match ← a.engine.execute c s.sql s.values with
    | .rows cursor => a.engine.collect cursor
    | .affected _ => pure (some [])

/-- Inserts a row; the number of rows affected. -/
def create (table : String) (row : Row) : Act σ Nat := do
  let s ← Act.ofCompiled (a.compiler.create table row)
  a.mutate .insert s

/-- The rows that match. -/
def find (table : String) (criteria : Criteria) : Act σ (Option (List Row)) := do
  let s ← Act.ofCompiled (a.compiler.find table criteria)
  a.query .select s

/-- Counts with an aggregate; by default the rows that match. -/
def count (table : String) (criteria : Criteria) (expression : Option String) :
    Act σ (Option Nat) := do
  let s ← Act.ofCompiled (a.compiler.count table criteria expression)
  let rows ← a.query .count s
  Act.ofExcept (rows.mapM readTotal)

/-- The rows of a page, and the number of all that match whatever the page. -/
def findAllAndCount (table : String) (criteria : Criteria) : Act σ (Option FindResult) := do
  match ← a.find table criteria with
  | none => pure none
  | some items =>
    let total ← a.count table criteria.unpaged none
    pure (total.map (FindResult.mk items))

/-- Changes the rows that match; the number of rows affected. -/
def update (table : String) (criteria : Criteria) (row : Row) : Act σ Nat := do
  let s ← Act.ofCompiled (a.compiler.update table criteria row)
  a.mutate .update s

/-- Removes the rows that match; the number of rows affected. -/
def delete (table : String) (criteria : Criteria) : Act σ Nat := do
  let s ← Act.ofCompiled (a.compiler.delete table criteria)
  a.mutate .delete s

/-- Executes a statement written by the caller. It is committed when it affects rows. -/
def native (sql : String) (values : List Value) : Act σ (Option NativeResult) :=
  a.engine.withConnectionToRead .native fun c => do
    match ← a.engine.execute c sql values with
    | .affected n =>
      a.engine.commit c
      pure (some (.affected n))
    | .rows cursor =>
      let rows ← a.engine.collect cursor
      pure (rows.map .rows)

end Adapter

end RowFerry
