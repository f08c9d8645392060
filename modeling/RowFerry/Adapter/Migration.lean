import RowFerry.Adapter.Bulk

/-!
Migration: a table is read from its source page by page and each page is loaded in bulk, until the
first empty page. The size of the source need not be known.
-/

namespace RowFerry

/-- A request for some rows of a source table. -/
structure PageRequest where
  table : String
  filters : List (String × Value)
  limit : UInt64
  offset : UInt64
  deriving Repr, DecidableEq

/-- What a source answers to a request. -/
abbrev PageAnswer := PageRequest → Except Failure (List Row)

/-- A source of rows: its answers to successive requests, after which every page is empty, and what
a request does to the surrounding state. -/
structure RowSource (σ : Type) where
  answers : List PageAnswer
  hear : PageRequest → σ → σ

/-- The rows of a fixed table from an offset on, no more than the limit. -/
def pageOf (rows : List Row) : PageAnswer := fun r =>
  .ok ((rows.drop r.offset.toNat).take r.limit.toNat)

/-- The answers of a fixed table. It has no more pages with rows than it has rows. -/
def tableAnswers (rows : List Row) : List PageAnswer :=
  List.replicate (rows.length + 1) (pageOf rows)

/-- How a table is migrated. -/
structure MigrationOptions where
  pageLimit : UInt64 := 100
  identityInsert : Bool := true
  deriving Repr, DecidableEq

/-- What a migration has done: rows read and written, pages that had rows, rows not inserted. -/
structure MigrationSummary where
  rowsRead : Nat
  rowsWritten : Nat
  pagesRead : Nat
  failures : List RowFailure
  deriving Repr, DecidableEq

namespace MigrationSummary

def empty : MigrationSummary := ⟨0, 0, 0, []⟩

/-- Adds a page and what loading it gave. -/
def addPage (s : MigrationSummary) (page : List Row) (r : BulkResult) : MigrationSummary where
  rowsRead := s.rowsRead + page.length
  rowsWritten := s.rowsWritten + (r.attempted - r.failures.length)
  pagesRead := s.pagesRead + 1
  failures := s.failures ++ r.failures

def toJson (s : MigrationSummary) : Json :=
  .object [("source_rows_read", .nat s.rowsRead), ("target_rows_written", .nat s.rowsWritten),
    ("pages_read", .nat s.pagesRead), ("failures", .array (s.failures.map RowFailure.toJson))]

end MigrationSummary

namespace RowSource

variable {σ : Type}

/-- Reads pages from an offset on and hands each to a loader, up to the first empty one. The summary
is what was done before. -/
def loadPages (load : List Row → Act σ BulkResult) (hear : PageRequest → σ → σ) (table : String)
    (limit offset : UInt64) (summary : MigrationSummary) : List PageAnswer → Act σ MigrationSummary
  | [] => do
    Act.change (hear ⟨table, [], limit, offset⟩)
    pure summary
  | answer :: answers => do
    let request := ⟨table, [], limit, offset⟩
    Act.change (hear request)
    let page ← Act.ofExcept ((answer request).mapError Failure.asSource)
    if page.isEmpty then pure summary
    else
      let result ← load page
      loadPages load hear table limit (offset + limit) (summary.addPage page result) answers

/-- Hands a whole table to a loader, in pages of no more rows than the limit. -/
def copy (source : RowSource σ) (load : List Row → Act σ BulkResult) (table : String)
    (limit : UInt64) : Act σ MigrationSummary :=
  if limit = 0 then throw (.config .emptyMigrationPages)
  else loadPages load source.hear table limit 0 MigrationSummary.empty source.answers

end RowSource

namespace Adapter

variable {σ κ : Type} (a : Adapter σ κ)

/-- Copies every row of the source table into the target table. -/
def migrate (source : RowSource σ) (sourceTable targetTable : String) (o : MigrationOptions) :
    Act σ MigrationSummary :=
  source.copy (fun page => a.bulkCreate targetTable page o.identityInsert) sourceTable o.pageLimit

/-- Connects a source, copies a table and disconnects. -/
def migrateFrom (connect : Act σ (RowSource σ)) (sourceTable targetTable : String)
    (o : MigrationOptions) : Act σ MigrationSummary := do
  let source ← connect
  a.migrate source sourceTable targetTable o

end Adapter

end RowFerry
