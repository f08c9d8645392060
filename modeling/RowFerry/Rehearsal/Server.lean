import RowFerry.MySql.Source
import RowFerry.Rehearsal.Decoder

/-!
A MySQL server that plays a script: one table, and failures at login, at the test of the connection,
at preparing a query, or at executing the query with a given offset. It does not look at filters.
-/

namespace RowFerry.Rehearsal

/-- What a server logs. -/
inductive ServerEvent where
  | login (user database : String)
  | prepared (sql : String)
  | executed (sql : String) (parameters : List MySql.Parameter)
  deriving Repr, DecidableEq

/-- The script of a server. `unreachable` is why the network does not lead to it, if so. -/
structure Server where
  unreachable : Option String := none
  columns : List (String × String) := []
  rows : List (List MySql.Cell) := []
  loginFailure : Option MySql.ServerFailure := none
  testFailure : Option MySql.ServerFailure := none
  prepareFailure : Option MySql.ServerFailure := none
  executeFailure : Option (MySql.ServerFailure × UInt64) := none

namespace Server

/-- Why a query fails, if so. -/
def refusal? (s : Server) (q : MySql.PageQuery) : Option MySql.ServerFailure :=
  match s.prepareFailure, s.executeFailure with
  | some f, _ => some f
  | none, some (f, offset) => if q.offset = offset then some f else none
  | none, none => none

/-- What the server sends for a query: its rows from the offset on, no more than the limit. -/
def send (s : Server) (q : MySql.PageQuery) : Except String MySql.WireTable :=
  match s.refusal? q with
  | some f => .error f.text
  | none => .ok ⟨s.columns, (s.rows.drop q.offset.toNat).take q.limit.toNat⟩

/-- The script as a server. -/
def server (s : Server) : MySql.Server where
  decoder := decoder
  connecting :=
    match s.unreachable, s.loginFailure with
    | some reason, _ => some ("error communicating with database: " ++ reason)
    | none, some f => some f.text
    | none, none => none
  testing := s.testFailure.map MySql.ServerFailure.text
  answer _ := s.send

/-- What connecting logs. -/
def connectLog (s : Server) (user database : String) : List ServerEvent :=
  if s.unreachable.isSome then [] else [.login user database]

/-- What a query logs; one that cannot be written is not sent. -/
def queryLog (s : Server) (q : MySql.PageQuery) : List ServerEvent :=
  match q.sql with
  | .error _ => []
  | .ok sql => if s.prepareFailure.isSome then [.prepared sql] else [.executed sql q.parameters]

/-- Connects, reads one page and disconnects. -/
def readPage (s : Server) (user database : String) (q : MySql.PageQuery) :
    Except Failure (List Row) × List ServerEvent :=
  match s.server.connect with
  | .error f => (.error f, s.connectLog user database)
  | .ok () => (s.server.select 0 q, s.connectLog user database ++ s.queryLog q)

/-- The server as a source of a migration. `note` logs within the surrounding state. No more pages
have rows than the table has rows. -/
def source {σ : Type} (s : Server) (note : List ServerEvent → σ → σ) : RowSource σ where
  answers := s.server.answers (s.rows.length + 1)
  hear r := note (s.queryLog (MySql.Server.pageQuery r))

/-- Connects the source of a migration. -/
def connect {σ : Type} (s : Server) (user database : String) (note : List ServerEvent → σ → σ) :
    Act σ (RowSource σ) := do
  Act.change (note (s.connectLog user database))
  Act.ofExcept s.server.connect
  pure (s.source note)

end Server

end RowFerry.Rehearsal
