import RowFerry.Adapter.Migration
import RowFerry.Odbc.ConnectionString
import RowFerry.Odbc.Pool

/-!
Configurations: the target, the source of a migration and how to migrate; what is required of them,
and their texts, in which no password stands.
-/

namespace RowFerry

/-- How many connections the target gets, and how many seconds to wait for one. -/
structure PoolConfig where
  maxSize : UInt32 := 20
  minIdle : UInt32 := 1
  connectTimeout : UInt64 := 30
  deriving Repr, DecidableEq

/-- The target database. -/
structure TargetConfig where
  host : String
  port : UInt16 := 5236
  user : String
  password : String := ""
  tablespace : String
  driver : String := "DM8 ODBC DRIVER"
  caseSensitive : Bool := true
  debug : Bool := true
  pool : PoolConfig := {}
  deriving Repr, DecidableEq

/-- The source database of a migration. -/
structure SourceConfig where
  host : String
  port : UInt16 := 3306
  database : String
  user : String
  password : String := ""
  deriving Repr, DecidableEq

/-- How tables are migrated. -/
structure MigrationConfig where
  pageLimit : UInt64 := 100
  identityInsert : Bool := true
  deriving Repr, DecidableEq

structure Config where
  target : TargetConfig
  source : Option SourceConfig := none
  migration : MigrationConfig := {}
  deriving Repr, DecidableEq

/-- What stands in place of a password. -/
def redacted : String := "[REDACTED]"

def boolText (b : Bool) : String := if b then "true" else "false"

/-- A record as messages show it: its name, and its fields with their texts. -/
def shownRecord (name : String) (fields : List (String × String)) : String :=
  name ++ " \x7b " ++ Text.joinWith ", " (fields.map fun f => f.1 ++ ": " ++ f.2) ++ " \x7d"

/-- Refuses an empty text. -/
def requireText (field value : String) : Except ConfigError Unit :=
  if value.isEmpty then .error (.required field) else .ok ()

namespace PoolConfig

def check (p : PoolConfig) : Except ConfigError Unit :=
  if p.maxSize = 0 then .error .noConnections
  else if p.maxSize < p.minIdle then .error (.tooManyIdle p.minIdle.toNat p.maxSize.toNat)
  else .ok ()

def shown (p : PoolConfig) : String :=
  shownRecord "PoolConfig" [("max_size", natText p.maxSize.toNat),
    ("min_idle", natText p.minIdle.toNat), ("connect_timeout_secs", natText p.connectTimeout.toNat)]

def toJson (p : PoolConfig) : Json :=
  .object [("max_size", .nat p.maxSize.toNat), ("min_idle", .nat p.minIdle.toNat),
    ("connect_timeout_secs", .nat p.connectTimeout.toNat)]

end PoolConfig

namespace TargetConfig

def check (t : TargetConfig) : Except ConfigError Unit := do
  requireText "target.host" t.host
  requireText "target.user" t.user
  requireText "target.tablespace" t.tablespace
  t.pool.check

/-- The string that connects to the target. -/
def connectionString (t : TargetConfig) : String :=
  Odbc.connectionString t.driver t.host t.port.toNat t.user t.password

/-- The compiler of statements for the target. -/
def compiler (t : TargetConfig) : Compiler :=
  ⟨t.tablespace, if t.caseSensitive then .quoted else .folded⟩

def poolSettings (t : TargetConfig) : Odbc.PoolSettings :=
  ⟨t.connectionString, t.pool.maxSize.toNat, t.pool.minIdle.toNat⟩

def shown (t : TargetConfig) : String :=
  shownRecord "TargetConfig" [("host", Text.quoted t.host), ("port", natText t.port.toNat),
    ("user", Text.quoted t.user), ("password", Text.quoted redacted),
    ("tablespace", Text.quoted t.tablespace), ("driver", Text.quoted t.driver),
    ("case_sensitive", boolText t.caseSensitive), ("debug", boolText t.debug),
    ("pool", t.pool.shown)]

def toJson (t : TargetConfig) : Json :=
  .object [("host", .string t.host), ("port", .nat t.port.toNat), ("user", .string t.user),
    ("tablespace", .string t.tablespace), ("driver", .string t.driver),
    ("case_sensitive", .bool t.caseSensitive), ("debug", .bool t.debug), ("pool", t.pool.toJson)]

end TargetConfig

namespace SourceConfig

def check (s : SourceConfig) : Except ConfigError Unit := do
  requireText "source.host" s.host
  requireText "source.database" s.database
  requireText "source.user" s.user

def shown (s : SourceConfig) : String :=
  shownRecord "SourceConfig" [("host", Text.quoted s.host), ("port", natText s.port.toNat),
    ("database", Text.quoted s.database), ("user", Text.quoted s.user),
    ("password", Text.quoted redacted)]

def toJson (s : SourceConfig) : Json :=
  .object [("host", .string s.host), ("port", .nat s.port.toNat),
    ("database", .string s.database), ("user", .string s.user)]

end SourceConfig

namespace MigrationConfig

def check (m : MigrationConfig) : Except ConfigError Unit :=
  if m.pageLimit = 0 then .error .emptyPages else .ok ()

def options (m : MigrationConfig) : MigrationOptions := ⟨m.pageLimit, m.identityInsert⟩

def shown (m : MigrationConfig) : String :=
  shownRecord "MigrationConfig" [("page_limit", natText m.pageLimit.toNat),
    ("identity_insert", boolText m.identityInsert)]

def toJson (m : MigrationConfig) : Json :=
  .object [("page_limit", .nat m.pageLimit.toNat), ("identity_insert", .bool m.identityInsert)]

end MigrationConfig

namespace Config

/-- Refuses a configuration that cannot be used; the first field that is wrong decides. -/
def check (c : Config) : Except ConfigError Unit := do
  c.target.check
  match c.source with
  | some s => s.check
  | none => pure ()
  c.migration.check

def shown (c : Config) : String :=
  let source := match c.source with
    | some s => "Some(" ++ s.shown ++ ")"
    | none => "None"
  shownRecord "Config" [("target", c.target.shown), ("source", source),
    ("migration", c.migration.shown)]

/-- The configuration in JSON; a source that is missing is left out. -/
def toJson (c : Config) : Json :=
  .object ([("target", c.target.toJson)] ++ (c.source.map fun s => ("source", s.toJson)).toList ++
    [("migration", c.migration.toJson)])

end Config

end RowFerry
