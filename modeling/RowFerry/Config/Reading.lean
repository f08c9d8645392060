import RowFerry.Config
import RowFerry.Yaml.Reader

/-!
Reading a configuration from YAML, section by section. Unknown fields are passed over.
-/

namespace RowFerry

open Yaml (Reader readText readBool readNatural readOptional readSection)

/-- A text of a configuration. -/
def readWord : Reader String := readText "a string"

def readPort : Reader UInt16 := fun d path n => UInt16.ofNat <$> readNatural 16 d path n
def readCount : Reader UInt32 := fun d path n => UInt32.ofNat <$> readNatural 32 d path n
def readLong : Reader UInt64 := fun d path n => UInt64.ofNat <$> readNatural 64 d path n

def PoolConfig.read : Reader PoolConfig := fun d path n => do
  let s ← readSection "PoolConfig" (fun _ => [.of "max_size" readCount, .of "min_idle" readCount,
    .of "connect_timeout_secs" readLong]) d path n
  let defaults : PoolConfig := {}
  pure {
    maxSize := ← s.field "max_size" readCount defaults.maxSize
    minIdle := ← s.field "min_idle" readCount defaults.minIdle
    connectTimeout := ← s.field "connect_timeout_secs" readLong defaults.connectTimeout }

def TargetConfig.read : Reader TargetConfig := fun d path n => do
  let s ← readSection "TargetConfig" (fun _ => [.of "host" readWord, .of "port" readPort,
    .of "user" readWord, .of "password" readWord, .of "tablespace" readWord, .of "driver" readWord,
    .of "case_sensitive" readBool, .of "debug" readBool, .of "pool" PoolConfig.read]) d path n
  let host ← s.required "host" readWord
  let user ← s.required "user" readWord
  let tablespace ← s.required "tablespace" readWord
  let defaults : TargetConfig := { host, user, tablespace }
  pure { defaults with
    port := ← s.field "port" readPort defaults.port
    password := ← s.field "password" readWord defaults.password
    driver := ← s.field "driver" readWord defaults.driver
    caseSensitive := ← s.field "case_sensitive" readBool defaults.caseSensitive
    debug := ← s.field "debug" readBool defaults.debug
    pool := ← s.field "pool" PoolConfig.read defaults.pool }

def SourceConfig.read : Reader SourceConfig := fun d path n => do
  let s ← readSection "SourceConfig" (fun _ => [.of "host" readWord, .of "port" readPort,
    .of "database" readWord, .of "user" readWord, .of "password" readWord]) d path n
  let host ← s.required "host" readWord
  let database ← s.required "database" readWord
  let user ← s.required "user" readWord
  let defaults : SourceConfig := { host, database, user }
  pure { defaults with
    port := ← s.field "port" readPort defaults.port
    password := ← s.field "password" readWord defaults.password }

def MigrationConfig.read : Reader MigrationConfig := fun d path n => do
  let s ← readSection "MigrationConfig" (fun _ => [.of "page_limit" readLong,
    .of "identity_insert" readBool]) d path n
  let defaults : MigrationConfig := {}
  pure {
    pageLimit := ← s.field "page_limit" readLong defaults.pageLimit
    identityInsert := ← s.field "identity_insert" readBool defaults.identityInsert }

def Config.read : Reader Config := fun d path n => do
  let source (p : Yaml.Position) := readOptional SourceConfig.read path p
  let s ← readSection "Config" (fun p => [.of "target" TargetConfig.read, .of "source" (source p),
    .of "migration" MigrationConfig.read]) d path n
  let target ← s.required "target" TargetConfig.read
  pure {
    target
    source := ← s.field "source" (source s.position) none
    migration := ← s.field "migration" MigrationConfig.read {} }

/-- Reads a configuration and checks it. -/
def Config.ofYaml (text : String) : Except Failure Config := do
  let c ← (Yaml.readText? Config.read text).mapError fun f => .yaml f.message
  c.check.mapError Failure.config
  pure c

end RowFerry
