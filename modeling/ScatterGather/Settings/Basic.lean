import ScatterGather.Dialect
import ScatterGather.Sharding.Algorithm
import ScatterGather.Settings.Environment

/-!
# Settings/Basic — settings of data sources, sharding and read/write splitting

`Settings.load` reads a file and the environment into `Settings`.  Entries that are not known are
passed over; an entry of the wrong kind makes all settings unreadable.  A record may also be written
as a list of its entries in order.
-/

namespace ScatterGather

/-- The limits and switches of execution. -/
structure ExecutionSettings where
  maxConnections : Nat
  sqlShow : Bool
  dialect : Dialect
  deriving DecidableEq

/-- An algorithm, key generator or load balancer: the name of its type and its properties. -/
structure TypeSettings where
  type : String
  props : Properties
  deriving DecidableEq

/-- A sharding column and the name of its algorithm. -/
structure StrategySettings where
  column : String
  algorithm : String
  deriving DecidableEq

/-- A key column and the name of its generator. -/
structure KeySettings where
  column : String
  generator : String
  deriving DecidableEq

/-- The sharding of a table. -/
structure TableSettings where
  dataNodes : String
  database : Option StrategySettings
  table : Option StrategySettings
  key : Option KeySettings
  deriving DecidableEq

/-- The sharding of all tables; named entries in order of their names. -/
structure ShardingSettings where
  tables : List (String × TableSettings)
  broadcastTables : List String
  defaultDatabase : Option StrategySettings
  defaultTable : Option StrategySettings
  defaultDataSource : Option String
  algorithms : List (String × TypeSettings)
  keyGenerators : List (String × TypeSettings)
  deriving DecidableEq

/-- A read/write group. -/
structure GroupSettings where
  primary : String
  replicas : List String
  balancer : String
  cluster : Option String
  deriving DecidableEq

/-- All read/write groups; named entries in order of their names. -/
structure ReadWriteSettings where
  groups : List (String × GroupSettings)
  balancers : List (String × TypeSettings)
  deriving DecidableEq

/-- All settings. -/
structure Settings where
  execution : ExecutionSettings
  dataSources : List String
  sharding : Option ShardingSettings
  readWrite : Option ReadWriteSettings
  deriving DecidableEq

namespace Setting

/-! ## Reading records -/

/-- The entry of a record, by its name or its place. -/
def entry? (s : Setting) (place : Nat) (name : String) : Option Setting :=
  match s with
  | table entries => entries.lookup name
  | list items => items[place]?
  | _ => none

/-- Whether a setting can be read as a record. -/
def isRecord : Setting → Bool
  | table _ | list _ => true
  | _ => false

/-- An entry that has to be there. -/
def need (s : Setting) (place : Nat) (name : String) (read : Setting → Option α) : Option α :=
  (s.entry? place name).bind read

/-- An entry with a value in its absence. -/
def orElse (s : Setting) (place : Nat) (name : String) (default : α)
    (read : Setting → Option α) : Option α :=
  match s.entry? place name with
  | none => if s.isRecord then some default else none
  | some entry => read entry

/-- An entry that may be null, and in a table also absent. -/
def maybe (s : Setting) (place : Nat) (name : String) (read : Setting → Option α) :
    Option (Option α) :=
  match s, s.entry? place name with
  | table _, none => some none
  | _, none => none
  | _, some null => some none
  | _, some entry => (read entry).map some

/-- A list of texts. -/
def texts? : Setting → Option (List String)
  | list items => items.mapM text?
  | _ => none

/-- The entries of a table in order of their names. -/
def named? (read : Setting → Option α) : Setting → Option (List (String × α))
  | table entries =>
    (entries.mapM fun e => (read e.2).map fun a => (e.1, a)).map fun found =>
      found.mergeSort fun a b => Decidable.decide (a.1 ≤ b.1)
  | _ => none

/-- The dialect of a name in any case, which may also be the name of a sole entry. -/
def dialect? : Setting → Option Dialect
  | text s => find s
  | table [(name, _)] => find name
  | _ => none
where
  find (name : String) : Option Dialect :=
    Dialect.all.find? fun d => Text.lower d.name = Text.lower name

end Setting

open Setting

/-- The limits and switches in their absence. -/
def ExecutionSettings.default : ExecutionSettings := ⟨1, false, .mySQL⟩

/-- Reads the limits and switches. -/
def ExecutionSettings.read? (s : Setting) : Option ExecutionSettings := do
  let maxConnections ← s.orElse 0 "max_connections_size_per_query" default.maxConnections word?
  let sqlShow ← s.orElse 1 "sql_show" default.sqlShow flag?
  let dialect ← s.orElse 2 "database_type" default.dialect dialect?
  return ⟨maxConnections, sqlShow, dialect⟩

/-- Reads a type with its properties. -/
def TypeSettings.read? (s : Setting) : Option TypeSettings := do
  let type ← s.need 0 "type" text?
  let props ← s.orElse 1 "props" [] (named? text?)
  return ⟨type, props⟩

/-- Reads a strategy. -/
def StrategySettings.read? (s : Setting) : Option StrategySettings := do
  return ⟨← s.need 0 "column" text?, ← s.need 1 "algorithm" text?⟩

/-- Reads a key column. -/
def KeySettings.read? (s : Setting) : Option KeySettings := do
  return ⟨← s.need 0 "column" text?, ← s.need 1 "generator" text?⟩

/-- Reads the sharding of a table. -/
def TableSettings.read? (s : Setting) : Option TableSettings := do
  let dataNodes ← s.need 0 "actual_data_nodes" text?
  let database ← s.maybe 1 "database_strategy" StrategySettings.read?
  let table ← s.maybe 2 "table_strategy" StrategySettings.read?
  let key ← s.maybe 3 "key_generate" KeySettings.read?
  return ⟨dataNodes, database, table, key⟩

/-- Reads the sharding of all tables. -/
def ShardingSettings.read? (s : Setting) : Option ShardingSettings := do
  let tables ← s.orElse 0 "tables" [] (named? TableSettings.read?)
  let broadcastTables ← s.orElse 1 "broadcast_tables" [] texts?
  let defaultDatabase ← s.maybe 2 "default_database_strategy" StrategySettings.read?
  let defaultTable ← s.maybe 3 "default_table_strategy" StrategySettings.read?
  let defaultDataSource ← s.maybe 4 "default_data_source" text?
  let algorithms ← s.orElse 5 "algorithms" [] (named? TypeSettings.read?)
  let keyGenerators ← s.orElse 6 "key_generators" [] (named? TypeSettings.read?)
  return ⟨tables, broadcastTables, defaultDatabase, defaultTable, defaultDataSource, algorithms,
    keyGenerators⟩

/-- Reads a read/write group. -/
def GroupSettings.read? (s : Setting) : Option GroupSettings := do
  let primary ← s.orElse 0 "primary" "" text?
  let replicas ← s.orElse 1 "replicas" [] texts?
  let balancer ← s.need 2 "load_balancer" text?
  let cluster ← s.maybe 3 "auto_aware" text?
  return ⟨primary, replicas, balancer, cluster⟩

/-- Reads all read/write groups. -/
def ReadWriteSettings.read? (s : Setting) : Option ReadWriteSettings := do
  let groups ← s.orElse 0 "groups" [] (named? GroupSettings.read?)
  let balancers ← s.orElse 1 "load_balancers" [] (named? TypeSettings.read?)
  return ⟨groups, balancers⟩

namespace Settings

/-- Reads all settings. -/
def read? (s : Setting) : Option Settings := do
  let execution ← s.orElse 0 "props" ExecutionSettings.default ExecutionSettings.read?
  let dataSources ← s.orElse 1 "data_sources" [] texts?
  let sharding ← s.maybe 2 "sharding" ShardingSettings.read?
  let readWrite ← s.maybe 3 "readwrite_splitting" ReadWriteSettings.read?
  return ⟨execution, dataSources, sharding, readWrite⟩

/-- The settings of a file's document, if there is a file, under the variables that begin with a
word. -/
def load (file : Option Json) (lead : String) (overrides : List (String × String)) :
    Except Error Settings := do
  let base ← match file with
    | none => pure (Setting.table [])
    | some (.object members) => pure (overlayPaths (.table []) (ofJson (.object members)).entries)
    | some _ => throw .unreadableSettings
  match read? (overlayPaths base (ofVariables lead overrides)) with
  | some settings => return settings
  | none => throw .unreadableSettings

end Settings

end ScatterGather
