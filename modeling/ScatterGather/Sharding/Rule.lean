import ScatterGather.Inline.Expand
import ScatterGather.Sharding.DataNode
import ScatterGather.Sharding.KeyGenerator

/-!
# Sharding/Rule — how tables are spread over data nodes

A `TableRule` lists the data nodes of a logical table, the strategies that choose among them and
the generator of its keys.  A `ShardingRule` holds the rules of all tables, the broadcast tables
that every data source has, and the defaults.  Names match up to the case of ASCII letters.
-/

namespace ScatterGather

open Sharding

/-- A sharding column and the algorithm for it, with the algorithm's given name. -/
structure Strategy where
  column : String
  algorithmName : String
  algorithm : Algorithm
  deriving DecidableEq

/-- A key column and its generator, with the generator's given name. -/
structure KeyStrategy where
  column : String
  generatorName : String
  generator : KeyGenerator
  deriving DecidableEq

/-- The sharding of one logical table. -/
structure TableRule where
  logicTable : String
  nodes : List DataNode
  database : Option Strategy
  table : Option Strategy
  key : Option KeyStrategy
  deriving DecidableEq

namespace TableRule

/-- A rule with data nodes only. -/
def ofNodes (logicTable : String) (nodes : List DataNode) : TableRule :=
  ⟨logicTable, nodes, none, none, none⟩

/-- A rule whose data nodes are the expansion of a list of templates. -/
def parse (logicTable text : String) : Except Error TableRule := do
  match Inline.expandAll text with
  | .error why => .error (.invalidConfig (.dataNodes logicTable why))
  | .ok texts =>
    let nodes ← texts.mapM DataNode.parse
    if nodes.isEmpty then .error (.invalidConfig (.noDataNodes logicTable))
    else .ok (ofNodes logicTable nodes)

/-- The data sources of the nodes, each once, in order. -/
def dataSources (r : TableRule) : List String := distinct (r.nodes.map (·.dataSource))

/-- The tables of the nodes on one data source, in order. -/
def tablesIn (r : TableRule) (dataSource : String) : List String :=
  (r.nodes.filter fun n => n.dataSource = dataSource).map (·.table)

end TableRule

/-- The sharding of all tables. -/
structure ShardingRule where
  dataSources : List String
  tableRules : List TableRule
  broadcastTables : List String
  defaultDatabase : Option Strategy
  defaultTable : Option Strategy
  /-- The home of tables without a rule. -/
  defaultDataSource : Option String
  deriving DecidableEq

namespace ShardingRule

/-- The first data node on a data source that is not there. -/
def strayNode? (sources : List String) (r : TableRule) : Option DataNode :=
  r.nodes.find? fun n => n.dataSource ∉ sources

/-- Checks that nodes and defaults name known data sources. -/
def validate (rule : ShardingRule) : Except Error Unit := do
  for r in rule.tableRules do
    if let some n := strayNode? rule.dataSources r then
      throw (.invalidConfig (.tableDataSource r.logicTable n.dataSource))
  if let some ds := rule.defaultDataSource then
    if ds ∉ rule.dataSources then throw (.invalidConfig (.defaultDataSource ds))

/-- The rule of a table. -/
def find? (rule : ShardingRule) (table : String) : Option TableRule :=
  rule.tableRules.find? fun r => Text.sameName r.logicTable table

/-- Whether a table is the same on every data source. -/
def isBroadcast (rule : ShardingRule) (table : String) : Bool :=
  rule.broadcastTables.any fun t => Text.sameName t table

/-- Whether there are tables and all of them are broadcast. -/
def allBroadcast (rule : ShardingRule) (tables : List String) : Bool :=
  !tables.isEmpty && tables.all rule.isBroadcast

/-- Whether a table has a rule. -/
def isSharded (rule : ShardingRule) (table : String) : Bool := (rule.find? table).isSome

/-- The tables that have a rule. -/
def shardedAmong (rule : ShardingRule) (tables : List String) : List String :=
  tables.filter rule.isSharded

/-- The strategy that chooses a table's data source. -/
def databaseStrategy (rule : ShardingRule) (r : TableRule) : Option Strategy :=
  r.database.or rule.defaultDatabase

/-- The strategy that chooses a table on its data source. -/
def tableStrategy (rule : ShardingRule) (r : TableRule) : Option Strategy :=
  r.table.or rule.defaultTable

/-- Whether a strategy of the table uses the column. -/
def isShardingColumn (rule : ShardingRule) (column table : String) : Bool :=
  match rule.find? table with
  | none => false
  | some r =>
    (rule.databaseStrategy r).any (fun s => Text.sameName s.column column) ||
      (rule.tableStrategy r).any (fun s => Text.sameName s.column column)

/-- The column that a table's keys are generated for. -/
def keyColumn? (rule : ShardingRule) (table : String) : Option String :=
  ((rule.find? table).bind (·.key)).map (·.column)

/-- Replaces the generator of the first rule of a table. -/
def setGenerator (table : String) (g : KeyGenerator) : List TableRule → List TableRule
  | [] => []
  | r :: rest =>
    if Text.sameName r.logicTable table then
      { r with key := r.key.map fun k => { k with generator := g } } :: rest
    else r :: setGenerator table g rest

/-- The next `count` keys of a table, and the rule with its generator moved on. -/
def generateKeys (rule : ShardingRule) (table : String) (count : Nat) :
    Except Error (List Value × ShardingRule) :=
  match (rule.find? table).bind (·.key) with
  | none => .error (.invalidConfig (.noKeyGenerator table))
  | some k => do
    let (keys, g) ← k.generator.take count
    return (keys, { rule with tableRules := setGenerator table g rule.tableRules })

/-- The data source of tables without a rule: the default, or the only one. -/
def singleDataSource? (rule : ShardingRule) : Option String :=
  match rule.defaultDataSource, rule.dataSources with
  | some ds, _ => some ds
  | none, [only] => some only
  | none, _ => none

end ShardingRule

end ScatterGather
