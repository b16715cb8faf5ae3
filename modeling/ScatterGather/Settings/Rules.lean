import ScatterGather.ReadWrite.Rule
import ScatterGather.Route.Chain
import ScatterGather.Settings.Basic

/-!
# Settings/Rules — the rules that settings describe

`Settings.rules` turns names into algorithms, generators and balancers and checks that every name
is known.  Sharding sees read/write groups as data sources, and beside them the data sources that no
group claims.
-/

namespace ScatterGather

open Sharding

/-- The rules of settings. -/
structure Rules where
  /-- The names that sharding routes to. -/
  logicDataSources : List String
  sharding : Option ShardingRule
  readWrite : Option ReadWriteRule
  deriving DecidableEq

namespace ReadWriteSettings

/-- The names of the groups, then the data sources that no group claims. -/
def logicDataSources (s : ReadWriteSettings) (dataSources : List String) : List String :=
  let claimed (ds : String) := s.groups.any fun g => g.2.primary = ds || ds ∈ g.2.replicas
  s.groups.map (·.1) ++ dataSources.filter fun ds => !claimed ds

/-- Checks that the members of a group are data sources; those of a cluster are not known yet. -/
def checkMembers (dataSources : List String) (name : String) (g : GroupSettings) :
    Except Error Unit :=
  if g.cluster.isSome then .ok ()
  else
    match (g.primary :: g.replicas).find? fun ds => ds ∉ dataSources with
    | some ds => .error (.invalidConfig (.groupDataSource name ds))
    | none => .ok ()

/-- The group of a name. -/
def group (s : ReadWriteSettings) (dataSources : List String) (name : String)
    (g : GroupSettings) : Except Error ReplicaGroup := do
  checkMembers dataSources name g
  match s.balancers.lookup g.balancer with
  | none => throw (.invalidConfig (.loadBalancer g.balancer))
  | some t =>
    let balancer ← Balancer.create t.type t.props
    return ⟨name, g.primary, g.replicas, g.balancer, balancer, g.cluster⟩

/-- The rule of all groups. -/
def rule (s : ReadWriteSettings) (dataSources : List String) : Except Error ReadWriteRule := do
  let groups ← s.groups.mapM fun g => s.group dataSources g.1 g.2
  ReadWriteRule.ofGroups groups

end ReadWriteSettings

namespace ShardingSettings

/-- The strategy with the algorithm of a name. -/
def strategy (algorithms : List (String × Algorithm)) (s : StrategySettings) :
    Except Error Strategy :=
  match algorithms.lookup s.algorithm with
  | none => .error (.invalidConfig (.shardingAlgorithm s.algorithm))
  | some algorithm => .ok ⟨s.column, s.algorithm, algorithm⟩

/-- The strategy, if there is one. -/
def strategy? (algorithms : List (String × Algorithm)) (s : Option StrategySettings) :
    Except Error (Option Strategy) :=
  match s with
  | none => .ok none
  | some s => (strategy algorithms s).map some

/-- The key column with the generator of a name. -/
def key? (settings : ShardingSettings) (clock : Clock) (source : RandomSource)
    (s : Option KeySettings) : Except Error (Option KeyStrategy) :=
  match s with
  | none => .ok none
  | some s =>
    match settings.keyGenerators.lookup s.generator with
    | none => .error (.invalidConfig (.keyGenerator s.generator))
    | some t => (KeyGenerator.create t.type t.props clock source).map fun g =>
      some ⟨s.column, s.generator, g⟩

/-- The rule of a table. -/
def tableRule (settings : ShardingSettings) (clock : Clock) (source : RandomSource)
    (algorithms : List (String × Algorithm)) (name : String) (t : TableSettings) :
    Except Error TableRule := do
  let r ← TableRule.parse name t.dataNodes
  let database ← strategy? algorithms t.database
  let table ← strategy? algorithms t.table
  let key ← settings.key? clock source t.key
  return { r with database, table, key }

/-- The rules of tables in order, each with a random source of its own. -/
def tableRules (settings : ShardingSettings) (clock : Clock)
    (algorithms : List (String × Algorithm)) :
    RandomSource → List (String × TableSettings) → Except Error (List TableRule)
  | _, [] => .ok []
  | source, (name, t) :: rest => do
    let r ← settings.tableRule clock ⟨source.next.1⟩ algorithms name t
    let more ← tableRules settings clock algorithms source.next.2 rest
    return r :: more

/-- The rule of all tables over the data sources that sharding sees. -/
def rule (settings : ShardingSettings) (dataSources : List String) (clock : Clock)
    (source : RandomSource) : Except Error ShardingRule := do
  let algorithms ← settings.algorithms.mapM fun a =>
    (Algorithm.create a.2.type a.2.props).map fun algorithm => (a.1, algorithm)
  let tableRules ← settings.tableRules clock algorithms source settings.tables
  let defaultDatabase ← strategy? algorithms settings.defaultDatabase
  let defaultTable ← strategy? algorithms settings.defaultTable
  let rule : ShardingRule :=
    { dataSources, tableRules, broadcastTables := settings.broadcastTables, defaultDatabase
      defaultTable, defaultDataSource := settings.defaultDataSource }
  rule.validate
  return rule

end ShardingSettings

namespace Settings

/-- The rules of the settings, generators reading the given clock and random source. -/
def rules (s : Settings) (clock : Clock) (source : RandomSource) : Except Error Rules := do
  if s.execution.maxConnections = 0 then throw (.invalidConfig .connectionsZero)
  let readWrite ← match s.readWrite with
    | some groups =>
      if groups.groups.isEmpty then pure none else (groups.rule s.dataSources).map some
    | none => pure none
  let logicDataSources := match s.readWrite with
    | some groups => groups.logicDataSources s.dataSources
    | none => s.dataSources
  let sharding ← match s.sharding with
    | some sharding => (sharding.rule logicDataSources clock source).map some
    | none => pure none
  return ⟨logicDataSources, sharding, readWrite⟩

end Settings

/-- The places of sharding and of read/write groups in the chain of routers. -/
def Rules.orders (r : Rules) : List Int :=
  r.sharding.toList.map (fun _ => 0) ++ r.readWrite.toList.map fun _ => 10

/-- The routers of the rules. -/
def Rules.routers (r : Rules) (clock : Clock) (source : RandomSource) : Routers :=
  ⟨r.sharding, clock, r.readWrite, none, source⟩

end ScatterGather
