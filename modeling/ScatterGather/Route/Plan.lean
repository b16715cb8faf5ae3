import ScatterGather.Route.Basic
import ScatterGather.Statement.Basic

/-!
# Route/Plan — which data nodes a statement needs

`RoutePlan.choose` picks a plan from the statement's shape, and `RoutePlan.route` finds its units.
The nodes of a sharded table follow from `nodesFor`: the database strategy chooses data sources, the
table strategy tables on each of them, and a strategy about whose column nothing is known keeps
every target.
-/

namespace ScatterGather

open Sharding

/-- The ways to send a statement. -/
inductive RoutePlan where
  /-- To every data node of the tables. -/
  | everyNode (tables : List String)
  /-- To every data source. -/
  | everySource
  /-- To any one data source. -/
  | anySource (tables : List String)
  /-- To the home of tables without a rule. -/
  | home (tables : List String)
  /-- To the nodes of one sharded table, broadcast tables beside it. -/
  | oneTable (table : String) (broadcast : List String)
  /-- To the data sources that sharded tables share, combining their nodes. -/
  | combined (tables broadcast : List String)
  /-- Nowhere, since no row can match. -/
  | nowhere
  deriving DecidableEq

namespace RoutePlan

/-- The plan of a schema change: it concerns the configured tables, or else every data source. -/
def ofDdl (rule : ShardingRule) (tables : List String) : RoutePlan :=
  match tables.filter fun t => rule.isSharded t || rule.isBroadcast t with
  | [] => everySource
  | configured => everyNode configured

/-- The plan of a statement about rows of the tables. -/
def ofDml (rule : ShardingRule) (tables : List String) (never : Bool) : RoutePlan :=
  if tables.isEmpty then anySource []
  else if rule.allBroadcast tables then everyNode tables
  else
    match rule.shardedAmong tables with
    | [] => home tables
    | first :: more =>
      if never then nowhere
      else if more.isEmpty then oneTable first (tables.filter rule.isBroadcast)
      else combined (first :: more) (tables.filter rule.isBroadcast)

/-- The plan of a statement under its sharding conditions. -/
def choose (rule : ShardingRule) (statement : Statement) (conditions : ShardingConditions) :
    RoutePlan :=
  match statement with
  | .dal _ => everySource
  | .ddl _ => ofDdl rule statement.tables
  | .select _ | .insert _ | .update _ | .delete _ => ofDml rule statement.tables conditions.areNever

end RoutePlan

/-- The targets of what is allowed for a strategy's column. -/
def Strategy.targetsOf (strategy : Strategy) (targets : List String) :
    Allowed → Except Error (List String)
  | .values vs => vs.mapM fun v => strategy.algorithm.target targets strategy.column v
  | .range r => strategy.algorithm.rangeTargets targets r

/-- The targets that a strategy chooses; all of them where there is no strategy or nothing known
about its column. -/
def chooseTargets (strategy : Option Strategy) (targets : List String) (table : String)
    (condition : Option ShardingCondition) : Except Error (List String) :=
  match strategy, condition with
  | some strategy, some condition =>
    match condition.allowedFor table strategy.column with
    | [] => .ok targets
    | allowed => (allowed.mapM (strategy.targetsOf targets)).map fun found => distinct found.flatten
  | _, _ => .ok targets

/-- The data nodes of a table under one condition, or under none. -/
def nodesFor (rule : ShardingRule) (r : TableRule) (table : String)
    (condition : Option ShardingCondition) : Except Error (List DataNode) := do
  let sources ← chooseTargets (rule.databaseStrategy r) r.dataSources table condition
  let nodes ← sources.mapM fun ds =>
    (chooseTargets (rule.tableStrategy r) (r.tablesIn ds) table condition).map fun tables =>
      tables.map fun t => DataNode.mk ds t
  return distinct nodes.flatten

/-- The data nodes of a table: those of any condition, and those of each. -/
def tableNodes (rule : ShardingRule) (table : String) (conditions : ShardingConditions) :
    Except Error (List DataNode × List (List DataNode)) :=
  match rule.find? table with
  | none => .ok ([], [])
  | some r =>
    if conditions.conditions.isEmpty then (nodesFor rule r table none).map fun nodes => (nodes, [])
    else (conditions.conditions.mapM fun c => nodesFor rule r table (some c)).map fun lists =>
      (distinct lists.flatten, lists)

/-- All nodes of a sharded table; every data source for another one. -/
def everyNodeOf (rule : ShardingRule) (table : String) : List DataNode :=
  match rule.find? table with
  | some r => r.nodes
  | none => rule.dataSources.map fun ds => ⟨ds, table⟩

/-- Tables that keep their names. -/
def unrenamed (tables : List String) : List NameMap := tables.map fun t => ⟨t, t⟩

/-- The ways to pick one node of every table on a data source, the last table varying fastest. -/
def combinations (ds : String) : List (String × List DataNode) → List (List NameMap)
  | [] => [[]]
  | (table, nodes) :: rest =>
    (nodes.filter fun n => n.dataSource = ds).flatMap fun n =>
      (combinations ds rest).map fun maps => ⟨table, n.table⟩ :: maps

/-- The data sources of the nodes of all tables, each once. -/
def sourcesOf (routed : List (String × List DataNode)) : List String :=
  distinct (routed.flatMap fun t => t.2.map (·.dataSource))

/-- The data sources on which every table has a node. -/
def sharedSources (routed : List (String × List DataNode)) : List String :=
  (sourcesOf routed).filter fun ds => routed.all fun t => t.2.any fun n => n.dataSource = ds

/-- The route to combinations of nodes on the shared data sources. -/
def combine (routed : List (String × List DataNode)) (broadcast : List String)
    (isSelect : Bool) : Route :=
  let units := (sharedSources routed).flatMap fun ds =>
    (combinations ds routed).map fun maps => RouteUnit.on ds (maps ++ unrenamed broadcast)
  { Route.empty.addAll units with federated := isSelect && 1 < (sourcesOf routed).length }

/-- The route of a plan. -/
def RoutePlan.route (plan : RoutePlan) (rule : ShardingRule) (conditions : ShardingConditions)
    (isSelect : Bool) : Except Error Route :=
  match plan with
  | everyNode tables =>
    .ok (Route.empty.addAll (tables.flatMap fun t =>
      (everyNodeOf rule t).map fun n => RouteUnit.on n.dataSource [⟨t, n.table⟩]))
  | everySource => .ok (Route.empty.addAll (rule.dataSources.map fun ds => RouteUnit.on ds []))
  | anySource tables =>
    .ok (Route.empty.addAll (rule.dataSources.head?.toList.map fun ds =>
      RouteUnit.on ds (unrenamed tables)))
  | home tables =>
    .ok (Route.empty.addAll (rule.singleDataSource?.toList.map fun ds =>
      RouteUnit.on ds (unrenamed tables)))
  | oneTable table broadcast => do
    let (nodes, lists) ← tableNodes rule table conditions
    let units := nodes.map fun n =>
      RouteUnit.on n.dataSource (⟨table, n.table⟩ :: unrenamed broadcast)
    return { Route.empty.addAll units with conditionNodes := lists }
  | combined tables broadcast => do
    let found ← tables.mapM fun t => (tableNodes rule t conditions).map fun nodes => (t, nodes)
    let routed := found.map fun t => (t.1, t.2.1)
    return { combine routed broadcast isSelect with conditionNodes := found.flatMap fun t => t.2.2 }
  | nowhere => .ok Route.empty

end ScatterGather
