import ScatterGather.Execution.Connector
import ScatterGather.Merge.Result
import ScatterGather.Settings.Rules

/-!
# Execution/Cluster — statements run on all data sources

A `Cluster` takes one statement through all stages: it is routed, its units are grouped and run,
and their results merged.  `plan` stops before anything runs.
-/

namespace ScatterGather

/-- Data sources that answer as one. -/
structure Cluster where
  metadata : Metadata
  routers : Routers
  grouping : Grouping
  connector : Connector

/-- A routed statement with its units. -/
structure ExecutionPlan where
  sql : LogicSql
  route : Route
  units : List ExecutionUnit
  deriving DecidableEq

/-- The outcome of a statement that changes rows. -/
structure UpdateResult where
  count : Nat
  keys : Option GeneratedKeys
  deriving DecidableEq

/-- What a statement yields: an outcome, the units that were run, and the next states. -/
structure Executed (α : Type) where
  result : Except Error α
  units : List ExecutionUnit
  cluster : Cluster
  session : Session

namespace Cluster

/-- The cluster of settings over a schema and a connector. -/
def ofSettings (settings : Settings) (schema : Schema) (connector : Connector) (clock : Clock)
    (source : RandomSource) : Except Error Cluster := do
  let rules ← settings.rules clock source
  let grouping ← Grouping.create settings.execution.maxConnections
  return ⟨⟨schema, rules.logicDataSources, settings.execution.dialect⟩,
    rules.routers clock source, grouping, connector⟩

/-- The cluster with one more decorator of groups. -/
def withDecorator (c : Cluster) (d : GroupDecorator) : Cluster :=
  { c with grouping := c.grouping.withDecorator d }

/-- Routes a statement and makes its units. -/
def plan (c : Cluster) (session : Session) (sql : LogicSql) : Executed ExecutionPlan :=
  let routed := c.routers.route c.metadata session sql
  let result := routed.result.bind fun route =>
    (executionUnits c.metadata.dialect sql route).map fun units => ⟨sql, route, units⟩
  ⟨result, [], { c with routers := routed.routers }, routed.session⟩

/-- Plans a statement, groups its units, runs them and finishes with their results. -/
def execute (c : Cluster) (session : Session) (sql : LogicSql)
    (run : ExecutionUnit → Except Error α) (finish : ExecutionPlan → List α → Except Error β) :
    Executed β :=
  let planned := c.plan session sql
  match planned.result with
  | .error e => { planned with result := .error e }
  | .ok plan =>
    match c.grouping.prepare plan.route plan.units with
    | .error e => { planned with result := .error e }
    | .ok groups =>
      let ran := runGroups run groups
      { planned with result := ran.result.bind (finish plan), units := ran.units }

/-- Runs a statement that returns rows. -/
def query (c : Cluster) (session : Session) (sql : LogicSql) : Executed MergedResult :=
  c.execute session sql c.connector.query fun _ results =>
    merge c.metadata.dialect c.metadata.schema sql.statement sql.parameters results

/-- Runs a statement that changes rows. -/
def update (c : Cluster) (session : Session) (sql : LogicSql) : Executed UpdateResult :=
  c.execute session sql c.connector.update fun plan counts =>
    .ok ⟨counts.foldl (· + ·) 0, plan.route.keys⟩

end Cluster

end ScatterGather
