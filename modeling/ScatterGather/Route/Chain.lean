import ScatterGather.ReadWrite.Rule
import ScatterGather.Route.Admission
import ScatterGather.Sharding.Derivation

/-!
# Route/Chain — from statement to route

Sharding routes first; read/write groups then replace the names of groups by their members, or
route by themselves where sharding found nothing.  If there is still no unit, a sole data source
takes the statement.  A `Routers` value holds what routing changes: generators, clock, balancers
and random source.
-/

namespace ScatterGather

open Sharding

/-- The rules of routing and their state. -/
structure Routers where
  sharding : Option ShardingRule
  /-- The clock that NOW in a statement reads. -/
  clock : Clock
  readWrite : Option ReadWriteRule
  topology : Option Topology
  source : RandomSource

/-- What routing yields: a route or a failure, and the next states. -/
structure Routed where
  result : Except Error Route
  routers : Routers
  session : Session

/-- Whether only the last condition counts: a statement with a subquery over sharded tables. -/
def needsLastOnly (rule : ShardingRule) (statement : Statement) : Bool :=
  let subquery := match statement with
    | .select s => s.subquery
    | .insert i => i.select.any (·.subquery)
    | _ => false
  subquery && !(rule.shardedAmong statement.tables).isEmpty

/-- The sharding conditions that routing uses. -/
def routingConditions (rule : ShardingRule) (schema : Schema) (clock : Clock) (sql : LogicSql) :
    Derived :=
  let derived := deriveConditions rule schema clock sql.statement sql.parameters
  if needsLastOnly rule sql.statement then
    { derived with result := derived.result.map ShardingConditions.keepLast }
  else derived

/-- The route under given conditions. -/
def routeWith (rule : ShardingRule) (statement : Statement) (conditions : ShardingConditions) :
    Except Error Route := do
  let route ← (RoutePlan.choose rule statement conditions).route rule conditions statement.isSelect
  permitRoute statement route
  return { route with keys := conditions.keys }

/-- The route that sharding finds, with the rule and the clock after it. -/
def shardingRoute (rule : ShardingRule) (schema : Schema) (clock : Clock) (sql : LogicSql) :
    Except Error Route × ShardingRule × Clock :=
  match permit rule schema sql.statement sql.parameters with
  | .error e => (.error e, rule, clock)
  | .ok () =>
    let derived := routingConditions rule schema clock sql
    (derived.result.bind (routeWith rule sql.statement), derived.rule, derived.clock)

namespace ReadWriteRule

/-- Replaces the first group of that name. -/
def setGroup (group : ReplicaGroup) : List ReplicaGroup → List ReplicaGroup
  | [] => []
  | g :: rest => if Text.sameName g.name group.name then group :: rest else g :: setGroup group rest

/-- The group of a name, up to the case of ASCII letters. -/
def find? (rule : ReadWriteRule) (name : String) : Option ReplicaGroup :=
  rule.groups.find? fun g => Text.sameName g.name name

end ReadWriteRule

/-- The states that choosing replicas changes. -/
structure ReplicaState where
  rule : ReadWriteRule
  session : Session
  source : RandomSource

/-- The data source of a group for a statement. -/
def selectMember (topology : Option Topology) (statement : Statement) (group : ReplicaGroup)
    (state : ReplicaState) : NameMap × ReplicaState :=
  let (actual, moved, session, source) := group.select topology statement state.session state.source
  (⟨group.name, actual⟩, ⟨⟨ReadWriteRule.setGroup moved state.rule.groups⟩, session, source⟩)

/-- Replaces the names of groups in the units by members of the groups. -/
def replaceGroups (topology : Option Topology) (statement : Statement) (state : ReplicaState) :
    List RouteUnit → List RouteUnit × ReplicaState
  | [] => ([], state)
  | u :: rest =>
    match state.rule.find? u.dataSource.logic with
    | none =>
      let (units, state) := replaceGroups topology statement state rest
      (u :: units, state)
    | some group =>
      let (name, state) := selectMember topology statement group state
      let (units, state) := replaceGroups topology statement state rest
      ({ u with dataSource := name } :: units, state)

/-- The route to a member of the only group, if there is only one. -/
def groupRoute (topology : Option Topology) (statement : Statement) (state : ReplicaState) :
    Route × ReplicaState :=
  match state.rule.groups with
  | [group] =>
    let (name, state) := selectMember topology statement group state
    (Route.empty.add ⟨name, []⟩, state)
  | _ => (Route.empty, state)

/-- The route after the read/write groups. -/
def throughGroups (topology : Option Topology) (statement : Statement) (state : ReplicaState)
    (route : Route) : Route × ReplicaState :=
  if route.units.isEmpty then groupRoute topology statement state
  else
    let (units, state) := replaceGroups topology statement state route.units
    ({ route with units }, state)

/-- Gives a route without units to the sole data source. -/
def orSoleSource (dataSources : List String) (route : Route) : Route :=
  match route.units, dataSources with
  | [], [sole] => route.add (RouteUnit.on sole [])
  | _, _ => route

namespace Routers

/-- Routes by the sharding rule, if there is one. -/
def routeSharding (routers : Routers) (metadata : Metadata) (sql : LogicSql) :
    Except Error Route × Routers :=
  match routers.sharding with
  | none => (.ok Route.empty, routers)
  | some rule =>
    let (result, rule, clock) := shardingRoute rule metadata.schema routers.clock sql
    (result, { routers with sharding := some rule, clock })

/-- Routes through the read/write groups, if there are any. -/
def routeGroups (routers : Routers) (statement : Statement) (session : Session) (route : Route) :
    Route × Routers × Session :=
  match routers.readWrite with
  | none => (route, routers, session)
  | some rule =>
    let (route, state) :=
      throughGroups routers.topology statement ⟨rule, session, routers.source⟩ route
    (route, { routers with readWrite := some state.rule, source := state.source }, state.session)

/-- The route of a statement. -/
def route (routers : Routers) (metadata : Metadata) (session : Session) (sql : LogicSql) : Routed :=
  match routers.routeSharding metadata sql with
  | (.error e, routers) => ⟨.error e, routers, session⟩
  | (.ok route, routers) =>
    let (route, routers, session) := routers.routeGroups sql.statement session route
    ⟨.ok (orSoleSource metadata.dataSources route), routers, session⟩

end Routers

end ScatterGather
