import ScatterGather.Execution.Unit

/-!
# Execution/Grouping — how many connections a statement takes

The units of one data source are cut into groups, no more than the connections a statement may hold
there.  The units of a group run one after another.
-/

namespace ScatterGather

/-- What a connection is used for. -/
inductive ConnectionMode where
  /-- Every unit has a connection of its own. -/
  | memoryStrictly
  /-- Units share connections. -/
  | connectionStrictly
  deriving DecidableEq

/-- The name of a mode. -/
def ConnectionMode.name : ConnectionMode → String
  | memoryStrictly => "MEMORY_STRICTLY"
  | connectionStrictly => "CONNECTION_STRICTLY"

/-- Units that share one connection. -/
structure ExecutionGroup where
  dataSource : String
  mode : ConnectionMode
  units : List ExecutionUnit
  deriving DecidableEq

/-- A change to the groups of a statement; changes are made in ascending order. -/
structure GroupDecorator where
  order : Int
  apply : Route → List ExecutionGroup → Except Error (List ExecutionGroup)

/-- How statements are grouped. -/
structure Grouping where
  maxConnections : Nat
  decorators : List GroupDecorator
  maxConnections_pos : 0 < maxConnections

namespace Grouping

/-- The grouping for a number of connections, which is not zero. -/
def create (maxConnections : Nat) : Except Error Grouping :=
  if h : 0 < maxConnections then .ok ⟨maxConnections, [], h⟩
  else .error (.invalidConfig .connectionsBelowOne)

/-- Adds a decorator after those of the same order. -/
def withDecorator (g : Grouping) (d : GroupDecorator) : Grouping :=
  let sorted := (g.decorators ++ [d]).mergeSort fun a b => decide (a.order ≤ b.order)
  { g with decorators := sorted }

/-- Consecutive pieces of at most `size + 1` items. -/
def chunks (size : Nat) (items : List α) : List (List α) :=
  match items with
  | [] => []
  | a :: rest => (a :: rest.take size) :: chunks size (rest.drop size)
termination_by items.length
decreasing_by simp only [List.length_drop, List.length_cons]; omega

/-- The number of units that share a connection when `count` units share `maxConnections`. -/
def batchSize (maxConnections count : Nat) : Nat :=
  max 1 ((count + maxConnections - 1) / maxConnections)

/-- The groups of the units of one data source. -/
def groupsOn (maxConnections : Nat) (dataSource : String) (units : List ExecutionUnit) :
    List ExecutionGroup :=
  let mode := if maxConnections < units.length then .connectionStrictly else .memoryStrictly
  (chunks (batchSize maxConnections units.length - 1) units).map fun batch =>
    ⟨dataSource, mode, batch⟩

/-- The groups of all units, data sources in order of appearance. -/
def groups (maxConnections : Nat) (units : List ExecutionUnit) : List ExecutionGroup :=
  (Sharding.distinct (units.map (·.dataSource))).flatMap fun ds =>
    groupsOn maxConnections ds (units.filter fun u => u.dataSource = ds)

/-- The groups of a statement after every decorator. -/
def prepare (g : Grouping) (route : Route) (units : List ExecutionUnit) :
    Except Error (List ExecutionGroup) :=
  g.decorators.foldlM (fun found d => d.apply route found) (groups g.maxConnections units)

end Grouping

end ScatterGather
