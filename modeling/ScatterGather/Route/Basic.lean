import ScatterGather.Dialect
import ScatterGather.Json.Basic
import ScatterGather.Schema
import ScatterGather.Sharding.Condition

/-!
# Route/Basic — where a statement goes

A `Route` lists units: a data source with the actual tables that stand there for the logical ones.
No unit is listed twice.
-/

namespace ScatterGather

/-- The logical tables and the data sources behind them. -/
structure Metadata where
  schema : Schema
  dataSources : List String
  dialect : Dialect
  deriving DecidableEq

/-- A logical name and the actual one. -/
structure NameMap where
  logic : String
  actual : String
  deriving DecidableEq

/-- A data source and the tables renamed on it. -/
structure RouteUnit where
  dataSource : NameMap
  tables : List NameMap
  deriving DecidableEq

namespace RouteUnit

/-- A unit on a data source that has no other name. -/
def on (dataSource : String) (tables : List NameMap) : RouteUnit :=
  ⟨⟨dataSource, dataSource⟩, tables⟩

/-- The actual table of a logical one, its name up to the case of ASCII letters. -/
def actualTable? (u : RouteUnit) (table : String) : Option String :=
  (u.tables.find? fun m => Text.sameName m.logic table).map (·.actual)

end RouteUnit

/-- The units of a statement and what routing found out beside them. -/
structure Route where
  units : List RouteUnit
  /-- The data nodes of every sharding condition, in order. -/
  conditionNodes : List (List DataNode)
  /-- The keys generated for an INSERT. -/
  keys : Option GeneratedKeys
  /-- Tables on several data sources are joined. -/
  federated : Bool
  deriving DecidableEq

namespace Route

/-- No unit. -/
def empty : Route := ⟨[], [], none, false⟩

/-- Adds a unit that is not there yet. -/
def add (r : Route) (u : RouteUnit) : Route :=
  if u ∈ r.units then r else { r with units := r.units ++ [u] }

/-- Adds units in order. -/
def addAll (r : Route) (units : List RouteUnit) : Route := units.foldl add r

@[simp] theorem mem_units_add {r : Route} {u v : RouteUnit} :
    v ∈ (r.add u).units ↔ v ∈ r.units ∨ v = u := by
  rw [add]
  split
  · grind
  · simp

theorem mem_units_addAll {r : Route} {units : List RouteUnit} {v : RouteUnit} :
    v ∈ (r.addAll units).units ↔ v ∈ r.units ∨ v ∈ units := by
  induction units generalizing r with
  | nil => simp [addAll]
  | cons u rest ih =>
    rw [addAll, List.foldl_cons, ← addAll, ih, mem_units_add, List.mem_cons, or_assoc]

/-- Whether there is exactly one unit. -/
def isSingle (r : Route) : Bool := r.units.length = 1

/-- The actual data sources, each once, in order. -/
def dataSources (r : Route) : List String := Sharding.distinct (r.units.map (·.dataSource.actual))

/-- The units as a document, with the sign of a federated statement. -/
def toJson (r : Route) : Json :=
  let name (m : NameMap) :=
    Json.object [("logic_name", .string m.logic), ("actual_name", .string m.actual)]
  let unit (u : RouteUnit) := Json.object [("data_source_mapper", name u.dataSource),
    ("table_mappers", .array (u.tables.map name))]
  .object [("route_units", .array (r.units.map unit)), ("federated", .bool r.federated)]

end Route

end ScatterGather
