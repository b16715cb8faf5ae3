import ScatterGather.Execution.Grouping
import ScatterGather.Merge.PartialResult

/-!
# Execution/Connector — running groups of units

A `Connector` gives access to the data sources.  `runGroups` runs every group, each until its first
failure, whatever happens in the others; the outcome is that of the first group that failed, or all
results in the order of the units.
-/

namespace ScatterGather

/-- Access to the data sources. -/
structure Connector where
  query : ExecutionUnit → Except Error PartialResult
  update : ExecutionUnit → Except Error Nat

/-- A failure of a unit, as a failure of its data source. -/
def ExecutionUnit.failure (u : ExecutionUnit) (e : Error) : Error :=
  match e with
  | .executionFailed dataSource message => .executionFailed dataSource message
  | e => .executionFailed u.dataSource e.message

/-- What running units yields: the results or a failure, and the units that were run. -/
structure Ran (α : Type) where
  result : Except Error (List α)
  units : List ExecutionUnit

/-- Runs units one after another up to the first failure. -/
def runUnits (run : ExecutionUnit → Except Error α) : List ExecutionUnit → Ran α
  | [] => ⟨.ok [], []⟩
  | u :: rest =>
    match run u with
    | .error e => ⟨.error (u.failure e), [u]⟩
    | .ok a =>
      let ran := runUnits run rest
      ⟨ran.result.map fun more => a :: more, u :: ran.units⟩

/-- Runs all groups. -/
def runGroups (run : ExecutionUnit → Except Error α) (groups : List ExecutionGroup) : Ran α :=
  let ran : List (Ran α) := groups.map fun g => runUnits run g.units
  ⟨(ran.mapM Ran.result).map List.flatten, ran.flatMap Ran.units⟩

/-- A table of a data source that is kept in memory. -/
structure StoredTable where
  dataSource : String
  table : String
  labels : List String
  rows : List Row
  deriving DecidableEq

/-- Data sources that are kept in memory. -/
structure MemorySources where
  tables : List StoredTable
  /-- The rows that an update on a data source changes; one elsewhere. -/
  updateCounts : List (String × Nat)
  /-- The data sources that refuse connections. -/
  failing : List String
  deriving DecidableEq

namespace MemorySources

/-- Refuses a unit for a failing data source. -/
def admits (s : MemorySources) (u : ExecutionUnit) : Except Error Unit :=
  if u.dataSource ∈ s.failing then .error (.executionFailed u.dataSource "connection refused")
  else .ok ()

/-- The tables of a unit's data source that its SQL text mentions. -/
def mentioned (s : MemorySources) (u : ExecutionUnit) : List StoredTable :=
  s.tables.filter fun t => t.dataSource = u.dataSource && mentions u.sql t.table

/-- The rows of all tables that a unit mentions, under the labels of the last one. -/
def query (s : MemorySources) (u : ExecutionUnit) : Except Error PartialResult := do
  s.admits u
  let found := s.mentioned u
  return .ofRows ((found.getLast?.map (·.labels)).getD []) (found.flatMap (·.rows))

/-- The number of rows that a unit changes. -/
def update (s : MemorySources) (u : ExecutionUnit) : Except Error Nat := do
  s.admits u
  return (s.updateCounts.reverse.lookup u.dataSource).getD 1

/-- Access to these data sources. -/
def connector (s : MemorySources) : Connector := ⟨s.query, s.update⟩

end MemorySources

end ScatterGather
