import ScatterGather.Execution.Token
import ScatterGather.Execution.Window

/-!
# Execution/Unit — what runs on the data sources

Every unit of a route becomes one `ExecutionUnit`: SQL text with actual table names, and its
parameters.
-/

namespace ScatterGather

/-- SQL text and parameters for one data source. -/
structure ExecutionUnit where
  dataSource : String
  sql : String
  parameters : List Value
  deriving DecidableEq

/-- The unit on one line: data source, SQL text and, if there are any, the parameters. -/
def ExecutionUnit.render (u : ExecutionUnit) : String :=
  u.dataSource ++ " ::: " ++ u.sql ++
    if u.parameters.isEmpty then ""
    else " ::: [" ++ Text.join ", " (u.parameters.map Value.render) ++ "]"

/-- The execution units of a routed statement.  Only a statement for several units has its window
widened. -/
def executionUnits (dialect : Dialect) (sql : LogicSql) (route : Route) :
    Except Error (List ExecutionUnit) := do
  if route.units.isEmpty then throw (.noDataNode (.tables sql.statement.tables))
  let (text, parameters) ← if 1 < route.units.length then shared dialect sql
    else pure (sql.sql, sql.parameters)
  return route.units.map fun u => ⟨u.dataSource.actual, renameTables u text, parameters⟩

end ScatterGather
