import ScatterGather.Console.Command
import ScatterGather.Console.Table
import ScatterGather.Execution.Cluster
import ScatterGather.Json.Reader

/-!
# Console/Report — what the command line prints

`report` answers a request under given settings: the rules of the settings, or the units of a
statement with one condition.
-/

namespace ScatterGather

/-- The lines of text that a command prints. -/
abbrev Lines := List String

/-- A strategy in a cell: its column and the name of its algorithm. -/
def strategyCell : Option Strategy → String
  | none => "-"
  | some s => s.column ++ " (" ++ s.algorithmName ++ ")"

/-- A key column in a cell: its name and that of its generator. -/
def keyCell : Option KeyStrategy → String
  | none => "-"
  | some k => k.column ++ " (" ++ k.generatorName ++ ")"

/-- The sharding of all tables. -/
def shardingLines (rule : ShardingRule) : Lines :=
  let row (r : TableRule) := [r.logicTable, Text.join ", " (r.nodes.map DataNode.render),
    strategyCell (rule.databaseStrategy r), strategyCell (rule.tableStrategy r), keyCell r.key]
  let header := ["Logic table", "Data nodes", "Database strategy", "Table strategy", "Key generate"]
  TextTable.render ⟨header, rule.tableRules.map row⟩ ::
    if rule.broadcastTables.isEmpty then []
    else ["Broadcast tables: " ++ Text.join ", " rule.broadcastTables]

/-- All read/write groups. -/
def readWriteLines (rule : ReadWriteRule) : Lines :=
  let row (g : ReplicaGroup) := [g.name, g.primary, Text.join ", " g.replicas,
    g.balancerName ++ " (" ++ g.balancer.typeName ++ ")"]
  [TextTable.render ⟨["Group", "Primary", "Replicas", "Load balancer"], rule.groups.map row⟩]

/-- The limits and switches of execution. -/
def executionLine (s : ExecutionSettings) : String :=
  "Props: max_connections_size_per_query=" ++ Text.ofNat s.maxConnections ++ " sql_show=" ++
    (if s.sqlShow then "true" else "false") ++ " database_type=" ++ s.dialect.name

/-- The rules of the settings. -/
def checkReport (settings : Settings) (clock : Clock) (source : RandomSource) :
    Except Error Lines := do
  let rules ← settings.rules clock source
  return ("Data sources: " ++ Text.join ", " rules.logicDataSources) ::
    executionLine settings.execution ::
    ((rules.sharding.map shardingLines).getD [] ++ (rules.readWrite.map readWriteLines).getD [] ++
      ["Configuration OK"])

/-- The value that an argument means: an integer if it is one, or a text. -/
def argumentValue (raw : String) : Value :=
  match Text.int64? raw.toList with
  | some n => .integer n
  | none => .text raw

/-- The statement that selects the rows of a table with a value in a column. -/
def selectWhere (table column : String) (value : Value) : LogicSql :=
  { statement := .select
      { tables := [table], list := ⟨[.column "*" none], false⟩
        condition := some (.test (.compare .equal column (.parameter 0)))
        groupBy := [], orderBy := [], having := none, pagination := none, lock := false
        subquery := false }
    sql := "SELECT * FROM " ++ table ++ " WHERE " ++ column ++ " = ?"
    parameters := [value] }

/-- The execution units of a route. -/
def unitLines (units : List ExecutionUnit) : Lines :=
  [TextTable.render ⟨["Data source", "Actual SQL"], units.map fun u => [u.dataSource, u.sql]⟩,
    "(" ++ Text.ofNat units.length ++ " units)"]

/-- Where the rows of a table with a value in a column are selected from. -/
def routeReport (settings : Settings) (clock : Clock) (source : RandomSource)
    (table column value : String) (json : Bool) : Except Error Lines := do
  let rules ← settings.rules clock source
  let metadata : Metadata := ⟨.empty, rules.logicDataSources, settings.execution.dialect⟩
  let sql := selectWhere table column (argumentValue value)
  let route ← ((rules.routers clock source).route metadata .fresh sql).result
  if json then return [route.toJson.renderIndented 0]
  let units ← executionUnits metadata.dialect sql route
  return unitLines units

/-- What a command prints under settings. -/
def report (command : Command) (settings : Settings) (clock : Clock) (source : RandomSource) :
    Except Error Lines :=
  match command with
  | .check => checkReport settings clock source
  | .route table column value json => routeReport settings clock source table column value json

/-- The settings of a request, the text of its file being given where that exists. -/
def requestSettings (request : Request) (file : Option String) (lead : String)
    (overrides : List (String × String)) : Except Error Settings :=
  match request.settings, file with
  | none, _ => Settings.load none lead overrides
  | some path, none => .error (.invalidConfig (.fileNotFound path))
  | some _, some text =>
    match Json.parse? text with
    | none => .error .unreadableSettings
    | some document => Settings.load (some document) lead overrides

/-- What a run of the program leaves: its exit code and what it wrote. -/
structure Outcome where
  exit : Nat
  output : String
  diagnostics : String
  deriving DecidableEq

/-- Answers a request. -/
def Request.run (request : Request) (file : Option String) (lead : String)
    (overrides : List (String × String)) (clock : Clock) (source : RandomSource) : Outcome :=
  let lines := (requestSettings request file lead overrides).bind fun settings =>
    report request.command settings clock source
  match lines with
  | .ok lines => ⟨0, String.join (lines.map fun line => line ++ "\n"), ""⟩
  | .error e => ⟨1, "", "Error: " ++ e.inspect ++ "\n"⟩

end ScatterGather
