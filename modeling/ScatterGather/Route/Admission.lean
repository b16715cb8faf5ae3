import ScatterGather.Route.Plan

/-!
# Route/Admission — statements that must not be scattered

`permit` refuses a statement before routing when it would change where a row belongs or names tables
wrongly; `permitRoute` refuses one after routing when its LIMIT would apply on every node.
-/

namespace ScatterGather

/-- Refuses to update a sharding column of a duplicate row, and to generate keys for the rows of a
SELECT. -/
def permitInsert (rule : ShardingRule) (insert : Insert) : Except Error Unit :=
  match insert.onDuplicate.find? fun a => rule.isShardingColumn (bareColumn a.1) insert.table with
  | some (column, _) => .error (.unsupported (.shardingColumnOnDuplicate column))
  | none =>
    match insert.select, rule.keyColumn? insert.table with
    | some _, some key =>
      if insert.columns.any fun c => Text.sameName c key then .ok ()
      else .error (.unsupported (.keyFromSelect key))
    | _, _ => .ok ()

/-- The value that a WHERE clause pins a column to: the first operand with a value among the
equalities joined by AND. -/
def pinnedValue (column : String) (parameters : List Value) :
    Condition → Except Error (Option Value)
  | .test (.compare .equal name operand) =>
    if Text.sameName (bareColumn name) column then operand.resolve parameters else .ok none
  | .and left right => do
    match ← pinnedValue column parameters left with
    | some v => return some v
    | none => pinnedValue column parameters right
  | .test _ | .or _ _ => .ok none

/-- Whether an assignment to a column leaves the rows of a WHERE clause where they are. -/
def keepsValue (column : String) (operand : Expression) (condition : Option Condition)
    (parameters : List Value) : Except Error Bool := do
  let assigned ← operand.resolve parameters
  let pinned ← match condition with
    | some c => pinnedValue column parameters c
    | none => pure none
  return match assigned, pinned with
    | some a, some p => a.order? p == some .eq
    | _, _ => false

/-- Refuses an assignment that may move a row. -/
def permitAssignment (rule : ShardingRule) (update : Update) (parameters : List Value)
    (assignment : String × Expression) : Except Error Unit := do
  let column := bareColumn assignment.1
  if update.tables.any fun t => rule.isShardingColumn column t then
    let kept ← keepsValue column assignment.2 update.condition parameters
    if kept then return () else throw (.unsupported (.shardingColumnUpdate column))

/-- Refuses a statement that cannot be scattered at all. -/
def permit (rule : ShardingRule) (schema : Schema) (statement : Statement)
    (parameters : List Value) : Except Error Unit :=
  match statement with
  | .insert insert => permitInsert rule insert
  | .update update => update.assignments.forM (permitAssignment rule update parameters)
  | .delete delete =>
    if 1 < delete.tables.length then .error (.unsupported .multipleTableDelete) else .ok ()
  | .ddl ddl =>
    match ddl.kind with
    | .createTable =>
      match ddl.tables.find? schema.contains with
      | some table => .error (.tableExists table)
      | none => .ok ()
    | .dropTable | .dropIndex => ddl.tables.forM fun t => (schema.get t).map fun _ => ()
    | _ => .ok ()
  | .select _ | .dal _ => .ok ()

/-- Refuses a LIMIT on changes that go to several units. -/
def permitRoute (statement : Statement) (route : Route) : Except Error Unit :=
  match statement with
  | .update update =>
    if 1 < route.units.length && update.limit.isSome then .error (.unsupported .limitedUpdate)
    else .ok ()
  | .delete delete =>
    if 1 < route.units.length && delete.limit.isSome then .error (.unsupported .limitedDelete)
    else .ok ()
  | _ => .ok ()

end ScatterGather
