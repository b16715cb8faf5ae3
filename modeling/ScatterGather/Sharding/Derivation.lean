import ScatterGather.Schema
import ScatterGather.Sharding.Condition
import ScatterGather.Statement.Basic

/-!
# Sharding/Derivation — sharding conditions of statements

`whereConditions` finds one condition per AND group of a WHERE clause.  A group that says nothing
about sharding columns leaves the whole statement unrestricted.  `rowConditions` finds one condition
per inserted row.  Operands of sharding columns must be comparable; others are not even resolved.
`deriveConditions` does this for any statement and generates the keys of an INSERT that omits them.
-/

namespace ScatterGather.Sharding

/-- A computation that may read the clock, and may fail having read it. -/
abbrev Timed (α : Type) := ExceptT Error (StateM Clock) α

/-- Checks that a value can be sharded by. -/
def checkOperand (column : String) (v : Value) : Except Error Value :=
  if v.isNull then .error (.nullShardingValue column)
  else if v.isComparable then .ok v
  else .error (.notComparable (.shardingValue v column))

/-- The present instant as a value. -/
def present : Timed Value := do
  let clock ← get
  set clock.now.2
  return .timestamp clock.now.1

/-- The value of an operand of a sharding column; nothing where only the database knows it. -/
def resolveOperand (parameters : List Value) (column : String) (operand : Expression) :
    Timed (Option Value) := do
  match operand with
  | .now => return some (← checkOperand column (← present))
  | operand =>
    match ← operand.resolve parameters with
    | none => return none
    | some v => return some (← checkOperand column v)

/-- The values of a list of operands, equal ones once; nothing if one of them has no value. -/
def resolveList (parameters : List Value) (column : String) (found : List Value) :
    List Expression → Timed (Option (List Value))
  | [] => return some found
  | operand :: rest => do
    match ← resolveOperand parameters column operand with
    | none => return none
    | some v =>
      let found := if found.any fun w => w.equals v then found else found ++ [v]
      resolveList parameters column found rest

/-- The range beyond a value, by comparison. -/
def comparisonRange (op : Comparison) (v : Value) : Option Allowed :=
  match op with
  | .equal => some (.values [v])
  | .greater => some (.range (.atLeast v false))
  | .greaterOrEqual => some (.range (.atLeast v true))
  | .less => some (.range (.atMost v false))
  | .lessOrEqual => some (.range (.atMost v true))
  | .notEqual => none

/-- What a predicate allows for its column; nothing if it does not say. -/
def allowedBy (parameters : List Value) : Predicate → Timed (Option Allowed)
  | .compare .notEqual _ _ => return none
  | .compare op column operand => do
    return (← resolveOperand parameters column operand).bind (comparisonRange op)
  | .among column operands => do
    return (← resolveList parameters column [] operands).map .values
  | .between column low high => do
    let low ← resolveOperand parameters column low
    let high ← resolveOperand parameters column high
    return low.bind fun a => high.map fun b => .range (.closed a b)
  | .like _ _ | .isNull _ | .isNotNull _ => return none

/-- Whether predicates of this form restrict sharding columns. -/
def restricts : Predicate → Bool
  | .compare op _ _ => op ≠ .notEqual
  | .among _ _ | .between _ _ _ => true
  | .like _ _ | .isNull _ | .isNotNull _ => false

/-- The tables whose strategies use a column, with the column's bare name. -/
def owningTables (rule : ShardingRule) (tables : List String) (column : String) :
    List (String × String) :=
  let (owner, name) := splitColumn column
  let named := tables.filter fun t => owner.all fun o => Text.sameName o t
  (named.filter fun t => rule.isShardingColumn name t).map fun t => (t, name)

/-- The restrictions of one predicate, one per owning table. -/
def restrictionsOf (rule : ShardingRule) (tables : List String) (parameters : List Value)
    (p : Predicate) : Timed (List Restriction) := do
  let owners := if restricts p then owningTables rule tables p.column else []
  if owners.isEmpty then return []
  match ← allowedBy parameters p with
  | none => return []
  | some allowed => return owners.map fun o => ⟨o.1, o.2, allowed⟩

/-- The restrictions of an AND group, added to those found so far. -/
def groupRestrictions (rule : ShardingRule) (tables : List String) (parameters : List Value)
    (found : List Restriction) : List Predicate → Timed (List Restriction)
  | [] => return found
  | p :: rest => do
    let added ← restrictionsOf rule tables parameters p
    let found := added.foldl (fun found r => ShardingCondition.restrictList r found) found
    groupRestrictions rule tables parameters found rest

/-- The conditions of the groups; nothing if one of them restricts no column. -/
def groupConditions (rule : ShardingRule) (tables : List String) (parameters : List Value) :
    List (List Predicate) → Timed (Option (List ShardingCondition))
  | [] => return some []
  | group :: rest => do
    let restrictions ← groupRestrictions rule tables parameters [] group
    if restrictions.isEmpty then return none
    let conditions ← groupConditions rule tables parameters rest
    return conditions.map fun more => ⟨restrictions⟩ :: more

/-- The conditions of a WHERE clause over the tables. -/
def whereConditions (rule : ShardingRule) (tables : List String) (parameters : List Value)
    (condition : Option Condition) : Timed (List ShardingCondition) :=
  match condition with
  | none => return []
  | some c => do return (← groupConditions rule tables parameters c.andGroups).getD []

/-- The columns that an INSERT fills: those it declares, or all of its table. -/
def insertColumns (schema : Schema) (insert : Insert) : Except Error (List String) :=
  if insert.columns.isEmpty then (schema.get insert.table).map Table.columnNames
  else .ok insert.columns

/-- The restrictions of one inserted row: its cells in sharding columns. -/
def cellRestrictions (rule : ShardingRule) (table : String) (parameters : List Value) :
    List (String × Expression) → Timed (List Restriction)
  | [] => return []
  | (column, cell) :: rest => do
    if rule.isShardingColumn column table then
      let v ← resolveOperand parameters column cell
      let more ← cellRestrictions rule table parameters rest
      return v.toList.map (fun v => ⟨table, column, .values [v]⟩) ++ more
    else cellRestrictions rule table parameters rest

/-- The conditions of the inserted rows from number `row` on. -/
def rowConditions (rule : ShardingRule) (table : String) (columns : List String)
    (parameters : List Value) (row : Nat) : List (List Expression) → Timed (List ShardingCondition)
  | [] => return []
  | cells :: rest => do
    if columns.length ≠ cells.length then
      throw (.invalidExpression (.rowWidth row table cells.length columns.length))
    let restrictions ← cellRestrictions rule table parameters (columns.zip cells)
    let more ← rowConditions rule table columns parameters (row + 1) rest
    return ⟨restrictions⟩ :: more

/-- The conditions of an INSERT before keys are generated: those of its rows or of its SELECT. -/
def insertedConditions (rule : ShardingRule) (insert : Insert) (columns : List String)
    (parameters : List Value) : Timed (List ShardingCondition) :=
  match insert.select with
  | some select => whereConditions rule select.tables parameters select.condition
  | none => rowConditions rule insert.table columns parameters 0 insert.values

/-- The key column that an INSERT leaves to its generator. -/
def omittedKey? (rule : ShardingRule) (insert : Insert) (columns : List String) : Option String :=
  (rule.keyColumn? insert.table).filter fun key => !columns.any fun c => Text.sameName c key

/-- Adds each key to the condition of its row. -/
def withKeys (table column : String) (conditions : List ShardingCondition) (keys : List Value) :
    List ShardingCondition :=
  match conditions, keys with
  | c :: conditions, key :: keys =>
    ⟨c.restrictions ++ [⟨table, column, .values [key]⟩]⟩ :: withKeys table column conditions keys
  | conditions, _ => conditions

/-- Generates the omitted keys of an INSERT, which count as cells if their column is a sharding
column. -/
def addKeys (rule : ShardingRule) (insert : Insert) (column : String)
    (conditions : List ShardingCondition) : Except Error (ShardingConditions × ShardingRule) := do
  let count := if insert.select.isSome then conditions.length else insert.values.length
  let (keys, moved) ← rule.generateKeys insert.table count
  let conditions :=
    if rule.isShardingColumn column insert.table then
      withKeys insert.table column conditions keys
    else conditions
  return (⟨conditions, some ⟨column, keys⟩⟩, moved)

/-- What a derivation yields: the conditions or a failure, and the rule and clock after it. -/
structure Derived where
  result : Except Error ShardingConditions
  rule : ShardingRule
  clock : Clock

/-- The conditions of an INSERT with its generated keys. -/
def deriveInsert (rule : ShardingRule) (schema : Schema) (clock : Clock) (insert : Insert)
    (parameters : List Value) : Derived :=
  match insertColumns schema insert with
  | .error e => ⟨.error e, rule, clock⟩
  | .ok columns =>
    match (insertedConditions rule insert columns parameters).run clock with
    | (.error e, clock) => ⟨.error e, rule, clock⟩
    | (.ok conditions, clock) =>
      match omittedKey? rule insert columns with
      | none => ⟨.ok ⟨conditions, none⟩, rule, clock⟩
      | some column =>
        match addKeys rule insert column conditions with
        | .error e => ⟨.error e, rule, clock⟩
        | .ok (conditions, moved) => ⟨.ok conditions, moved, clock⟩

/-- The conditions of a statement. -/
def deriveConditions (rule : ShardingRule) (schema : Schema) (clock : Clock)
    (statement : Statement) (parameters : List Value) : Derived :=
  match statement with
  | .insert insert => deriveInsert rule schema clock insert parameters
  | .select _ | .update _ | .delete _ =>
    let (result, clock) :=
      (whereConditions rule statement.tables parameters statement.condition?).run clock
    ⟨result.map fun conditions => ⟨conditions, none⟩, rule, clock⟩
  | .ddl _ | .dal _ => ⟨.ok .none, rule, clock⟩

end ScatterGather.Sharding
