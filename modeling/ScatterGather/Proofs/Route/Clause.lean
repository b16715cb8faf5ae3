import ScatterGather.Proofs.Route.Coverage

/-!
# Proofs/Route/Clause — one statement under several WHERE clauses

`restrictedTo` puts a WHERE clause into a statement, so that clauses can be compared by the routes
they lead to.  Clauses that only add a test of a column against a **known** operand, a literal or a
bound parameter, are derived without reading the clock (`restrictionsOf_equal`), and a statement
over one sharded table goes to the nodes of that table, or nowhere (`choose_single`).
-/

namespace ScatterGather

open Sharding

/-! ## Statements and clauses

Putting another clause into a statement changes nothing else about it. -/

/-- The statement with this WHERE clause instead of its own. -/
def Statement.restrictedTo (w : Condition) : Statement → Statement
  | select s => select { s with condition := some w }
  | update s => update { s with condition := some w }
  | delete s => delete { s with condition := some w }
  | s => s

/-- The same for a statement with its parameters. -/
def LogicSql.restrictedTo (sql : LogicSql) (w : Condition) : LogicSql :=
  { sql with statement := sql.statement.restrictedTo w }

namespace Statement

variable {s : Statement} {w : Condition}

@[simp] theorem tables_restrictedTo : (s.restrictedTo w).tables = s.tables := by
  cases s <;> rfl

@[simp] theorem isSelect_restrictedTo : (s.restrictedTo w).isSelect = s.isSelect := by
  cases s <;> rfl

@[simp] theorem picksRows_restrictedTo : (s.restrictedTo w).picksRows = s.picksRows := by
  cases s <;> rfl

theorem condition?_restrictedTo (h : s.picksRows = true) :
    (s.restrictedTo w).condition? = some w := by
  cases s <;> first | rfl | exact nomatch h

@[simp] theorem needsLastOnly_restrictedTo (rule : ShardingRule) :
    needsLastOnly rule (s.restrictedTo w) = needsLastOnly rule s := by
  cases s <;> rfl

end Statement

/-! ## Known operands

The value of a literal or of a bound parameter is known before anything is read from the clock or
from a row, so the computation that resolves it is a constant. -/

namespace Sharding

variable {rule : ShardingRule} {tables : List String} {parameters : List Value} {column : String}
  {e : Expression} {v : Value}

theorem liftM_ok {α : Type} (a : α) : (liftM (Except.ok a : Except Error α) : Timed α) = pure a :=
  rfl

/-- **A known operand is its value**, whatever the clock shows. -/
theorem resolveOperand_eq_pure (he : e.resolve parameters = .ok (some v))
    (hv : v.isPlain = true) : resolveOperand parameters column e = pure (some v) := by
  have hcheck : checkOperand column v = .ok v := by
    cases v <;> first | rfl | exact nomatch hv
  cases e with
  | now => cases he
  | complex text => cases he
  | literal v' =>
    cases he
    simp only [resolveOperand, Expression.resolve, liftM_ok, pure_bind, hcheck]
  | parameter index =>
    simp only [resolveOperand, he, liftM_ok, pure_bind, hcheck]

/-- What a predicate allows restricts its column, in each table that it shards. -/
theorem restrictionsOf_of_allowedBy {p : Predicate} {a : Allowed} (hp : restricts p = true)
    (ha : allowedBy parameters p = pure (some a)) :
    restrictionsOf rule tables parameters p =
      pure ((owningTables rule tables p.column).map fun o => ⟨o.1, o.2, a⟩) := by
  simp only [restrictionsOf, hp, if_true, ha, pure_bind]
  split
  · rename_i hempty
    rw [List.isEmpty_iff.1 hempty]
    rfl
  · rfl

/-- An equality with a known operand pins the column. -/
theorem restrictionsOf_equal (he : e.resolve parameters = .ok (some v)) (hv : v.isPlain = true) :
    restrictionsOf rule tables parameters (.compare .equal column e) =
      pure ((owningTables rule tables column).map fun o => ⟨o.1, o.2, .values [v]⟩) := by
  refine restrictionsOf_of_allowedBy rfl ?_
  simp only [allowedBy, resolveOperand_eq_pure he hv, pure_bind]
  rfl

/-- The only table that a column can be of. -/
theorem owningTables_singleton {t : String} (h : owningTables rule [t] column ≠ []) :
    owningTables rule [t] column = [(t, bareColumn column)] ∧
      rule.isShardingColumn (bareColumn column) t = true := by
  have hsplit : owningTables rule [t] column =
      (([t].filter fun t => (splitColumn column).1.all fun o => Text.sameName o t).filter fun t =>
        rule.isShardingColumn (bareColumn column) t).map fun t => (t, bareColumn column) := rfl
  rw [hsplit, List.filter_filter, List.filter_singleton] at h ⊢
  cases hkept : rule.isShardingColumn (bareColumn column) t &&
    (splitColumn column).1.all fun o => Text.sameName o t with
  | true => exact ⟨rfl, (Bool.and_eq_true_iff.1 hkept).1⟩
  | false => exact absurd (by rw [hkept]; rfl) h

/-- A table with a sharding column is sharded. -/
theorem isSharded_of_isShardingColumn {t : String} (h : rule.isShardingColumn column t = true) :
    rule.isSharded t = true := by
  rw [ShardingRule.isShardingColumn] at h
  rw [ShardingRule.isSharded]
  split at h
  · cases h
  · rename_i r hr
    rw [hr]
    rfl

/-- An equality in a group narrows the column to its value. -/
theorem groupRestrictions_cons_equal {t : String} (hcolumn : owningTables rule [t] column ≠ [])
    (he : e.resolve parameters = .ok (some v)) (hv : v.isPlain = true) (found : List Restriction)
    (rest : List Predicate) :
    groupRestrictions rule [t] parameters found (.compare .equal column e :: rest) =
      groupRestrictions rule [t] parameters
        (ShardingCondition.restrictList ⟨t, bareColumn column, .values [v]⟩ found) rest := by
  simp [groupRestrictions, restrictionsOf_equal he hv, (owningTables_singleton hcolumn).1]

/-- The restrictions of a longer group narrow those of its beginning. -/
theorem groupRestrictions_append (found : List Restriction) (group more : List Predicate) :
    groupRestrictions rule tables parameters found (group ++ more) =
      groupRestrictions rule tables parameters found group >>= fun found =>
        groupRestrictions rule tables parameters found more := by
  induction group generalizing found with
  | nil => simp [groupRestrictions]
  | cons p rest ih => simp [groupRestrictions, ih]

end Sharding

/-! ## Routes

The plan of a statement over one table is fixed by the table.  What is left is a list of conditions,
and a node for each unit. -/

/-- The conditions that routing uses of those that a WHERE clause leads to. -/
def usedConditions (rule : ShardingRule) (statement : Statement)
    (conditions : List ShardingCondition) : ShardingConditions :=
  if needsLastOnly rule statement then (ShardingConditions.mk conditions none).keepLast
  else ⟨conditions, none⟩

section Route

variable {rule : ShardingRule} {schema : Schema} {clock : Clock} {sql : LogicSql}
  {conditions : ShardingConditions} {t : String} {w : Condition} {route : Route}

/-- Conditions of a WHERE clause come without generated keys. -/
theorem keys_usedConditions {statement : Statement} (found : List ShardingCondition) :
    (usedConditions rule statement found).keys = none := by
  rw [usedConditions]
  split <;> rfl

/-- What routing derives from a statement with a WHERE clause. -/
theorem routingConditions_restrictedTo (hpicks : sql.statement.picksRows = true) :
    (routingConditions rule schema clock (sql.restrictedTo w)).result =
      ((whereConditions rule sql.statement.tables sql.parameters (some w)).run clock).1.map
        (usedConditions rule sql.statement) := by
  have hpicks' : (sql.statement.restrictedTo w).picksRows = true := by simpa using hpicks
  have hderive : (deriveConditions rule schema clock (sql.statement.restrictedTo w)
      sql.parameters).result = _ := deriveConditions_result hpicks'
  rw [Statement.condition?_restrictedTo hpicks, Statement.tables_restrictedTo] at hderive
  simp only [routingConditions, LogicSql.restrictedTo, Statement.needsLastOnly_restrictedTo]
  cases hlast : needsLastOnly rule sql.statement <;>
    simp only [if_true, Bool.false_eq_true, if_false, hderive] <;>
    cases ((whereConditions rule sql.statement.tables sql.parameters (some w)).run clock).1 <;>
    simp [Except.map, usedConditions, hlast]

/-- **When a statement with a WHERE clause is routed**: it is admitted, its conditions are found,
and they lead to the route. -/
theorem shardingRoute_restrictedTo_eq_ok (hpicks : sql.statement.picksRows = true) :
    (shardingRoute rule schema clock (sql.restrictedTo w)).1 = .ok route ↔
      permit rule schema (sql.statement.restrictedTo w) sql.parameters = .ok () ∧
        ∃ found, ((whereConditions rule sql.statement.tables sql.parameters (some w)).run clock).1 =
            .ok found ∧
          routeWith rule (sql.statement.restrictedTo w)
            (usedConditions rule sql.statement found) = .ok route := by
  rw [shardingRoute.eq_def]
  split
  · rename_i e he
    simp [LogicSql.restrictedTo] at he
    simp [he]
  · rename_i hok
    have hok : permit rule schema (sql.statement.restrictedTo w) sql.parameters = .ok () := hok
    simp only [hok, true_and, routingConditions_restrictedTo hpicks]
    cases ((whereConditions rule sql.statement.tables sql.parameters (some w)).run clock).1 <;>
      simp [Except.map, Except.bind, LogicSql.restrictedTo]

/-- **The plan of a statement about the rows of one sharded table.** -/
theorem RoutePlan.choose_single {statement : Statement} (hpicks : statement.picksRows = true)
    (htables : statement.tables = [t]) (hsharded : rule.isSharded t = true) :
    choose rule statement conditions =
      if rule.isBroadcast t then everyNode [t]
      else if conditions.areNever then nowhere else oneTable t [] := by
  rw [choose_eq_ofDml (Statement.isDml_of_picksRows hpicks), htables, ofDml_singleton hsharded]

/-- What is refused after routing depends on the number of units alone. -/
theorem permitRoute_restrictedTo {statement : Statement} {w' : Condition} {route' : Route}
    (h : route'.units.length = route.units.length) :
    permitRoute (statement.restrictedTo w') route' =
      permitRoute (statement.restrictedTo w) route := by
  cases statement <;> simp [Statement.restrictedTo, permitRoute, h]

/-- **Under the same conditions the clause does not matter**, and for a broadcast table not even
the conditions do. -/
theorem routeWith_restrictedTo {statement : Statement} {w' : Condition}
    {conditions' : ShardingConditions} (hpicks : statement.picksRows = true)
    (htables : statement.tables = [t]) (hsharded : rule.isSharded t = true)
    (hsame : rule.isBroadcast t = true ∨ conditions' = conditions)
    (hkeys : conditions'.keys = conditions.keys) :
    routeWith rule (statement.restrictedTo w') conditions' =
      routeWith rule (statement.restrictedTo w) conditions := by
  have hplan : ∀ w conditions, RoutePlan.choose rule (statement.restrictedTo w) conditions = _ :=
    fun w conditions =>
      RoutePlan.choose_single (by simpa using hpicks) (by simpa using htables) hsharded
  have hpermit : ∀ route, permitRoute (statement.restrictedTo w') route =
      permitRoute (statement.restrictedTo w) route := fun route => permitRoute_restrictedTo rfl
  simp only [routeWith, hplan, Statement.isSelect_restrictedTo, hpermit, hkeys]
  obtain hbroadcast | rfl := hsame
  · simp only [hbroadcast, if_true]
    rfl
  · rfl

/-- The route to nodes of a table, given with the nodes of each condition. -/
def nodesRoute (t : String) (found : List DataNode × List (List DataNode))
    (keys : Option GeneratedKeys) : Route :=
  { Route.empty.addAll (found.1.map fun n => RouteUnit.on n.dataSource [⟨t, n.table⟩]) with
    conditionNodes := found.2, keys := keys }

/-- The units of a route to nodes are one for each. -/
theorem mem_units_nodesRoute {found : List DataNode × List (List DataNode)}
    {keys : Option GeneratedKeys} {u : RouteUnit} : u ∈ (nodesRoute t found keys).units ↔
      ∃ n ∈ found.1, RouteUnit.on n.dataSource [⟨t, n.table⟩] = u := by
  rw [nodesRoute, Route.mem_units_addAll, List.mem_map]
  exact or_iff_right (List.not_mem_nil)

/-- **No unit is added twice.** -/
theorem Route.nodup_units_addAll {r : Route} (units : List RouteUnit) (h : r.units.Nodup) :
    (r.addAll units).units.Nodup := by
  induction units generalizing r with
  | nil => exact h
  | cons u rest ih =>
    refine ih ?_
    rw [add]
    split
    · exact h
    · rename_i hu
      exact List.nodup_append.2 ⟨h, by simp, by grind⟩

/-- Routes with the same units have equally many. -/
theorem length_units_nodesRoute {found found' : List DataNode × List (List DataNode)}
    {keys keys' : Option GeneratedKeys}
    (h : ∀ u, u ∈ (nodesRoute t found keys).units ↔ u ∈ (nodesRoute t found' keys').units) :
    (nodesRoute t found keys).units.length = (nodesRoute t found' keys').units.length :=
  ((List.perm_ext_iff_of_nodup (Route.nodup_units_addAll _ List.nodup_nil)
    (Route.nodup_units_addAll _ List.nodup_nil)).2 h).length_eq

/-- **A statement about the rows of one sharded table goes to the nodes of its conditions.** -/
theorem routeWith_single_eq_ok {statement : Statement} (hpicks : statement.picksRows = true)
    (htables : statement.tables = [t]) (hsharded : rule.isSharded t = true)
    (hbroadcast : rule.isBroadcast t = false) (hnever : conditions.areNever = false) :
    routeWith rule statement conditions = .ok route ↔
      ∃ found, tableNodes rule t conditions = .ok found ∧
        nodesRoute t found conditions.keys = route ∧ permitRoute statement route = .ok () := by
  have hpermit : ∀ route : Route, permitRoute statement { route with keys := conditions.keys } =
      permitRoute statement route := fun route => by cases statement <;> rfl
  rw [routeWith, RoutePlan.choose_single hpicks htables hsharded, hbroadcast, hnever]
  constructor
  · intro h
    obtain ⟨r, hr, h⟩ := bind_eq_ok.1 h
    obtain ⟨_, hadmitted, h⟩ := bind_eq_ok.1 h
    obtain ⟨found, hfound, hr⟩ := bind_eq_ok.1 hr
    cases hr
    cases h
    exact ⟨found, hfound, rfl, (hpermit _).trans hadmitted⟩
  · rintro ⟨found, hfound, rfl, hadmitted⟩
    exact bind_eq_ok.2 ⟨_, bind_eq_ok.2 ⟨found, hfound, rfl⟩,
      bind_eq_ok.2 ⟨(), (hpermit _).symm.trans hadmitted, rfl⟩⟩

end Route

/-- Orders of one table, with a bound user. -/
def ordersWhere : LogicSql where
  statement := .select
    { tables := ["t_order"], list := ⟨[], false⟩, condition := none, groupBy := [], orderBy := []
      having := none, pagination := none, lock := false, subquery := false }
  sql := "SELECT * FROM t_order WHERE ..."
  parameters := [.integer 3]

end ScatterGather
