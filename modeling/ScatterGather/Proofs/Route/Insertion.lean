import ScatterGather.Proofs.Route.Coverage
import ScatterGather.Proofs.Sharding.Insertion

/-!
# Proofs/Route/Insertion — the nodes that inserted rows go to

The route of an INSERT of value rows lists the nodes of every row.  A row that gives one value to
the column of each strategy goes to **exactly one node**; a row that gives neither column a value
goes to every node of its table, and nothing refuses it (`conditionNodes_of_insert`).
-/

namespace ScatterGather

open Sharding

/-! ## Targets

A row restricts a column to one value or not at all; there is nothing in between. -/

section Targets

variable {s : Strategy} {targets found : List String} {table : String} {columns : List String}
  {c : ShardingCondition}

/-- A row that gives a column one value allows that value alone. -/
theorem allowedFor_of_one {column : String} (hc : c.Gives table columns)
    (hone : columns.countP (Text.sameName · column) = 1) :
    ∃ v, c.allowedFor table column = [.values [v]] := by
  obtain ⟨vs, hlength, hallowed⟩ := hc.allowedFor_eq column
  obtain ⟨v, rfl⟩ := List.length_eq_one_iff.1 (hlength.trans hone)
  exact ⟨v, hallowed⟩

/-- **One value chooses one target.** -/
theorem chooseTargets_of_one {v : Value} (hallowed : c.allowedFor table s.column = [.values [v]])
    (h : chooseTargets (some s) targets table (some c) = .ok found) :
    ∃ t ∈ targets, found = [t] := by
  rw [chooseTargets, hallowed] at h
  obtain ⟨lists, hlists, rfl⟩ := map_eq_ok.1 h
  obtain ⟨list, hlist, rfl⟩ := mapM_singleton_eq_ok.1 hlists
  obtain ⟨t, ht, rfl⟩ := mapM_singleton_eq_ok.1 hlist
  exact ⟨t, Algorithm.mem_of_target ht, rfl⟩

/-- Without a value all targets are kept. -/
theorem chooseTargets_of_none (hc : c.Gives table columns)
    (hnone : columns.countP (Text.sameName · s.column) = 0) (targets : List String) :
    chooseTargets (some s) targets table (some c) = .ok targets := by
  obtain ⟨vs, hlength, hallowed⟩ := hc.allowedFor_eq s.column
  obtain rfl := List.length_eq_zero_iff.1 (hlength.trans hnone)
  rw [chooseTargets, hallowed]
  rfl

end Targets

/-! ## Nodes

A row that gives one strategy a value and the other none goes to several nodes, but not to all.  The
statement below leaves that case open. -/

section Nodes

variable {rule : ShardingRule} {r : TableRule} {d t : Strategy} {table : String}
  {columns : List String} {c : ShardingCondition} {nodes : List DataNode}

/-- What routing makes of a row that gives values to these columns: one node where each strategy's
column has one value, every node where neither has any. -/
structure GoesTo (r : TableRule) (d t : Strategy) (columns : List String)
    (nodes : List DataNode) : Prop where
  one : columns.countP (Text.sameName · d.column) = 1 →
    columns.countP (Text.sameName · t.column) = 1 → ∃ node ∈ r.nodes, nodes = [node]
  every : columns.countP (Text.sameName · d.column) = 0 →
    columns.countP (Text.sameName · t.column) = 0 → ∀ node, node ∈ nodes ↔ node ∈ r.nodes

theorem mem_nodes_of_mem_tablesIn {ds name : String} (h : name ∈ r.tablesIn ds) :
    DataNode.mk ds name ∈ r.nodes := by
  obtain ⟨node, hnode, rfl⟩ := List.mem_map.1 h
  obtain ⟨hnode, hds⟩ := List.mem_filter.1 hnode
  rwa [← of_decide_eq_true hds]

/-- The tables of the data sources of a rule are its nodes. -/
theorem mem_flatMap_tablesIn {n : DataNode} :
    (n ∈ r.dataSources.flatMap fun ds => (r.tablesIn ds).map (DataNode.mk ds)) ↔ n ∈ r.nodes := by
  rw [List.mem_flatMap]
  constructor
  · rintro ⟨ds, -, hn⟩
    obtain ⟨name, hname, rfl⟩ := List.mem_map.1 hn
    exact mem_nodes_of_mem_tablesIn hname
  · intro hn
    exact ⟨n.dataSource, mem_distinct.2 (List.mem_map_of_mem hn), List.mem_map.2
      ⟨n.table, List.mem_map_of_mem (List.mem_filter.2 ⟨hn, decide_eq_true rfl⟩), rfl⟩⟩

/-- **Strategies that keep all their targets keep all nodes.** -/
theorem exists_nodesFor_of_keeps {condition : Option ShardingCondition}
    (hdatabase : ∀ targets, chooseTargets (rule.databaseStrategy r) targets table condition =
      .ok targets)
    (htable : ∀ targets, chooseTargets (rule.tableStrategy r) targets table condition =
      .ok targets) :
    ∃ nodes, nodesFor rule r table condition = .ok nodes ∧ nodes.Nodup ∧
      ∀ n, n ∈ nodes ↔ n ∈ r.nodes := by
  have hlists : (r.dataSources.mapM fun ds =>
      (chooseTargets (rule.tableStrategy r) (r.tablesIn ds) table condition).map fun tables =>
        tables.map fun t => DataNode.mk ds t) =
      .ok (r.dataSources.map fun ds => (r.tablesIn ds).map (DataNode.mk ds)) :=
    mapM_eq_ok_map fun ds _ => by rw [htable]; rfl
  refine ⟨_, bind_eq_ok.2 ⟨_, hdatabase _, bind_eq_ok.2 ⟨_, hlists, rfl⟩⟩, nodup_distinct _,
    fun n => ?_⟩
  rw [mem_distinct, ← List.flatMap_def, mem_flatMap_tablesIn]

/-- **One value for each strategy's column leads to one node.** -/
theorem exists_node_of_nodesFor {v w : Value} (hd : rule.databaseStrategy r = some d)
    (ht : rule.tableStrategy r = some t) (hv : c.allowedFor table d.column = [.values [v]])
    (hw : c.allowedFor table t.column = [.values [w]])
    (h : nodesFor rule r table (some c) = .ok nodes) : ∃ node ∈ r.nodes, nodes = [node] := by
  obtain ⟨sources, hsources, h⟩ := bind_eq_ok.1 h
  obtain ⟨lists, hlists, h⟩ := bind_eq_ok.1 h
  cases h
  rw [hd] at hsources
  rw [ht] at hlists
  obtain ⟨ds, -, rfl⟩ := chooseTargets_of_one hv hsources
  obtain ⟨list, hlist, rfl⟩ := mapM_singleton_eq_ok.1 hlists
  obtain ⟨names, hnames, rfl⟩ := map_eq_ok.1 hlist
  obtain ⟨name, hname, rfl⟩ := chooseTargets_of_one hw hnames
  exact ⟨⟨ds, name⟩, mem_nodes_of_mem_tablesIn hname, rfl⟩

/-- **The nodes of a row**, from its condition. -/
theorem goesTo_of_nodesFor (hd : rule.databaseStrategy r = some d)
    (ht : rule.tableStrategy r = some t) (hc : c.Gives table columns)
    (h : nodesFor rule r table (some c) = .ok nodes) : GoesTo r d t columns nodes := by
  refine ⟨fun hone hone' => ?_, fun hnone hnone' => ?_⟩
  · obtain ⟨v, hv⟩ := allowedFor_of_one hc hone
    obtain ⟨w, hw⟩ := allowedFor_of_one hc hone'
    exact exists_node_of_nodesFor hd ht hv hw h
  · obtain ⟨every, hevery, -, hmem⟩ := exists_nodesFor_of_keeps
      (hd ▸ chooseTargets_of_none hc hnone) (ht ▸ chooseTargets_of_none hc hnone')
    obtain rfl := Except.ok.inj (h.symm.trans hevery)
    exact hmem

end Nodes

/-! ## The route of an INSERT

The conditions of the rows are taken one by one, and each has its list of nodes. -/

section Route

variable {rule moved : ShardingRule} {schema : Schema} {clock clock' : Clock} {sql : LogicSql}
  {insert : Insert} {conditions : ShardingConditions} {r : TableRule} {d t : Strategy}
  {route : Route}

/-- Conditions that give values can be satisfied. -/
theorem areNever_of_gives {α : Type} {rows : List α} {given : α → List String} {table : String}
    (hrows : rows ≠ [])
    (h : List.Forall₂ (fun row c => c.Gives table (given row)) rows conditions.conditions) :
    conditions.areNever = false := by
  obtain ⟨row, hrow⟩ := List.exists_mem_of_ne_nil _ hrows
  obtain ⟨c, hc, hgives⟩ := exists_mem_of_forall₂ h hrow
  refine Bool.and_eq_false_imp.2 fun _ => List.all_eq_false.2 ⟨c, hc, ?_⟩
  simp [hgives.isNever_eq_false]

/-- What routing derives from an INSERT of value rows. -/
theorem routingConditions_insert (hsql : sql.statement = .insert insert)
    (hselect : insert.select = none) :
    routingConditions rule schema clock sql =
      deriveInsert rule schema clock insert sql.parameters := by
  have hlast : needsLastOnly rule sql.statement = false := by
    rw [hsql, needsLastOnly]
    simp [hselect]
  rw [routingConditions, hlast, hsql]
  rfl

/-- An INSERT of value rows into a sharded table that is not broadcast goes to nodes of the
table. -/
theorem RoutePlan.choose_insert (hselect : insert.select = none)
    (hfind : rule.find? insert.table = some r) (hbroadcast : rule.isBroadcast insert.table = false)
    (hnever : conditions.areNever = false) :
    choose rule (.insert insert) conditions = oneTable insert.table [] := by
  have htables : (Statement.insert insert).tables = [insert.table] := by
    simp [Statement.tables, Statement.namedTables, Statement.distinctNames, hselect]
  have hsharded : rule.isSharded insert.table = true := by
    rw [ShardingRule.isSharded, hfind]
    rfl
  rw [choose_eq_ofDml rfl, htables, ofDml_singleton hsharded, hbroadcast, hnever]
  rfl

/-- The route of conditions that can be satisfied: a unit for each node in their lists. -/
theorem exists_lists_of_routeWith (hselect : insert.select = none)
    (hfind : rule.find? insert.table = some r) (hbroadcast : rule.isBroadcast insert.table = false)
    (hne : conditions.conditions ≠ []) (hnever : conditions.areNever = false)
    (h : routeWith rule (.insert insert) conditions = .ok route) :
    conditions.conditions.mapM (fun c => nodesFor rule r insert.table (some c)) =
        .ok route.conditionNodes ∧
      ∀ u, u ∈ route.units ↔ ∃ nodes ∈ route.conditionNodes, ∃ node ∈ nodes,
        u = RouteUnit.on node.dataSource [⟨insert.table, node.table⟩] := by
  rw [routeWith, RoutePlan.choose_insert hselect hfind hbroadcast hnever] at h
  obtain ⟨found, hfound, h⟩ := bind_eq_ok.1 h
  obtain ⟨_, -, h⟩ := bind_eq_ok.1 h
  cases h
  obtain ⟨⟨nodes, lists⟩, hnodes, hfound⟩ := bind_eq_ok.1 hfound
  cases hfound
  obtain ⟨hnil, -⟩ | ⟨-, hlists, hmem⟩ := tableNodes_cases hfind hnodes
  · exact absurd hnil hne
  refine ⟨hlists, fun u => ?_⟩
  simp only [Route.mem_units_addAll, List.mem_map, hmem]
  constructor
  · rintro (hu | ⟨node, ⟨nodes, hnodes, hnode⟩, rfl⟩)
    · cases hu
    · exact ⟨nodes, hnodes, node, hnode, rfl⟩
  · rintro ⟨nodes, hnodes, node, hnode, rfl⟩
    exact Or.inr ⟨node, ⟨nodes, hnodes, hnode⟩, rfl⟩

/-- **An inserted row goes to exactly one node if it gives one value to the column of each
strategy.**  The route of an INSERT of value rows lists the nodes of its rows, row by row, and has a
unit for each of them.  A value is a literal, a bound parameter, the present instant or a generated
key; a row without any goes to every node. -/
theorem conditionNodes_of_insert (hsql : sql.statement = .insert insert)
    (hselect : insert.select = none) (hvalues : insert.values ≠ [])
    (hfind : rule.find? insert.table = some r) (hbroadcast : rule.isBroadcast insert.table = false)
    (hd : rule.databaseStrategy r = some d) (ht : rule.tableStrategy r = some t)
    (h : shardingRoute rule schema clock sql = (.ok route, moved, clock')) :
    ∃ columns, insertColumns schema insert = .ok columns ∧
      (∀ cells ∈ insert.values, columns.length = cells.length) ∧
      List.Forall₂ (fun cells nodes => GoesTo r d t (insert.routedColumns rule columns cells) nodes)
        insert.values route.conditionNodes ∧
      ∀ u, u ∈ route.units ↔ ∃ nodes ∈ route.conditionNodes, ∃ node ∈ nodes,
        u = RouteUnit.on node.dataSource [⟨insert.table, node.table⟩] := by
  rw [shardingRoute] at h
  split at h
  · cases h
  rw [routingConditions_insert hsql hselect] at h
  obtain ⟨conditions, hconditions, hroute⟩ := bind_eq_ok.1 (congrArg Prod.fst h)
  obtain ⟨columns, hcolumns, hlength, hgives⟩ := deriveInsert_gives hselect hconditions
  have hne : conditions.conditions ≠ [] := fun hnil => by
    rw [hnil, List.forall₂_nil_right_iff] at hgives
    exact hvalues hgives
  rw [hsql] at hroute
  obtain ⟨hlists, hunits⟩ := exists_lists_of_routeWith hselect hfind hbroadcast hne
    (areNever_of_gives hvalues hgives) hroute
  refine ⟨columns, hcolumns, hlength, forall₂_of_mapM_eq_ok (fun cells c nodes hc hnodes => ?_)
    hgives hlists, hunits⟩
  exact goesTo_of_nodesFor hd ht hc hnodes

end Route

/-- Two orders: one of user 3, and one whose user and number only the database knows. -/
def insertOrders : Insert where
  table := "T_Order"
  columns := ["USER_ID", "order_id"]
  values := [[.parameter 0, .literal (.integer 4)], [.complex "f()", .complex "g()"]]
  select := none
  onDuplicate := []

/-- The known order goes to one node, the other to all four. -/
theorem conditionNodes_of_insertOrders : ∃ route moved clock first second,
    shardingRoute ordersAndItems ⟨[]⟩ (Clock.fixed 0)
        ⟨.insert insertOrders, "INSERT ...", [.integer 3]⟩ = (.ok route, moved, clock) ∧
    route.conditionNodes = [[first], second] ∧
    ∀ node, node ∈ second ↔ node ∈ [DataNode.mk "ds_0" "t_order_0", ⟨"ds_0", "t_order_1"⟩,
      ⟨"ds_1", "t_order_0"⟩, ⟨"ds_1", "t_order_1"⟩] := by
  obtain ⟨route, moved, clock, h⟩ : ∃ route moved clock, shardingRoute ordersAndItems ⟨[]⟩
      (Clock.fixed 0) ⟨.insert insertOrders, "INSERT ...", [.integer 3]⟩ =
        (.ok route, moved, clock) := ⟨_, _, _, rfl⟩
  have hvalues : insertOrders.values ≠ [] := List.cons_ne_nil _ _
  obtain ⟨columns, hcolumns, -, hrows, -⟩ :=
    conditionNodes_of_insert rfl rfl hvalues rfl rfl rfl rfl h
  cases hcolumns
  obtain ⟨nodes, rest, hfirst, hrest, hnodes⟩ := List.forall₂_cons_left_iff.1 hrows
  obtain ⟨second, more, hsecond, hmore, rfl⟩ := List.forall₂_cons_left_iff.1 hrest
  obtain rfl := List.forall₂_nil_left_iff.1 hmore
  obtain ⟨first, -, rfl⟩ := hfirst.one (by decide +kernel) (by decide +kernel)
  exact ⟨route, moved, clock, first, second, h, hnodes,
    hsecond.every (by decide +kernel) (by decide +kernel)⟩

end ScatterGather
