import ScatterGather.Execution.Unit
import ScatterGather.Proofs.Execution.Token
import ScatterGather.Proofs.ReadWrite.Choice
import ScatterGather.Proofs.Route.Coverage
import ScatterGather.Proofs.Route.Insertion

/-!
# Proofs/Route/Renaming — which logical tables a unit renames

A unit that sharding finds for a statement **renames** every table that has a rule to one of the
rule's nodes on the unit's data source (`RouteUnit.Renames`).  `isPlanned_of_route` says what units
each plan has: targets are picked from the nodes, and a combination picks one node per table.  The
tables of a statement have names that do not match, so the first table that a unit renames under a
name is the one that is asked for.  Read/write groups replace data sources and keep the tables.

There are two exceptions (`route_renames`).  A statement that goes to every node of several
tables gets a unit per node, which renames one table only; and where sharding finds no unit, the
only group or the sole data source takes the statement as it is.
-/

namespace ScatterGather

open Sharding

/-- The unit renames a table to a node of its rule, on the node's data source. -/
def RouteUnit.Renames (u : RouteUnit) (r : TableRule) (t : String) : Prop :=
  ∃ n ∈ r.nodes, u.actualTable? t = some n.table ∧
    Text.sameName u.dataSource.logic n.dataSource = true

/-- The tables that a statement goes to every node of. -/
def everyNodeTables (rule : ShardingRule) (statement : Statement) : List String :=
  match statement with
  | .dal _ => []
  | .ddl _ => statement.tables.filter fun t => rule.isSharded t || rule.isBroadcast t
  | .select _ | .insert _ | .update _ | .delete _ =>
    if rule.allBroadcast statement.tables then statement.tables else []

/-! ## Nodes

Every choice along the way, of a data source and of a table on it, is among what the rule
declares. -/

section Nodes

variable {rule : ShardingRule} {r : TableRule} {table : String}

/-- **A strategy only chooses some of its targets.** -/
theorem mem_of_chooseTargets {strategy : Option Strategy} {targets found : List String}
    {condition : Option ShardingCondition} {t : String}
    (h : chooseTargets strategy targets table condition = .ok found) (ht : t ∈ found) :
    t ∈ targets := by
  rw [chooseTargets.eq_def] at h
  split at h
  · split at h
    · obtain rfl := Except.ok.inj h
      exact ht
    · obtain ⟨lists, hlists, rfl⟩ := map_eq_ok.1 h
      obtain ⟨list, hlist, ht⟩ := List.mem_flatten.1 (mem_distinct.1 ht)
      obtain ⟨allowed, -, hallowed⟩ := exists_of_mem_mapM hlists hlist
      cases allowed with
      | values vs =>
        obtain ⟨v, -, hv⟩ := exists_of_mem_mapM hallowed ht
        exact Algorithm.mem_of_target hv
      | range range => exact Algorithm.mem_of_rangeTargets hallowed ht
  · obtain rfl := Except.ok.inj h
    exact ht

/-- **The nodes found for a condition are nodes of the rule.** -/
theorem mem_of_nodesFor {condition : Option ShardingCondition} {found : List DataNode}
    {n : DataNode} (h : nodesFor rule r table condition = .ok found) (hn : n ∈ found) :
    n ∈ r.nodes := by
  obtain ⟨sources, -, h⟩ := bind_eq_ok.1 h
  obtain ⟨lists, hlists, h⟩ := bind_eq_ok.1 h
  obtain rfl := Except.ok.inj h
  obtain ⟨list, hlist, hn⟩ := List.mem_flatten.1 (mem_distinct.1 hn)
  obtain ⟨ds, -, hds⟩ := exists_of_mem_mapM hlists hlist
  obtain ⟨names, hnames, rfl⟩ := map_eq_ok.1 hds
  obtain ⟨name, hname, rfl⟩ := List.mem_map.1 hn
  exact mem_nodes_of_mem_tablesIn (mem_of_chooseTargets hnames hname)

/-- The nodes found for a table are nodes of its rule. -/
theorem mem_of_tableNodes {conditions : ShardingConditions} {found : List DataNode}
    {lists : List (List DataNode)} {n : DataNode} (hr : rule.find? table = some r)
    (h : tableNodes rule table conditions = .ok (found, lists)) (hn : n ∈ found) : n ∈ r.nodes := by
  obtain ⟨-, hnodes⟩ | ⟨-, hlists, hmem⟩ := tableNodes_cases hr h
  · exact mem_of_nodesFor hnodes hn
  · obtain ⟨list, hlist, hn⟩ := (hmem n).1 hn
    obtain ⟨c, -, hc⟩ := exists_of_mem_mapM hlists hlist
    exact mem_of_nodesFor hc hn

end Nodes

/-! ## Units that sharding finds

What a unit renames depends on how the plan puts units together: one table, one node for each of
several tables, or a table at a time. -/

section Units

variable {rule : ShardingRule} {statement : Statement} {r : TableRule} {t ds : String}

theorem Route.mem_units_addAll_empty {units : List RouteUnit} {u : RouteUnit} :
    u ∈ (Route.empty.addAll units).units ↔ u ∈ units := by
  simp [mem_units_addAll, empty]

/-- **A unit renames a table to a node** if it renames tables of that name to nodes only, and at
least one. -/
theorem RouteUnit.renames_on {maps rest : List NameMap}
    (hsome : ∃ m ∈ maps, Text.sameName m.logic t = true)
    (hnodes : ∀ m ∈ maps, Text.sameName m.logic t = true → ⟨ds, m.actual⟩ ∈ r.nodes) :
    (RouteUnit.on ds (maps ++ rest)).Renames r t := by
  obtain ⟨m, hm⟩ : ∃ m, (maps.find? fun m => Text.sameName m.logic t) = some m := by
    rw [← Option.isSome_iff_exists, List.find?_isSome]
    exact hsome
  have hsame : Text.sameName m.logic t = true := by simpa using List.find?_some hm
  refine ⟨⟨ds, m.actual⟩, hnodes m (List.mem_of_find?_eq_some hm) hsame, ?_,
    Text.sameName_refl ds⟩
  rw [actualTable?, on, List.find?_append, hm]
  rfl

/-- A unit of a node renames the table to it. -/
theorem RouteUnit.renames_on_node {n : DataNode} (hn : n ∈ r.nodes) (rest : List NameMap) :
    (RouteUnit.on n.dataSource (⟨t, n.table⟩ :: rest)).Renames r t := by
  have hnodes : ∀ m ∈ [NameMap.mk t n.table], Text.sameName m.logic t = true →
      (⟨n.dataSource, m.actual⟩ : DataNode) ∈ r.nodes :=
    List.forall_mem_singleton.2 fun _ => hn
  exact renames_on ⟨_, List.mem_singleton_self _, Text.sameName_refl t⟩ hnodes

/-- A combination picks a node of every table. -/
theorem forall₂_of_mem_combinations {routed : List (String × List DataNode)} {maps : List NameMap}
    (h : maps ∈ combinations ds routed) :
    List.Forall₂ (fun m t => m.logic = t.1 ∧ (⟨ds, m.actual⟩ : DataNode) ∈ t.2) maps routed := by
  induction routed generalizing maps with
  | nil =>
    obtain rfl := List.mem_singleton.1 h
    exact .nil
  | cons t rest ih =>
    obtain ⟨n, hn, h⟩ := List.mem_flatMap.1 h
    obtain ⟨maps', hmaps', rfl⟩ := List.mem_map.1 h
    obtain ⟨hn, hds⟩ := List.mem_filter.1 hn
    refine .cons ⟨rfl, ?_⟩ (ih hmaps')
    rwa [← of_decide_eq_true hds]

/-- The maps rename tables, one each, to nodes that are found for them on a data source. -/
def PicksNodes (rule : ShardingRule) (conditions : ShardingConditions) (ds : String) :
    List NameMap → List String → Prop :=
  List.Forall₂ fun m t => m.logic = t ∧ ∃ nodes, tableNodes rule t conditions = .ok nodes ∧
    (⟨ds, m.actual⟩ : DataNode) ∈ nodes.1

/-- The units of a plan. -/
inductive IsPlanned (rule : ShardingRule) (conditions : ShardingConditions) :
    RoutePlan → RouteUnit → Prop where
  | everyNode {tables : List String} {t : String} {n : DataNode} (ht : t ∈ tables)
      (hn : n ∈ everyNodeOf rule t) :
    IsPlanned rule conditions (.everyNode tables) (.on n.dataSource [⟨t, n.table⟩])
  | everySource {ds : String} (hds : ds ∈ rule.dataSources) :
    IsPlanned rule conditions .everySource (.on ds [])
  | anySource {tables : List String} {ds : String} (hds : ds ∈ rule.dataSources.head?) :
    IsPlanned rule conditions (.anySource tables) (.on ds (unrenamed tables))
  | home {tables : List String} {ds : String} (hds : ds ∈ rule.singleDataSource?) :
    IsPlanned rule conditions (.home tables) (.on ds (unrenamed tables))
  | oneTable {t : String} {broadcast : List String} {n : DataNode}
      {found : List DataNode × List (List DataNode)}
      (hfound : tableNodes rule t conditions = .ok found) (hn : n ∈ found.1) :
    IsPlanned rule conditions (.oneTable t broadcast)
      (.on n.dataSource (⟨t, n.table⟩ :: unrenamed broadcast))
  | combined {tables broadcast : List String} {ds : String} {maps : List NameMap}
      (hne : tables ≠ []) (hpicked : PicksNodes rule conditions ds maps tables) :
    IsPlanned rule conditions (.combined tables broadcast) (.on ds (maps ++ unrenamed broadcast))

/-- **Routing a plan finds units of the plan.** -/
theorem isPlanned_of_route {plan : RoutePlan} {conditions : ShardingConditions} {isSelect : Bool}
    {route : Route} (h : plan.route rule conditions isSelect = .ok route) {u : RouteUnit}
    (hu : u ∈ route.units) : IsPlanned rule conditions plan u := by
  cases plan with
  | everyNode tables =>
    obtain rfl := Except.ok.inj h
    obtain ⟨t, ht, hu⟩ := List.mem_flatMap.1 (Route.mem_units_addAll_empty.1 hu)
    obtain ⟨n, hn, rfl⟩ := List.mem_map.1 hu
    exact .everyNode ht hn
  | everySource =>
    obtain rfl := Except.ok.inj h
    obtain ⟨ds, hds, rfl⟩ := List.mem_map.1 (Route.mem_units_addAll_empty.1 hu)
    exact .everySource hds
  | anySource tables =>
    obtain rfl := Except.ok.inj h
    obtain ⟨ds, hds, rfl⟩ := List.mem_map.1 (Route.mem_units_addAll_empty.1 hu)
    exact .anySource (Option.mem_toList.1 hds)
  | home tables =>
    obtain rfl := Except.ok.inj h
    obtain ⟨ds, hds, rfl⟩ := List.mem_map.1 (Route.mem_units_addAll_empty.1 hu)
    exact .home (Option.mem_toList.1 hds)
  | oneTable table broadcast =>
    obtain ⟨found, hfound, h⟩ := bind_eq_ok.1 h
    obtain rfl := Except.ok.inj h
    obtain ⟨n, hn, rfl⟩ := List.mem_map.1 (Route.mem_units_addAll_empty.1 hu)
    exact .oneTable hfound hn
  | combined tables broadcast =>
    -- Only here does a unit have several tables, one node each, all of them on its data source.
    obtain ⟨routed, hfound, hunits, -⟩ := RoutePlan.exists_routed_of_combined h
    rw [hunits] at hu
    obtain ⟨ds, hds, hu⟩ := List.mem_flatMap.1 (Route.mem_units_addAll_empty.1 hu)
    obtain ⟨maps, hmaps, rfl⟩ := List.mem_map.1 hu
    refine .combined ?_ ?_
    · rintro rfl
      obtain rfl := List.forall₂_nil_left_iff.1 hfound
      exact List.not_mem_nil hds
    · refine forall₂_of_common (forall₂_of_mem_combinations hmaps).flip hfound.flip ?_
      rintro f - m _ hm ⟨rfl, _, hnodes⟩
      exact ⟨hm.1, _, hnodes, hm.2⟩
  | nowhere =>
    obtain rfl := Except.ok.inj h
    cases hu

/-- **How a statement about rows of a table with a rule is sent.** -/
theorem RoutePlan.ofDml_cases {tables : List String} (never : Bool) (ht : t ∈ tables)
    (hsharded : rule.isSharded t = true) :
    (rule.allBroadcast tables = true ∧ ofDml rule tables never = .everyNode tables) ∨
      (∃ broadcast, ofDml rule tables never = .oneTable t broadcast) ∨
      (∃ broadcast, ofDml rule tables never = .combined (rule.shardedAmong tables) broadcast) ∨
      ofDml rule tables never = .nowhere := by
  have hmem : t ∈ rule.shardedAmong tables := List.mem_filter.2 ⟨ht, hsharded⟩
  generalize hplan : ofDml rule tables never = plan
  cases ofDml_eq_iff.1 hplan with
  | anySource hnil => exact absurd (hnil ▸ ht) List.not_mem_nil
  | everyNode hall => exact .inl ⟨hall, rfl⟩
  | home _ _ hnone => exact absurd (hnone ▸ hmem) List.not_mem_nil
  | nowhere => exact .inr (.inr (.inr rfl))
  | oneTable _ hone =>
    obtain rfl := List.mem_singleton.1 (hone ▸ hmem)
    exact .inr (.inl ⟨_, rfl⟩)
  | combined => exact .inr (.inr (.inl ⟨_, rfl⟩))

/-- A statement with such tables goes to their nodes. -/
theorem RoutePlan.choose_eq_everyNode (conditions : ShardingConditions)
    (h : everyNodeTables rule statement ≠ []) :
    RoutePlan.choose rule statement conditions = .everyNode (everyNodeTables rule statement) := by
  have hdml : ∀ never, (if rule.allBroadcast statement.tables then statement.tables else []) ≠ [] →
      RoutePlan.ofDml rule statement.tables never =
        .everyNode (if rule.allBroadcast statement.tables then statement.tables else []) := by
    intro never hne
    cases hall : rule.allBroadcast statement.tables with
    | false => simp [hall] at hne
    | true => exact RoutePlan.ofDml_eq_iff.2 (.everyNode hall)
  cases statement with
  | dal _ => exact absurd rfl h
  | ddl d =>
    rw [RoutePlan.choose, RoutePlan.ofDdl]
    split
    · next hnil => exact absurd hnil h
    · rfl
  | select _ | insert _ | update _ | delete _ => exact hdml _ h

/-- **How a statement about a table with a rule is sent.** -/
theorem RoutePlan.choose_cases (conditions : ShardingConditions) (ht : t ∈ statement.tables)
    (hsharded : rule.isSharded t = true) :
    (t ∈ everyNodeTables rule statement ∧ RoutePlan.choose rule statement conditions =
        .everyNode (everyNodeTables rule statement)) ∨
      (∃ broadcast, RoutePlan.choose rule statement conditions = .oneTable t broadcast) ∨
      (∃ broadcast, RoutePlan.choose rule statement conditions =
        .combined (rule.shardedAmong statement.tables) broadcast) ∨
      RoutePlan.choose rule statement conditions = .nowhere := by
  cases statement with
  | dal _ => cases ht
  | ddl d =>
    have hmem : t ∈ everyNodeTables rule (.ddl d) := List.mem_filter.2 ⟨ht, by rw [hsharded]; rfl⟩
    exact .inl ⟨hmem, choose_eq_everyNode conditions (List.ne_nil_of_mem hmem)⟩
  | select _ | insert _ | update _ | delete _ =>
    refine (RoutePlan.ofDml_cases conditions.areNever ht hsharded).imp_left ?_
    rintro ⟨hall, hplan⟩
    rw [everyNodeTables, if_pos hall]
    exact ⟨ht, hplan⟩

/-- **A combination renames every table that was combined** to one of the nodes found for it. -/
theorem renames_of_picksNodes {tables : List String} {conditions : ShardingConditions}
    {maps rest : List NameMap} (hnames : ∀ t' ∈ tables, Text.sameName t' t = true → t' = t)
    (hpicked : PicksNodes rule conditions ds maps tables) (ht : t ∈ tables)
    (hr : rule.find? t = some r) : (RouteUnit.on ds (maps ++ rest)).Renames r t := by
  refine RouteUnit.renames_on ?_ fun m hm hsame => ?_
  · obtain ⟨m, hm, hlogic, -⟩ := exists_mem_of_forall₂ hpicked.flip ht
    exact ⟨m, hm, by rw [hlogic]; exact Text.sameName_refl t⟩
  · obtain ⟨t', ht', hlogic, nodes, hnodes, hnode⟩ := exists_mem_of_forall₂ hpicked hm
    obtain rfl : t' = t := hnames t' ht' (by rwa [hlogic] at hsame)
    exact mem_of_tableNodes hr hnodes hnode

/-- **A unit that sharding finds renames every table with a rule**, unless the statement goes to
every node of several tables. -/
theorem renames_of_route {conditions : ShardingConditions} {route : Route}
    (hone : (everyNodeTables rule statement).length ≤ 1)
    (h : (RoutePlan.choose rule statement conditions).route rule conditions statement.isSelect =
      .ok route) {u : RouteUnit} (hu : u ∈ route.units) (ht : t ∈ statement.tables)
    (hr : rule.find? t = some r) : u.Renames r t := by
  have hsharded : rule.isSharded t = true := by
    rw [ShardingRule.isSharded, hr]
    rfl
  obtain ⟨hmem, hplan⟩ | ⟨broadcast, hplan⟩ | ⟨broadcast, hplan⟩ | hplan :=
    RoutePlan.choose_cases conditions ht hsharded
  · -- the one table that goes to every node is the one asked for
    obtain ⟨only, honly⟩ : ∃ only, everyNodeTables rule statement = [only] :=
      List.length_eq_one_iff.1 (Nat.le_antisymm hone (List.length_pos_of_mem hmem))
    rw [honly] at hmem
    obtain rfl := List.mem_singleton.1 hmem
    rw [hplan, honly] at h
    cases isPlanned_of_route h hu with
    | everyNode ht' hn =>
      obtain rfl := List.mem_singleton.1 ht'
      rw [everyNodeOf, hr] at hn
      exact RouteUnit.renames_on_node hn []
  · rw [hplan] at h
    cases isPlanned_of_route h hu with
    | oneTable hfound hn => exact RouteUnit.renames_on_node (mem_of_tableNodes hr hfound hn) _
  · rw [hplan] at h
    cases isPlanned_of_route h hu with
    | combined hne hpicked =>
      refine renames_of_picksNodes (fun t' ht' hsame => ?_) hpicked
        (List.mem_filter.2 ⟨ht, hsharded⟩) hr
      exact Statement.eq_of_sameName (List.mem_filter.1 ht').1 ht hsame
  · rw [hplan] at h
    cases isPlanned_of_route h hu

/-- **A unit that goes to every node of several tables renames one of them.** -/
theorem renames_one_of_route {conditions : ShardingConditions} {route : Route}
    (hmany : everyNodeTables rule statement ≠ [])
    (h : (RoutePlan.choose rule statement conditions).route rule conditions statement.isSelect =
      .ok route) {u : RouteUnit} (hu : u ∈ route.units) :
    ∃ t ∈ everyNodeTables rule statement, ∃ actual, u.tables = [⟨t, actual⟩] := by
  rw [RoutePlan.choose_eq_everyNode conditions hmany] at h
  cases isPlanned_of_route h hu with
  | everyNode ht hn => exact ⟨_, ht, _, rfl⟩

end Units

/-! ## Units of the chain

Groups send units elsewhere, and leave alone what they rename. -/

section Chain

variable {topology : Option Topology} {statement : Statement} {state : ReplicaState}

/-- A unit with the tables of another one, on the same data source or a member of the group that it
names. -/
def RouteUnit.IsSent (u v : RouteUnit) : Prop :=
  u.tables = v.tables ∧ Text.sameName u.dataSource.logic v.dataSource.logic = true

/-- **Groups keep the tables of the units.** -/
theorem exists_isSent_of_mem_replaceGroups {units : List RouteUnit} :
    ∀ u ∈ (replaceGroups topology statement state units).1, ∃ v ∈ units, u.IsSent v := by
  induction units generalizing state with
  | nil => exact fun u hu => nomatch hu
  | cons v rest ih =>
    have hrest : ∀ state : ReplicaState, ∀ u ∈ (replaceGroups topology statement state rest).1,
        ∃ w ∈ v :: rest, u.IsSent w :=
      fun state u hu => (ih u hu).imp fun _ h => ⟨List.mem_cons_of_mem v h.1, h.2⟩
    rw [replaceGroups]
    split
    · refine List.forall_mem_cons.2 ⟨⟨v, List.mem_cons_self, rfl, Text.sameName_refl _⟩, hrest _⟩
    · next group hgroup =>
      have hsame : Text.sameName group.name v.dataSource.logic = true := by
        simpa using List.find?_some hgroup
      exact List.forall_mem_cons.2 ⟨⟨v, List.mem_cons_self, rfl, hsame⟩, hrest _⟩

/-- The groups send as many units as there are. -/
theorem length_replaceGroups {units : List RouteUnit} :
    (replaceGroups topology statement state units).1.length = units.length := by
  induction units generalizing state with
  | nil => rfl
  | cons v rest ih =>
    rw [replaceGroups]
    split <;> simp [ih]

/-- The units of `route` are sent as those of `through`, or there are none and nothing is
renamed. -/
def SendsUnits (route through : Route) : Prop :=
  (route.units ≠ [] ∧ through.units ≠ [] ∧ ∀ u ∈ through.units, ∃ v ∈ route.units, u.IsSent v) ∨
    route.units = [] ∧ ∀ u ∈ through.units, u.tables = []

/-- A route is sent as it is where there are no groups. -/
theorem sendsUnits_self (route : Route) : SendsUnits route route := by
  by_cases hne : route.units = []
  · exact .inr ⟨hne, fun u hu => absurd (hne ▸ hu) List.not_mem_nil⟩
  · exact .inl ⟨hne, hne, fun u hu => ⟨u, hu, rfl, Text.sameName_refl _⟩⟩

/-- **The groups send the units of a route**, or take a route without units as it is. -/
theorem sendsUnits_throughGroups (route : Route) :
    SendsUnits route (throughGroups topology statement state route).1 := by
  obtain ⟨hne, -, hthrough⟩ | ⟨hnil, _, -, -, hthrough⟩ | ⟨hnil, -, -, hthrough⟩ :=
    throughGroups_cases topology statement state route
  all_goals rw [hthrough]
  · have hlength : (replaceGroups topology statement state route.units).1.length =
        route.units.length := length_replaceGroups
    refine .inl ⟨hne, ?_, exists_isSent_of_mem_replaceGroups⟩
    exact List.ne_nil_of_length_pos (hlength ▸ List.length_pos_of_ne_nil hne)
  · exact .inr ⟨hnil, List.forall_mem_singleton.2 rfl⟩
  · exact .inr ⟨hnil, fun u hu => absurd hu List.not_mem_nil⟩

/-- **A sole data source** takes a statement without units as it is. -/
theorem SendsUnits.orSoleSource {route through : Route} (h : SendsUnits route through)
    (dataSources : List String) : SendsUnits route (orSoleSource dataSources through) := by
  obtain heq | ⟨hnil, sole, -, hsole⟩ := orSoleSource_cases dataSources through
  · rwa [heq]
  · obtain ⟨-, hne, -⟩ | ⟨hroute, -⟩ := h
    · exact absurd hnil hne
    · refine .inr ⟨hroute, ?_⟩
      rw [hsole]
      exact List.forall_mem_singleton.2 rfl

end Chain

section Routing

variable {routers : Routers} {rule : ShardingRule} {metadata : Metadata} {session : Session}
  {sql : LogicSql} {route : Route}

/-- **The chain sends the units that sharding finds**, or one that renames nothing. -/
theorem exists_sharded_of_route (hrule : routers.sharding = some rule)
    (h : (routers.route metadata session sql).result = .ok route) :
    ∃ sharded, (shardingRoute rule metadata.schema routers.clock sql).1 = .ok sharded ∧
      SendsUnits sharded route := by
  rw [Routers.route, Routers.routeSharding, hrule] at h
  dsimp only at h
  generalize shardingRoute rule metadata.schema routers.clock sql = found at h ⊢
  obtain ⟨result, moved, clock⟩ := found
  cases result with
  | error e => cases h
  | ok sharded =>
    obtain rfl := Except.ok.inj h
    refine ⟨sharded, rfl, SendsUnits.orSoleSource ?_ _⟩
    rw [Routers.routeGroups]
    split
    · exact sendsUnits_self sharded
    · exact sendsUnits_throughGroups sharded

/-- What sharding finds is the route of the plan under the conditions of the statement. -/
theorem exists_conditions_of_shardingRoute {schema : Schema} {clock : Clock} {sharded : Route}
    (h : (shardingRoute rule schema clock sql).1 = .ok sharded) :
    ∃ conditions planned, (routingConditions rule schema clock sql).result = .ok conditions ∧
      (RoutePlan.choose rule sql.statement conditions).route rule conditions
        sql.statement.isSelect = .ok planned ∧ sharded.units = planned.units := by
  rw [shardingRoute] at h
  split at h
  · cases h
  · obtain ⟨conditions, hconditions, h⟩ := bind_eq_ok.1 h
    obtain ⟨planned, hplanned, h⟩ := bind_eq_ok.1 h
    obtain ⟨-, -, h⟩ := bind_eq_ok.1 h
    obtain rfl := Except.ok.inj h
    exact ⟨conditions, planned, hconditions, hplanned, rfl⟩

/-- A unit that is sent elsewhere renames what it did. -/
theorem RouteUnit.IsSent.renames {u v : RouteUnit} {r : TableRule} {t : String} (h : u.IsSent v)
    (hv : v.Renames r t) : u.Renames r t := by
  obtain ⟨htables, hsource⟩ := h
  obtain ⟨n, hn, hactual, hlogic⟩ := hv
  refine ⟨n, hn, ?_, Text.sameName_trans hsource hlogic⟩
  rw [actualTable?, htables]
  exact hactual

/-- What runs on the data sources is the SQL of units, renamed. -/
theorem exists_of_mem_executionUnits {dialect : Dialect} {units : List ExecutionUnit}
    (h : executionUnits dialect sql route = .ok units) {x : ExecutionUnit} (hx : x ∈ units) :
    ∃ u ∈ route.units, ∃ text,
      x.dataSource = u.dataSource.actual ∧ x.sql = renameTables u text := by
  have hof : ∀ (text : String) (parameters : List Value), (Except.ok (route.units.map fun u =>
      ⟨u.dataSource.actual, renameTables u text, parameters⟩) : Except Error _) = .ok units →
      ∃ u ∈ route.units, ∃ text,
        x.dataSource = u.dataSource.actual ∧ x.sql = renameTables u text := by
    intro text parameters h
    obtain rfl := Except.ok.inj h
    obtain ⟨u, hu, rfl⟩ := List.mem_map.1 hx
    exact ⟨u, hu, text, rfl, rfl⟩
  rw [executionUnits] at h
  split at h
  · exact nomatch h
  · dsimp only at h
    split at h
    · obtain ⟨⟨text, parameters⟩, -, h⟩ := bind_eq_ok.1 h
      exact hof text parameters h
    · exact hof sql.sql sql.parameters h

/-- The SQL that runs for a unit names a table only where an actual name does, or after an actual
name has opened a literal. -/
def ExecutionUnit.NamesActual (x : ExecutionUnit) (u : RouteUnit) (t : String) : Prop :=
  x.dataSource = u.dataSource.actual ∧ (mentions x.sql t = true →
    ∃ m ∈ u.tables, mentions m.actual t = true ∨ SqlToken.opensLiteral m.actual.toList = true)

/-- **No logical table with a rule is left in the SQL of a shard.**  Where sharding finds units for
a statement and it does not go to every node of several tables, every unit renames every table of
the statement that has a rule to a node of it, so the SQL that runs names the table only as part of
an actual name.  A unit that goes to every node of several tables renames one of them, and where
sharding finds no unit nothing is renamed. -/
theorem route_renames (hrule : routers.sharding = some rule)
    (hroute : (routers.route metadata session sql).result = .ok route) :
    ∃ sharded, (shardingRoute rule metadata.schema routers.clock sql).1 = .ok sharded ∧
      (sharded.units ≠ [] → (everyNodeTables rule sql.statement).length ≤ 1 →
        (∀ u ∈ route.units, ∀ t ∈ sql.statement.tables, ∀ r ∈ rule.find? t, u.Renames r t) ∧
        ∀ dialect units, executionUnits dialect sql route = .ok units → ∀ x ∈ units,
          ∃ u ∈ route.units, ∀ t ∈ sql.statement.tables, rule.isSharded t = true →
            x.NamesActual u t) ∧
      (sharded.units ≠ [] → 1 < (everyNodeTables rule sql.statement).length →
        ∀ u ∈ route.units, ∃ t ∈ everyNodeTables rule sql.statement, ∃ actual,
          u.tables = [⟨t, actual⟩]) ∧
      (sharded.units = [] → ∀ u ∈ route.units, u.tables = []) := by
  obtain ⟨sharded, hsharded, hsends⟩ := exists_sharded_of_route hrule hroute
  obtain ⟨conditions, planned, -, hplanned, hunits⟩ := exists_conditions_of_shardingRoute hsharded
  refine ⟨sharded, hsharded, fun hne hone => ?_, fun hne hmany u hu => ?_, fun hnil => ?_⟩
  · obtain ⟨-, -, hsent⟩ := hsends.resolve_right fun h => hne h.1
    have hrenames : ∀ u ∈ route.units, ∀ t ∈ sql.statement.tables, ∀ r ∈ rule.find? t,
        u.Renames r t := by
      intro u hu t ht r hr
      obtain ⟨v, hv, hsent⟩ := hsent u hu
      exact hsent.renames (renames_of_route hone hplanned (hunits ▸ hv) ht hr)
    refine ⟨hrenames, fun dialect units hexec x hx => ?_⟩
    obtain ⟨u, hu, text, hds, hsql⟩ := exists_of_mem_executionUnits hexec hx
    refine ⟨u, hu, fun t ht hrt => ⟨hds, fun hmentions => ?_⟩⟩
    obtain ⟨r, hr⟩ := Option.isSome_iff_exists.1 hrt
    obtain ⟨n, -, hactual, -⟩ := hrenames u hu t ht r hr
    rw [hsql] at hmentions
    -- If a logical name is left in the text, it is part of an actual name that was put in.
    exact mentions_renameTables (by rw [hactual]; rfl) hmentions
  · obtain ⟨-, -, hsent⟩ := hsends.resolve_right fun h => hne h.1
    obtain ⟨v, hv, hsent, -⟩ := hsent u hu
    rw [hsent]
    exact renames_one_of_route (List.ne_nil_of_length_pos (Nat.zero_lt_of_lt hmany)) hplanned
      (hunits ▸ hv)
  · exact (hsends.resolve_left fun h => h.1 hnil).2

end Routing

/-- Orders and items, the second data source being a group of a primary and a replica. -/
def ordersThroughGroup : Routers where
  sharding := some ordersAndItems
  clock := .fixed 0
  readWrite := some ⟨[⟨"ds_1", "primary_1", ["replica_1"], "turns", .roundRobin [], none⟩]⟩
  topology := none
  source := ⟨0⟩

/-- Both tables emptied at once. -/
def emptyBoth : LogicSql :=
  ⟨.ddl ⟨.truncateTable, ["t_order", "t_item"], none⟩, "TRUNCATE TABLE t_order, t_item", []⟩

/-- A join is sent under actual names only; of two tables that are emptied at once every unit keeps
the logical name of one. -/
theorem route_renames_ordersOfUser :
    (∃ route, (ordersThroughGroup.route ⟨⟨[]⟩, [], .mySQL⟩ .fresh ordersOfUser).result = .ok route ∧
      route.units.length = 4 ∧
      (∀ u ∈ route.units, ∀ t ∈ ordersOfUser.statement.tables, ∀ r ∈ ordersAndItems.find? t,
        u.Renames r t) ∧
      ∀ dialect units, executionUnits dialect ordersOfUser route = .ok units → ∀ x ∈ units,
        ∃ u ∈ route.units, ∀ t ∈ ordersOfUser.statement.tables,
          ordersAndItems.isSharded t = true → x.NamesActual u t) ∧
    ∃ route, (ordersThroughGroup.route ⟨⟨[]⟩, [], .mySQL⟩ .fresh emptyBoth).result = .ok route ∧
      route.units.length = 8 ∧
      ∀ u ∈ route.units, ∃ t ∈ ["t_order", "t_item"], ∃ actual, u.tables = [⟨t, actual⟩] := by
  have hjoin : ∃ route sharded,
      (ordersThroughGroup.route ⟨⟨[]⟩, [], .mySQL⟩ .fresh ordersOfUser).result = .ok route ∧
      (shardingRoute ordersAndItems ⟨[]⟩ (Clock.fixed 0) ordersOfUser).1 = .ok sharded ∧
      route.units.length = 4 ∧ sharded.units.length = 4 :=
    ⟨_, _, rfl, rfl, rfl, rfl⟩
  have hempty : ∃ route sharded,
      (ordersThroughGroup.route ⟨⟨[]⟩, [], .mySQL⟩ .fresh emptyBoth).result = .ok route ∧
      (shardingRoute ordersAndItems ⟨[]⟩ (Clock.fixed 0) emptyBoth).1 = .ok sharded ∧
      route.units.length = 8 ∧ sharded.units.length = 8 :=
    ⟨_, _, rfl, rfl, rfl, rfl⟩
  obtain ⟨route, sharded, hroute, hsharded, hlength, hunits⟩ := hjoin
  obtain ⟨route', sharded', hroute', hsharded', hlength', hunits'⟩ := hempty
  refine ⟨⟨route, hroute, hlength, ?_⟩, route', hroute', hlength', ?_⟩
  · obtain ⟨found, hfound, hrenames, -⟩ := route_renames rfl hroute
    obtain rfl := Except.ok.inj (hsharded.symm.trans hfound)
    exact hrenames (List.ne_nil_of_length_pos (by omega)) (by decide)
  · obtain ⟨found, hfound, -, hone, -⟩ := route_renames rfl hroute'
    obtain rfl := Except.ok.inj (hsharded'.symm.trans hfound)
    exact hone (List.ne_nil_of_length_pos (by omega)) (by decide)

end ScatterGather
