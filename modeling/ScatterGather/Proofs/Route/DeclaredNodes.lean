import ScatterGather.Proofs.Route.Joins

/-!
# Proofs/Route/DeclaredNodes — routing names declared nodes only

A rule that passes its check is **closed**: its nodes are on its data sources, and so is the home of
tables without a rule (`IsClosed`).  A unit is **declared** (`RouteUnit.IsDeclared`) if every table
with a rule that it renames goes to a node of the rule, on the data source of the unit.

Targets are picked from the nodes, so only a table that keeps its name could go astray: a broadcast
table that has a rule as well.  The plan of a statement renames such a table before it keeps its
name (`RoutePlan.suits_choose`), and the first name counts.  `declared_of_route` says this of every
statement under any conditions, and that a statement about one sharded table goes to each of its
nodes if there are none.
-/

namespace ScatterGather

open Sharding

/-! ## Closed rules

The check goes through the rule once, when it is built.  Every later lookup only picks from what was
checked. -/

namespace ShardingRule

/-- **A loop that only goes on or fails** goes on at every item. -/
theorem exists_of_forIn_eq_ok {ε α : Type} {f : α → Except ε (ForInStep Unit)} {items : List α}
    (h : (forIn items () fun a _ => f a) = .ok ())
    (hon : ∀ a step, f a = .ok step → step = .yield ()) : ∀ a ∈ items, ∃ step, f a = .ok step := by
  induction items with
  | nil => exact fun a ha => absurd ha List.not_mem_nil
  | cons a rest ih =>
    rw [List.forIn_cons] at h
    obtain ⟨step, hstep, h⟩ := bind_eq_ok.1 h
    obtain rfl := hon a step hstep
    exact List.forall_mem_cons.2 ⟨⟨_, hstep⟩, ih h⟩

/-- Nodes and the home of tables without a rule are on known data sources. -/
structure IsClosed (rule : ShardingRule) : Prop where
  nodes : ∀ r ∈ rule.tableRules, ∀ n ∈ r.nodes, n.dataSource ∈ rule.dataSources
  home : ∀ ds ∈ rule.defaultDataSource, ds ∈ rule.dataSources

/-- **A rule that passes the check is closed.** -/
theorem isClosed_of_validate {rule : ShardingRule} (h : rule.validate = .ok ()) :
    rule.IsClosed := by
  obtain ⟨⟨⟩, hnodes, h⟩ := bind_eq_ok.1 h
  constructor
  · intro r hr
    obtain ⟨step, hstep⟩ := exists_of_forIn_eq_ok hnodes (fun r step hstep => by
      split at hstep
      · cases hstep
      · exact (Except.ok.inj hstep).symm) r hr
    cases hstray : strayNode? rule.dataSources r with
    | some n =>
      rw [hstray] at hstep
      cases hstep
    | none => simpa [strayNode?] using hstray
  · intro ds hds
    rw [Option.mem_def.1 hds] at h
    dsimp only at h
    by_contra hstray
    rw [if_pos hstray] at h
    cases h

section Routing

variable {rule : ShardingRule} {table : String}

/-- A data source that is known, under no other name. -/
def Knows (rule : ShardingRule) (name : NameMap) : Prop :=
  ∃ ds ∈ rule.dataSources, name = ⟨ds, ds⟩

/-- A table that has a rule has its nodes on known data sources. -/
theorem IsClosed.mem_of_find? (h : rule.IsClosed) {r : TableRule} (hr : rule.find? table = some r)
    {n : DataNode} (hn : n ∈ r.nodes) : n.dataSource ∈ rule.dataSources :=
  h.nodes r (List.mem_of_find?_eq_some hr) n hn

/-- The nodes found for a table are on known data sources. -/
theorem IsClosed.mem_of_tableNodes (h : rule.IsClosed) {conditions : ShardingConditions}
    {found : List DataNode × List (List DataNode)}
    (hfound : tableNodes rule table conditions = .ok found) :
    ∀ n ∈ found.1, n.dataSource ∈ rule.dataSources := by
  intro n hn
  cases hr : rule.find? table with
  | none =>
    rw [tableNodes, hr] at hfound
    obtain rfl := Except.ok.inj hfound
    cases hn
  | some r => exact h.mem_of_find? hr (ScatterGather.mem_of_tableNodes hr hfound hn)

/-- **The nodes that routing finds are on known data sources.** -/
theorem IsClosed.knows_of_route (h : rule.IsClosed) {plan : RoutePlan}
    {conditions : ShardingConditions} {isSelect : Bool} {route : Route}
    (hroute : plan.route rule conditions isSelect = .ok route) :
    ∀ u ∈ route.units, rule.Knows u.dataSource := by
  intro u hu
  cases isPlanned_of_route hroute hu with
  | everyNode ht hn =>
    refine ⟨_, ?_, rfl⟩
    rw [everyNodeOf] at hn
    split at hn
    · next r hr => exact h.mem_of_find? hr hn
    · obtain ⟨ds, hds, rfl⟩ := List.mem_map.1 hn
      exact hds
  | everySource hds => exact ⟨_, hds, rfl⟩
  | anySource hds => exact ⟨_, List.mem_of_mem_head? hds, rfl⟩
  | home hds =>
    refine ⟨_, ?_, rfl⟩
    rw [singleDataSource?.eq_def] at hds
    split at hds
    · next hdefault =>
      obtain rfl := Option.some.inj hds
      exact h.home _ hdefault
    · next honly =>
      obtain rfl := Option.some.inj hds
      exact honly ▸ List.mem_singleton_self _
    · cases hds
  | oneTable hfound hn => exact ⟨_, h.mem_of_tableNodes hfound _ hn, rfl⟩
  | combined hne hpicked =>
    obtain ⟨t, ht⟩ := List.exists_mem_of_ne_nil _ hne
    obtain ⟨m, -, -, nodes, hnodes, hnode⟩ := exists_mem_of_forall₂ hpicked.flip ht
    exact ⟨_, h.mem_of_tableNodes hnodes _ hnode, rfl⟩

end Routing

end ShardingRule

/-! ## Declared units

A unit renames tables one after the other and the first entry for a name counts, so the order of
renaming matters where a table is both sharded and broadcast. -/

/-- Every table with a rule that the unit renames goes to a node of the rule, on the data source of
the unit. -/
def RouteUnit.IsDeclared (rule : ShardingRule) (u : RouteUnit) : Prop :=
  ∀ t r, rule.find? t = some r → ∀ actual, u.actualTable? t = some actual →
    (⟨u.dataSource.actual, actual⟩ : DataNode) ∈ r.nodes

/-- The plan is one for the rule: a sharded table that keeps its name is renamed before. -/
def RoutePlan.Suits (rule : ShardingRule) : RoutePlan → Prop
  | .anySource tables | .home tables => ∀ t ∈ tables, rule.isSharded t = false
  | .oneTable table broadcast => ∀ t ∈ broadcast, rule.isSharded t = true → t = table
  | .combined tables broadcast => ∀ t ∈ broadcast, rule.isSharded t = true → t ∈ tables
  | .everyNode _ | .everySource | .nowhere => True

section Declared

variable {rule : ShardingRule} {statement : Statement} {conditions : ShardingConditions}
  {route : Route} {u : RouteUnit} {t ds : String}

theorem ShardingRule.find?_congr {t' : String} (h : Text.sameName t t' = true) :
    rule.find? t = rule.find? t' := by
  simp only [find?, Text.sameName_congr h]

/-- **A unit is declared** if it renames tables to nodes only, and then keeps the names of no
sharded tables but those. -/
theorem RouteUnit.isDeclared_on {maps : List NameMap} {kept : List String}
    (hmaps : ∀ m ∈ maps, ∀ r, rule.find? m.logic = some r → (⟨ds, m.actual⟩ : DataNode) ∈ r.nodes)
    (hkept : ∀ t ∈ kept, rule.isSharded t = true → ∃ m ∈ maps, m.logic = t) :
    (RouteUnit.on ds (maps ++ unrenamed kept)).IsDeclared rule := by
  intro t r hr actual hactual
  obtain ⟨m, hm, rfl⟩ := Option.map_eq_some_iff.1 hactual
  have hsame : Text.sameName m.logic t = true := by simpa using List.find?_some hm
  have hlogic : rule.find? m.logic = some r := (ShardingRule.find?_congr hsame).trans hr
  rw [RouteUnit.on, List.find?_append] at hm
  cases hfirst : maps.find? fun m => Text.sameName m.logic t with
  | some first =>
    rw [hfirst] at hm
    obtain rfl := Option.some.inj hm
    exact hmaps _ (List.mem_of_find?_eq_some hfirst) r hlogic
  | none =>
    rw [hfirst, Option.none_or] at hm
    obtain ⟨name, hname, rfl⟩ := List.mem_map.1 (List.mem_of_find?_eq_some hm)
    obtain ⟨renamed, hrenamed, hlogic⟩ := hkept name hname (Option.isSome_iff_exists.2 ⟨r, hlogic⟩)
    exact absurd (hlogic ▸ hsame) (List.find?_eq_none.1 hfirst renamed hrenamed)

/-- A unit that renames one table to a node is declared. -/
theorem RouteUnit.isDeclared_on_node {n : DataNode} {kept : List String}
    (hn : ∀ r, rule.find? t = some r → n ∈ r.nodes)
    (hkept : ∀ t' ∈ kept, rule.isSharded t' = true → t' = t) :
    (RouteUnit.on n.dataSource (⟨t, n.table⟩ :: unrenamed kept)).IsDeclared rule := by
  have hmaps : ∀ m ∈ [NameMap.mk t n.table], ∀ r, rule.find? m.logic = some r →
      (⟨n.dataSource, m.actual⟩ : DataNode) ∈ r.nodes := List.forall_mem_singleton.2 hn
  exact isDeclared_on hmaps fun t' ht' hsharded =>
    ⟨_, List.mem_singleton_self _, (hkept t' ht' hsharded).symm⟩

/-- The plan of a statement about rows suits the rule. -/
theorem RoutePlan.suits_ofDml (rule : ShardingRule) (tables : List String) (never : Bool) :
    (RoutePlan.ofDml rule tables never).Suits rule := by
  have hmem : ∀ t ∈ tables.filter rule.isBroadcast, rule.isSharded t = true →
      t ∈ rule.shardedAmong tables := fun t ht hsharded =>
    List.mem_filter.2 ⟨(List.mem_filter.1 ht).1, hsharded⟩
  generalize hplan : RoutePlan.ofDml rule tables never = plan
  cases RoutePlan.ofDml_eq_iff.1 hplan with
  | anySource => exact fun t ht => absurd ht List.not_mem_nil
  | everyNode | nowhere => trivial
  | home _ _ hnone => exact fun t ht => Bool.eq_false_iff.2 (List.filter_eq_nil_iff.1 hnone t ht)
  | oneTable _ hone =>
    exact fun t ht hsharded => List.mem_singleton.1 (hone ▸ hmem t ht hsharded)
  | combined => exact hmem

/-- **The plan of a statement suits the rule.** -/
theorem RoutePlan.suits_choose (rule : ShardingRule) (statement : Statement)
    (conditions : ShardingConditions) :
    (RoutePlan.choose rule statement conditions).Suits rule := by
  cases hdml : statement.isDml with
  | false =>
    obtain hplan | ⟨_, hplan⟩ := RoutePlan.choose_of_not_isDml rule conditions hdml
    all_goals rw [hplan]; trivial
  | true =>
    rw [RoutePlan.choose_eq_ofDml hdml]
    exact RoutePlan.suits_ofDml rule _ _

/-- **Routing a plan that suits the rule finds declared units.** -/
theorem RoutePlan.Suits.isDeclared_of_route {plan : RoutePlan} {isSelect : Bool}
    (hsuits : plan.Suits rule) (h : plan.route rule conditions isSelect = .ok route)
    (hu : u ∈ route.units) : u.IsDeclared rule := by
  have hkeeps : ∀ {ds : String} {tables : List String},
      (∀ t ∈ tables, rule.isSharded t = false) →
        (RouteUnit.on ds (unrenamed tables)).IsDeclared rule := by
    intro ds tables hplain
    refine RouteUnit.isDeclared_on (fun m hm => absurd hm List.not_mem_nil) fun t ht hsharded => ?_
    cases (hplain t ht).symm.trans hsharded
  cases isPlanned_of_route h hu with
  | everyNode ht hn =>
    refine RouteUnit.isDeclared_on_node (fun r hr => ?_) fun t ht => absurd ht List.not_mem_nil
    rwa [everyNodeOf, hr] at hn
  | everySource hds => exact hkeeps fun t ht => absurd ht List.not_mem_nil
  | anySource hds | home hds => exact hkeeps hsuits
  | oneTable hfound hn =>
    exact RouteUnit.isDeclared_on_node (fun r hr => mem_of_tableNodes hr hfound hn) hsuits
  | combined hne hpicked =>
    refine RouteUnit.isDeclared_on (fun m hm r hr => ?_) fun t ht hsharded => ?_
    · obtain ⟨t, -, rfl, nodes, hnodes, hnode⟩ := exists_mem_of_forall₂ hpicked hm
      exact mem_of_tableNodes hr hnodes hnode
    · obtain ⟨m, hm, hlogic, -⟩ := exists_mem_of_forall₂ hpicked.flip (hsuits t ht hsharded)
      exact ⟨m, hm, hlogic⟩

/-- **Routing lists no unit twice.** -/
theorem RoutePlan.nodup_of_route {plan : RoutePlan} {isSelect : Bool}
    (h : plan.route rule conditions isSelect = .ok route) : route.units.Nodup := by
  cases plan with
  | oneTable table broadcast =>
    obtain ⟨found, -, h⟩ := bind_eq_ok.1 h
    obtain rfl := Except.ok.inj h
    exact Route.nodup_units_addAll _ List.nodup_nil
  | combined tables broadcast =>
    obtain ⟨found, -, h⟩ := bind_eq_ok.1 h
    obtain rfl := Except.ok.inj h
    exact Route.nodup_units_addAll _ List.nodup_nil
  | everyNode _ | everySource | anySource _ | home _ =>
    obtain rfl := Except.ok.inj h
    exact Route.nodup_units_addAll _ List.nodup_nil
  | nowhere =>
    obtain rfl := Except.ok.inj h
    exact List.nodup_nil

end Declared

/-! ## Scattering

Without conditions no strategy leaves out a target, and a statement over one sharded table goes
everywhere. -/

section Scattering

variable {rule : ShardingRule} {r : TableRule} {statement : Statement}
  {conditions : ShardingConditions} {t : String}

/-- **Without a condition all nodes of a table are found.** -/
theorem exists_nodesFor_none (rule : ShardingRule) (r : TableRule) (table : String) :
    ∃ nodes, nodesFor rule r table none = .ok nodes ∧ nodes.Nodup ∧
      ∀ n, n ∈ nodes ↔ n ∈ r.nodes := by
  have hkeeps : ∀ (strategy : Option Strategy) (targets : List String),
      chooseTargets strategy targets table none = .ok targets := fun strategy _ => by
    cases strategy <;> rfl
  exact exists_nodesFor_of_keeps (hkeeps _) (hkeeps _)

/-- A statement about rows of one sharded table goes to nodes of that table. -/
theorem RoutePlan.choose_eq_oneTable (hdml : statement.isDml = true)
    (hone : rule.shardedAmong statement.tables = [t]) (hbroadcast : rule.isBroadcast t = false)
    (hnever : conditions.areNever = false) :
    RoutePlan.choose rule statement conditions =
      .oneTable t (statement.tables.filter rule.isBroadcast) := by
  have ht : t ∈ statement.tables :=
    (List.mem_filter.1 (hone ▸ List.mem_singleton_self t : t ∈ rule.shardedAmong _)).1
  have hall : rule.allBroadcast statement.tables = false := by
    rw [ShardingRule.allBroadcast, Bool.and_eq_false_iff, List.all_eq_false]
    exact .inr ⟨t, ht, by rw [hbroadcast]; exact Bool.false_ne_true⟩
  rw [RoutePlan.choose_eq_ofDml hdml]
  exact RoutePlan.ofDml_eq_iff.2 (.oneTable hall hone hnever)

/-- **Without conditions a statement about one sharded table goes to each of its nodes once.** -/
theorem RoutePlan.exists_route_everyNode {isSelect : Bool} (hfind : rule.find? t = some r)
    (hnone : conditions.conditions = []) (kept : List String) :
    ∃ route, (RoutePlan.oneTable t kept).route rule conditions isSelect = .ok route ∧
      route.units.Perm ((distinct r.nodes).map fun n =>
        RouteUnit.on n.dataSource (⟨t, n.table⟩ :: unrenamed kept)) := by
  obtain ⟨nodes, hnodes, -, hmem⟩ := exists_nodesFor_none rule r t
  have hfound : tableNodes rule t conditions = .ok (nodes, []) := by
    rw [tableNodes_of_nil hfind hnone, hnodes]
    rfl
  refine ⟨_, bind_eq_ok.2 ⟨_, hfound, rfl⟩, ?_⟩
  have hinjective : Function.Injective fun n : DataNode =>
      RouteUnit.on n.dataSource (⟨t, n.table⟩ :: unrenamed kept) := by
    rintro ⟨ds, name⟩ ⟨ds', name'⟩ heq
    obtain ⟨hds, hmaps⟩ := RouteUnit.mk.inj heq
    obtain ⟨rfl, -⟩ := NameMap.mk.inj hds
    obtain ⟨-, rfl⟩ := NameMap.mk.inj (List.cons.inj hmaps).1
    rfl
  refine (List.perm_ext_iff_of_nodup (Route.nodup_units_addAll _ List.nodup_nil)
    ((nodup_distinct _).map hinjective)).2 fun u => ?_
  rw [Route.mem_units_addAll_empty]
  simp only [List.mem_map, mem_distinct, hmem]

end Scattering

/-- **Routing only names declared nodes, and all of them where it must.**  Under a rule that passes
its check, whatever the statement and its conditions: no unit is listed twice, each is on a data
source of the rule, and each renames tables with a rule to declared nodes there.  A statement about
rows of one sharded table that is not broadcast goes to every declared node, once, if there are no
conditions. -/
theorem ShardingRule.declared_of_route {rule : ShardingRule} (hvalid : rule.validate = .ok ())
    (statement : Statement) (conditions : ShardingConditions) (isSelect : Bool) :
    (∀ route, (RoutePlan.choose rule statement conditions).route rule conditions isSelect =
        .ok route → route.units.Nodup ∧
      ∀ u ∈ route.units, ∃ ds ∈ rule.dataSources, u.dataSource = ⟨ds, ds⟩ ∧
        ∀ t r, rule.find? t = some r → ∀ actual, u.actualTable? t = some actual →
          (⟨ds, actual⟩ : DataNode) ∈ r.nodes) ∧
    ∀ t r, statement.isDml = true → rule.shardedAmong statement.tables = [t] →
      rule.isBroadcast t = false → rule.find? t = some r → conditions.conditions = [] →
        ∃ route, (RoutePlan.choose rule statement conditions).route rule conditions isSelect =
            .ok route ∧
          route.units.Perm ((distinct r.nodes).map fun n => RouteUnit.on n.dataSource
            (⟨t, n.table⟩ :: unrenamed (statement.tables.filter rule.isBroadcast))) := by
  constructor
  · intro route hroute
    refine ⟨RoutePlan.nodup_of_route hroute, fun u hu => ?_⟩
    obtain ⟨ds, hds, hu'⟩ := (isClosed_of_validate hvalid).knows_of_route hroute u hu
    have hdeclared := (RoutePlan.suits_choose rule statement conditions).isDeclared_of_route hroute
      hu
    rw [RouteUnit.IsDeclared, hu'] at hdeclared
    exact ⟨ds, hds, hu', hdeclared⟩
  · intro t r hdml hone hbroadcast hfind hnone
    have hnever : conditions.areNever = false := by
      rw [ShardingConditions.areNever, hnone]
      rfl
    rw [RoutePlan.choose_eq_oneTable hdml hone hbroadcast hnever]
    exact RoutePlan.exists_route_everyNode hfind hnone _

/-- Orders of any user beside their cities. -/
def ordersInCities : Statement :=
  .select
    { tables := ["T_Order", "t_city"], list := ⟨[], false⟩, condition := none, groupBy := []
      orderBy := [], having := none, pagination := none, lock := false, subquery := false }

/-- They are read from all four nodes, cities beside them. -/
theorem declared_of_route_ordersInCities : ∃ route,
    (RoutePlan.choose ordersItemsAndCities ordersInCities ⟨[], none⟩).route ordersItemsAndCities
      ⟨[], none⟩ true = .ok route ∧
    route.units.Nodup ∧ (∀ u ∈ route.units, u.dataSource.actual ∈ ["ds_0", "ds_1"]) ∧
    route.units.Perm (([("ds_0", "t_order_0"), ("ds_0", "t_order_1"), ("ds_1", "t_order_0"),
      ("ds_1", "t_order_1")] : List (String × String)).map fun n =>
        RouteUnit.on n.1 [⟨"T_Order", n.2⟩, ⟨"t_city", "t_city"⟩]) := by
  have hvalid : ordersItemsAndCities.validate = .ok () := rfl
  obtain ⟨hunits, hevery⟩ := ShardingRule.declared_of_route hvalid ordersInCities ⟨[], none⟩ true
  obtain ⟨route, hroute, hperm⟩ := hevery "T_Order" _ rfl (by decide +kernel) (by decide +kernel)
    rfl rfl
  obtain ⟨hnodup, hsources⟩ := hunits route hroute
  refine ⟨route, hroute, hnodup, fun u hu => ?_, ?_⟩
  · obtain ⟨ds, hds, hu, -⟩ := hsources u hu
    rw [hu]
    exact hds
  · exact hperm.trans (.of_eq (by decide +kernel))

end ScatterGather
