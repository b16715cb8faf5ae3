import ScatterGather.Proofs.Route.DeclaredNodes
import ScatterGather.Proofs.Route.Groups

/-!
# Proofs/Route/Alternatives — A OR B goes where A goes and where B goes

The units of a statement over one sharded table are the nodes that its conditions reach (`Reaches`):
any node without conditions, else those that some condition finds.  A condition that no row can
satisfy finds none (`AreFrom.eq_nil_of_isNever`), as long as its column is spelled one way, so it
does not matter that the algorithms are not asked where all conditions are of that kind.  The
conditions of A OR B are those of A and those of B, or there are none if one side has none: either
way they **reach what those of A or those of B reach** (`shardingRoute_or`).
-/

namespace ScatterGather

open Sharding

/-! ## Conditions that no row can satisfy

Routing drops conditions of this kind only if all of them are.  This makes no difference to where a
statement goes, since such a condition finds no node by itself. -/

section Never

variable {rule : ShardingRule} {r : TableRule} {t : String} {c : ShardingCondition} {s : Strategy}
  {group : List Predicate} {nodes : List DataNode}

/-- Where no value is left for a strategy's column, the strategy chooses nothing. -/
theorem chooseTargets_of_emptied (h : c.allowedFor t s.column = [.values []])
    (targets : List String) : chooseTargets (some s) targets t (some c) = .ok [] := by
  rw [chooseTargets, h]
  rfl

/-- What allows nothing is the empty list of values. -/
theorem Allowed.eq_of_isEmpty {a : Allowed} (h : a.isEmpty = true) : a = .values [] := by
  cases a with
  | values vs => rw [List.isEmpty_iff.1 h]
  | range _ => cases h

/-- A sharding column is that of a strategy. -/
theorem exists_strategy_of_isShardingColumn {column : String} (hr : rule.find? t = some r)
    (h : rule.isShardingColumn column t = true) :
    ∃ s, (s ∈ rule.databaseStrategy r ∨ s ∈ rule.tableStrategy r) ∧
      Text.sameName s.column column = true := by
  rw [ShardingRule.isShardingColumn, hr] at h
  obtain h | h := (Bool.or_eq_true _ _).mp h
  · obtain ⟨s, hs, hname⟩ := (Option.any_eq_true _ _).1 h
    exact ⟨s, .inl hs, hname⟩
  · obtain ⟨s, hs, hname⟩ := (Option.any_eq_true _ _).1 h
    exact ⟨s, .inr hs, hname⟩

/-- **A column that is spelled one way has one restriction**, under whatever name it is asked
for. -/
theorem AreFrom.allowedFor_eq (hfrom : AreFrom rule t group c.restrictions)
    (hspelled : SpellsOnce rule t group) {q : Restriction} (hq : q ∈ c.restrictions)
    {column : String} (hname : Text.sameName q.column column = true) :
    c.allowedFor t column = [q.allowed] := by
  have honly : ∀ q' ∈ c.restrictions, Text.sameName q'.column column = true → q' = q := by
    intro q' hq' hsame
    obtain ⟨p, hp, husable, hcolumn⟩ := hfrom.column _ (List.mem_map_of_mem hq)
    obtain ⟨p', hp', husable', hcolumn'⟩ := hfrom.column _ (List.mem_map_of_mem hq')
    have hnames : Text.sameName q'.column q.column = true :=
      Text.sameName_trans hsame (Text.sameName_comm _ _ ▸ hname)
    rw [← hcolumn, ← hcolumn'] at hnames
    have heq := hspelled p' hp' p hp husable' husable hnames
    rw [hcolumn, hcolumn'] at heq
    exact List.inj_on_of_nodup_map hfrom.nodup hq' hq heq
  have hfilter : (c.restrictions.filter fun r =>
      Text.sameName r.table t && Text.sameName r.column column) = [q] := by
    refine List.perm_singleton.1 ((List.perm_ext_iff_of_nodup
      ((List.Nodup.of_map _ hfrom.nodup).filter _) (List.nodup_singleton q)).2 fun q' => ?_)
    rw [List.mem_filter, Bool.and_eq_true, List.mem_singleton]
    constructor
    · rintro ⟨hq', -, hsame⟩
      exact honly q' hq' hsame
    · rintro rfl
      exact ⟨hq, by rw [hfrom.table q' hq, Text.sameName_refl], hname⟩
  rw [ShardingCondition.allowedFor, hfilter, List.map_singleton]

/-- **A condition that no row can satisfy leaves a strategy no value.** -/
theorem AreFrom.exists_emptied (hfrom : AreFrom rule t group c.restrictions)
    (hspelled : SpellsOnce rule t group) (hnever : c.isNever = true) (hr : rule.find? t = some r) :
    ∃ s, (s ∈ rule.databaseStrategy r ∨ s ∈ rule.tableStrategy r) ∧
      c.allowedFor t s.column = [.values []] := by
  obtain ⟨q, hq, hempty⟩ := List.any_eq_true.1 hnever
  obtain ⟨p, hp, husable, hcolumn⟩ := hfrom.column _ (List.mem_map_of_mem hq)
  obtain ⟨s, hs, hname⟩ := exists_strategy_of_isShardingColumn hr
    (Predicate.isShardingColumn_of_isUsable husable)
  rw [hcolumn, Text.sameName_comm] at hname
  refine ⟨s, hs, ?_⟩
  rw [hfrom.allowedFor_eq hspelled hq hname, Allowed.eq_of_isEmpty hempty]

/-- **A condition that no row can satisfy finds no node**, if it finds any. -/
theorem AreFrom.eq_nil_of_isNever (hfrom : AreFrom rule t group c.restrictions)
    (hspelled : SpellsOnce rule t group) (hnever : c.isNever = true) (hr : rule.find? t = some r)
    (h : nodesFor rule r t (some c) = .ok nodes) : nodes = [] := by
  obtain ⟨s, hs, hempty⟩ := hfrom.exists_emptied hspelled hnever hr
  obtain ⟨sources, hsources, h⟩ := bind_eq_ok.1 h
  obtain ⟨lists, hlists, h⟩ := bind_eq_ok.1 h
  obtain rfl := Except.ok.inj h
  refine List.eq_nil_iff_forall_not_mem.2 fun n hn => ?_
  obtain ⟨list, hlist, hn⟩ := List.mem_flatten.1 (mem_distinct.1 hn)
  obtain ⟨ds, hds, hlist⟩ := exists_of_mem_mapM hlists hlist
  obtain hs | hs := hs
  · rw [Option.mem_def.1 hs, chooseTargets_of_emptied hempty] at hsources
    obtain rfl := Except.ok.inj hsources
    cases hds
  · rw [Option.mem_def.1 hs, chooseTargets_of_emptied hempty] at hlist
    obtain rfl := Except.ok.inj hlist
    cases hn

/-- Of the conditions that groups derive, those that no row can satisfy find nothing. -/
theorem eq_nil_of_isNever_of_areFrom {groups : List (List Predicate)} {cs : List ShardingCondition}
    (hfrom : List.Forall₂ (fun g c => AreFrom rule t g c.restrictions) groups cs)
    (hspelled : ∀ g ∈ groups, SpellsOnce rule t g) (hr : rule.find? t = some r) :
    ∀ c ∈ cs, c.isNever = true → ∀ nodes, nodesFor rule r t (some c) = .ok nodes → nodes = [] := by
  intro c hc hnever nodes hnodes
  obtain ⟨g, hg, hgroup⟩ := exists_mem_of_forall₂ hfrom.flip hc
  exact hgroup.eq_nil_of_isNever (hspelled g hg) hnever hr hnodes

end Never

/-! ## The nodes that conditions reach

A list of conditions leads to the union of what each of them finds, and an empty list leads
everywhere.  OR concatenates lists, but for the empty ones. -/

/-- The node is one of the table that the conditions lead to: any one if nothing is known or the
table is broadcast, else one that some condition finds. -/
structure Reaches (rule : ShardingRule) (r : TableRule) (t : String)
    (conditions : List ShardingCondition) (n : DataNode) : Prop where
  mem : n ∈ r.nodes
  found : rule.isBroadcast t = true ∨ conditions = [] ∨
    ∃ c ∈ conditions, ∃ nodes, nodesFor rule r t (some c) = .ok nodes ∧ n ∈ nodes

section Reaches

variable {rule : ShardingRule} {r : TableRule} {t : String} {n : DataNode} {u : RouteUnit}
  {conditions left right : List ShardingCondition} {statement : Statement} {route : Route}

/-- Without conditions every node is reached. -/
theorem reaches_nil : Reaches rule r t [] n ↔ n ∈ r.nodes :=
  ⟨Reaches.mem, fun h => ⟨h, .inr (.inl rfl)⟩⟩

/-- With conditions a node is reached if one of them finds it. -/
theorem reaches_iff_of_ne_nil (hne : conditions ≠ []) : Reaches rule r t conditions n ↔
    n ∈ r.nodes ∧ (rule.isBroadcast t = true ∨
      ∃ c ∈ conditions, ∃ nodes, nodesFor rule r t (some c) = .ok nodes ∧ n ∈ nodes) :=
  ⟨fun h => ⟨h.mem, h.found.imp_right fun h => h.resolve_left hne⟩,
    fun h => ⟨h.1, h.2.imp_right .inr⟩⟩

/-- **Conditions reach what some of them reach.** -/
theorem reaches_append (hleft : left ≠ []) (hright : right ≠ []) :
    Reaches rule r t (left ++ right) n ↔ Reaches rule r t left n ∨ Reaches rule r t right n := by
  rw [reaches_iff_of_ne_nil (List.append_ne_nil_of_left_ne_nil hleft right),
    reaches_iff_of_ne_nil hleft, reaches_iff_of_ne_nil hright, ← and_or_left,
    ← or_or_distrib_left]
  simp only [List.mem_append, or_and_right, exists_or]

/-- **Alternatives reach what either side reaches**, any node if one side has no conditions. -/
theorem reaches_alternatives {left right : Option (List ShardingCondition)}
    (hleft : left ≠ some []) (hright : right ≠ some []) :
    Reaches rule r t ((left.bind fun cs => right.map (cs ++ ·)).getD []) n ↔
      Reaches rule r t (left.getD []) n ∨ Reaches rule r t (right.getD []) n := by
  cases left with
  | none => exact ⟨.inl, fun h => reaches_nil.2 (h.elim Reaches.mem Reaches.mem)⟩
  | some cs =>
    cases right with
    | none => exact ⟨.inr, fun h => reaches_nil.2 (h.elim Reaches.mem Reaches.mem)⟩
    | some cs' =>
      exact reaches_append (fun h => hleft (congrArg some h)) fun h => hright (congrArg some h)

/-- The nodes of a table under conditions are those reached. -/
theorem mem_tableNodes_iff {found : List DataNode × List (List DataNode)}
    (hr : rule.find? t = some r) (hbroadcast : rule.isBroadcast t = false)
    (h : tableNodes rule t ⟨conditions, none⟩ = .ok found) :
    n ∈ found.1 ↔ Reaches rule r t conditions n := by
  obtain ⟨rfl, hnodes⟩ | ⟨hne, hlists, hmem⟩ := tableNodes_cases hr h
  · obtain ⟨every, hevery, -, hmem⟩ := exists_nodesFor_none rule r t
    obtain rfl := Except.ok.inj (hnodes.symm.trans hevery)
    rw [reaches_nil]
    exact hmem n
  · rw [hmem]
    constructor
    · rintro ⟨nodes, hnodes, hn⟩
      obtain ⟨c, hc, hfound⟩ := exists_of_mem_mapM hlists hnodes
      exact ⟨mem_of_nodesFor hfound hn, .inr (.inr ⟨c, hc, nodes, hfound, hn⟩)⟩
    · rintro ⟨-, hb | hnil | ⟨c, hc, nodes, hfound, hn⟩⟩
      · cases hbroadcast.symm.trans hb
      · exact absurd hnil hne
      · obtain ⟨nodes', hnodes', hfound'⟩ := mem_of_mapM_eq_ok hlists hc
        obtain rfl := Except.ok.inj (hfound.symm.trans hfound')
        exact ⟨nodes, hnodes', hn⟩

/-- **The units of a statement over one table are the nodes that its conditions reach**, also where
no row can satisfy any of them, if such conditions find nothing. -/
theorem mem_units_routeWith_iff (hpicks : statement.picksRows = true)
    (htables : statement.tables = [t]) (hr : rule.find? t = some r)
    (hnever : ∀ c ∈ conditions, c.isNever = true →
      ∀ nodes, nodesFor rule r t (some c) = .ok nodes → nodes = [])
    (h : routeWith rule statement ⟨conditions, none⟩ = .ok route) :
    u ∈ route.units ↔
      ∃ n, Reaches rule r t conditions n ∧ RouteUnit.on n.dataSource [⟨t, n.table⟩] = u := by
  have hsharded : rule.isSharded t = true := Option.isSome_iff_exists.2 ⟨r, hr⟩
  cases hbroadcast : rule.isBroadcast t with
  | true =>
    rw [routeWith, RoutePlan.choose_single hpicks htables hsharded, hbroadcast, if_pos rfl] at h
    obtain ⟨planned, hplanned, h⟩ := bind_eq_ok.1 h
    obtain ⟨_, -, h⟩ := bind_eq_ok.1 h
    obtain rfl := Except.ok.inj h
    obtain rfl := Except.ok.inj hplanned
    rw [Route.mem_units_addAll_empty, List.flatMap_singleton, everyNodeOf, hr, List.mem_map]
    exact exists_congr fun n => and_congr_left' ⟨fun hn => ⟨hn, .inl hbroadcast⟩, Reaches.mem⟩
  | false =>
    cases hall : (ShardingConditions.mk conditions none).areNever with
    | true =>
      rw [units_of_areNever hpicks htables hsharded hbroadcast hall h]
      refine iff_of_false List.not_mem_nil ?_
      obtain ⟨hne, hall⟩ := Bool.and_eq_true_iff.1 hall
      rintro ⟨n, ⟨-, hb | rfl | ⟨c, hc, nodes, hfound, hn⟩⟩, -⟩
      · cases hbroadcast.symm.trans hb
      · cases hne
      · rw [hnever c hc (List.all_eq_true.1 hall c hc) nodes hfound] at hn
        cases hn
    | false =>
      obtain ⟨found, hfound, rfl, -⟩ :=
        (routeWith_single_eq_ok hpicks htables hsharded hbroadcast hall).1 h
      rw [mem_units_nodesRoute]
      exact exists_congr fun n => and_congr_left' (mem_tableNodes_iff hr hbroadcast hfound)

end Reaches

/-! ## Clauses

The three statements are routed by themselves, each reading the clock anew; what they have in common
is one instant. -/

/-- How far a WHERE clause narrows a statement over one table: to nodes of the table, to all of them
if one of its groups has no usable predicate, and to none if no row can satisfy its conditions. -/
structure NarrowsTo (rule : ShardingRule) (schema : Schema) (clock : Clock) (sql : LogicSql)
    (r : TableRule) (t : String) (w : Condition) (units : List RouteUnit) : Prop where
  declared : ∀ u ∈ units, ∃ n ∈ r.nodes, RouteUnit.on n.dataSource [⟨t, n.table⟩] = u
  every : (∃ g ∈ w.andGroups, ∀ p ∈ g, p.isUsable rule t = false) →
    ∀ n ∈ r.nodes, RouteUnit.on n.dataSource [⟨t, n.table⟩] ∈ units
  nowhere : rule.isBroadcast t = false → ∀ conditions,
    (routingConditions rule schema clock (sql.restrictedTo w)).result = .ok conditions →
      conditions.areNever = true → units = []

section Clauses

variable {rule : ShardingRule} {schema : Schema} {now : Moment} {sql : LogicSql} {r : TableRule}
  {t : String} {w : Condition} {route : Route} {parameters : List Value}

/-- The groups of an OR restrict what those of both sides do. -/
theorem eq_of_run_groupConditions_append {groups more : List (List Predicate)}
    {left right both : Option (List ShardingCondition)}
    (hleft : (groupConditions rule [t] parameters groups).run (Clock.fixed now) =
      (.ok left, Clock.fixed now))
    (hright : ((groupConditions rule [t] parameters more).run (Clock.fixed now)).1 = .ok right)
    (hboth : ((groupConditions rule [t] parameters (groups ++ more)).run (Clock.fixed now)).1 =
      .ok both) : both = left.bind fun cs => right.map (cs ++ ·) := by
  rw [groupConditions_append_groups, run_bind, hleft] at hboth
  cases left with
  | none => exact (Except.ok.inj hboth).symm
  | some cs =>
    obtain ⟨found, hfound, rfl⟩ := run_map_eq_ok.1 hboth
    obtain rfl := Except.ok.inj (hright.symm.trans hfound)
    rfl

/-- The groups of a clause that is routed have conditions, or none, that read no other instant. -/
theorem exists_found_of_restrictedTo (hpicks : sql.statement.picksRows = true)
    (hsub : sql.statement.hasSubquery = false) (htables : sql.statement.tables = [t])
    (h : (shardingRoute rule schema (Clock.fixed now) (sql.restrictedTo w)).1 = .ok route) :
    ∃ found, (groupConditions rule [t] sql.parameters w.andGroups).run (Clock.fixed now) =
        (.ok found, Clock.fixed now) ∧
      (routingConditions rule schema (Clock.fixed now) (sql.restrictedTo w)).result =
        .ok ⟨found.getD [], none⟩ ∧
      routeWith rule (sql.statement.restrictedTo w) ⟨found.getD [], none⟩ = .ok route := by
  have hresult : (routingConditions rule schema (Clock.fixed now) (sql.restrictedTo w)).result =
      _ := routingConditions_restrictedTo hpicks
  rw [shardingRoute_restrictedTo_eq_ok hpicks, htables] at h
  obtain ⟨-, cs, hcs, hroute⟩ := h
  have hused : usedConditions rule sql.statement cs = ⟨cs, none⟩ := by
    rw [usedConditions, needsLastOnly_eq_false hpicks hsub, if_neg Bool.false_ne_true]
  rw [htables, hcs, Except.map, hused] at hresult
  rw [hused] at hroute
  obtain ⟨found, hfound, rfl⟩ := run_map_eq_ok.1 hcs
  have hclock := (ensures_groupConditions_single w.andGroups found _ (Prod.ext hfound rfl)).1
  exact ⟨found, Prod.ext hfound hclock, hresult, hroute⟩

variable {found : Option (List ShardingCondition)}

/-- Clauses have groups. -/
theorem ne_some_nil_of_run
    (hrun : (groupConditions rule [t] parameters w.andGroups).run (Clock.fixed now) =
      (.ok found, Clock.fixed now)) : found ≠ some [] := by
  rintro rfl
  have hfrom := (ensures_groupConditions_single w.andGroups _ _ hrun).2.2 [] rfl
  exact w.andGroups_ne_nil (List.forall₂_nil_right_iff.1 hfrom)

/-- **A clause goes to the nodes that its conditions reach.** -/
theorem mem_units_of_run (hpicks : sql.statement.picksRows = true)
    (htables : sql.statement.tables = [t]) (hr : rule.find? t = some r)
    (hspelled : SpellsOnce rule t w.predicates)
    (hrun : (groupConditions rule [t] parameters w.andGroups).run (Clock.fixed now) =
      (.ok found, Clock.fixed now))
    (hroute : routeWith rule (sql.statement.restrictedTo w) ⟨found.getD [], none⟩ = .ok route)
    (u : RouteUnit) : u ∈ route.units ↔ ∃ n, Reaches rule r t (found.getD []) n ∧
      RouteUnit.on n.dataSource [⟨t, n.table⟩] = u := by
  refine mem_units_routeWith_iff (by simpa using hpicks) (by simpa using htables) hr ?_ hroute
  cases found with
  | none => exact fun c hc => absurd hc List.not_mem_nil
  | some cs =>
    refine eq_nil_of_isNever_of_areFrom
      ((ensures_groupConditions_single w.andGroups _ _ hrun).2.2 cs rfl)
      (fun g hg p hp q hq => ?_) hr
    exact hspelled p (Condition.mem_predicates_of_mem_andGroups hg hp) q
      (Condition.mem_predicates_of_mem_andGroups hg hq)

/-- How far a clause narrows its statement. -/
theorem narrowsTo_of_run (hpicks : sql.statement.picksRows = true)
    (htables : sql.statement.tables = [t]) (hr : rule.find? t = some r)
    (hspelled : SpellsOnce rule t w.predicates)
    (hrun : (groupConditions rule [t] parameters w.andGroups).run (Clock.fixed now) =
      (.ok found, Clock.fixed now))
    (hresult : (routingConditions rule schema (Clock.fixed now) (sql.restrictedTo w)).result =
      .ok ⟨found.getD [], none⟩)
    (hroute : routeWith rule (sql.statement.restrictedTo w) ⟨found.getD [], none⟩ = .ok route) :
    NarrowsTo rule schema (Clock.fixed now) sql r t w route.units := by
  have hunits := mem_units_of_run hpicks htables hr hspelled hrun hroute
  constructor
  case declared =>
    intro u hu
    obtain ⟨n, hn, hu⟩ := (hunits u).1 hu
    exact ⟨n, hn.mem, hu⟩
  case every =>
    intro hgroup n hn
    rw [(ensures_groupConditions_single w.andGroups _ _ hrun).2.1.2 hgroup] at hunits
    exact (hunits _).2 ⟨n, reaches_nil.2 hn, rfl⟩
  case nowhere =>
    intro hbroadcast conditions hconditions hall
    obtain rfl := Except.ok.inj (hresult.symm.trans hconditions)
    exact units_of_areNever (by simpa using hpicks) (by simpa using htables)
      (Option.isSome_iff_exists.2 ⟨r, hr⟩) hbroadcast hall hroute

/-- **OR is union.**  Where a statement over one sharded table is routed under A, under B and under
A OR B at one instant, the nodes for A OR B are those for A and those for B.  Either clause goes to
every node if one of its groups has no usable predicate, and to none if no row can satisfy its
conditions. -/
theorem shardingRoute_or {a b : Condition} {left right both : Route}
    (hpicks : sql.statement.picksRows = true) (hsub : sql.statement.hasSubquery = false)
    (htables : sql.statement.tables = [t]) (hr : rule.find? t = some r)
    (hspelled : SpellsOnce rule t (a.or b).predicates)
    (ha : (shardingRoute rule schema (Clock.fixed now) (sql.restrictedTo a)).1 = .ok left)
    (hb : (shardingRoute rule schema (Clock.fixed now) (sql.restrictedTo b)).1 = .ok right)
    (hor : (shardingRoute rule schema (Clock.fixed now) (sql.restrictedTo (a.or b))).1 =
      .ok both) :
    (∀ u, u ∈ both.units ↔ u ∈ left.units ∨ u ∈ right.units) ∧
      NarrowsTo rule schema (Clock.fixed now) sql r t a left.units ∧
      NarrowsTo rule schema (Clock.fixed now) sql r t b right.units ∧
      NarrowsTo rule schema (Clock.fixed now) sql r t (a.or b) both.units := by
  have hleft : SpellsOnce rule t a.predicates := fun p hp q hq =>
    hspelled p (List.mem_append_left _ hp) q (List.mem_append_left _ hq)
  have hright : SpellsOnce rule t b.predicates := fun p hp q hq =>
    hspelled p (List.mem_append_right _ hp) q (List.mem_append_right _ hq)
  obtain ⟨found, hrun, hresult, hroute⟩ := exists_found_of_restrictedTo hpicks hsub htables ha
  obtain ⟨found', hrun', hresult', hroute'⟩ := exists_found_of_restrictedTo hpicks hsub htables hb
  obtain ⟨all, hrunAll, hresultAll, hrouteAll⟩ :=
    exists_found_of_restrictedTo hpicks hsub htables hor
  refine ⟨fun u => ?_, narrowsTo_of_run hpicks htables hr hleft hrun hresult hroute,
    narrowsTo_of_run hpicks htables hr hright hrun' hresult' hroute',
    narrowsTo_of_run hpicks htables hr hspelled hrunAll hresultAll hrouteAll⟩
  rw [mem_units_of_run hpicks htables hr hspelled hrunAll hrouteAll,
    mem_units_of_run hpicks htables hr hleft hrun hroute,
    mem_units_of_run hpicks htables hr hright hrun' hroute', ← exists_or]
  obtain rfl := eq_of_run_groupConditions_append hrun (congrArg Prod.fst hrun')
    (congrArg Prod.fst hrunAll)
  refine exists_congr fun n => ?_
  rw [reaches_alternatives (ne_some_nil_of_run hrun) (ne_some_nil_of_run hrun'), or_and_right]

end Clauses

/-- Order 4 of user 2, or an order with two numbers. -/
def orderOfTwo : Condition :=
  .or (.and (.test (.compare .equal "user_id" (.literal (.integer 2))))
      (.test (.compare .equal "T_Order.order_id" (.literal (.integer 4)))))
    (.and (.test (.compare .equal "order_id" (.literal (.integer 4))))
      (.test (.compare .equal "order_id" (.literal (.integer 5)))))

/-- Two nodes for one user, and a third one for the order of the other. -/
theorem shardingRoute_or_orderOfTwo : ∃ left right both,
    (shardingRoute ordersAndItems ⟨[]⟩ (Clock.fixed 0) (ordersWhere.restrictedTo userThree)).1 =
      .ok left ∧
    (shardingRoute ordersAndItems ⟨[]⟩ (Clock.fixed 0) (ordersWhere.restrictedTo orderOfTwo)).1 =
      .ok right ∧
    (shardingRoute ordersAndItems ⟨[]⟩ (Clock.fixed 0)
      (ordersWhere.restrictedTo (userThree.or orderOfTwo))).1 = .ok both ∧
    left.units = [.on "ds_1" [⟨"t_order", "t_order_0"⟩], .on "ds_1" [⟨"t_order", "t_order_1"⟩]] ∧
    right.units = [.on "ds_0" [⟨"t_order", "t_order_0"⟩]] ∧
    ∀ u, u ∈ both.units ↔ u ∈ left.units ∨ u ∈ right.units := by
  obtain ⟨left, right, both, ha, hb, hor, hleft, hright⟩ : ∃ left right both,
      (shardingRoute ordersAndItems ⟨[]⟩ (Clock.fixed 0)
        (ordersWhere.restrictedTo userThree)).1 = .ok left ∧
      (shardingRoute ordersAndItems ⟨[]⟩ (Clock.fixed 0)
        (ordersWhere.restrictedTo orderOfTwo)).1 = .ok right ∧
      (shardingRoute ordersAndItems ⟨[]⟩ (Clock.fixed 0)
        (ordersWhere.restrictedTo (userThree.or orderOfTwo))).1 = .ok both ∧
      left.units =
        [.on "ds_1" [⟨"t_order", "t_order_0"⟩], .on "ds_1" [⟨"t_order", "t_order_1"⟩]] ∧
      right.units = [.on "ds_0" [⟨"t_order", "t_order_0"⟩]] :=
    ⟨_, _, _, rfl, rfl, rfl, rfl, rfl⟩
  have hspelled : SpellsOnce ordersAndItems "t_order" (userThree.or orderOfTwo).predicates := by
    rw [SpellsOnce]
    decide +kernel
  exact ⟨left, right, both, ha, hb, hor, hleft, hright,
    (shardingRoute_or rfl rfl rfl rfl hspelled ha hb hor).1⟩

end ScatterGather
