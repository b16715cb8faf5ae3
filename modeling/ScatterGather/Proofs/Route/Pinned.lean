import ScatterGather.Proofs.Route.Alternatives

/-!
# Proofs/Route/Pinned — a pinned statement goes to one node at most

A WHERE clause without OR is one group of predicates, so it has one condition.  If the clause pins
the column of either strategy by an equality, the condition has **a list of at most one value** for
both (`IsPinnedTo`), whatever else the clause says of them: two values lead to one node, and an
emptied list leads nowhere (`IsPinnedTo.units`).  So nothing is ever refused for going to several
nodes, and the routers behind sharding add no unit to one (`Routers.length_units_route`).
-/

namespace ScatterGather

open Sharding

/-! ## Clauses without OR

Without OR the disjunctive normal form is one group, so there is one condition to look at. -/

namespace Condition

variable {w : Condition}

/-- Whether the predicates of a condition are joined by AND alone. -/
def isConjunction : Condition → Bool
  | test _ => true
  | and left right => left.isConjunction && right.isConjunction
  | or _ _ => false

/-- **A conjunction is one group.** -/
theorem andGroups_of_isConjunction (h : w.isConjunction = true) : w.andGroups = [w.predicates] := by
  induction w with
  | test p => rfl
  | and left right ihl ihr =>
    obtain ⟨hl, hr⟩ := Bool.and_eq_true_iff.1 h
    rw [andGroups, ihl hl, ihr hr]
    rfl
  | or left right => cases h

/-- An equality tests the column, by its own name or as one of the table, against an operand whose
value is known before the database sees it. -/
def Pins (w : Condition) (t column : String) : Prop :=
  ∃ name e, Predicate.compare .equal name e ∈ w.predicates ∧
    Text.sameName (bareColumn name) column = true ∧
      ((splitColumn name).1.all fun owner => Text.sameName owner t) = true ∧ e.isKnown = true

end Condition

/-- A clause that is already there can be put in. -/
theorem Statement.restrictedTo_eq_self {s : Statement} {w : Condition}
    (h : s.condition? = some w) : s.restrictedTo w = s := by
  cases s with
  | select s | update s | delete s =>
    obtain ⟨⟩ := s
    cases h
    rfl
  | insert | ddl | dal => cases h

/-! ## The condition of a pinned clause

What pins a column leaves it one value at most, whatever comes before and after in the clause.  Only
a column that is spelled one way can be said to be pinned, as spellings are narrowed apart. -/

/-- The condition has a list of at most one value for the column of either strategy. -/
structure IsPinnedTo (t : String) (d s : Strategy) (c : ShardingCondition) (vs ws : List Value) :
    Prop where
  database : c.allowedFor t d.column = [.values vs]
  table : c.allowedFor t s.column = [.values ws]
  database_length : vs.length ≤ 1
  table_length : ws.length ≤ 1

section Condition

variable {rule : ShardingRule} {r : TableRule} {d s : Strategy} {t : String}
  {predicates : List Predicate} {c : ShardingCondition} {vs ws : List Value}

/-- An equality of a sharding column with a known operand is usable. -/
theorem isUsable_equal {name : String} {e : Expression}
    (hsharding : rule.isShardingColumn (bareColumn name) t = true)
    (howner : ((splitColumn name).1.all fun owner => Text.sameName owner t) = true)
    (he : e.isKnown = true) : (Predicate.compare .equal name e).isUsable rule t = true := by
  have howning : owningTables rule [t] name = [(t, bareColumn name)] := by
    change ((([t].filter fun t => (splitColumn name).1.all fun o => Text.sameName o t).filter
      fun t => rule.isShardingColumn (bareColumn name) t).map fun t => (t, bareColumn name)) = _
    simp [howner, hsharding]
  simp [Predicate.isUsable, restricts, Predicate.column, howning, Predicate.operands, he]

/-- **A pinned column has one value at most.** -/
theorem exists_values_of_pins {w : Condition} (hr : rule.find? t = some r)
    (hs : s ∈ rule.databaseStrategy r ∨ s ∈ rule.tableStrategy r)
    (hspelled : SpellsOnce rule t w.predicates) (hpins : w.Pins t s.column)
    (hfrom : AreFrom rule t w.predicates c.restrictions)
    (hpinned : ArePinned rule t w.predicates c.restrictions) :
    ∃ vs, c.allowedFor t s.column = [.values vs] ∧ vs.length ≤ 1 := by
  obtain ⟨name, e, hmem, hname, howner, he⟩ := hpins
  have hsharding := (isShardingColumn_congr hname t).trans (isShardingColumn_of_strategy hr hs)
  obtain ⟨q, hq, hcolumn, vs, hvs, hlength⟩ :=
    hpinned.single _ hmem (isUsable_equal hsharding howner he) rfl
  have hallowed := hfrom.allowedFor_eq hspelled hq (hcolumn.symm ▸ hname)
  exact ⟨vs, hvs ▸ hallowed, hlength⟩

/-- What is allowed for a column is what some restriction of it says. -/
theorem exists_of_mem_allowedFor {column : String} {a : Allowed}
    (h : a ∈ c.allowedFor t column) : ∃ q ∈ c.restrictions, q.allowed = a := by
  obtain ⟨q, hq, rfl⟩ := List.mem_map.1 h
  exact ⟨q, (List.mem_filter.1 hq).1, rfl⟩

/-- **No row can satisfy a pinned condition** exactly if one of its lists is empty. -/
theorem IsPinnedTo.isNever_iff (h : IsPinnedTo t d s c vs ws) (hr : rule.find? t = some r)
    (hd : rule.databaseStrategy r = some d) (hs : rule.tableStrategy r = some s)
    (hfrom : AreFrom rule t predicates c.restrictions) (hspelled : SpellsOnce rule t predicates) :
    c.isNever = true ↔ vs = [] ∨ ws = [] := by
  constructor
  · intro hnever
    obtain ⟨s', hs', hempty⟩ := hfrom.exists_emptied hspelled hnever hr
    rw [hd, hs] at hs'
    obtain hs' | hs' := hs' <;> obtain rfl := Option.some.inj hs'
    · exact .inl (Allowed.values.inj (List.singleton_inj.1 (h.database.symm.trans hempty)))
    · exact .inr (Allowed.values.inj (List.singleton_inj.1 (h.table.symm.trans hempty)))
  · have hempty : ∀ {column : String}, c.allowedFor t column = [.values []] →
        c.isNever = true := by
      intro column hnil
      obtain ⟨q, hq, hallowed⟩ := exists_of_mem_allowedFor (hnil ▸ List.mem_singleton.2 rfl)
      exact List.any_eq_true.2 ⟨q, hq, by rw [hallowed]; rfl⟩
    rintro (rfl | rfl)
    · exact hempty h.database
    · exact hempty h.table

/-- **Two values lead to one node**, and an empty list leads nowhere. -/
theorem IsPinnedTo.units {statement : Statement} {planned : Route}
    (h : IsPinnedTo t d s c vs ws) (hpicks : statement.picksRows = true)
    (htables : statement.tables = [t]) (hr : rule.find? t = some r)
    (hbroadcast : rule.isBroadcast t = false) (hd : rule.databaseStrategy r = some d)
    (hs : rule.tableStrategy r = some s) (hfrom : AreFrom rule t predicates c.restrictions)
    (hspelled : SpellsOnce rule t predicates)
    (hplanned : (RoutePlan.choose rule statement ⟨[c], none⟩).route rule ⟨[c], none⟩
      statement.isSelect = .ok planned) :
    planned.units.length ≤ 1 ∧ (planned.units = [] ↔ vs = [] ∨ ws = []) := by
  have hsharded : rule.isSharded t = true := Option.isSome_iff_exists.2 ⟨r, hr⟩
  have hnever : (ShardingConditions.mk [c] none).areNever = c.isNever := by
    simp [ShardingConditions.areNever]
  have hiff := h.isNever_iff hr hd hs hfrom hspelled
  rw [RoutePlan.choose_single hpicks htables hsharded, hbroadcast, hnever] at hplanned
  cases hempty : c.isNever with
  | true =>
    rw [hempty] at hplanned
    cases hplanned
    exact ⟨Nat.zero_le 1, iff_of_true rfl (hiff.1 hempty)⟩
  | false =>
    rw [hempty] at hplanned hiff
    -- A condition that can hold has one value for each of the two choices.
    obtain ⟨hvne, hwne⟩ := not_or.1 (mt hiff.2 Bool.false_ne_true)
    obtain ⟨v, rfl⟩ := List.length_eq_one_iff.1
      (Nat.le_antisymm h.database_length (List.length_pos_iff.2 hvne))
    obtain ⟨x, rfl⟩ := List.length_eq_one_iff.1
      (Nat.le_antisymm h.table_length (List.length_pos_iff.2 hwne))
    obtain ⟨found, hfound, hplanned⟩ := bind_eq_ok.1 hplanned
    rw [tableNodes_of_ne_nil hr (List.cons_ne_nil _ _)] at hfound
    obtain ⟨lists, hlists, rfl⟩ := map_eq_ok.1 hfound
    obtain ⟨nodes, hnodes, rfl⟩ := mapM_singleton_eq_ok.1 hlists
    obtain ⟨node, -, rfl⟩ := exists_node_of_nodesFor hd hs h.database h.table hnodes
    cases hplanned
    exact ⟨Nat.le_refl 1, iff_of_false (List.cons_ne_nil _ _) (not_or.2 ⟨hvne, hwne⟩)⟩

end Condition

/-! ## Routes of one unit at most

After sharding, groups replace units one by one, and a statement without units may still be taken by
a sole group or data source. -/

/-- What goes to one node is never refused for going to several. -/
theorem permitRoute_of_length_le_one {statement : Statement} {route : Route}
    (h : route.units.length ≤ 1) : permitRoute statement route = .ok () := by
  cases statement <;> simp [permitRoute, not_lt.2 h]

/-- Whether a statement without units goes somewhere all the same: to the only group, or to the only
data source. -/
def Routers.hasFallback (routers : Routers) (metadata : Metadata) : Bool :=
  (routers.readWrite.any fun rule => rule.groups.length == 1) || metadata.dataSources.length == 1

section Routers

variable {route : Route}

/-- The groups send as many units as there are, or the one of their only group. -/
theorem length_units_throughGroups {topology : Option Topology} {statement : Statement}
    {state : ReplicaState} : (throughGroups topology statement state route).1.units.length =
      max route.units.length (state.rule.groups.length == 1).toNat := by
  obtain ⟨hne, -, hthrough⟩ | ⟨hnil, group, hgroups, -, hthrough⟩ | ⟨hnil, hmany, -, hthrough⟩ :=
    throughGroups_cases topology statement state route
  all_goals rw [hthrough]
  · have hpos : 0 < route.units.length := List.length_pos_iff.2 hne
    exact length_replaceGroups.trans (max_eq_left (Nat.le_trans (Bool.toNat_le _) hpos)).symm
  · rw [hnil, hgroups]
    rfl
  · rw [hnil, beq_eq_false_iff_ne.2 hmany]
    rfl

/-- A sole data source adds one unit to none. -/
theorem length_units_orSoleSource (dataSources : List String) :
    (orSoleSource dataSources route).units.length =
      max route.units.length (dataSources.length == 1).toNat := by
  obtain ⟨units, _, _⟩ := route
  cases units with
  | cons u rest => exact (max_eq_left (Nat.le_trans (Bool.toNat_le _) (Nat.succ_pos _))).symm
  | nil =>
    match dataSources with
    | [] | [_] => rfl
    | _ :: _ :: _ => simp [orSoleSource]

/-- **Routing sends as many units as sharding finds**, or the one of a fallback. -/
theorem Routers.length_units_route {routers : Routers} {rule : ShardingRule} {metadata : Metadata}
    {session : Session} {sql : LogicSql} (hrule : routers.sharding = some rule)
    (h : (routers.route metadata session sql).result = .ok route) :
    ∃ sharded, (shardingRoute rule metadata.schema routers.clock sql).1 = .ok sharded ∧
      route.units.length = max sharded.units.length (routers.hasFallback metadata).toNat := by
  rw [Routers.route, Routers.routeSharding, hrule] at h
  dsimp only at h
  generalize shardingRoute rule metadata.schema routers.clock sql = found at h ⊢
  obtain ⟨result, moved, clock⟩ := found
  cases result with
  | error e => cases h
  | ok sharded =>
    obtain rfl := Except.ok.inj h
    refine ⟨sharded, rfl, ?_⟩
    rw [length_units_orSoleSource, Routers.routeGroups, Routers.hasFallback]
    cases routers.readWrite with
    | none => rfl
    | some groups =>
      dsimp only
      rw [length_units_throughGroups, Option.any_some, max_assoc]
      cases groups.groups.length == 1 <;> cases metadata.dataSources.length == 1 <;> rfl

end Routers

/-! ## Statements

The pieces are put together for a statement as it comes, with its own clause. -/

section Statement

variable {rule : ShardingRule} {schema : Schema} {clock : Clock} {sql : LogicSql} {r : TableRule}
  {d s : Strategy} {t : String} {w : Condition} {conditions : ShardingConditions}

/-- **A conjunction with a usable predicate has one condition**, the last one or not. -/
theorem exists_condition_of_isConjunction (hpicks : sql.statement.picksRows = true)
    (htables : sql.statement.tables = [t]) (hcondition : sql.statement.condition? = some w)
    (hw : w.isConjunction = true) (husable : ∃ p ∈ w.predicates, p.isUsable rule t = true)
    (h : (routingConditions rule schema clock sql).result = .ok conditions) :
    ∃ c, conditions = ⟨[c], none⟩ ∧ AreFrom rule t w.predicates c.restrictions ∧
      ArePinned rule t w.predicates c.restrictions := by
  have hsame : sql.restrictedTo w = sql := by
    rw [LogicSql.restrictedTo, Statement.restrictedTo_eq_self hcondition]
  rw [← hsame, routingConditions_restrictedTo hpicks, htables] at h
  obtain ⟨cs, hcs, rfl⟩ := map_eq_ok.1 h
  obtain ⟨found, hfound, rfl⟩ := run_map_eq_ok.1 hcs
  obtain ⟨-, hnone, hsome⟩ := ensuresOn_groupConditions_single (C := fun _ => True)
    (fun _ _ => trivial) w.andGroups clock found _ trivial (Prod.ext hfound rfl)
  rw [Condition.andGroups_of_isConjunction hw] at hnone hsome
  cases found with
  | none =>
    obtain ⟨g, hg, hall⟩ := hnone.1 rfl
    obtain rfl := List.mem_singleton.1 hg
    obtain ⟨p, hp, husable⟩ := husable
    cases husable.symm.trans (hall p hp)
  | some cs =>
    obtain ⟨c, rest, hc, hrest, rfl⟩ := List.forall₂_cons_left_iff.1 (hsome cs rfl)
    obtain rfl := List.forall₂_nil_left_iff.1 hrest
    exact ⟨c, ite_self _, hc⟩

/-- **A pinned conjunction has a pinned condition.** -/
theorem exists_isPinnedTo (hpicks : sql.statement.picksRows = true)
    (htables : sql.statement.tables = [t]) (hr : rule.find? t = some r)
    (hd : rule.databaseStrategy r = some d) (hs : rule.tableStrategy r = some s)
    (hcondition : sql.statement.condition? = some w) (hw : w.isConjunction = true)
    (hspelled : SpellsOnce rule t w.predicates) (hdatabase : w.Pins t d.column)
    (htable : w.Pins t s.column)
    (h : (routingConditions rule schema clock sql).result = .ok conditions) :
    ∃ c vs ws, conditions = ⟨[c], none⟩ ∧ AreFrom rule t w.predicates c.restrictions ∧
      IsPinnedTo t d s c vs ws := by
  have husable : ∃ p ∈ w.predicates, p.isUsable rule t = true := by
    obtain ⟨name, e, hmem, hname, howner, he⟩ := hdatabase
    have hsharding := (isShardingColumn_congr hname t).trans
      (isShardingColumn_of_strategy hr (.inl hd))
    exact ⟨_, hmem, isUsable_equal hsharding howner he⟩
  obtain ⟨c, rfl, hfrom, hpinned⟩ :=
    exists_condition_of_isConjunction hpicks htables hcondition hw husable h
  obtain ⟨vs, hvs, hv⟩ := exists_values_of_pins hr (.inl hd) hspelled hdatabase hfrom hpinned
  obtain ⟨ws, hws, hx⟩ := exists_values_of_pins hr (.inr hs) hspelled htable hfrom hpinned
  exact ⟨c, vs, ws, rfl, hfrom, hvs, hws, hv, hx⟩

/-- **A pinned statement goes to one node at most.**  Let the WHERE clause of a statement over one
sharded table hold no OR and an equality with a known operand for the column of either strategy,
spelled one way.  Then sharding routes it by one condition with lists of at most one value: to one
node, or nowhere if one of the lists is empty.  It is never refused for going to several nodes, and
routing sends what sharding finds, or one unit of a fallback. -/
theorem shardingRoute_pinned (schema : Schema) (clock : Clock)
    (hpicks : sql.statement.picksRows = true) (htables : sql.statement.tables = [t])
    (hr : rule.find? t = some r) (hbroadcast : rule.isBroadcast t = false)
    (hd : rule.databaseStrategy r = some d) (hs : rule.tableStrategy r = some s)
    (hcondition : sql.statement.condition? = some w) (hw : w.isConjunction = true)
    (hspelled : SpellsOnce rule t w.predicates) (hdatabase : w.Pins t d.column)
    (htable : w.Pins t s.column) :
    (∀ route, (shardingRoute rule schema clock sql).1 = .ok route →
      ∃ c vs ws, (routingConditions rule schema clock sql).result = .ok ⟨[c], none⟩ ∧
        IsPinnedTo t d s c vs ws ∧
          route.units.length ≤ 1 ∧ (route.units = [] ↔ vs = [] ∨ ws = [])) ∧
    (∀ conditions planned, (routingConditions rule schema clock sql).result = .ok conditions →
      (RoutePlan.choose rule sql.statement conditions).route rule conditions
          sql.statement.isSelect = .ok planned →
        permitRoute sql.statement planned = .ok ()) ∧
    ∀ (routers : Routers) (metadata : Metadata) (session : Session) (route : Route),
      routers.sharding = some rule → routers.clock = clock → metadata.schema = schema →
      (routers.route metadata session sql).result = .ok route →
        ∃ sharded, (shardingRoute rule schema clock sql).1 = .ok sharded ∧
          route.units.length ≤ 1 ∧
          (route.units = [] ↔ sharded.units = [] ∧ routers.hasFallback metadata = false) := by
  -- The three parts differ in where they start; each comes down to routing one pinned condition.
  have hplanned : ∀ conditions planned,
      (routingConditions rule schema clock sql).result = .ok conditions →
      (RoutePlan.choose rule sql.statement conditions).route rule conditions
          sql.statement.isSelect = .ok planned →
        ∃ c vs ws, conditions = ⟨[c], none⟩ ∧ IsPinnedTo t d s c vs ws ∧
          planned.units.length ≤ 1 ∧ (planned.units = [] ↔ vs = [] ∨ ws = []) := by
    intro conditions planned hconditions hplanned
    obtain ⟨c, vs, ws, rfl, hfrom, hpinned⟩ := exists_isPinnedTo hpicks htables hr hd hs hcondition
      hw hspelled hdatabase htable hconditions
    exact ⟨c, vs, ws, rfl, hpinned,
      hpinned.units hpicks htables hr hbroadcast hd hs hfrom hspelled hplanned⟩
  refine ⟨?_, ?_, ?_⟩
  · intro route hroute
    obtain ⟨conditions, planned, hconditions, hroute, hsame⟩ :=
      exists_conditions_of_shardingRoute hroute
    obtain ⟨c, vs, ws, rfl, hpinned, hunits⟩ := hplanned conditions planned hconditions hroute
    exact ⟨c, vs, ws, hconditions, hpinned, hsame ▸ hunits⟩
  · intro conditions planned hconditions hroute
    obtain ⟨-, -, -, -, -, hone, -⟩ := hplanned conditions planned hconditions hroute
    exact permitRoute_of_length_le_one hone
  · rintro routers metadata session route hrule rfl rfl hroute
    obtain ⟨sharded, hsharded, hlength⟩ := Routers.length_units_route hrule hroute
    obtain ⟨conditions, planned, hconditions, hroute, hsame⟩ :=
      exists_conditions_of_shardingRoute hsharded
    obtain ⟨-, -, -, -, -, hone, -⟩ := hplanned conditions planned hconditions hroute
    refine ⟨sharded, hsharded, hlength ▸ max_le (hsame ▸ hone) (Bool.toNat_le _), ?_⟩
    rw [← List.length_eq_zero_iff, hlength, Nat.max_eq_zero_iff, List.length_eq_zero_iff,
      Bool.toNat_eq_zero]

end Statement

/-- Order 4 of a bound user, by a list and by itself. -/
def orderFourOfUser : Condition :=
  .and (.and (.test (.compare .equal "USER_ID" (.parameter 0))) (.test (.like "note" "a%")))
    (.and (.test (.among "T_Order.order_id" [.literal (.integer 4), .literal (.integer 5)]))
      (.test (.compare .equal "order_id" (.literal (.integer 4)))))

/-- A deletion of one row. -/
def deleteOrderFour : LogicSql where
  statement := .delete { tables := ["t_order"], condition := some orderFourOfUser, limit := some 1 }
  sql := "DELETE FROM t_order WHERE ... LIMIT 1"
  parameters := [.integer 3]

/-- One node, which a group replaces by its primary. -/
theorem shardingRoute_pinned_deleteOrderFour : ∃ route sent,
    (shardingRoute ordersAndItems ⟨[]⟩ (Clock.fixed 0) deleteOrderFour).1 = .ok route ∧
    (ordersThroughGroup.route ⟨⟨[]⟩, [], .mySQL⟩ .fresh deleteOrderFour).result = .ok sent ∧
    route.units = [.on "ds_1" [⟨"t_order", "t_order_0"⟩]] ∧ route.units.length ≤ 1 ∧
    sent.units = [⟨⟨"ds_1", "primary_1"⟩, [⟨"t_order", "t_order_0"⟩]⟩] ∧
    sent.units.length ≤ 1 := by
  obtain ⟨route, sent, hroute, hsent, hunits, hmoved⟩ : ∃ route sent,
      (shardingRoute ordersAndItems ⟨[]⟩ (Clock.fixed 0) deleteOrderFour).1 = .ok route ∧
      (ordersThroughGroup.route ⟨⟨[]⟩, [], .mySQL⟩ .fresh deleteOrderFour).result = .ok sent ∧
      route.units = [.on "ds_1" [⟨"t_order", "t_order_0"⟩]] ∧
      sent.units = [⟨⟨"ds_1", "primary_1"⟩, [⟨"t_order", "t_order_0"⟩]⟩] :=
    ⟨_, _, rfl, rfl, rfl, rfl⟩
  have hpicks : deleteOrderFour.statement.picksRows = true := rfl
  have hspelled : SpellsOnce ordersAndItems "t_order" orderFourOfUser.predicates := by
    rw [SpellsOnce]
    decide +kernel
  have hdatabase : orderFourOfUser.Pins "t_order" "user_id" :=
    ⟨"USER_ID", .parameter 0, by decide +kernel, by decide +kernel, rfl, rfl⟩
  have htable : orderFourOfUser.Pins "t_order" "order_id" :=
    ⟨"order_id", .literal (.integer 4), by decide +kernel, by decide +kernel, rfl, rfl⟩
  have hr : ordersAndItems.find? "t_order" = some _ := rfl
  obtain ⟨hone, -, hsame⟩ := shardingRoute_pinned ⟨[]⟩ (Clock.fixed 0) hpicks rfl hr rfl rfl rfl
    rfl rfl hspelled hdatabase htable
  obtain ⟨-, -, -, -, -, hlength, -⟩ := hone route hroute
  obtain ⟨-, -, hlength', -⟩ := hsame ordersThroughGroup _ .fresh sent rfl rfl rfl hsent
  exact ⟨route, sent, hroute, hsent, hunits, hlength, hmoved, hlength'⟩

end ScatterGather
