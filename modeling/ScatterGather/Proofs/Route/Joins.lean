import Mathlib.Data.List.Nodup
import ScatterGather.Proofs.Route.Clause
import ScatterGather.Proofs.Route.Renaming

/-!
# Proofs/Route/Joins — a join goes to every combination of nodes on one data source

A **choice** takes one node of each joined table, and counts where its nodes are `Colocated`.  The
route of a SELECT that joins sharded tables has exactly one unit for each such choice
(`units_of_join`).  A choice that spans data sources has no unit, and the route is marked
`federated` wherever there is one.
-/

namespace ScatterGather

open Sharding

/-- One node of each table, all of them on one data source. -/
structure Colocated (ds : String) (nodes : List (List DataNode)) (choice : List DataNode) :
    Prop where
  chosen : List.Forall₂ (· ∈ ·) choice nodes
  on : ∀ n ∈ choice, n.dataSource = ds

/-- The unit of a choice: each table at its node, broadcast tables beside them. -/
def joinUnit (tables broadcast : List String) (ds : String) (choice : List DataNode) : RouteUnit :=
  RouteUnit.on ds
    (((tables.zip choice).map fun p => ⟨p.1, p.2.table⟩) ++ unrenamed broadcast)

section Choices

variable {ds ds' : String} {nodes : List (List DataNode)} {choice choice' : List DataNode}

theorem colocated_nil : Colocated ds [] choice ↔ choice = [] :=
  ⟨fun h => List.forall₂_nil_right_iff.1 h.chosen, fun h => h ▸ ⟨.nil, by simp⟩⟩

/-- One more node goes with the others if it is on their data source. -/
theorem colocated_cons {first : List DataNode} : Colocated ds (first :: nodes) choice ↔
    ∃ n ∈ first, n.dataSource = ds ∧ ∃ rest, Colocated ds nodes rest ∧ n :: rest = choice := by
  constructor
  · rintro ⟨hchosen, hon⟩
    obtain ⟨n, rest, hn, hrest, rfl⟩ := List.forall₂_cons_right_iff.1 hchosen
    obtain ⟨hds, hon⟩ := List.forall_mem_cons.1 hon
    exact ⟨n, hn, hds, rest, ⟨hrest, hon⟩, rfl⟩
  · rintro ⟨n, hn, hds, rest, ⟨hrest, hon⟩, rfl⟩
    exact ⟨.cons hn hrest, List.forall_mem_cons.2 ⟨hds, hon⟩⟩

/-- **The combinations on a data source are its choices.** -/
theorem mem_combinations_iff {routed : List (String × List DataNode)} {maps : List NameMap} :
    maps ∈ combinations ds routed ↔ ∃ choice, Colocated ds (routed.map (·.2)) choice ∧
      (((routed.map (·.1)).zip choice).map fun p => ⟨p.1, p.2.table⟩) = maps := by
  induction routed generalizing maps with
  | nil => simp [combinations, colocated_nil, eq_comm]
  | cons t rest ih =>
    simp only [combinations, List.mem_flatMap, List.mem_filter, decide_eq_true_eq, List.mem_map,
      ih, List.map_cons, colocated_cons]
    constructor
    · rintro ⟨n, ⟨hn, hds⟩, -, ⟨choice, hchoice, rfl⟩, rfl⟩
      exact ⟨n :: choice, ⟨n, hn, hds, choice, hchoice, rfl⟩, rfl⟩
    · rintro ⟨-, ⟨n, hn, hds, choice, hchoice, rfl⟩, rfl⟩
      exact ⟨n, ⟨hn, hds⟩, _, ⟨choice, hchoice, rfl⟩, rfl⟩

/-- A data source with a choice is one that all tables share. -/
theorem mem_sharedSources_of_colocated {routed : List (String × List DataNode)} (hne : routed ≠ [])
    (h : Colocated ds (routed.map (·.2)) choice) : ds ∈ sharedSources routed := by
  have hnode : ∀ t ∈ routed, ∃ n ∈ t.2, n.dataSource = ds := fun t ht =>
    (exists_mem_of_forall₂ h.chosen.flip (List.mem_map_of_mem ht)).imp
      fun n hn => ⟨hn.2, h.on n hn.1⟩
  refine List.mem_filter.2 ⟨mem_distinct.2 ?_, List.all_eq_true.2 fun t ht => ?_⟩
  · obtain ⟨t, ht⟩ := List.exists_mem_of_ne_nil _ hne
    exact List.mem_flatMap.2 ⟨t, ht, List.mem_map.2 (hnode t ht)⟩
  · obtain ⟨n, hn, hds⟩ := hnode t ht
    exact List.any_eq_true.2 ⟨n, hn, decide_eq_true hds⟩

/-- **The units that `combine` lists are those of the choices.** -/
theorem mem_units_combine {routed : List (String × List DataNode)} {broadcast : List String}
    {isSelect : Bool} {u : RouteUnit} (hne : routed ≠ []) :
    u ∈ (combine routed broadcast isSelect).units ↔ ∃ ds choice,
      Colocated ds (routed.map (·.2)) choice ∧
        joinUnit (routed.map (·.1)) broadcast ds choice = u := by
  rw [combine, Route.mem_units_addAll_empty, List.mem_flatMap]
  simp only [List.mem_map, mem_combinations_iff]
  constructor
  · rintro ⟨ds, -, -, ⟨choice, hchoice, rfl⟩, rfl⟩
    exact ⟨ds, choice, hchoice, rfl⟩
  · rintro ⟨ds, choice, hchoice, rfl⟩
    exact ⟨ds, mem_sharedSources_of_colocated hne hchoice, _, ⟨choice, hchoice, rfl⟩, rfl⟩

/-- Where all nodes are on one data source, every choice is. -/
theorem exists_colocated {routed : List (String × List DataNode)}
    (hsources : (sourcesOf routed).length ≤ 1)
    (h : List.Forall₂ (· ∈ ·) choice (routed.map (·.2))) :
    ∃ ds, Colocated ds (routed.map (·.2)) choice := by
  have hmem : ∀ n ∈ choice, n.dataSource ∈ sourcesOf routed := fun n hn => by
    obtain ⟨ns, hns, hnode⟩ := exists_mem_of_forall₂ h hn
    obtain ⟨t, ht, rfl⟩ := List.mem_map.1 hns
    exact mem_distinct.2 (List.mem_flatMap.2 ⟨t, ht, List.mem_map_of_mem hnode⟩)
  match hs : sourcesOf routed, hsources with
  | [], _ => exact ⟨"", h, fun n hn => nomatch hs ▸ hmem n hn⟩
  | [ds], _ => exact ⟨ds, h, fun n hn => List.mem_singleton.1 (hs ▸ hmem n hn)⟩

/-- **Different choices have different units.** -/
theorem joinUnit_injective {tables broadcast : List String} (hlength : tables.length = nodes.length)
    (h : Colocated ds nodes choice) (h' : Colocated ds' nodes choice')
    (heq : joinUnit tables broadcast ds choice = joinUnit tables broadcast ds' choice') :
    ds = ds' ∧ choice = choice' := by
  have hchoice := h.chosen.length_eq
  have hchoice' := h'.chosen.length_eq
  obtain ⟨hds, hmaps⟩ := RouteUnit.mk.inj heq
  obtain rfl : ds = ds' := (NameMap.mk.inj hds).1
  have hmaps := (List.append_inj hmaps (by simp [hchoice, hchoice'])).1
  have htables : choice.map (·.table) = choice'.map (·.table) := by
    have hactual : ∀ c : List DataNode, c.length = nodes.length →
        ((tables.zip c).map fun p => NameMap.mk p.1 p.2.table).map (·.actual) =
          c.map (·.table) := fun c hc => by
      have hsnd : (tables.zip c).map Prod.snd = c := List.map_snd_zip (by omega)
      calc ((tables.zip c).map fun p => NameMap.mk p.1 p.2.table).map (·.actual)
          = ((tables.zip c).map Prod.snd).map (·.table) := by
            rw [List.map_map, List.map_map]
            rfl
        _ = c.map (·.table) := by rw [hsnd]
    rw [← hactual choice hchoice, hmaps, hactual choice' hchoice']
  have hnodes : ∀ c : List DataNode, (∀ n ∈ c, n.dataSource = ds) →
      (c.map (·.table)).map (DataNode.mk ds) = c := fun c hc => by
    rw [List.map_map]
    exact (List.map_congr_left fun n hn => by rw [← hc n hn]; rfl).trans (List.map_id c)
  refine ⟨rfl, ?_⟩
  rw [← hnodes choice h.on, htables, hnodes choice' h'.on]

end Choices

/-! ## Tables of a unit

A unit of a join renames several tables at once, so the names of its tables have to be told
apart. -/

section Tables

variable {tables broadcast : List String} {ds : String} {choice : List DataNode}

/-- **A unit renames each table to its node.** -/
theorem forall₂_actualTable?_joinUnit (hnodup : tables.Nodup)
    (hnames : ∀ a ∈ tables, ∀ b ∈ tables, Text.sameName a b = true → a = b)
    (hlength : tables.length = choice.length) :
    List.Forall₂ (fun t n => (joinUnit tables broadcast ds choice).actualTable? t = some n.table)
      tables choice := by
  refine List.forall₂_iff_zip.2 ⟨hlength, fun {t n} hmem => ?_⟩
  have hkeys : ((tables.zip choice).map Prod.fst).Nodup := by
    rwa [List.map_fst_zip (by omega)]
  obtain ⟨m, hm⟩ : ∃ m, (((tables.zip choice).map fun p => NameMap.mk p.1 p.2.table).find?
      fun m => Text.sameName m.logic t) = some m := by
    rw [← Option.isSome_iff_exists, List.find?_isSome]
    exact ⟨_, List.mem_map_of_mem hmem, Text.sameName_refl t⟩
  obtain ⟨p, hp, rfl⟩ := List.mem_map.1 (List.mem_of_find?_eq_some hm)
  have hsame : Text.sameName p.1 t = true := by simpa using List.find?_some hm
  have ht : p.1 = t := hnames _ (List.of_mem_zip hp).1 _ (List.of_mem_zip hmem).1 hsame
  obtain rfl : p = (t, n) := List.inj_on_of_nodup_map hkeys hp hmem ht
  rw [RouteUnit.actualTable?, joinUnit, RouteUnit.on, List.find?_append, hm]
  rfl

/-- **A unit keeps the name of a broadcast table** that is not joined by its nodes. -/
theorem actualTable?_joinUnit_broadcast {b : String} (hb : b ∈ broadcast)
    (hnames : ∀ a ∈ broadcast, Text.sameName a b = true → a = b)
    (hapart : ∀ t ∈ tables, Text.sameName t b = false) :
    (joinUnit tables broadcast ds choice).actualTable? b = some b := by
  have hnone : (((tables.zip choice).map fun p => NameMap.mk p.1 p.2.table).find?
      fun m => Text.sameName m.logic b) = none :=
    List.find?_eq_none.2 (List.forall_mem_map.2 fun p hp => by
      simp [hapart p.1 (List.of_mem_zip hp).1])
  obtain ⟨m, hm⟩ :
      ∃ m, ((unrenamed broadcast).find? fun m => Text.sameName m.logic b) = some m := by
    rw [← Option.isSome_iff_exists, List.find?_isSome]
    exact ⟨_, List.mem_map_of_mem hb, Text.sameName_refl b⟩
  obtain ⟨a, ha, rfl⟩ := List.mem_map.1 (List.mem_of_find?_eq_some hm)
  obtain rfl : a = b := hnames a ha (by simpa using List.find?_some hm)
  rw [RouteUnit.actualTable?, joinUnit, RouteUnit.on, List.find?_append, hnone, hm]
  rfl

end Tables

/-! ## The route of a join

The nodes of each table are found as for a table by itself.  What a join adds is which of them can
be queried together. -/

/-- A statement names no table twice. -/
theorem Statement.nodup_tables (s : Statement) : s.tables.Nodup :=
  (pairwise_distinctNames [] s.namedTables).1.imp fun h heq => h (congrArg Text.lower heq)

/-- **What is combined**: the tables with a rule, at least two of them, and the broadcast tables. -/
theorem RoutePlan.eq_of_choose_eq_combined {rule : ShardingRule} {statement : Statement}
    {conditions : ShardingConditions} {tables broadcast : List String}
    (h : choose rule statement conditions = .combined tables broadcast) :
    tables = rule.shardedAmong statement.tables ∧ 2 ≤ tables.length ∧
      broadcast = statement.tables.filter rule.isBroadcast := by
  cases hdml : statement.isDml with
  | false =>
    obtain hother | ⟨_, hother⟩ := choose_of_not_isDml rule conditions hdml
    · cases hother.symm.trans h
    · cases hother.symm.trans h
  | true =>
    rw [choose_eq_ofDml hdml, ofDml_eq_iff] at h
    cases h with
    | combined _ hmany _ => exact ⟨rfl, hmany, rfl⟩

section Route

variable {rule : ShardingRule} {schema : Schema} {clock : Clock} {sql : LogicSql}
  {conditions : ShardingConditions} {tables broadcast : List String} {route : Route}

/-- **What the route of a join is like**: `nodes` are those found for the tables. -/
structure IsJoin (tables broadcast : List String) (nodes : List (List DataNode))
    (units : List RouteUnit) (federated : Bool) : Prop where
  nodup : units.Nodup
  /-- The units are those of the choices on one data source. -/
  mem_units : ∀ u, u ∈ units ↔
    ∃ ds choice, Colocated ds nodes choice ∧ joinUnit tables broadcast ds choice = u
  /-- Different choices have different units. -/
  injective : ∀ {ds ds' choice choice'}, Colocated ds nodes choice → Colocated ds' nodes choice' →
    joinUnit tables broadcast ds choice = joinUnit tables broadcast ds' choice' →
      ds = ds' ∧ choice = choice'
  renames : ∀ {ds choice}, Colocated ds nodes choice → List.Forall₂
    (fun t n => (joinUnit tables broadcast ds choice).actualTable? t = some n.table) tables choice
  keeps : ∀ {ds choice}, Colocated ds nodes choice → ∀ b ∈ broadcast, b ∉ tables →
    (joinUnit tables broadcast ds choice).actualTable? b = some b
  /-- Unless the route is federated, every choice is on one data source. -/
  complete : federated = false → ∀ choice, List.Forall₂ (· ∈ ·) choice nodes →
    ∃ ds, Colocated ds nodes choice

/-- **Combining the nodes of tables makes a join**, the tables being among those of a statement. -/
theorem isJoin_combine {routed : List (String × List DataNode)} (hne : routed ≠ [])
    (htables : (routed.map (·.1)).Sublist sql.statement.tables)
    (hbroadcast : broadcast ⊆ sql.statement.tables) :
    IsJoin (routed.map (·.1)) broadcast (routed.map (·.2)) (combine routed broadcast true).units
      (combine routed broadcast true).federated := by
  have hlength : ∀ {ds choice}, Colocated ds (routed.map (·.2)) choice →
      (routed.map (·.1)).length = choice.length := fun h => by
    rw [h.chosen.length_eq, List.length_map, List.length_map]
  have hnames : ∀ a ∈ sql.statement.tables, ∀ b ∈ sql.statement.tables,
      Text.sameName a b = true → a = b := fun a ha b hb => Statement.eq_of_sameName ha hb
  constructor
  case nodup => exact Route.nodup_units_addAll _ List.nodup_nil
  case mem_units => exact fun u => mem_units_combine hne
  case injective => exact fun h h' => joinUnit_injective (by simp) h h'
  case renames =>
    refine fun h => forall₂_actualTable?_joinUnit (htables.nodup (Statement.nodup_tables _))
      (fun a ha b hb => ?_) (hlength h)
    exact hnames a (htables.subset ha) b (htables.subset hb)
  case keeps =>
    refine fun h b hb hnot => actualTable?_joinUnit_broadcast hb
      (fun a ha => hnames a (hbroadcast ha) b (hbroadcast hb)) fun t ht => ?_
    refine Bool.eq_false_iff.2 fun hsame => hnot ?_
    rwa [← hnames t (htables.subset ht) b (hbroadcast hb) hsame]
  case complete =>
    refine fun hfederated choice => exists_colocated (Nat.not_lt.1 fun hmany => ?_)
    have hmarked : (combine routed broadcast true).federated = true := decide_eq_true hmany
    cases hfederated.symm.trans hmarked

/-- **A join is routed to all combinations of nodes on one data source, each once**, and a route
that is not federated leaves no combination out. -/
theorem units_of_join (hselect : sql.statement.isSelect = true)
    (hconditions : (routingConditions rule schema clock sql).result = .ok conditions)
    (hplan : RoutePlan.choose rule sql.statement conditions = .combined tables broadcast)
    (h : (shardingRoute rule schema clock sql).1 = .ok route) :
    tables = rule.shardedAmong sql.statement.tables ∧ 2 ≤ tables.length ∧
      broadcast = sql.statement.tables.filter rule.isBroadcast ∧
      ∃ nodes, List.Forall₂ (fun t ns => ∃ lists, tableNodes rule t conditions = .ok (ns, lists))
          tables nodes ∧
        IsJoin tables broadcast nodes route.units route.federated := by
  obtain ⟨htables, htwo, hbroadcast⟩ := RoutePlan.eq_of_choose_eq_combined hplan
  refine ⟨htables, htwo, hbroadcast, ?_⟩
  rw [shardingRoute] at h
  split at h
  · cases h
  obtain ⟨conditions', hconditions', h⟩ := bind_eq_ok.1 h
  obtain rfl := Except.ok.inj (hconditions.symm.trans hconditions')
  obtain ⟨joined, hjoined, h⟩ := bind_eq_ok.1 h
  obtain ⟨_, -, h⟩ := bind_eq_ok.1 h
  obtain rfl := Except.ok.inj h
  rw [hplan, hselect] at hjoined
  obtain ⟨routed, hfound, hunits, hfederated⟩ := RoutePlan.exists_routed_of_combined hjoined
  have hnodes : List.Forall₂ (fun t ns => ∃ lists, tableNodes rule t conditions = .ok (ns, lists))
      tables (routed.map (·.2)) :=
    List.forall₂_map_right_iff.2 (hfound.imp fun _ _ hf => hf.2)
  have hne : routed ≠ [] := hfound.ne_nil (List.ne_nil_of_length_pos (by omega))
  have hsublist : tables.Sublist sql.statement.tables := htables ▸ List.filter_sublist
  have hbroadcasts : broadcast ⊆ sql.statement.tables := hbroadcast ▸ List.filter_sublist.subset
  have hjoin := isJoin_combine hne (hfound.map_fst.symm ▸ hsublist) hbroadcasts
  rw [hfound.map_fst, ← hunits, ← hfederated] at hjoin
  exact ⟨_, hnodes, hjoin⟩

end Route

/-- Two sharded tables beside one that every data source has. -/
def ordersItemsAndCities : ShardingRule := { ordersAndItems with broadcastTables := ["t_city"] }

/-- Orders, items and cities of user 3. -/
def citiesOfUser : LogicSql where
  statement := .select
    { tables := ["t_order", "T_CITY", "t_item"]
      list := ⟨[], false⟩
      condition := some (.test (.compare .equal "user_id" (.parameter 0)))
      groupBy := [], orderBy := [], having := none, pagination := none, lock := false
      subquery := false }
  sql := "SELECT * FROM t_order JOIN T_CITY ... JOIN t_item ..."
  parameters := [.integer 3]

/-- All nodes are on one data source, and each order table is combined with each item table. -/
theorem units_of_join_citiesOfUser : ∃ conditions route nodes,
    (routingConditions ordersItemsAndCities ⟨[]⟩ (Clock.fixed 0) citiesOfUser).result =
      .ok conditions ∧
    RoutePlan.choose ordersItemsAndCities citiesOfUser.statement conditions =
      .combined ["t_order", "t_item"] ["T_CITY"] ∧
    (shardingRoute ordersItemsAndCities ⟨[]⟩ (Clock.fixed 0) citiesOfUser).1 = .ok route ∧
    IsJoin ["t_order", "t_item"] ["T_CITY"] nodes route.units route.federated ∧
    route.federated = false ∧ route.units.length = 4 := by
  obtain ⟨conditions, hconditions⟩ : ∃ conditions, (routingConditions ordersItemsAndCities ⟨[]⟩
    (Clock.fixed 0) citiesOfUser).result = .ok conditions := ⟨_, rfl⟩
  obtain ⟨route, hroute, hfederated, hlength⟩ : ∃ route, (shardingRoute ordersItemsAndCities ⟨[]⟩
    (Clock.fixed 0) citiesOfUser).1 = .ok route ∧ route.federated = false ∧
      route.units.length = 4 := ⟨_, rfl, rfl, rfl⟩
  have hplan : RoutePlan.choose ordersItemsAndCities citiesOfUser.statement conditions =
      .combined ["t_order", "t_item"] ["T_CITY"] := by
    obtain rfl := Except.ok.inj hconditions
    rfl
  obtain ⟨-, -, -, nodes, -, hjoin⟩ := units_of_join rfl hconditions hplan hroute
  exact ⟨conditions, route, nodes, hconditions, hplan, hroute, hjoin, hfederated, hlength⟩

end ScatterGather
