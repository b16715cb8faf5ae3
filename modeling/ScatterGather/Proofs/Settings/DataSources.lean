import ScatterGather.Proofs.Route.DeclaredNodes
import ScatterGather.Settings.Rules

/-!
# Proofs/Settings/DataSources — statements never leave the configured data sources

Sharding routes to **logical** data sources: the names of read/write groups, and the data sources
that no group claims.  Settings that are accepted make routers that `Stay` among the configured data
sources: sharding names logical ones only, each of which is configured or names a group, and groups
have configured members.  Routing a statement keeps this, whatever it moves (`Routers.Stay.route`),
so after any statements a unit of a route is on a configured data source
(`Settings.dataSource_of_route`).
-/

namespace ScatterGather

open Sharding

/-! ## Sharding

Deriving conditions moves key generators on, and nothing else of a rule.  So what was checked when
the rule was built holds for every later statement. -/

namespace ShardingRule

section Routing

variable {rule : ShardingRule} {table : String}

/-- A moved generator leaves the nodes of all tables as they are. -/
theorem nodes_of_mem_setGenerator {g : KeyGenerator} {rules : List TableRule} :
    ∀ r ∈ setGenerator table g rules, ∃ r' ∈ rules, r.nodes = r'.nodes := by
  induction rules with
  | nil => exact fun r hr => absurd hr List.not_mem_nil
  | cons first rest ih =>
    rw [setGenerator]
    split
    · exact List.forall_mem_cons.2 ⟨⟨first, List.mem_cons_self, rfl⟩,
        fun r hr => ⟨r, List.mem_cons_of_mem _ hr, rfl⟩⟩
    · exact List.forall_mem_cons.2 ⟨⟨first, List.mem_cons_self, rfl⟩,
        fun r hr => (ih r hr).imp fun r' h => ⟨List.mem_cons_of_mem _ h.1, h.2⟩⟩

/-- The rule with generators moved on. -/
def Moved (rule moved : ShardingRule) : Prop :=
  moved = rule ∨ ∃ table g, moved = { rule with tableRules := setGenerator table g rule.tableRules }

/-- A rule with a moved generator has its data sources. -/
theorem Moved.dataSources_eq {moved : ShardingRule} (h : rule.Moved moved) :
    moved.dataSources = rule.dataSources := by
  obtain rfl | ⟨table, g, rfl⟩ := h <;> rfl

/-- A rule with a moved generator is closed if it was before. -/
theorem IsClosed.of_moved {moved : ShardingRule} (h : rule.IsClosed) (hmoved : rule.Moved moved) :
    moved.IsClosed := by
  obtain rfl | ⟨table, g, rfl⟩ := hmoved
  · exact h
  · refine ⟨fun r hr n hn => ?_, h.home⟩
    obtain ⟨r', hr', hnodes⟩ := nodes_of_mem_setGenerator r hr
    exact h.nodes r' hr' n (hnodes ▸ hn)

/-- Drawing keys moves one generator. -/
theorem moved_of_generateKeys {moved : ShardingRule} {count : Nat} {keys : List Value}
    (h : rule.generateKeys table count = .ok (keys, moved)) : rule.Moved moved := by
  rw [generateKeys] at h
  split at h
  · cases h
  · obtain ⟨⟨keys', g⟩, -, h⟩ := bind_eq_ok.1 h
    obtain ⟨-, rfl⟩ := Prod.mk.inj (Except.ok.inj h)
    exact .inr ⟨table, g, rfl⟩

/-- **Deriving conditions moves nothing but a generator.** -/
theorem moved_deriveConditions (rule : ShardingRule) (schema : Schema) (clock : Clock)
    (statement : Statement) (parameters : List Value) :
    rule.Moved (deriveConditions rule schema clock statement parameters).rule := by
  cases statement with
  | insert insert =>
    rw [deriveConditions, deriveInsert]
    split
    · exact .inl rfl
    · split
      · exact .inl rfl
      · split
        · exact .inl rfl
        · split
          · exact .inl rfl
          · next hkeys =>
            obtain ⟨⟨keys, moved⟩, hgenerated, h⟩ := bind_eq_ok.1 hkeys
            obtain ⟨-, rfl⟩ := Prod.mk.inj (Except.ok.inj h)
            exact moved_of_generateKeys hgenerated
  | _ => exact .inl rfl

/-- Routing a statement moves nothing but generators. -/
theorem moved_shardingRoute (rule : ShardingRule) (schema : Schema) (clock : Clock)
    (sql : LogicSql) : rule.Moved (shardingRoute rule schema clock sql).2.1 := by
  rw [shardingRoute]
  split
  · exact .inl rfl
  · rw [routingConditions]
    dsimp only
    split <;> exact moved_deriveConditions _ _ _ _ _

end Routing

end ShardingRule

/-! ## Read/write groups

A group moves its balancer on with each choice, and keeps its name and its members. -/

/-- The group has members of its own, among the data sources. -/
structure ReplicaGroup.IsOwn (dataSources : List String) (g : ReplicaGroup) : Prop where
  cluster : g.cluster = none
  primary : g.primary ∈ dataSources
  replicas : ∀ ds ∈ g.replicas, ds ∈ dataSources

/-- **Groups lead from logical data sources to configured ones**: each logical one names a group or
is configured, and it is not the only one unless the group is. -/
structure ReadWriteRule.Leads (logic dataSources : List String) (rule : ReadWriteRule) : Prop where
  own : ∀ g ∈ rule.groups, g.IsOwn dataSources
  named : ∀ name ∈ logic, name ∈ dataSources ∨ rule.find? name ≠ none
  many : rule.groups.length ≠ 1 → logic.length ≠ 1

section Groups

variable {logic dataSources : List String} (topology : Option Topology) (statement : Statement)
  {state : ReplicaState}

/-- A group that is chosen from sends a statement to a data source, and moves its balancer only. -/
theorem ReplicaGroup.IsOwn.select {g : ReplicaGroup} (h : g.IsOwn dataSources) (session : Session)
    (source : RandomSource) :
    (g.select topology statement session source).1 ∈ dataSources ∧
      (g.select topology statement session source).2.1.IsOwn dataSources := by
  have hmembers : g.members topology = (g.primary, g.replicas) := by
    rw [members.eq_def, h.cluster]
    cases topology <;> rfl
  constructor
  · obtain hprimary | hreplica := g.mem_select topology statement session source
    · rw [hprimary, hmembers]
      exact h.primary
    · rw [hmembers] at hreplica
      exact h.replicas _ hreplica
  · rw [ReplicaGroup.select]
    dsimp only
    split
    · exact h
    · split
      · exact h
      · exact ⟨h.cluster, h.primary, h.replicas⟩

/-- Once a group is set, the groups are that one and old ones. -/
theorem ReadWriteRule.mem_of_mem_setGroup {moved : ReplicaGroup} {groups : List ReplicaGroup} :
    ∀ g ∈ setGroup moved groups, g = moved ∨ g ∈ groups := by
  induction groups with
  | nil => exact fun g hg => absurd hg List.not_mem_nil
  | cons first rest ih =>
    rw [setGroup]
    split
    · exact List.forall_mem_cons.2 ⟨.inl rfl, fun g hg => .inr (List.mem_cons_of_mem _ hg)⟩
    · exact List.forall_mem_cons.2 ⟨.inr List.mem_cons_self,
        fun g hg => (ih g hg).imp_right (List.mem_cons_of_mem _)⟩

/-- Setting a group leaves as many groups. -/
theorem ReadWriteRule.length_setGroup (moved : ReplicaGroup) (groups : List ReplicaGroup) :
    (setGroup moved groups).length = groups.length := by
  induction groups with
  | nil => rfl
  | cons first rest ih =>
    rw [setGroup]
    split
    · rfl
    · rw [List.length_cons, List.length_cons, ih]

/-- **A choice leads to a configured data source**, and the groups lead on. -/
theorem ReadWriteRule.Leads.selectMember (h : state.rule.Leads logic dataSources)
    {group : ReplicaGroup} (hgroup : group ∈ state.rule.groups) :
    (selectMember topology statement group state).1.actual ∈ dataSources ∧
      (selectMember topology statement group state).2.rule.Leads logic dataSources := by
  obtain ⟨hactual, hmoved⟩ := (h.own group hgroup).select topology statement
    state.session state.source
  refine ⟨hactual, fun g hg => ?_, fun name hname => ?_, ?_⟩
  · obtain rfl | hg := mem_of_mem_setGroup g hg
    · exact hmoved
    · exact h.own g hg
  · exact (h.named name hname).imp_right fun hfind => mt (find?_selectMember_eq_none group).1 hfind
  · exact fun hlength => h.many (by rwa [← length_setGroup _ state.rule.groups])

/-- **The groups lead the units of logical data sources to configured ones.** -/
theorem ReadWriteRule.Leads.replaceGroups {units : List RouteUnit}
    (h : state.rule.Leads logic dataSources)
    (hunits : ∀ u ∈ units, ∃ ds ∈ logic, u.dataSource = ⟨ds, ds⟩) :
    (∀ u ∈ (replaceGroups topology statement state units).1, u.dataSource.actual ∈ dataSources) ∧
      (ScatterGather.replaceGroups topology statement state units).2.rule.Leads logic
        dataSources := by
  induction units generalizing state with
  | nil => exact ⟨fun u hu => absurd hu List.not_mem_nil, h⟩
  | cons u rest ih =>
    obtain ⟨⟨ds, hds, hu⟩, hrest⟩ := List.forall_mem_cons.1 hunits
    rw [ScatterGather.replaceGroups]
    split
    · next hnone =>
      obtain ⟨hmore, hleads⟩ := ih h hrest
      refine ⟨List.forall_mem_cons.2 ⟨?_, hmore⟩, hleads⟩
      rw [hu] at hnone ⊢
      exact (h.named ds hds).resolve_right (not_not_intro hnone)
    · next group hgroup =>
      obtain ⟨hactual, hleads⟩ := h.selectMember topology statement
        (List.mem_of_find?_eq_some hgroup)
      obtain ⟨hmore, hleads⟩ := ih hleads hrest
      exact ⟨List.forall_mem_cons.2 ⟨hactual, hmore⟩, hleads⟩

/-- The groups lead the units of a route to configured data sources, and give a route without units
one if there is only one group. -/
theorem ReadWriteRule.Leads.throughGroups {route : Route} (h : state.rule.Leads logic dataSources)
    (hroute : ∀ u ∈ route.units, ∃ ds ∈ logic, u.dataSource = ⟨ds, ds⟩) :
    (∀ u ∈ (throughGroups topology statement state route).1.units,
        u.dataSource.actual ∈ dataSources) ∧
      (ScatterGather.throughGroups topology statement state route).2.rule.Leads logic dataSources ∧
      ((ScatterGather.throughGroups topology statement state route).1.units = [] →
        logic.length ≠ 1) := by
  obtain ⟨hne, -, hthrough⟩ | ⟨-, group, hgroups, -, hthrough⟩ | ⟨-, hmany, -, hthrough⟩ :=
    throughGroups_cases topology statement state route
  all_goals rw [hthrough]
  · obtain ⟨hmore, hleads⟩ := h.replaceGroups topology statement hroute
    refine ⟨hmore, hleads, fun hnil => absurd ?_ hne⟩
    have hnil : (ScatterGather.replaceGroups topology statement state route.units).1 = [] := hnil
    rw [← List.length_eq_zero_iff, ← length_replaceGroups, hnil, List.length_nil]
  · obtain ⟨hactual, hleads⟩ := h.selectMember topology statement
      (hgroups ▸ List.mem_singleton_self group)
    exact ⟨List.forall_mem_singleton.2 hactual, hleads,
      fun hnil => absurd hnil (List.cons_ne_nil _ _)⟩
  · exact ⟨fun u hu => absurd hu List.not_mem_nil, h, fun _ => h.many hmany⟩

end Groups

/-! ## Routers

A step of the chain keeps the routers where they are, whether it finds units or fails, and so do any
number of steps. -/

/-- Sharding names logical data sources only, and they lead to configured ones. -/
structure Routers.Stay (logic dataSources : List String) (routers : Routers) : Prop where
  sharding : ∀ rule ∈ routers.sharding, rule.IsClosed ∧ rule.dataSources = logic
  groups : ∀ rule ∈ routers.readWrite, rule.Leads logic dataSources
  plain : routers.readWrite = none → logic ⊆ dataSources

namespace Routers

variable {routers : Routers} {logic dataSources : List String} {metadata : Metadata}
  {session : Session} {sql : LogicSql}

/-- **Sharding finds units on logical data sources.** -/
theorem Stay.routeSharding (h : routers.Stay logic dataSources) (metadata : Metadata)
    (sql : LogicSql) :
    (routers.routeSharding metadata sql).2.Stay logic dataSources ∧
      ∀ route, (routers.routeSharding metadata sql).1 = .ok route →
        ∀ u ∈ route.units, ∃ ds ∈ logic, u.dataSource = ⟨ds, ds⟩ := by
  rw [Routers.routeSharding]
  cases hrule : routers.sharding with
  | none =>
    refine ⟨h, fun route hroute u hu => ?_⟩
    obtain rfl := Except.ok.inj hroute
    cases hu
  | some rule =>
    obtain ⟨hclosed, hlogic⟩ := h.sharding rule hrule
    have hmoved := rule.moved_shardingRoute metadata.schema routers.clock sql
    refine ⟨⟨?_, h.groups, h.plain⟩, fun route hroute u hu => ?_⟩
    · rintro moved ⟨⟩
      exact ⟨hclosed.of_moved hmoved, hmoved.dataSources_eq.trans hlogic⟩
    · obtain ⟨conditions, planned, -, hplanned, hunits⟩ := exists_conditions_of_shardingRoute hroute
      obtain ⟨ds, hds, hu⟩ := hclosed.knows_of_route hplanned u (hunits ▸ hu)
      exact ⟨ds, hlogic ▸ hds, hu⟩

/-- **The groups lead units to configured data sources**, and leave a route without units only where
a sole logical data source is configured. -/
theorem Stay.routeGroups {sharded : Route} (h : routers.Stay logic dataSources)
    (hunits : ∀ u ∈ sharded.units, ∃ ds ∈ logic, u.dataSource = ⟨ds, ds⟩) (statement : Statement)
    (session : Session) :
    (routers.routeGroups statement session sharded).2.1.Stay logic dataSources ∧
      (∀ u ∈ (routers.routeGroups statement session sharded).1.units,
        u.dataSource.actual ∈ dataSources) ∧
      ((routers.routeGroups statement session sharded).1.units = [] →
        ∀ sole, logic = [sole] → sole ∈ dataSources) := by
  rw [Routers.routeGroups]
  split
  · next hnone =>
    have hplain := h.plain hnone
    refine ⟨h, fun u hu => ?_, fun _ sole hsole => hplain (hsole ▸ List.mem_singleton_self sole)⟩
    obtain ⟨ds, hds, hu⟩ := hunits u hu
    rw [hu]
    exact hplain hds
  · next rule hrule =>
    have hleads : ReadWriteRule.Leads logic dataSources
      (ReplicaState.mk rule session routers.source).rule := h.groups rule hrule
    obtain ⟨hthrough, hleads, hempty⟩ := hleads.throughGroups routers.topology statement hunits
    refine ⟨⟨h.sharding, fun _ hrule' => Option.some.inj hrule' ▸ hleads, ?_⟩, hthrough, ?_⟩
    · exact fun hnone => absurd hnone (Option.some_ne_none _)
    · exact fun hnil sole hsole => absurd (congrArg List.length hsole) (hempty hnil)

/-- **Routing a statement stays among the configured data sources**, and leaves routers that do. -/
theorem Stay.route (h : routers.Stay logic dataSources) (metadata : Metadata) (session : Session)
    (sql : LogicSql) :
    (routers.route metadata session sql).routers.Stay logic dataSources ∧
      (metadata.dataSources = logic → ∀ route,
        (routers.route metadata session sql).result = .ok route →
          ∀ u ∈ route.units, u.dataSource.actual ∈ dataSources) := by
  obtain ⟨hstay, hsharded⟩ := h.routeSharding metadata sql
  rw [Routers.route]
  generalize routers.routeSharding metadata sql = found at hstay hsharded
  obtain ⟨e | sharded, moved⟩ := found
  · exact ⟨hstay, fun _ _ hroute => by cases hroute⟩
  obtain ⟨hmoved, hthrough, hempty⟩ :=
    hstay.routeGroups (hsharded sharded rfl) sql.statement session
  refine ⟨hmoved, fun hmetadata route hroute u hu => ?_⟩
  obtain rfl := Except.ok.inj hroute
  obtain heq | ⟨hnil, sole, hsole, hone⟩ := orSoleSource_cases metadata.dataSources
    (moved.routeGroups sql.statement session sharded).1
  · exact hthrough u (heq ▸ hu)
  · obtain rfl := List.mem_singleton.1 (hone ▸ hu)
    exact hempty hnil sole (hmetadata ▸ hsole)

/-- The routers after statements were routed, the first one first. -/
def after (routers : Routers) (past : List (Metadata × Session × LogicSql)) : Routers :=
  past.foldl (fun routers p => (routers.route p.1 p.2.1 p.2.2).routers) routers

/-- **Whatever was routed before**, the routers stay. -/
theorem Stay.after (h : routers.Stay logic dataSources)
    (past : List (Metadata × Session × LogicSql)) :
    (routers.after past).Stay logic dataSources := by
  induction past generalizing routers with
  | nil => exact h
  | cons p rest ih => exact ih (h.route p.1 p.2.1 p.2.2).1

end Routers

/-! ## Rules of settings

It remains that accepted settings start there: the nodes of a sharding rule are on logical data
sources, and a group has members among the configured ones. -/

section Rules

variable {dataSources : List String} {clock : Clock} {source : RandomSource}

/-- **The sharding rule of settings is closed.** -/
theorem ShardingSettings.isClosed_of_rule {s : ShardingSettings} {rule : ShardingRule}
    (h : s.rule dataSources clock source = .ok rule) :
    rule.IsClosed ∧ rule.dataSources = dataSources := by
  obtain ⟨algorithms, -, h⟩ := bind_eq_ok.1 h
  obtain ⟨tableRules, -, h⟩ := bind_eq_ok.1 h
  obtain ⟨defaultDatabase, -, h⟩ := bind_eq_ok.1 h
  obtain ⟨defaultTable, -, h⟩ := bind_eq_ok.1 h
  obtain ⟨_, hvalid, h⟩ := bind_eq_ok.1 h
  obtain rfl := Except.ok.inj h
  exact ⟨ShardingRule.isClosed_of_validate hvalid, rfl⟩

/-- A group without a cluster has its members among the data sources. -/
theorem ReadWriteSettings.isOwn_of_group {s : ReadWriteSettings} {name : String}
    {settings : GroupSettings} {g : ReplicaGroup} (hown : settings.cluster = none)
    (h : s.group dataSources name settings = .ok g) : g.IsOwn dataSources ∧ g.name = name := by
  obtain ⟨_, hmembers, h⟩ := bind_eq_ok.1 h
  have hall : ∀ ds ∈ settings.primary :: settings.replicas, ds ∈ dataSources := by
    rw [checkMembers, hown] at hmembers
    dsimp only [Option.isSome_none] at hmembers
    rw [if_neg Bool.false_ne_true] at hmembers
    split at hmembers
    · cases hmembers
    · next hnone => simpa using hnone
  obtain ⟨hprimary, hreplicas⟩ := List.forall_mem_cons.1 hall
  split at h
  · cases h
  · obtain ⟨balancer, -, h⟩ := bind_eq_ok.1 h
    obtain rfl := Except.ok.inj h
    exact ⟨⟨hown, hprimary, hreplicas⟩, rfl⟩

/-- **The groups of settings lead to configured data sources.** -/
theorem ReadWriteSettings.leads_of_rule {s : ReadWriteSettings} {rule : ReadWriteRule}
    (hne : s.groups ≠ []) (hown : ∀ g ∈ s.groups, g.2.cluster = none)
    (h : s.rule dataSources = .ok rule) :
    rule.Leads (s.logicDataSources dataSources) dataSources := by
  obtain ⟨groups, hgroups, h⟩ := bind_eq_ok.1 h
  obtain ⟨_, -, rfl⟩ := map_eq_ok.1 h
  refine ⟨fun g hg => ?_, fun name hname => ?_, fun hlength => ?_⟩
  · obtain ⟨settings, hsettings, hgroup⟩ := exists_of_mem_mapM hgroups hg
    exact (isOwn_of_group (hown settings hsettings) hgroup).1
  · obtain hname | hname := List.mem_append.1 hname
    · obtain ⟨settings, hsettings, rfl⟩ := List.mem_map.1 hname
      obtain ⟨g, hg, hgroup⟩ := mem_of_mapM_eq_ok hgroups hsettings
      obtain ⟨-, hname⟩ := isOwn_of_group (hown settings hsettings) hgroup
      refine .inr fun hnone => List.find?_eq_none.1 hnone g hg ?_
      rw [hname]
      exact Text.sameName_refl _
    · exact .inl (List.mem_filter.1 hname).1
  · have hsame : s.groups.length = groups.length := (mapM_eq_ok.1 hgroups).length_eq
    have hpos := List.length_pos_iff.2 hne
    have hlogic : s.groups.length ≤ (s.logicDataSources dataSources).length := by
      simp [logicDataSources]
    dsimp only at hlength
    omega

/-- The last step of accepting settings: a sharding rule over the logical data sources. -/
theorem Settings.isClosed_of_sharding {s : Settings} {rules : Rules} {logic : List String}
    {readWrite : Option ReadWriteRule}
    (h : (match s.sharding with
      | some sharding => do
        let sharding ← (sharding.rule logic clock source).map some
        pure ⟨logic, sharding, readWrite⟩
      | none => do
        let sharding ← pure none
        pure ⟨logic, sharding, readWrite⟩) = Except.ok rules) :
    rules.logicDataSources = logic ∧ rules.readWrite = readWrite ∧
      ∀ rule ∈ rules.sharding, rule.IsClosed ∧ rule.dataSources = rules.logicDataSources := by
  split at h
  · obtain ⟨_, hsharding, h⟩ := bind_eq_ok.1 h
    obtain ⟨rule, hrule, rfl⟩ := map_eq_ok.1 hsharding
    obtain rfl := Except.ok.inj h
    exact ⟨rfl, rfl, fun rule' hrule' =>
      Option.some.inj hrule' ▸ ShardingSettings.isClosed_of_rule hrule⟩
  · obtain rfl := Except.ok.inj h
    exact ⟨rfl, rfl, fun rule hrule => absurd hrule (Option.not_mem_none rule)⟩

/-- Rules without groups stay where all logical data sources are configured. -/
theorem Rules.stay_of_plain {rules : Rules}
    (hsharding : ∀ rule ∈ rules.sharding,
      rule.IsClosed ∧ rule.dataSources = rules.logicDataSources)
    (hnone : rules.readWrite = none) (hplain : rules.logicDataSources ⊆ dataSources) :
    (rules.routers clock source).Stay rules.logicDataSources dataSources where
  sharding := hsharding
  groups rule hrule :=
    absurd ((Option.mem_def.1 hrule).symm.trans hnone) (Option.some_ne_none rule)
  plain _ := hplain

/-- **Rules that settings are accepted with** make routers that stay among the configured data
sources, whatever clock and random source they read. -/
theorem Settings.stay_of_rules {s : Settings} {rules : Rules}
    (h : s.rules clock source = .ok rules)
    (hown : ∀ rw ∈ s.readWrite, ∀ g ∈ rw.groups, g.2.cluster = none) (clock' : Clock)
    (source' : RandomSource) :
    (rules.routers clock' source').Stay rules.logicDataSources s.dataSources := by
  rw [Settings.rules] at h
  split at h
  · cases h
  dsimp only at h
  cases hgroups : s.readWrite with
  | none =>
    rw [hgroups] at h
    obtain ⟨hlogic, hnone, hsharding⟩ := isClosed_of_sharding h
    exact Rules.stay_of_plain hsharding hnone (hlogic ▸ List.Subset.refl _)
  | some groups =>
    rw [hgroups] at h
    dsimp only at h
    split at h
    · next hempty =>
      obtain ⟨hlogic, hnone, hsharding⟩ := isClosed_of_sharding h
      refine Rules.stay_of_plain hsharding hnone ?_
      rw [hlogic, ReadWriteSettings.logicDataSources, List.isEmpty_iff.1 hempty]
      exact List.filter_sublist.subset
    · next hne =>
      -- There are groups, so a rule is made of them, and every group leads to its own data sources.
      obtain ⟨_, hgroup, h⟩ := bind_eq_ok.1 h
      obtain ⟨rule, hrule, rfl⟩ := map_eq_ok.1 hgroup
      obtain ⟨hlogic, hsome, hsharding⟩ := isClosed_of_sharding h
      have hleads := ReadWriteSettings.leads_of_rule (by simpa using hne) (hown groups hgroups)
        hrule
      refine ⟨hsharding, fun rule' hrule' => ?_, fun hnone => ?_⟩
      · rw [hlogic]
        exact Option.some.inj (hsome.symm.trans hrule') ▸ hleads
      · cases hsome.symm.trans hnone

/-- **Statements never leave the configured data sources.**  Settings that are accepted, no group of
which follows a cluster, make routers that route any statement in any session to the data sources of
the settings, whatever was routed before. -/
theorem Settings.dataSource_of_route {s : Settings} {rules : Rules}
    (h : s.rules clock source = .ok rules)
    (hown : ∀ rw ∈ s.readWrite, ∀ g ∈ rw.groups, g.2.cluster = none) {clock' : Clock}
    {source' : RandomSource} {past : List (Metadata × Session × LogicSql)} {metadata : Metadata}
    (hmetadata : metadata.dataSources = rules.logicDataSources) {session : Session}
    {sql : LogicSql} {route : Route}
    (hroute : (((rules.routers clock' source').after past).route metadata session sql).result =
      .ok route) :
    ∀ u ∈ route.units, u.dataSource.actual ∈ s.dataSources :=
  (((Settings.stay_of_rules h hown clock' source').after past).route metadata session sql).2
    hmetadata route hroute

end Rules

/-- Orders on a data source and on another one whose name is that of a group, in capitals. -/
def ordersOnGroup : Settings where
  execution := .default
  dataSources := ["ds_0", "DS_1", "primary", "replica"]
  sharding := some
    { tables := [("t_order", ⟨"ds_0.t_order_0, DS_1.t_order_1", some ⟨"user_id", "by_user"⟩, none,
        none⟩)]
      broadcastTables := []
      defaultDatabase := none, defaultTable := none, defaultDataSource := some "ds_0"
      algorithms := [("by_user", ⟨"MOD", [("sharding-count", "2")]⟩)], keyGenerators := [] }
  readWrite := some
    { groups := [("ds_1", ⟨"primary", ["replica"], "turns", none⟩)]
      balancers := [("turns", ⟨"ROUND_ROBIN", []⟩)] }

/-- All orders, to be read. -/
def allOrders : LogicSql where
  statement := .select
    { tables := ["t_order"], list := ⟨[], false⟩, condition := none, groupBy := [], orderBy := []
      having := none, pagination := none, lock := false, subquery := false }
  sql := "SELECT * FROM t_order"
  parameters := []

/-- The second time the orders are read, one part of them comes from the replica. -/
theorem dataSource_of_route_allOrders : ∃ rules route,
    ordersOnGroup.rules (.fixed 0) ⟨0⟩ = .ok rules ∧
    (((rules.routers (.fixed 0) ⟨0⟩).after [(⟨⟨[]⟩, [], .mySQL⟩, .fresh, allOrders)]).route
      ⟨⟨[]⟩, rules.logicDataSources, .mySQL⟩ .fresh allOrders).result = .ok route ∧
    route.units.map (·.dataSource.actual) = ["ds_0", "replica"] ∧
    ∀ u ∈ route.units, u.dataSource.actual ∈ ["ds_0", "DS_1", "primary", "replica"] := by
  obtain ⟨rules, hrules⟩ : ∃ rules, ordersOnGroup.rules (.fixed 0) ⟨0⟩ = .ok rules := ⟨_, rfl⟩
  have hown : ∀ rw ∈ ordersOnGroup.readWrite, ∀ g ∈ rw.groups, g.2.cluster = none := by
    rintro rw ⟨⟩
    exact List.forall_mem_singleton.2 rfl
  obtain ⟨route, hroute, hunits⟩ : ∃ route, (((rules.routers (.fixed 0) ⟨0⟩).after
      [(⟨⟨[]⟩, [], .mySQL⟩, .fresh, allOrders)]).route ⟨⟨[]⟩, rules.logicDataSources, .mySQL⟩
        .fresh allOrders).result = .ok route ∧
      route.units.map (·.dataSource.actual) = ["ds_0", "replica"] := by
    obtain rfl := Except.ok.inj hrules
    exact ⟨_, rfl, rfl⟩
  exact ⟨rules, route, hrules, hroute, hunits,
    Settings.dataSource_of_route hrules hown rfl hroute⟩

end ScatterGather
