import Mathlib.Data.List.Pairwise
import ScatterGather.Proofs.Route.Plan
import ScatterGather.Proofs.Sharding.Derivation
import ScatterGather.Proofs.Sharding.RangeTargets
import ScatterGather.Proofs.Text.Name
import ScatterGather.Route.Chain

/-!
# Proofs/Route/Coverage — routing reaches the rows that a statement is about

A row stands at the node that the strategies of its table choose for it (`StoredAt`).
`exists_unit_of_holds`: where routing a SELECT, UPDATE or DELETE succeeds, **some unit covers the
nodes of any rows, one per table and on one data source, that satisfy the WHERE clause**.

The argument follows the route down.  A condition derived from the clause keeps the rows
(`ensures_whereConditions`); a strategy under such a condition still chooses the row's target
(`mem_chooseTargets`), hence a table its node (`mem_nodesFor`); and the combinations on a data
source hold every pick of one node per table (`mem_combinations`).
-/

namespace ScatterGather

open Sharding

/-! ## Names of tables

A statement may name a table twice or in another letter case; the tables that routing goes through
have each name once. -/

namespace Statement

/-- No two names that are left have one lower case, and none has one seen before. -/
theorem pairwise_distinctNames (seen names : List String) :
    (distinctNames seen names).Pairwise (fun a b => Text.lower a ≠ Text.lower b) ∧
      ∀ a ∈ distinctNames seen names, Text.lower a ∉ seen := by
  induction names generalizing seen with
  | nil => exact ⟨List.Pairwise.nil, by simp [distinctNames]⟩
  | cons name rest ih =>
    rw [distinctNames]
    split
    · exact ih seen
    · rename_i hnew
      obtain ⟨hpair, hseen⟩ := ih (Text.lower name :: seen)
      refine ⟨List.pairwise_cons.2 ⟨fun b hb heq => ?_, hpair⟩, List.forall_mem_cons.2 ⟨hnew, ?_⟩⟩
      · exact hseen b hb (heq ▸ List.mem_cons_self)
      · exact fun b hb hmem => hseen b hb (List.mem_cons_of_mem _ hmem)

/-- **The tables of a statement have names that do not match.** -/
theorem eq_of_sameName {s : Statement} {a b : String} (ha : a ∈ s.tables) (hb : b ∈ s.tables)
    (h : Text.sameName a b = true) : a = b := by
  have hpair := (pairwise_distinctNames [] s.namedTables).1
  have : Std.Symm fun a b : String => Text.lower a ≠ Text.lower b := ⟨fun _ _ h => h.symm⟩
  by_contra hne
  exact hpair.forall ha hb hne (Text.lower_eq_of_sameName h)

end Statement

/-! ## Targets of a kept row

What a strategy chooses under a condition has to include what it chooses for the value that the row
holds.  For a list of values this is one of them, and for a range it is up to the algorithm
(`Algorithm.mem_rangeTargets`). -/

/-- The row stands at the node that the strategies of its table's rule choose. -/
structure StoredAt (rule : ShardingRule) (r : TableRule) (row : StoredRow) (node : DataNode) :
    Prop where
  mem : node ∈ r.nodes
  dataSource : ∀ s ∈ rule.databaseStrategy r,
    s.algorithm.target r.dataSources s.column (row.cell s.column) = .ok node.dataSource
  table : ∀ s ∈ rule.tableStrategy r,
    s.algorithm.target (r.tablesIn node.dataSource) s.column (row.cell s.column) = .ok node.table

/-- What keeps a cell leaves the target of the cell. -/
theorem mem_targetsOf {s : Strategy} {targets : List String} {cell : Value} {t : String}
    {allowed : Allowed} {found : List String} (hc : cell.isPlain = true)
    (ht : s.algorithm.target targets s.column cell = .ok t) (hkeeps : allowed.Keeps cell)
    (h : s.targetsOf targets allowed = .ok found) : t ∈ found := by
  cases allowed with
  | values vs =>
    obtain ⟨t', ht', hcell⟩ := mem_of_mapM_eq_ok h hkeeps
    obtain rfl : t = t' := Except.ok.inj (ht.symm.trans hcell)
    exact ht'
  | range r =>
    have htracks := fun n => Algorithm.tracks_of_integerValue (n := n) (Value.isReal_of_isPlain hc)
    exact Algorithm.mem_rangeTargets htracks hkeeps.1 ht h

section Choice

variable {strategy : Option Strategy} {targets : List String} {table : String}
  {condition : Option ShardingCondition} {row : StoredRow} {t : String}

/-- **A strategy under a condition that keeps a row chooses the row's target.** -/
theorem mem_chooseTargets {found : List String} (hmem : t ∈ targets)
    (hplain : ∀ s ∈ strategy, (row.cell s.column).isPlain = true)
    (ht : ∀ s ∈ strategy, s.algorithm.target targets s.column (row.cell s.column) = .ok t)
    (hkeeps : ∀ c ∈ condition, ∀ s ∈ strategy, ∀ a ∈ c.allowedFor table s.column,
      a.Keeps (row.cell s.column))
    (h : chooseTargets strategy targets table condition = .ok found) : t ∈ found := by
  rw [chooseTargets.eq_def] at h
  split at h
  · rename_i s c
    split at h
    · obtain rfl := Except.ok.inj h
      exact hmem
    · rename_i hne
      obtain ⟨lists, hlists, rfl⟩ := map_eq_ok.1 h
      obtain ⟨a, ha⟩ := List.exists_mem_of_ne_nil _ hne
      obtain ⟨list, hlist, hl⟩ := mem_of_mapM_eq_ok hlists ha
      have htl : t ∈ list := mem_targetsOf (hplain s rfl) (ht s rfl) (hkeeps c rfl s rfl a ha) hl
      exact mem_distinct.2 (List.mem_flatten.2 ⟨list, hlist, htl⟩)
  · obtain rfl := Except.ok.inj h
    exact hmem

end Choice

/-! ## Nodes of a kept row

A node is a data source and a table on it, chosen one after the other by two strategies. -/

section Nodes

variable {rule : ShardingRule} {tables : List String} {rows : String → StoredRow}
  {r : TableRule} {table : String}

/-- A condition that keeps the rows keeps, of each table, the cell that it restricts; other tables
have other names. -/
theorem ShardingCondition.Keeps.allowedFor {c : ShardingCondition} {column : String}
    (h : c.Keeps tables rows)
    (hnames : ∀ a ∈ tables, ∀ b ∈ tables, Text.sameName a b = true → a = b)
    (ht : table ∈ tables) :
    ∀ a ∈ c.allowedFor table column, a.Keeps ((rows table).cell column) := by
  intro a ha
  obtain ⟨res, hres, rfl⟩ := List.mem_map.1 ha
  obtain ⟨hres, hmatch⟩ := List.mem_filter.1 hres
  obtain ⟨htable, hcolumn⟩ := (Bool.and_eq_true _ _).mp hmatch
  have hkeeps := h res hres
  obtain rfl : res.table = table := hnames _ hkeeps.table_mem _ ht htable
  rw [← (rows res.table).cell_congr hcolumn]
  exact hkeeps.allowed

/-- Whether a column is a sharding column does not depend on the case of its name. -/
theorem isShardingColumn_congr {a b : String} (h : Text.sameName a b = true) (table : String) :
    rule.isShardingColumn a table = rule.isShardingColumn b table := by
  rw [ShardingRule.isShardingColumn, ShardingRule.isShardingColumn]
  simp only [Text.sameName_congr h]

/-- The column of a strategy is a sharding column. -/
theorem isShardingColumn_of_strategy {s : Strategy} (hr : rule.find? table = some r)
    (hs : s ∈ rule.databaseStrategy r ∨ s ∈ rule.tableStrategy r) :
    rule.isShardingColumn s.column table = true := by
  have hself : Text.sameName s.column s.column = true := Text.sameName_refl _
  rw [ShardingRule.isShardingColumn, hr]
  exact (Bool.or_eq_true _ _).mpr (hs.imp (fun hs => (Option.any_eq_true _ _).2 ⟨s, hs, hself⟩)
    fun hs => (Option.any_eq_true _ _).2 ⟨s, hs, hself⟩)

/-- **The nodes of a table under a condition that keeps its row hold the row's node.** -/
theorem mem_nodesFor {condition : Option ShardingCondition} {node : DataNode}
    {found : List DataNode} (hplain : ArePlain rule tables rows)
    (hnames : ∀ a ∈ tables, ∀ b ∈ tables, Text.sameName a b = true → a = b)
    (ht : table ∈ tables) (hr : rule.find? table = some r)
    (hstored : StoredAt rule r (rows table) node)
    (hkeeps : ∀ c ∈ condition, c.Keeps tables rows)
    (h : nodesFor rule r table condition = .ok found) : node ∈ found := by
  obtain ⟨sources, hsources, h⟩ := bind_eq_ok.1 h
  obtain ⟨lists, hlists, h⟩ := bind_eq_ok.1 h
  obtain rfl := Except.ok.inj h
  have hds : node.dataSource ∈ sources := by
    refine mem_chooseTargets ?_ (fun s hs => ?_) hstored.dataSource ?_ hsources
    · exact mem_distinct.2 (List.mem_map_of_mem hstored.mem)
    · exact hplain table ht _ (isShardingColumn_of_strategy hr (Or.inl hs))
    · exact fun c hc s _ => (hkeeps c hc).allowedFor hnames ht
  obtain ⟨list, hlist, hl⟩ := mem_of_mapM_eq_ok hlists hds
  obtain ⟨names, hnodes, rfl⟩ := map_eq_ok.1 hl
  have htable : node.table ∈ names := by
    refine mem_chooseTargets ?_ (fun s hs => ?_) hstored.table ?_ hnodes
    · exact List.mem_map_of_mem (List.mem_filter.2 ⟨hstored.mem, by simp⟩)
    · exact hplain table ht _ (isShardingColumn_of_strategy hr (Or.inr hs))
    · exact fun c hc s _ => (hkeeps c hc).allowedFor hnames ht
  refine mem_distinct.2 (List.mem_flatten.2 ⟨_, hlist, ?_⟩)
  exact List.mem_map.2 ⟨node.table, htable, rfl⟩

/-- The node of the rows is found if one of the conditions of a statement keeps them, or there is no
condition. -/
theorem mem_tableNodes {conditions : ShardingConditions} {node : DataNode}
    {found : List DataNode × List (List DataNode)} (hplain : ArePlain rule tables rows)
    (hnames : ∀ a ∈ tables, ∀ b ∈ tables, Text.sameName a b = true → a = b)
    (ht : table ∈ tables) (hr : rule.find? table = some r)
    (hstored : StoredAt rule r (rows table) node)
    (hkeeps : conditions.conditions = [] ∨ ∃ c ∈ conditions.conditions, c.Keeps tables rows)
    (h : tableNodes rule table conditions = .ok found) : node ∈ found.1 := by
  obtain ⟨-, hnodes⟩ | ⟨hne, hlists, hmem⟩ := tableNodes_cases hr h
  · exact mem_nodesFor hplain hnames ht hr hstored (by simp) hnodes
  · obtain ⟨c, hc, hck⟩ := hkeeps.resolve_left hne
    obtain ⟨list, hlist, hl⟩ := mem_of_mapM_eq_ok hlists hc
    have hnode : node ∈ list :=
      mem_nodesFor hplain hnames ht hr hstored (fun c' hc' => Option.some.inj hc' ▸ hck) hl
    exact (hmem node).2 ⟨list, hlist, hnode⟩

end Nodes

/-! ## Units of picked nodes

Several tables are combined per data source.  Every pick of one node per table on a data source is
among the combinations, whatever the order of the tables. -/

/-- **The combinations on a data source hold every pick of one node per table.** -/
theorem mem_combinations {ds : String} {routed : List (String × List DataNode)}
    {actual : String → String} (h : ∀ t ∈ routed, DataNode.mk ds (actual t.1) ∈ t.2) :
    routed.map (fun t => NameMap.mk t.1 (actual t.1)) ∈ combinations ds routed := by
  induction routed with
  | nil => exact List.mem_singleton.2 rfl
  | cons t rest ih =>
    obtain ⟨ht, hrest⟩ := List.forall_mem_cons.1 h
    refine List.mem_flatMap.2 ⟨_, List.mem_filter.2 ⟨ht, by simp⟩, ?_⟩
    exact List.mem_map_of_mem (ih hrest)

/-- A data source on which every table has a node is shared. -/
theorem mem_sharedSources {ds : String} {routed : List (String × List DataNode)}
    {actual : String → String} (hne : routed ≠ [])
    (h : ∀ t ∈ routed, DataNode.mk ds (actual t.1) ∈ t.2) : ds ∈ sharedSources routed := by
  refine List.mem_filter.2 ⟨mem_distinct.2 ?_, List.all_eq_true.2 fun t ht => ?_⟩
  · obtain ⟨t, ht⟩ := List.exists_mem_of_ne_nil _ hne
    exact List.mem_flatMap.2 ⟨t, ht, List.mem_map.2 ⟨_, h t ht, rfl⟩⟩
  · exact List.any_eq_true.2 ⟨_, h t ht, by simp⟩

/-- The nodes found for tables, table by table. -/
def AreFoundFor (rule : ShardingRule) (conditions : ShardingConditions) :
    List String → List (String × List DataNode) → Prop :=
  List.Forall₂ fun t f => f.1 = t ∧ ∃ lists, tableNodes rule t conditions = .ok (f.2, lists)

section Found

variable {rule : ShardingRule} {conditions : ShardingConditions} {tables : List String}
  {routed : List (String × List DataNode)}

/-- Nodes are found for these tables and no others. -/
theorem AreFoundFor.map_fst (h : AreFoundFor rule conditions tables routed) :
    routed.map (·.1) = tables := by
  induction h with
  | nil => rfl
  | cons ht _ ih => rw [List.map_cons, ht.1, ih]

theorem AreFoundFor.of_mem (h : AreFoundFor rule conditions tables routed)
    {f : String × List DataNode} (hf : f ∈ routed) :
    f.1 ∈ tables ∧ ∃ lists, tableNodes rule f.1 conditions = .ok (f.2, lists) := by
  obtain ⟨t, ht, rfl, hnodes⟩ := exists_mem_of_forall₂ h.flip hf
  exact ⟨ht, hnodes⟩

theorem AreFoundFor.ne_nil (h : AreFoundFor rule conditions tables routed) (hne : tables ≠ []) :
    routed ≠ [] := by
  rintro rfl
  exact hne h.map_fst.symm

/-- **Several tables are routed by combining the nodes found for each of them.** -/
theorem RoutePlan.exists_routed_of_combined {broadcast : List String} {isSelect : Bool}
    {route : Route}
    (h : (combined tables broadcast).route rule conditions isSelect = .ok route) :
    ∃ routed, AreFoundFor rule conditions tables routed ∧
      route.units = (combine routed broadcast isSelect).units ∧
      route.federated = (combine routed broadcast isSelect).federated := by
  obtain ⟨found, hfound, h⟩ := bind_eq_ok.1 h
  obtain rfl := Except.ok.inj h
  refine ⟨_, List.forall₂_map_right_iff.2 ((mapM_eq_ok.1 hfound).imp fun t f hf => ?_), rfl, rfl⟩
  obtain ⟨nodes, hnodes, rfl⟩ := map_eq_ok.1 hf
  exact ⟨rfl, _, hnodes⟩

end Found

/-- A unit that renames tables of different names renames each as it says. -/
theorem RouteUnit.actualTable?_on {ds t : String} {tables : List String} {actual : String → String}
    (hnames : ∀ a ∈ tables, ∀ b ∈ tables, Text.sameName a b = true → a = b) (ht : t ∈ tables) :
    (RouteUnit.on ds (tables.map fun t => ⟨t, actual t⟩)).actualTable? t = some (actual t) := by
  rw [actualTable?, Option.map_eq_some_iff]
  cases hfind : (RouteUnit.on ds (tables.map fun t => NameMap.mk t (actual t))).tables.find?
      fun m => Text.sameName m.logic t with
  | none =>
    exact absurd (Text.sameName_refl t)
      (List.find?_eq_none.1 hfind ⟨t, actual t⟩ (List.mem_map_of_mem ht))
  | some m =>
    obtain ⟨a, ha, rfl⟩ := List.mem_map.1 (List.mem_of_find?_eq_some hfind)
    obtain rfl : a = t := hnames a ha t ht (by simpa using List.find?_some hfind)
    exact ⟨_, rfl, rfl⟩

/-! ## The route of a statement

The clause keeps the rows, so does one of the conditions derived from it, and from there the
sections above lead to a unit. -/

/-- Whether the statement picks the rows it is about by a WHERE clause. -/
def Statement.picksRows : Statement → Bool
  | select _ | update _ | delete _ => true
  | insert _ | ddl _ | dal _ => false

theorem Statement.isDml_of_picksRows {statement : Statement} (h : statement.picksRows = true) :
    statement.isDml = true := by
  cases statement with
  | select _ | update _ | delete _ => rfl
  | insert _ | ddl _ | dal _ => cases h

/-- A statement without a subquery uses all of its conditions. -/
theorem needsLastOnly_eq_false {rule : ShardingRule} {statement : Statement}
    (hpicks : statement.picksRows = true) (hsub : statement.hasSubquery = false) :
    needsLastOnly rule statement = false := by
  cases statement with
  | select s =>
    have hsub : s.subquery = false := hsub
    rw [needsLastOnly, hsub, Bool.false_and]
  | _ => first | rfl | simp [Statement.picksRows] at hpicks

/-- The conditions of a statement that picks rows are those of its WHERE clause. -/
theorem deriveConditions_result {rule : ShardingRule} {schema : Schema} {clock : Clock}
    {statement : Statement} {parameters : List Value} (hpicks : statement.picksRows = true) :
    (deriveConditions rule schema clock statement parameters).result =
      ((whereConditions rule statement.tables parameters statement.condition?).run clock).1.map
        fun conditions => ⟨conditions, none⟩ := by
  cases statement <;> first | rfl | simp [Statement.picksRows] at hpicks

/-- What routing derives from a statement that picks rows without a subquery. -/
theorem routingConditions_eq_ok {rule : ShardingRule} {schema : Schema} {clock : Clock}
    {sql : LogicSql} {conditions : ShardingConditions} (hpicks : sql.statement.picksRows = true)
    (hsub : sql.statement.hasSubquery = false)
    (h : (routingConditions rule schema clock sql).result = .ok conditions) :
    ∃ c, (whereConditions rule sql.statement.tables sql.parameters sql.statement.condition?).run
      clock = (.ok conditions.conditions, c) := by
  rw [routingConditions, needsLastOnly_eq_false hpicks hsub, if_neg Bool.false_ne_true,
    deriveConditions_result hpicks] at h
  obtain ⟨cs, hcs, rfl⟩ := map_eq_ok.1 h
  exact ⟨_, Prod.ext hcs rfl⟩

/-- Tables that are sharded and not broadcast are routed by their own nodes. -/
theorem RoutePlan.choose_eq {rule : ShardingRule} {statement : Statement}
    {conditions : ShardingConditions} (hpicks : statement.picksRows = true)
    (hne : statement.tables ≠ [])
    (hsharded : ∀ t ∈ statement.tables, rule.isSharded t = true ∧ rule.isBroadcast t = false)
    (hnever : conditions.areNever = false) :
    (∃ t, statement.tables = [t] ∧ choose rule statement conditions = oneTable t []) ∨
      choose rule statement conditions = combined statement.tables [] := by
  have hplain : statement.tables.filter rule.isBroadcast = [] :=
    List.filter_eq_nil_iff.2 fun t ht => by simp [(hsharded t ht).2]
  have hamong : rule.shardedAmong statement.tables = statement.tables :=
    List.filter_eq_self.2 fun t ht => (hsharded t ht).1
  have hall : rule.allBroadcast statement.tables = false := by
    obtain ⟨t, ht⟩ := List.exists_mem_of_ne_nil _ hne
    rw [ShardingRule.allBroadcast, Bool.and_eq_false_iff, List.all_eq_false]
    exact .inr ⟨t, ht, by simp [(hsharded t ht).2]⟩
  rw [choose_eq_ofDml (Statement.isDml_of_picksRows hpicks)]
  obtain hone | hmany := Nat.eq_or_lt_of_le (List.length_pos_iff.2 hne)
  · obtain ⟨t, htables⟩ := List.length_eq_one_iff.1 hone.symm
    have hplan : IsRowPlan rule statement.tables conditions.areNever _ :=
      .oneTable hall (hamong.trans htables) hnever
    rw [hplain] at hplan
    exact .inl ⟨t, htables, ofDml_eq_iff.2 hplan⟩
  · have hplan : IsRowPlan rule statement.tables conditions.areNever _ :=
      .combined hall (hamong.symm ▸ hmany) hnever
    rw [hplain, hamong] at hplan
    exact .inr (ofDml_eq_iff.2 hplan)

section Route

variable {rule : ShardingRule} {statement : Statement} {conditions : ShardingConditions}
  {rows : String → StoredRow} {actual : String → String} {ds : String}

/-- Conditions that keep the rows can be satisfied. -/
theorem areNever_of_keeps {tables : List String}
    (hkeeps : conditions.conditions = [] ∨ ∃ c ∈ conditions.conditions, c.Keeps tables rows) :
    conditions.areNever = false := by
  rw [ShardingConditions.areNever]
  obtain hnil | ⟨c, hc, hck⟩ := hkeeps
  · simp [hnil]
  · refine Bool.and_eq_false_imp.2 fun _ => List.all_eq_false.2 ⟨c, hc, ?_⟩
    simp [hck.not_isNever]

/-- **One table goes to a unit of each of its nodes.** -/
theorem mem_units_of_oneTable {t : String} {broadcast : List String} {isSelect : Bool}
    {route : Route} {n : DataNode}
    (hnode : ∀ nodes, tableNodes rule t conditions = .ok nodes → n ∈ nodes.1)
    (h : (RoutePlan.oneTable t broadcast).route rule conditions isSelect = .ok route) :
    RouteUnit.on n.dataSource (⟨t, n.table⟩ :: unrenamed broadcast) ∈ route.units := by
  obtain ⟨nodes, hnodes, h⟩ := bind_eq_ok.1 h
  obtain rfl := Except.ok.inj h
  exact Route.mem_units_addAll.2 (Or.inr (List.mem_map.2 ⟨n, hnode nodes hnodes, rfl⟩))

/-- **Several tables go to a unit of every pick of their nodes on one data source.** -/
theorem mem_units_of_combined {tables broadcast : List String} {isSelect : Bool} {route : Route}
    (hne : tables ≠ [])
    (hnode : ∀ t ∈ tables, ∀ nodes, tableNodes rule t conditions = .ok nodes →
      DataNode.mk ds (actual t) ∈ nodes.1)
    (h : (RoutePlan.combined tables broadcast).route rule conditions isSelect = .ok route) :
    RouteUnit.on ds (tables.map (fun t => ⟨t, actual t⟩) ++ unrenamed broadcast) ∈
      route.units := by
  obtain ⟨routed, hfound, hunits, -⟩ := RoutePlan.exists_routed_of_combined h
  have hpick : ∀ f ∈ routed, DataNode.mk ds (actual f.1) ∈ f.2 := by
    intro f hf
    obtain ⟨ht, _, hnodes⟩ := hfound.of_mem hf
    exact hnode f.1 ht _ hnodes
  rw [hunits, ← hfound.map_fst, List.map_map]
  refine Route.mem_units_addAll.2 (Or.inr (List.mem_flatMap.2 ⟨ds, ?_, ?_⟩))
  · exact mem_sharedSources (hfound.ne_nil hne) hpick
  · exact List.mem_map.2 ⟨_, mem_combinations hpick, rfl⟩

/-- **Conditions that keep the rows route to a unit of their nodes.** -/
theorem exists_unit_of_keeps {route : Route} (hpicks : statement.picksRows = true)
    (hne : statement.tables ≠ [])
    (hsharded : ∀ t ∈ statement.tables, rule.isSharded t = true ∧ rule.isBroadcast t = false)
    (hplain : ArePlain rule statement.tables rows)
    (hstored : ∀ t ∈ statement.tables, ∀ r ∈ rule.find? t,
      StoredAt rule r (rows t) ⟨ds, actual t⟩)
    (hkeeps : conditions.conditions = [] ∨
      ∃ c ∈ conditions.conditions, c.Keeps statement.tables rows)
    (h : (RoutePlan.choose rule statement conditions).route rule conditions statement.isSelect =
      .ok route) :
    ∃ u ∈ route.units, u.dataSource.actual = ds ∧
      ∀ t ∈ statement.tables, u.actualTable? t = some (actual t) := by
  have hnames : ∀ a ∈ statement.tables, ∀ b ∈ statement.tables,
      Text.sameName a b = true → a = b := fun a ha b hb => Statement.eq_of_sameName ha hb
  have hnode : ∀ t ∈ statement.tables, ∀ nodes, tableNodes rule t conditions = .ok nodes →
      DataNode.mk ds (actual t) ∈ nodes.1 := by
    intro t ht nodes hnodes
    obtain ⟨r, hr⟩ := Option.isSome_iff_exists.1 (hsharded t ht).1
    exact mem_tableNodes hplain hnames ht hr (hstored t ht r hr) hkeeps hnodes
  -- either way the unit wanted renames every table as `actual` says
  refine ⟨RouteUnit.on ds (statement.tables.map fun t => ⟨t, actual t⟩), ?_, rfl,
    fun t ht => RouteUnit.actualTable?_on hnames ht⟩
  obtain ⟨t, htables, hplan⟩ | hplan :=
    RoutePlan.choose_eq hpicks hne hsharded (areNever_of_keeps hkeeps)
  · rw [hplan] at h
    rw [htables]
    exact mem_units_of_oneTable (hnode t (htables ▸ List.mem_cons_self)) h
  · rw [hplan] at h
    have hmem := mem_units_of_combined hne hnode h
    rwa [show unrenamed [] = [] from rfl, List.append_nil] at hmem

/-- **Routing never loses a row.**  Where a SELECT, UPDATE or DELETE over sharded tables is routed,
one unit covers the nodes of any rows that satisfy its WHERE clause: rows of plain values, one per
table, that stand on one data source where the strategies put them.  `truth` says which predicates
hold of them: a predicate on a sharding column as the row's cell has it, any other at will. -/
theorem exists_unit_of_holds {schema : Schema} {now : Moment} {sql : LogicSql}
    {truth : Predicate → Prop} {route : Route} (hpicks : sql.statement.picksRows = true)
    (hsub : sql.statement.hasSubquery = false) (hne : sql.statement.tables ≠ [])
    (hsharded : ∀ t ∈ sql.statement.tables, rule.isSharded t = true ∧ rule.isBroadcast t = false)
    (hplain : ArePlain rule sql.statement.tables rows)
    (hstored : ∀ t ∈ sql.statement.tables, ∀ r ∈ rule.find? t,
      StoredAt rule r (rows t) ⟨ds, actual t⟩)
    (hexact : ∀ c ∈ sql.statement.condition?, ∀ p ∈ c.predicates,
      p.IsExact now sql.parameters)
    (htruth : ∀ c ∈ sql.statement.condition?, ∀ p ∈ c.predicates, truth p →
      Meets rule sql.statement.tables now sql.parameters rows p)
    (hholds : ∀ c ∈ sql.statement.condition?, c.Holds truth)
    (hconditions : (routingConditions rule schema (Clock.fixed now) sql).result =
      .ok conditions)
    (hroute : (RoutePlan.choose rule sql.statement conditions).route rule conditions
      sql.statement.isSelect = .ok route) :
    ∃ u ∈ route.units, u.dataSource.actual = ds ∧
      ∀ t ∈ sql.statement.tables, u.actualTable? t = some (actual t) := by
  obtain ⟨c, hrun⟩ := routingConditions_eq_ok hpicks hsub hconditions
  obtain ⟨-, hkeeps⟩ := ensures_whereConditions hplain hexact htruth hholds _ _ hrun
  exact exists_unit_of_keeps hpicks hne hsharded hplain hstored hkeeps hroute

end Route

/-! ## A join

The theorem's premises, all of them met at once: two tables, a database and a table strategy, a
bound parameter, a list and a range. -/

/-- A row given by its cells, NULL elsewhere. -/
def StoredRow.ofCells (cells : List (String × Value)) : StoredRow where
  cell name := ((cells.find? fun c => Text.sameName c.1 name).map (·.2)).getD .null
  cell_congr {a b} h := by
    have hsame : (fun c : String × Value => Text.sameName c.1 a) =
        fun c => Text.sameName c.1 b := by
      funext c
      rw [Bool.eq_iff_iff, Text.sameName_iff, Text.sameName_iff, Text.sameName_iff.1 h]
    rw [hsame]

/-- Two tables on two data sources each, both spread by user and then by order. -/
def ordersAndItems : ShardingRule where
  dataSources := ["ds_0", "ds_1"]
  tableRules := ["t_order", "t_item"].map fun table =>
    { logicTable := table
      nodes := ["ds_0", "ds_1"].flatMap fun ds => [⟨ds, table ++ "_0"⟩, ⟨ds, table ++ "_1"⟩]
      database := none
      table := some ⟨"order_id", "by_order", .modulo 2⟩
      key := none }
  broadcastTables := []
  defaultDatabase := some ⟨"user_id", "by_user", .modulo 2⟩
  defaultTable := none
  defaultDataSource := none

/-- Orders and items of user 3 whose order is listed or lies in a range. -/
def ordersOfUser : LogicSql where
  statement := .select
    { tables := ["t_order", "T_ITEM"]
      list := ⟨[], false⟩
      condition := some (.and (.test (.compare .equal "user_id" (.parameter 0)))
        (.or (.test (.among "order_id" [.literal (.integer 4), .literal (.integer 6)]))
          (.test (.between "order_id" (.literal (.integer 8)) (.literal (.integer 9))))))
      groupBy := [], orderBy := [], having := none, pagination := none, lock := false
      subquery := false }
  sql := "SELECT * FROM t_order JOIN T_ITEM ..."
  parameters := [.integer 3]

/-- The row of user 3 in order 4. -/
def userRow : StoredRow := StoredRow.ofCells [("user_id", .integer 3), ("order_id", .integer 4)]

/-- The predicates that hold of the row: all but the range of orders. -/
def IsListed (p : Predicate) : Prop :=
  p ≠ .between "order_id" (.literal (.integer 8)) (.literal (.integer 9))

theorem arePlain_userRow :
    ArePlain ordersAndItems ordersOfUser.statement.tables fun _ => userRow := by
  have hcolumns : ∀ column, (Text.sameName "user_id" column || Text.sameName "order_id" column) =
      true → (userRow.cell column).isPlain = true := by
    intro column hcolumn
    obtain h | h := (Bool.or_eq_true _ _).mp hcolumn <;>
      rw [← userRow.cell_congr h] <;> decide
  rw [ArePlain, show ordersOfUser.statement.tables = ["t_order", "T_ITEM"] from rfl]
  simp only [List.forall_mem_cons]
  exact ⟨hcolumns, hcolumns, by simp⟩

theorem storedAt_userRow : ∀ t ∈ ordersOfUser.statement.tables, ∀ r ∈ ordersAndItems.find? t,
    StoredAt ordersAndItems r userRow
      ⟨"ds_1", if t = "t_order" then "t_order_0" else "t_item_0"⟩ := by
  rw [show ordersOfUser.statement.tables = ["t_order", "T_ITEM"] from rfl]
  simp only [List.forall_mem_cons]
  refine ⟨?_, ?_, by simp⟩ <;> rintro r ⟨⟩ <;>
    refine ⟨by decide, ?_, ?_⟩ <;> rintro s ⟨⟩ <;> rfl

/-- The row has the user of the clause, and one of the orders that it lists. -/
theorem meets_userRow : ∀ c ∈ ordersOfUser.statement.condition?, ∀ p ∈ c.predicates, IsListed p →
    Meets ordersAndItems ordersOfUser.statement.tables 0
      ordersOfUser.parameters (fun _ => userRow) p := by
  rintro c ⟨⟩
  simp only [Condition.predicates, List.cons_append, List.nil_append, List.forall_mem_cons]
  refine ⟨fun _ o ho => ?_, fun _ o ho _ => ?_, fun h => absurd rfl h, by simp⟩
  · have ho : o = ("t_order", "user_id") ∨ o = ("T_ITEM", "user_id") := by
      simpa using (show o ∈ [("t_order", "user_id"), ("T_ITEM", "user_id")] from ho)
    rintro b ⟨⟩
    obtain rfl | rfl := ho <;> rfl
  · have ho : o = ("t_order", "order_id") ∨ o = ("T_ITEM", "order_id") := by
      simpa using (show o ∈ [("t_order", "order_id"), ("T_ITEM", "order_id")] from ho)
    refine ⟨.literal (.integer 4), List.mem_cons_self, ?_⟩
    obtain rfl | rfl := ho <;> rfl

theorem exists_unit_of_ordersOfUser : ∃ conditions route,
    (routingConditions ordersAndItems ⟨[]⟩ (Clock.fixed 0) ordersOfUser).result =
      .ok conditions ∧
    (RoutePlan.choose ordersAndItems ordersOfUser.statement conditions).route ordersAndItems
      conditions ordersOfUser.statement.isSelect = .ok route ∧
    ∃ u ∈ route.units, u.dataSource.actual = "ds_1" ∧ ∀ t ∈ ordersOfUser.statement.tables,
      u.actualTable? t = some (if t = "t_order" then "t_order_0" else "t_item_0") := by
  have htables : ordersOfUser.statement.tables = ["t_order", "T_ITEM"] := rfl
  have hne : ordersOfUser.statement.tables ≠ [] := by
    rw [htables]
    exact List.cons_ne_nil _ _
  have hsharded : ∀ t ∈ ordersOfUser.statement.tables,
      ordersAndItems.isSharded t = true ∧ ordersAndItems.isBroadcast t = false := by
    rw [htables]
    decide +kernel
  have hexact : ∀ c ∈ ordersOfUser.statement.condition?, ∀ p ∈ c.predicates,
      p.IsExact 0 ordersOfUser.parameters := by
    rintro c ⟨⟩
    simp [Condition.predicates, Predicate.IsExact, Predicate.operands, Expression.valueAt,
      ordersOfUser, Value.isReal]
  have hholds : ∀ c ∈ ordersOfUser.statement.condition?, c.Holds IsListed := by
    rintro c ⟨⟩
    exact ⟨Predicate.noConfusion, Or.inl Predicate.noConfusion⟩
  obtain ⟨conditions, route, hconditions, hroute⟩ : ∃ conditions route,
      (routingConditions ordersAndItems ⟨[]⟩ (Clock.fixed 0) ordersOfUser).result =
        .ok conditions ∧
      (RoutePlan.choose ordersAndItems ordersOfUser.statement conditions).route ordersAndItems
        conditions ordersOfUser.statement.isSelect = .ok route := ⟨_, _, rfl, rfl⟩
  exact ⟨conditions, route, hconditions, hroute, exists_unit_of_holds rfl rfl hne hsharded
    arePlain_userRow storedAt_userRow hexact meets_userRow hholds hconditions hroute⟩

end ScatterGather
