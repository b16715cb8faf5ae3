import ScatterGather.Proofs.Route.Clause

/-!
# Proofs/Route/Membership — IN against equalities joined by OR

`c = v₁ OR … OR c = vₙ` leads to one condition per value, `c IN (v₁, …, vₙ)` to one condition with
all of them (`whereConditions_anyEqual`, `exists_whereConditions_among`).  A data source and a table
on it are chosen one after the other, **each for any of the condition's values**
(`mem_nodesFor_pin`).  So the two clauses lead to the same units unless both choices look at the
column; then IN also pairs the data source of one value with the table of another
(`shardingRoute_among`).
-/

namespace ScatterGather

open Sharding

/-! ## The two clauses

Where operands are known, both clauses read the same values.  They differ in what they make of them:
one condition each, or one for all. -/

/-- A condition that pins a column of a table to some values. -/
def ShardingCondition.pin (table column : String) (vs : List Value) : ShardingCondition :=
  ⟨[⟨table, column, .values vs⟩]⟩

namespace Condition

/-- The equalities of a column with each of the operands, joined by OR. -/
def anyEqual (column : String) (first : Expression) (rest : List Expression) : Condition :=
  rest.foldl (fun w e => w.or (test (.compare .equal column e)))
    (test (.compare .equal column first))

variable {column : String} {first : Expression} {rest : List Expression}

/-- The groups of an OR of equalities have one predicate each. -/
theorem andGroups_anyEqual : (anyEqual column first rest).andGroups =
    (first :: rest).map fun e => [.compare .equal column e] := by
  have hfold : ∀ (rest : List Expression) (w : Condition),
      (rest.foldl (fun w e => w.or (test (.compare .equal column e))) w).andGroups =
        w.andGroups ++ rest.map fun e => [.compare .equal column e] := by
    intro rest
    induction rest with
    | nil => simp
    | cons e rest ih =>
      intro w
      rw [List.foldl_cons, ih]
      simp [andGroups]
  exact hfold rest _

/-- No value of an OR is pinned. -/
theorem pinnedValue_anyEqual (hrest : rest ≠ []) (name : String) (parameters : List Value) :
    pinnedValue name parameters (anyEqual column first rest) = .ok none := by
  obtain ⟨init, last, rfl⟩ := (List.eq_nil_or_concat rest).resolve_left hrest
  rw [anyEqual, List.concat_eq_append, List.foldl_concat]
  rfl

end Condition

namespace Sharding

variable {rule : ShardingRule} {t column : String} {parameters : List Value}
  {operands : List Expression} {values : List Value}

/-- **OR leads to one condition per value.** -/
theorem groupConditions_equal (hcolumn : owningTables rule [t] column ≠ [])
    (hvalues : List.Forall₂ (fun e v => e.resolve parameters = .ok (some v)) operands values)
    (hplain : ∀ v ∈ values, v.isPlain = true) :
    groupConditions rule [t] parameters (operands.map fun e => [.compare .equal column e]) =
      pure (some (values.map fun v => .pin t (bareColumn column) [v])) := by
  induction hvalues with
  | nil => rfl
  | @cons e v operands values he _ ih =>
    obtain ⟨hv, hrest⟩ := List.forall_mem_cons.1 hplain
    have hgroup : groupRestrictions rule [t] parameters [] [.compare .equal column e] =
        pure [⟨t, bareColumn column, .values [v]⟩] :=
      groupRestrictions_cons_equal hcolumn he hv [] []
    rw [List.map_cons, groupConditions, hgroup]
    simp [ih hrest, ShardingCondition.pin]

/-- The values of a list of known operands. -/
theorem exists_resolveList_eq (column : String) (found : List Value)
    (hvalues : List.Forall₂ (fun e v => e.resolve parameters = .ok (some v)) operands values)
    (hplain : ∀ v ∈ values, v.isPlain = true) :
    ∃ vs, resolveList parameters column found operands = pure (some vs) ∧
      ∀ v, v ∈ vs ↔ v ∈ found ∨ v ∈ values := by
  induction hvalues generalizing found with
  | nil => exact ⟨found, rfl, by simp⟩
  | @cons e v operands values he _ ih =>
    obtain ⟨hv, hrest⟩ := List.forall_mem_cons.1 hplain
    obtain ⟨vs, hvs, hmem⟩ := ih (if found.any fun w => w.equals v then found else found ++ [v])
      hrest
    refine ⟨vs, ?_, fun u => ?_⟩
    · rw [resolveList, resolveOperand_eq_pure he hv]
      simpa using hvs
    · rw [hmem, List.mem_cons]
      split
      · rename_i hany
        obtain ⟨w, hw, heq⟩ := List.any_eq_true.1 hany
        obtain rfl := (Value.equals_iff_of_isPlain hv).1 heq
        exact ⟨fun h => h.imp_right Or.inr, fun h => h.elim Or.inl fun h => h.elim
          (fun hu => Or.inl (hu ▸ hw)) Or.inr⟩
      · simp [or_assoc]

/-- The conditions of the equalities. -/
theorem whereConditions_anyEqual {first : Expression} {rest : List Expression}
    (hcolumn : owningTables rule [t] column ≠ [])
    (hvalues : List.Forall₂ (fun e v => e.resolve parameters = .ok (some v)) (first :: rest) values)
    (hplain : ∀ v ∈ values, v.isPlain = true) :
    whereConditions rule [t] parameters (some (.anyEqual column first rest)) =
      pure (values.map fun v => .pin t (bareColumn column) [v]) := by
  rw [whereConditions, Condition.andGroups_anyEqual, groupConditions_equal hcolumn hvalues hplain]
  simp

/-- **IN leads to one condition with all values.** -/
theorem exists_whereConditions_among (hcolumn : owningTables rule [t] column ≠ [])
    (hvalues : List.Forall₂ (fun e v => e.resolve parameters = .ok (some v)) operands values)
    (hplain : ∀ v ∈ values, v.isPlain = true) :
    ∃ vs, (∀ v, v ∈ vs ↔ v ∈ values) ∧
      whereConditions rule [t] parameters (some (.test (.among column operands))) =
        pure [.pin t (bareColumn column) vs] := by
  obtain ⟨vs, hvs, hmem⟩ := exists_resolveList_eq column [] hvalues hplain
  refine ⟨vs, fun v => (hmem v).trans (by simp), ?_⟩
  have hrestrictions : restrictionsOf rule [t] parameters (.among column operands) =
      pure [⟨t, bareColumn column, .values vs⟩] := by
    rw [restrictionsOf_of_allowedBy (a := .values vs) rfl (by simp [allowedBy, hvs]),
      Predicate.column, (owningTables_singleton hcolumn).1]
    rfl
  simp [whereConditions, Condition.andGroups, groupConditions, groupRestrictions, hrestrictions,
    ShardingCondition.restrictList, ShardingCondition.pin]

end Sharding

/-! ## Targets and nodes of a pinned column

A condition with several values lets the two choices of a node be made for different values.  A
strategy that is about another column does not notice. -/

/-- The strategy is about the column. -/
def Strategy.Uses (name : String) (s : Strategy) : Prop := Text.sameName name s.column = true

instance (name : String) (s : Strategy) : Decidable (s.Uses name) :=
  inferInstanceAs (Decidable (Text.sameName name s.column = true))

/-- A strategy may choose the target for a value of the column: its target, where the strategy is
about the column, and any target where it is not. -/
def MayChoose (strategy : Option Strategy) (targets : List String) (name : String) (v : Value)
    (target : String) : Prop :=
  target ∈ targets ∧
    ∀ s ∈ strategy, s.Uses name → s.algorithm.target targets s.column v = .ok target

section Targets

variable {strategy : Option Strategy} {s : Strategy} {targets found : List String}
  {t name : String} {vs : List Value}

/-- A strategy is about the column or about another one. -/
theorem uses_cases (strategy : Option Strategy) (name : String) :
    (∀ s ∈ strategy, ¬ s.Uses name) ∨ ∃ s, strategy = some s ∧ s.Uses name := by
  cases strategy with
  | none => exact Or.inl nofun
  | some s =>
    by_cases h : s.Uses name
    · exact Or.inr ⟨s, rfl, h⟩
    · exact Or.inl fun s' hs' => Option.some.inj hs' ▸ h

/-- A strategy that is about another column keeps all targets. -/
theorem chooseTargets_pin_of_not_uses (h : ∀ s ∈ strategy, ¬ s.Uses name) :
    chooseTargets strategy targets t (some (.pin t name vs)) = .ok targets := by
  cases strategy with
  | none => rfl
  | some s =>
    have hs : Text.sameName name s.column = false := by simpa [Strategy.Uses] using h s rfl
    simp [chooseTargets, ShardingCondition.allowedFor, ShardingCondition.pin, hs]

/-- A strategy that is about the column takes the targets of the values. -/
theorem chooseTargets_pin_of_uses (h : s.Uses name) :
    chooseTargets (some s) targets t (some (.pin t name vs)) =
      (vs.mapM fun v => s.algorithm.target targets s.column v).map distinct := by
  have hs : Text.sameName name s.column = true := h
  have hallowed : (ShardingCondition.pin t name vs).allowedFor t s.column = [.values vs] := by
    simp [ShardingCondition.allowedFor, ShardingCondition.pin, hs]
  rw [chooseTargets, hallowed]
  simp only [List.mapM_cons, List.mapM_nil, Strategy.targetsOf]
  cases vs.mapM fun v => s.algorithm.target targets s.column v <;>
    simp [Except.map, bind, Except.bind, pure, Except.pure]

/-- **What a strategy chooses for a pinned column**: whatever it may choose for one of the
values. -/
theorem mem_chooseTargets_pin (hne : vs ≠ [])
    (h : chooseTargets strategy targets t (some (.pin t name vs)) = .ok found) (x : String) :
    x ∈ found ↔ ∃ v ∈ vs, MayChoose strategy targets name v x := by
  obtain huses | ⟨s, rfl, huses⟩ := uses_cases strategy name
  · rw [chooseTargets_pin_of_not_uses huses] at h
    cases h
    obtain ⟨v, hv⟩ := List.exists_mem_of_ne_nil _ hne
    exact ⟨fun hx => ⟨v, hv, hx, fun s hs hu => absurd hu (huses s hs)⟩, fun ⟨_, _, hx, _⟩ => hx⟩
  · rw [chooseTargets_pin_of_uses huses] at h
    obtain ⟨list, hlist, rfl⟩ := map_eq_ok.1 h
    rw [mem_distinct]
    constructor
    · intro hx
      obtain ⟨v, hv, htarget⟩ := exists_of_mem_mapM hlist hx
      exact ⟨v, hv, Algorithm.mem_of_target htarget, fun s' hs' _ => Option.some.inj hs' ▸ htarget⟩
    · rintro ⟨v, hv, -, htarget⟩
      obtain ⟨x', hx', htarget'⟩ := mem_of_mapM_eq_ok hlist hv
      cases (htarget s rfl huses).symm.trans htarget'
      exact hx'

/-- If each value has its target, so have all of them. -/
theorem exists_chooseTargets_pin
    (h : ∀ v ∈ vs, ∃ found, chooseTargets strategy targets t (some (.pin t name [v])) = .ok found) :
    ∃ found, chooseTargets strategy targets t (some (.pin t name vs)) = .ok found := by
  obtain huses | ⟨s, rfl, huses⟩ := uses_cases strategy name
  · exact ⟨targets, chooseTargets_pin_of_not_uses huses⟩
  · obtain ⟨list, hlist⟩ := exists_mapM_eq_ok (f := fun v => s.algorithm.target targets s.column v)
      fun v hv => by
        obtain ⟨found, hfound⟩ := h v hv
        rw [chooseTargets_pin_of_uses huses] at hfound
        obtain ⟨list, hlist, -⟩ := map_eq_ok.1 hfound
        obtain ⟨x, hx, -⟩ := mapM_singleton_eq_ok.1 hlist
        exact ⟨x, hx⟩
    exact ⟨_, by rw [chooseTargets_pin_of_uses huses, hlist]; rfl⟩

/-- A strategy that is about another column may choose for one value what it may for another. -/
theorem MayChoose.of_not_uses {v w : Value} {x : String} (hnot : ∀ s ∈ strategy, ¬ s.Uses name)
    (h : MayChoose strategy targets name v x) : MayChoose strategy targets name w x :=
  ⟨h.1, fun s hs huses => absurd huses (hnot s hs)⟩

/-- Where it is about the column, it may choose the value's target alone. -/
theorem mayChoose_iff_of_uses {v : Value} {x : String} (huses : s.Uses name) :
    MayChoose (some s) targets name v x ↔
      s.algorithm.target targets s.column v = .ok x := by
  constructor
  · exact fun h => h.2 s rfl huses
  · intro h
    exact ⟨Algorithm.mem_of_target h, fun s' hs' _ => Option.some.inj hs' ▸ h⟩

end Targets

section Nodes

variable {rule : ShardingRule} {r : TableRule} {t name : String} {vs : List Value}
  {nodes : List DataNode}

/-- **The nodes of a pinned column**: the data source may be chosen for one value, the table on it
for another. -/
theorem mem_nodesFor_pin (hne : vs ≠ [])
    (h : nodesFor rule r t (some (.pin t name vs)) = .ok nodes) (n : DataNode) :
    n ∈ nodes ↔
      (∃ v ∈ vs, MayChoose (rule.databaseStrategy r) r.dataSources name v n.dataSource) ∧
        ∃ v ∈ vs, MayChoose (rule.tableStrategy r) (r.tablesIn n.dataSource) name v n.table := by
  obtain ⟨sources, hsources, h⟩ := bind_eq_ok.1 h
  obtain ⟨lists, hlists, h⟩ := bind_eq_ok.1 h
  cases h
  rw [mem_distinct, List.mem_flatten, ← mem_chooseTargets_pin hne hsources]
  constructor
  · rintro ⟨list, hlist, hn⟩
    obtain ⟨ds, hds, hl⟩ := exists_of_mem_mapM hlists hlist
    obtain ⟨names, hnames, rfl⟩ := map_eq_ok.1 hl
    obtain ⟨x, hx, rfl⟩ := List.mem_map.1 hn
    exact ⟨hds, (mem_chooseTargets_pin hne hnames x).1 hx⟩
  · rintro ⟨hds, htable⟩
    obtain ⟨list, hlist, hl⟩ := mem_of_mapM_eq_ok hlists hds
    obtain ⟨names, hnames, rfl⟩ := map_eq_ok.1 hl
    exact ⟨_, hlist, List.mem_map.2 ⟨n.table, (mem_chooseTargets_pin hne hnames _).2 htable, rfl⟩⟩

/-- **Where only one of the two choices is about the column**, it can be made for all values if it
can be made for each. -/
theorem exists_nodesFor_pin (hone : (∀ s ∈ rule.databaseStrategy r, ¬ s.Uses name) ∨
      ∀ s ∈ rule.tableStrategy r, ¬ s.Uses name)
    (h : ∀ v ∈ vs, ∃ nodes, nodesFor rule r t (some (.pin t name [v])) = .ok nodes) :
    ∃ nodes, nodesFor rule r t (some (.pin t name vs)) = .ok nodes := by
  obtain ⟨sources, hsources⟩ : ∃ sources, chooseTargets (rule.databaseStrategy r) r.dataSources t
      (some (.pin t name vs)) = .ok sources := by
    refine exists_chooseTargets_pin fun v hv => ?_
    obtain ⟨nodes, hnodes⟩ := h v hv
    obtain ⟨sources, hsources, -⟩ := bind_eq_ok.1 hnodes
    exact ⟨sources, hsources⟩
  have htables : ∀ ds ∈ sources, ∃ names, chooseTargets (rule.tableStrategy r) (r.tablesIn ds) t
      (some (.pin t name vs)) = .ok names := by
    intro ds hds
    obtain hdatabase | htable := hone
    · rw [chooseTargets_pin_of_not_uses hdatabase] at hsources
      cases hsources
      refine exists_chooseTargets_pin fun v hv => ?_
      obtain ⟨nodes, hnodes⟩ := h v hv
      obtain ⟨sources, hsources, hnodes⟩ := bind_eq_ok.1 hnodes
      rw [chooseTargets_pin_of_not_uses hdatabase] at hsources
      cases hsources
      obtain ⟨lists, hlists, -⟩ := bind_eq_ok.1 hnodes
      obtain ⟨list, -, hl⟩ := mem_of_mapM_eq_ok hlists hds
      obtain ⟨names, hnames, -⟩ := map_eq_ok.1 hl
      exact ⟨names, hnames⟩
    · exact ⟨_, chooseTargets_pin_of_not_uses htable⟩
  obtain ⟨lists, hlists⟩ := exists_mapM_eq_ok (l := sources) (f := fun ds =>
    (chooseTargets (rule.tableStrategy r) (r.tablesIn ds) t (some (.pin t name vs))).map
      fun tables => tables.map fun x => DataNode.mk ds x) fun ds hds =>
        (htables ds hds).imp' _ fun names hnames => by rw [hnames]; rfl
  exact ⟨_, bind_eq_ok.2 ⟨sources, hsources, bind_eq_ok.2 ⟨lists, hlists, rfl⟩⟩⟩

/-- Where only one choice is about the column, making each for some value is making both for one. -/
theorem exists_mayChoose_both {ds x : String}
    (hone : (∀ s ∈ rule.databaseStrategy r, ¬ s.Uses name) ∨
      ∀ s ∈ rule.tableStrategy r, ¬ s.Uses name) :
    ((∃ v ∈ vs, MayChoose (rule.databaseStrategy r) r.dataSources name v ds) ∧
        ∃ v ∈ vs, MayChoose (rule.tableStrategy r) (r.tablesIn ds) name v x) ↔
      ∃ v ∈ vs, MayChoose (rule.databaseStrategy r) r.dataSources name v ds ∧
        MayChoose (rule.tableStrategy r) (r.tablesIn ds) name v x := by
  constructor
  · rintro ⟨⟨v, hv, hds⟩, w, hw, hx⟩
    obtain hnot | hnot := hone
    · exact ⟨w, hw, hds.of_not_uses hnot, hx⟩
    · exact ⟨v, hv, hds, hx.of_not_uses hnot⟩
  · rintro ⟨v, hv, hds, hx⟩
    exact ⟨⟨v, hv, hds⟩, v, hv, hx⟩

/-- **The nodes of equalities joined by OR**: both choices are made for one value. -/
theorem mem_tableNodes_anyEqual {found : List DataNode × List (List DataNode)}
    (hr : rule.find? t = some r) (hne : vs ≠ [])
    (h : tableNodes rule t ⟨vs.map fun v => .pin t name [v], none⟩ = .ok found) :
    (∀ v ∈ vs, ∃ nodes, nodesFor rule r t (some (.pin t name [v])) = .ok nodes) ∧
      ∀ n, n ∈ found.1 ↔ ∃ v ∈ vs,
        MayChoose (rule.databaseStrategy r) r.dataSources name v n.dataSource ∧
          MayChoose (rule.tableStrategy r) (r.tablesIn n.dataSource) name v n.table := by
  have hne' : vs.map (fun v => ShardingCondition.pin t name [v]) ≠ [] := by simpa using hne
  obtain ⟨hnil, -⟩ | ⟨-, hlists, hfound⟩ := tableNodes_cases hr h
  · exact absurd hnil hne'
  rw [List.mapM_map] at hlists
  have hmem : ∀ v nodes, nodesFor rule r t (some (.pin t name [v])) = .ok nodes → ∀ n, n ∈ nodes ↔
      MayChoose (rule.databaseStrategy r) r.dataSources name v n.dataSource ∧
        MayChoose (rule.tableStrategy r) (r.tablesIn n.dataSource) name v n.table :=
    fun v nodes hnodes n => by simpa using mem_nodesFor_pin (List.cons_ne_nil v []) hnodes n
  refine ⟨fun v hv => (mem_of_mapM_eq_ok hlists hv).imp fun _ h => h.2, fun n => ?_⟩
  rw [hfound]
  constructor
  · rintro ⟨nodes, hnodes, hn⟩
    obtain ⟨v, hv, hstep⟩ := exists_of_mem_mapM hlists hnodes
    exact ⟨v, hv, (hmem v nodes hstep n).1 hn⟩
  · rintro ⟨v, hv, hn⟩
    obtain ⟨nodes, hnodes, hstep⟩ := mem_of_mapM_eq_ok hlists hv
    exact ⟨nodes, hnodes, (hmem v nodes hstep n).2 hn⟩

/-- The nodes of IN are those of its one condition. -/
theorem tableNodes_among (hr : rule.find? t = some r) :
    tableNodes rule t ⟨[.pin t name vs], none⟩ =
      (nodesFor rule r t (some (.pin t name vs))).map fun nodes => (distinct nodes, [nodes]) := by
  rw [tableNodes_of_ne_nil hr (List.cons_ne_nil _ _)]
  simp only [List.mapM_cons, List.mapM_nil]
  cases nodesFor rule r t (some (.pin t name vs)) <;>
    simp [Except.map, bind, Except.bind, pure, Except.pure]

/-- A column that is pinned to some value can be satisfied. -/
theorem areNever_eq_false_of_pin {keys : Option GeneratedKeys} {conditions : List ShardingCondition}
    (hmem : .pin t name vs ∈ conditions) (hne : vs ≠ []) :
    ShardingConditions.areNever ⟨conditions, keys⟩ = false := by
  refine Bool.and_eq_false_imp.2 fun _ => List.all_eq_false.2 ⟨_, hmem, ?_⟩
  simpa [ShardingCondition.pin, ShardingCondition.isNever, Allowed.isEmpty] using hne

end Nodes

/-! ## Admission

The statement is looked at before it is routed, and a single equality may be refused where a list is
not. -/

/-- Whether the statement assigns to a sharding column. -/
def Statement.assignsShardingColumn (rule : ShardingRule) : Statement → Bool
  | update u => u.assignments.any fun a =>
    u.tables.any fun t => rule.isShardingColumn (bareColumn a.1) t
  | _ => false

/-- **IN is admitted wherever the equalities are**, except for one equality that pins an assigned
column. -/
theorem permit_among {rule : ShardingRule} {schema : Schema} {statement : Statement}
    {parameters : List Value} {column : String} {first : Expression} {rest : List Expression}
    (hrest : statement.assignsShardingColumn rule = true → rest ≠ [])
    (h : permit rule schema (statement.restrictedTo (.anyEqual column first rest)) parameters =
      .ok ()) :
    permit rule schema (statement.restrictedTo (.test (.among column (first :: rest)))) parameters =
      .ok () := by
  cases statement with
  | update u =>
    -- neither clause pins a column that is assigned
    have hassignment : ∀ a ∈ u.assignments,
        permitAssignment rule { u with condition := some (.test (.among column (first :: rest))) }
            parameters a =
          permitAssignment rule { u with condition := some (.anyEqual column first rest) }
            parameters a := by
      intro a ha
      rw [permitAssignment, permitAssignment]
      dsimp only
      split
      · rename_i hassigned
        have hne := hrest (List.any_eq_true.2 ⟨a, ha, hassigned⟩)
        rw [keepsValue, keepsValue]
        simp only [Condition.pinnedValue_anyEqual hne]
        rfl
      · rfl
    exact (forM_congr_left hassignment).trans h
  | _ => exact h

/-! ## The route

With a strategy that ignores the column on one side, any two choices can be made for one value, and
the two clauses agree. -/

section Route

variable {rule : ShardingRule} {schema : Schema} {clock : Clock} {sql : LogicSql} {r : TableRule}
  {t column : String} {first : Expression} {rest : List Expression} {values : List Value}
  {route : Route}

theorem run_pure {α : Type} (a : α) (clock : Clock) :
    ((pure a : Timed α).run clock).1 = .ok a := rfl

theorem usedConditions_singleton (statement : Statement) (c : ShardingCondition) :
    usedConditions rule statement [c] = ⟨[c], none⟩ := by
  rw [usedConditions]
  split <;> rfl

/-- What routing uses of the conditions of the equalities: all of them, as far as there are several
only if none is left out. -/
theorem usedConditions_anyEqual {statement : Statement} {name : String}
    (hvalues : List.Forall₂ (fun e v => e.resolve sql.parameters = .ok (some v)) (first :: rest)
      values)
    (hlast : needsLastOnly rule statement = true → rest = []) :
    usedConditions rule statement (values.map fun v => .pin t name [v]) =
      ⟨values.map fun v => .pin t name [v], none⟩ := by
  cases hneeds : needsLastOnly rule statement with
  | false => rw [usedConditions, hneeds, if_neg Bool.false_ne_true]
  | true =>
    obtain ⟨v, more, -, hmore, rfl⟩ := List.forall₂_cons_left_iff.1 hvalues
    rw [hlast hneeds, List.forall₂_nil_left_iff] at hmore
    rw [hmore]
    exact usedConditions_singleton _ _

/-- When a statement with equalities joined by OR is routed. -/
theorem shardingRoute_anyEqual_eq_ok (hpicks : sql.statement.picksRows = true)
    (htables : sql.statement.tables = [t]) (hcolumn : owningTables rule [t] column ≠ [])
    (hvalues : List.Forall₂ (fun e v => e.resolve sql.parameters = .ok (some v)) (first :: rest)
      values)
    (hplain : ∀ v ∈ values, v.isPlain = true)
    (hlast : needsLastOnly rule sql.statement = true → rest = []) :
    (shardingRoute rule schema clock (sql.restrictedTo (.anyEqual column first rest))).1 =
        .ok route ↔
      permit rule schema (sql.statement.restrictedTo (.anyEqual column first rest)) sql.parameters =
          .ok () ∧
        routeWith rule (sql.statement.restrictedTo (.anyEqual column first rest))
          ⟨values.map fun v => .pin t (bareColumn column) [v], none⟩ = .ok route := by
  rw [shardingRoute_restrictedTo_eq_ok hpicks, htables,
    whereConditions_anyEqual hcolumn hvalues hplain, run_pure]
  simp [usedConditions_anyEqual hvalues hlast]

/-- When a statement with IN is routed. -/
theorem shardingRoute_among_eq_ok {vs : List Value} {name : String}
    (hpicks : sql.statement.picksRows = true) (htables : sql.statement.tables = [t])
    (hamong : whereConditions rule [t] sql.parameters
      (some (.test (.among column (first :: rest)))) = pure [.pin t name vs]) :
    (shardingRoute rule schema clock
        (sql.restrictedTo (.test (.among column (first :: rest))))).1 = .ok route ↔
      permit rule schema (sql.statement.restrictedTo (.test (.among column (first :: rest))))
          sql.parameters = .ok () ∧
        routeWith rule (sql.statement.restrictedTo (.test (.among column (first :: rest))))
          ⟨[.pin t name vs], none⟩ = .ok route := by
  rw [shardingRoute_restrictedTo_eq_ok hpicks, htables, hamong, run_pure]
  simp [usedConditions_singleton]

section Units

variable {statement : Statement} {w w' : Condition} {name : String} {vs : List Value}

/-- The nodes that the equalities lead to. -/
theorem exists_found_of_routeWith (hpicks : statement.picksRows = true)
    (htables : statement.tables = [t]) (hsharded : rule.isSharded t = true)
    (hbroadcast : rule.isBroadcast t = false) (hr : rule.find? t = some r) (hne : values ≠ [])
    (h : routeWith rule statement ⟨values.map fun v => .pin t name [v], none⟩ = .ok route) :
    ∃ found, nodesRoute t found none = route ∧ permitRoute statement route = .ok () ∧
      (∀ v ∈ values, ∃ nodes, nodesFor rule r t (some (.pin t name [v])) = .ok nodes) ∧
      ∀ n, n ∈ found.1 ↔ ∃ v ∈ values,
        MayChoose (rule.databaseStrategy r) r.dataSources name v n.dataSource ∧
          MayChoose (rule.tableStrategy r) (r.tablesIn n.dataSource) name v n.table := by
  obtain ⟨v, hv⟩ := List.exists_mem_of_ne_nil _ hne
  have hnever : ShardingConditions.areNever
      ⟨values.map fun v => .pin t name [v], none⟩ = false :=
    areNever_eq_false_of_pin (List.mem_map.2 ⟨v, hv, rfl⟩) (List.cons_ne_nil v [])
  obtain ⟨found, hfound, hroute, hadmitted⟩ :=
    (routeWith_single_eq_ok hpicks htables hsharded hbroadcast hnever).1 h
  obtain ⟨heach, hnodes⟩ := mem_tableNodes_anyEqual hr hne hfound
  exact ⟨found, hroute, hadmitted, heach, hnodes⟩

/-- The nodes that IN leads to. -/
theorem routeWith_pin_eq_ok (hpicks : statement.picksRows = true) (htables : statement.tables = [t])
    (hsharded : rule.isSharded t = true) (hbroadcast : rule.isBroadcast t = false)
    (hr : rule.find? t = some r) (hne : vs ≠ []) :
    routeWith rule statement ⟨[.pin t name vs], none⟩ = .ok route ↔
      ∃ nodes, nodesFor rule r t (some (.pin t name vs)) = .ok nodes ∧
        nodesRoute t (distinct nodes, [nodes]) none = route ∧
        permitRoute statement route = .ok () := by
  rw [routeWith_single_eq_ok hpicks htables hsharded hbroadcast
    (areNever_eq_false_of_pin List.mem_cons_self hne), tableNodes_among hr]
  simp only [map_eq_ok]
  constructor
  · rintro ⟨_, ⟨nodes, hnodes, rfl⟩, hroute⟩
    exact ⟨nodes, hnodes, hroute⟩
  · rintro ⟨nodes, hnodes, hroute⟩
    exact ⟨_, ⟨nodes, hnodes, rfl⟩, hroute⟩

/-- **IN leads where the equalities do** unless both choices are about the column. -/
theorem exists_route_of_one (hpicks : statement.picksRows = true)
    (htables : statement.tables = [t]) (hsharded : rule.isSharded t = true)
    (hr : rule.find? t = some r) (hvs : ∀ v, v ∈ vs ↔ v ∈ values) (hne : vs ≠ [])
    (hone : rule.isBroadcast t = true ∨ (∀ s ∈ rule.databaseStrategy r, ¬ s.Uses name) ∨
      ∀ s ∈ rule.tableStrategy r, ¬ s.Uses name)
    (h : routeWith rule (statement.restrictedTo w) ⟨values.map fun v => .pin t name [v], none⟩ =
      .ok route) :
    ∃ route', routeWith rule (statement.restrictedTo w') ⟨[.pin t name vs], none⟩ = .ok route' ∧
      ∀ u, u ∈ route'.units ↔ u ∈ route.units := by
  have hpicks' : ∀ w, (statement.restrictedTo w).picksRows = true := fun w => by simpa using hpicks
  have htables' : ∀ w, (statement.restrictedTo w).tables = [t] := fun w => by simpa using htables
  cases hbroadcast : rule.isBroadcast t with
  | true =>
    refine ⟨route, ?_, fun u => Iff.rfl⟩
    refine (routeWith_restrictedTo hpicks htables hsharded (Or.inl hbroadcast) ?_).trans h
    rfl
  | false =>
    replace hone := hone.resolve_left (by simp [hbroadcast])
    obtain ⟨u, hu⟩ := List.exists_mem_of_ne_nil _ hne
    obtain ⟨found, rfl, hadmitted, heach, hfound⟩ := exists_found_of_routeWith (hpicks' w)
      (htables' w) hsharded hbroadcast hr (List.ne_nil_of_mem ((hvs u).1 hu)) h
    obtain ⟨nodes, hnodes⟩ := exists_nodesFor_pin hone fun v hv => heach v ((hvs v).1 hv)
    have hsame : ∀ n, n ∈ nodes ↔ n ∈ found.1 := fun n => by
      rw [mem_nodesFor_pin hne hnodes, exists_mayChoose_both hone, hfound]
      simp only [hvs]
    have hunits : ∀ u, u ∈ (nodesRoute t (distinct nodes, [nodes]) none).units ↔
        u ∈ (nodesRoute t found none).units := fun u => by
      simp only [mem_units_nodesRoute, mem_distinct, hsame]
    refine ⟨_, (routeWith_pin_eq_ok (hpicks' w') (htables' w') hsharded hbroadcast hr hne).2
      ⟨nodes, hnodes, rfl, ?_⟩, hunits⟩
    exact (permitRoute_restrictedTo (length_units_nodesRoute hunits)).trans hadmitted

/-- **Where both choices are about the column**, IN pairs the data source of any value with the
table of any value. -/
theorem units_of_both {d s : Strategy} {route' : Route} (hpicks : statement.picksRows = true)
    (htables : statement.tables = [t]) (hsharded : rule.isSharded t = true)
    (hr : rule.find? t = some r) (hvs : ∀ v, v ∈ vs ↔ v ∈ values) (hne : vs ≠ [])
    (hbroadcast : rule.isBroadcast t = false) (hd : rule.databaseStrategy r = some d)
    (hs : rule.tableStrategy r = some s) (hduses : d.Uses name) (hsuses : s.Uses name)
    (h : routeWith rule (statement.restrictedTo w) ⟨values.map fun v => .pin t name [v], none⟩ =
      .ok route)
    (h' : routeWith rule (statement.restrictedTo w') ⟨[.pin t name vs], none⟩ = .ok route') :
    (∀ u ∈ route.units, u ∈ route'.units) ∧
      ∀ u, u ∈ route'.units ↔ ∃ ds x, u = .on ds [⟨t, x⟩] ∧
        (∃ v ∈ values, d.algorithm.target r.dataSources d.column v = .ok ds) ∧
        ∃ v ∈ values, s.algorithm.target (r.tablesIn ds) s.column v = .ok x := by
  obtain ⟨u, hu⟩ := List.exists_mem_of_ne_nil _ hne
  obtain ⟨found, rfl, -, -, hfound⟩ := exists_found_of_routeWith (by simpa using hpicks)
    (by simpa using htables) hsharded hbroadcast hr (List.ne_nil_of_mem ((hvs u).1 hu)) h
  obtain ⟨nodes, hnodes, rfl, -⟩ := (routeWith_pin_eq_ok (by simpa using hpicks)
    (by simpa using htables) hsharded hbroadcast hr hne).1 h'
  -- A node pairs a data source of some value with a table of some value, not necessarily the same.
  have hpairs : ∀ n, n ∈ nodes ↔
      (∃ v ∈ values, d.algorithm.target r.dataSources d.column v = .ok n.dataSource) ∧
        ∃ v ∈ values, s.algorithm.target (r.tablesIn n.dataSource) s.column v = .ok n.table := by
    intro n
    rw [mem_nodesFor_pin hne hnodes, hd, hs]
    simp only [mayChoose_iff_of_uses hduses, mayChoose_iff_of_uses hsuses, hvs]
  simp only [mem_units_nodesRoute, mem_distinct, hpairs]
  refine ⟨fun u hu => ?_, fun u => ⟨?_, ?_⟩⟩
  · obtain ⟨n, hn, rfl⟩ := hu
    obtain ⟨v, hv, hds, hx⟩ := (hfound n).1 hn
    exact ⟨n, ⟨⟨v, hv, hds.2 d hd hduses⟩, v, hv, hx.2 s hs hsuses⟩, rfl⟩
  · rintro ⟨n, hn, rfl⟩
    exact ⟨n.dataSource, n.table, rfl, hn⟩
  · rintro ⟨ds, x, rfl, hn⟩
    exact ⟨⟨ds, x⟩, hn, rfl⟩

end Units

/-- **IN and the equalities lead to the same units**, unless the data source and the table are both
chosen by the column; then IN leads to every data source of a value with every table of a value on
it, the units of the equalities among them.  Two things set the clauses apart before any choice: a
statement that only keeps its last condition keeps one equality, and a single equality pins a column
that an UPDATE assigns. -/
theorem shardingRoute_among (hpicks : sql.statement.picksRows = true)
    (htables : sql.statement.tables = [t]) (hr : rule.find? t = some r)
    (hcolumn : owningTables rule [t] column ≠ [])
    (hvalues : List.Forall₂ (fun e v => e.resolve sql.parameters = .ok (some v)) (first :: rest)
      values)
    (hplain : ∀ v ∈ values, v.isPlain = true)
    (hlast : needsLastOnly rule sql.statement = true → rest = [])
    (h : (shardingRoute rule schema clock
      (sql.restrictedTo (.anyEqual column first rest))).1 = .ok route) :
    ((sql.statement.assignsShardingColumn rule = true → rest ≠ []) →
      (rule.isBroadcast t = true ∨ (∀ s ∈ rule.databaseStrategy r, ¬ s.Uses (bareColumn column)) ∨
        ∀ s ∈ rule.tableStrategy r, ¬ s.Uses (bareColumn column)) →
      ∃ route', (shardingRoute rule schema clock
          (sql.restrictedTo (.test (.among column (first :: rest))))).1 = .ok route' ∧
        ∀ u, u ∈ route'.units ↔ u ∈ route.units) ∧
    ∀ d ∈ rule.databaseStrategy r, ∀ s ∈ rule.tableStrategy r, d.Uses (bareColumn column) →
      s.Uses (bareColumn column) → rule.isBroadcast t = false →
      ∀ route', (shardingRoute rule schema clock
          (sql.restrictedTo (.test (.among column (first :: rest))))).1 = .ok route' →
        (∀ u ∈ route.units, u ∈ route'.units) ∧
        ∀ u, u ∈ route'.units ↔ ∃ ds x, u = .on ds [⟨t, x⟩] ∧
          (∃ v ∈ values, d.algorithm.target r.dataSources d.column v = .ok ds) ∧
          ∃ v ∈ values, s.algorithm.target (r.tablesIn ds) s.column v = .ok x := by
  have hsharded : rule.isSharded t = true :=
    isSharded_of_isShardingColumn (owningTables_singleton hcolumn).2
  obtain ⟨vs, hvs, hamong⟩ := exists_whereConditions_among hcolumn hvalues hplain
  -- A clause over at least one value lists one, so neither statement is sent nowhere by an empty
  -- list.
  have hne : vs ≠ [] := by
    obtain ⟨v, more, -, -, rfl⟩ := List.forall₂_cons_left_iff.1 hvalues
    exact List.ne_nil_of_mem ((hvs v).2 List.mem_cons_self)
  obtain ⟨hpermit, hroute⟩ :=
    (shardingRoute_anyEqual_eq_ok hpicks htables hcolumn hvalues hplain hlast).1 h
  simp only [shardingRoute_among_eq_ok hpicks htables hamong]
  refine ⟨fun hrest hone => ?_, fun d hd s hs hduses hsuses hbroadcast route' hroute' => ?_⟩
  · obtain ⟨route', hroute', hunits⟩ :=
      exists_route_of_one hpicks htables hsharded hr hvs hne hone hroute
    exact ⟨route', ⟨permit_among hrest hpermit, hroute'⟩, hunits⟩
  · exact units_of_both hpicks htables hsharded hr hvs hne hbroadcast hd hs hduses hsuses hroute
      hroute'.2

/-- Orders 4 and 7, the second one bound. -/
theorem shardingRoute_among_orders : ∃ route route',
    (shardingRoute ordersAndItems ⟨[]⟩ (Clock.fixed 0) (ordersWhere.restrictedTo
      (.anyEqual "order_id" (.literal (.integer 4)) [.parameter 0]))).1 = .ok route ∧
    (shardingRoute ordersAndItems ⟨[]⟩ (Clock.fixed 0) (ordersWhere.restrictedTo
      (.test (.among "order_id" [.literal (.integer 4), .parameter 0])))).1 = .ok route' ∧
    route.units.length = 4 ∧ ∀ u, u ∈ route'.units ↔ u ∈ route.units := by
  obtain ⟨route, h, hlength⟩ : ∃ route,
      (shardingRoute ordersAndItems ⟨[]⟩ (Clock.fixed 0) (ordersWhere.restrictedTo
        (.anyEqual "order_id" (.literal (.integer 4)) [.parameter 0]))).1 = .ok route ∧
      route.units.length = 4 := ⟨_, rfl, rfl⟩
  have hcolumn : owningTables ordersAndItems ["t_order"] "order_id" ≠ [] := by decide
  have hvalues : List.Forall₂ (fun (e : Expression) (v : Value) =>
      e.resolve ordersWhere.parameters = .ok (some v))
      [.literal (.integer 4), .parameter 0] [.integer 4, .integer 3] := .cons rfl (.cons rfl .nil)
  obtain ⟨r, hr, hdatabase⟩ : ∃ r, ordersAndItems.find? "t_order" = some r ∧
      ∀ s ∈ ordersAndItems.databaseStrategy r, ¬ s.Uses (bareColumn "order_id") := by
    refine ⟨_, rfl, ?_⟩
    rintro s ⟨⟩
    decide
  obtain ⟨route', h', hunits⟩ := (shardingRoute_among (t := "t_order") rfl rfl hr hcolumn hvalues
    (by decide) (by decide) h).1 (by decide) (Or.inr (Or.inl hdatabase))
  exact ⟨route, route', h, h', hlength, hunits⟩

/-- Orders by number alone: data source and table are chosen by the same column. -/
def byOrderAlone : ShardingRule :=
  { ordersAndItems with defaultDatabase := some ⟨"order_id", "by_order", .modulo 2⟩ }

/-- The number of an order, set to what it is. -/
def setOrder : LogicSql where
  statement := .update ⟨["t_order"], [("order_id", .literal (.integer 4))], none, none⟩
  sql := "UPDATE t_order SET order_id = 4 WHERE ..."
  parameters := []

/-- Orders, with a subquery. -/
def ordersWithSubquery : LogicSql where
  statement := .select
    { tables := ["t_order"], list := ⟨[], false⟩, condition := none, groupBy := [], orderBy := []
      having := none, pagination := none, lock := false, subquery := true }
  sql := "SELECT * FROM t_order WHERE ... (SELECT ...)"
  parameters := []

/-- **IN can lead further than the equalities**: to the table of one order on the data source of
another; nowhere, where one equality is all that lets an UPDATE pass; and to all values where only
the last equality is kept. -/
theorem among_ne_anyEqual :
    (∃ route route',
      (shardingRoute byOrderAlone ⟨[]⟩ (Clock.fixed 0) (ordersWhere.restrictedTo
        (.anyEqual "order_id" (.literal (.integer 0)) [.literal (.integer 1)]))).1 = .ok route ∧
      (shardingRoute byOrderAlone ⟨[]⟩ (Clock.fixed 0) (ordersWhere.restrictedTo
        (.test (.among "order_id" [.literal (.integer 0), .literal (.integer 1)])))).1 =
          .ok route' ∧
      RouteUnit.on "ds_0" [⟨"t_order", "t_order_1"⟩] ∈ route'.units ∧
      RouteUnit.on "ds_0" [⟨"t_order", "t_order_1"⟩] ∉ route.units) ∧
    (∃ route,
      (shardingRoute ordersAndItems ⟨[]⟩ (Clock.fixed 0) (setOrder.restrictedTo
        (.anyEqual "order_id" (.literal (.integer 4)) []))).1 = .ok route ∧
      (shardingRoute ordersAndItems ⟨[]⟩ (Clock.fixed 0) (setOrder.restrictedTo
        (.test (.among "order_id" [.literal (.integer 4)])))).1 =
          .error (.unsupported (.shardingColumnUpdate "order_id"))) ∧
    ∃ route route',
      (shardingRoute ordersAndItems ⟨[]⟩ (Clock.fixed 0) (ordersWithSubquery.restrictedTo
        (.anyEqual "order_id" (.literal (.integer 4)) [.literal (.integer 5)]))).1 = .ok route ∧
      (shardingRoute ordersAndItems ⟨[]⟩ (Clock.fixed 0) (ordersWithSubquery.restrictedTo
        (.test (.among "order_id" [.literal (.integer 4), .literal (.integer 5)])))).1 =
          .ok route' ∧
      route.units.length = 2 ∧ route'.units.length = 4 := by
  refine ⟨⟨_, _, rfl, rfl, by decide, by decide⟩, ⟨_, rfl, rfl⟩, _, _, rfl, rfl, rfl, rfl⟩

end Route

end ScatterGather
