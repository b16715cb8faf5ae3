import ScatterGather.Proofs.Outcome
import ScatterGather.Proofs.Sharding.Target
import ScatterGather.Route.Plan

/-!
# Proofs/Route/Plan — what leads to each plan, and the nodes of a table

A statement about rows of tables has one of six plans, and each says something about the tables
(`RoutePlan.IsRowPlan`): `ofDml_eq_iff` reads the plan off the tables and the tables off the plan.
Other statements go to every node of some tables, or to every data source.

The nodes of a table are found under no condition or under each of several (`tableNodes_cases`).
-/

namespace ScatterGather

open Sharding

namespace RoutePlan

variable {rule : ShardingRule} {tables : List String} {never : Bool} {plan : RoutePlan}
  {statement : Statement}

/-- The plans of statements about rows of tables, each with what leads to it. -/
inductive IsRowPlan (rule : ShardingRule) (tables : List String) (never : Bool) :
    RoutePlan → Prop where
  | anySource (hnil : tables = []) : IsRowPlan rule tables never (anySource [])
  | everyNode (hall : rule.allBroadcast tables = true) :
    IsRowPlan rule tables never (everyNode tables)
  | home (hne : tables ≠ []) (hall : rule.allBroadcast tables = false)
      (hnone : rule.shardedAmong tables = []) : IsRowPlan rule tables never (home tables)
  | nowhere (hall : rule.allBroadcast tables = false) (hsome : rule.shardedAmong tables ≠ [])
      (hnever : never = true) : IsRowPlan rule tables never nowhere
  | oneTable {t : String} (hall : rule.allBroadcast tables = false)
      (hone : rule.shardedAmong tables = [t]) (hnever : never = false) :
    IsRowPlan rule tables never (oneTable t (tables.filter rule.isBroadcast))
  | combined (hall : rule.allBroadcast tables = false)
      (hmany : 2 ≤ (rule.shardedAmong tables).length) (hnever : never = false) :
    IsRowPlan rule tables never
      (combined (rule.shardedAmong tables) (tables.filter rule.isBroadcast))

/-- Tables some of which are sharded are not none. -/
theorem ne_nil_of_shardedAmong (h : rule.shardedAmong tables ≠ []) : tables ≠ [] := by
  rintro rfl
  exact h rfl

/-- The plan of a statement about rows is one of the six, under what leads to it. -/
theorem isRowPlan_ofDml : IsRowPlan rule tables never (ofDml rule tables never) := by
  rw [ofDml]
  split
  · next hnil => exact .anySource (List.isEmpty_iff.1 hnil)
  next hne =>
  cases hall : rule.allBroadcast tables with
  | true => exact .everyNode hall
  | false =>
    rw [if_neg Bool.false_ne_true]
    cases hsharded : rule.shardedAmong tables with
    | nil => exact .home (by simpa using hne) hall hsharded
    | cons first more =>
      cases never with
      | true => exact .nowhere hall (hsharded ▸ List.cons_ne_nil first more) rfl
      | false =>
        cases more with
        | nil => exact .oneTable hall hsharded rfl
        | cons second more =>
          have hplan : IsRowPlan rule tables false _ := .combined hall (by simp [hsharded]) rfl
          rwa [hsharded] at hplan

/-- **The plan says of the tables what leads to it**, and that leads to no other plan. -/
theorem ofDml_eq_iff : ofDml rule tables never = plan ↔ IsRowPlan rule tables never plan := by
  refine ⟨fun h => h ▸ isRowPlan_ofDml, fun h => ?_⟩
  cases h with
  | anySource hnil => rw [ofDml, hnil]; rfl
  | everyNode hall =>
    have hne : tables.isEmpty = false := by
      rw [ShardingRule.allBroadcast, Bool.and_eq_true] at hall
      simpa using hall.1
    rw [ofDml, hne, hall]
    rfl
  | home hne hall hnone =>
    rw [ofDml, List.isEmpty_eq_false_iff.2 hne, hall, hnone]
    rfl
  | nowhere hall hsome hnever =>
    obtain ⟨first, more, hsharded⟩ := List.exists_cons_of_ne_nil hsome
    rw [ofDml, List.isEmpty_eq_false_iff.2 (ne_nil_of_shardedAmong hsome), hall, hsharded, hnever]
    rfl
  | oneTable hall hone hnever =>
    have hsome : rule.shardedAmong tables ≠ [] := hone ▸ List.cons_ne_nil _ _
    rw [ofDml, List.isEmpty_eq_false_iff.2 (ne_nil_of_shardedAmong hsome), hall, hone, hnever]
    rfl
  | combined hall hmany hnever =>
    obtain ⟨first, second, more, hsharded⟩ : ∃ first second more,
        rule.shardedAmong tables = first :: second :: more := by
      match rule.shardedAmong tables, hmany with
      | first :: second :: more, _ => exact ⟨first, second, more, rfl⟩
    have hsome : rule.shardedAmong tables ≠ [] := hsharded ▸ List.cons_ne_nil _ _
    rw [ofDml, List.isEmpty_eq_false_iff.2 (ne_nil_of_shardedAmong hsome), hall, hsharded, hnever]
    rfl

/-- The plan for the rows of one table with a rule. -/
theorem ofDml_singleton {t : String} (hsharded : rule.isSharded t = true) :
    ofDml rule [t] never =
      if rule.isBroadcast t then everyNode [t] else if never then nowhere else oneTable t [] := by
  rw [ofDml]
  cases hbroadcast : rule.isBroadcast t <;>
    simp [ShardingRule.allBroadcast, ShardingRule.shardedAmong, hsharded, hbroadcast]

/-- **A statement about rows is sent by its tables**, and by whether its conditions can hold. -/
theorem choose_eq_ofDml {conditions : ShardingConditions} (hdml : statement.isDml = true) :
    choose rule statement conditions = ofDml rule statement.tables conditions.areNever := by
  cases statement with
  | select _ | insert _ | update _ | delete _ => rfl
  | ddl _ | dal _ => cases hdml

/-- Another statement goes to every node of some tables, or to every data source. -/
theorem choose_of_not_isDml (rule : ShardingRule) (conditions : ShardingConditions)
    (hdml : statement.isDml = false) :
    choose rule statement conditions = everySource ∨
      ∃ configured, choose rule statement conditions = everyNode configured := by
  cases statement with
  | dal _ => exact .inl rfl
  | ddl d =>
    rw [choose, ofDdl]
    split
    · exact .inl rfl
    · exact .inr ⟨_, rfl⟩
  | select _ | insert _ | update _ | delete _ => cases hdml

end RoutePlan

/-! ## Nodes of a table

A list of conditions gives a table the nodes of each, and no conditions at all give it those that
its strategies keep without a value. -/

section Nodes

variable {rule : ShardingRule} {r : TableRule} {table : String} {conditions : ShardingConditions}

/-- Without conditions a table has all nodes that its strategies keep. -/
theorem tableNodes_of_nil (hr : rule.find? table = some r) (hnil : conditions.conditions = []) :
    tableNodes rule table conditions =
      (nodesFor rule r table none).map fun nodes => (nodes, []) := by
  rw [tableNodes, hr, hnil]
  rfl

/-- Under conditions a table has the nodes that any of them leads to. -/
theorem tableNodes_of_ne_nil (hr : rule.find? table = some r) (hne : conditions.conditions ≠ []) :
    tableNodes rule table conditions =
      (conditions.conditions.mapM fun c => nodesFor rule r table (some c)).map fun lists =>
        (distinct lists.flatten, lists) := by
  rw [tableNodes, hr]
  exact if_neg (mt List.isEmpty_iff.1 hne)

/-- **The nodes of a table with a rule** are those under no condition, or those of the lists, one
per condition. -/
theorem tableNodes_cases {found : List DataNode × List (List DataNode)}
    (hr : rule.find? table = some r) (h : tableNodes rule table conditions = .ok found) :
    (conditions.conditions = [] ∧ nodesFor rule r table none = .ok found.1) ∨
      conditions.conditions ≠ [] ∧
        (conditions.conditions.mapM fun c => nodesFor rule r table (some c)) = .ok found.2 ∧
        ∀ n, n ∈ found.1 ↔ ∃ nodes ∈ found.2, n ∈ nodes := by
  by_cases hnil : conditions.conditions = []
  · rw [tableNodes_of_nil hr hnil] at h
    obtain ⟨nodes, hnodes, rfl⟩ := map_eq_ok.1 h
    exact .inl ⟨hnil, hnodes⟩
  · rw [tableNodes_of_ne_nil hr hnil] at h
    obtain ⟨lists, hlists, rfl⟩ := map_eq_ok.1 h
    exact .inr ⟨hnil, hlists, fun n => by rw [mem_distinct, List.mem_flatten]⟩

end Nodes

end ScatterGather
