import ScatterGather.Proofs.Route.Clause
import ScatterGather.Proofs.Sharding.Insertion
import ScatterGather.Proofs.Value.WholeNumber

/-!
# Proofs/Route/Redundancy — an equality said twice

A WHERE clause that already pins a sharding column to a value gains nothing from a second equality
with the same value: the statement goes where it went (`shardingRoute_equal_twice`).  What counts as
the same value is **equality within one type**.  A value of the other integer type compares equal
and yet empties the list of values that both equalities allow, so the statement goes nowhere.
-/

namespace ScatterGather

open Sharding

/-! ## Integer operands

Integers of one type are equal only if they are the same. -/

namespace Value

variable {v v' : Value}

/-- Integers are plain values. -/
theorem isPlain_of_int? (h : v.int?.isSome) : v.isPlain = true := by
  cases v <;> first | rfl | exact nomatch h

/-- Integers of one type that compare equal are one. -/
theorem eq_of_order?_of_isInteger (hv : v.int?.isSome) (hv' : v'.int?.isSome)
    (horder : v.order? v' = some .eq) (hsame : v.isInteger = v'.isInteger) : v = v' := by
  cases v <;> cases v' <;>
    simp_all [int?, isInteger, order?, text?, isNumeric, orderNumbers?,
      Std.LawfulEqCmp.compare_eq_iff_eq, Int16.toInt_inj, Int64.toInt_inj]

end Value

/-! ## Narrowing to one value

Allowed values are kept in a list, and an equality filters it by its own value.  What is left of a
list of one value is that value or nothing. -/

namespace Allowed

/-- A list of one plain value admits no other. -/
theorem admits_singleton {v u : Value} (hv : v.isPlain = true) :
    (values [v]).admits u = true ↔ v = u := by
  cases v
  case null | json | real | numeric => exact nomatch hv
  all_goals cases u <;> simp [admits, Value.equals]

/-- A list of one value stays if the other side admits it, and is emptied otherwise. -/
theorem meet_singleton (v : Value) (b : Allowed) :
    (values [v]).meet b = if b.admits v then values [v] else values [] := by
  rw [meet, List.filter_singleton]
  cases b.admits v <;> rfl

/-- What is left of a list of one plain value. -/
theorem admits_meet_singleton {v : Value} (hv : v.isPlain = true) (b : Allowed) (u : Value) :
    ((values [v]).meet b).admits u = (b.admits u && (values [v]).admits u) := by
  rw [meet_singleton, Bool.eq_iff_iff, Bool.and_eq_true, admits_singleton hv]
  split
  · rename_i hb
    rw [admits_singleton hv]
    exact ⟨fun h => ⟨h ▸ hb, h⟩, And.right⟩
  · rename_i hb
    exact ⟨nofun, fun h => absurd (h.2 ▸ h.1) hb⟩

/-- **To narrow to one value and then again** is to narrow once, to what is left of the value. -/
theorem meet_meet_singleton {v : Value} (hv : v.isPlain = true) (a b : Allowed) :
    (a.meet (values [v])).meet b = a.meet ((values [v]).meet b) := by
  cases a with
  | range r => simp only [meet, List.filter_filter, Bool.and_comm]
  | values us => simp only [meet, List.filter_filter, ← admits_meet_singleton hv]

end Allowed

namespace ShardingCondition

variable {t name : String} {found : List Restriction}

/-- To restrict a column to one value and then again is to restrict it once, whatever was found out
about it before. -/
theorem restrictList_restrictList {v : Value} (hv : v.isPlain = true) (b : Allowed) :
    restrictList ⟨t, name, b⟩ (restrictList ⟨t, name, .values [v]⟩ found) =
      restrictList ⟨t, name, (Allowed.values [v]).meet b⟩ found := by
  induction found with
  | nil => simp [restrictList]
  | cons r rest ih =>
    by_cases hr : r.table = t ∧ r.column = name
    · simp [restrictList, hr, Allowed.meet_meet_singleton hv]
    · simp [restrictList, hr, ih]

/-- A narrowed column stays restricted. -/
theorem restrictList_ne_nil (r : Restriction) : restrictList r found ≠ [] := by
  cases found with
  | nil => exact List.cons_ne_nil _ _
  | cons q rest =>
    rw [restrictList]
    split <;> exact List.cons_ne_nil _ _

/-- **A column that no value is left for** makes the condition unsatisfiable. -/
theorem isNever_restrictList_nil :
    isNever ⟨restrictList ⟨t, name, .values []⟩ found⟩ = true := by
  have hmeet : ∀ a : Allowed, (a.meet (.values [])).isEmpty = true := by
    rintro (us | r) <;> simp [Allowed.meet, Allowed.admits, Allowed.isEmpty]
  induction found with
  | nil => rfl
  | cons r rest ih =>
    rw [restrictList]
    split
    · simp [isNever, hmeet]
    · simp [isNever] at ih ⊢
      exact Or.inr ih

end ShardingCondition

/-! ## Conjuncts after a clause

`andGroups` puts a conjunct at the end of every group, so the conditions of the longer clause are
those of the groups, each narrowed by the conjunct. -/

namespace Condition

/-- A conjunct is put at the end of each group. -/
theorem andGroups_and_test (w : Condition) (p : Predicate) :
    (w.and (test p)).andGroups = w.andGroups.map (· ++ [p]) := by
  simp [andGroups, List.map_eq_flatMap]

/-- Two conjuncts are put there in their order. -/
theorem andGroups_and_tests (w : Condition) (p q : Predicate) :
    ((w.and (test p)).and (test q)).andGroups = w.andGroups.map (· ++ [p, q]) := by
  rw [andGroups_and_test, andGroups_and_test, List.map_map]
  exact List.map_congr_left fun group _ => List.append_assoc group [p] [q]

theorem andGroups_ne_nil (w : Condition) : w.andGroups ≠ [] := by
  induction w with
  | test p => exact List.cons_ne_nil _ _
  | and left right ihl ihr =>
    obtain ⟨l, hl⟩ := List.exists_mem_of_ne_nil _ ihl
    obtain ⟨r, hr⟩ := List.exists_mem_of_ne_nil _ ihr
    exact List.ne_nil_of_mem (List.mem_flatMap.2 ⟨l, hl, List.mem_map_of_mem hr⟩)
  | or left right ihl ihr => exact fun h => ihl (List.append_eq_nil_iff.1 h).1

end Condition

namespace Sharding

variable {rule : ShardingRule} {tables : List String} {parameters : List Value}

/-- **Groups that all end alike** are narrowed alike, and none is left unrestricted. -/
theorem groupConditions_append {more : List Predicate}
    {narrow : List Restriction → List Restriction}
    (hmore : ∀ found, groupRestrictions rule tables parameters found more = pure (narrow found))
    (hnarrow : ∀ found, narrow found ≠ []) (groups : List (List Predicate)) :
    groupConditions rule tables parameters (groups.map (· ++ more)) =
      (fun found => some (found.map fun restrictions => ⟨narrow restrictions⟩)) <$>
        groups.mapM (groupRestrictions rule tables parameters []) := by
  induction groups with
  | nil => simp [groupConditions]
  | cons group rest ih =>
    simp [groupConditions, groupRestrictions_append, hmore, hnarrow, ih]

/-- **Two equalities on a column** narrow it to what the values have in common. -/
theorem groupRestrictions_equal_equal {t column : String} {e e' : Expression} {v v' : Value}
    (hcolumn : owningTables rule [t] column ≠ []) (he : e.resolve parameters = .ok (some v))
    (he' : e'.resolve parameters = .ok (some v')) (hplain : v.isPlain = true)
    (hplain' : v'.isPlain = true) (found : List Restriction) :
    groupRestrictions rule [t] parameters found
        [.compare .equal column e, .compare .equal column e'] =
      pure (ShardingCondition.restrictList
        ⟨t, bareColumn column, (Allowed.values [v]).meet (.values [v'])⟩ found) := by
  rw [groupRestrictions_cons_equal hcolumn he hplain,
    groupRestrictions_cons_equal hcolumn he' hplain',
    ShardingCondition.restrictList_restrictList hplain]
  rfl

/-- Steps over a list that is not empty yield something. -/
theorem always_mapM_ne_nil {α β : Type} {l : List α} (f : α → Timed β) (hne : l ≠ []) :
    Always (l.mapM f) (· ≠ []) := by
  have hany : ∀ {γ : Type} (x : Timed γ), Always x fun _ => True := fun _ _ _ _ _ => trivial
  cases l with
  | nil => exact absurd rfl hne
  | cons a l =>
    rw [List.mapM_cons]
    exact (hany _).bind fun b _ => (hany _).bind fun bs _ => always_pure (List.cons_ne_nil b bs)

/-- The conditions of groups that all end alike. -/
theorem whereConditions_append_eq_ok {w w' : Condition} {more : List Predicate}
    {narrow : List Restriction → List Restriction} {clock : Clock} {found : List ShardingCondition}
    (hmore : ∀ found, groupRestrictions rule tables parameters found more = pure (narrow found))
    (hnarrow : ∀ found, narrow found ≠ []) (hgroups : w'.andGroups = w.andGroups.map (· ++ more)) :
    ((whereConditions rule tables parameters (some w')).run clock).1 = .ok found ↔
      ∃ groups, ((w.andGroups.mapM (groupRestrictions rule tables parameters [])).run clock).1 =
          .ok groups ∧
        groups.map (fun restrictions => ⟨narrow restrictions⟩) = found := by
  have hwhere : whereConditions rule tables parameters (some w') =
      (·.map fun restrictions => ⟨narrow restrictions⟩) <$>
        w.andGroups.mapM (groupRestrictions rule tables parameters []) := by
    simp [whereConditions, hgroups, groupConditions_append hmore hnarrow]
  rw [hwhere, run_map_eq_ok]

end Sharding

/-! ## The route

Both clauses are routed by their last condition or by all.  Where a second value empties some of
them, they are dropped only if all are empty. -/

section Route

variable {rule : ShardingRule} {schema : Schema} {clock : Clock} {sql : LogicSql}
  {conditions : ShardingConditions} {t column : String} {w : Condition} {e e' : Expression}
  {v v' : Value} {route route' : Route}

/-- Conditions that are all unsatisfiable stay so when only the last one is used. -/
theorem areNever_usedConditions {statement : Statement} {found : List ShardingCondition}
    (hne : found ≠ []) (hnever : ∀ c ∈ found, c.isNever = true) :
    (usedConditions rule statement found).areNever = true := by
  rw [usedConditions]
  split
  · rw [ShardingConditions.keepLast, List.getLast?_eq_some_getLast hne]
    simp [ShardingConditions.areNever, hnever _ (List.getLast_mem hne)]
  · simpa [ShardingConditions.areNever, hne] using hnever

/-- Conditions that no row can satisfy leave no unit. -/
theorem units_of_areNever {statement : Statement} (hpicks : statement.picksRows = true)
    (htables : statement.tables = [t]) (hsharded : rule.isSharded t = true)
    (hbroadcast : rule.isBroadcast t = false) (hnever : conditions.areNever = true)
    (h : routeWith rule statement conditions = .ok route) : route.units = [] := by
  rw [routeWith, RoutePlan.choose_single hpicks htables hsharded, hbroadcast, hnever] at h
  obtain ⟨r, hr, h⟩ := bind_eq_ok.1 h
  obtain ⟨_, -, h⟩ := bind_eq_ok.1 h
  cases hr
  cases h
  rfl

/-- **An equality said twice.**  Where a clause and its longer form are both routed, an equality
with the value of the same type that the column is already pinned to changes nothing; one with the
same number of the other integer type leaves no unit, unless the table is broadcast. -/
theorem shardingRoute_equal_twice (hpicks : sql.statement.picksRows = true)
    (htables : sql.statement.tables = [t]) (hcolumn : owningTables rule [t] column ≠ [])
    (he : e.resolve sql.parameters = .ok (some v)) (he' : e'.resolve sql.parameters = .ok (some v'))
    (hv : v.int?.isSome) (hv' : v'.int?.isSome) (horder : v.order? v' = some .eq)
    (h : (shardingRoute rule schema clock
      (sql.restrictedTo (w.and (.test (.compare .equal column e))))).1 = .ok route)
    (h' : (shardingRoute rule schema clock (sql.restrictedTo ((w.and
      (.test (.compare .equal column e))).and (.test (.compare .equal column e'))))).1 =
        .ok route') :
    (v.isInteger = v'.isInteger ∨ rule.isBroadcast t = true → route' = route) ∧
      (v.isInteger ≠ v'.isInteger → rule.isBroadcast t = false → route'.units = []) := by
  have hplain : v.isPlain = true := Value.isPlain_of_int? hv
  have hplain' : v'.isPlain = true := Value.isPlain_of_int? hv'
  have hsharded : rule.isSharded t = true :=
    isSharded_of_isShardingColumn (owningTables_singleton hcolumn).2
  rw [shardingRoute_restrictedTo_eq_ok hpicks, htables] at h h'
  obtain ⟨-, found, hfound, hroute⟩ := h
  obtain ⟨-, found', hfound', hroute'⟩ := h'
  -- both clauses narrow the groups of `w`, the longer one to what both equalities allow
  obtain ⟨groups, hgroups, rfl⟩ := (whereConditions_append_eq_ok
    (fun found => groupRestrictions_cons_equal hcolumn he hplain found [])
    (fun found => ShardingCondition.restrictList_ne_nil _)
    (Condition.andGroups_and_test w _)).1 hfound
  obtain ⟨groups', hgroups', rfl⟩ := (whereConditions_append_eq_ok
    (fun found => groupRestrictions_equal_equal hcolumn he he' hplain hplain' found)
    (fun found => ShardingCondition.restrictList_ne_nil _)
    (Condition.andGroups_and_tests w _ _)).1 hfound'
  obtain rfl : groups = groups' := Except.ok.inj (hgroups.symm.trans hgroups')
  refine ⟨fun hsame => ?_, fun hdiffer hbroadcast => ?_⟩
  · rw [routeWith_restrictedTo hpicks htables hsharded ?_
      ((keys_usedConditions _).trans (keys_usedConditions _).symm), hroute] at hroute'
    · exact (Except.ok.inj hroute').symm
    · refine hsame.symm.imp_right fun hsame => ?_
      obtain rfl : v = v' := Value.eq_of_order?_of_isInteger hv hv' horder hsame
      rw [Allowed.meet_singleton, if_pos ((Allowed.admits_singleton hplain).2 rfl)]
  · have hne : v' ≠ v := fun h => hdiffer (h ▸ rfl)
    rw [Allowed.meet_singleton, if_neg (mt (Allowed.admits_singleton hplain').1 hne)] at hroute'
    refine units_of_areNever (by simpa using hpicks) (by simpa using htables) hsharded hbroadcast
      (areNever_usedConditions ?_ ?_) hroute'
    · have hrun := always_mapM_ne_nil (groupRestrictions rule [t] sql.parameters [])
        w.andGroups_ne_nil clock groups _ (Prod.ext hgroups rfl)
      simpa using hrun
    · simp [ShardingCondition.isNever_restrictList_nil]

/-- Order 4, or orders with a note. -/
def orderOrNote : Condition :=
  .or (.test (.compare .equal "order_id" (.literal (.integer 4)))) (.test (.isNotNull "note"))

/-- User 3 as a small integer. -/
def userThree : Condition := .test (.compare .equal "user_id" (.literal (.smallInt 3)))

theorem shardingRoute_userThree_twice : ∃ route route',
    (shardingRoute ordersAndItems ⟨[]⟩ (Clock.fixed 0)
      (ordersWhere.restrictedTo (orderOrNote.and userThree))).1 = .ok route ∧
    (shardingRoute ordersAndItems ⟨[]⟩ (Clock.fixed 0)
      (ordersWhere.restrictedTo ((orderOrNote.and userThree).and
        (.test (.compare .equal "user_id" (.parameter 0)))))).1 = .ok route' ∧
    route.units = [.on "ds_1" [⟨"t_order", "t_order_0"⟩], .on "ds_1" [⟨"t_order", "t_order_1"⟩]] ∧
    route'.units = [] := by
  obtain ⟨route, route', h, h', hunits⟩ : ∃ route route',
      (shardingRoute ordersAndItems ⟨[]⟩ (Clock.fixed 0)
        (ordersWhere.restrictedTo (orderOrNote.and userThree))).1 = .ok route ∧
      (shardingRoute ordersAndItems ⟨[]⟩ (Clock.fixed 0)
        (ordersWhere.restrictedTo ((orderOrNote.and userThree).and
          (.test (.compare .equal "user_id" (.parameter 0)))))).1 = .ok route' ∧
      route.units =
        [.on "ds_1" [⟨"t_order", "t_order_0"⟩], .on "ds_1" [⟨"t_order", "t_order_1"⟩]] :=
    ⟨_, _, rfl, rfl, rfl⟩
  have hcolumn : owningTables ordersAndItems ["t_order"] "user_id" ≠ [] := by decide
  refine ⟨route, route', h, h', hunits, ?_⟩
  exact (shardingRoute_equal_twice (t := "t_order") rfl rfl hcolumn rfl rfl rfl rfl rfl h h').2
    (by decide) (by decide)

end Route

end ScatterGather
