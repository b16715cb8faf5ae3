import ScatterGather.Proofs.Route.Redundancy
import ScatterGather.Proofs.Sharding.Pinning

/-!
# Proofs/Route/Groups — what the groups of a WHERE clause restrict

Over one table a predicate is **usable** if it tests a sharding column against operands whose values
are known before the database sees them (`Predicate.isUsable`).  The condition of a group restricts
the columns of its usable predicates, each column once in each spelling (`AreFrom`), those of its
equalities to one value at most (`ArePinned`), and a group without a usable predicate leaves the
whole clause without conditions (`ensuresOn_groupConditions_single`).

The groups of an OR are those of both sides, so its conditions are those of both, unless one side
has none (`groupConditions_append_groups`).
-/

namespace ScatterGather

open Sharding

/-- Whether the predicate tells where rows of the table may be. -/
def Predicate.isUsable (rule : ShardingRule) (t : String) (p : Predicate) : Bool :=
  restricts p && !(owningTables rule [t] p.column).isEmpty && p.operands.all Expression.isKnown

/-- The usable predicates spell each column one way, whether they qualify it or not. -/
def SpellsOnce (rule : ShardingRule) (t : String) (predicates : List Predicate) : Prop :=
  ∀ p ∈ predicates, ∀ q ∈ predicates, p.isUsable rule t = true → q.isUsable rule t = true →
    Text.sameName (bareColumn p.column) (bareColumn q.column) = true →
      bareColumn p.column = bareColumn q.column

/-- Restrictions of columns that usable predicates test, each column once. -/
structure AreFrom (rule : ShardingRule) (t : String) (predicates : List Predicate)
    (found : List Restriction) : Prop where
  table : ∀ r ∈ found, r.table = t
  column : ∀ name ∈ found.map (·.column),
    ∃ p ∈ predicates, p.isUsable rule t = true ∧ bareColumn p.column = name
  nodup : (found.map (·.column)).Nodup

/-- Lists without equal values, which hold one value at most for the column of an equality. -/
structure ArePinned (rule : ShardingRule) (t : String) (predicates : List Predicate)
    (found : List Restriction) : Prop where
  distinct : ∀ r ∈ found, r.allowed.IsDistinct
  single : ∀ p ∈ predicates, p.isUsable rule t = true → p.isEquality = true →
    ∃ r ∈ found, r.column = bareColumn p.column ∧ r.allowed.IsSingle

section Restrictions

variable {rule : ShardingRule} {t : String} {predicates : List Predicate}
  {found : List Restriction}

/-- A usable predicate tests a sharding column. -/
theorem Predicate.isShardingColumn_of_isUsable {p : Predicate} (h : p.isUsable rule t = true) :
    rule.isShardingColumn (bareColumn p.column) t = true := by
  have howning : owningTables rule [t] p.column ≠ [] := by
    simp only [isUsable, Bool.and_eq_true, Bool.not_eq_true', List.isEmpty_eq_false_iff] at h
    exact h.1.2
  exact (owningTables_singleton howning).2

/-- Narrowing a column restricts no other one. -/
theorem map_column_restrictList {name : String} (allowed : Allowed)
    (htable : ∀ r ∈ found, r.table = t) :
    (ShardingCondition.restrictList ⟨t, name, allowed⟩ found).map (·.column) =
      if name ∈ found.map (·.column) then found.map (·.column)
      else found.map (·.column) ++ [name] := by
  induction found with
  | nil => rfl
  | cons r rest ih =>
    obtain ⟨hr, hrest⟩ := List.forall_mem_cons.1 htable
    rw [ShardingCondition.restrictList]
    by_cases hname : r.column = name
    · rw [if_pos ⟨hr, hname⟩, if_pos (hname ▸ List.mem_cons_self)]
      rfl
    · rw [if_neg fun h => hname h.2, List.map_cons, ih hrest, List.map_cons]
      have hmem : name ∈ r.column :: rest.map (·.column) ↔ name ∈ rest.map (·.column) :=
        ⟨fun h => (List.mem_cons.1 h).resolve_left fun h => hname h.symm, List.mem_cons_of_mem _⟩
      simp only [hmem]
      split <;> rfl

/-- Narrowing keeps the table of each restriction. -/
theorem table_restrictList {name : String} (allowed : Allowed) (htable : ∀ r ∈ found, r.table = t) :
    ∀ r ∈ ShardingCondition.restrictList ⟨t, name, allowed⟩ found, r.table = t := by
  induction found with
  | nil => exact List.forall_mem_singleton.2 rfl
  | cons r rest ih =>
    obtain ⟨hr, hrest⟩ := List.forall_mem_cons.1 htable
    rw [ShardingCondition.restrictList]
    split
    · exact List.forall_mem_cons.2 ⟨hr, hrest⟩
    · exact List.forall_mem_cons.2 ⟨hr, ih hrest⟩

/-- Nothing is restricted at first. -/
theorem areFrom_nil (rule : ShardingRule) (t : String) (predicates : List Predicate) :
    AreFrom rule t predicates [] :=
  ⟨fun _ hr => absurd hr List.not_mem_nil, fun _ h => absurd h List.not_mem_nil, List.nodup_nil⟩

/-- **A usable predicate narrows its column.** -/
theorem AreFrom.restrictList (h : AreFrom rule t predicates found) {p : Predicate}
    (hp : p ∈ predicates) (husable : p.isUsable rule t = true) (allowed : Allowed) :
    AreFrom rule t predicates
      (ShardingCondition.restrictList ⟨t, bareColumn p.column, allowed⟩ found) := by
  refine ⟨table_restrictList allowed h.table, ?_, ?_⟩ <;>
    rw [map_column_restrictList allowed h.table] <;> split
  · exact h.column
  · intro name hname
    obtain hname | hname := List.mem_append.1 hname
    · exact h.column name hname
    · exact ⟨p, hp, husable, (List.mem_singleton.1 hname).symm⟩
  · exact h.nodup
  · next hnew => exact List.nodup_append.2 ⟨h.nodup, by simp, by grind⟩

/-- **Narrowing a column** adds a restriction, or narrows the first one that the column has. -/
theorem restrictList_cases (added : Restriction) (found : List Restriction) :
    ShardingCondition.restrictList added found = found ++ [added] ∨
      ∃ before q after, found = before ++ q :: after ∧ q.column = added.column ∧
        ShardingCondition.restrictList added found =
          before ++ { q with allowed := q.allowed.meet added.allowed } :: after := by
  induction found with
  | nil => exact .inl rfl
  | cons r rest ih =>
    rw [ShardingCondition.restrictList]
    split
    · rename_i hsame
      exact .inr ⟨[], r, rest, rfl, hsame.2, rfl⟩
    · obtain heq | ⟨before, q, after, rfl, hcolumn, heq⟩ := ih
      · exact .inl (congrArg (r :: ·) heq)
      · exact .inr ⟨r :: before, q, after, rfl, hcolumn, congrArg (r :: ·) heq⟩

theorem arePinned_nil (rule : ShardingRule) (t : String) : ArePinned rule t [] [] :=
  ⟨fun _ hr => absurd hr List.not_mem_nil, fun _ hp => absurd hp List.not_mem_nil⟩

/-- **A usable predicate leaves pinned columns pinned**, and pins its own if it is an equality. -/
theorem ArePinned.restrictList {p : Predicate} {allowed : Allowed}
    (h : ArePinned rule t predicates found) (hdistinct : allowed.IsDistinct)
    (hsingle : p.isEquality = true → allowed.IsSingle) :
    ArePinned rule t (predicates ++ [p])
      (ShardingCondition.restrictList ⟨t, bareColumn p.column, allowed⟩ found) := by
  obtain heq | ⟨before, q, after, rfl, hcolumn, heq⟩ :=
    restrictList_cases ⟨t, bareColumn p.column, allowed⟩ found
  · -- a new restriction
    rw [heq]
    refine ⟨fun r hr => ?_, fun o ho husable hequality => ?_⟩
    · obtain hr | hr := List.mem_append.1 hr
      · exact h.distinct r hr
      · obtain rfl := List.mem_singleton.1 hr
        exact hdistinct
    · obtain ho | ho := List.mem_append.1 ho
      · obtain ⟨r, hr, hr'⟩ := h.single o ho husable hequality
        exact ⟨r, List.mem_append_left _ hr, hr'⟩
      · obtain rfl := List.mem_singleton.1 ho
        exact ⟨_, List.mem_append_right _ (List.mem_singleton.2 rfl), rfl, hsingle hequality⟩
  · -- a restriction that is narrowed
    rw [heq]
    have hq : q.allowed.IsDistinct := h.distinct q (by simp)
    refine ⟨fun r hr => ?_, fun o ho husable hequality => ?_⟩
    · obtain hr | hr := List.mem_append.1 hr
      · exact h.distinct r (List.mem_append_left _ hr)
      · obtain rfl | hr := List.mem_cons.1 hr
        · exact hq.meet hdistinct
        · exact h.distinct r (by simp [hr])
    · obtain ho | ho := List.mem_append.1 ho
      · obtain ⟨r, hr, hname, hr'⟩ := h.single o ho husable hequality
        obtain hr | hr := List.mem_append.1 hr
        · exact ⟨r, List.mem_append_left _ hr, hname, hr'⟩
        · obtain rfl | hr := List.mem_cons.1 hr
          · exact ⟨_, List.mem_append_right _ List.mem_cons_self, hname, hr'.meet_left allowed⟩
          · exact ⟨r, by simp [hr], hname, hr'⟩
      · obtain rfl := List.mem_singleton.1 ho
        exact ⟨_, List.mem_append_right _ List.mem_cons_self, hcolumn,
          .meet_right hq (hsingle hequality)⟩

/-- A predicate that is not usable pins nothing. -/
theorem ArePinned.append {p : Predicate} (h : ArePinned rule t predicates found)
    (husable : p.isUsable rule t = false) : ArePinned rule t (predicates ++ [p]) found := by
  refine ⟨h.distinct, fun q hq hq' => ?_⟩
  obtain hq | hq := List.mem_append.1 hq
  · exact h.single q hq hq'
  · obtain rfl := List.mem_singleton.1 hq
    cases husable.symm.trans hq'

end Restrictions

namespace Sharding

/-! ## Usable predicates

What a predicate is good for is decided before any value is looked at: it has to test a sharding
column, and its operands have to be known. -/

section Usable

variable {C : Clock → Prop} {rule : ShardingRule} {t : String} {parameters : List Value}

/-- **A usable predicate restricts its column**, any other one nothing. -/
theorem ensuresOn_restrictionsOf_single (hC : ∀ clock, C clock → C clock.now.2) (p : Predicate) :
    EnsuresOn C (restrictionsOf rule [t] parameters p) fun added =>
      (p.isUsable rule t = true ∧ ∃ allowed, added = [⟨t, bareColumn p.column, allowed⟩] ∧
        allowed.IsDistinct ∧ (p.isEquality = true → allowed.IsSingle)) ∨
        p.isUsable rule t = false ∧ added = [] := by
  rw [restrictionsOf, Predicate.isUsable]
  cases hp : restricts p with
  | false => exact ensuresOn_pure (.inr ⟨rfl, rfl⟩)
  | true =>
    rw [if_pos rfl, Bool.true_and]
    cases hnone : (owningTables rule [t] p.column).isEmpty with
    | true => exact ensuresOn_pure (.inr ⟨rfl, rfl⟩)
    | false =>
      have howning := (owningTables_singleton (List.isEmpty_eq_false_iff.1 hnone)).1
      refine (ensuresOn_allowedBy hC hp).bind fun r hr => ?_
      rw [Bool.not_false, Bool.true_and, ← hr.1]
      cases r with
      | none => exact ensuresOn_pure (.inr ⟨rfl, rfl⟩)
      | some allowed =>
        exact ensuresOn_pure (.inl ⟨rfl, allowed, by rw [howning]; rfl, hr.2 allowed rfl⟩)

end Usable

/-! ## Groups

A group is gone through from left to right, and each usable predicate narrows what is there. -/

section Groups

variable {C : Clock → Prop} {rule : ShardingRule} {t : String} {parameters : List Value}

/-- **The restrictions of a group** are those of its usable predicates. -/
theorem ensuresOn_groupRestrictions_single (hC : ∀ clock, C clock → C clock.now.2)
    {group seen predicates : List Predicate} {found : List Restriction}
    (hgroup : group ⊆ predicates) (hfound : AreFrom rule t predicates found)
    (hpinned : ArePinned rule t seen found) :
    EnsuresOn C (groupRestrictions rule [t] parameters found group) fun restrictions =>
      AreFrom rule t predicates restrictions ∧ ArePinned rule t (seen ++ group) restrictions ∧
        (restrictions = [] ↔ found = [] ∧ ∀ p ∈ group, p.isUsable rule t = false) := by
  induction group generalizing seen found with
  | nil => exact ensuresOn_pure ⟨hfound, by rwa [List.append_nil], by simp⟩
  | cons p rest ih =>
    obtain ⟨hp, hrest⟩ := List.cons_subset.1 hgroup
    rw [List.append_cons]
    refine (ensuresOn_restrictionsOf_single hC p).bind fun added hadded => ?_
    obtain ⟨husable, allowed, rfl, hdistinct, hsingle⟩ | ⟨husable, rfl⟩ := hadded
    · refine (ih hrest (hfound.restrictList hp husable allowed)
        (hpinned.restrictList hdistinct hsingle)).mono ?_
      rintro restrictions ⟨hfrom, hpinned, hnil⟩
      refine ⟨hfrom, hpinned, fun h => ?_, fun h => ?_⟩
      · exact absurd (hnil.1 h).1 (ShardingCondition.restrictList_ne_nil _)
      · cases husable.symm.trans (h.2 p List.mem_cons_self)
    · refine (ih hrest hfound (hpinned.append husable)).mono fun restrictions h =>
        ⟨h.1, h.2.1, h.2.2.trans ?_⟩
      rw [List.forall_mem_cons]
      exact and_congr_right fun _ => (and_iff_right husable).symm

/-- **A group without a usable predicate leaves a clause without conditions**; else each group has
one. -/
theorem ensuresOn_groupConditions_single (hC : ∀ clock, C clock → C clock.now.2)
    (groups : List (List Predicate)) :
    EnsuresOn C (groupConditions rule [t] parameters groups) fun found =>
      (found = none ↔ ∃ g ∈ groups, ∀ p ∈ g, p.isUsable rule t = false) ∧
        ∀ cs, found = some cs → List.Forall₂ (fun g c =>
          AreFrom rule t g c.restrictions ∧ ArePinned rule t g c.restrictions) groups cs := by
  induction groups with
  | nil => exact ensuresOn_pure ⟨by simp, by rintro cs ⟨⟩; exact .nil⟩
  | cons group rest ih =>
    refine (ensuresOn_groupRestrictions_single hC (List.Subset.refl group)
      (areFrom_nil rule t group) (arePinned_nil rule t)).bind ?_
    rintro restrictions ⟨hfrom, hpinned, hnil⟩
    rw [List.nil_append] at hpinned
    cases restrictions with
    | nil =>
      refine ensuresOn_pure ⟨iff_of_true rfl ?_, nofun⟩
      exact ⟨group, List.mem_cons_self, (hnil.1 rfl).2⟩
    | cons r more =>
      have husable : ¬ ∀ p ∈ group, p.isUsable rule t = false := fun h => by
        cases hnil.2 ⟨rfl, h⟩
      refine ih.bind fun found hfound => ensuresOn_pure ⟨?_, fun cs hcs => ?_⟩
      · rw [Option.map_eq_none_iff, hfound.1, List.exists_mem_cons_iff]
        exact (or_iff_right husable).symm
      · obtain ⟨later, hlater, rfl⟩ := Option.map_eq_some_iff.1 hcs
        exact .cons ⟨hfrom, hpinned⟩ (hfound.2 later hlater)

/-- What groups derive on a clock that always shows one instant. -/
theorem ensures_groupConditions_single {now : Moment} (groups : List (List Predicate)) :
    Ensures now (groupConditions rule [t] parameters groups) fun found =>
      (found = none ↔ ∃ g ∈ groups, ∀ p ∈ g, p.isUsable rule t = false) ∧
        ∀ cs, found = some cs →
          List.Forall₂ (fun g c => AreFrom rule t g c.restrictions) groups cs := by
  have hfixed : ∀ clock, clock = Clock.fixed now → clock.now.2 = Clock.fixed now := by
    rintro _ rfl
    rfl
  refine (ensures_iff.2 (ensuresOn_groupConditions_single hfixed groups)).mono fun found h => ?_
  exact ⟨h.1, fun cs hcs => (h.2 cs hcs).imp fun _ _ hc => hc.1⟩

/-- **The conditions of more groups** come after those of the first ones, if both have some. -/
theorem groupConditions_append_groups {tables : List String} (groups more : List (List Predicate)) :
    groupConditions rule tables parameters (groups ++ more) =
      groupConditions rule tables parameters groups >>= fun found =>
        match found with
        | none => pure none
        | some cs => (·.map (cs ++ ·)) <$> groupConditions rule tables parameters more := by
  induction groups with
  | nil => simp [groupConditions]
  | cons group rest ih =>
    rw [List.cons_append, groupConditions, groupConditions, bind_assoc]
    refine bind_congr fun restrictions => ?_
    split
    · simp
    · rw [ih, bind_assoc, bind_assoc]
      refine bind_congr fun found => ?_
      cases found <;> simp [Function.comp_def]

end Groups

end Sharding

end ScatterGather
