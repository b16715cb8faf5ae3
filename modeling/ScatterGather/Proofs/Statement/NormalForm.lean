import Mathlib.Data.List.Forall2
import ScatterGather.Proofs.Sharding.Derivation

/-!
# Proofs/Statement/NormalForm — a clause is as true as its groups

A predicate over NULLs is neither true nor false, and a clause takes its truth from its predicates
in Kleene's logic (`Condition.value`).  AND spreads over OR there as it does among two truth values,
so the groups of a clause are its **disjunctive normal form** (`andGroups_isNormalForm`): whatever
the truth of each predicate where it stands, the clause is as true as one of its groups.
-/

namespace ScatterGather

/-! ## Three truth values

Kleene's connectives form a distributive lattice; the laws below are those that the normal form
needs. -/

/-- A truth value of Kleene's logic. -/
inductive Truth where
  | no
  | unknown
  | yes
  deriving DecidableEq

namespace Truth

/-- No as soon as one of them is, and yes if both are. -/
def and : Truth → Truth → Truth
  | no, _ | _, no => no
  | yes, yes => yes
  | _, _ => unknown

/-- Yes as soon as one of them is, and no if both are. -/
def or : Truth → Truth → Truth
  | yes, _ | _, yes => yes
  | no, no => no
  | _, _ => unknown

/-- All of the values, joined by AND. -/
def all (ts : List Truth) : Truth := ts.foldr and yes

/-- All of the values, joined by OR. -/
def any (ts : List Truth) : Truth := ts.foldr or no

theorem and_assoc (a b c : Truth) : (a.and b).and c = a.and (b.and c) := by
  cases a <;> cases b <;> cases c <;> rfl

theorem or_assoc (a b c : Truth) : (a.or b).or c = a.or (b.or c) := by
  cases a <;> cases b <;> cases c <;> rfl

theorem and_or (a b c : Truth) : a.and (b.or c) = (a.and b).or (a.and c) := by
  cases a <;> cases b <;> cases c <;> rfl

theorem or_and (a b c : Truth) : (a.or b).and c = (a.and c).or (b.and c) := by
  cases a <;> cases b <;> cases c <;> rfl

@[simp] theorem yes_and (a : Truth) : yes.and a = a := by cases a <;> rfl

@[simp] theorem and_yes (a : Truth) : a.and yes = a := by cases a <;> rfl

@[simp] theorem no_and (a : Truth) : no.and a = no := by cases a <;> rfl

@[simp] theorem and_no (a : Truth) : a.and no = no := by cases a <;> rfl

@[simp] theorem no_or (a : Truth) : no.or a = a := by cases a <;> rfl

@[simp] theorem or_no (a : Truth) : a.or no = a := by cases a <;> rfl

/-- All of two lists are all of either. -/
theorem all_append (as bs : List Truth) : all (as ++ bs) = (all as).and (all bs) := by
  induction as with
  | nil => exact (yes_and _).symm
  | cons a as ih => exact (congrArg a.and ih).trans (and_assoc _ _ _).symm

/-- Any of two lists is any of either. -/
theorem any_append (as bs : List Truth) : any (as ++ bs) = (any as).or (any bs) := by
  induction as with
  | nil => exact (no_or _).symm
  | cons a as ih => exact (congrArg a.or ih).trans (or_assoc _ _ _).symm

theorem any_map_and (a : Truth) (bs : List Truth) : any (bs.map a.and) = a.and (any bs) := by
  induction bs with
  | nil => exact (and_no a).symm
  | cons b bs ih => exact (congrArg (a.and b).or ih).trans (and_or _ _ _).symm

/-- **AND spreads over OR**: one of each side holds when both sides have one that does. -/
theorem any_flatMap_and (as bs : List Truth) :
    any (as.flatMap fun a => bs.map a.and) = (any as).and (any bs) := by
  induction as with
  | nil => exact (no_and _).symm
  | cons a as ih =>
    rw [List.flatMap_cons, any_append, any_map_and, ih]
    exact (or_and _ _ _).symm

end Truth

/-! ## The truth of a clause

The same predicate can stand in several places of a clause.  Its truth is given for each place, the
places numbered from left to right, so that nothing is assumed of equal predicates. -/

namespace Condition

/-- The truth of a clause whose places are numbered from `i` on. -/
def valueFrom (truth : Nat → Truth) (i : Nat) : Condition → Truth
  | test _ => truth i
  | and left right =>
    (left.valueFrom truth i).and (right.valueFrom truth (i + left.predicates.length))
  | or left right =>
    (left.valueFrom truth i).or (right.valueFrom truth (i + left.predicates.length))

/-- The truth of a clause, from the truth of the predicate in each of its places. -/
def value (truth : Nat → Truth) (c : Condition) : Truth := c.valueFrom truth 0

/-- The number of groups: the sum of the parts' numbers over OR, and their product over AND. -/
def groupCount : Condition → Nat
  | test _ => 1
  | and left right => left.groupCount * right.groupCount
  | or left right => left.groupCount + right.groupCount

/-- **The groups of a clause are its disjunctive normal form.** -/
structure IsNormalForm (c : Condition) (groups : List (List Predicate)) : Prop where
  /-- Each group picks places of the clause, from left to right, and lists their predicates; the
  clause is as true as the places of one of the groups are together. -/
  exists_places : ∃ places : List (List Nat),
    List.Forall₂ (List.Forall₂ fun i p => c.predicates[i]? = some p) places groups ∧
      (∀ group ∈ places, group.Pairwise (· < ·)) ∧
        ∀ truth, c.value truth = .any (places.map fun group => .all (group.map truth))
  nonempty : ∀ group ∈ groups, group ≠ []
  mem_predicates : ∀ group ∈ groups, ∀ p ∈ group, p ∈ c.predicates
  length_eq : groups.length = c.groupCount
  /-- A group of a conjunction is one of the left side and then one of the right side. -/
  sides : ∀ left right : Condition, c = left.and right → ∀ group ∈ groups,
    ∃ l ∈ left.andGroups, ∃ r ∈ right.andGroups, group = l ++ r

/-- The places that the groups pick, numbered from `i` on. -/
def groupsFrom (i : Nat) : Condition → List (List Nat)
  | test _ => [[i]]
  | and left right => (left.groupsFrom i).flatMap fun l =>
    (right.groupsFrom (i + left.predicates.length)).map fun r => l ++ r
  | or left right => left.groupsFrom i ++ right.groupsFrom (i + left.predicates.length)

section Places

variable {i : Nat} {group : List Nat}

/-- The places of a group lie in the clause, each before the next. -/
theorem places_of_mem_groupsFrom {c : Condition} (h : group ∈ c.groupsFrom i) :
    group.Pairwise (· < ·) ∧ ∀ k ∈ group, i ≤ k ∧ k < i + c.predicates.length := by
  induction c generalizing i group with
  | test p =>
    obtain rfl := List.mem_singleton.1 h
    simp [predicates]
  | and left right ihl ihr =>
    obtain ⟨l, hl, h⟩ := List.mem_flatMap.1 h
    obtain ⟨r, hr, rfl⟩ := List.mem_map.1 h
    obtain ⟨hlpair, hlin⟩ := ihl hl
    obtain ⟨hrpair, hrin⟩ := ihr hr
    refine ⟨List.pairwise_append.2 ⟨hlpair, hrpair, fun a ha b hb => ?_⟩, fun k hk => ?_⟩
    · exact Nat.lt_of_lt_of_le (hlin a ha).2 (hrin b hb).1
    · rw [predicates, List.length_append]
      obtain hk | hk := List.mem_append.1 hk
      · have := hlin k hk
        omega
      · have := hrin k hk
        omega
  | or left right ihl ihr =>
    rw [predicates, List.length_append]
    obtain h | h := List.mem_append.1 h
    · obtain ⟨hpair, hin⟩ := ihl h
      exact ⟨hpair, fun k hk => by have := hin k hk; omega⟩
    · obtain ⟨hpair, hin⟩ := ihr h
      exact ⟨hpair, fun k hk => by have := hin k hk; omega⟩

/-- What is so of the places of a list is so of those of either part, the second ones moved on. -/
theorem forall_places_append {P : Nat → Predicate → Prop} {ps qs : List Predicate}
    (h : ∀ k p, (ps ++ qs)[k]? = some p → P (i + k) p) :
    (∀ k p, ps[k]? = some p → P (i + k) p) ∧
      ∀ k p, qs[k]? = some p → P (i + ps.length + k) p := by
  refine ⟨fun k p hk => h k p ?_, fun k p hk => ?_⟩
  · exact (List.getElem?_append_left (List.getElem?_eq_some_iff.1 hk).1).trans hk
  · rw [Nat.add_assoc]
    refine h _ p ((List.getElem?_append_right (Nat.le_add_right _ _)).trans ?_)
    rwa [Nat.add_sub_cancel_left]

/-- **A group lists what stands in its places.** -/
theorem forall₂_groupsFrom {P : Nat → Predicate → Prop} {c : Condition}
    (h : ∀ k p, c.predicates[k]? = some p → P (i + k) p) :
    List.Forall₂ (List.Forall₂ P) (c.groupsFrom i) c.andGroups := by
  induction c generalizing i with
  | test p => exact .cons (.cons (h 0 p rfl) .nil) .nil
  | and left right ihl ihr =>
    obtain ⟨hleft, hright⟩ := forall_places_append h
    exact List.rel_flatMap (ihl hleft) fun l l' hl =>
      List.rel_map (fun r r' hr => List.rel_append hl hr) (ihr hright)
  | or left right ihl ihr =>
    obtain ⟨hleft, hright⟩ := forall_places_append h
    exact List.rel_append (ihl hleft) (ihr hright)

/-- **A clause is as true as one of its groups**, over AND because one group of each side is true
when both sides have one that is. -/
theorem valueFrom_eq (truth : Nat → Truth) (c : Condition) (i : Nat) :
    c.valueFrom truth i = .any ((c.groupsFrom i).map fun group => .all (group.map truth)) := by
  induction c generalizing i with
  | test p => simp [valueFrom, groupsFrom, Truth.any, Truth.all]
  | and left right ihl ihr =>
    rw [valueFrom, ihl, ihr, ← Truth.any_flatMap_and, groupsFrom, List.map_flatMap,
      List.flatMap_map]
    simp only [List.map_map, Function.comp_def, List.map_append, Truth.all_append]
  | or left right ihl ihr =>
    rw [valueFrom, ihl, ihr, groupsFrom, List.map_append, Truth.any_append]

end Places

/-- There are as many groups as `groupCount` says. -/
theorem length_andGroups (c : Condition) : c.andGroups.length = c.groupCount := by
  induction c with
  | test p => rfl
  | and left right ihl ihr =>
    rw [andGroups, groupCount, ← ihl, ← ihr, List.length_flatMap]
    simp
  | or left right ihl ihr => rw [andGroups, groupCount, ← ihl, ← ihr, List.length_append]

/-- No group is empty. -/
theorem ne_nil_of_mem_andGroups {c : Condition} {group : List Predicate}
    (h : group ∈ c.andGroups) : group ≠ [] := by
  induction c generalizing group with
  | test p =>
    obtain rfl := List.mem_singleton.1 h
    exact List.cons_ne_nil _ _
  | and left right ihl ihr =>
    obtain ⟨l, hl, h⟩ := List.mem_flatMap.1 h
    obtain ⟨r, hr, rfl⟩ := List.mem_map.1 h
    exact List.append_ne_nil_of_left_ne_nil (ihl hl) r
  | or left right ihl ihr => exact (List.mem_append.1 h).elim ihl ihr

/-- **The groups of a clause are its disjunctive normal form** in Kleene's logic. -/
theorem andGroups_isNormalForm (c : Condition) : c.IsNormalForm c.andGroups where
  exists_places := by
    refine ⟨c.groupsFrom 0, forall₂_groupsFrom fun k p hk => ?_,
      fun group h => (places_of_mem_groupsFrom h).1, fun truth => c.valueFrom_eq truth 0⟩
    rwa [Nat.zero_add]
  nonempty := fun group => ne_nil_of_mem_andGroups
  mem_predicates := fun group hgroup p => mem_predicates_of_mem_andGroups hgroup
  length_eq := c.length_andGroups
  sides := by
    rintro left right rfl group h
    obtain ⟨l, hl, h⟩ := List.mem_flatMap.1 h
    obtain ⟨r, hr, rfl⟩ := List.mem_map.1 h
    exact ⟨l, hl, r, hr, rfl⟩

example (a b c : Predicate) :
    ((test a).and ((test b).or (test c))).andGroups = [[a, b], [a, c]] := rfl

end Condition

end ScatterGather
