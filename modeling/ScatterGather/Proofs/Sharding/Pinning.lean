import Mathlib.Data.List.Basic
import ScatterGather.Proofs.Sharding.Derivation
import ScatterGather.Proofs.Value.Variant

/-!
# Proofs/Sharding/Pinning — an equality leaves its column one value

What a column may have is narrowed predicate by predicate, in the order of the clause.  A list never
holds two equal values (`Allowed.IsDistinct`), so **whatever was found out before or after, a list
of one value leaves at most one** (`Allowed.IsSingle.meet_right`): of the values on a longer list it
admits only equal ones, and equality is Euclidean.

The contracts are on any class of clocks that readings do not leave (`EnsuresOn`).
-/

namespace ScatterGather

/-- Whether the predicate is an equality. -/
def Predicate.isEquality : Predicate → Bool
  | compare .equal _ _ => true
  | compare _ _ _ | between _ _ _ | like _ _ | among _ _ | isNull _ | isNotNull _ => false

theorem Predicate.eq_equal_of_isEquality {op : Comparison} {column : String} {e : Expression}
    (h : (compare op column e).isEquality = true) : op = .equal := by
  cases op <;> first | rfl | cases h

/-! ## Equality of values

Equality leaves out doubles as soon as one side is not one, and among other values it is a tie in
their order. -/

namespace Binary64

/-- Doubles tie if they are numbers with one key. -/
theorem order?_eq_eq_iff {x y : Binary64} :
    x.order? y = some .eq ↔ x.isNaN = false ∧ y.isNaN = false ∧ x.key = y.key := by
  rw [order?]
  cases x.isNaN <;> cases y.isNaN <;> simp [Std.LawfulEqCmp.compare_eq_iff_eq]

end Binary64

namespace Value

variable {u v w : Value}

/-- Only doubles equal doubles. -/
theorem isReal_eq_of_equals (h : u.equals v = true) : u.isReal = v.isReal := by
  cases u <;> cases v <;> first | rfl | simp [equals] at h

/-- **Values that equal one value equal each other.** -/
theorem equals_of_equals (hv : u.equals v = true) (hw : u.equals w = true) :
    v.equals w = true := by
  have hrv := isReal_eq_of_equals hv
  have hrw := isReal_eq_of_equals hw
  cases u with
  | real x =>
    cases v with
    | real y =>
      cases w with
      | real z =>
        obtain ⟨-, hy, hxy⟩ := Binary64.order?_eq_eq_iff.1 (eq_of_beq hv)
        obtain ⟨-, hz, hxz⟩ := Binary64.order?_eq_eq_iff.1 (eq_of_beq hw)
        exact beq_iff_eq.2 (Binary64.order?_eq_eq_iff.2 ⟨hy, hz, hxy.symm.trans hxz⟩)
      | _ => cases hrw
    | _ => cases hrv
  | _ =>
    rw [equals_iff rfl hrv.symm] at hv
    rw [equals_iff rfl hrw.symm] at hw
    exact (equals_iff hrv.symm hrw.symm).2 (hv.symm.trans hw)

end Value

/-! ## Lists of values

A list of allowed values is narrowed by keeping what the other side admits, on whichever side the
list stands. -/

namespace Allowed

variable {a b : Allowed} {vs : List Value}

/-- No list holds two equal values. -/
def IsDistinct : Allowed → Prop
  | values vs => vs.Pairwise fun v w => v.equals w = false
  | range _ => True

/-- A list of at most one value. -/
def IsSingle (a : Allowed) : Prop := ∃ vs, a = values vs ∧ vs.length ≤ 1

/-- What two restrictions allow both is as distinct as they are. -/
theorem IsDistinct.meet (ha : a.IsDistinct) (hb : b.IsDistinct) : (a.meet b).IsDistinct := by
  cases a with
  | values vs => exact List.Pairwise.filter _ ha
  | range r =>
    cases b with
    | values ws => exact List.Pairwise.filter _ hb
    | range s => trivial

/-- **A list of one value stays one** when it is narrowed. -/
theorem IsSingle.meet_left (ha : a.IsSingle) (b : Allowed) : (a.meet b).IsSingle := by
  obtain ⟨vs, rfl, hlength⟩ := ha
  exact ⟨_, rfl, Nat.le_trans (List.length_filter_le _ vs) hlength⟩

/-- Distinct values hold one that equals a given value at most once. -/
theorem length_filter_equals (h : (values vs).IsDistinct) (v : Value) :
    (vs.filter fun w => v.equals w).length ≤ 1 := by
  have hpair : (vs.filter fun w => v.equals w).Pairwise fun v w => v.equals w = false :=
    List.Pairwise.filter _ h
  match hfilter : vs.filter fun w => v.equals w with
  | [] => exact Nat.zero_le 1
  | [_] => exact Nat.le_refl 1
  | w :: u :: rest =>
    have hmem : ∀ x ∈ w :: u :: rest, v.equals x = true := fun x hx =>
      (List.mem_filter.1 (hfilter ▸ hx)).2
    rw [hfilter, List.pairwise_cons] at hpair
    have hw := hmem w List.mem_cons_self
    have hu := hmem u (List.mem_cons_of_mem _ List.mem_cons_self)
    cases (hpair.1 u List.mem_cons_self).symm.trans (Value.equals_of_equals hw hu)

/-- **A list of one value leaves at most one** of whatever it narrows. -/
theorem IsSingle.meet_right (ha : a.IsDistinct) (hb : b.IsSingle) : (a.meet b).IsSingle := by
  obtain ⟨ws, rfl, hlength⟩ := hb
  cases a with
  | range r => exact ⟨_, rfl, Nat.le_trans (List.length_filter_le _ ws) hlength⟩
  | values vs =>
    refine ⟨_, rfl, ?_⟩
    match ws with
    | [] => simp [admits]
    | [v] => simpa [admits] using length_filter_equals ha v
    | _ :: _ :: _ => exact absurd hlength (by simp)

end Allowed

namespace Sharding

/-! ## What a predicate allows

An equality allows a list of one value, IN a list without repetitions, and any other comparison a
range. -/

section Allows

variable {C : Clock → Prop} {parameters : List Value}

/-- A list of operands has distinct values. -/
theorem ensuresOn_resolveList (hC : ∀ clock, C clock → C clock.now.2) (column : String)
    {found : List Value} (hfound : (Allowed.values found).IsDistinct)
    (operands : List Expression) :
    EnsuresOn C (resolveList parameters column found operands) fun r =>
      r.isSome = operands.all Expression.isKnown ∧ ∀ vs ∈ r, (Allowed.values vs).IsDistinct := by
  induction operands generalizing found with
  | nil =>
    refine ensuresOn_pure ⟨rfl, ?_⟩
    rintro vs ⟨⟩
    exact hfound
  | cons e rest ih =>
    refine (ensuresOn_resolveOperand hC column e).bind fun r hr => ?_
    rw [List.all_cons, ← hr]
    cases r with
    | none => exact ensuresOn_pure ⟨rfl, nofun⟩
    | some v =>
      dsimp only
      split
      · exact ih hfound
      · rename_i hnew
        refine ih (List.pairwise_append.2 ⟨hfound, List.pairwise_singleton _ v, ?_⟩)
        rintro w hw _ hv
        obtain rfl := List.mem_singleton.1 hv
        simpa using fun h => hnew (List.any_eq_true.2 ⟨w, hw, h⟩)

/-- Every comparison but `<>` allows something, and an equality one value. -/
theorem exists_comparisonRange_eq {op : Comparison} (hop : op ≠ .notEqual) (v : Value) :
    ∃ a, comparisonRange op v = some a ∧ a.IsDistinct ∧ (op = .equal → a.IsSingle) := by
  cases op with
  | notEqual => exact absurd rfl hop
  | equal =>
    exact ⟨_, rfl, List.pairwise_singleton _ v, fun _ => ⟨[v], rfl, Nat.le_refl 1⟩⟩
  | greater | greaterOrEqual | less | lessOrEqual => exact ⟨_, rfl, trivial, nofun⟩

/-- A predicate allows something if its operands are known, and an equality one value. -/
theorem ensuresOn_allowedBy (hC : ∀ clock, C clock → C clock.now.2) {p : Predicate}
    (hp : restricts p = true) : EnsuresOn C (allowedBy parameters p) fun r =>
      r.isSome = p.operands.all Expression.isKnown ∧
        ∀ a ∈ r, a.IsDistinct ∧ (p.isEquality = true → a.IsSingle) := by
  cases p with
  | like | isNull | isNotNull => cases hp
  | compare op column e =>
    have hop : op ≠ .notEqual := of_decide_eq_true hp
    rw [allowedBy_compare hop]
    refine (ensuresOn_resolveOperand hC column e).bind fun r hr => ensuresOn_pure ?_
    rw [Predicate.operands, List.all_cons, ← hr]
    cases r with
    | none =>
      refine ⟨rfl, ?_⟩
      rintro a ⟨⟩
    | some v =>
      -- The operand is known: an equality allows its value, and an inequality a range.
      obtain ⟨a, ha, hdistinct, hsingle⟩ := exists_comparisonRange_eq hop v
      rw [Option.bind_some, ha]
      refine ⟨rfl, ?_⟩
      rintro _ ⟨⟩
      exact ⟨hdistinct, fun hequal => hsingle (Predicate.eq_equal_of_isEquality hequal)⟩
  | among column operands =>
    refine (ensuresOn_resolveList hC column List.Pairwise.nil operands).bind fun r hr =>
      ensuresOn_pure ⟨?_, fun a ha => ?_⟩
    · rw [Option.isSome_map]
      exact hr.1
    · obtain ⟨vs, hvs, rfl⟩ := Option.map_eq_some_iff.1 ha
      exact ⟨hr.2 vs hvs, fun h => by cases h⟩
  | between column low high =>
    refine (ensuresOn_resolveOperand hC column low).bind fun a ha =>
      (ensuresOn_resolveOperand hC column high).bind fun b hb => ensuresOn_pure ?_
    rw [Predicate.operands, List.all_cons, List.all_cons, ← ha, ← hb]
    refine ⟨by cases a <;> cases b <;> rfl, fun range hrange => ?_⟩
    obtain ⟨x, -, hx⟩ := Option.bind_eq_some_iff.1 hrange
    obtain ⟨y, -, rfl⟩ := Option.map_eq_some_iff.1 hx
    exact ⟨trivial, fun h => by cases h⟩

end Allows

end Sharding

end ScatterGather
