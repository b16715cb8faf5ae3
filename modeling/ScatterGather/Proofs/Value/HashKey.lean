import ScatterGather.Proofs.Value.Variant

/-!
# Proofs/Value/HashKey — equal values and keys of a hash table

A hash table takes two values for one key if it hashes them alike and they are equal.  Values are
hashed alike if their keys are one (`Value.key`), which makes them equal unless they are NaN, and
**equal values have one key** unless they are the two zeros (`Value.equals_iff_key`): doubles are
hashed by their bits, and the zeros differ in their sign.

Among values without NaN and without both zeros (`Value.AreHashable`) a hash table tells apart what
equality does: both go by the keys (`Value.sameKey_iff_of_isNaN`, `Value.AreHashable.equals_iff`).
-/

namespace ScatterGather

namespace Binary64

variable {x y : Binary64}

/-- A double is its sign and the bits below it. -/
theorem eq_of_negative_eq (hsign : x.negative = y.negative)
    (hbits : x.magnitudeBits = y.magnitudeBits) : x = y := by
  have hx := x.bits.toNat_lt
  have hy := y.bits.toNat_lt
  rw [Binary64.negative, Binary64.negative, decide_eq_decide] at hsign
  rw [magnitudeBits, magnitudeBits] at hbits
  have hnat : x.bits.toNat = y.bits.toNat := by omega
  exact congrArg mk (UInt64.toNat_inj.1 hnat)

/-- **Only the zeros have one place in the order** without being one double. -/
theorem key_eq_iff : x.key = y.key ↔ x = y ∨ x.isZero = true ∧ y.isZero = true := by
  constructor
  · intro h
    by_cases hzero : x.magnitudeBits = 0 ∧ y.magnitudeBits = 0
    · exact .inr ⟨decide_eq_true hzero.1, decide_eq_true hzero.2⟩
    · refine .inl (eq_of_negative_eq ?_ ?_)
      all_goals
        rw [key, key] at h
        cases hx : x.negative <;> cases hy : y.negative <;> simp [hx, hy] at h ⊢ <;> omega
  · rintro (rfl | ⟨hx, hy⟩)
    · rfl
    · have hx : x.magnitudeBits = 0 := of_decide_eq_true hx
      have hy : y.magnitudeBits = 0 := of_decide_eq_true hy
      simp [key, hx, hy]

/-- A zero is a number. -/
theorem isNaN_of_isZero (h : x.isZero = true) : x.isNaN = false := by
  have hzero : x.magnitudeBits = 0 := of_decide_eq_true h
  rw [isNaN, hzero]
  rfl

/-- Equal doubles are one, or they are zeros. -/
theorem equals_iff : x.equals y = true ↔
    x.isNaN = false ∧ (x = y ∨ x.isZero = true ∧ y.isZero = true) := by
  have hnan : x.key = y.key → x.isNaN = y.isNaN := fun h => by
    obtain rfl | ⟨hx, hy⟩ := key_eq_iff.1 h
    · rfl
    · rw [isNaN_of_isZero hx, isNaN_of_isZero hy]
  rw [← key_eq_iff, equals, order?]
  cases hx : x.isNaN with
  | true => simp
  | false =>
    cases hy : y.isNaN with
    | true => exact iff_of_false (by simp) fun h => nomatch hx.symm.trans ((hnan h.2).trans hy)
    | false => simp [Std.LawfulEqCmp.compare_eq_iff_eq]

end Binary64

namespace Value

variable {a b : Value}

/-- Whether the value is a double that is not a number. -/
def isNaN : Value → Bool
  | real x => x.isNaN
  | _ => false

/-- Whether the values are the two zeros among the doubles. -/
def areZeros : Value → Value → Bool
  | real x, real y => x.isZero && y.isZero && x != y
  | _, _ => false

theorem isNaN_of_not_isReal (h : a.isReal = false) : a.isNaN = false := by
  cases a <;> first | rfl | exact nomatch h

theorem areZeros_of_not_isReal (h : a.isReal = false) (b : Value) : a.areZeros b = false := by
  cases a <;> first | rfl | exact nomatch h

theorem exists_of_isReal (h : a.isReal = true) : ∃ x, a = real x := by
  cases a <;> first | exact ⟨_, rfl⟩ | exact nomatch h

/-- **Equality is that of keys**, but for NaN and the zeros: NaN equals nothing, and the zeros are
equal although their keys differ. -/
theorem equals_iff_key :
    a.equals b = true ↔ a.isNaN = false ∧ (a.key = b.key ∨ a.areZeros b = true) := by
  cases ha : a.isReal with
  | false =>
    rw [isNaN_of_not_isReal ha, areZeros_of_not_isReal ha]
    cases hb : b.isReal with
    | false => simp [equals_iff ha hb]
    | true =>
      obtain ⟨y, rfl⟩ := exists_of_isReal hb
      cases a
      case real => exact nomatch ha
      all_goals simp [equals, key]
  | true =>
    obtain ⟨x, rfl⟩ := exists_of_isReal ha
    cases b
    case real y =>
      change x.equals y = true ↔ x.isNaN = false ∧ (real x = real y ∨
        (x.isZero && y.isZero && x != y) = true)
      rw [Binary64.equals_iff, real.injEq]
      by_cases hxy : x = y <;> simp [hxy]
    all_goals simp [equals, key, areZeros]

/-- A value equals itself unless it is NaN. -/
theorem equals_self_iff : a.equals a = true ↔ a.isNaN = false :=
  equals_iff_key.trans (and_iff_left (.inl rfl))

/-- The zeros have different keys. -/
theorem key_ne_of_areZeros (h : a.areZeros b = true) : a.key ≠ b.key := by
  obtain ⟨x, y, rfl, rfl, hne⟩ : ∃ x y, a = real x ∧ b = real y ∧ x ≠ y := by
    cases a <;> cases b <;> first
      | exact ⟨_, _, rfl, rfl, bne_iff_ne.1 (Bool.and_eq_true_iff.1 h).2⟩
      | exact nomatch h
  exact fun hkey => hne (real.inj hkey)

/-- **Equal values have one key** unless they are the two zeros. -/
theorem key_eq_iff_of_equals (h : a.equals b = true) : a.key = b.key ↔ a.areZeros b = false := by
  constructor
  · exact fun hkey => Bool.eq_false_iff.2 fun hzeros => key_ne_of_areZeros hzeros hkey
  · intro hzeros
    exact (equals_iff_key.1 h).2.resolve_right (Bool.eq_false_iff.1 hzeros)

/-- **A hash table takes values of one key for one**, unless they are NaN. -/
theorem sameKey_iff_key : a.sameKey b = true ↔ a.isNaN = false ∧ a.key = b.key := by
  rw [sameKey, Bool.and_eq_true, beq_iff_eq, equals_iff_key]
  exact ⟨fun h => ⟨h.2.1, h.1⟩, fun h => ⟨h.2, h.1, .inl h.2⟩⟩

@[simp] theorem isNaN_key (v : Value) : v.key.isNaN = v.isNaN := by
  cases v <;> rfl

theorem sameKey_iff_of_isNaN (hb : b.isNaN = false) : a.sameKey b = true ↔ a.key = b.key := by
  rw [sameKey_iff_key, and_iff_right_of_imp]
  intro hkey
  rw [← isNaN_key a, hkey, isNaN_key, hb]

/-! ## Values that are hashed as they are equal

A statement about hash tables should speak of equality, which is what their users rely on.  It may
do so among values where equality and hashing agree. -/

/-- No value is NaN, and no two are the two zeros. -/
structure AreHashable (values : List Value) : Prop where
  nan : ∀ v ∈ values, v.isNaN = false
  zeros : ∀ v ∈ values, ∀ w ∈ values, v.areZeros w = false

/-- Values other than doubles are hashable. -/
theorem areHashable_of_isReal {values : List Value} (h : ∀ v ∈ values, v.isReal = false) :
    AreHashable values :=
  ⟨fun v hv => isNaN_of_not_isReal (h v hv), fun v hv w _ => areZeros_of_not_isReal (h v hv) w⟩

namespace AreHashable

variable {values values' : List Value}

/-- Fewer values are hashable as well. -/
theorem of_subset (h : AreHashable values) (hsub : values' ⊆ values) : AreHashable values' :=
  ⟨fun v hv => h.nan v (hsub hv), fun v hv w hw => h.zeros v (hsub hv) w (hsub hw)⟩

theorem equals_iff (h : AreHashable values) (ha : a ∈ values) (hb : b ∈ values) :
    a.equals b = true ↔ a.key = b.key := by
  rw [equals_iff_key, h.nan a ha, h.zeros a ha b hb]
  simp

end AreHashable

end Value

end ScatterGather
