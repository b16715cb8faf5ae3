import ScatterGather.Proofs.Comparison
import ScatterGather.Proofs.Value.Rank

/-!
# Proofs/Value/Variant — cells of one type

Within one type, doubles and JSON aside, **any two values compare** (`Value.exists_order?_eq`), and
**those that tie are one key of a hash table** (`Value.order?_eq_eq_iff`).  For decimals that is
because the form without trailing zeros is canonical (`Decimal.normalize_eq_iff`).
-/

namespace ScatterGather

/-- The types of cells that are not NULL. -/
inductive Variant where
  | smallInt
  | integer
  | real
  | numeric
  | text
  | char
  | boolean
  | date
  | timestamp
  | timestampTz
  | uuid
  | json
  | bytea
  deriving DecidableEq

/-- The type of a value; NULL has none. -/
def Value.variant? : Value → Option Variant
  | null => none
  | smallInt _ => some .smallInt
  | integer _ => some .integer
  | real _ => some .real
  | numeric _ => some .numeric
  | text _ => some .text
  | char _ => some .char
  | boolean _ => some .boolean
  | date _ => some .date
  | timestamp _ => some .timestamp
  | timestampTz _ => some .timestampTz
  | uuid _ => some .uuid
  | json _ => some .json
  | bytea _ => some .bytea

/-- The types whose values compare exactly: all but doubles and JSON. -/
def Variant.IsExact (t : Variant) : Prop := t ≠ .real ∧ t ≠ .json

instance (t : Variant) : Decidable t.IsExact := inferInstanceAs (Decidable (_ ∧ _))

namespace Decimal

/-! ## Normal forms

Decimals of one number may differ in their scale.  A hash table needs one form for all of them,
which is the one without trailing zeros among the places; a zero has no places and no sign. -/

/-- What stripping leaves: the number itself, and a last digit other than zero unless no place is
left. -/
theorem stripZeros_spec (coefficient scale : Nat) :
    (stripZeros coefficient scale).1 * 10 ^ (scale - (stripZeros coefficient scale).2) =
        coefficient ∧
      ((stripZeros coefficient scale).2 = 0 ∨ (stripZeros coefficient scale).1 % 10 ≠ 0) := by
  induction scale generalizing coefficient with
  | zero => simp [stripZeros]
  | succ scale ih =>
    rw [stripZeros]
    split
    · rename_i hzero
      obtain ⟨hmul, hlast⟩ := ih (coefficient / 10)
      have hle := (stripZeros_le (coefficient / 10) scale).2
      refine ⟨?_, hlast⟩
      rw [Nat.succ_sub hle, Nat.pow_succ, ← Nat.mul_assoc, hmul]
      omega
    · rename_i hlast
      exact ⟨by simp, Or.inr hlast⟩

/-- A form without trailing zeros among the places; zero has but one. -/
structure IsNormal (d : Decimal) : Prop where
  zero : d.coefficient = 0 → d = .zero
  last : d.scale = 0 ∨ d.coefficient % 10 ≠ 0

theorem isNormal_normalize (d : Decimal) : d.normalize.IsNormal := by
  rw [normalize]
  split
  · exact ⟨fun _ => rfl, Or.inl rfl⟩
  · rename_i hne
    obtain ⟨hmul, hlast⟩ := stripZeros_spec d.coefficient d.scale
    refine ⟨fun hzero => absurd ?_ hne, hlast⟩
    rw [← hmul, show (stripZeros d.coefficient d.scale).1 = 0 from hzero, Nat.zero_mul]

/-- Normalizing keeps the number. -/
theorem atMaxScale_normalize (d : Decimal) : d.normalize.atMaxScale = d.atMaxScale := by
  rw [normalize]
  split
  · rename_i hzero
    simp [atMaxScale, signedCoefficient, zero, hzero]
  · obtain ⟨hmul, -⟩ := stripZeros_spec d.coefficient d.scale
    have hle := (stripZeros_le d.coefficient d.scale).2
    have hd := d.scale_le
    have hpow : 28 - (stripZeros d.coefficient d.scale).2 =
        (d.scale - (stripZeros d.coefficient d.scale).2) + (28 - d.scale) := by omega
    have key : ((stripZeros d.coefficient d.scale).1 : Int) *
        10 ^ (28 - (stripZeros d.coefficient d.scale).2) = d.coefficient * 10 ^ (28 - d.scale) := by
      rw [hpow, Int.pow_add, ← Int.mul_assoc]
      exact congrArg (· * (10 : Int) ^ (28 - d.scale)) (by exact_mod_cast hmul)
    simp only [atMaxScale, signedCoefficient]
    split
    · rw [Int.neg_mul, Int.neg_mul, key]
    · exact key

theorem natAbs_atMaxScale (d : Decimal) :
    d.atMaxScale.natAbs = d.coefficient * 10 ^ (28 - d.scale) := by
  rw [atMaxScale, signedCoefficient, Int.natAbs_mul, Int.natAbs_pow]
  split <;> simp

theorem atMaxScale_neg_iff (d : Decimal) :
    d.atMaxScale < 0 ↔ d.negative = true ∧ d.coefficient ≠ 0 := by
  have hpow : (0 : Int) < 10 ^ (28 - d.scale) := Int.pow_pos (by decide)
  have hmul : d.signedCoefficient * 10 ^ (28 - d.scale) < 0 ↔ d.signedCoefficient < 0 := by
    have : d.signedCoefficient * 10 ^ (28 - d.scale) < 0 * 10 ^ (28 - d.scale) ↔ _ :=
      Int.mul_lt_mul_right hpow
    rwa [Int.zero_mul] at this
  rw [atMaxScale, hmul, signedCoefficient]
  split
  · simp_all
    omega
  · simp_all

/-- The scale of a normal form is determined by the number. -/
theorem scale_le_of_isNormal {d e : Decimal} (hd : d.IsNormal)
    (h : d.coefficient * 10 ^ (28 - d.scale) = e.coefficient * 10 ^ (28 - e.scale)) :
    d.scale ≤ e.scale := by
  refine Nat.le_of_not_lt fun hlt => ?_
  have hgap : 28 - e.scale = (d.scale - e.scale - 1) + 1 + (28 - d.scale) := by
    have := d.scale_le
    omega
  have hpos : 0 < 10 ^ (28 - d.scale) := Nat.pow_pos (by decide)
  rw [hgap, Nat.pow_add, ← Nat.mul_assoc] at h
  have hcoef := Nat.eq_of_mul_eq_mul_right hpos h
  obtain hzero | hlast := hd.last
  · omega
  · rw [hcoef, Nat.pow_succ, ← Nat.mul_assoc, Nat.mul_mod_left] at hlast
    exact hlast rfl

/-- **Normal forms of one number are one.** -/
theorem eq_of_isNormal {d e : Decimal} (hd : d.IsNormal) (he : e.IsNormal)
    (h : d.atMaxScale = e.atMaxScale) : d = e := by
  have habs : d.coefficient * 10 ^ (28 - d.scale) = e.coefficient * 10 ^ (28 - e.scale) := by
    rw [← natAbs_atMaxScale, ← natAbs_atMaxScale, h]
  have hpos : ∀ k : Nat, 10 ^ k ≠ 0 := fun k => Nat.ne_of_gt (Nat.pow_pos (by decide))
  by_cases hzero : d.coefficient = 0
  · have hzero' : e.coefficient = 0 := by
      rw [hzero, Nat.zero_mul, eq_comm, Nat.mul_eq_zero] at habs
      exact habs.resolve_right (hpos _)
    rw [hd.zero hzero, he.zero hzero']
  · have hzero' : e.coefficient ≠ 0 := by
      intro hzero'
      rw [hzero', Nat.zero_mul, Nat.mul_eq_zero] at habs
      exact habs.elim hzero (hpos _)
    have hscale : d.scale = e.scale := Nat.le_antisymm (scale_le_of_isNormal hd habs)
      (scale_le_of_isNormal he habs.symm)
    rw [hscale] at habs
    have hcoef := Nat.eq_of_mul_eq_mul_right (Nat.pos_of_ne_zero (hpos _)) habs
    have hsign : d.negative = e.negative := by
      have hd' := atMaxScale_neg_iff d
      have he' := atMaxScale_neg_iff e
      rw [h] at hd'
      exact Bool.eq_iff_iff.2 ⟨fun hn => (he'.1 (hd'.2 ⟨hn, hzero⟩)).1,
        fun hn => (hd'.1 (he'.2 ⟨hn, hzero'⟩)).1⟩
    obtain ⟨dn, dc, ds, _, _⟩ := d
    obtain ⟨en, ec, es, _, _⟩ := e
    obtain rfl : dn = en := hsign
    obtain rfl : dc = ec := hcoef
    obtain rfl : ds = es := hscale
    rfl

/-- **Decimals have one normal form exactly if they are one number.** -/
theorem normalize_eq_iff {d e : Decimal} :
    d.normalize = e.normalize ↔ d.atMaxScale = e.atMaxScale := by
  constructor
  · intro h
    rw [← atMaxScale_normalize d, ← atMaxScale_normalize e, h]
  · intro h
    rw [← atMaxScale_normalize d, ← atMaxScale_normalize e] at h
    exact eq_of_isNormal (isNormal_normalize d) (isNormal_normalize e) h

end Decimal

namespace Value

variable {a b : Value} {t : Variant}

theorem isReal_of_variant? (ha : a.variant? = some t) (ht : t.IsExact) : a.isReal = false := by
  cases a <;> first | rfl | exact absurd (Option.some.inj ha).symm ht.1

@[simp] theorem isNull_key (v : Value) : v.key.isNull = v.isNull := by
  cases v <;> rfl

/-! ## Comparing within a type

One type has one way to compare, so the two facts are shown type by type. -/

/-- **Values of one type compare.** -/
theorem exists_order?_eq (ha : a.variant? = some t) (hb : b.variant? = some t)
    (ht : t.IsExact) : ∃ o, a.order? b = some o := by
  cases a <;> cases b <;> simp_all [variant?, Variant.IsExact] <;> first
    | exact ⟨_, rfl⟩
    | (subst hb; simp_all)

/-- Equality within a type is equality of keys. -/
theorem equals_iff (ha : a.isReal = false) (hb : b.isReal = false) :
    a.equals b = true ↔ a.key = b.key := by
  cases a
  case real x => exact nomatch ha
  all_goals
    cases b
    case real y => exact nomatch hb
    all_goals try simp [equals, key]
  case numeric.numeric d e =>
    rw [Decimal.normalize_eq_iff, Decimal.equals, Decimal.order, beq_iff_eq]
    exact Std.LawfulEqCmp.compare_eq_iff_eq

/-- **Values of one type tie exactly if they are one key.** -/
theorem order?_eq_eq_iff (ha : a.variant? = some t) (hb : b.variant? = some t)
    (ht : t.IsExact) : a.order? b = some .eq ↔ a.key = b.key := by
  have hcmp : ∀ x y : Int, compare x y = .eq ↔ x = y := fun _ _ =>
    Std.LawfulEqCmp.compare_eq_iff_eq
  cases a
  case real x => exact absurd (Option.some.inj ha).symm ht.1
  case json x => exact absurd (Option.some.inj ha).symm ht.2
  case null => exact nomatch ha
  all_goals
    obtain rfl := Option.some.inj ha
    cases b <;> simp [variant?] at hb
  case numeric.numeric d e =>
    change some (d.order e) = some .eq ↔ numeric d.normalize = numeric e.normalize
    rw [Option.some.injEq, numeric.injEq, Decimal.normalize_eq_iff, Decimal.order, hcmp]
  -- what is left compares numbers or texts that determine the value
  all_goals
    simp only [order?, key, text?, isNumeric, Bool.and_self, if_true, orderNumbers?, int?,
      orderTexts, Option.some.injEq, Std.LawfulEqCmp.compare_eq_iff_eq, Int16.toInt_toInt64,
      smallInt.injEq, integer.injEq, text.injEq, char.injEq, boolean.injEq, date.injEq,
      timestamp.injEq, timestampTz.injEq, uuid.injEq, bytea.injEq]
  case smallInt.smallInt m n => exact Int16.toInt_inj
  case integer.integer m n => exact Int64.toInt_inj
  case boolean.boolean x y => cases x <;> cases y <;> decide
  case date.date d e => exact (Date.mk.injEq ..).symm.to_iff
  case timestamp.timestamp m n => exact (Moment.mk.injEq ..).symm.to_iff
  case timestampTz.timestampTz m n => exact (Moment.mk.injEq ..).symm.to_iff
  case uuid.uuid u v => exact BitVec.toNat_inj
  case bytea.bytea b c => exact List.map_inj_right fun x y => UInt8.toNat_inj.1

end Value

end ScatterGather
