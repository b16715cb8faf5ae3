import Mathlib.Algebra.Order.Ring.Int
import Mathlib.Tactic.Ring
import ScatterGather.Proofs.Comparison
import ScatterGather.Value.Order
import ScatterGather.Value.Sum

/-!
# Proofs/Value/WholeNumber — cells that are whole numbers

Counts and sums of integers come as integers of either width or as decimals of any scale.  Whatever
the form, such cells compare as the numbers they are (`Value.order?_of_whole?`), and they **add
exactly** while the sum stays below 2⁹⁶ (`Value.exists_add_eq`): dropping places to make a sum fit
drops zeros only.
-/

namespace ScatterGather

namespace Decimal

variable {a b d : Decimal} {x y : Int}

/-- The whole number that a decimal is, if it is one. -/
def whole? (d : Decimal) : Option Int :=
  if (10 : Int) ^ d.scale ∣ d.signedCoefficient then some (d.signedCoefficient / 10 ^ d.scale)
  else none

theorem pow_scale_ne_zero (n : Nat) : (10 : Int) ^ n ≠ 0 := pow_ne_zero n (by decide)

/-! ## Decimals without places

That a decimal is a whole number is a statement about its coefficient and a power of ten.  In this
form it survives a change of scale, which adding and comparing make. -/

theorem whole?_eq_some : d.whole? = some x ↔ d.signedCoefficient = x * 10 ^ d.scale := by
  rw [whole?]
  constructor
  · intro h
    split at h
    · rename_i hdvd
      rw [← Option.some.inj h, Int.ediv_mul_cancel hdvd]
    · exact nomatch h
  · intro h
    rw [h, if_pos (Int.dvd_mul_left _ _), Int.mul_ediv_cancel _ (pow_scale_ne_zero _)]

/-- A decimal without places, and no negative zero: the form that integers take. -/
structure IsPlain (d : Decimal) : Prop where
  scale : d.scale = 0
  zero : d.coefficient = 0 → d.negative = false

theorem IsPlain.whole?_eq (h : d.IsPlain) : d.whole? = some d.signedCoefficient := by
  rw [whole?_eq_some, h.scale, pow_zero, mul_one]

/-- **Integers have one plain form.** -/
theorem IsPlain.eq_of_whole? (ha : a.IsPlain) (hb : b.IsPlain) (hwhole : a.whole? = b.whole?) :
    a = b := by
  rw [ha.whole?_eq, hb.whole?_eq] at hwhole
  have hsigned := Option.some.inj hwhole
  obtain ⟨hscale, hzero⟩ := ha
  obtain ⟨hscale', hzero'⟩ := hb
  obtain ⟨negative, coefficient, scale, _, _⟩ := a
  obtain ⟨negative', coefficient', scale', _, _⟩ := b
  obtain rfl : scale = 0 := hscale
  obtain rfl : scale' = 0 := hscale'
  have hcoefficient : coefficient = coefficient' := by
    have habs := congrArg Int.natAbs hsigned
    simp only [signedCoefficient] at habs
    split at habs <;> split at habs <;> simpa using habs
  subst hcoefficient
  obtain hne | rfl := Decidable.em (coefficient ≠ 0) |>.imp id Classical.not_not.1
  · simp only [signedCoefficient] at hsigned
    cases negative <;> cases negative' <;> simp at hsigned <;> first | rfl | omega
  · simp [show negative = false from hzero rfl, show negative' = false from hzero' rfl]

/-- A decimal of parts that fit. -/
theorem exists_make?_eq (negative : Bool) {coefficient scale : Nat}
    (hcoefficient : coefficient < 2 ^ 96) (hscale : scale ≤ 28) :
    ∃ d, make? negative coefficient scale = some d ∧ d.scale = scale ∧
      d.signedCoefficient = (if negative then -(coefficient : Int) else coefficient) ∧
      (d.coefficient = 0 → d.negative = false) := by
  refine ⟨⟨negative && coefficient ≠ 0, coefficient, scale, hcoefficient, hscale⟩, ?_, rfl, ?_, ?_⟩
  · rw [make?, ofParts?, dif_pos ⟨hcoefficient, hscale⟩]
  · rw [signedCoefficient]
    by_cases hzero : coefficient = 0
    · simp [hzero]
    · simp [hzero]
  · intro hzero
    have hzero : coefficient = 0 := hzero
    simp [hzero]

/-- A whole number that fits, with these places. -/
theorem exists_make?_whole {scale : Nat} (hfits : x.natAbs * 10 ^ scale < 2 ^ 96)
    (hscale : scale ≤ 28) :
    ∃ d, make? (x < 0) (x.natAbs * 10 ^ scale) scale = some d ∧ d.whole? = some x ∧
      d.scale = scale ∧ (d.coefficient = 0 → d.negative = false) := by
  obtain ⟨d, hd, hdscale, hsigned, hzero⟩ :=
    exists_make?_eq (decide (x < 0)) hfits hscale
  refine ⟨d, hd, ?_, hdscale, hzero⟩
  rw [whole?_eq_some, hsigned, hdscale]
  push_cast
  by_cases hneg : x < 0
  · rw [decide_eq_true hneg, if_pos rfl, abs_of_neg hneg, neg_mul, neg_neg]
  · rw [decide_eq_false hneg, if_neg Bool.false_ne_true, abs_of_nonneg (not_lt.1 hneg)]

/-! ## Bringing a sum to fit

A sum that is too long for a coefficient drops places from the end.  Of a whole number these are
zeros, so nothing is rounded. -/

/-- A place count at which a number fits is found. -/
theorem exists_excessPlaces_eq {n : Nat} (more places : Nat)
    (h : n / 10 ^ (places + more) < 2 ^ 96) :
    ∃ p, excessPlaces n more places = some p ∧ p ≤ places + more ∧ n / 10 ^ p < 2 ^ 96 := by
  induction more generalizing places with
  | zero => exact ⟨places, if_pos h, Nat.le_refl _, h⟩
  | succ more ih =>
    rw [excessPlaces]
    split
    · rename_i hfits
      exact ⟨places, rfl, Nat.le_add_right _ _, hfits⟩
    · have hfewer : n / 10 ^ (places + 1 + more) < 2 ^ 96 := by
        rw [Nat.add_right_comm]
        exact h
      obtain ⟨p, hp, hle, hfits⟩ := ih (places + 1) hfewer
      exact ⟨p, hp, by omega, hfits⟩

/-- Dropping zeros is exact. -/
theorem dropPlaces_of_dvd {n places : Nat} (h : 10 ^ places ∣ n) :
    dropPlaces n places = n / 10 ^ places := by
  rw [dropPlaces, Nat.mod_eq_zero_of_dvd h]
  have hpos : 0 < 10 ^ places := Nat.pow_pos (by decide)
  have hne : ((0 : Nat) == 10 ^ places) = false := by
    rw [beq_eq_false_iff_ne]
    exact hpos.ne
  simp [hne]

/-- **A whole number below the bound is brought to fit exactly.** -/
theorem exists_fit?_eq {scale : Nat} (hfits : x.natAbs < 2 ^ 96) (hscale : scale ≤ 28) :
    ∃ d, fit? (x < 0) (x.natAbs * 10 ^ scale) scale = some d ∧ d.whole? = some x ∧
      d.scale ≤ scale ∧ (d.coefficient = 0 → d.negative = false) := by
  have hdiv : ∀ {p}, p ≤ scale → x.natAbs * 10 ^ scale / 10 ^ p = x.natAbs * 10 ^ (scale - p) := by
    intro p hp
    rw [← Nat.sub_add_cancel hp, Nat.pow_add, ← Nat.mul_assoc,
      Nat.mul_div_cancel _ (Nat.pow_pos (by decide)), Nat.add_sub_cancel]
  obtain ⟨p, hp, hle, hplaces⟩ :=
    exists_excessPlaces_eq scale 0 (n := x.natAbs * 10 ^ scale) (by
      rw [Nat.zero_add, hdiv (Nat.le_refl _), Nat.sub_self, Nat.pow_zero, Nat.mul_one]
      exact hfits)
  rw [Nat.zero_add] at hle
  rw [hdiv hle] at hplaces
  have hdvd : 10 ^ p ∣ x.natAbs * 10 ^ scale :=
    Nat.dvd_mul_left_of_dvd (Nat.pow_dvd_pow 10 hle) _
  obtain ⟨d, hd, hwhole, hdscale, hzero⟩ :=
    exists_make?_whole hplaces (Nat.le_trans (Nat.sub_le scale p) hscale)
  refine ⟨d, ?_, hwhole, hdscale ▸ Nat.sub_le _ _, hzero⟩
  rw [fit?, hp, Option.bind_some, dropPlaces_of_dvd hdvd, hdiv hle, if_pos hplaces, hd]

/-- A zero is the whole number zero. -/
theorem eq_zero_of_isZero (hd : d.whole? = some x) (hzero : d.isZero = true) : x = 0 := by
  have hsigned := whole?_eq_some.1 hd
  have hcoefficient : d.coefficient = 0 := of_decide_eq_true hzero
  have hleft : d.signedCoefficient = 0 := by
    rw [signedCoefficient, hcoefficient]
    split <;> rfl
  exact (mul_eq_zero.1 (hsigned.symm.trans hleft)).resolve_right (pow_scale_ne_zero _)

theorem isZero_of_whole?_zero (h : d.whole? = some 0) : d.isZero = true := by
  have hsigned := whole?_eq_some.1 h
  rw [zero_mul, signedCoefficient] at hsigned
  refine decide_eq_true ?_
  split at hsigned <;> omega

/-- A whole number at a greater scale. -/
theorem signedCoefficient_mul_pow {scale : Nat} (hd : d.whole? = some x) (hle : d.scale ≤ scale) :
    d.signedCoefficient * 10 ^ (scale - d.scale) = x * 10 ^ scale := by
  rw [whole?_eq_some.1 hd, mul_assoc, ← pow_add, Nat.add_sub_cancel' hle]

/-- **Whole numbers add exactly** below the bound, without new places. -/
theorem exists_add?_eq (ha : a.whole? = some x) (hb : b.whole? = some y)
    (hfits : (x + y).natAbs < 2 ^ 96) :
    ∃ d, a.add? b = some d ∧ d.whole? = some (x + y) ∧ (a.IsPlain → b.IsPlain → d.IsPlain) := by
  rw [add?]
  split
  · rename_i hz
    exact ⟨b, rfl, by rw [hb, eq_zero_of_isZero ha hz, zero_add], fun _ h => h⟩
  split
  · rename_i hz
    exact ⟨a, rfl, by rw [ha, eq_zero_of_isZero hb hz, add_zero], fun h _ => h⟩
  have hscale : max a.scale b.scale ≤ 28 := max_le a.scale_le b.scale_le
  have hpos : (0 : Int) < 10 ^ max a.scale b.scale := pow_pos (by decide) _
  obtain ⟨d, hd, hwhole, hle, hplain⟩ := exists_fit?_eq hfits hscale
  refine ⟨d, ?_, hwhole, fun hpa hpb => ⟨?_, hplain⟩⟩
  · have hsign : decide ((x + y) * 10 ^ max a.scale b.scale < 0) = decide (x + y < 0) :=
      decide_eq_decide.2 ⟨fun h => lt_of_mul_lt_mul_right (by rwa [zero_mul]) hpos.le,
        fun h => mul_neg_of_neg_of_pos h hpos⟩
    simp only [signedCoefficient_mul_pow ha (le_max_left _ _),
      signedCoefficient_mul_pow hb (le_max_right _ _)]
    rw [← add_mul, hsign, Int.natAbs_mul, Int.natAbs_pow]
    exact hd
  · rw [hpa.scale, hpb.scale] at hle
    exact Nat.le_zero.1 hle

/-- **Whole numbers compare as they are.** -/
theorem order_of_whole? (ha : a.whole? = some x) (hb : b.whole? = some y) :
    a.order b = compare x y := by
  have hpos : (0 : Int) < 10 ^ 28 := by decide
  rw [order, atMaxScale, atMaxScale, signedCoefficient_mul_pow ha a.scale_le,
    signedCoefficient_mul_pow hb b.scale_le]
  simp only [compare, compareOfLessAndEq, mul_lt_mul_iff_left₀ hpos, mul_left_inj' hpos.ne']

theorem ofInt64_spec (n : Int64) : (ofInt64 n).whole? = some n.toInt ∧ (ofInt64 n).IsPlain := by
  have hle := n.le_toInt
  have hlt := n.toInt_lt
  have hfits : n.toInt.natAbs * 10 ^ 0 < 2 ^ 96 := by omega
  obtain ⟨d, hd, hwhole, hscale, hzero⟩ := exists_make?_whole hfits (Nat.zero_le _)
  rw [Nat.pow_zero, Nat.mul_one] at hd
  rw [ofInt64, hd]
  exact ⟨hwhole, hscale, hzero⟩

theorem isPlain_zero : zero.IsPlain := ⟨rfl, fun _ => rfl⟩

theorem whole?_zero : zero.whole? = some 0 := rfl

end Decimal

namespace Value

variable {a b v : Value} {x y : Int}

/-- The whole number that a value is, if it is one. -/
def whole? : Value → Option Int
  | smallInt n => some n.toInt
  | integer n => some n.toInt
  | numeric d => d.whole?
  | _ => none

/-- Whether the value is a 64-bit integer. -/
def isInteger : Value → Bool
  | integer _ => true
  | _ => false

theorem cases_of_whole? (h : v.whole? = some x) :
    (∃ n, v = smallInt n) ∨ (∃ n, v = integer n) ∨ ∃ d, v = numeric d := by
  cases v with
  | smallInt n => exact .inl ⟨n, rfl⟩
  | integer n => exact .inr (.inl ⟨n, rfl⟩)
  | numeric d => exact .inr (.inr ⟨d, rfl⟩)
  | _ => exact nomatch h

theorem isNull_of_whole? (h : v.whole? = some x) : v.isNull = false := by
  obtain ⟨_, rfl⟩ | ⟨_, rfl⟩ | ⟨_, rfl⟩ := cases_of_whole? h <;> rfl

theorem isReal_of_whole? (h : v.whole? = some x) : v.isReal = false := by
  obtain ⟨_, rfl⟩ | ⟨_, rfl⟩ | ⟨_, rfl⟩ := cases_of_whole? h <;> rfl

theorem isComparable_of_whole? (h : v.whole? = some x) : v.isComparable = true := by
  obtain ⟨_, rfl⟩ | ⟨_, rfl⟩ | ⟨_, rfl⟩ := cases_of_whole? h <;> rfl

theorem toInt_of_int? {n : Int64} (h : v.whole? = some x) (hn : v.int? = some n) :
    n.toInt = x := by
  obtain ⟨m, rfl⟩ | ⟨m, rfl⟩ | ⟨d, rfl⟩ := cases_of_whole? h
  · rw [← Option.some.inj hn, Int16.toInt_toInt64]
    exact Option.some.inj h
  · rw [← Option.some.inj hn]
    exact Option.some.inj h
  · exact nomatch hn

theorem whole?_of_int? {n : Int64} (h : v.int? = some n) : v.whole? = some n.toInt := by
  cases v with
  | smallInt m =>
    cases h
    rw [Int16.toInt_toInt64]
    rfl
  | integer m =>
    cases h
    rfl
  | _ => exact nomatch h

/-- A whole number as a decimal; plain for a 64-bit integer. -/
theorem exists_decimal?_eq (h : v.whole? = some x) :
    ∃ d, v.decimal? = some d ∧ d.whole? = some x ∧ (v.isInteger → d.IsPlain) := by
  obtain ⟨n, rfl⟩ | ⟨n, rfl⟩ | ⟨d, rfl⟩ := cases_of_whole? h
  · refine ⟨_, rfl, ?_, nofun⟩
    rw [(Decimal.ofInt64_spec _).1, Int16.toInt_toInt64]
    exact h
  · exact ⟨_, rfl, (Decimal.ofInt64_spec n).1.trans h, fun _ => (Decimal.ofInt64_spec n).2⟩
  · exact ⟨d, rfl, h, nofun⟩

theorem orderNumbers?_of_whole? (ha : a.whole? = some x) (hb : b.whole? = some y) :
    a.orderNumbers? b = some (compare x y) := by
  rw [orderNumbers?.eq_def]
  split
  · rename_i m n hm hn
    rw [toInt_of_int? ha hm, toInt_of_int? hb hn]
  · obtain ⟨d, hd, hwd, -⟩ := exists_decimal?_eq ha
    obtain ⟨e, he, hwe, -⟩ := exists_decimal?_eq hb
    rw [isReal_of_whole? ha, isReal_of_whole? hb, hd, he]
    exact congrArg some (Decimal.order_of_whole? hwd hwe)

/-- **Whole numbers of any type compare as they are.** -/
theorem order?_of_whole? (ha : a.whole? = some x) (hb : b.whole? = some y) :
    a.order? b = some (compare x y) := by
  rw [← orderNumbers?_of_whole? ha hb]
  obtain ⟨_, rfl⟩ | ⟨_, rfl⟩ | ⟨_, rfl⟩ := cases_of_whole? ha <;>
    obtain ⟨_, rfl⟩ | ⟨_, rfl⟩ | ⟨_, rfl⟩ := cases_of_whole? hb <;> rfl

/-- The sum of two 64-bit integers is the whole number it should be. -/
theorem whole?_sumIntegers (m n : Int64) : (sumIntegers m n).whole? = some (m.toInt + n.toInt) := by
  have hm := m.le_toInt
  have hm' := m.toInt_lt
  have hn := n.le_toInt
  have hn' := n.toInt_lt
  rw [sumIntegers, Text.toInt64?.eq_def]
  split
  · rename_i k hk
    split at hk
    · rename_i hrange
      rw [← Option.some.inj hk]
      exact congrArg some (Int64.toInt_ofInt_of_le hrange.1 hrange.2)
    · exact nomatch hk
  · have hfits : (m.toInt + n.toInt).natAbs * 10 ^ 0 < 2 ^ 96 := by omega
    obtain ⟨d, hd, hwhole, -⟩ := Decimal.exists_make?_whole hfits (Nat.zero_le _)
    rw [Nat.pow_zero, Nat.mul_one] at hd
    rw [hd]
    exact hwhole

/-- **Whole numbers of any type add exactly** below the bound. -/
theorem exists_add_eq (ha : a.whole? = some x) (hb : b.whole? = some y)
    (hfits : (x + y).natAbs < 2 ^ 96) : ∃ v, a.add b = .ok v ∧ v.whole? = some (x + y) := by
  rw [add.eq_def]
  split
  · rename_i m n hm hn
    refine ⟨_, rfl, ?_⟩
    rw [whole?_sumIntegers, toInt_of_int? ha hm, toInt_of_int? hb hn]
  · obtain ⟨d, hd, hwd, -⟩ := exists_decimal?_eq ha
    obtain ⟨e, he, hwe, -⟩ := exists_decimal?_eq hb
    obtain ⟨s, hs, hws, -⟩ := Decimal.exists_add?_eq hwd hwe hfits
    refine ⟨numeric s, ?_, hws⟩
    rw [isReal_of_whole? ha, isReal_of_whole? hb]
    simp only [sumDecimals, hd, he, hs]
    rfl

end Value

end ScatterGather
