import Mathlib.Algebra.Order.Round
import Mathlib.Data.Rat.Floor
import Mathlib.Data.Sign.Basic
import Mathlib.Tactic.FieldSimp
import Mathlib.Tactic.Linarith
import Mathlib.Tactic.Qify
import ScatterGather.Decimal.Arithmetic
import ScatterGather.Proofs.Value.WholeNumber

/-!
# Proofs/Decimal/Rounding — decimals as rationals

`Decimal.toRat` is the number that a decimal is.  `roundPlaces` does to it what `roundHalfAway` does
to any rational (`Decimal.toRat_roundPlaces`): the nearest number of that many places, a half going
away from zero.
-/

namespace ScatterGather

/-! ## Rounding rationals

Rounding is stated over the rationals, where a half has a meaning of its own: the sign is set aside
and the magnitude is rounded up from a half on. -/

/-- The rational of so many places nearest to `x`, a half going away from zero. -/
def roundHalfAway (places : ℕ) (x : ℚ) : ℚ :=
  SignType.sign x * round (|x| * 10 ^ places) / 10 ^ places

/-- A magnitude with a sign. -/
def signed (negative : Bool) (x : ℚ) : ℚ := if negative then -x else x

/-- An integer is its magnitude with its sign, also over a denominator. -/
theorem signed_natAbs (m : ℤ) (y : ℚ) : signed (decide (m < 0)) (m.natAbs / y) = m / y := by
  rw [signed, Nat.cast_natAbs]
  by_cases hneg : m < 0
  · rw [if_pos (decide_eq_true hneg), abs_of_neg hneg, Int.cast_neg, neg_div, neg_neg]
  · rw [if_neg (by simpa using hneg), abs_of_nonneg (not_lt.1 hneg)]

section Rational

variable {places n m : ℕ} {x : ℚ}

/-- Rounding treats both sides of zero alike. -/
theorem roundHalfAway_neg (places : ℕ) (x : ℚ) :
    roundHalfAway places (-x) = -roundHalfAway places x := by
  rw [roundHalfAway, roundHalfAway, abs_neg, Left.sign_neg, SignType.coe_neg, neg_mul, neg_div]

/-- Above zero, the nearest number of that many places is found by rounding to an integer. -/
theorem roundHalfAway_of_nonneg (hx : 0 ≤ x) :
    roundHalfAway places x = round (x * 10 ^ places) / 10 ^ places := by
  rw [roundHalfAway, abs_of_nonneg hx]
  obtain rfl | hpos := hx.eq_or_lt
  · simp
  · rw [sign_pos hpos, SignType.coe_one, one_mul]

/-- The sign can be set aside while rounding. -/
theorem roundHalfAway_signed (negative : Bool) (hx : 0 ≤ x) :
    roundHalfAway places (signed negative x) =
      signed negative (round (x * 10 ^ places) / 10 ^ places) := by
  cases negative with
  | false => exact roundHalfAway_of_nonneg hx
  | true => exact (roundHalfAway_neg places x).trans (congrArg Neg.neg (roundHalfAway_of_nonneg hx))

/-- A quotient of natural numbers is rounded by what remains. -/
theorem round_natCast_div (hm : 0 < m) :
    round ((n : ℚ) / m) = (if m ≤ 2 * (n % m) then n / m + 1 else n / m : ℕ) := by
  have hpos : (0 : ℚ) < m := Nat.cast_pos.2 hm
  have hmod := Nat.mod_lt n hm
  have hn := (Nat.div_add_mod n m).symm
  generalize n / m = q at hn ⊢
  generalize n % m = r at hmod hn ⊢
  subst hn
  qify at hmod
  rw [round_eq_iff]
  split
  · rename_i hup
    qify at hup
    constructor
    · rw [le_div_iff₀ hpos]
      push_cast
      linarith
    · rw [div_lt_iff₀ hpos]
      push_cast
      linarith
  · rename_i hdown
    have hdown := not_le.1 hdown
    qify at hdown
    constructor
    · rw [le_div_iff₀ hpos]
      push_cast
      linarith [(Nat.cast_nonneg r : (0 : ℚ) ≤ r)]
    · rw [div_lt_iff₀ hpos]
      push_cast
      linarith

end Rational

/-! ## The number that a decimal is -/

namespace Decimal

variable {d : Decimal} {x : Int}

/-- The number that a decimal is. -/
def toRat (d : Decimal) : ℚ := d.signedCoefficient / 10 ^ d.scale

/-- A decimal is its coefficient over a power of ten, with its sign. -/
theorem toRat_eq_signed (d : Decimal) :
    d.toRat = signed d.negative (d.coefficient / 10 ^ d.scale) := by
  rw [toRat, signedCoefficient, signed]
  split
  · rw [Int.cast_neg, Int.cast_natCast, neg_div]
  · rw [Int.cast_natCast]

/-- A decimal that is a whole number is that number. -/
theorem toRat_of_whole? (h : d.whole? = some x) : d.toRat = x := by
  have hne : (10 : ℚ) ^ d.scale ≠ 0 := by positivity
  rw [toRat, whole?_eq_some.1 h, div_eq_iff hne]
  push_cast
  rfl

/-- **A decimal of parts that fit is that number.** -/
theorem exists_make?_toRat (negative : Bool) {coefficient scale : Nat}
    (hcoefficient : coefficient < 2 ^ 96) (hscale : scale ≤ 28) :
    ∃ d, make? negative coefficient scale = some d ∧
      d.toRat = signed negative (coefficient / 10 ^ scale) := by
  obtain ⟨d, hd, hdscale, hsigned, -⟩ := exists_make?_eq negative hcoefficient hscale
  refine ⟨d, hd, ?_⟩
  rw [toRat, hsigned, hdscale, signed]
  split
  · rw [Int.cast_neg, Int.cast_natCast, neg_div]
  · rw [Int.cast_natCast]

/-- A whole number that fits, over a power of ten. -/
theorem exists_toRat_eq {m : Int} (hfits : m.natAbs < 2 ^ 96) {scale : Nat} (hscale : scale ≤ 28) :
    ∃ d : Decimal, d.toRat = m / 10 ^ scale := by
  obtain ⟨d, -, hd⟩ := exists_make?_toRat (decide (m < 0)) hfits hscale
  exact ⟨d, hd.trans (signed_natAbs m _)⟩

/-- **Rounding to places is rounding the number**, a half going away from zero. -/
theorem toRat_roundPlaces (places : Nat) (d : Decimal) :
    (d.roundPlaces places).toRat = roundHalfAway places d.toRat := by
  have hnonneg : (0 : ℚ) ≤ d.coefficient / 10 ^ d.scale := by positivity
  rw [toRat_eq_signed d, roundHalfAway_signed _ hnonneg, roundPlaces]
  split
  · -- nothing is dropped, so the digits at that place are a whole number
    rename_i hle
    have hwhole : (d.coefficient / 10 ^ d.scale * 10 ^ places : ℚ) =
        ((d.coefficient * 10 ^ (places - d.scale) : ℕ) : ℤ) := by
      rw [← Nat.sub_add_cancel hle, pow_add, Nat.add_sub_cancel]
      push_cast
      field_simp
    rw [hwhole, round_intCast, ← hwhole, mul_div_cancel_right₀ _ (by positivity), toRat_eq_signed]
  · rename_i hlt
    have hlt := not_le.1 hlt
    have hstep : 10 ≤ 10 ^ (d.scale - places) :=
      Nat.le_self_pow (Nat.sub_ne_zero_of_lt hlt) 10
    have hdigits : (d.coefficient / 10 ^ d.scale * 10 ^ places : ℚ) =
        d.coefficient / (10 ^ (d.scale - places) : ℕ) := by
      rw [← Nat.sub_add_cancel hlt.le, pow_add, Nat.add_sub_cancel]
      push_cast
      field_simp
    have hfits : (if 10 ^ (d.scale - places) ≤ 2 * (d.coefficient % 10 ^ (d.scale - places))
        then d.coefficient / 10 ^ (d.scale - places) + 1
        else d.coefficient / 10 ^ (d.scale - places)) < 2 ^ 96 := by
      have hdiv : d.coefficient / 10 ^ (d.scale - places) ≤ d.coefficient / 10 :=
        Nat.div_le_div_left hstep (by decide)
      have hcoefficient := d.coefficient_lt
      split <;> omega
    obtain ⟨e, he, hnumber⟩ :=
      exists_make?_toRat d.negative hfits (hlt.le.trans d.scale_le)
    simp only [he, Option.getD_some]
    rw [hnumber, hdigits, round_natCast_div (by positivity), Int.cast_natCast]

end Decimal

end ScatterGather
