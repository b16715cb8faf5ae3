import Mathlib.Data.Nat.Cast.Field
import ScatterGather.Proofs.Decimal.Rounding

/-!
# Proofs/Decimal/Quotient — quotients of whole numbers

Dividing develops the quotient until nothing remains or no further place fits.  So the quotient of
two whole numbers is exact if any decimal is it, and otherwise it has 28 places or 28 digits and is
off by one in the last of them at most (`Decimal.exists_div?_isQuotient`).
-/

namespace ScatterGather

namespace Decimal

variable {a c n k m j rounds : Nat} {q : Quotient}

/-! ## Approximations

The whole development is about natural numbers: `n / 10 ^ k` stands for a coefficient with its
scale, and is compared with `a / c` after multiplying out, so that no rational appears before the
end. -/

/-- Some decimal is the quotient. -/
def Representable (a c : Nat) : Prop := ∃ m j, m < 2 ^ 96 ∧ j ≤ 28 ∧ m * c = a * 10 ^ j

/-- The number `n / 10 ^ k` differs from the quotient by one in its last place at most. -/
def Near (a c n k : Nat) : Prop := n * c ≤ a * 10 ^ k + c ∧ a * 10 ^ k ≤ n * c + c

/-- The number `n / 10 ^ k` is the quotient, or comes near it if no decimal is the quotient. -/
inductive Approximates (a c n k : Nat) : Prop
  | exact : n * c = a * 10 ^ k → Approximates a c n k
  | near : ¬ Representable a c → k = 28 ∨ 10 ^ 27 ≤ n → Near a c n k → Approximates a c n k

/-- What is developed so far: the quotient to `k` places and what remains. -/
structure Quotient.Develops (a c : Nat) (q : Quotient) (k : Nat) : Prop where
  scale : q.scale = k
  eq : q.quotient * c + q.remainder = a * 10 ^ k
  lt : q.remainder < c

namespace Quotient

/-- What is developed comes near the quotient, the remainder being less than the divisor. -/
theorem Develops.near (h : q.Develops a c k) : Near a c q.quotient k := by
  have heq := h.eq
  have hlt := h.lt
  exact ⟨by omega, by omega⟩

/-- A decimal that is the quotient and has no more places shows that nothing remains. -/
theorem Develops.eq_of_le (h : q.Develops a c k) (hm : m * c = a * 10 ^ j) (hjk : j ≤ k) :
    q.quotient = m * 10 ^ (k - j) ∧ q.remainder = 0 := by
  have hc : 0 < c := Nat.zero_lt_of_lt h.lt
  have heq : q.remainder + c * q.quotient = c * (m * 10 ^ (k - j)) := by
    rw [Nat.add_comm, Nat.mul_comm c q.quotient, h.eq, ← Nat.add_sub_cancel' hjk, pow_add,
      Nat.add_sub_cancel_left, ← Nat.mul_assoc, ← hm, Nat.mul_comm m, Nat.mul_assoc]
  have hrem := congrArg (· % c) heq
  simp only [Nat.add_mul_mod_self_left, Nat.mod_eq_of_lt h.lt, Nat.mul_mod_right] at hrem
  rw [hrem, Nat.zero_add] at heq
  exact ⟨Nat.eq_of_mul_eq_mul_left hc heq, hrem⟩

/-- A decimal that is the quotient and has no fewer places is longer than what is developed. -/
theorem Develops.mul_pow_le (h : q.Develops a c k) (hm : m * c = a * 10 ^ j) (hkj : k ≤ j) :
    q.quotient * 10 ^ (j - k) ≤ m := by
  have hc : 0 < c := Nat.zero_lt_of_lt h.lt
  refine Nat.le_of_mul_le_mul_right ?_ hc
  calc q.quotient * 10 ^ (j - k) * c
      = q.quotient * c * 10 ^ (j - k) := Nat.mul_right_comm _ _ _
    _ ≤ a * 10 ^ k * 10 ^ (j - k) := Nat.mul_le_mul_right _ (h.eq ▸ Nat.le_add_right _ _)
    _ = a * 10 ^ j := by rw [Nat.mul_assoc, ← pow_add, Nat.add_sub_cancel' hkj]
    _ = m * c := hm.symm

/-! ## One round

A round takes in as many places as fit, nine at most.  What it does depends on how much room there
is and on whether the longer quotient still fits, and the equation below has one case for each. -/

/-- The greatest power of ten that fits fits, and no greater one within the limit. -/
theorem headroom_spec {quotient : Nat} (hfits : quotient < 2 ^ 96) (limit : Nat) :
    headroom quotient limit ≤ limit ∧ quotient * 10 ^ headroom quotient limit < 2 ^ 96 ∧
      (headroom quotient limit < limit →
        2 ^ 96 ≤ quotient * 10 ^ (headroom quotient limit + 1)) := by
  induction limit with
  | zero => exact ⟨Nat.le_refl _, by simpa [headroom] using hfits, fun h => absurd h (by simp)⟩
  | succ limit ih =>
    rw [headroom]
    split
    · rename_i hpower
      exact ⟨Nat.le_refl _, hpower, fun h => absurd h (Nat.lt_irrefl _)⟩
    · rename_i hpower
      obtain ⟨hle, hlt, hmax⟩ := ih
      refine ⟨Nat.le_succ_of_le hle, hlt, fun _ => ?_⟩
      obtain heq | hless := hle.eq_or_lt
      · rw [heq]
        exact not_lt.1 hpower
      · exact hmax hless

/-- The quotient with `places` more places. -/
def shift (c places : Nat) (q : Quotient) : Quotient :=
  ⟨q.quotient * 10 ^ places + q.remainder * 10 ^ places / c, q.remainder * 10 ^ places % c,
    q.scale + places⟩

/-- A shifted development develops the same quotient to more places. -/
theorem Develops.shift (h : q.Develops a c k) (places : Nat) :
    (q.shift c places).Develops a c (k + places) where
  scale := by
    rw [Quotient.shift, h.scale]
    exact (Nat.cast_add k places).symm
  eq := by
    have hdiv := Nat.div_add_mod' (q.remainder * 10 ^ places) c
    rw [pow_add, ← Nat.mul_assoc, ← h.eq, Nat.add_mul, ← hdiv, Quotient.shift]
    ring
  lt := Nat.mod_lt _ (Nat.zero_lt_of_lt h.lt)

/-- The places that a development takes in at once. -/
def room (q : Quotient) : Nat := headroom q.quotient (min 9 (28 - q.scale).toNat)

/-- One round of developing a quotient that has no negative scale. -/
theorem develop_succ (hscale : 0 ≤ q.scale) :
    q.develop c (rounds + 1) =
      if q.remainder = 0 then some q
      else if q.room = 0 then q.round c
      else if 2 ^ 96 ≤ q.quotient * 10 ^ q.room then none
      else if 2 ^ 96 ≤ (q.shift c q.room).quotient then
        if (q.shift c q.room).scale < 1 then none else some (q.shift c q.room).dropLast
      else (q.shift c q.room).develop c rounds := by
  rw [develop]
  by_cases hrem : q.remainder = 0
  · simp [hrem, hscale]
  · have hroom : headroom q.quotient (min 9 (28 - q.scale).toNat) = q.room := rfl
    have hnonneg : ¬ q.scale + (q.room : Int) < 0 := by omega
    simp only [hrem, decide_false, Bool.false_and, Bool.false_eq_true, if_false, ne_eq,
      not_false_eq_true, decide_true, Bool.true_and, decide_eq_true_eq, hroom, hscale.not_gt,
      hnonneg, shift]
    rfl

/-- The room is within the places that are left, and what fits in the coefficient. -/
theorem room_spec (hscale : q.scale = k) (hk : k ≤ 28) (hfits : q.quotient < 2 ^ 96) :
    k + q.room ≤ 28 ∧ q.room ≤ 9 ∧ q.quotient * 10 ^ q.room < 2 ^ 96 := by
  obtain ⟨hle, hlt, -⟩ := headroom_spec hfits (min 9 (28 - q.scale).toNat)
  rw [← room] at hle hlt
  exact ⟨by omega, by omega, hlt⟩

/-- Without room all places are used, or the coefficient is as long as it can be. -/
theorem long_of_room_eq_zero (hscale : q.scale = k) (hk : k ≤ 28) (hfits : q.quotient < 2 ^ 96)
    (hroom : q.room = 0) : k = 28 ∨ 2 ^ 96 ≤ q.quotient * 10 := by
  obtain ⟨-, -, hmax⟩ := headroom_spec hfits (min 9 (28 - q.scale).toNat)
  rw [← room, hroom] at hmax
  obtain hk | hk := hk.eq_or_lt
  · exact .inl hk
  · exact .inr (hmax (by omega))

/-- **Where no place fits and something remains, no decimal is the quotient**: one would have more
places than there are so far, and so there would be room for one. -/
theorem Develops.not_representable (h : q.Develops a c k) (hk : k ≤ 28)
    (hfits : q.quotient < 2 ^ 96) (hrem : q.remainder ≠ 0) (hroom : q.room = 0) :
    ¬ Representable a c := by
  rintro ⟨m, j, hm, hj, heq⟩
  obtain hjk | hkj := le_or_gt j k
  · exact hrem (h.eq_of_le heq hjk).2
  · have hle := h.mul_pow_le heq hkj.le
    have hten : q.quotient * 10 ≤ q.quotient * 10 ^ (j - k) :=
      Nat.mul_le_mul_left _ (Nat.le_self_pow (Nat.sub_ne_zero_of_lt hkj) 10)
    have hlong := long_of_room_eq_zero h.scale hk hfits hroom
    omega

/-! ## Rounding the last place

A development ends in three ways: nothing remains, the last place is rounded, or the quotient has
become a little too long and loses its last place.  In the second and third no decimal is the
quotient, or the place that goes is a zero. -/

/-- Dropping the last place rounds: ten times the result is off by five at most. -/
theorem dropLast_quotient_bounds (q : Quotient) :
    10 * q.dropLast.quotient ≤ q.quotient + 5 ∧ q.quotient ≤ 10 * q.dropLast.quotient + 5 := by
  simp only [dropLast]
  have hdiv := Nat.div_add_mod q.quotient 10
  have hmod := Nat.mod_lt q.quotient (show 0 < 10 by decide)
  split
  · rename_i hup
    have hfive : 5 ≤ q.quotient % 10 := by
      simp only [Bool.or_eq_true, decide_eq_true_eq, Bool.and_eq_true, beq_iff_eq] at hup
      omega
    omega
  · rename_i hdown
    have hfive : q.quotient % 10 ≤ 5 := by
      simp only [Bool.or_eq_true, decide_eq_true_eq, not_or, not_lt] at hdown
      exact hdown.1
    omega

/-- A zero is dropped without loss. -/
theorem dropLast_quotient_of_dvd (h : 10 ∣ q.quotient) : 10 * q.dropLast.quotient = q.quotient := by
  have hzero := Nat.mod_eq_zero_of_dvd h
  simp only [dropLast, hzero]
  exact Nat.mul_div_cancel' h

/-- Dropping a place of what comes near the quotient comes near it. -/
theorem near_dropLast (h : Near a c q.quotient (k + 1)) : Near a c q.dropLast.quotient k := by
  obtain ⟨hle, hge⟩ := h
  obtain ⟨hdrop, hdrop'⟩ := q.dropLast_quotient_bounds
  have hle' := Nat.mul_le_mul_right c hdrop
  have hge' := Nat.mul_le_mul_right c hdrop'
  rw [Nat.add_mul, Nat.mul_assoc] at hle' hge'
  rw [pow_succ, ← Nat.mul_assoc] at hle hge
  exact ⟨by omega, by omega⟩

/-- The development as the coefficient of a decimal. -/
structure Fits (a c : Nat) (q : Quotient) (k : Nat) : Prop where
  scale : q.scale = k
  scale_le : k ≤ 28
  lt : q.quotient < 2 ^ 96
  approximates : Approximates a c q.quotient k

/-- Too long by little, what comes near the quotient is cut by one place. -/
theorem fits_dropLast_of_near (hrep : ¬ Representable a c) (hnear : Near a c q.quotient (k + 1))
    (hscale : q.scale = ↑(k + 1)) (hk : k < 28) (hlong : 2 ^ 96 ≤ q.quotient)
    (hshort : q.quotient < 2 ^ 97) : q.dropLast.Fits a c k := by
  obtain ⟨hdrop, hdrop'⟩ := q.dropLast_quotient_bounds
  exact ⟨sub_eq_of_eq_add (hscale.trans (Nat.cast_succ k)), hk.le, by omega,
    .near hrep (.inr (by omega)) (near_dropLast hnear)⟩

/-- **A development that is too long by little** loses nothing by being cut where a decimal is the
quotient: that has fewer places, so that the last one is a zero. -/
theorem Develops.fits_dropLast (h : q.Develops a c (k + 1)) (hk : k < 28)
    (hlong : 2 ^ 96 ≤ q.quotient) (hshort : q.quotient < 2 ^ 97) : q.dropLast.Fits a c k := by
  by_cases hrep : Representable a c
  · obtain ⟨m, j, hm, -, heq⟩ := hrep
    have hj : j ≤ k := by
      by_contra hlt
      have hle := h.mul_pow_le heq (not_le.1 hlt)
      have hpow : 0 < 10 ^ (j - (k + 1)) := Nat.pow_pos (by decide)
      have hmul := Nat.le_mul_of_pos_right q.quotient hpow
      omega
    obtain ⟨hquotient, hrem⟩ := h.eq_of_le heq (Nat.le_succ_of_le hj)
    have hdvd : 10 ∣ q.quotient := by
      rw [hquotient, Nat.succ_sub hj, pow_succ, ← Nat.mul_assoc]
      exact Nat.dvd_mul_left _ _
    have hexact : q.dropLast.quotient * c = a * 10 ^ k := by
      have heq := h.eq
      rw [hrem, Nat.add_zero, pow_succ, ← dropLast_quotient_of_dvd hdvd] at heq
      refine Nat.eq_of_mul_eq_mul_left (show 0 < 10 by decide) ?_
      calc 10 * (q.dropLast.quotient * c)
          = 10 * q.dropLast.quotient * c := (Nat.mul_assoc _ _ _).symm
        _ = a * (10 ^ k * 10) := heq
        _ = 10 * (a * 10 ^ k) := by ring
    have hdrop := q.dropLast_quotient_bounds.1
    exact ⟨sub_eq_of_eq_add (h.scale.trans (Nat.cast_succ k)), hk.le, by omega, .exact hexact⟩
  · exact fits_dropLast_of_near hrep h.near h.scale hk hlong hshort

/-- **Rounding where no place fits** comes near the quotient, also where it carries past the last
bit: that takes a place away, and there is one, since a quotient without places is no longer than
the dividend. -/
theorem Develops.exists_round_eq (h : q.Develops a c k) (ha : a < 2 ^ 96) (hk : k ≤ 28)
    (hfits : q.quotient < 2 ^ 96) (hrem : q.remainder ≠ 0) (hroom : q.room = 0) :
    ∃ r l, q.round c = some r ∧ r.Fits a c l := by
  have hrep := h.not_representable hk hfits hrem hroom
  have hlong := long_of_room_eq_zero h.scale hk hfits hroom
  have hnear := h.near
  have heq := h.eq
  have hlt := h.lt
  rw [round]
  generalize hup : (if (decide (c < 2 * q.remainder) ||
    2 * q.remainder == c && q.quotient % 2 == 1) = true then 1 else 0) = up
  have hup : up = 0 ∨ up = 1 := by
    rw [← hup]
    split
    · exact .inr rfl
    · exact .inl rfl
  have hnear : Near a c (q.quotient + up) k := by
    rw [Near, Nat.add_mul]
    obtain rfl | rfl := hup <;> constructor <;> omega
  -- Rounding up may carry past the last bit, and then a place has to go.
  by_cases hcarry : q.quotient + up < 2 ^ 96
  · have hlast : k = 28 ∨ 10 ^ 27 ≤ q.quotient + up := hlong.imp id (by omega)
    exact ⟨_, k, if_pos hcarry, h.scale, hk, hcarry, .near hrep hlast hnear⟩
  · have hplaces : k ≠ 0 := by
      rintro rfl
      have htwice := Nat.mul_le_mul_left q.quotient (show 2 ≤ c by omega)
      omega
    obtain ⟨l, rfl⟩ := Nat.exists_eq_succ_of_ne_zero hplaces
    have hscale : ¬ q.scale < 1 := by
      rw [h.scale]
      omega
    have hshort : q.quotient + up < 2 ^ 97 := by omega
    exact ⟨_, l, (if_neg hcarry).trans (if_neg hscale),
      fits_dropLast_of_near hrep hnear h.scale (by omega) (not_lt.1 hcarry) hshort⟩

/-- **Developing a quotient** ends with the coefficient of a decimal that is the quotient or comes
near it. -/
theorem Develops.exists_develop_eq (h : q.Develops a c k) (ha : a < 2 ^ 96) (hk : k ≤ 28)
    (hfits : q.quotient < 2 ^ 96) (hrounds : 28 < k + rounds) :
    ∃ r l, q.develop c rounds = some r ∧ r.Fits a c l := by
  -- every round that goes on adds a place, so there are rounds left
  induction rounds generalizing q k with
  | zero => omega
  | succ rounds ih =>
    have hscale : 0 ≤ q.scale := h.scale ▸ Int.natCast_nonneg k
    rw [develop_succ hscale]
    by_cases hrem : q.remainder = 0
    · have hexact : q.quotient * c = a * 10 ^ k := by rw [← h.eq, hrem, Nat.add_zero]
      exact ⟨q, k, if_pos hrem, h.scale, hk, hfits, .exact hexact⟩
    rw [if_neg hrem]
    by_cases hroom : q.room = 0
    · rw [if_pos hroom]
      exact h.exists_round_eq ha hk hfits hrem hroom
    obtain ⟨hplaces, hnine, hgrown⟩ := room_spec h.scale hk hfits
    rw [if_neg hroom, if_neg (not_le.2 hgrown)]
    have hshift := h.shift q.room
    by_cases hlong : 2 ^ 96 ≤ (q.shift c q.room).quotient
    · have hshort : (q.shift c q.room).quotient < 2 ^ 97 := by
        have hpow : 10 ^ q.room ≤ 10 ^ 9 := Nat.pow_le_pow_right (by decide) hnine
        have hadded : q.remainder * 10 ^ q.room / c < 10 ^ q.room :=
          Nat.div_lt_of_lt_mul (Nat.mul_lt_mul_of_pos_right h.lt (Nat.pow_pos (by decide)))
        rw [Quotient.shift]
        dsimp only
        omega
      obtain ⟨p, hp⟩ := Nat.exists_eq_succ_of_ne_zero hroom
      have hsucc : k + q.room = k + p + 1 := by rw [hp, Nat.add_succ]
      rw [hsucc] at hshift
      rw [if_pos hlong, if_neg (by rw [hshift.scale]; omega)]
      exact ⟨_, k + p, rfl, hshift.fits_dropLast (by omega) hlong hshort⟩
    · rw [if_neg hlong]
      exact ih hshift hplaces (not_le.1 hlong) (by omega)

end Quotient

/-! ## Trailing zeros

What is left of the quotient is shortened before it becomes a decimal, eight zeros at a time and
then fewer.  None of this changes the number. -/

/-- A coefficient and a scale of the same number, neither greater than before. -/
structure Shortens (q q' : Nat × Nat) : Prop where
  coefficient_le : q'.1 ≤ q.1
  scale_le : q'.2 ≤ q.2
  number : (q'.1 / 10 ^ q'.2 : ℚ) = q.1 / 10 ^ q.2

theorem Shortens.refl (q : Nat × Nat) : Shortens q q := ⟨le_rfl, le_rfl, rfl⟩

theorem Shortens.trans {q q' q'' : Nat × Nat} (h : Shortens q q') (h' : Shortens q' q'') :
    Shortens q q'' :=
  ⟨h'.coefficient_le.trans h.coefficient_le, h'.scale_le.trans h.scale_le,
    h'.number.trans h.number⟩

/-- Zeros at the end are taken away together with as many places. -/
theorem shortens_of_dvd {places : Nat} {q : Nat × Nat} (hplaces : places ≤ q.2)
    (hdvd : q.1 % 10 ^ places = 0) : Shortens q (q.1 / 10 ^ places, q.2 - places) := by
  refine ⟨Nat.div_le_self _ _, Nat.sub_le _ _, ?_⟩
  have hne : (10 ^ places : ℚ) ≠ 0 := by positivity
  have hscale : (10 : ℚ) ^ q.2 = 10 ^ (q.2 - places) * 10 ^ places := by
    rw [← pow_add, Nat.sub_add_cancel hplaces]
  rw [hscale, Nat.cast_div (Nat.dvd_of_mod_eq_zero hdvd) (by exact_mod_cast hne)]
  push_cast
  rw [div_div, mul_comm]

/-- Taking away a fixed number of zeros, where there are so many. -/
theorem shortens_unscaleBy (places : Nat) (q : Nat × Nat) : Shortens q (unscaleBy places q) := by
  rw [unscaleBy]
  split
  · rename_i h
    obtain ⟨hplaces, hdvd⟩ := Bool.and_eq_true_iff.1 h
    exact shortens_of_dvd (of_decide_eq_true hplaces) (of_decide_eq_true hdvd)
  · exact .refl q

theorem shortens_unscaleEights (fuel : Nat) (q : Nat × Nat) :
    Shortens q (unscaleEights fuel q) := by
  induction fuel generalizing q with
  | zero => exact .refl q
  | succ fuel ih =>
    rw [unscaleEights]
    split
    · rename_i h
      obtain ⟨h, hdvd⟩ := Bool.and_eq_true_iff.1 h
      have hplaces := (Bool.and_eq_true_iff.1 h).2
      exact (shortens_of_dvd (of_decide_eq_true hplaces) (of_decide_eq_true hdvd)).trans (ih _)
    · exact .refl q

/-- **Removing trailing zeros** leaves the number as it is. -/
theorem shortens_unscale (coefficient scale : Nat) :
    Shortens (coefficient, scale) (unscale coefficient scale) := by
  have hstep : ∀ (p : Prop) [Decidable p] (places : Nat) (q : Nat × Nat),
      Shortens q (if p then unscaleBy places q else q) := by
    intro p _ places q
    split
    · exact shortens_unscaleBy places q
    · exact .refl q
  exact (shortens_unscaleEights 4 _).trans ((hstep _ 4 _).trans ((hstep _ 2 _).trans (hstep _ 1 _)))

/-! ## Division

From here on the quotient is a rational, and the operands have their signs back. -/

section Division

variable {d e : Decimal} {x : ℚ}

/-- **What division promises**: the quotient if a decimal is it, and otherwise a number that is off
by one in its last place at most, the last of 28 places or of at least 28 digits. -/
def IsQuotient (x : ℚ) (d : Decimal) : Prop :=
  d.toRat = x ∨ (∀ e : Decimal, e.toRat ≠ x) ∧ ∃ n k : ℕ, |d.toRat| = n / 10 ^ k ∧
    (k = 28 ∨ 10 ^ 27 ≤ n) ∧ |d.toRat - x| ≤ 1 / 10 ^ k

theorem abs_signed (negative : Bool) (x : ℚ) : |signed negative x| = |x| := by
  cases negative with
  | false => rfl
  | true => exact abs_neg x

/-- Numbers of one sign differ by what their magnitudes do. -/
theorem signed_sub (negative : Bool) (x y : ℚ) :
    signed negative x - signed negative y = signed negative (x - y) := by
  cases negative with
  | false => rfl
  | true => exact (neg_sub_neg x y).trans (neg_sub x y).symm

/-- A signed approximation of a quotient of coefficients. -/
theorem Approximates.isQuotient (h : Approximates a c n k) (hc : 0 < c) {negative : Bool}
    (hd : d.toRat = signed negative (n / 10 ^ k)) : IsQuotient (signed negative (a / c)) d := by
  have hpos : (0 : ℚ) < c := Nat.cast_pos.2 hc
  have hpow : ∀ k : ℕ, (0 : ℚ) < 10 ^ k := fun k => by positivity
  cases h with
  | exact heq =>
    refine .inl (hd.trans (congrArg _ ?_))
    rw [div_eq_div_iff (hpow k).ne' hpos.ne']
    exact_mod_cast heq
  | near hrep hlong hnear =>
    refine .inr ⟨fun e he => hrep ⟨e.coefficient, e.scale, e.coefficient_lt, e.scale_le, ?_⟩,
      n, k, ?_, hlong, ?_⟩
    · have habs := congrArg abs (e.toRat_eq_signed.symm.trans he)
      rw [abs_signed, abs_signed, abs_of_nonneg (by positivity), abs_of_nonneg (by positivity),
        div_eq_div_iff (hpow _).ne' hpos.ne'] at habs
      exact_mod_cast habs
    · rw [hd, abs_signed, abs_of_nonneg (by positivity)]
    · obtain ⟨hle, hge⟩ := hnear
      qify at hle hge
      have hdenominator := mul_pos (hpow k) hpos
      rw [hd, signed_sub, abs_signed, div_sub_div _ _ (hpow k).ne' hpos.ne', abs_div,
        abs_of_pos hdenominator, div_le_div_iff₀ hdenominator (hpow k), one_mul]
      have habs : |(n : ℚ) * c - 10 ^ k * a| ≤ c := abs_le.2 ⟨by linarith, by linarith⟩
      calc |(n : ℚ) * c - 10 ^ k * a| * 10 ^ k
          ≤ c * 10 ^ k := mul_le_mul_of_nonneg_right habs (hpow k).le
        _ = 10 ^ k * c := mul_comm _ _

/-- **Dividing whole numbers** keeps the promise. -/
theorem exists_div?_isQuotient {a b : Decimal} (ha : a.scale = 0) (hb : b.scale = 0)
    (hne : b.isZero = false) : ∃ d, a.div? b = some d ∧ IsQuotient (a.toRat / b.toRat) d := by
  have hc : 0 < b.coefficient := Nat.pos_of_ne_zero (of_decide_eq_false hne)
  have hquotient : a.toRat / b.toRat =
      signed (a.negative != b.negative) (a.coefficient / b.coefficient) := by
    rw [toRat_eq_signed, toRat_eq_signed, ha, hb, pow_zero, div_one, div_one]
    cases a.negative <;> cases b.negative <;> simp [signed, neg_div, div_neg]
  rw [hquotient, div?, hne, if_neg Bool.false_ne_true]
  split
  · rename_i hzero
    refine ⟨zero, rfl, .inl ?_⟩
    rw [of_decide_eq_true hzero]
    cases (a.negative != b.negative) <;> simp [signed, toRat, signedCoefficient, zero]
  · have hscale : (a.scale : Int) - b.scale = 0 := by rw [ha, hb]; rfl
    have hstart : Quotient.Develops a.coefficient b.coefficient
        ⟨a.coefficient / b.coefficient, a.coefficient % b.coefficient, 0⟩ 0 :=
      ⟨rfl, by rw [pow_zero, mul_one]; exact Nat.div_add_mod' _ _, Nat.mod_lt _ hc⟩
    obtain ⟨r, l, hr, hfits⟩ := hstart.exists_develop_eq a.coefficient_lt (Nat.zero_le 28)
      ((Nat.div_le_self _ _).trans_lt a.coefficient_lt) (show 28 < 0 + 60 by decide)
    simp only [hscale, hr, Option.bind_some, hfits.scale, Int.toNat_natCast]
    have hshort : Shortens (r.quotient, l) (if a.coefficient % b.coefficient = 0
        then (r.quotient, l) else unscale r.quotient l) := by
      split
      · exact .refl _
      · exact shortens_unscale _ _
    obtain ⟨d, hd, hnumber⟩ := exists_make?_toRat (a.negative != b.negative)
      (hshort.coefficient_le.trans_lt hfits.lt) (hshort.scale_le.trans hfits.scale_le)
    rw [hshort.number] at hnumber
    exact ⟨d, hd, hfits.approximates.isQuotient hc hnumber⟩

end Division

end Decimal

end ScatterGather
