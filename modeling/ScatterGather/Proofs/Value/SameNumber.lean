import ScatterGather.Proofs.Value.Rank
import ScatterGather.Proofs.Value.WholeNumber

/-!
# Proofs/Value/SameNumber — two forms of one number

A sum of integers is an integer or a decimal, depending on the order in which they were added.  Two
values are forms of the **same number** (`Value.SameNumber`) if they are one value that equals
itself, or one whole number.  Such values tie, and no comparison tells them apart
(`SameNumber.order?_congr`): doubles included, as a whole number is rounded to one double whatever
its form.
-/

namespace ScatterGather

/-! ## The double of a whole number

A number is compared with a double after it has been rounded to one.  So forms of one number have to
be rounded to one double, whatever their scales and whether or not they carry a sign. -/

namespace Binary64

theorem magnitudeBits_ofSignMagnitude (negative : Bool) (m : Nat) :
    (ofSignMagnitude negative m).magnitudeBits = m % 2 ^ 63 := by
  rw [magnitudeBits, ofSignMagnitude, UInt64.toNat_ofNat']
  split <;> omega

theorem negative_ofSignMagnitude (negative : Bool) (m : Nat) :
    (ofSignMagnitude negative m).negative = negative := by
  rw [Binary64.negative, ofSignMagnitude, UInt64.toNat_ofNat']
  cases negative with
  | true => exact decide_eq_true (by rw [if_pos rfl]; omega)
  | false => exact decide_eq_false (by rw [if_neg Bool.false_ne_true]; omega)

theorem neg_ofSignMagnitude (negative : Bool) (m : Nat) :
    (ofSignMagnitude negative m).neg = ofSignMagnitude (!negative) m := by
  rw [neg, negative_ofSignMagnitude, magnitudeBits_ofSignMagnitude, ofSignMagnitude,
    ofSignMagnitude, Nat.mod_mod]

/-- Rounding treats both signs alike. -/
theorem neg_ofQuotient (negative : Bool) (n d : Nat) :
    (ofQuotient negative n d).neg = ofQuotient (!negative) n d := by
  simp only [ofQuotient, ofUnits]
  split <;> exact neg_ofSignMagnitude negative _

/-- The zeros compare alike. -/
theorem order?_ofQuotient_zero (negative : Bool) (y : Binary64) :
    (ofQuotient negative 0 1).order? y = (ofQuotient false 0 1).order? y := by
  have hzero : ∀ s, ofQuotient s 0 1 = ofSignMagnitude s 0 := fun s => by
    rw [ofQuotient, Nat.zero_mul]
    rfl
  simp only [hzero, order?, isNaN, key, magnitudeBits_ofSignMagnitude, Nat.zero_mod,
    Int.natCast_zero, neg_zero, ite_self]

end Binary64

namespace Decimal

variable {d : Decimal} {x : Int}

/-- The coefficient of a whole number. -/
theorem coefficient_of_whole? (h : d.whole? = some x) :
    d.coefficient = x.natAbs * 10 ^ d.scale := by
  have habs := congrArg Int.natAbs (whole?_eq_some.1 h)
  rw [Int.natAbs_mul, Int.natAbs_pow, signedCoefficient] at habs
  split at habs <;> simpa using habs

/-- The sign of a whole number, unless it is zero. -/
theorem negative_of_whole? (h : d.whole? = some x) (hx : x ≠ 0) : d.negative = decide (x < 0) := by
  have hsigned := whole?_eq_some.1 h
  have hpos : (0 : Int) < 10 ^ d.scale := pow_pos (by decide) _
  rw [signedCoefficient] at hsigned
  cases hd : d.negative with
  | true =>
    rw [hd, if_pos rfl] at hsigned
    refine (decide_eq_true (lt_of_le_of_ne ?_ hx)).symm
    exact nonpos_of_mul_nonpos_left (by omega) hpos
  | false =>
    rw [hd, if_neg Bool.false_ne_true] at hsigned
    exact (decide_eq_false (not_lt.2 (nonneg_of_mul_nonneg_left (by omega) hpos))).symm

/-- **A decimal that is a whole number compares as its double**, which is that of the integer. -/
theorem order?_toBinary64 (h : d.whole? = some x) (y : Binary64) :
    d.toBinary64.order? y = (Binary64.ofInt x).order? y := by
  have hpos : 0 < 10 ^ d.scale := Nat.pow_pos (by decide)
  have hdouble : d.toBinary64 = Binary64.ofQuotient d.negative x.natAbs 1 := by
    rw [toBinary64, coefficient_of_whole? h]
    simp only [Nat.mul_mod_left, if_true, Nat.mul_div_cancel _ hpos, Binary64.ofNat]
    cases d.negative with
    | true => rw [if_pos rfl, Binary64.neg_ofQuotient, Bool.not_false]
    | false => rw [if_neg Bool.false_ne_true]
  rw [hdouble, Binary64.ofInt]
  obtain rfl | hx := eq_or_ne x 0
  · exact Binary64.order?_ofQuotient_zero _ y
  · rw [negative_of_whole? h hx]

end Decimal

/-! ## Values

An integer and a decimal may be one number, and a double is no form of another value. -/

namespace Value

variable {v w : Value} {x : Int}

/-- Forms of one whole number tie. -/
theorem order?_eq_eq_of_whole? (hv : v.whole? = some x) (hw : w.whole? = some x) :
    v.order? w = some .eq := by
  rw [order?_of_whole? hv hw, Int.compare_eq_eq.2 rfl]

/-- A number is compared with a double as a double. -/
theorem orderNumbers?_real (v : Value) (y : Binary64) :
    v.orderNumbers? (real y) = v.binary64?.bind fun z => z.order? y := by
  rw [orderNumbers?.eq_def]
  split
  · rename_i hy
    cases hy
  · have hreal : (v.isReal || (real y).isReal) = true := Bool.or_true _
    rw [if_pos hreal]
    rfl

/-- A whole number compares with a double as its own double. -/
theorem order?_real_of_whole? (h : v.whole? = some x) (y : Binary64) :
    v.order? (real y) = (Binary64.ofInt x).order? y := by
  have hnumbers : v.order? (real y) = v.orderNumbers? (real y) := by
    obtain ⟨_, rfl⟩ | ⟨_, rfl⟩ | ⟨_, rfl⟩ := cases_of_whole? h <;> rfl
  rw [hnumbers, orderNumbers?_real]
  obtain ⟨n, rfl⟩ | ⟨n, rfl⟩ | ⟨d, rfl⟩ := cases_of_whole? h
  · rw [← Option.some.inj h, binary64?, Option.bind_some]
  · rw [← Option.some.inj h, binary64?, Option.bind_some]
  · rw [← Decimal.order?_toBinary64 h, binary64?, Option.bind_some]

/-- **Two forms of one number**: one value that equals itself, or one whole number. -/
inductive SameNumber : Value → Value → Prop
  | refl {v : Value} : v.order? v = some .eq → SameNumber v v
  | whole {v w : Value} {x : Int} : v.whole? = some x → w.whole? = some x → SameNumber v w

/-- Forms of one number tie. -/
theorem SameNumber.order?_eq (h : v.SameNumber w) : v.order? w = some .eq := by
  cases h with
  | refl hself => exact hself
  | whole hv hw => exact order?_eq_eq_of_whole? hv hw

/-- Forms of one number are NULL together or not at all. -/
theorem SameNumber.isNull_eq (h : v.SameNumber w) : v.isNull = w.isNull := by
  cases h with
  | refl _ => rfl
  | whole hv hw => rw [isNull_of_whole? hv, isNull_of_whole? hw]

/-- **Forms of one number compare alike** with every value. -/
theorem SameNumber.order?_congr (h : v.SameNumber w) (u : Value) : v.order? u = w.order? u := by
  cases h with
  | refl _ => rfl
  | whole hv hw =>
    cases hu : u.isReal with
    | true =>
      obtain ⟨y, rfl⟩ : ∃ y, u = real y := by
        cases u with
        | real y => exact ⟨y, rfl⟩
        | _ => cases hu
      rw [order?_real_of_whole? hv, order?_real_of_whole? hw]
    | false =>
      have hv' := isReal_of_whole? hv
      have hw' := isReal_of_whole? hw
      rw [Value.order?_eq hv' hu, Value.order?_eq hw' hu,
        rank?_eq_of_order? hv' hw' (order?_eq_eq_of_whole? hv hw)]

/-- Values that no comparison tells apart: one value, or two forms of one number. -/
def Alike (v w : Value) : Prop := v = w ∨ v.SameNumber w

theorem Alike.refl (v : Value) : v.Alike v := .inl rfl

theorem Alike.isNull_eq (h : v.Alike w) : v.isNull = w.isNull :=
  h.elim (congrArg isNull) SameNumber.isNull_eq

theorem Alike.order?_congr (h : v.Alike w) (u : Value) : v.order? u = w.order? u :=
  h.elim (congrArg (order? · u)) fun h => h.order?_congr u

end Value

end ScatterGather
