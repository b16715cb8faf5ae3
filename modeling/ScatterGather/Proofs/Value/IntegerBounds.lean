import ScatterGather.Proofs.Text.Numeral
import ScatterGather.Proofs.Value.Range
import ScatterGather.Proofs.Value.WholeNumber

/-!
# Proofs/Value/IntegerBounds — the integers of a range

An end at an integer admits the integers from it on, or from its neighbour on where the end does not
belong to the range (`Bound.admits_gt_integer`, `Bound.admits_lt_integer`).  So the integer bounds
of a range between two integers hold for **exactly its integers**
(`ValueRange.IsBetween.contains_iff`), and where a neighbour is missing, past the last 64-bit
integer, the range has none (`ValueRange.IsBetween.contains_of_none`).
-/

namespace ScatterGather

namespace Bound

variable {b : Bound} {m : Int64}

/-- The distance from the end of a range to the next integer of the range. -/
def gap (b : Bound) : Int := if b.inclusive then 0 else 1

theorem order?_integer (hm : b.value.int? = some m) (i : Int64) :
    (Value.integer i).order? b.value = some (compare i.toInt m.toInt) :=
  Value.order?_of_whole? rfl (Value.whole?_of_int? hm)

/-- **A lower end admits the integers from it on**, or from the next one. -/
theorem admits_gt_integer (hm : b.value.int? = some m) (i : Int64) :
    b.admits .gt (.integer i) = true ↔ m.toInt + b.gap ≤ i.toInt := by
  rw [admits_iff (by decide), order?_integer hm, Option.some.injEq, Option.some.injEq,
    Int.compare_eq_gt, Int.compare_eq_eq, gap]
  cases b.inclusive with
  | true =>
    simp only [and_true, if_true]
    omega
  | false =>
    simp only [Bool.false_eq_true, and_false, or_false, if_false]
    omega

/-- **An upper end admits the integers up to it**, or up to the one before. -/
theorem admits_lt_integer (hm : b.value.int? = some m) (i : Int64) :
    b.admits .lt (.integer i) = true ↔ i.toInt ≤ m.toInt - b.gap := by
  rw [admits_iff (by decide), order?_integer hm, Option.some.injEq, Option.some.injEq,
    Int.compare_eq_lt, Int.compare_eq_eq, gap]
  cases b.inclusive with
  | true =>
    simp only [and_true, if_true]
    omega
  | false =>
    simp only [Bool.false_eq_true, and_false, or_false, if_false]
    omega

end Bound

namespace ValueRange

/-- A range from the integer `m` to the integer `n`, of whichever integer type. -/
structure IsBetween (r : ValueRange) (lower upper : Bound) (m n : Int64) : Prop where
  lower_eq : r.lower = some lower
  upper_eq : r.upper = some upper
  low : lower.value.int? = some m
  high : upper.value.int? = some n

namespace IsBetween

variable {r : ValueRange} {lower upper : Bound} {m n : Int64}

theorem contains_integer_iff (h : r.IsBetween lower upper m n) (i : Int64) :
    r.contains (.integer i) = true ↔
      m.toInt + lower.gap ≤ i.toInt ∧ i.toInt ≤ n.toInt - upper.gap := by
  rw [← Bound.admits_gt_integer h.low, ← Bound.admits_lt_integer h.high, contains, h.lower_eq,
    h.upper_eq, Option.all_some, Option.all_some, Bool.and_eq_true]

theorem integerBounds?_eq (h : r.IsBetween lower upper m n) :
    r.integerBounds? = (Text.toInt64? (m.toInt + lower.gap)).bind fun low =>
      (Text.toInt64? (n.toInt - upper.gap)).map fun high => (low, high) := by
  rw [integerBounds?, h.lower_eq, h.upper_eq]
  simp only [Option.bind_some, h.low, h.high]
  rfl

/-- Integer bounds are missing where an end that does not belong to the range is the last integer on
its side. -/
theorem isSome_integerBounds?_iff (h : r.IsBetween lower upper m n) :
    r.integerBounds?.isSome ↔ ¬ (lower.inclusive = false ∧ m = Int64.maxValue) ∧
      ¬ (upper.inclusive = false ∧ n = Int64.minValue) := by
  have hlow : (Text.toInt64? (m.toInt + lower.gap)).isSome ↔
      ¬ (lower.inclusive = false ∧ m = Int64.maxValue) := by
    rw [Text.isSome_toInt64?_iff, ← Int64.toInt_inj, Int64.toInt_maxValue, Bound.gap]
    have hmin := m.le_toInt
    have hmax := m.toInt_lt
    cases lower.inclusive with
    | true => simpa using ⟨hmin, hmax⟩
    | false =>
      simp only [Bool.false_eq_true, if_false, true_and]
      omega
  have hhigh : (Text.toInt64? (n.toInt - upper.gap)).isSome ↔
      ¬ (upper.inclusive = false ∧ n = Int64.minValue) := by
    rw [Text.isSome_toInt64?_iff, ← Int64.toInt_inj, Int64.toInt_minValue, Bound.gap]
    have hmin := n.le_toInt
    have hmax := n.toInt_lt
    cases upper.inclusive with
    | true => simpa using ⟨hmin, hmax⟩
    | false =>
      simp only [Bool.false_eq_true, if_false, true_and]
      omega
  rw [h.integerBounds?_eq, ← hlow, ← hhigh, Option.isSome_bind]
  cases Text.toInt64? (m.toInt + lower.gap) <;> simp

/-- **The integers of a range are those between its integer bounds.** -/
theorem contains_iff {low high : Int64} (h : r.IsBetween lower upper m n)
    (hbounds : r.integerBounds? = some (low, high)) (i : Int64) :
    r.contains (.integer i) = true ↔ low ≤ i ∧ i ≤ high := by
  rw [h.integerBounds?_eq] at hbounds
  obtain ⟨low', hlow, hrest⟩ := Option.bind_eq_some_iff.1 hbounds
  obtain ⟨high', hhigh, hpair⟩ := Option.map_eq_some_iff.1 hrest
  obtain ⟨rfl, rfl⟩ := Prod.mk.inj hpair
  rw [h.contains_integer_iff, Int64.le_iff_toInt_le, Int64.le_iff_toInt_le,
    Text.toInt64?_eq_some_iff.1 hlow, Text.toInt64?_eq_some_iff.1 hhigh]

/-- **A range without integer bounds has no integers.** -/
theorem contains_of_none (h : r.IsBetween lower upper m n) (hnone : r.integerBounds? = none)
    (i : Int64) : r.contains (.integer i) = false := by
  have hlast := mt h.isSome_integerBounds?_iff.2 (by simp [hnone])
  rw [not_and_or, not_not, not_not] at hlast
  refine Bool.eq_false_iff.2 fun hi => ?_
  obtain ⟨hlow, hhigh⟩ := (h.contains_integer_iff i).1 hi
  obtain ⟨hopen, rfl⟩ | ⟨hopen, rfl⟩ := hlast
  · rw [Int64.toInt_maxValue, Bound.gap, hopen] at hlow
    have := i.toInt_lt
    simp at hlow
    omega
  · rw [Int64.toInt_minValue, Bound.gap, hopen] at hhigh
    have := i.le_toInt
    simp at hhigh
    omega

end IsBetween

/-- **Intersections and integer bounds are exact.**  A value of both ranges is in their
intersection, which holds nothing else where their bounds compare; doubles are left out.  A range
between two integers has integer bounds unless an end outside of it is the last integer on its
side; its integers are those between the bounds, and without bounds there are none. -/
theorem intersect_and_integerBounds_exact {r s t : ValueRange} {v : Value} {lower upper : Bound}
    {m n : Int64} (hv : v.isReal = false) (hr : r.IsExact) (hs : s.IsExact)
    (ht : t.IsBetween lower upper m n) :
    (r.contains v = true → s.contains v = true → (r.intersect s).contains v = true) ∧
    (r.Compares s → (r.intersect s).contains v = true →
      r.contains v = true ∧ s.contains v = true) ∧
    (t.integerBounds?.isSome ↔ ¬ (lower.inclusive = false ∧ m = Int64.maxValue) ∧
      ¬ (upper.inclusive = false ∧ n = Int64.minValue)) ∧
    (∀ low high, t.integerBounds? = some (low, high) →
      ∀ i : Int64, t.contains (.integer i) = true ↔ low ≤ i ∧ i ≤ high) ∧
    (t.integerBounds? = none → ∀ i : Int64, t.contains (.integer i) = false) :=
  ⟨contains_intersect hv hr hs, fun hcompares => (contains_intersect_iff hv hr hs hcompares).1,
    ht.isSome_integerBounds?_iff, fun _ _ => ht.contains_iff, ht.contains_of_none⟩

/-- From the decimal 10 on. -/
def fromTen : ValueRange := atLeast (.numeric (.ofInt64 10)) true

/-- Above 10 and below 20. -/
def insideTens : ValueRange := ⟨some ⟨.integer 10, false⟩, some ⟨.smallInt 20, false⟩⟩

/-- Above the last integer and below 5. -/
def pastLast : ValueRange :=
  ⟨some ⟨.integer Int64.maxValue, false⟩, some ⟨.integer 5, false⟩⟩

/-- The lower bounds tie although their types differ, and only one belongs to its range; 10.5 is in
both ranges and 10 is not.  A range that begins past the last integer has none. -/
theorem intersect_and_integerBounds_exact_tens :
    fromTen.IsExact ∧ insideTens.IsExact ∧ fromTen.Compares insideTens ∧
      pastLast.IsBetween ⟨.integer Int64.maxValue, false⟩ ⟨.integer 5, false⟩ Int64.maxValue 5 ∧
      (fromTen.intersect insideTens).contains
        (.numeric ⟨false, 105, 1, by decide, by decide⟩) = true ∧
      (fromTen.intersect insideTens).contains (.integer 10) = false ∧
      ∀ i : Int64, pastLast.contains (.integer i) = false := by
  have hfrom : fromTen.IsExact :=
    ⟨by simp [fromTen, atLeast, Bound.IsExact, Value.isReal], by simp [fromTen, atLeast]⟩
  have hinside : insideTens.IsExact := ⟨by simp [insideTens, Bound.IsExact, Value.isReal],
    by simp [insideTens, Bound.IsExact, Value.isReal]⟩
  have hcompares : fromTen.Compares insideTens := ⟨by
    intro a ha b hb
    obtain rfl := Option.some.inj ha
    obtain rfl := Option.some.inj hb
    decide, by simp [fromTen, atLeast]⟩
  have hpast : pastLast.IsBetween ⟨.integer Int64.maxValue, false⟩ ⟨.integer 5, false⟩
      Int64.maxValue 5 := ⟨rfl, rfl, rfl, rfl⟩
  have hexact := fun v hv => intersect_and_integerBounds_exact (v := v) hv hfrom hinside hpast
  obtain ⟨hboth, -, -, -, hnone⟩ :=
    hexact (.numeric ⟨false, 105, 1, by decide, by decide⟩) rfl
  obtain ⟨-, honly, -⟩ := hexact (.integer 10) rfl
  refine ⟨hfrom, hinside, hcompares, hpast, hboth (by decide) (by decide), ?_, hnone (by decide)⟩
  exact Bool.eq_false_iff.2 fun h => Bool.false_ne_true (honly hcompares h).2

end ValueRange

end ScatterGather
