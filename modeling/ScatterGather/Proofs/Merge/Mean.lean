import ScatterGather.Proofs.Decimal.Quotient
import ScatterGather.Proofs.Merge.Accumulator
import ScatterGather.Proofs.Merge.Rejection

/-!
# Proofs/Merge/Mean — AVG is the exactly rounded mean

The mean of counts and sums is a quotient rounded twice: division rounds it to the precision of
decimals, and then it is rounded to four places.  The first rounding never shows in the second
(`Decimal.IsQuotient.roundHalfAway_eq`): where it changes the quotient at all, the quotient of two
64-bit numbers is farther from every midpoint between two numbers of four places than division is
off.  So AVG is the mean itself, rounded once (`Accumulator.mean_result`).
-/

namespace ScatterGather

open scoped List

/-! ## Rounded twice

Rounding twice goes wrong where the first rounding lands on a midpoint of the second.  A quotient by
a 64-bit count has a distance from every midpoint that depends on the count alone, and 28 digits are
finer than that. -/

namespace Decimal

section Twice

variable {s c : ℤ} {d : Decimal} {n k : ℕ}

/-- The last place of division is less than half of a count's share of a fourth place. -/
theorem lt_pow_of_long (hs : |s| < 2 ^ 63) (hc : 0 < c) (hc' : c < 2 ^ 63)
    (habs : |d.toRat| = n / 10 ^ k) (hlong : k = 28 ∨ 10 ^ 27 ≤ n)
    (hnear : |d.toRat - s / c| ≤ 1 / 10 ^ k) : (20000 * c : ℚ) < 10 ^ k := by
  have hpos : (0 : ℚ) < c := Int.cast_pos.2 hc
  have hpow : (0 : ℚ) < 10 ^ k := by positivity
  obtain rfl | hdigits := hlong
  · have hc' : (c : ℚ) < 2 ^ 63 := by exact_mod_cast hc'
    linarith
  · have hs : |(s : ℚ)| < 2 ^ 63 := by exact_mod_cast hs
    have hdigits : (10 ^ 27 : ℚ) ≤ n := by exact_mod_cast hdigits
    have hle : (n / 10 ^ k : ℚ) ≤ |(s : ℚ)| / c + 1 / 10 ^ k := by
      have hdiff := abs_sub_abs_le_abs_sub d.toRat (s / c)
      rw [habs, abs_div, abs_of_pos hpos] at hdiff
      linarith
    have hcleared : (n : ℚ) * c ≤ |(s : ℚ)| * 10 ^ k + c := by
      rw [div_add_div _ _ hpos.ne' hpow.ne', div_le_div_iff₀ hpow (mul_pos hpos hpow)] at hle
      refine le_of_mul_le_mul_right ?_ hpow
      linarith
    have hsum := mul_lt_mul_of_pos_right hs hpow
    have hcount := mul_le_mul_of_nonneg_right hdigits hpos.le
    linarith

/-- A quotient that no decimal is is not a midpoint between two numbers of four places. -/
theorem ne_midpoint (hs : |s| < 2 ^ 63) (hc : 0 < c) (hrep : ∀ e : Decimal, e.toRat ≠ s / c)
    (m : ℤ) : 20000 * s ≠ m * c := by
  intro heq
  have hm : |m| ≤ 20000 * |s| := by
    calc |m| ≤ |m| * c := le_mul_of_one_le_right (abs_nonneg m) hc
      _ = |m * c| := by rw [abs_mul, abs_of_pos hc]
      _ = 20000 * |s| := by rw [← heq, abs_mul]; rfl
  have hfits : (5 * m).natAbs < 2 ^ 96 := by
    rw [Int.abs_eq_natAbs] at hm
    omega
  obtain ⟨e, he⟩ := exists_toRat_eq hfits (show 5 ≤ 28 by decide)
  refine hrep e (he.trans ?_)
  have heq : (20000 * s : ℚ) = m * c := by exact_mod_cast heq
  rw [div_eq_div_iff (by positivity) (Int.cast_pos.2 hc).ne']
  push_cast
  linarith

/-- Where a quotient is no midpoint, its magnitude is none either. -/
theorem ne_midpoint_abs (hs : |s| < 2 ^ 63) (hc : 0 < c) (hrep : ∀ e : Decimal, e.toRat ≠ s / c)
    (m : ℤ) : 20000 * |s| ≠ m * c := by
  intro heq
  obtain habs | habs := abs_choice s <;> rw [habs] at heq
  · exact ne_midpoint hs hc hrep m heq
  · exact ne_midpoint hs hc hrep (-m) (by linarith)

/-- A number closer to another one than that is to zero has its sign. -/
theorem sign_eq_of_abs_sub_lt {x y : ℚ} (h : |y - x| < |x|) :
    SignType.sign y = SignType.sign x := by
  obtain ⟨hlt, hlt'⟩ := abs_lt.1 h
  obtain hneg | rfl | hpos := lt_trichotomy x 0
  · rw [abs_of_neg hneg] at hlt'
    rw [sign_neg hneg, sign_neg (by linarith)]
  · rw [abs_zero] at h
    exact absurd h (abs_nonneg _).not_gt
  · rw [abs_of_pos hpos] at hlt
    rw [sign_pos hpos, sign_pos (by linarith)]

/-- **A number closer to a quotient than the quotient is to a midpoint** is rounded like it. -/
theorem round_eq_of_close {a m : ℤ} {x y δ : ℚ} (hc : (0 : ℚ) < c) (hx : x * c = a)
    (hclose : |y - x| ≤ δ) (hδ : 20000 * (δ * c) < 1) (hlow : (2 * m - 1) * c < 20000 * a)
    (hhigh : 20000 * a < (2 * m + 1) * c) : round (y * 10 ^ 4) = m := by
  have hlow : ((2 * m - 1) * c + 1 : ℚ) ≤ 20000 * a := by exact_mod_cast hlow
  have hhigh : (20000 * a + 1 : ℚ) ≤ (2 * m + 1) * c := by exact_mod_cast hhigh
  obtain ⟨hbelow, habove⟩ := abs_le.1 hclose
  have hbelow : (x - δ) * c ≤ y * c := mul_le_mul_of_nonneg_right (by linarith) hc.le
  have habove : y * c ≤ (x + δ) * c := mul_le_mul_of_nonneg_right (by linarith) hc.le
  refine round_eq_iff.2 ⟨?_, ?_⟩
  · refine le_of_mul_le_mul_right ?_ hc
    linarith
  · refine lt_of_mul_lt_mul_right ?_ hc.le
    linarith

/-- **The first rounding does not show in the second.** -/
theorem IsQuotient.roundHalfAway_eq (h : IsQuotient (s / c) d) (hs : |s| < 2 ^ 63) (hc : 0 < c)
    (hc' : c < 2 ^ 63) : roundHalfAway 4 d.toRat = roundHalfAway 4 (s / c) := by
  obtain heq | ⟨hrep, n, k, habs, hlong, hnear⟩ := h
  · rw [heq]
  have hpos : (0 : ℚ) < c := Int.cast_pos.2 hc
  have hpow : (0 : ℚ) < 10 ^ k := by positivity
  -- The division is off by less than the distance of a quotient of these integers from a midpoint.
  have hoff : 20000 * (1 / 10 ^ k * c : ℚ) < 1 := by
    have hshort := lt_pow_of_long hs hc hc' habs hlong hnear
    rw [one_div, ← mul_assoc, mul_right_comm, ← div_eq_mul_inv]
    exact (div_lt_one hpow).2 hshort
  have hmagnitude : |(s / c : ℚ)| * c = |s| := by
    rw [abs_div, abs_of_pos hpos, div_mul_cancel₀ _ hpos.ne', Int.cast_abs]
  -- It is off by less than the quotient itself, and so keeps its sign.
  have hsign : SignType.sign d.toRat = SignType.sign (s / c : ℚ) := by
    have hzero : s ≠ 0 := by
      rintro rfl
      exact hrep zero (by simp [toRat, signedCoefficient, zero])
    have hone : (1 : ℚ) ≤ (|s| : ℤ) := by exact_mod_cast Int.one_le_abs hzero
    refine sign_eq_of_abs_sub_lt (hnear.trans_lt (lt_of_mul_lt_mul_right ?_ hpos.le))
    rw [hmagnitude]
    linarith
  have hround : round (|d.toRat| * 10 ^ 4) = round (|(s / c : ℚ)| * 10 ^ 4) := by
    obtain ⟨hle, hlt⟩ := round_eq_iff.1 (rfl : round (|(s / c : ℚ)| * 10 ^ 4) = _)
    generalize round (|(s / c : ℚ)| * 10 ^ 4) = m at hle hlt ⊢
    have hle := mul_le_mul_of_nonneg_right hle hpos.le
    have hlt := mul_lt_mul_of_pos_right hlt hpos
    rw [mul_right_comm, hmagnitude, Int.cast_abs] at hle hlt
    have hlow : (2 * m - 1) * c ≤ 20000 * |s| := by
      qify
      linarith
    have hhigh : 20000 * |s| < (2 * m + 1) * c := by
      qify
      linarith
    exact round_eq_of_close hpos hmagnitude ((abs_abs_sub_abs_le _ _).trans hnear) hoff
      (lt_of_le_of_ne hlow (ne_midpoint_abs hs hc hrep _).symm) hhigh
  rw [roundHalfAway, roundHalfAway, hsign, hround]

end Twice

end Decimal

/-! ## Totals

The mean is fed with counts and sums, one of each from every node.  As long as the totals are 64-bit
numbers, what is held are these totals in plain form, so their quotient depends on nothing else. -/

/-- NULL or an integer of either width, as nodes count and add up integers. -/
def Value.IsPartial (v : Value) : Prop := v.isNull = true ∨ v.int?.isSome = true

/-- A row that starts with a count and a sum of integers, either of which may be NULL. -/
def IsPartialMean (row : Row) : Prop :=
  ∃ c s rest, row = c :: s :: rest ∧ c.IsPartial ∧ s.IsPartial

/-- The counts and sums of the rows that have both. -/
def usable (rows : List Row) : List (ℤ × ℤ) := rows.filterMap (meanInput? 0 1)

/-- The sum of the counts. -/
def countTotal (rows : List Row) : ℤ := ((usable rows).map Prod.fst).sum

/-- The sum of the sums. -/
def sumTotal (rows : List Row) : ℤ := ((usable rows).map Prod.snd).sum

/-- The totals are 64-bit numbers from the first row to the last. -/
def TotalsFit (rows : List Row) : Prop :=
  ∀ front, front <+: rows → |countTotal front| < 2 ^ 63 ∧ |sumTotal front| < 2 ^ 63

/-- The totals of counts and sums, as plain decimals. -/
structure IsTotals (pairs : List (ℤ × ℤ)) (count sum : Option Decimal) : Prop where
  isCount : IsSum Decimal.whole? (pairs.map Prod.fst) count
  isSum : IsSum Decimal.whole? (pairs.map Prod.snd) sum
  count_isPlain : ∀ d ∈ count, d.IsPlain
  sum_isPlain : ∀ d ∈ sum, d.IsPlain

/-- A count or a sum is NULL or a plain decimal. -/
theorem Value.IsPartial.isNull_or_exists_decimal? {v : Value} (h : v.IsPartial) :
    v.isNull = true ∨ ∃ x d, v.whole? = some x ∧ v.decimal? = some d ∧ d.whole? = some x ∧
      d.IsPlain := by
  refine h.imp id fun hint => ?_
  obtain ⟨n, hn⟩ := Option.isSome_iff_exists.1 hint
  obtain ⟨hwhole, hplain⟩ := Decimal.ofInt64_spec n
  refine ⟨n.toInt, .ofInt64 n, whole?_of_int? hn, ?_, hwhole, hplain⟩
  cases v with
  | smallInt m => exact congrArg (fun n => some (Decimal.ofInt64 n)) (Option.some.inj hn)
  | integer m => exact congrArg (fun n => some (Decimal.ofInt64 n)) (Option.some.inj hn)
  | _ => exact nomatch hn

section Totals

variable {pairs pairs' : List (ℤ × ℤ)} {rows rows' : List Row} {row : Row}
  {count count' sum sum' : Option Decimal}

theorem IsTotals.perm (h : IsTotals pairs count sum) (hperm : pairs ~ pairs') :
    IsTotals pairs' count sum :=
  ⟨h.isCount.perm (hperm.map _), h.isSum.perm (hperm.map _), h.count_isPlain, h.sum_isPlain⟩

/-- Equal totals are the same plain decimals. -/
theorem IsTotals.eq (h : IsTotals pairs count sum) (h' : IsTotals pairs count' sum') :
    count = count' ∧ sum = sum' :=
  ⟨h.isCount.eq_of_isPlain h'.isCount h.count_isPlain h'.count_isPlain,
    h.isSum.eq_of_isPlain h'.isSum h.sum_isPlain h'.sum_isPlain⟩

/-- A row at the end is usable with the others, or is passed over. -/
theorem usable_concat (rows : List Row) (row : Row) :
    usable (rows ++ [row]) = usable rows ++ (meanInput? 0 1 row).toList := by
  rw [usable, List.filterMap_append]
  cases h : meanInput? 0 1 row <;> simp [usable, h]

/-- **A mean takes in one more count and sum**, or passes over the row if one of them is NULL. -/
theorem IsTotals.exists_feed_eq (h : IsTotals (usable rows) count sum) (hrow : IsPartialMean row)
    (hcount : |countTotal (rows ++ [row])| < 2 ^ 63) (hsum : |sumTotal (rows ++ [row])| < 2 ^ 63) :
    ∃ count' sum', (Accumulator.mean count sum false).feed row =
      (.ok (), .mean count' sum' false) ∧ IsTotals (usable (rows ++ [row])) count' sum' := by
  obtain ⟨c, s, rest, rfl, hc, hs⟩ := hrow
  -- A NULL in either column leaves the totals as they are.
  have hskip : c.isNull = true ∨ s.isNull = true →
      usable (rows ++ [c :: s :: rest]) = usable rows := fun hnull => by
    have hinput : meanInput? 0 1 (c :: s :: rest) = none := meanInput?_of_isNull hnull
    rw [usable_concat, hinput, Option.toList_none, List.append_nil]
  obtain hnull | ⟨x, d, hx, hd, hdx, hdplain⟩ := hc.isNull_or_exists_decimal?
  · exact ⟨count, sum, feedMean_of_isNull (.inl hnull), by rwa [hskip (.inl hnull)]⟩
  obtain hnull | ⟨y, e, hy, he, hey, heplain⟩ := hs.isNull_or_exists_decimal?
  · exact ⟨count, sum, feedMean_of_isNull (.inr hnull), by rwa [hskip (.inr hnull)]⟩
  have husable : usable (rows ++ [c :: s :: rest]) ~ (x, y) :: usable rows := by
    have hinput : meanInput? 0 1 (c :: s :: rest) = some (x, y) := meanInput?_eq hx hy
    rw [usable_concat, hinput]
    exact List.perm_append_singleton _ _
  have hcount : (x :: (usable rows).map Prod.fst).sum.natAbs < 2 ^ 96 := by
    have heq : countTotal (rows ++ [c :: s :: rest]) = (x :: (usable rows).map Prod.fst).sum :=
      (husable.map Prod.fst).sum_eq
    rw [heq, Int.abs_eq_natAbs] at hcount
    omega
  have hsum : (y :: (usable rows).map Prod.snd).sum.natAbs < 2 ^ 96 := by
    have heq : sumTotal (rows ++ [c :: s :: rest]) = (y :: (usable rows).map Prod.snd).sum :=
      (husable.map Prod.snd).sum_eq
    rw [heq, Int.abs_eq_natAbs] at hsum
    omega
  obtain ⟨count', hadd, hisCount, hplain⟩ := h.isCount.exists_addExact_eq hdx hcount
  obtain ⟨sum', hadd', hisSum, hplain'⟩ := h.isSum.exists_addExact_eq hey hsum
  refine ⟨some count', some sum', feedMean_eq hx hy hd he hadd hadd', IsTotals.perm ?_ husable.symm⟩
  refine ⟨hisCount, hisSum, ?_, ?_⟩
  · rintro _ ⟨⟩
    exact hplain h.count_isPlain hdplain
  · rintro _ ⟨⟩
    exact hplain' h.sum_isPlain heplain

end Totals

namespace Accumulator

variable {rows rows' : List Row} {count sum : Option Decimal}

/-- **Rows of counts and sums are taken in**, and their totals are held. -/
theorem exists_after_mean (hrows : ∀ row ∈ rows, IsPartialMean row) (hfit : TotalsFit rows) :
    (fresh .avg false).Accepts rows ∧ ∃ count sum,
      (fresh .avg false).after rows = mean count sum false ∧ IsTotals (usable rows) count sum := by
  refine accepts_of_step (P := fun rows held => ∃ count sum, held = mean count sum false ∧
    IsTotals (usable rows) count sum) ⟨none, none, rfl, .inl ⟨rfl, rfl⟩, .inl ⟨rfl, rfl⟩,
      by simp, by simp⟩ ?_
  rintro before row _ hfront ⟨count, sum, rfl, htotals⟩
  obtain ⟨hcount, hsum⟩ := hfit _ hfront
  have hrow := hrows row (hfront.subset (List.mem_append_right _ (.head _)))
  obtain ⟨count', sum', hfeed, htotals'⟩ := htotals.exists_feed_eq hrow hcount hsum
  exact ⟨_, hfeed, count', sum', rfl, htotals'⟩

/-- **The result of totals** is their quotient, rounded once; NULL for a count of zero. -/
theorem exists_result_of_isTotals (h : IsTotals (usable rows) count sum)
    (hcount : |countTotal rows| < 2 ^ 63) (hsum : |sumTotal rows| < 2 ^ 63) :
    ∃ v, (mean count sum false).result = .ok v ∧ (countTotal rows = 0 → v = .null) ∧
      (0 < countTotal rows → ∃ d, v = .numeric d ∧
        d.toRat = roundHalfAway meanPlaces (sumTotal rows / countTotal rows)) := by
  obtain ⟨hnil, rfl⟩ | ⟨hne, total, rfl, htotal⟩ := h.isCount
  · have hzero : countTotal rows = 0 := by rw [countTotal, hnil, List.sum_nil]
    exact ⟨.null, rfl, fun _ => rfl, fun hpos => absurd hzero hpos.ne'⟩
  obtain ⟨hnil, -⟩ | ⟨-, amount, rfl, hamount⟩ := h.isSum
  · exact absurd (List.map_eq_nil_iff.1 hnil) fun hnil => hne (by rw [hnil]; rfl)
  refine ⟨average amount total false, rfl, fun hzero => ?_, fun hpos => ?_⟩
  · have htotal : total.whole? = some 0 := by rw [htotal, ← hzero, countTotal]
    exact if_pos (Decimal.isZero_of_whole?_zero htotal)
  · have hnonzero : total.isZero = false := by
      refine Bool.eq_false_iff.2 fun hz => hpos.ne' ?_
      exact Decimal.eq_zero_of_isZero htotal hz
    obtain ⟨d, hd, hquotient⟩ := Decimal.exists_div?_isQuotient (h.sum_isPlain amount rfl).scale
      (h.count_isPlain total rfl).scale hnonzero
    rw [Decimal.toRat_of_whole? htotal, Decimal.toRat_of_whole? hamount] at hquotient
    refine ⟨d.roundPlaces meanPlaces, ?_, ?_⟩
    · simp [average, hnonzero, hd]
    · rw [Decimal.toRat_roundPlaces]
      exact hquotient.roundHalfAway_eq hsum hpos (lt_of_abs_lt hcount)

/-- **AVG is the exactly rounded mean.**  Rows of counts and sums are all taken in, those with a
NULL passed over; the result is the total of the sums by that of the counts, rounded once to four
places, a half away from zero, in whatever order the rows come, and NULL if there are no counts or
their total is zero. -/
theorem mean_result (hrows : ∀ row ∈ rows, IsPartialMean row) (hfit : TotalsFit rows) :
    (fresh .avg false).Accepts rows ∧ ∃ v, ((fresh .avg false).after rows).result = .ok v ∧
      (usable rows = [] ∨ countTotal rows = 0 → v = .null) ∧
      (0 < countTotal rows → ∃ d, v = .numeric d ∧
        d.toRat = roundHalfAway 4 (sumTotal rows / countTotal rows)) ∧
      ∀ rows', rows' ~ rows → TotalsFit rows' →
        (fresh .avg false).Accepts rows' ∧ ((fresh .avg false).after rows').result = .ok v := by
  obtain ⟨haccepts, count, sum, hafter, htotals⟩ := exists_after_mean hrows hfit
  obtain ⟨hcount, hsum⟩ := hfit rows List.prefix_rfl
  obtain ⟨v, hv, hzero, hpos⟩ := exists_result_of_isTotals htotals hcount hsum
  refine ⟨haccepts, v, hafter ▸ hv, ?_, hpos, fun rows' hperm hfit' => ?_⟩
  · rintro (hnone | hnone)
    · exact hzero (by rw [countTotal, hnone]; rfl)
    · exact hzero hnone
  · obtain ⟨haccepts', count', sum', hafter', htotals'⟩ :=
      exists_after_mean (fun row hrow => hrows row (hperm.mem_iff.1 hrow)) hfit'
    obtain ⟨rfl, rfl⟩ := htotals.eq (htotals'.perm (hperm.filterMap _))
    exact ⟨haccepts', hafter' ▸ hv⟩

/-- One of 32 is 0.03125, which goes up to 0.0313; a row without a count is passed over. -/
theorem mean_result_half : ∃ rows : List Row,
    rows = [[.integer 16, .integer 1], [.null, .integer 5], [.smallInt 16, .integer 0]] ∧
      (∀ row ∈ rows, IsPartialMean row) ∧ TotalsFit rows ∧
        ∃ d : Decimal, ((fresh .avg false).after rows).result = .ok (.numeric d) ∧
          d.toRat = 313 / 10000 := by
  have hrows : ∀ row ∈ [[.integer 16, .integer 1], [.null, .integer 5], [.smallInt 16, .integer 0]],
      IsPartialMean row := by
    intro row hrow
    simp only [List.mem_cons, List.not_mem_nil, or_false] at hrow
    obtain rfl | rfl | rfl := hrow
    · exact ⟨_, _, _, rfl, .inr rfl, .inr rfl⟩
    · exact ⟨_, _, _, rfl, .inl rfl, .inr rfl⟩
    · exact ⟨_, _, _, rfl, .inr rfl, .inr rfl⟩
  have hfit :
      TotalsFit [[.integer 16, .integer 1], [.null, .integer 5], [.smallInt 16, .integer 0]] := by
    intro front hfront
    rw [← List.mem_inits] at hfront
    revert front
    decide
  obtain ⟨-, v, hv, -, hmean, -⟩ := mean_result hrows hfit
  obtain ⟨d, rfl, hd⟩ := hmean (by decide)
  refine ⟨_, rfl, hrows, hfit, d, hv, hd.trans ?_⟩
  have hcount : countTotal [[.integer 16, .integer 1], [.null, .integer 5],
    [.smallInt 16, .integer 0]] = 32 := by decide
  have hsum : sumTotal [[.integer 16, .integer 1], [.null, .integer 5],
    [.smallInt 16, .integer 0]] = 1 := by decide
  rw [hcount, hsum, roundHalfAway_of_nonneg (by norm_num)]
  have hround : round ((1 : ℤ) / (32 : ℤ) * 10 ^ 4 : ℚ) = 313 :=
    round_eq_iff.2 ⟨by norm_num, by norm_num⟩
  rw [hround]
  norm_num

example : ((fresh .avg false).after
    [[.integer 16, .integer 1], [.null, .integer 5], [.smallInt 16, .integer 0]]).result =
      .ok (.numeric ⟨false, 313, 4, by decide, by decide⟩) := by decide

end Accumulator

end ScatterGather
