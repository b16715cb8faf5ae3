import Mathlib.Algebra.BigOperators.Group.Finset.Basic
import ScatterGather.Proofs.Merge.Accumulator
import ScatterGather.Proofs.Merge.Rejection

/-!
# Proofs/Merge/DistinctValues — DISTINCT aggregates fold each number once

The aggregates with DISTINCT keep a set of values.  Of cells that are NULL or integers it is a set
of numbers (`distinctNumbers`), and the results are the size of that set, its sum and its mean
(`distinct_results`): neither how often a number came nor the order in which the set is gone through
makes a difference, although a sum that has grown into a decimal stays one.
-/

namespace ScatterGather

open scoped List

/-- The numbers among cells, each once. -/
def distinctNumbers (cells : List Value) : Finset Int := (cells.filterMap Value.whole?).toFinset

/-- The rows of one column. -/
def singleRows (cells : List Value) : List Row := cells.map fun v => [v]

section Held

variable {cells seen seen' : List Value} {i : Nat} {rows : List Row}

/-! ## The set as a set

The set is held as a list in some order.  Of integers it has the size and the sum of a finite set of
numbers, whatever the order. -/

/-- The different integers in whatever order they are gone through. -/
theorem IsDistinct.reordered (h : IsDistinct i rows seen) (hperm : seen' ~ seen) :
    IsDistinct i rows seen' where
  nodup := hperm.nodup_iff.2 h.nodup
  mem_iff v := hperm.mem_iff.trans (h.mem_iff v)
  isInteger v hv := h.isInteger v (hperm.mem_iff.1 hv)

/-- Different integers are different numbers. -/
theorem IsDistinct.nodup_numbers (h : IsDistinct i rows seen) :
    (seen.filterMap Value.whole?).Nodup := by
  refine List.pairwise_filterMap.2 (h.nodup.imp_of_mem fun {v w} hv hw hne x hx y hy heq => hne ?_)
  subst heq
  have hsame : v.isInteger = true ∧ w.isInteger = true := ⟨h.isInteger v hv, h.isInteger w hw⟩
  match v, w, hsame with
  | .integer m, .integer n, _ =>
    have hnumber : m.toInt = n.toInt := Option.some.inj (hx.trans hy.symm)
    rw [Int64.toInt_inj.1 hnumber]

theorem IsDistinct.toFinset_numbers (h : IsDistinct 0 (singleRows cells) seen) :
    (seen.filterMap Value.whole?).toFinset = distinctNumbers cells := by
  ext x
  simp only [distinctNumbers, List.mem_toFinset, List.mem_filterMap, h.mem_iff, singleRows,
    List.mem_map, exists_exists_and_eq_and]
  constructor
  · rintro ⟨v, ⟨w, hw, rfl, -⟩, hx⟩
    exact ⟨w, hw, hx⟩
  · rintro ⟨w, hw, hx⟩
    exact ⟨w, ⟨w, hw, rfl, Value.isNull_of_whole? hx⟩, hx⟩

/-- **As many integers are held as there are different numbers.** -/
theorem IsDistinct.length_eq_card (h : IsDistinct 0 (singleRows cells) seen) :
    seen.length = (distinctNumbers cells).card := by
  have hall : (seen.filterMap Value.whole?).length = seen.length :=
    List.filterMap_length_eq_length.2 fun v hv =>
      let ⟨_, hx, _⟩ := natAbs_le_of_isInteger (h.isInteger v hv)
      Option.isSome_iff_exists.2 ⟨_, hx⟩
  rw [← h.toFinset_numbers, List.toFinset_card_of_nodup h.nodup_numbers, hall]

theorem IsDistinct.sum_eq (h : IsDistinct 0 (singleRows cells) seen) :
    (seen.filterMap Value.whole?).sum = ∑ x ∈ distinctNumbers cells, x := by
  rw [← h.toFinset_numbers, List.sum_toFinset _ h.nodup_numbers, List.map_id']

end Held

namespace Accumulator

variable {cells seen order : List Value}

/-! ## Results

The three aggregates differ in what they make of the set.  A sum may have grown into a decimal
on its way although the total fits an integer, so its form is left open and only the number is
stated. -/

/-- **Cells taken in one by one**: a kind of accumulator that takes in one more integer or NULL
takes in all of them, and holds the different ones. -/
theorem accepts_singleRows {kind : List Value → Accumulator}
    (hkind : ∀ {row rows seen}, IsDistinct 0 rows seen → (cellAt row 0).IsIntegerOrNull →
      ∃ seen', (kind seen).feed [cellAt row 0] = (.ok (), kind seen') ∧
        IsDistinct 0 (row :: rows) seen')
    (hcells : ∀ v ∈ cells, v.IsIntegerOrNull) :
    (kind []).Accepts (singleRows cells) ∧
      ∃ seen, (kind []).after (singleRows cells) = kind seen ∧
        IsDistinct 0 (singleRows cells) seen := by
  refine accepts_of_step (P := fun rows held => ∃ seen, held = kind seen ∧ IsDistinct 0 rows seen)
    ⟨[], rfl, List.nodup_nil, by simp, by simp⟩ ?_
  rintro before row _ hfront ⟨seen, rfl, hseen⟩
  obtain ⟨v, hv, rfl⟩ := List.mem_map.1 (hfront.subset (List.mem_append_right _ (.head _)))
  have hcell : (cellAt [v] 0).IsIntegerOrNull := hcells v hv
  obtain ⟨seen', hfeed, hseen'⟩ := hkind hseen hcell
  exact ⟨_, hfeed, seen', rfl, hseen'.of_perm (List.perm_append_singleton [v] before).symm⟩

/-- The number of different integers. -/
theorem exists_result_distinctCount (h : IsDistinct 0 (singleRows cells) seen)
    (hfew : (distinctNumbers cells).card < 2 ^ 32) :
    ∃ n, (distinctCount seen).result = .ok (.integer n) ∧
      n.toInt = (distinctNumbers cells).card := by
  refine ⟨_, rfl, ?_⟩
  rw [h.length_eq_card]
  exact Int64.toInt_ofNat_of_lt (hfew.trans (by decide))

/-- The sum of the different integers. -/
theorem exists_result_distinctSum (h : IsDistinct 0 (singleRows cells) seen)
    (hfew : (distinctNumbers cells).card < 2 ^ 32) :
    ∃ v, (distinctSum seen).result = .ok v ∧
      if distinctNumbers cells = ∅ then v = .null
      else v.whole? = some (∑ x ∈ distinctNumbers cells, x) := by
  have hlength := h.length_eq_card
  refine ⟨_, rfl, ?_⟩
  split
  · rename_i hnone
    rw [hnone, Finset.card_empty, List.length_eq_zero_iff] at hlength
    rw [hlength]
    rfl
  · rename_i hsome
    have hne : seen ≠ [] := fun hnil => hsome (Finset.card_eq_zero.1 (by rw [← hlength, hnil]; rfl))
    rw [whole?_sumOf h.isInteger (hlength.trans_lt hfew) hne, h.sum_eq]

theorem exists_count_eq {n : Nat} (h : n < 2 ^ 96) :
    ∃ count, Decimal.ofNat? n = some count ∧ count.whole? = some ↑n := by
  have hfits : (n : Int).natAbs * 10 ^ 0 < 2 ^ 96 := by simpa using h
  obtain ⟨count, hcount, hwhole, -⟩ := Decimal.exists_make?_whole hfits (Nat.zero_le _)
  refine ⟨count, ?_, hwhole⟩
  rw [← hcount, Decimal.ofNat?, Nat.pow_zero, Nat.mul_one, Int.natAbs_natCast,
    decide_eq_false (Int.natCast_nonneg n).not_gt]

/-- The mean of the different integers, which is that of one row with their number and their sum. -/
theorem exists_result_distinctMean (h : IsDistinct 0 (singleRows cells) seen)
    (hfew : (distinctNumbers cells).card < 2 ^ 32) :
    ∃ count total : Decimal, count.whole? = some ↑(distinctNumbers cells).card ∧
      total.whole? = some (∑ x ∈ distinctNumbers cells, x) ∧
        ∀ order, order ~ seen →
          (distinctMean order).result = (mean (some count) (some total) false).result := by
  have hlength := h.length_eq_card
  have hshort : seen.length < 2 ^ 32 := hlength.trans_lt hfew
  obtain ⟨total, hmean, -, htotal⟩ := exists_meanOf_eq h.isInteger hshort
  obtain ⟨count, hcount, hwhole⟩ := exists_count_eq (hshort.trans (by decide))
  rw [hcount, Option.getD_some] at hmean
  refine ⟨count, total, by rw [hwhole, hlength], by rw [htotal, h.sum_eq], fun order horder => ?_⟩
  obtain ⟨v, hv, hv', -⟩ := meanOf_perm horder.symm h.isInteger hshort
  exact hv'.trans (hv.symm.trans hmean)

/-- **DISTINCT aggregates fold each number once.**  Cells that are NULL or integers are all taken
in, and the results are the size, the sum and the mean of the set of their numbers, whatever order
the held values are gone through. -/
theorem distinct_results (hcells : ∀ v ∈ cells, v.IsIntegerOrNull)
    (hfew : (distinctNumbers cells).card < 2 ^ 32) :
    ((fresh .count true).Accepts (singleRows cells) ∧
      ∃ seen, (fresh .count true).after (singleRows cells) = distinctCount seen ∧
        ∃ n, (distinctCount seen).result = .ok (.integer n) ∧
          n.toInt = (distinctNumbers cells).card) ∧
    ((fresh .sum true).Accepts (singleRows cells) ∧
      ∃ seen, (fresh .sum true).after (singleRows cells) = distinctSum seen ∧
        ∀ order, order ~ seen → ∃ v, (distinctSum order).result = .ok v ∧
          if distinctNumbers cells = ∅ then v = .null
          else v.whole? = some (∑ x ∈ distinctNumbers cells, x)) ∧
    ((fresh .avg true).Accepts (singleRows cells) ∧
      ∃ seen, (fresh .avg true).after (singleRows cells) = distinctMean seen ∧
        ∃ count total : Decimal, count.whole? = some ↑(distinctNumbers cells).card ∧
          total.whole? = some (∑ x ∈ distinctNumbers cells, x) ∧
            ∀ order, order ~ seen →
              (distinctMean order).result = (mean (some count) (some total) false).result ∧
                (distinctNumbers cells = ∅ → (distinctMean order).result = .ok .null)) := by
  refine ⟨?_, ?_, ?_⟩
  · obtain ⟨haccepts, seen, hafter, hseen⟩ := accepts_singleRows exists_feed_distinctCount hcells
    exact ⟨haccepts, seen, hafter, exists_result_distinctCount hseen hfew⟩
  · obtain ⟨haccepts, seen, hafter, hseen⟩ := accepts_singleRows exists_feed_distinctSum hcells
    exact ⟨haccepts, seen, hafter, fun order horder =>
      exists_result_distinctSum (hseen.reordered horder) hfew⟩
  · obtain ⟨haccepts, seen, hafter, hseen⟩ := accepts_singleRows
      (fun hseen hrow => exists_feed_distinctMean hseen hrow rfl) hcells
    obtain ⟨count, total, hcount, htotal, hresult⟩ := exists_result_distinctMean hseen hfew
    refine ⟨haccepts, seen, hafter, count, total, hcount, htotal, fun order horder =>
      ⟨hresult order horder, fun hnone => ?_⟩⟩
    rw [hnone, Finset.card_empty, Nat.cast_zero] at hcount
    exact (hresult order horder).trans
      (result_of_uncounted (Decimal.isZero_of_whole?_zero hcount))

/-- Of the cells 1, 2, 2 and NULL, in this order, two numbers are kept. -/
theorem distinct_results_repeated :
    (∀ v ∈ [Value.integer 1, .integer 2, .integer 2, .null], v.IsIntegerOrNull) ∧
      (distinctNumbers [.integer 1, .integer 2, .integer 2, .null]).card = 2 ∧
      ∃ seen, (fresh .sum true).after (singleRows [.integer 1, .integer 2, .integer 2, .null]) =
        distinctSum seen ∧ ∀ order, order ~ seen → ∃ v, (distinctSum order).result = .ok v ∧
          v.whole? = some 3 := by
  have hcells : ∀ v ∈ [Value.integer 1, .integer 2, .integer 2, .null], v.IsIntegerOrNull := by
    simp [Value.IsIntegerOrNull, Value.isInteger, Value.isNull]
  have hnumbers : distinctNumbers [.integer 1, .integer 2, .integer 2, .null] = {1, 2} := by decide
  have hcard : (distinctNumbers [.integer 1, .integer 2, .integer 2, .null]).card = 2 := by
    rw [hnumbers]
    rfl
  obtain ⟨-, ⟨-, seen, hafter, hsum⟩, -⟩ :=
    distinct_results hcells (by rw [hcard]; decide)
  refine ⟨hcells, hcard, seen, hafter, fun order horder => ?_⟩
  obtain ⟨v, hv, hwhole⟩ := hsum order horder
  rw [hnumbers] at hwhole
  exact ⟨v, hv, hwhole⟩

end Accumulator

end ScatterGather
