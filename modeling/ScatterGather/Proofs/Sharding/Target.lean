import Mathlib.Data.List.Induction
import ScatterGather.Proofs.Outcome
import ScatterGather.Proofs.Text.Numeral
import ScatterGather.Proofs.Value.Rank
import ScatterGather.Sharding.Algorithm

/-!
# Proofs/Sharding/Target — a range keeps the target of each of its values

An algorithm maps one value to a target and a range to targets.  `mem_rangeTargets`: where both
succeed, **the target of a value of the range is among the targets of the range**.  Only `modulo`
and `boundaries` narrow a range, and only one that integers bound; a value of such a range is a
number that stands to the bounds as the integer it is sharded by (`Tracks`).
-/

namespace ScatterGather

namespace Sharding

/-- First appearances are kept. -/
theorem distinct_eq_eraseDups {α : Type} [DecidableEq α] (items : List α) :
    distinct items = items.eraseDups := by
  induction items using List.reverseRecOn with
  | nil => rfl
  | append_singleton items a ih =>
    rw [distinct, List.foldl_append, ← distinct, ih, List.eraseDups_append]
    by_cases ha : a ∈ items <;> simp [ha, List.removeAll, List.eraseDups_cons]

/-- First appearances are of all items. -/
@[simp] theorem mem_distinct {α : Type} [DecidableEq α] {items : List α} {a : α} :
    a ∈ distinct items ↔ a ∈ items := by
  rw [distinct_eq_eraseDups, List.mem_eraseDups]

/-- No item appears twice among them. -/
theorem nodup_distinct {α : Type} [DecidableEq α] (items : List α) : (distinct items).Nodup := by
  have hfold : ∀ (items seen : List α), seen.Nodup →
      (items.foldl (fun seen b => if b ∈ seen then seen else seen ++ [b]) seen).Nodup := by
    intro items
    induction items with
    | nil => exact fun seen h => h
    | cons b items ih =>
      intro seen h
      rw [List.foldl_cons]
      refine ih _ ?_
      split
      · exact h
      · rename_i hb
        exact List.nodup_append.2 ⟨h, by simp, by grind⟩
  exact hfold items [] List.nodup_nil

/-- A target is found by its number alone; the value is for the error. -/
theorem targetWithSuffix_eq_ok {targets : List String} {suffix : Int} {v : Value} {t : String} :
    targetWithSuffix targets suffix v = .ok t ↔
      targets.find? (fun t => (suffixNumber? t).map Int64.toInt == some suffix) = some t := by
  rw [targetWithSuffix]
  split
  · rename_i found hfound
    rw [hfound, Except.ok.injEq, Option.some.injEq]
  · rename_i hnone
    simp [hnone]

/-- A target that is found is one of those given. -/
theorem mem_of_targetWithSuffix {targets : List String} {suffix : Int} {v : Value} {t : String}
    (h : targetWithSuffix targets suffix v = .ok t) : t ∈ targets :=
  List.mem_of_find?_eq_some (targetWithSuffix_eq_ok.1 h)

/-- The number at the end of the target found. -/
theorem suffixNumber?_of_targetWithSuffix {targets : List String} {suffix : Int} {v : Value}
    {t : String} (h : targetWithSuffix targets suffix v = .ok t) :
    ∃ s, suffixNumber? t = some s ∧ s.toInt = suffix := by
  have := List.find?_some (targetWithSuffix_eq_ok.1 h)
  simpa using this

/-! ## Targets of values

Whatever the algorithm computes, the target is looked up among those that it is given. -/

namespace Algorithm

/-- **An algorithm only picks from its targets.** -/
theorem mem_of_target {algorithm : Algorithm} {targets : List String} {column : String} {v : Value}
    {t : String} (h : algorithm.target targets column v = .ok t) : t ∈ targets := by
  cases algorithm with
  | modulo count =>
    obtain ⟨n, -, h⟩ := bind_eq_ok.1 h
    exact mem_of_targetWithSuffix h
  | hashModulo count => exact mem_of_targetWithSuffix h
  | inline template =>
    rw [target] at h
    split at h
    · simp at h
    · split at h
      · rename_i found hfound
        obtain rfl : found = t := by simpa using h
        exact List.mem_of_find?_eq_some hfound
      · simp at h
  | boundaries limits =>
    obtain ⟨n, -, h⟩ := bind_eq_ok.1 h
    exact mem_of_targetWithSuffix h

/-! ## Targets of ranges

A range that integers bound can only be narrowed rightly for a value that compares with integers as
the integer it is sharded by. -/

/-- The value stands to integers as `n` does, where it compares with them at all. -/
def Tracks (v : Value) (n : Int64) : Prop :=
  ∀ {b : Value} {m : Int64} {o : Ordering}, b.int? = some m → v.order? b = some o →
    o = compare n.toInt m.toInt

/-- Only numbers compare with integers. -/
theorem tracks_of_not_isNumeric {v : Value} {n : Int64} (h : v.isNumeric = false) :
    Tracks v n := by
  intro b m o hb ho
  cases v <;> cases b <;> simp_all [Value.int?, Value.order?, Value.text?, Value.isNumeric]

variable {range : ValueRange} {v : Value} {n : Int64}

/-- The bound at the lower end of a range with an integer there. -/
theorem le_of_admits_lower {b : Bound} {m : Int64} (hv : Tracks v n) (hm : b.value.int? = some m)
    (h : b.admits .gt v = true) : m.toInt + (if b.inclusive then 0 else 1) ≤ n.toInt := by
  rw [Bound.admits] at h
  split at h
  · rename_i ho
    have hcmp := hv hm ho
    have := Std.LawfulEqCmp.eq_of_compare hcmp.symm
    rw [if_pos h]
    omega
  · rename_i o hne ho
    obtain rfl : o = .gt := by simpa using h
    have := Int.compare_eq_gt.1 (hv hm ho).symm
    split <;> omega
  · simp at h

/-- The bound at the upper end of a range with an integer there. -/
theorem le_of_admits_upper {b : Bound} {m : Int64} (hv : Tracks v n) (hm : b.value.int? = some m)
    (h : b.admits .lt v = true) : n.toInt ≤ m.toInt - (if b.inclusive then 0 else 1) := by
  rw [Bound.admits] at h
  split at h
  · rename_i ho
    have := Std.LawfulEqCmp.eq_of_compare (hv hm ho).symm
    rw [if_pos h]
    omega
  · rename_i o hne ho
    obtain rfl : o = .lt := by simpa using h
    have := Int.compare_eq_lt.1 (hv hm ho).symm
    split <;> omega
  · simp at h

/-- **The integer bounds of a range hold for its values.** -/
theorem between_of_integerBounds? {low high : Int64} (hv : Tracks v n)
    (hr : range.contains v = true) (h : range.integerBounds? = some (low, high)) :
    low.toInt ≤ n.toInt ∧ n.toInt ≤ high.toInt := by
  simp only [ValueRange.integerBounds?, Option.bind_eq_some_iff, Option.map_eq_some_iff,
    Prod.mk.injEq] at h
  obtain ⟨lower, hlower, upper, hupper, a, ha, low', hlow, b, hb, high', hhigh, rfl, rfl⟩ := h
  rw [ValueRange.contains, hlower, hupper, Bool.and_eq_true] at hr
  have hle := le_of_admits_lower hv ha hr.1
  have hge := le_of_admits_upper hv hb hr.2
  rw [Text.toInt64?_eq_some_iff.1 hlow, Text.toInt64?_eq_some_iff.1 hhigh]
  exact ⟨hle, hge⟩

/-- Numbers between two ends are listed. -/
theorem mem_between {first last i : Int} (h₁ : first ≤ i) (h₂ : i ≤ last) :
    i ∈ Inline.between first last := by
  rw [Inline.between, List.mem_map]
  exact ⟨(i - first).toNat, List.mem_range.2 (by omega), by omega⟩

/-- `modulo` walks the integers of a range unless they take every remainder. -/
theorem mem_moduloTargets {count : Nat} {targets : List String} {low high : Int64} {t : String}
    {found : List String} (hlow : low.toInt ≤ n.toInt) (hhigh : n.toInt ≤ high.toInt)
    (ht : targetWithSuffix targets (n.toInt % count) v = .ok t)
    (h : moduloTargets count targets low high = .ok found) : t ∈ found := by
  rw [moduloTargets, if_neg (by omega)] at h
  split at h
  · obtain rfl : targets = found := by simpa using h
    exact mem_of_targetWithSuffix ht
  · obtain ⟨ts, hts, rfl⟩ := map_eq_ok.1 h
    obtain ⟨t', ht', hf⟩ := mem_of_mapM_eq_ok hts (mem_between hlow hhigh)
    have hsame : t' = t := Option.some.inj
      ((targetWithSuffix_eq_ok.1 hf).symm.trans (targetWithSuffix_eq_ok.1 ht))
    exact mem_distinct.2 (hsame ▸ ht')

/-! A part of `boundaries` ends where the next limit begins. -/

/-- The lower end of a range is at most its values. -/
theorem lowerEnd?_le {low : Int} (hv : Tracks v n) (hr : range.contains v = true)
    (h : lowerEnd? range.lower = some low) : low ≤ n.toInt := by
  rw [ValueRange.contains, Bool.and_eq_true] at hr
  cases hl : range.lower with
  | none =>
    obtain rfl : -2 ^ 63 = low := by simpa [hl, lowerEnd?] using h
    exact n.le_toInt
  | some b =>
    rw [hl, lowerEnd?, Option.map_eq_some_iff] at h
    obtain ⟨m, hm, rfl⟩ := h
    have hle := le_of_admits_lower hv hm (by simpa [hl] using hr.1)
    by_cases hinclusive : b.inclusive = true
    · rw [if_pos hinclusive] at hle ⊢
      omega
    · rw [if_neg hinclusive] at hle ⊢
      omega

/-- The upper end is at least its values. -/
theorem le_upperEnd? {high : Int} (hv : Tracks v n) (hr : range.contains v = true)
    (h : upperEnd? range.upper = some high) : n.toInt ≤ high := by
  rw [ValueRange.contains, Bool.and_eq_true] at hr
  cases hu : range.upper with
  | none =>
    obtain rfl : 2 ^ 63 - 1 = high := by simpa [hu, upperEnd?] using h
    exact Int.le_sub_one_of_lt n.toInt_lt
  | some b =>
    rw [hu, upperEnd?, Option.map_eq_some_iff] at h
    obtain ⟨m, hm, rfl⟩ := h
    have hle := le_of_admits_upper hv hm (by simpa [hu] using hr.2)
    by_cases hinclusive : b.inclusive = true
    · rw [if_pos hinclusive] at hle ⊢
      omega
    · rw [if_neg hinclusive] at hle ⊢
      omega

/-- The limits before the part of `n` are at most `n`. -/
theorem le_of_lt_partition {limits : List Int64} {n l : Int64} {k : Nat}
    (hk : k < partition limits n) (hl : limits[k]? = some l) : l.toInt ≤ n.toInt := by
  induction limits generalizing k with
  | nil => simp at hl
  | cons a limits ih =>
    rw [partition, List.takeWhile_cons] at hk
    split at hk
    · rename_i ha
      cases k with
      | zero =>
        obtain rfl : a = l := by simpa using hl
        simpa using ha
      | succ k => exact ih (by simpa [partition] using hk) (by simpa using hl)
    · simp at hk

/-- The limit that the part of `n` ends at is above `n`. -/
theorem lt_of_getElem?_partition {limits : List Int64} {n l : Int64}
    (hl : limits[partition limits n]? = some l) : n.toInt < l.toInt := by
  induction limits with
  | nil => simp at hl
  | cons a limits ih =>
    rw [partition, List.takeWhile_cons] at hl
    split at hl
    · exact ih (by simpa [partition] using hl)
    · rename_i ha
      obtain rfl : a = l := by simpa using hl
      simpa using ha

/-- One below an integer that is not the least. -/
theorem toInt_sub_one {l : Int64} (h : -2 ^ 63 < l.toInt) : (l - 1).toInt = l.toInt - 1 := by
  have hmax := l.toInt_lt
  rw [Int64.toInt_sub, Int64.toInt_one]
  exact Int.bmod_eq_of_le (by omega) (by omega)

/-- A value lies within the bounds of its part. -/
theorem partitionBounds_partition (limits : List Int64) (n : Int64) :
    (partitionBounds limits (partition limits n)).1 ≤ n.toInt ∧
      n.toInt ≤ (partitionBounds limits (partition limits n)).2 := by
  have hmin := n.le_toInt
  have hmax := n.toInt_lt
  constructor
  · rw [partitionBounds.eq_def]
    cases hp : partition limits n with
    | zero => exact hmin
    | succ k =>
      cases hl : limits[k]? with
      | none => simpa [hl] using hmin
      | some l => simpa [hl] using le_of_lt_partition (by omega) hl
  · rw [partitionBounds.eq_def]
    cases hl : limits[partition limits n]? with
    | none => simpa using Int.le_sub_one_of_lt hmax
    | some l =>
      have hlt := lt_of_getElem?_partition hl
      have hhigh : n.toInt ≤ (l - 1).toInt := by
        rw [toInt_sub_one (Int.lt_of_le_of_lt hmin hlt)]
        exact Int.le_sub_one_of_lt hlt
      simpa using hhigh

theorem partition_le_length (limits : List Int64) (n : Int64) :
    partition limits n ≤ limits.length :=
  (List.takeWhile_sublist _).length_le

/-- A part meets an interval that has one of its values. -/
theorem partMeets_of_partition {limits : List Int64} {low high : Int} {t : String} {s : Int64}
    (hlow : low ≤ n.toInt) (hhigh : n.toInt ≤ high) (hs : suffixNumber? t = some s)
    (hpart : s.toInt = (partition limits n : Nat)) : partMeets limits low high t = true := by
  have hle := partition_le_length limits n
  have hb := partitionBounds_partition limits n
  rw [partMeets, hs]
  simp only [hpart, Int.toNat_natCast]
  rw [if_neg (by omega)]
  simp only [Bool.and_eq_true, decide_eq_true_eq]
  omega

/-- **A range keeps the target of each of its values.** -/
theorem mem_rangeTargets {algorithm : Algorithm} {targets : List String} {column : String}
    {t : String} {found : List String} (hv : ∀ n, integerValue v = .ok n → Tracks v n)
    (hr : range.contains v = true) (ht : algorithm.target targets column v = .ok t)
    (h : algorithm.rangeTargets targets range = .ok found) : t ∈ found := by
  have hmem : t ∈ targets := mem_of_target ht
  cases algorithm with
  | hashModulo count => obtain rfl : targets = found := by simpa [rangeTargets] using h
                        exact hmem
  | inline template => obtain rfl : targets = found := by simpa [rangeTargets] using h
                       exact hmem
  | modulo count =>
    obtain ⟨n, hn, ht⟩ := bind_eq_ok.1 ht
    rw [rangeTargets] at h
    split at h
    · obtain rfl : targets = found := by simpa using h
      exact hmem
    · rename_i low high hbounds
      obtain ⟨hlow, hhigh⟩ := between_of_integerBounds? (hv n hn) hr hbounds
      exact mem_moduloTargets hlow hhigh ht h
  | boundaries limits =>
    obtain ⟨n, hn, ht⟩ := bind_eq_ok.1 ht
    rw [rangeTargets] at h
    split at h
    · rename_i low high hlow hhigh
      obtain rfl : targets.filter (partMeets limits low high) = found := by simpa using h
      obtain ⟨s, hs, hpart⟩ := suffixNumber?_of_targetWithSuffix ht
      exact List.mem_filter.2 ⟨hmem, partMeets_of_partition (lowerEnd?_le (hv n hn) hr hlow)
        (le_upperEnd? (hv n hn) hr hhigh) hs hpart⟩
    · obtain rfl : targets = found := by simpa using h
      exact hmem

/-- **An algorithm only keeps some of its targets for a range.** -/
theorem mem_of_rangeTargets {algorithm : Algorithm} {targets found : List String}
    {range : ValueRange} {t : String} (h : algorithm.rangeTargets targets range = .ok found)
    (ht : t ∈ found) : t ∈ targets := by
  cases algorithm with
  | modulo count =>
    rw [rangeTargets] at h
    split at h
    · obtain rfl := Except.ok.inj h
      exact ht
    · rw [moduloTargets] at h
      split at h
      · obtain rfl := Except.ok.inj h
        cases ht
      · split at h
        · obtain rfl := Except.ok.inj h
          exact ht
        · obtain ⟨picked, hpicked, rfl⟩ := map_eq_ok.1 h
          obtain ⟨v, -, hv⟩ := exists_of_mem_mapM hpicked (mem_distinct.1 ht)
          exact mem_of_targetWithSuffix hv
  | hashModulo _ | inline _ =>
    obtain rfl := Except.ok.inj h
    exact ht
  | boundaries limits =>
    rw [rangeTargets] at h
    split at h
    · obtain rfl := Except.ok.inj h
      exact (List.mem_filter.1 ht).1
    · obtain rfl := Except.ok.inj h
      exact ht

end Algorithm

end Sharding

end ScatterGather
