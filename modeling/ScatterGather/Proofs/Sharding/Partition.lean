import ScatterGather.Proofs.Sharding.Target
import ScatterGather.Proofs.Value.Range
import ScatterGather.Proofs.Value.WholeNumber

/-!
# Proofs/Sharding/Partition — parts between limits, and the parts a range needs

Ascending limits cut the 64-bit integers into consecutive parts, each from one limit up to the next
(`partition_eq_iff`).  A range that integers bound is an interval as well (`exists_ends`), and two
intervals meet exactly if each begins before the other ends.  So **the targets of a range are those
whose part holds a value of the range** (`rangeTargets_boundaries`).

This asks that the first limit is not the least integer.  With that limit the first part is empty,
yet its upper end wraps around, and every range would meet it (`partitionBounds_zero_minValue`).
-/

namespace ScatterGather

namespace Sharding

/-! ## Parts

The limits before a part are at most its integers, the ones after it are above them.  From there on
a part is known by its two ends. -/

section Parts

variable {limits : List Int64} {part : Nat} {n : Int64}

/-- Each limit is below all after it. -/
theorem pairwise_of_ascending (h : Algorithm.ascending limits = true) :
    limits.Pairwise fun a b => a.toInt < b.toInt := by
  induction limits with
  | nil => exact .nil
  | cons a rest ih =>
    cases rest with
    | nil => exact List.pairwise_singleton _ a
    | cons b rest =>
      rw [Algorithm.ascending, Bool.and_eq_true, decide_eq_true_eq] at h
      have hrest := ih h.2
      refine List.pairwise_cons.2 ⟨List.forall_mem_cons.2 ⟨h.1, fun c hc => ?_⟩, hrest⟩
      exact h.1.trans ((List.pairwise_cons.1 hrest).1 c hc)

/-- A later limit is greater. -/
theorem toInt_getElem_lt (h : limits.Pairwise fun a b => a.toInt < b.toInt) {i j : Nat}
    {a b : Int64} (ha : limits[i]? = some a) (hb : limits[j]? = some b) (hij : i < j) :
    a.toInt < b.toInt := by
  obtain ⟨hi, rfl⟩ := List.getElem?_eq_some_iff.1 ha
  obtain ⟨hj, rfl⟩ := List.getElem?_eq_some_iff.1 hb
  exact List.pairwise_iff_getElem.1 h i j hi hj hij

/-- No limit is the least integer if the first is not. -/
theorem lt_toInt_of_getElem? (h : limits.Pairwise fun a b => a.toInt < b.toInt)
    (hfirst : ∀ first ∈ limits.head?, -2 ^ 63 < first.toInt) {l : Int64}
    (hl : limits[part]? = some l) : -2 ^ 63 < l.toInt := by
  cases part with
  | zero => exact hfirst l (List.head?_eq_getElem? ▸ hl)
  | succ before =>
    have hzero := List.getElem?_eq_getElem (l := limits) (i := 0)
      (Nat.zero_lt_of_lt (List.getElem?_eq_some_iff.1 hl).1)
    exact (Int64.le_toInt _).trans_lt (toInt_getElem_lt h hzero hl (Nat.zero_lt_succ before))

/-! The first part begins at the least integer, the last one ends at the greatest, and any other
part ends right below a limit.  With the least integer as a limit nothing is left for the part below
it, whose end wraps around: the bounds of that part are those of all integers. -/

@[simp] theorem fst_partitionBounds_zero : (partitionBounds limits 0).1 = -2 ^ 63 := rfl

theorem fst_partitionBounds_succ {l : Int64} (hl : limits[part]? = some l) :
    (partitionBounds limits (part + 1)).1 = l.toInt := by
  simp [partitionBounds, hl]

theorem snd_partitionBounds {l : Int64} (hl : limits[part]? = some l) (hlt : -2 ^ 63 < l.toInt) :
    (partitionBounds limits part).2 = l.toInt - 1 := by
  simp only [partitionBounds, hl, Option.map_some, Option.getD_some, Algorithm.toInt_sub_one hlt]

@[simp] theorem snd_partitionBounds_length :
    (partitionBounds limits limits.length).2 = 2 ^ 63 - 1 := by
  simp [partitionBounds]

/-- Nothing lies below the least integer, and the bounds of that part are those of all integers. -/
theorem partitionBounds_zero_minValue (rest : List Int64) :
    partitionBounds (Int64.minValue :: rest) 0 = (-2 ^ 63, 2 ^ 63 - 1) := rfl

/-- **A part begins right after the one before it.** -/
theorem fst_partitionBounds_succ_eq (h : limits.Pairwise fun a b => a.toInt < b.toInt)
    (hfirst : ∀ first ∈ limits.head?, -2 ^ 63 < first.toInt) (hpart : part < limits.length) :
    (partitionBounds limits (part + 1)).1 = (partitionBounds limits part).2 + 1 := by
  have hl := List.getElem?_eq_getElem hpart
  rw [fst_partitionBounds_succ hl, snd_partitionBounds hl (lt_toInt_of_getElem? h hfirst hl),
    Int.sub_add_cancel]

/-- **An integer is in a part exactly if it lies between the bounds of the part.** -/
theorem partition_eq_iff (h : limits.Pairwise fun a b => a.toInt < b.toInt)
    (hfirst : ∀ first ∈ limits.head?, -2 ^ 63 < first.toInt) (hpart : part ≤ limits.length) :
    partition limits n = part ↔
      (partitionBounds limits part).1 ≤ n.toInt ∧ n.toInt ≤ (partitionBounds limits part).2 := by
  refine ⟨fun hn => hn ▸ Algorithm.partitionBounds_partition limits n, fun ⟨hlow, hhigh⟩ => ?_⟩
  obtain hlt | heq | hgt := Nat.lt_trichotomy (partition limits n) part
  · -- the limit that the part of `n` ends at is at most the one that `part` begins at
    obtain ⟨before, rfl⟩ : ∃ before, part = before + 1 := ⟨part - 1, by omega⟩
    have hbegin := List.getElem?_eq_getElem (l := limits) (i := before) (by omega)
    have hend := List.getElem?_eq_getElem (l := limits) (i := partition limits n) (by omega)
    have habove := Algorithm.lt_of_getElem?_partition hend
    rw [fst_partitionBounds_succ hbegin] at hlow
    obtain hlt | heq := Nat.lt_or_eq_of_le (Nat.le_of_lt_succ hlt)
    · have := toInt_getElem_lt h hend hbegin hlt
      omega
    · obtain rfl := heq
      omega
  · exact heq
  · have hend := List.getElem?_eq_getElem (l := limits) (i := part)
      (by have := Algorithm.partition_le_length limits n; omega)
    have hle := Algorithm.le_of_lt_partition hgt hend
    rw [snd_partitionBounds hend (lt_toInt_of_getElem? h hfirst hend)] at hhigh
    omega

/-- No part is empty if there is an integer below the first limit. -/
theorem fst_le_snd_partitionBounds (h : limits.Pairwise fun a b => a.toInt < b.toInt)
    (hfirst : ∀ first ∈ limits.head?, -2 ^ 63 < first.toInt) (hpart : part ≤ limits.length) :
    (partitionBounds limits part).1 ≤ (partitionBounds limits part).2 := by
  obtain rfl | hlt := Nat.eq_or_lt_of_le hpart
  · rw [snd_partitionBounds_length]
    cases hlength : limits.length with
    | zero =>
      rw [fst_partitionBounds_zero]
      decide
    | succ last =>
      have hl := List.getElem?_eq_getElem (l := limits) (i := last) (by omega)
      rw [fst_partitionBounds_succ hl]
      exact Int.le_sub_one_of_lt (Int64.toInt_lt _)
  · have hl := List.getElem?_eq_getElem hlt
    have habove := lt_toInt_of_getElem? h hfirst hl
    rw [snd_partitionBounds hl habove]
    cases part with
    | zero =>
      rw [fst_partitionBounds_zero]
      exact Int.le_sub_one_of_lt habove
    | succ before =>
      have hbefore := List.getElem?_eq_getElem (l := limits) (i := before) (by omega)
      rw [fst_partitionBounds_succ hbefore]
      exact Int.le_sub_one_of_lt (toInt_getElem_lt h hbefore hl (Nat.lt_succ_self before))

/-- The bounds of a part are 64-bit integers. -/
theorem partitionBounds_within (limits : List Int64) (part : Nat) :
    -2 ^ 63 ≤ (partitionBounds limits part).1 ∧ (partitionBounds limits part).2 ≤ 2 ^ 63 - 1 := by
  rw [partitionBounds.eq_def]
  constructor
  · cases part with
    | zero => exact Int.le_refl _
    | succ before =>
      cases hl : limits[before]? with
      | none => simp [hl]
      | some l => simpa [hl] using l.le_toInt
  · cases hl : limits[part]? with
    | none => simp
    | some l => simpa [hl] using Int.le_sub_one_of_lt (l - 1).toInt_lt

/-- **Parts come in ascending order.** -/
theorem snd_lt_fst_partitionBounds (h : limits.Pairwise fun a b => a.toInt < b.toInt)
    (hfirst : ∀ first ∈ limits.head?, -2 ^ 63 < first.toInt) {later : Nat}
    (hlater : later ≤ limits.length) (hlt : part < later) :
    (partitionBounds limits part).2 < (partitionBounds limits later).1 := by
  obtain ⟨before, rfl⟩ : ∃ before, later = before + 1 := ⟨later - 1, by omega⟩
  rw [fst_partitionBounds_succ_eq h hfirst (Nat.lt_of_succ_le hlater)]
  obtain hlt | rfl := Nat.lt_or_eq_of_le (Nat.le_of_lt_succ hlt)
  · have hend := List.getElem?_eq_getElem (l := limits) (i := part) (by omega)
    have hbefore := List.getElem?_eq_getElem (l := limits) (i := before) (by omega)
    have hlimits := toInt_getElem_lt h hend hbefore hlt
    rw [snd_partitionBounds hend (lt_toInt_of_getElem? h hfirst hend),
      snd_partitionBounds hbefore (lt_toInt_of_getElem? h hfirst hbefore)]
    omega
  · exact Int.lt_add_one_of_le (Int.le_refl _)

end Parts

/-! ## Ranges

An end of a range at an integer may belong to the range or not, and is moved by one if it does not.
Where that would leave 64 bits the end stays, so a range is an interval only if it holds an integer
at all. -/

section Ranges

variable {limits : List Int64} {range : ValueRange} {low high : Int}

/-- An integer bound lets in the integers on its side, and its own if it is included. -/
theorem admits_integer_iff {b : Bound} {m : Int64} (hm : b.value.int? = some m) (side : Ordering)
    (hside : side ≠ .eq) (n : Int64) : b.admits side (.integer n) = true ↔
      compare n.toInt m.toInt = side ∨ n.toInt = m.toInt ∧ b.inclusive = true := by
  have horder : (Value.integer n).order? b.value = some (compare n.toInt m.toInt) :=
    Value.order?_of_whole? rfl (Value.whole?_of_int? hm)
  rw [Bound.admits, horder, ← Int.compare_eq_eq]
  cases compare n.toInt m.toInt <;> simp [hside.symm]

/-- **The lower end of a range that holds an integer** is the least integer that its bound lets
in. -/
theorem exists_lowerEnd?_eq {lower : Option Bound} (hint : ∀ b ∈ lower, b.value.int?.isSome)
    {inside : Int64} (hinside : ∀ b ∈ lower, b.admits .gt (.integer inside) = true) :
    ∃ low, lowerEnd? lower = some low ∧
      ∀ n : Int64, (∀ b ∈ lower, b.admits .gt (.integer n) = true) ↔ low ≤ n.toInt := by
  cases lower with
  | none => exact ⟨_, rfl, fun n => ⟨fun _ => n.le_toInt, fun _ => nofun⟩⟩
  | some b =>
    obtain ⟨m, hm⟩ := Option.isSome_iff_exists.1 (hint b rfl)
    have hadmits := admits_integer_iff hm .gt (by decide)
    simp only [Int.compare_eq_gt] at hadmits
    have habove := (hadmits inside).1 (hinside b rfl)
    have hmax := inside.toInt_lt
    refine ⟨_, by rw [lowerEnd?, hm]; rfl, fun n => ?_⟩
    simp only [Option.mem_some_iff, forall_eq', hadmits]
    cases hb : b.inclusive <;> simp [hb] at habove ⊢ <;> omega

/-- The upper end of a range that holds an integer is the greatest integer that its bound lets
in. -/
theorem exists_upperEnd?_eq {upper : Option Bound} (hint : ∀ b ∈ upper, b.value.int?.isSome)
    {inside : Int64} (hinside : ∀ b ∈ upper, b.admits .lt (.integer inside) = true) :
    ∃ high, upperEnd? upper = some high ∧
      ∀ n : Int64, (∀ b ∈ upper, b.admits .lt (.integer n) = true) ↔ n.toInt ≤ high := by
  cases upper with
  | none => exact ⟨_, rfl, fun n => ⟨fun _ => Int.le_sub_one_of_lt n.toInt_lt, fun _ => nofun⟩⟩
  | some b =>
    obtain ⟨m, hm⟩ := Option.isSome_iff_exists.1 (hint b rfl)
    have hadmits := admits_integer_iff hm .lt (by decide)
    simp only [Int.compare_eq_lt] at hadmits
    have hbelow := (hadmits inside).1 (hinside b rfl)
    have hmin := inside.le_toInt
    refine ⟨_, by rw [upperEnd?, hm]; rfl, fun n => ?_⟩
    simp only [Option.mem_some_iff, forall_eq', hadmits]
    cases hb : b.inclusive <;> simp [hb] at hbelow ⊢ <;> omega

/-- **A range that holds an integer and that integers bound is an interval.** -/
theorem exists_ends (hlower : ∀ b ∈ range.lower, b.value.int?.isSome)
    (hupper : ∀ b ∈ range.upper, b.value.int?.isSome) {inside : Int64}
    (hinside : range.contains (.integer inside) = true) :
    ∃ low high, lowerEnd? range.lower = some low ∧ upperEnd? range.upper = some high ∧
      ∀ n : Int64, range.contains (.integer n) = true ↔ low ≤ n.toInt ∧ n.toInt ≤ high := by
  rw [ValueRange.contains_iff] at hinside
  obtain ⟨low, hlow, habove⟩ := exists_lowerEnd?_eq hlower hinside.1
  obtain ⟨high, hhigh, hbelow⟩ := exists_upperEnd?_eq hupper hinside.2
  refine ⟨low, high, hlow, hhigh, fun n => ?_⟩
  rw [ValueRange.contains_iff, habove, hbelow]

namespace Algorithm

/-- A target is kept if the part of its number begins and ends as the interval asks. -/
theorem partMeets_iff {t : String} : partMeets limits low high t = true ↔
    ∃ p : Int64, suffixNumber? t = some p ∧ 0 ≤ p.toInt ∧ p.toInt ≤ limits.length ∧
      low ≤ (partitionBounds limits p.toInt.toNat).2 ∧
        (partitionBounds limits p.toInt.toNat).1 ≤ high := by
  rw [partMeets]
  cases suffixNumber? t with
  | none => simp
  | some p =>
    simp only [Option.some.injEq, exists_eq_left']
    split
    · rw [iff_false_left Bool.false_ne_true]
      omega
    · rw [Bool.and_eq_true, decide_eq_true_eq, decide_eq_true_eq]
      omega

/-- **A part meets an interval exactly if it holds an integer of the interval**, neither being
empty. -/
theorem partMeets_iff_exists (h : limits.Pairwise fun a b => a.toInt < b.toInt)
    (hfirst : ∀ first ∈ limits.head?, -2 ^ 63 < first.toInt) (hle : low ≤ high) {t : String} :
    partMeets limits low high t = true ↔
      ∃ p : Int64, suffixNumber? t = some p ∧ p.toInt ≤ limits.length ∧
        ∃ n : Int64, (low ≤ n.toInt ∧ n.toInt ≤ high) ∧ (partition limits n : Int) = p.toInt := by
  rw [partMeets_iff]
  refine exists_congr fun p => and_congr_right fun _ => ⟨?_, ?_⟩
  · rintro ⟨hzero, hlength, hlow, hhigh⟩
    have hpart : p.toInt.toNat ≤ limits.length := by omega
    have hbounds := fst_le_snd_partitionBounds h hfirst hpart
    have hwithin := partitionBounds_within limits p.toInt.toNat
    -- the greater of the two lower ends lies in both intervals
    have hn : (Int64.ofInt (max low (partitionBounds limits p.toInt.toNat).1)).toInt =
        max low (partitionBounds limits p.toInt.toNat).1 :=
      Int64.toInt_ofInt_of_le (by omega) (by omega)
    refine ⟨hlength, _, by rw [hn]; omega, ?_⟩
    rw [(partition_eq_iff h hfirst hpart).2 (by rw [hn]; omega)]
    omega
  · rintro ⟨hlength, n, hn, hpart⟩
    have hbounds := partitionBounds_partition limits n
    rw [← hpart, Int.toNat_natCast]
    omega

end Algorithm

end Ranges

/-- An accepted list of limits is ascending. -/
theorem Algorithm.pairwise_of_limits {props : Properties} {limits : List Int64}
    (h : Algorithm.limits props = .ok limits) : limits.Pairwise fun a b => a.toInt < b.toInt := by
  obtain ⟨raw, -, h⟩ := bind_eq_ok.1 h
  obtain ⟨found, -, h⟩ := bind_eq_ok.1 h
  split at h
  · rename_i hascending
    obtain rfl := Except.ok.inj h
    exact pairwise_of_ascending hascending
  · cases h

/-- **The targets of a range are those whose part holds a value of the range.**  The limits cut the
64-bit integers into consecutive parts, each integer in exactly one of them. -/
theorem rangeTargets_boundaries {props : Properties} {limits : List Int64}
    (hlimits : Algorithm.limits props = .ok limits)
    (hfirst : ∀ first ∈ limits.head?, -2 ^ 63 < first.toInt) :
    (∀ (targets : List String) (range : ValueRange), (∀ b ∈ range.lower, b.value.int?.isSome) →
      (∀ b ∈ range.upper, b.value.int?.isSome) →
      (∃ n : Int64, range.contains (.integer n) = true) →
      ∃ found, (Algorithm.boundaries limits).rangeTargets targets range = .ok found ∧
        ∀ t, t ∈ found ↔ t ∈ targets ∧ ∃ p : Int64, suffixNumber? t = some p ∧
          p.toInt ≤ limits.length ∧ ∃ n : Int64, range.contains (.integer n) = true ∧
            (partition limits n : Int) = p.toInt) ∧
    (∀ n : Int64, partition limits n ≤ limits.length ∧ ∀ part ≤ limits.length,
      partition limits n = part ↔ (partitionBounds limits part).1 ≤ n.toInt ∧
        n.toInt ≤ (partitionBounds limits part).2) ∧
    (∀ part ≤ limits.length, ∃ n : Int64, partition limits n = part) ∧
    ∀ part later, part < later → later ≤ limits.length →
      (partitionBounds limits part).2 < (partitionBounds limits later).1 := by
  have hsorted := Algorithm.pairwise_of_limits hlimits
  refine ⟨fun targets range hlower hupper ⟨inside, hinside⟩ => ?_, fun n => ⟨?_, ?_⟩, ?_, ?_⟩
  · obtain ⟨low, high, hlow, hhigh, hcontains⟩ := exists_ends hlower hupper hinside
    have hle : low ≤ high := ((hcontains inside).1 hinside).1.trans ((hcontains inside).1 hinside).2
    refine ⟨_, by rw [Algorithm.rangeTargets, hlow, hhigh], fun t => ?_⟩
    rw [List.mem_filter, Algorithm.partMeets_iff_exists hsorted hfirst hle]
    simp only [hcontains]
  · exact Algorithm.partition_le_length limits n
  · exact fun part hpart => partition_eq_iff hsorted hfirst hpart
  · intro part hpart
    have hbounds := fst_le_snd_partitionBounds hsorted hfirst hpart
    have hwithin := partitionBounds_within limits part
    -- The lower end of a part is in it.
    have hn : (Int64.ofInt (partitionBounds limits part).1).toInt =
        (partitionBounds limits part).1 := Int64.toInt_ofInt_of_le hwithin.1 (by omega)
    refine ⟨.ofInt (partitionBounds limits part).1, (partition_eq_iff hsorted hfirst hpart).2 ?_⟩
    rw [hn]
    exact ⟨Int.le_refl _, hbounds⟩
  · exact fun part later hlt hlater => snd_lt_fst_partitionBounds hsorted hfirst hlater hlt

/-- From above 9 to below 20, with the limits 10 and 20, only the part between them is needed. -/
theorem rangeTargets_boundaries_tenToTwenty :
    Algorithm.limits [("sharding-ranges", "10, 20")] = .ok [10, 20] ∧
    ValueRange.contains ⟨some ⟨.smallInt 9, false⟩, some ⟨.integer 20, false⟩⟩ (.integer 10)
      = true ∧
    ∃ found, (Algorithm.boundaries [10, 20]).rangeTargets ["t_2", "t_01", "t_0", "t_1", "t_7"]
        ⟨some ⟨.smallInt 9, false⟩, some ⟨.integer 20, false⟩⟩ = .ok found ∧
      found = ["t_01", "t_1"] ∧
      ∀ t, t ∈ found ↔ t ∈ ["t_2", "t_01", "t_0", "t_1", "t_7"] ∧
        ∃ p : Int64, suffixNumber? t = some p ∧ p.toInt ≤ 2 ∧ ∃ n : Int64,
          ValueRange.contains ⟨some ⟨.smallInt 9, false⟩, some ⟨.integer 20, false⟩⟩ (.integer n) =
              true ∧ (partition [10, 20] n : Int) = p.toInt := by
  have hlimits : Algorithm.limits [("sharding-ranges", "10, 20")] = .ok [10, 20] := by rfl
  have hinside : ValueRange.contains ⟨some ⟨.smallInt 9, false⟩, some ⟨.integer 20, false⟩⟩
      (.integer 10) = true := by rfl
  have hfirst : ∀ first ∈ [(10 : Int64), 20].head?, -2 ^ 63 < first.toInt := by
    rintro first ⟨⟩
    have hten : (10 : Int64).toInt = 10 := by rfl
    omega
  obtain ⟨found, hfound, hmem⟩ := (rangeTargets_boundaries hlimits hfirst).1
    ["t_2", "t_01", "t_0", "t_1", "t_7"] ⟨some ⟨.smallInt 9, false⟩, some ⟨.integer 20, false⟩⟩
    (by decide) (by decide) ⟨10, hinside⟩
  refine ⟨hlimits, hinside, found, hfound, ?_, hmem⟩
  exact Except.ok.inj (hfound.symm.trans (by rfl))

end Sharding

end ScatterGather
