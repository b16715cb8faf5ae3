import ScatterGather.Proofs.Sharding.Spelling
import ScatterGather.Proofs.Sharding.Target

/-!
# Proofs/Sharding/RangeTargets — the targets of a range and of its values

`rangeTargets_covers`: **the targets of a range hold the target of each of its values**, doubles
aside, and nothing but targets.  A value that is read as an integer compares with integers as that
integer, whatever its type (`tracks_of_integerValue`): a decimal is only read if it has no places.
Where the integers of a range are fewer than the shards, `modulo` finds their targets and no others.
-/

namespace ScatterGather

namespace Sharding

namespace Algorithm

variable {v : Value} {n : Int64}

/-- A number that is read as an integer is that integer. -/
theorem whole?_of_integerValue (hv : v.isReal = false) (hnumeric : v.isNumeric = true)
    (h : integerValue v = .ok n) : v.whole? = some n.toInt := by
  cases v with
  | smallInt m | integer m =>
    obtain rfl := Except.ok.inj h
    exact Value.whole?_of_int? rfl
  | numeric d =>
    have hread : (integerValue (.numeric d)).toOption = some n := by rw [h]; rfl
    rw [Value.integerValue_of_decimal? rfl rfl] at hread
    split at hread
    · rename_i hplaces
      have hscale : d.scale = 0 := hplaces
      rw [Value.whole?, Decimal.whole?_eq_some, Text.toInt64?_eq_some_iff.1 hread, hscale, pow_zero,
        mul_one]
    · cases hread
  | real x => exact nomatch hv
  | _ => exact nomatch hnumeric

/-- **A value compares with integers as the integer it is read as**, if at all. -/
theorem tracks_of_integerValue (hv : v.isReal = false) (h : integerValue v = .ok n) :
    Tracks v n := by
  cases hnumeric : v.isNumeric with
  | false => exact tracks_of_not_isNumeric hnumeric
  | true =>
    intro b m o hb ho
    have hwhole := whole?_of_integerValue hv hnumeric h
    exact Option.some.inj (ho.symm.trans (Value.order?_of_whole? hwhole (Value.whole?_of_int? hb)))

theorem between_of_mem {first last i : Int} (h : i ∈ Inline.between first last) :
    first ≤ i ∧ i ≤ last := by
  rw [Inline.between, List.mem_map] at h
  obtain ⟨k, hk, rfl⟩ := h
  rw [List.mem_range] at hk
  omega

variable {count : Nat} {targets found : List String} {low high : Int64}

/-- **`modulo` finds the targets of the integers of a range**, each once, where they are fewer than
the shards. -/
theorem mem_moduloTargets_iff (hfew : high.toInt - low.toInt < count) (column : String)
    (h : moduloTargets count targets low high = .ok found) :
    found.Nodup ∧ ∀ t, t ∈ found ↔ ∃ i : Int64, low.toInt ≤ i.toInt ∧ i.toInt ≤ high.toInt ∧
      (modulo count).target targets column (.integer i) = .ok t := by
  rw [moduloTargets] at h
  split at h
  · rename_i hempty
    obtain rfl := Except.ok.inj h
    refine ⟨List.nodup_nil, fun t => iff_of_false List.not_mem_nil ?_⟩
    rintro ⟨i, hlow, hhigh, -⟩
    omega
  · rw [if_neg (by omega)] at h
    obtain ⟨ts, hts, rfl⟩ := map_eq_ok.1 h
    refine ⟨nodup_distinct ts, fun t => ?_⟩
    rw [mem_distinct]
    constructor
    · intro ht
      obtain ⟨i, hi, htarget⟩ := exists_of_mem_mapM hts ht
      obtain ⟨hlow, hhigh⟩ := between_of_mem hi
      have hmin := low.le_toInt
      have hmax := high.toInt_lt
      have hint : (Int64.ofInt i).toInt = i := Int64.toInt_ofInt_of_le (by omega) (by omega)
      exact ⟨Int64.ofInt i, by omega, by omega, bind_eq_ok.2 ⟨_, rfl, by rw [hint]; exact htarget⟩⟩
    · rintro ⟨i, hlow, hhigh, htarget⟩
      obtain ⟨n, hn, htarget⟩ := bind_eq_ok.1 htarget
      obtain rfl := Except.ok.inj hn
      obtain ⟨t', ht', hstep⟩ := mem_of_mapM_eq_ok hts (mem_between hlow hhigh)
      obtain rfl := Option.some.inj
        ((targetWithSuffix_eq_ok.1 htarget).symm.trans (targetWithSuffix_eq_ok.1 hstep))
      exact ht'

end Algorithm

/-- **The targets of a range hold the targets of its values**, and nothing but targets; where the
integers of the range are fewer than the shards, `modulo` finds exactly their targets. -/
theorem rangeTargets_covers {algorithm : Algorithm} {targets found : List String}
    {range : ValueRange} (column : String)
    (h : algorithm.rangeTargets targets range = .ok found) :
    (∀ t ∈ found, t ∈ targets) ∧
    (∀ (v : Value) (t : String), v.isReal = false → range.contains v = true →
      algorithm.target targets column v = .ok t → t ∈ found) ∧
    ∀ (count : Nat) (low high : Int64), algorithm = .modulo count →
      range.integerBounds? = some (low, high) → high.toInt - low.toInt < count →
      found.Nodup ∧ ∀ t, t ∈ found ↔ ∃ i : Int64, low.toInt ≤ i.toInt ∧ i.toInt ≤ high.toInt ∧
        algorithm.target targets column (.integer i) = .ok t := by
  refine ⟨fun t ht => Algorithm.mem_of_rangeTargets h ht, fun v t hv hr ht => ?_, ?_⟩
  · exact Algorithm.mem_rangeTargets (fun n => Algorithm.tracks_of_integerValue hv) hr ht h
  · rintro count low high rfl hbounds hfew
    rw [Algorithm.rangeTargets, hbounds] at h
    exact Algorithm.mem_moduloTargets_iff hfew column h

/-- The three greatest integers, over four shards. -/
theorem rangeTargets_covers_greatest : ∃ found,
    (Algorithm.modulo 4).rangeTargets ["t_0", "t_1", "t_2", "t_3"]
      ⟨some ⟨.integer 9223372036854775804, false⟩, some ⟨.integer 9223372036854775807, true⟩⟩ =
        .ok found ∧
    found = ["t_1", "t_2", "t_3"] ∧ "t_3" ∈ found ∧ found.Nodup ∧
      ∀ t, t ∈ found ↔ ∃ i : Int64, 9223372036854775805 ≤ i.toInt ∧
        i.toInt ≤ 9223372036854775807 ∧
        (Algorithm.modulo 4).target ["t_0", "t_1", "t_2", "t_3"] "user_id" (.integer i)
          = .ok t := by
  obtain ⟨found, hfound, heq⟩ : ∃ found,
      (Algorithm.modulo 4).rangeTargets ["t_0", "t_1", "t_2", "t_3"]
        ⟨some ⟨.integer 9223372036854775804, false⟩, some ⟨.integer 9223372036854775807, true⟩⟩ =
          .ok found ∧ found = ["t_1", "t_2", "t_3"] := ⟨_, rfl, rfl⟩
  obtain ⟨-, hcovers, hexact⟩ := rangeTargets_covers "user_id" hfound
  refine ⟨found, hfound, heq, ?_, hexact 4 _ _ rfl rfl (by decide)⟩
  exact hcovers (.integer 9223372036854775807) "t_3" rfl rfl rfl

end Sharding

end ScatterGather
