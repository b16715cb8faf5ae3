import ScatterGather.Proofs.Merge.SortKey
import ScatterGather.Proofs.Value.HashKey

/-!
# Proofs/Merge/HashedKeys — group keys in a hash table

A hash table finds the group of a row by its group key.  Among rows with **hashable keys**
(`HashableRows`), where no cell of a key's column is NaN and no column has both zeros, it takes two
group keys for one exactly if they are equal, and then the rows have one identity
(`HashableRows.sameKeys_iff`, `HashableRows.equalsAll_iff`).  Rows without doubles are such rows.
-/

namespace ScatterGather

namespace Value

@[simp] theorem isNaN_foldCase (v : Value) : v.foldCase.isNaN = v.isNaN := by
  cases v <;> rfl

@[simp] theorem areZeros_foldCase (a b : Value) :
    a.foldCase.areZeros b.foldCase = a.areZeros b := by
  cases a <;> cases b <;> rfl

end Value

/-- Values stay hashable as a key sees them. -/
theorem SortKey.areHashable_map_folded {values : List Value} (k : SortKey)
    (h : Value.AreHashable values) : Value.AreHashable (values.map k.folded) := by
  constructor
  · refine List.forall_mem_map.2 fun v hv => ?_
    rw [folded]
    split
    · exact h.nan v hv
    · exact v.isNaN_foldCase.trans (h.nan v hv)
  · refine List.forall_mem_map.2 fun v hv => List.forall_mem_map.2 fun w hw => ?_
    rw [folded, folded]
    split
    · exact h.zeros v hv w hw
    · exact (v.areZeros_foldCase w).trans (h.zeros v hv w hw)

/-! ## Rows

Lower case is a matter of the key, and a hash table sees cells as the key does.  So values that are
hashable as they are have to stay so in lower case. -/

/-- The cells in the column of each key are hashable. -/
def HashableRows (keys : List SortKey) (rows : List Row) : Prop :=
  ∀ k ∈ keys, Value.AreHashable (rows.map (cellAt · k.index))

namespace HashableRows

variable {keys : List SortKey} {rows rows' : List Row} {a b : Row}

/-- Fewer rows have hashable keys as well. -/
theorem of_subset (h : HashableRows keys rows) (hsub : rows' ⊆ rows) : HashableRows keys rows' :=
  fun k hk => (h k hk).of_subset (List.map_subset _ hsub)

/-- Without doubles there is neither NaN nor a zero of either sign. -/
theorem of_hasNoDoubles (h : ∀ row ∈ rows, Row.HasNoDoubles keys row) : HashableRows keys rows :=
  fun k hk => Value.areHashable_of_isReal (List.forall_mem_map.2 fun row hrow => h row hrow k hk)

/-- The cells of a column are hashable as its key sees them. -/
theorem areHashable_folded (h : HashableRows keys rows) {k : SortKey} (hk : k ∈ keys) :
    Value.AreHashable ((rows.map (cellAt · k.index)).map k.folded) :=
  k.areHashable_map_folded (h k hk)

/-- **A hash table takes group keys for one if they have one identity.** -/
theorem sameKeys_iff (h : HashableRows keys rows) (hb : b ∈ rows) :
    Value.sameKeys (groupKey keys a) (groupKey keys b) = true ↔
      groupId keys a = groupId keys b := by
  rw [sameKeys_groupKey, groupId_eq_iff]
  exact forall₂_congr fun k hk => Value.sameKey_iff_of_isNaN
    ((h.areHashable_folded hk).nan _ (List.mem_map_of_mem (List.mem_map_of_mem hb)))

/-- **Group keys are equal if they have one identity.** -/
theorem equalsAll_iff (h : HashableRows keys rows) (ha : a ∈ rows) (hb : b ∈ rows) :
    Value.equalsAll (groupKey keys a) (groupKey keys b) = true ↔
      groupId keys a = groupId keys b := by
  rw [equalsAll_groupKey, groupId_eq_iff]
  exact forall₂_congr fun k hk => (h.areHashable_folded hk).equals_iff
    (List.mem_map_of_mem (List.mem_map_of_mem ha)) (List.mem_map_of_mem (List.mem_map_of_mem hb))

end HashableRows

end ScatterGather
