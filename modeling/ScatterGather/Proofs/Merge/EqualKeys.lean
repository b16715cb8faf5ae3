import ScatterGather.Proofs.Merge.GroupAll
import ScatterGather.Proofs.Merge.Rejection

/-!
# Proofs/Merge/EqualKeys — hash tables hold equal keys once

Two kinds of hash table stand behind a merge: the values that a DISTINCT aggregate has taken in, and
the groups of GROUP BY by their keys.  Where what they hold is hashable, **equality** decides what
is in them.  The values of an aggregate are different and every value it took equals one of them
(`Accumulator.areDistinctOf_after`); the keys of groups are different, and each group has folded the
rows whose keys equal its own (`AreGroupsOf.areGroupsByEquality`).

Doubles alone may fail to be hashable, and only as NaN or as both zeros
(`hash_tables_hold_equal_keys_once`).
-/

namespace ScatterGather

/-! ## Values of DISTINCT aggregates

The set only grows: a value that equals none of those held is added, and one that equals some is
not. -/

/-- Values told apart by equality: they are among these, no two are equal, and each of these equals
one of them. -/
structure AreDistinctOf (values seen : List Value) : Prop where
  subset : seen ⊆ values
  apart : seen.Pairwise fun v w => v.equals w = false
  found : ∀ v ∈ values, ∃ w ∈ seen, w.equals v = true

namespace Accumulator

variable {f : Aggregate} {values seen inputs : List Value} {rows : List (List Value)} {v : Value}

/-- What a row of inputs adds to a DISTINCT aggregate, unless it is passed over or rejected. -/
def heldInput? : Aggregate → List Value → Option Value
  | .sum, inputs => (firstInput? inputs).filter fun v => v.decimal?.isSome
  | .avg, inputs => (lastInput? inputs).filter fun v => v.decimal?.isSome
  | _, inputs => firstInput? inputs

/-- A DISTINCT aggregate that holds these values; MIN and MAX hold none. -/
def holding : Aggregate → List Value → Accumulator
  | .count, seen => distinctCount seen
  | .sum, seen => distinctSum seen
  | .avg, seen => distinctMean seen
  | f, _ => fresh f true

/-- A row adds its input to the values held, if it has one. -/
theorem feed_holding (hmax : f ≠ .max) (hmin : f ≠ .min) (seen inputs : List Value) :
    ((holding f seen).feed inputs).2 =
      holding f ((heldInput? f inputs).elim seen fun v => addNew v seen) := by
  cases f
  case max => exact absurd rfl hmax
  case min => exact absurd rfl hmin
  case count =>
    simp only [holding, feed, heldInput?]
    cases firstInput? inputs <;> rfl
  case sum =>
    simp only [holding, feed, heldInput?]
    cases firstInput? inputs with
    | none => rfl
    | some v => cases hd : v.decimal? <;> simp [number, hd, Option.filter]
  case avg =>
    simp only [holding, feed, heldInput?]
    cases lastInput? inputs with
    | none => rfl
    | some v => cases hd : v.decimal? <;> simp [number, hd, Option.filter]

/-- **One more value** keeps the values told apart. -/
theorem areDistinctOf_addNew (h : AreDistinctOf values seen)
    (hvalues : Value.AreHashable (values ++ [v])) :
    AreDistinctOf (values ++ [v]) (addNew v seen) := by
  have hlast : v ∈ values ++ [v] := List.mem_append_right _ (List.mem_singleton_self v)
  have hequal : ∀ w ∈ seen, w.equals v = true ↔ w.key = v.key := fun w hw =>
    hvalues.equals_iff (List.mem_append_left _ (h.subset hw)) hlast
  rw [addNew_eq_of_isNaN (hvalues.nan v hlast)]
  split
  · rename_i hmem
    obtain ⟨w, hw, hkey⟩ := List.mem_map.1 hmem
    exact ⟨fun u hu => List.mem_append_left _ (h.subset hu), h.apart, List.forall_mem_append.2
      ⟨h.found, List.forall_mem_singleton.2 ⟨w, hw, (hequal w hw).2 hkey⟩⟩⟩
  · rename_i hnone
    have hnew : ∀ w ∈ seen, w.equals v = false := fun w hw =>
      Bool.eq_false_iff.2 fun h => hnone (List.mem_map.2 ⟨w, hw, (hequal w hw).1 h⟩)
    have hself : v.equals v = true := Value.equals_self_iff.2 (hvalues.nan v hlast)
    refine ⟨List.append_subset.2 ⟨fun u hu => List.mem_append_left _ (h.subset hu),
      List.subset_append_right _ _⟩, ?_, List.forall_mem_append.2 ⟨fun u hu => ?_, ?_⟩⟩
    · exact List.pairwise_append.2 ⟨h.apart, List.pairwise_singleton _ _, fun w hw u hu =>
        List.mem_singleton.1 hu ▸ hnew w hw⟩
    · obtain ⟨w, hw, hwu⟩ := h.found u hu
      exact ⟨w, List.mem_append_left _ hw, hwu⟩
    · exact List.forall_mem_singleton.2 ⟨v, List.mem_append_right _ (by simp), hself⟩

/-- **The values of a DISTINCT aggregate** are those it took, told apart by equality. -/
theorem areDistinctOf_after (hmax : f ≠ .max) (hmin : f ≠ .min)
    (hvalues : Value.AreHashable (rows.filterMap (heldInput? f))) :
    ∃ seen, (fresh f true).after rows = holding f seen ∧
      AreDistinctOf (rows.filterMap (heldInput? f)) seen := by
  induction rows using List.reverseRecOn with
  | nil => exact ⟨[], by cases f <;> rfl, List.Subset.refl _, .nil, by simp⟩
  | append_singleton rows inputs ih =>
    rw [List.filterMap_append] at hvalues ⊢
    obtain ⟨seen, hafter, hseen⟩ := ih (hvalues.of_subset (List.subset_append_left _ _))
    refine ⟨_, by rw [after_concat, hafter, feed_holding hmax hmin], ?_⟩
    cases hheld : heldInput? f inputs with
    | none => simpa [hheld] using hseen
    | some v =>
      have hone : [inputs].filterMap (heldInput? f) = [v] := by simp [hheld]
      rw [hone] at hvalues ⊢
      exact areDistinctOf_addNew hseen hvalues

end Accumulator

/-! ## Groups

The table is looked up by hash keys, and its groups were described by identities.  Where keys are
hashable both come to the same as equality. -/

section Groups

variable {keys : List SortKey} {aggregates : List PlacedAggregate} {rows rest : List Row}
  {groups groups' : List Group} {labels : List String} {results : List PartialResult}

/-- The rows that are read from the results, as wide as their labels. -/
def rowsRead (results : List PartialResult) : List Row :=
  results.flatMap fun r => r.rows.map (visibleCells r.labels.length)

/-- The groups of the rows by equal keys: each has the key of one of the rows, no two keys are
equal, the key of each row equals one of them, and a group has folded the rows of its key. -/
structure AreGroupsByEquality (keys : List SortKey) (aggregates : List PlacedAggregate)
    (rows : List Row) (groups : List Group) : Prop where
  first : ∀ g ∈ groups, g.first ∈ rows ∧ g.key = groupKey keys g.first
  apart : groups.Pairwise fun g h => Value.equalsAll g.key h.key = false
  found : ∀ row ∈ rows, ∃ g ∈ groups, Value.equalsAll (groupKey keys row) g.key = true
  fed : ∀ g ∈ groups, feedRows aggregates (rows.filter fun row =>
    Value.equalsAll (groupKey keys row) g.key) = .ok g.accumulators

/-- The cells that were read are those of the row, as wide as the labels. -/
theorem PartialResult.eq_visibleCells_of_cells {row cells : Row}
    (h : PartialResult.cells ⟨labels, some row, [], none⟩ = .ok cells) :
    cells = visibleCells labels.length row := by
  have hcells : List.Forall₂ Eq (visibleCells labels.length row) cells := by
    refine List.forall₂_map_left_iff.2 ((mapM_eq_ok.1 h).imp fun i v hv => ?_)
    rw [value] at hv
    rw [cellAt, List.getD_eq_getElem?_getD]
    cases hi : row[i]? <;> simp_all
  exact (List.forall₂_eq_eq_eq ▸ hcells).symm

/-- Folding the rows of a result leads from the groups before it to those after it. -/
theorem AreGroupsOf.of_foldResult {failure : Option Error}
    (h : AreGroupsOf keys aggregates rows groups)
    (hrows : HashableRows keys (rows ++ rest.map (visibleCells labels.length)))
    (hfold : foldResult aggregates keys labels failure groups rest = .ok groups') :
    AreGroupsOf keys aggregates (rows ++ rest.map (visibleCells labels.length)) groups' := by
  induction rest generalizing rows groups with
  | nil =>
    cases failure with
    | some e => exact nomatch hfold
    | none =>
      obtain rfl := Except.ok.inj hfold
      simpa using h
  | cons row rest ih =>
    rw [foldResult] at hfold
    obtain ⟨cells, hcells, hfold⟩ := bind_eq_ok.1 hfold
    obtain ⟨next, hnext, hfold⟩ := bind_eq_ok.1 hfold
    obtain rfl := PartialResult.eq_visibleCells_of_cells hcells
    rw [List.map_cons, List.append_cons] at hrows ⊢
    obtain ⟨table, htable, hgroups⟩ := h.foldRow_eq (hrows.of_subset (List.subset_append_left _ _))
    obtain ⟨accs, haccs, rfl⟩ := map_eq_ok.1 (htable.symm.trans hnext)
    exact ih (hgroups accs haccs) hrows hfold

/-- Folding result after result leads to the groups of all rows that are read. -/
theorem AreGroupsOf.of_foldlM (h : AreGroupsOf keys aggregates rows groups)
    (hrows : HashableRows keys (rows ++ rowsRead results))
    (hfold : results.foldlM (fun groups r =>
      foldResult aggregates keys r.labels r.failure groups r.rows) groups =
        .ok groups') : AreGroupsOf keys aggregates (rows ++ rowsRead results) groups' := by
  induction results generalizing rows groups with
  | nil =>
    obtain rfl := Except.ok.inj hfold
    simpa [rowsRead] using h
  | cons r results ih =>
    rw [List.foldlM_cons] at hfold
    obtain ⟨next, hnext, hfold⟩ := bind_eq_ok.1 hfold
    rw [rowsRead, List.flatMap_cons, ← List.append_assoc] at hrows ⊢
    exact ih (h.of_foldResult (hrows.of_subset (List.subset_append_left _ _)) hnext) hrows hfold

/-- **Groups of one identity each are groups by equal keys**, where the keys are hashable. -/
theorem AreGroupsOf.areGroupsByEquality (h : AreGroupsOf keys aggregates rows groups)
    (hrows : HashableRows keys rows) : AreGroupsByEquality keys aggregates rows groups := by
  have hequal : ∀ row ∈ rows, ∀ g ∈ groups, Value.equalsAll (groupKey keys row) g.key = true ↔
      groupId keys row = groupId keys g.first := fun row hrow g hg => by
    rw [(h.isOf g hg).key]
    exact hrows.equalsAll_iff hrow (h.isOf g hg).first_mem
  refine ⟨fun g hg => ⟨(h.isOf g hg).first_mem, (h.isOf g hg).key⟩, ?_, fun row hrow => ?_,
    fun g hg => ?_⟩
  · refine (List.pairwise_map.1 h.nodup).imp_of_mem fun {g g'} hg hg' hne => ?_
    rw [(h.isOf g hg).key]
    exact Bool.eq_false_iff.2 fun heq =>
      hne ((hequal g.first (h.isOf g hg).first_mem g' hg').1 heq)
  · obtain ⟨g, hg, hid⟩ := List.mem_map.1 (h.covers row hrow)
    exact ⟨g, hg, (hequal row hrow g hg).2 hid.symm⟩
  · rw [← (h.isOf g hg).fed, rowsOf]
    congr 1
    refine List.filter_congr fun row hrow => ?_
    rw [Bool.eq_iff_iff, hequal row hrow g hg, decide_eq_true_iff]

end Groups

/-- **Hash tables hold equal keys once**, but for doubles.  A value equals itself unless it is NaN,
and equal values are hashed alike unless they are the two zeros; where neither is among the cells,
the groups of GROUP BY and the values of DISTINCT aggregates are told apart by equality, every row
is folded into the group of its equals, and every value equals one of the set. -/
theorem hash_tables_hold_equal_keys_once (a b : Value) (keys : List SortKey)
    (aggregates : List PlacedAggregate) (results : List PartialResult) (groups : List Group)
    (f : Aggregate) (inputs : List (List Value)) :
    (a.equals a = true ↔ a.isNaN = false) ∧
      (a.equals b = true → (a.key = b.key ↔ a.areZeros b = false)) ∧
      (HashableRows keys (rowsRead results) → foldRows aggregates keys results = .ok groups →
        AreGroupsByEquality keys aggregates (rowsRead results) groups) ∧
      (f ≠ .max → f ≠ .min →
        Value.AreHashable (inputs.filterMap (Accumulator.heldInput? f)) →
        ∃ seen, (Accumulator.fresh f true).after inputs = Accumulator.holding f seen ∧
          AreDistinctOf (inputs.filterMap (Accumulator.heldInput? f)) seen) :=
  ⟨Value.equals_self_iff, Value.key_eq_iff_of_equals,
    fun hrows hgroups => (areGroupsOf_nil.of_foldlM hrows hgroups).areGroupsByEquality hrows,
    Accumulator.areDistinctOf_after⟩

/-- A result of two rows that hold one number in two scales. -/
def oneTwice : PartialResult := .ofRows ["n"] [[.numeric ⟨false, 10, 1, by decide, by decide⟩],
  [.numeric ⟨false, 100, 2, by decide, by decide⟩]]

/-- 1.0 and 1.00 are of one group, and a set holds one of them; NaN does not equal itself, and 0.0
equals -0.0 but is hashed otherwise. -/
theorem hash_tables_hold_equal_keys_once_doubles :
    HashableRows [⟨0, .asc, .low, true⟩] (rowsRead [oneTwice]) ∧
      (∃ g, foldRows [] [⟨0, .asc, .low, true⟩] [oneTwice] = .ok [g] ∧
        AreGroupsByEquality [⟨0, .asc, .low, true⟩] [] (rowsRead [oneTwice]) [g]) ∧
      (∃ seen, (Accumulator.fresh .count true).after oneTwice.rows = .distinctCount seen ∧
        AreDistinctOf oneTwice.rows.flatten seen) ∧
      (Value.real ⟨0x7ff8000000000000⟩).equals (.real ⟨0x7ff8000000000000⟩) = false ∧
      (Value.real ⟨0⟩).equals (.real ⟨0x8000000000000000⟩) = true ∧
      (Value.real ⟨0⟩).key ≠ (Value.real ⟨0x8000000000000000⟩).key := by
  have hvalues : Value.AreHashable
      (oneTwice.rows.filterMap (Accumulator.heldInput? .count)) :=
    Value.areHashable_of_isReal (by decide)
  have hrows : HashableRows [⟨0, .asc, .low, true⟩] (rowsRead [oneTwice]) := by
    refine List.forall_mem_singleton.2 (hvalues.of_subset ?_)
    decide
  have hfold : foldRows [] [⟨0, .asc, .low, true⟩] [oneTwice] =
      .ok [⟨[.numeric ⟨false, 10, 1, by decide, by decide⟩],
        [.numeric ⟨false, 10, 1, by decide, by decide⟩], []⟩] := by decide +kernel
  have hequal : (Value.real ⟨0⟩).equals (.real ⟨0x8000000000000000⟩) = true := by decide
  obtain ⟨-, hkey, hgroups, hset⟩ := hash_tables_hold_equal_keys_once (.real ⟨0⟩)
    (.real ⟨0x8000000000000000⟩) _ _ _ _ .count _
  obtain ⟨hself, -⟩ := hash_tables_hold_equal_keys_once (.real ⟨0x7ff8000000000000⟩) .null
    [] [] [] [] .count []
  exact ⟨hrows, ⟨_, hfold, hgroups hrows hfold⟩,
    hset Aggregate.noConfusion Aggregate.noConfusion hvalues,
    Bool.eq_false_iff.2 fun h => Bool.false_ne_true ((hself.1 h).symm.trans (by decide)), hequal,
    fun h => Bool.false_ne_true (((hkey hequal).1 h).symm.trans (by decide))⟩

end ScatterGather
