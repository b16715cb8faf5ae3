import Mathlib.Data.List.Forall2
import ScatterGather.Proofs.Merge.GroupAll
import ScatterGather.Proofs.Merge.GroupedStream

/-!
# Proofs/Merge/Agreement — two ways to merge groups, one result

Aggregated rows in order are determined by the rows they aggregate: their identities stand in one
order (`map_groupId_eq`), and the aggregates of an identity are numerically equal
(`IsAggregated.order?_eq`).  A grouped stream and groups in memory both show aggregated rows in
order, so they agree row by row (`groupedStream_agrees_groupAll`) — unless a group item names the
column of an aggregate, whose cells the two put in order at different times
(`not_agree_of_groupedBySum`).
-/

namespace ScatterGather

open scoped List

section Aggregated

variable {types : Nat → Variant} {keys : List SortKey} {aggregates : List PlacedAggregate}
  {rows out out' : List Row} {a a' b b' : Row}

/-- Rows of two identities have one order. -/
theorem RowLe.groupId_eq (hexact : ∀ k ∈ keys, (types k.index).IsExact)
    (hvariants : ∀ row ∈ [a, a', b, b'], Row.HasVariants types keys row)
    (hab : RowLe keys a b) (hba : RowLe keys b' a') (ha : groupId keys a' = groupId keys a)
    (hb : groupId keys b' = groupId keys b) : groupId keys a = groupId keys b := by
  have horder := preorderOn_compareRows hexact
  simp only [List.forall_mem_cons] at hvariants
  obtain ⟨hva, hva', hvb, hvb', -⟩ := hvariants
  have hle : RowLe keys b b' := by
    rw [RowLe, (compareRows_eq_eq_iff hexact hvb hvb').2 hb.symm]
    rfl
  have hle' : RowLe keys a' a := by
    rw [RowLe, (compareRows_eq_eq_iff hexact hva' hva).2 ha]
    rfl
  have hba' : RowLe keys b a :=
    RowLe.trans horder hvb hvb' hva hle (RowLe.trans horder hvb' hva' hva hba hle')
  refine (compareRows_eq_eq_iff hexact hva hvb).1 ?_
  rw [RowLe, horder.swap hva hvb] at hba'
  rw [RowLe] at hab
  cases ho : compareRows keys a b with
  | lt =>
    rw [ho] at hba'
    cases hba'
  | eq => rfl
  | gt =>
    rw [ho] at hab
    cases hab

/-- Identities are ordered as rows that have them. -/
def IdLe (keys : List SortKey) (rows : List Row) (x y : List Value) : Prop :=
  ∃ a ∈ rows, ∃ b ∈ rows, groupId keys a = x ∧ groupId keys b = y ∧ RowLe keys a b

/-- Rows in order have their identities in order. -/
theorem pairwise_idLe (hsub : out ⊆ rows) (h : out.Pairwise (RowLe keys)) :
    (out.map (groupId keys)).Pairwise (IdLe keys rows) := by
  refine List.pairwise_map.2 (h.imp_of_mem fun ha hb hle => ?_)
  exact ⟨_, hsub ha, _, hsub hb, rfl, rfl, hle⟩

/-- Two identities that are ordered both ways are one. -/
theorem IdLe.antisymm (hexact : ∀ k ∈ keys, (types k.index).IsExact)
    (hvariants : ∀ row ∈ rows, Row.HasVariants types keys row) {x y : List Value}
    (hxy : IdLe keys rows x y) (hyx : IdLe keys rows y x) : x = y := by
  obtain ⟨a, ha, b, hb, rfl, rfl, hab⟩ := hxy
  obtain ⟨b', hb', a', ha', hidb, hida, hba⟩ := hyx
  refine RowLe.groupId_eq hexact ?_ hab hba hida hidb
  simp only [List.forall_mem_cons]
  exact ⟨hvariants a ha, hvariants a' ha', hvariants b hb, hvariants b' hb', by simp⟩

/-- **Rows in order, one for each identity, have their identities in one order.** -/
theorem map_groupId_eq (hexact : ∀ k ∈ keys, (types k.index).IsExact)
    (hvariants : ∀ row ∈ out ++ out', Row.HasVariants types keys row)
    (hsorted : out.Pairwise (RowLe keys)) (hsorted' : out'.Pairwise (RowLe keys))
    (hperm : out.map (groupId keys) ~ out'.map (groupId keys)) :
    out.map (groupId keys) = out'.map (groupId keys) :=
  List.Perm.eq_of_pairwise (fun _ _ _ _ => IdLe.antisymm hexact hvariants)
    (pairwise_idLe (List.subset_append_left _ _) hsorted)
    (pairwise_idLe (List.subset_append_right _ _) hsorted') hperm

/-- Aggregated rows have cells of the same types as the rows they aggregate. -/
theorem IsAggregated.hasVariants (h : IsAggregated keys aggregates rows out)
    (hvariants : ∀ row ∈ rows, Row.HasVariants types keys row) :
    ∀ o ∈ out, Row.HasVariants types keys o := by
  intro o ho
  obtain ⟨row, hrow, hsame⟩ := h.cells o ho
  exact hsame.hasVariants (hvariants row hrow)

/-- The aggregated rows of the same rows have the same identities. -/
theorem IsAggregated.perm_map (h : IsAggregated keys aggregates rows out)
    (h' : IsAggregated keys aggregates rows out') :
    out.map (groupId keys) ~ out'.map (groupId keys) :=
  (List.perm_ext_iff_of_nodup h.nodup h'.nodup).2 fun id =>
    (h.mem_map_iff id).trans (h'.mem_map_iff id).symm

/-- **The aggregates of an identity are numerically equal.** -/
theorem IsAggregated.order?_eq (h : IsAggregated keys aggregates rows out)
    (h' : IsAggregated keys aggregates rows out') (hplaced : ∀ a ∈ aggregates, a.IsPlaced)
    (hintegers : ∀ row ∈ rows, ∀ a ∈ aggregates, a.TakesIntegers row)
    (hlength : rows.length < 2 ^ 32) {o o' : Row} (ho : o ∈ out) (ho' : o' ∈ out')
    (hid : groupId keys o = groupId keys o') :
    ∀ a ∈ aggregates, (cellAt o a.index).order? (cellAt o' a.index) = some .eq := by
  intro a ha
  obtain ⟨acc, hholds, hresult⟩ := h.shows o ho a ha
  obtain ⟨acc', hholds', hresult'⟩ := h'.shows o' ho' a ha
  have hsub : rowsOf keys (groupId keys o) rows <+ rows := List.filter_sublist
  obtain ⟨v, v', hv, hv', heq⟩ := hholds.result_sameNumber (hplaced a ha) (hid.symm ▸ hholds')
    (fun r hr => hintegers r (hsub.subset hr) a ha) (Nat.lt_of_le_of_lt hsub.length_le hlength)
  obtain rfl := Except.ok.inj (hresult.symm.trans hv)
  obtain rfl := Except.ok.inj (hresult'.symm.trans hv')
  exact heq.order?_eq

/-- Two rows with the same key, whose aggregates are numerically equal. -/
def SameGroupRow (keys : List SortKey) (aggregates : List PlacedAggregate) (a b : Row) : Prop :=
  groupId keys a = groupId keys b ∧
    ∀ p ∈ aggregates, (cellAt a p.index).order? (cellAt b p.index) = some .eq

/-- **Aggregated rows in order agree row by row.** -/
theorem IsAggregated.forall₂ (h : IsAggregated keys aggregates rows out)
    (h' : IsAggregated keys aggregates rows out') (hexact : ∀ k ∈ keys, (types k.index).IsExact)
    (hvariants : ∀ row ∈ rows, Row.HasVariants types keys row)
    (hplaced : ∀ a ∈ aggregates, a.IsPlaced)
    (hintegers : ∀ row ∈ rows, ∀ a ∈ aggregates, a.TakesIntegers row)
    (hlength : rows.length < 2 ^ 32) (hsorted : out.Pairwise (RowLe keys))
    (hsorted' : out'.Pairwise (RowLe keys)) :
    List.Forall₂ (SameGroupRow keys aggregates) out out' := by
  have hids := map_groupId_eq hexact (List.forall_mem_append.2
    ⟨h.hasVariants hvariants, h'.hasVariants hvariants⟩) hsorted hsorted' (h.perm_map h')
  have hforall : List.Forall₂ (fun o o' => groupId keys o = groupId keys o') out out' := by
    rw [← List.forall₂_eq_eq_eq, List.forall₂_map_left_iff, List.forall₂_map_right_iff] at hids
    exact hids
  obtain ⟨hlen, hzip⟩ := List.forall₂_iff_zip.1 hforall
  refine List.forall₂_iff_zip.2 ⟨hlen, fun {o o'} hmem => ⟨hzip hmem, ?_⟩⟩
  obtain ⟨ho, ho'⟩ := List.of_mem_zip hmem
  exact h.order?_eq h' hplaced hintegers hlength ho ho' (hzip hmem)

end Aggregated

/-! ## Grouped results

The conditions under which both merges can be compared at all, and the comparison. -/

/-- **Partial results that both merges can group**: of one width, holding at least one row and fewer
than 2³², each in the order of the keys; cells of one exact type in each key column, and inputs of
aggregates that are NULL or integers. -/
structure AreGroupable (types : Nat → Variant) (list : SelectList) (keys : List SortKey)
    (width : Nat) (results : List PartialResult) : Prop where
  wide : ∀ r ∈ results, r.IsWide width
  hasRows : results.flatMap (·.rows) ≠ []
  length : (results.flatMap (·.rows)).length < 2 ^ 32
  sorted : ∀ r ∈ results, r.rows.Pairwise (RowLe keys)
  below : ∀ k ∈ keys, k.index < width
  exact : ∀ k ∈ keys, (types k.index).IsExact
  hasVariants : ∀ row ∈ results.flatMap (·.rows), Row.HasVariants types keys row
  integers : ∀ row ∈ results.flatMap (·.rows), ∀ a ∈ list.aggregates, a.TakesIntegers row

section Results

variable {types : Nat → Variant} {list : SelectList} {keys : List SortKey}
  {results : List PartialResult} {width columns : Nat}

theorem AreGroupable.foldable (h : AreGroupable types list keys width results) :
    Foldable types keys list.aggregates (results.flatMap (·.rows)) :=
  .of_integers h.hasVariants h.integers h.length

/-- **The two merges of groups agree**, unless a group item names the column of an aggregate: they
show as many rows, and row by row the same key and numerically equal aggregates.  Every key of the
rows is shown, and none of them twice. -/
theorem groupedStream_agrees_groupAll (h : AreGroupable types list keys width results)
    (hkeys : ∀ k ∈ keys, ∀ a ∈ list.aggregates, k.index ≠ a.index)
    (hcolumns : width ≤ columns) (hvisible : list.items.length ≤ columns) :
    ∃ stream groups shown kept,
      GroupedStream.ofResults list keys results = .ok stream ∧
      groupAll list keys keys results = .ok groups ∧
      MergedCursor.readAll ⟨⟨.grouped stream, none⟩, none⟩ columns = (shown, none) ∧
      MergedCursor.readAll ⟨⟨.buffered groups none, none⟩, none⟩ columns = (kept, none) ∧
      List.Forall₂ (SameGroupRow keys list.aggregates) shown kept ∧
      (shown.map (groupId keys)).Nodup ∧
      ∀ id, id ∈ shown.map (groupId keys) ↔
        id ∈ (results.flatMap (·.rows)).map (groupId keys) := by
  have hne : results ≠ [] := by
    rintro rfl
    exact h.hasRows rfl
  obtain ⟨stream, out, hstream, hshown, haggregated, hsorted⟩ :=
    GroupedStream.exists_ofResults_eq h.exact hkeys h.below h.foldable hne h.wide h.sorted columns
  obtain ⟨groups, hgroups, haggregated', hsorted'⟩ :=
    exists_groupAll_eq keys h.exact hkeys h.foldable h.hasRows h.wide
  have hkept := BaseCursor.yields_buffered columns groups none
  have hbelow : ∀ k ∈ keys, k.index < columns := fun k hk =>
    Nat.lt_of_lt_of_le (h.below k hk) hcolumns
  have hplaces : ∀ a ∈ list.aggregates, a.index < columns := fun a ha =>
    Nat.lt_of_lt_of_le (SelectList.index_lt_of_mem ha) hvisible
  have hout := haggregated.map_visibleCells hbelow hplaces
  have hout' := haggregated'.map_visibleCells hbelow hplaces
  exact ⟨stream, groups, _, _, hstream, hgroups, hshown.unfiltered.readAll_eq none,
    hkept.unfiltered.readAll_eq none,
    hout.forall₂ hout' h.exact h.hasVariants (fun a ha => SelectList.isPlaced_of_mem ha) h.integers
      h.length (pairwise_visibleCells hsorted hbelow)
      (pairwise_visibleCells (hsorted' (.inr rfl)) hbelow),
    hout.nodup, hout.mem_map_iff⟩

end Results

/-- The amounts of orders, added up and averaged. -/
def amountsByRegion : SelectList :=
  ⟨[.column "region" none, .aggregate .sum false (some "amount") none,
    .aggregate .avg false (some "amount") none], false⟩

/-- The first column, whatever the case of its texts. -/
def byFirst : SortKey := ⟨0, .asc, .low, false⟩

/-- What a node returns of regions: the sum of the amounts twice, and how many there are. -/
def regionAmounts (regions : List (String × Int64 × Int64)) : PartialResult :=
  .ofRows ["region", "SUM(amount)", "AVG(amount)", "AVG_DERIVED_COUNT_0", "AVG_DERIVED_SUM_0"]
    (regions.map fun r => [.text r.1, .integer r.2.1, .null, .integer r.2.2, .integer r.2.1])

/-- Regions in different cases are one group for both. -/
theorem groupedStream_agrees_amountsByRegion :
    ∃ stream groups shown kept,
      GroupedStream.ofResults amountsByRegion [byFirst]
        [regionAmounts [("east", 5, 2), ("west", 1, 1)], regionAmounts [("East", 6, 2)]] =
          .ok stream ∧
      groupAll amountsByRegion [byFirst] [byFirst]
        [regionAmounts [("east", 5, 2), ("west", 1, 1)], regionAmounts [("East", 6, 2)]] =
          .ok groups ∧
      MergedCursor.readAll ⟨⟨.grouped stream, none⟩, none⟩ 5 = (shown, none) ∧
      MergedCursor.readAll ⟨⟨.buffered groups none, none⟩, none⟩ 5 = (kept, none) ∧
      List.Forall₂ (SameGroupRow [byFirst] amountsByRegion.aggregates) shown kept := by
  have hgroupable : AreGroupable (fun _ => .text) amountsByRegion [byFirst] 5
      [regionAmounts [("east", 5, 2), ("west", 1, 1)], regionAmounts [("East", 6, 2)]] := by
    refine ⟨?_, by decide, by decide, by decide, by decide, by decide, ?_, ?_⟩
    · simp only [List.forall_mem_cons]
      exact ⟨⟨rfl, rfl, by decide⟩, ⟨rfl, rfl, by decide⟩, by simp⟩
    · simp only [Row.HasVariants, Value.HasVariant]
      decide
    · simp only [PlacedAggregate.TakesIntegers, Value.IsIntegerOrNull]
      decide
  obtain ⟨stream, groups, shown, kept, hstream, hgroups, hshown, hkept, hagree, -⟩ :=
    groupedStream_agrees_groupAll hgroupable (by decide) (Nat.le_refl 5) (by decide)
  exact ⟨stream, groups, shown, kept, hstream, hgroups, hshown, hkept, hagree⟩

/-- The sums of amounts. -/
def sumsOnly : SelectList := ⟨[.aggregate .sum false (some "amount") none], false⟩

/-- Sums that a node returns. -/
def sums (ns : List Int64) : PartialResult := .ofRows ["SUM(amount)"] (ns.map fun n => [.integer n])

/-- **Grouped by the column of a sum, the two merges disagree**: the stream shows groups in the
order of the cells that came, memory in the order of the sums. -/
theorem not_agree_of_groupedBySum :
    AreGroupable (fun _ => .integer) sumsOnly [byFirst] 1 [sums [1, 1], sums [1, 2]] ∧
    (GroupedStream.ofResults sumsOnly [byFirst] [sums [1, 1], sums [1, 2]]).map
        (fun stream => MergedCursor.readAll ⟨⟨.grouped stream, none⟩, none⟩ 1) =
      .ok ([[.integer 3], [.integer 2]], none) ∧
    (groupAll sumsOnly [byFirst] [byFirst] [sums [1, 1], sums [1, 2]]).map
        (fun groups => MergedCursor.readAll ⟨⟨.buffered groups none, none⟩, none⟩ 1) =
      .ok ([[.integer 2], [.integer 3]], none) ∧
    ¬ List.Forall₂ (SameGroupRow [byFirst] sumsOnly.aggregates) [[.integer 3], [.integer 2]]
      [[.integer 2], [.integer 3]] := by
  refine ⟨⟨?_, by decide, by decide, by decide, by decide, by decide, ?_, ?_⟩, by decide +kernel,
    by decide +kernel, fun h => ?_⟩
  · simp only [List.forall_mem_cons]
    exact ⟨⟨rfl, rfl, by decide⟩, ⟨rfl, rfl, by decide⟩, by simp⟩
  · simp only [Row.HasVariants, Value.HasVariant]
    decide
  · simp only [PlacedAggregate.TakesIntegers, Value.IsIntegerOrNull]
    decide
  · obtain ⟨hid, -⟩ := (List.forall₂_cons.1 h).1
    exact absurd hid (by decide)

end ScatterGather
