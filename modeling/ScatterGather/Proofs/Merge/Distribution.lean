import ScatterGather.Proofs.Merge.GroupCursor

/-!
# Proofs/Merge/Distribution — aggregates of parts are aggregates of the whole

Each node answers a grouped query over its own raw rows (`IsAnswer`).  A group of the whole is made
of parts, at most one from each node (`exists_parts`), and from the aggregates of the parts an
accumulator makes the aggregate of all their raw rows (`PlacedAggregate.Holds.shows_of_parts`).  So
**merging the answers of the nodes answers the query over all raw rows**, however they are spread
(`merge_isAnswer`).
-/

namespace ScatterGather

open scoped List

/-! ## Aggregates of numbers

What a SELECT over all raw rows is to show is said without accumulators: an aggregate of the numbers
in a column.  Nodes and the merge are both held to this one definition. -/

/-- The value, unless it is NULL. -/
def Value.present? (v : Value) : Option Value := Option.guard (fun v => !v.isNull) v

/-- **A cell shows the aggregate of these numbers.**  The count of none is zero; their sum, extremes
and mean are NULL. -/
def Aggregate.Shows (f : Aggregate) (ns : List Int) (v : Value) : Prop :=
  match f with
  | .count => v.whole? = some (ns.length : Int)
  | .sum => IsSum Value.whole? ns v.present?
  | .min => IsExtreme true ns v.present?
  | .max => IsExtreme false ns v.present?
  | .avg => (ns = [] ∧ v = .null) ∨ ns ≠ [] ∧ ∃ sum count : Decimal,
      sum.whole? = some ns.sum ∧ count.whole? = some (ns.length : Int) ∧
        v = Accumulator.average sum count false

namespace SelectList

/-- What an aggregate reads of a raw row, which has a cell for every item: the cell in its place, or
a number to be counted if it counts rows. -/
def argument (list : SelectList) (index : Nat) (raw : Row) : Value :=
  match list.items[index]? with
  | some (.aggregate .count _ none _) => .integer 1
  | _ => cellAt raw index

/-- The numbers that an aggregate reads of raw rows, NULLs left out. -/
def numbers (list : SelectList) (index : Nat) (raws : List Row) : List Int :=
  raws.filterMap fun raw => (list.argument index raw).whole?

end SelectList

/-- What a node's row holds for an aggregate of raw rows: the aggregate itself, or for a mean the
columns derived for it. -/
def PlacedAggregate.ShowsPart (list : SelectList) (a : PlacedAggregate) (raws : List Row)
    (o : Row) : Prop :=
  if a.derived.isEmpty then a.function.Shows (list.numbers a.index raws) (cellAt o a.index)
  else ∀ d ∈ a.derived, d.function.Shows (list.numbers a.index raws) (cellAt o d.index)

/-- What a merged row shows for an aggregate of raw rows. -/
def PlacedAggregate.ShowsWhole (list : SelectList) (a : PlacedAggregate) (raws : List Row)
    (o : Row) : Prop :=
  a.function.Shows (list.numbers a.index raws) (cellAt o a.index)

/-! ## Numbers of parts

Sums of sums, counts of counts and extremes of extremes.  A part without numbers shows NULL and adds
nothing, so it must not disturb the others. -/

/-- The aggregate does not depend on the order of the numbers. -/
theorem Aggregate.Shows.perm {f : Aggregate} {ns ns' : List Int} {v : Value} (h : f.Shows ns v)
    (hperm : ns ~ ns') : f.Shows ns' v := by
  cases f with
  | count =>
    rw [Shows, ← hperm.length_eq]
    exact h
  | sum => exact IsSum.perm h hperm
  | min => exact IsExtreme.perm h hperm
  | max => exact IsExtreme.perm h hperm
  | avg =>
    obtain ⟨rfl, hnull⟩ | ⟨hne, hmean⟩ := h
    · exact .inl ⟨hperm.symm.eq_nil, hnull⟩
    · refine .inr ⟨fun hnil => hne (hnil ▸ hperm).eq_nil, ?_⟩
      rwa [← hperm.length_eq, ← hperm.sum_eq]

section Numbers

variable {ns : List Int} {nss : List (List Int)} {v : Value} {vs : List Value} {x : Int}
  {least : Bool}

/-- A number is present. -/
theorem Value.present?_of_whole? (h : v.whole? = some x) : v.present? = some v := by
  simp [present?, Option.guard, isNull_of_whole? h]

/-- What is not present is no number. -/
theorem Value.present?_eq_none (h : v.present? = none) : v.whole? = none := by
  have hnull : v.isNull = true := by simpa [present?, Option.guard] using h
  exact whole?_of_isNull hnull

/-- Parts of no numbers do not add anything. -/
theorem sum_map_filter_isEmpty (f : List Int → Int) (hf : f [] = 0) (nss : List (List Int)) :
    ((nss.filter (!·.isEmpty)).map f).sum = (nss.map f).sum := by
  induction nss with
  | nil => rfl
  | cons ns nss ih =>
    cases ns with
    | nil =>
      rw [List.map_cons, List.sum_cons, hf, Int.zero_add, ← ih]
      rfl
    | cons n ns =>
      rw [List.filter_cons_of_pos rfl, List.map_cons, List.map_cons, List.sum_cons, List.sum_cons,
        ih]

theorem sum_map_length (nss : List (List Int)) :
    (nss.map fun ns => (ns.length : Int)).sum = nss.flatten.length := by
  induction nss with
  | nil => rfl
  | cons ns nss ih =>
    rw [List.map_cons, List.sum_cons, ih, List.flatten_cons, List.length_append, Nat.cast_add]

theorem filter_isEmpty_eq_nil_iff : nss.filter (!·.isEmpty) = [] ↔ nss.flatten = [] := by
  simp [List.filter_eq_nil_iff]

/-- A cell that shows a sum is that number. -/
theorem whole?_of_isSum (h : IsSum Value.whole? ns v.present?) :
    v.whole? = if ns.isEmpty then none else some ns.sum := by
  obtain ⟨rfl, hnone⟩ | ⟨hne, w, hw, hsum⟩ := h
  · exact Value.present?_eq_none hnone
  · obtain ⟨-, rfl⟩ : _ ∧ v = w := by simpa [Value.present?, Option.guard] using hw
    rw [if_neg (by simpa using hne), hsum]

/-- The numbers of cells that show sums. -/
theorem filterMap_whole?_of_isSum
    (h : List.Forall₂ (fun ns v => IsSum Value.whole? ns v.present?) nss vs) :
    vs.filterMap Value.whole? = (nss.filter (!·.isEmpty)).map List.sum := by
  induction h with
  | nil => rfl
  | @cons ns v nss vs hv _ ih =>
    rw [List.filterMap_cons, whole?_of_isSum hv, ih]
    cases ns <;> rfl

/-- The numbers of cells that show counts. -/
theorem filterMap_whole?_of_count
    (h : List.Forall₂ (fun ns v => Value.whole? v = some (ns.length : Int)) nss vs) :
    vs.filterMap Value.whole? = nss.map fun ns => (ns.length : Int) := by
  induction h with
  | nil => rfl
  | cons hv _ ih => rw [List.filterMap_cons, hv, ih, List.map_cons]

/-- A cell that shows an extreme is one of the numbers. -/
theorem whole?_of_isExtreme (h : IsExtreme least ns v.present?) :
    (ns = [] ∧ v.whole? = none) ∨ ∃ x ∈ ns, v.whole? = some x ∧
      ∀ y ∈ ns, if least then x ≤ y else y ≤ x := by
  obtain ⟨hnil, hnone⟩ | ⟨w, hw, hextreme⟩ := h
  · exact .inl ⟨hnil, Value.present?_eq_none hnone⟩
  · obtain ⟨-, rfl⟩ : _ ∧ v = w := by simpa [Value.present?, Option.guard] using hw
    exact .inr hextreme

/-- **The extreme of extremes** is that of all numbers. -/
theorem IsExtreme.flatten {best : Option Value}
    (h : List.Forall₂ (fun ns v => IsExtreme least ns v.present?) nss vs)
    (hbest : IsExtreme least (vs.filterMap Value.whole?) best) :
    IsExtreme least nss.flatten best := by
  obtain ⟨hnil, rfl⟩ | ⟨w, rfl, x, hx, hw, hall⟩ := hbest
  · refine .inl ⟨List.flatten_eq_nil_iff.2 fun ns hns => ?_, rfl⟩
    obtain ⟨v, hv, hextreme⟩ := exists_mem_of_forall₂ h hns
    obtain ⟨hns, -⟩ | ⟨x, -, hx, -⟩ := whole?_of_isExtreme hextreme
    · exact hns
    · exact nomatch hx.symm.trans (List.filterMap_eq_nil_iff.1 hnil v hv)
  · obtain ⟨v, hv, hvx⟩ := List.mem_filterMap.1 hx
    obtain ⟨ns, hns, hextreme⟩ := exists_mem_of_forall₂ h.flip hv
    have hmem : x ∈ ns := by
      obtain ⟨-, hnone⟩ | ⟨x', hx', hvx', -⟩ := whole?_of_isExtreme hextreme
      · exact nomatch hnone.symm.trans hvx
      · rwa [Option.some.inj (hvx.symm.trans hvx')]
    refine .inr ⟨w, rfl, x, List.mem_flatten.2 ⟨ns, hns, hmem⟩, hw, fun y hy => ?_⟩
    obtain ⟨ns', hns', hy⟩ := List.mem_flatten.1 hy
    obtain ⟨v', hv', hextreme'⟩ := exists_mem_of_forall₂ h hns'
    obtain ⟨rfl, -⟩ | ⟨x', -, hvx', hle⟩ := whole?_of_isExtreme hextreme'
    · exact absurd hy List.not_mem_nil
    · have hxx' := hall x' (List.mem_filterMap.2 ⟨v', hv', hvx'⟩)
      have hx'y := hle y hy
      cases least with
      | true => exact Int.le_trans hxx' hx'y
      | false => exact Int.le_trans hx'y hxx'

theorem IsSum.congr {ms : List Int} {sum : Option Value} (h : IsSum Value.whole? ns sum)
    (hnil : ns = [] ↔ ms = []) (hsum : ns.sum = ms.sum) : IsSum Value.whole? ms sum := by
  simpa only [IsSum, ne_eq, hnil, hsum] using h

theorem IsSum.present?_getD {sum : Option Value} (h : IsSum Value.whole? ns sum) :
    IsSum Value.whole? ns (sum.getD .null).present? := by
  obtain ⟨hnil, rfl⟩ | ⟨-, w, rfl, hw⟩ := id h
  · exact .inl ⟨hnil, rfl⟩
  · rwa [Option.getD_some, Value.present?_of_whole? hw]

theorem IsExtreme.present?_getD {best : Option Value} (h : IsExtreme least ns best) :
    IsExtreme least ns (best.getD .null).present? := by
  obtain ⟨hnil, rfl⟩ | ⟨w, rfl, x, -, hw, -⟩ := id h
  · exact .inl ⟨hnil, rfl⟩
  · rwa [Option.getD_some, Value.present?_of_whole? hw]

end Numbers

/-! ## Parts of a group

A merged group takes in one row from each node that has the group.  Means are the one aggregate that
is not made of its own parts; the counts and sums that are derived for it are. -/

namespace PlacedAggregate

section Parts

variable {list : SelectList} {a : PlacedAggregate} {parts : List (List Row × Row)}
  {raws : List Row} {o : Row} {acc : Accumulator} {v : Value}

/-- The numbers of raw rows are those of each node after another. -/
theorem numbers_flatMap (list : SelectList) (i : Nat) (parts : List (List Row × Row)) :
    list.numbers i (parts.flatMap Prod.fst) =
      (parts.map fun part => list.numbers i part.1).flatten := by
  rw [SelectList.numbers, List.filterMap_flatMap, List.flatMap_def]
  rfl

theorem wholeNumbers_map (i : Nat) (parts : List (List Row × Row)) :
    wholeNumbers i (parts.map Prod.snd) =
      (parts.map fun part => cellAt part.2 i).filterMap Value.whole? := by
  rw [wholeNumbers, List.filterMap_map, List.filterMap_map]
  rfl

/-- What holds of the numbers and the cell of every part. -/
theorem forall₂_parts {R : List Int → Value → Prop} {i j : Nat}
    (h : ∀ part ∈ parts, R (list.numbers i part.1) (cellAt part.2 j)) :
    List.Forall₂ R (parts.map fun part => list.numbers i part.1)
      (parts.map fun part => cellAt part.2 j) :=
  List.forall₂_map_left_iff.2 (List.forall₂_map_right_iff.2 (List.forall₂_same.2 h))

/-- An aggregate other than a mean shows what the node aggregated. -/
theorem ShowsPart.shows (h : a.ShowsPart list raws o) (hplaced : a.IsPlaced)
    (hne : a.function ≠ .avg) :
    a.function.Shows (list.numbers a.index raws) (cellAt o a.column) := by
  rw [IsPlaced, if_neg hne] at hplaced
  have hcolumn : a.column = a.index := by simp [column, inputs, hplaced]
  rw [ShowsPart, hplaced] at h
  rw [hcolumn]
  exact h

/-- For a mean the derived columns show the count and the sum. -/
theorem ShowsPart.shows_avg (h : a.ShowsPart list raws o) (hplaced : a.IsPlaced)
    (heq : a.function = .avg) :
    (cellAt o a.countColumn).whole? = some ((list.numbers a.index raws).length : Int) ∧
      IsSum Value.whole? (list.numbers a.index raws) (cellAt o a.column).present? := by
  rw [IsPlaced, if_pos heq] at hplaced
  obtain ⟨count, sum, hderived, hcount, hsum⟩ := hplaced
  have hcountColumn : a.countColumn = count.index := by simp [countColumn, inputs, hderived]
  have hcolumn : a.column = sum.index := by simp [column, inputs, hderived]
  rw [ShowsPart, hderived] at h
  have hshows : ∀ d ∈ [count, sum],
      d.function.Shows (list.numbers a.index raws) (cellAt o d.index) := h
  simp only [List.forall_mem_cons, hcount, hsum] at hshows
  rw [hcountColumn, hcolumn]
  exact ⟨hshows.1, hshows.2.1⟩

/-- **What the parts of a mean add up**: the counts and the sums of those that have numbers. -/
theorem filterMap_meanInput? (hplaced : a.IsPlaced) (heq : a.function = .avg)
    (hparts : ∀ part ∈ parts, a.ShowsPart list part.1 part.2) :
    (parts.map Prod.snd).filterMap (meanInput? a.countColumn a.column) =
      ((parts.map fun part => list.numbers a.index part.1).filter (!·.isEmpty)).map
        fun ns => ((ns.length : Int), ns.sum) := by
  induction parts with
  | nil => rfl
  | cons part parts ih =>
    obtain ⟨hpart, hparts⟩ := List.forall_mem_cons.1 hparts
    obtain ⟨hcount, hsum⟩ := hpart.shows_avg hplaced heq
    have hinput : meanInput? a.countColumn a.column part.2 =
        if (list.numbers a.index part.1).isEmpty then none
        else some
          (((list.numbers a.index part.1).length : Int), (list.numbers a.index part.1).sum) := by
      rw [meanInput?, hcount, whole?_of_isSum hsum]
      split <;> rfl
    rw [List.map_cons, List.map_cons, List.filterMap_cons, hinput, ih hparts]
    cases list.numbers a.index part.1 <;> rfl

/-- The mean of means that were kept apart. -/
theorem shows_avg_of_isMean {count sum : Option Decimal} (hplaced : a.IsPlaced)
    (heq : a.function = .avg) (hparts : ∀ part ∈ parts, a.ShowsPart list part.1 part.2)
    (hmean : IsMean a.countColumn a.column (parts.map Prod.snd) count sum)
    (hresult : (Accumulator.mean count sum false).result = .ok v) :
    Aggregate.Shows .avg (list.numbers a.index (parts.flatMap Prod.fst)) v := by
  have hcounts := hmean.isCount
  have hsums := hmean.isSum
  rw [filterMap_meanInput? hplaced heq hparts, List.map_map] at hcounts hsums
  rw [numbers_flatMap]
  obtain ⟨hnil, rfl⟩ | ⟨hne, c, rfl, hc⟩ := hcounts
  · rw [List.map_eq_nil_iff, filter_isEmpty_eq_nil_iff] at hnil
    exact .inl ⟨hnil, (Except.ok.inj hresult).symm⟩
  · obtain ⟨hnil, -⟩ | ⟨-, s, rfl, hs⟩ := hsums
    · rw [List.map_eq_nil_iff] at hnil
      exact absurd (List.map_eq_nil_iff.2 hnil) hne
    · rw [ne_eq, List.map_eq_nil_iff, filter_isEmpty_eq_nil_iff] at hne
      refine .inr ⟨hne, s, c, ?_, ?_, (Except.ok.inj hresult).symm⟩
      · rw [hs]
        exact congrArg some ((sum_map_filter_isEmpty List.sum rfl _).trans List.sum_flatten.symm)
      · rw [hc]
        exact congrArg some ((sum_map_filter_isEmpty _ rfl _).trans (sum_map_length _))

theorem eq_of_fresh_extreme {f : Aggregate} {distinct least : Bool}
    (h : Accumulator.fresh f distinct = .extreme least none) :
    f = if least then .min else .max := by
  cases f <;> cases distinct <;> simp_all [Accumulator.fresh]

theorem eq_of_fresh_total {f : Aggregate} {distinct : Bool}
    (h : Accumulator.fresh f distinct = .total none) : f = .count ∨ f = .sum := by
  cases f <;> cases distinct <;> simp_all [Accumulator.fresh]

/-- The extreme of extremes that were kept apart. -/
theorem extreme_of_parts {least : Bool} {best : Option Value}
    (hparts : ∀ part ∈ parts,
      IsExtreme least (list.numbers a.index part.1) (cellAt part.2 a.column).present?)
    (hbest : IsExtreme least (wholeNumbers a.column (parts.map Prod.snd)) best) :
    IsExtreme least (list.numbers a.index (parts.flatMap Prod.fst))
      (best.getD .null).present? := by
  rw [wholeNumbers_map] at hbest
  rw [numbers_flatMap]
  have hextremes := forall₂_parts (R := fun ns v => IsExtreme least ns v.present?) hparts
  exact (IsExtreme.flatten hextremes hbest).present?_getD

/-- The sum of sums that were kept apart. -/
theorem sum_of_parts {sum : Option Value}
    (hparts : ∀ part ∈ parts,
      IsSum Value.whole? (list.numbers a.index part.1) (cellAt part.2 a.column).present?)
    (hsum : IsSum Value.whole? (wholeNumbers a.column (parts.map Prod.snd)) sum) :
    IsSum Value.whole? (list.numbers a.index (parts.flatMap Prod.fst))
      (sum.getD .null).present? := by
  have hsums := forall₂_parts (R := fun ns v => IsSum Value.whole? ns v.present?) hparts
  rw [wholeNumbers_map, filterMap_whole?_of_isSum hsums] at hsum
  rw [numbers_flatMap]
  refine (hsum.congr ?_ ?_).present?_getD
  · rw [List.map_eq_nil_iff, filter_isEmpty_eq_nil_iff]
  · rw [sum_map_filter_isEmpty _ rfl, List.sum_flatten]

/-- The sum of counts that were kept apart. -/
theorem count_of_parts {sum : Option Value} (hne : parts ≠ [])
    (hparts : ∀ part ∈ parts, (cellAt part.2 a.column).whole? =
      some ((list.numbers a.index part.1).length : Int))
    (hsum : IsSum Value.whole? (wholeNumbers a.column (parts.map Prod.snd)) sum) :
    (sum.getD .null).whole? =
      some ((list.numbers a.index (parts.flatMap Prod.fst)).length : Int) := by
  have hcounts := forall₂_parts
    (R := fun ns v => v.whole? = some (ns.length : Int)) hparts
  rw [wholeNumbers_map, filterMap_whole?_of_count hcounts] at hsum
  rw [numbers_flatMap, ← sum_map_length]
  obtain ⟨hnil, -⟩ | ⟨-, w, rfl, hw⟩ := hsum
  · exact absurd (List.map_eq_nil_iff.1 (List.map_eq_nil_iff.1 hnil)) hne
  · exact hw

/-- **From the aggregates of parts to the aggregate of the whole.** -/
theorem Holds.shows_of_parts (hplaced : a.IsPlaced) (hdistinct : a.distinct = false)
    (hne : parts ≠ []) (hparts : ∀ part ∈ parts, a.ShowsPart list part.1 part.2)
    (h : a.Holds (parts.map Prod.snd) acc) (hresult : acc.result = .ok v) :
    a.function.Shows (list.numbers a.index (parts.flatMap Prod.fst)) v := by
  have hshows : ∀ f, a.function = f → f ≠ .avg → ∀ part ∈ parts,
      f.Shows (list.numbers a.index part.1) (cellAt part.2 a.column) := by
    rintro f rfl hf part hpart
    exact (hparts part hpart).shows hplaced hf
  cases h with
  | @extreme least best hfresh hbest =>
    obtain rfl := Except.ok.inj hresult
    cases least with
    | true =>
      have hf : a.function = .min := eq_of_fresh_extreme hfresh
      rw [hf]
      exact extreme_of_parts (hshows _ hf nofun) hbest
    | false =>
      have hf : a.function = .max := eq_of_fresh_extreme hfresh
      rw [hf]
      exact extreme_of_parts (hshows _ hf nofun) hbest
  | total hfresh hsum =>
    obtain rfl := Except.ok.inj hresult
    obtain hf | hf := eq_of_fresh_total hfresh
    · rw [hf]
      exact count_of_parts hne (hshows _ hf nofun) hsum
    · rw [hf]
      exact sum_of_parts (hshows _ hf nofun) hsum
  | mean hfresh hmean =>
    have heq := eq_avg_of_fresh (.inl hfresh)
    rw [heq]
    exact shows_avg_of_isMean hplaced heq hparts hmean hresult
  -- An aggregate over distinct values is not put together from parts.
  | distinctCount hfresh _ => exact nomatch hdistinct.symm.trans (distinct_of_fresh (.inl hfresh))
  | distinctSum hfresh _ =>
    exact nomatch hdistinct.symm.trans (distinct_of_fresh (.inr (.inl hfresh)))
  | distinctMean hfresh _ =>
    exact nomatch hdistinct.symm.trans (distinct_of_fresh (.inr (.inr hfresh)))

end Parts

end PlacedAggregate

/-! ## Answers of nodes

A node answers the query over the raw rows that it stores.  The rows may be spread in any way: a
group of the whole is cut into one part for each node. -/

/-- The identities of the groups of raw rows; without a key there is one group in any case. -/
def groupIds (keys : List SortKey) (raws : List Row) : List (List Value) :=
  if keys = [] then [[]] else raws.map (groupId keys)

/-- **The rows that answer a grouped query over raw rows**: one for each identity, with the key
cells of a raw row and with what is to be shown of the aggregates of its group. -/
structure IsAnswer (shows : PlacedAggregate → List Row → Row → Prop) (keys : List SortKey)
    (aggregates : List PlacedAggregate) (raws out : List Row) : Prop where
  nodup : (out.map (groupId keys)).Nodup
  mem_iff : ∀ id, id ∈ out.map (groupId keys) ↔ id ∈ groupIds keys raws
  cells : keys ≠ [] → ∀ o ∈ out, ∃ raw ∈ raws, SameKeyCells keys o raw
  shows : ∀ o ∈ out, ∀ a ∈ aggregates, shows a (rowsOf keys (groupId keys o) raws) o

/-- A node: the raw rows that it stores, and the result that it returns. -/
structure Shard where
  raws : List Row
  result : PartialResult

/-- **A node answers the query**: its result has a row for each group of its raw rows, in the order
that is asked for, and what it aggregated fits 64 bits. -/
structure Shard.Answers (list : SelectList) (keys orderKeys : List SortKey) (labels : List String)
    (p : Shard) : Prop where
  whole : p.result.IsWhole labels
  answer : IsAnswer (PlacedAggregate.ShowsPart list) keys list.aggregates p.raws p.result.rows
  summands : ∀ o ∈ p.result.rows, ∀ a ∈ list.aggregates, ∀ i ∈ a.inputs, (cellAt o i).IsSummand
  sorted : p.result.rows.Pairwise (RowLe orderKeys)

/-- A raw row: cells of the types of the key columns, and integers or NULLs to be aggregated. -/
structure IsRaw (types : Nat → Variant) (list : SelectList) (keys : List SortKey) (raw : Row) :
    Prop where
  hasVariants : Row.HasVariants types keys raw
  integers : ∀ a ∈ list.aggregates, (cellAt raw a.index).IsIntegerOrNull

section Answers

variable {types : Nat → Variant} {shows : PlacedAggregate → List Row → Row → Prop}
  {keys orderKeys : List SortKey} {aggregates : List PlacedAggregate} {list : SelectList}
  {labels : List String} {raws out : List Row} {o : Row} {shards : List Shard}

/-- The identity of a raw row is among those of the groups. -/
theorem mem_groupIds {row : Row} (h : row ∈ raws) : groupId keys row ∈ groupIds keys raws := by
  rw [groupIds]
  split
  · rename_i hkeys
    rw [hkeys]
    exact List.mem_singleton_self _
  · exact List.mem_map.2 ⟨row, h, rfl⟩

/-- Where identities are told apart, a row is alone with its own. -/
theorem rowsOf_eq_singleton (h : (out.map (groupId keys)).Nodup) (ho : o ∈ out) :
    rowsOf keys (groupId keys o) out = [o] := by
  induction out with
  | nil => exact absurd ho List.not_mem_nil
  | cons r out ih =>
    obtain ⟨hr, hnodup⟩ := List.nodup_cons.1 h
    have hne : ∀ b ∈ out, groupId keys b ≠ groupId keys r := fun b hb heq =>
      hr (List.mem_map.2 ⟨b, hb, heq⟩)
    obtain rfl | ho := List.mem_cons.1 ho
    · rw [rowsOf_cons_self rfl, rowsOf_eq_nil hne]
    · rw [rowsOf_cons_of_ne (hne o ho).symm, ih hnodup ho]

/-- **An answer has one row for a group, or none** where there are no raw rows of it. -/
theorem IsAnswer.rowsOf_cases (h : IsAnswer shows keys aggregates raws out) (id : List Value) :
    (rowsOf keys id out = [] ∧ rowsOf keys id raws = []) ∨
      ∃ o, rowsOf keys id out = [o] ∧ ∀ a ∈ aggregates, shows a (rowsOf keys id raws) o := by
  by_cases hid : id ∈ out.map (groupId keys)
  · obtain ⟨o, ho, rfl⟩ := List.mem_map.1 hid
    exact .inr ⟨o, rowsOf_eq_singleton h.nodup ho, h.shows o ho⟩
  · refine .inl ⟨rowsOf_eq_nil fun row hrow heq => ?_, rowsOf_eq_nil fun row hrow heq => ?_⟩
    · exact hid (heq ▸ List.mem_map_of_mem hrow)
    · exact hid ((h.mem_iff id).2 (heq ▸ mem_groupIds hrow))

/-- **A group of the whole is made of parts**, at most one from each node. -/
theorem exists_parts
    (h : ∀ p ∈ shards, IsAnswer shows keys aggregates p.raws p.result.rows) (id : List Value) :
    ∃ parts : List (List Row × Row),
      rowsOf keys id (shards.flatMap (·.result.rows)) = parts.map Prod.snd ∧
      rowsOf keys id (shards.flatMap (·.raws)) = parts.flatMap Prod.fst ∧
      parts.length ≤ shards.length ∧
      ∀ part ∈ parts, ∀ a ∈ aggregates, shows a part.1 part.2 := by
  induction shards with
  | nil => exact ⟨[], rfl, rfl, Nat.le_refl 0, by simp⟩
  | cons p shards ih =>
    obtain ⟨hp, hshards⟩ := List.forall_mem_cons.1 h
    obtain ⟨parts, hrows, hraws, hlength, hshows⟩ := ih hshards
    simp only [List.flatMap_cons, rowsOf_append, hrows, hraws]
    obtain ⟨hnil, hnil'⟩ | ⟨o, ho, ha⟩ := hp.rowsOf_cases id
    · exact ⟨parts, by rw [hnil, List.nil_append], by rw [hnil', List.nil_append],
        Nat.le_succ_of_le hlength, hshows⟩
    · refine ⟨(rowsOf keys id p.raws, o) :: parts, by rw [ho]; rfl, by rw [List.flatMap_cons],
        Nat.succ_le_succ hlength, List.forall_mem_cons.2 ⟨ha, hshows⟩⟩

/-- The rows of the nodes can be folded into groups. -/
theorem foldable_of_answers (hraws : ∀ p ∈ shards, ∀ raw ∈ p.raws, IsRaw types list keys raw)
    (hshards : ∀ p ∈ shards, p.Answers list keys orderKeys labels)
    (hdistinct : ∀ a ∈ list.aggregates, a.distinct = false) (hlength : shards.length < 2 ^ 32) :
    Foldable types keys list.aggregates (shards.flatMap (·.result.rows)) := by
  refine ⟨fun o ho k hk => ?_, fun o ho a ha i hi => ?_, fun id => ?_⟩
  · obtain ⟨p, hp, ho⟩ := List.mem_flatMap.1 ho
    obtain ⟨raw, hraw, hsame⟩ := (hshards p hp).answer.cells (List.ne_nil_of_mem hk) o ho
    exact hsame.hasVariants (hraws p hp raw hraw).hasVariants k hk
  · obtain ⟨p, hp, ho⟩ := List.mem_flatMap.1 ho
    exact ⟨(hshards p hp).summands o ho a ha i hi,
      fun htrue => nomatch (hdistinct a ha).symm.trans htrue⟩
  · obtain ⟨parts, hrows, -, hle, -⟩ := exists_parts (fun p hp => (hshards p hp).answer) id
    rw [hrows, List.length_map]
    exact Nat.lt_of_le_of_lt hle hlength

/-- The nodes have the groups of all raw rows among them. -/
theorem mem_flatMap_groupIds (hne : shards ≠ [])
    (h : ∀ p ∈ shards, IsAnswer shows keys aggregates p.raws p.result.rows) (id : List Value) :
    id ∈ (shards.flatMap (·.result.rows)).map (groupId keys) ↔
      id ∈ groupIds keys (shards.flatMap (·.raws)) := by
  have hmem : id ∈ (shards.flatMap (·.result.rows)).map (groupId keys) ↔
      ∃ p ∈ shards, id ∈ groupIds keys p.raws := by
    simp only [List.map_flatMap, List.mem_flatMap]
    exact exists_congr fun p => and_congr_right fun hp => (h p hp).mem_iff id
  rw [hmem]
  by_cases hkeys : keys = []
  · obtain ⟨p, hp⟩ := List.exists_mem_of_ne_nil _ hne
    simp only [groupIds, if_pos hkeys]
    exact ⟨fun ⟨_, _, hid⟩ => hid, fun hid => ⟨p, hp, hid⟩⟩
  · simp only [groupIds, if_neg hkeys, List.map_flatMap, List.mem_flatMap]

/-- Where there is a group, a node has a row for it. -/
theorem rows_ne_nil_of_groupIds (hne : shards ≠ [])
    (h : ∀ p ∈ shards, IsAnswer shows keys aggregates p.raws p.result.rows)
    (hids : groupIds keys (shards.flatMap (·.raws)) ≠ []) :
    shards.flatMap (·.result.rows) ≠ [] := by
  obtain ⟨id, hid⟩ := List.exists_mem_of_ne_nil _ hids
  obtain ⟨row, hrow, -⟩ := List.mem_map.1 ((mem_flatMap_groupIds hne h id).2 hid)
  exact List.ne_nil_of_mem hrow

/-- **Aggregated answers answer the query over all raw rows.** -/
theorem IsAggregated.isAnswer (hne : shards ≠ [])
    (h : IsAggregated keys list.aggregates (shards.flatMap (·.result.rows)) out)
    (hshards : ∀ p ∈ shards, p.Answers list keys orderKeys labels)
    (hdistinct : ∀ a ∈ list.aggregates, a.distinct = false) :
    IsAnswer (PlacedAggregate.ShowsWhole list) keys list.aggregates (shards.flatMap (·.raws))
      out := by
  have hanswers := fun p hp => (hshards p hp).answer
  refine ⟨h.nodup, fun id => (h.mem_map_iff id).trans (mem_flatMap_groupIds hne hanswers id),
    fun hkeys o ho => ?_, fun o ho a ha => ?_⟩
  · obtain ⟨row, hrow, hsame⟩ := h.cells o ho
    obtain ⟨p, hp, hrow⟩ := List.mem_flatMap.1 hrow
    obtain ⟨raw, hraw, hsame'⟩ := (hanswers p hp).cells hkeys row hrow
    exact ⟨raw, List.mem_flatMap.2 ⟨p, hp, hraw⟩, fun k hk => (hsame k hk).trans (hsame' k hk)⟩
  · obtain ⟨acc, hholds, hresult⟩ := h.shows o ho a ha
    obtain ⟨parts, hrows, hraws, -, hparts⟩ := exists_parts hanswers (groupId keys o)
    have hnonempty : parts ≠ [] := by
      rintro rfl
      obtain ⟨row, hrow, hsame⟩ := h.cells o ho
      have hmem : row ∈ rowsOf keys (groupId keys o) (shards.flatMap (·.result.rows)) :=
        List.mem_filter.2 ⟨hrow, decide_eq_true hsame.groupId_eq.symm⟩
      rw [hrows] at hmem
      exact absurd hmem List.not_mem_nil
    rw [hrows] at hholds
    rw [PlacedAggregate.ShowsWhole, hraws]
    exact hholds.shows_of_parts (SelectList.isPlaced_of_mem ha) (hdistinct a ha) hnonempty
      (fun part hpart => hparts part hpart a ha) hresult

/-- Answers do not depend on the order of the raw rows. -/
theorem IsAnswer.of_perm {raws' : List Row}
    (h : IsAnswer (PlacedAggregate.ShowsWhole list) keys aggregates raws out)
    (hperm : raws ~ raws') :
    IsAnswer (PlacedAggregate.ShowsWhole list) keys aggregates raws' out := by
  have hids : groupIds keys raws ~ groupIds keys raws' := by
    rw [groupIds, groupIds]
    split
    · exact .refl _
    · exact hperm.map _
  refine ⟨h.nodup, fun id => (h.mem_iff id).trans hids.mem_iff, fun hkeys o ho => ?_,
    fun o ho a ha => ?_⟩
  · obtain ⟨raw, hraw, hsame⟩ := h.cells hkeys o ho
    exact ⟨raw, hperm.subset hraw, hsame⟩
  · exact Aggregate.Shows.perm (h.shows o ho a ha) ((rowsOf_perm _ hperm).filterMap _)

/-- There is a group if there is a row, or no key to group by. -/
theorem groupIds_ne_nil (h : keys = [] ∨ raws ≠ []) : groupIds keys raws ≠ [] := by
  rw [groupIds]
  split
  · exact List.cons_ne_nil _ _
  · rename_i hkeys
    exact mt List.map_eq_nil_iff.1 (h.resolve_left hkeys)

/-- Without a key there is one row. -/
theorem IsAnswer.length_eq_one (h : IsAnswer shows [] aggregates raws out) : out.length = 1 := by
  have hperm : out.map (groupId []) ~ [[]] :=
    (List.perm_ext_iff_of_nodup h.nodup (List.nodup_singleton _)).2 h.mem_iff
  simpa using hperm.length_eq

end Answers

/-! ## Merged answers

The merged rows are aggregated from the nodes' rows, and by the sections above that makes them an
answer over all raw rows. -/

/-- A SELECT that aggregates all values rather than different ones, and is not filtered or paged
after merging. -/
structure Select.IsAggregating (s : Select) : Prop where
  hasAggregate : s.list.hasAggregate = true
  distinct : ∀ a ∈ s.list.aggregates, a.distinct = false
  having : s.having = none
  window : s.window? = none

section Merge

variable {types : Nat → Variant} {dialect : Dialect} {schema : Schema} {s : Select}
  {parameters : List Value} {labels : List String} {caseSensitive : List Bool}
  {keys orderKeys : List SortKey} {results : List PartialResult} {raws : List Row}
  {shards : List Shard}

/-- **Either cursor over groups goes through aggregated rows.** -/
theorem exists_groupCursor_eq (hgroup : sortKeys s.groupBy labels caseSensitive = .ok keys)
    (horder : sortKeys s.orderBy labels caseSensitive = .ok orderKeys)
    (hconsistent : ∀ item ∈ s.groupBy ++ s.orderBy, item.IsConsistent labels)
    (hexact : ∀ k ∈ keys, (types k.index).IsExact)
    (hkeys : ∀ k ∈ keys, ∀ a ∈ s.list.aggregates, k.index ≠ a.index)
    (hrows : Foldable types keys s.list.aggregates (results.flatMap (·.rows)))
    (hne : results.flatMap (·.rows) ≠ []) (hwide : ∀ r ∈ results, r.IsWide labels.length)
    (hsorted : ∀ r ∈ results, r.rows.Pairwise (RowLe orderKeys)) (columns : Nat) :
    ∃ base out, groupCursor s s.groupBy labels caseSensitive results = .ok base ∧
      base.Yields columns (out.map (visibleCells columns)) ∧
      IsAggregated keys s.list.aggregates (results.flatMap (·.rows)) out := by
  have hplaced : ∀ a ∈ s.list.aggregates, a.IsPlaced := fun a ha => SelectList.isPlaced_of_mem ha
  have hresults : results ≠ [] := by
    rintro rfl
    exact hne rfl
  obtain ⟨rows, hperm, ⟨base, out, out', hbase, hyields, hout', hout⟩ | ⟨⟨e, he⟩, -⟩⟩ :=
    groupCursor_cases hgroup horder hconsistent hexact hrows.hasVariants hresults hwide hsorted
      (.inl hne) columns
  · have haggregated := isAggregated_of_groupedRows hplaced s.list.pairwise_index hkeys
      (hrows.perm hperm.symm) hout'
    exact ⟨base, out, hbase, hyields, (haggregated.of_perm hperm).perm hout.symm⟩
  · obtain ⟨out, hout⟩ :=
      (hrows.perm hperm.symm).exists_groupedRows_eq hplaced
    cases hout.symm.trans he

/-- **The cursor over the groups of the nodes shows an answer** to the query over their raw rows. -/
theorem exists_groupCursor_isAnswer (hlabels : labels.length = s.list.columnCount)
    (hgroup : sortKeys s.groupBy labels caseSensitive = .ok keys)
    (horder : sortKeys s.orderBy labels caseSensitive = .ok orderKeys)
    (hconsistent : ∀ item ∈ s.groupBy ++ s.orderBy, item.IsConsistent labels)
    (hexact : ∀ k ∈ keys, (types k.index).IsExact)
    (hkeys : ∀ k ∈ keys, k.index < s.list.items.length ∧
      ∀ a ∈ s.list.aggregates, k.index ≠ a.index)
    (hdistinct : ∀ a ∈ s.list.aggregates, a.distinct = false) (hne : shards ≠ [])
    (hlength : shards.length < 2 ^ 32)
    (hraws : ∀ raw ∈ shards.flatMap (·.raws), IsRaw types s.list keys raw)
    (hshards : ∀ p ∈ shards, p.Answers s.list keys orderKeys labels)
    (hsome : keys = [] ∨ shards.flatMap (·.raws) ≠ []) :
    ∃ base rows,
      groupCursor s s.groupBy labels caseSensitive (shards.map (·.result)) = .ok base ∧
      base.Yields labels.length rows ∧
      IsAnswer (PlacedAggregate.ShowsWhole s.list) keys s.list.aggregates
        (shards.flatMap (·.raws)) rows := by
  have hflat : (shards.map (·.result)).flatMap (·.rows) = shards.flatMap (·.result.rows) :=
    List.flatMap_map ..
  have hwide : ∀ r ∈ shards.map (·.result), r.IsWide labels.length :=
    List.forall_mem_map.2 fun p hp => (hshards p hp).whole.isWide
  have hsorted : ∀ r ∈ shards.map (·.result), r.rows.Pairwise (RowLe orderKeys) :=
    List.forall_mem_map.2 fun p hp => (hshards p hp).sorted
  have hfold := foldable_of_answers
    (fun p hp raw hraw => hraws raw (List.mem_flatMap.2 ⟨p, hp, hraw⟩)) hshards hdistinct hlength
  have hrows := rows_ne_nil_of_groupIds hne (fun p hp => (hshards p hp).answer)
    (groupIds_ne_nil hsome)
  obtain ⟨base, out, hbase, hyields, haggregated⟩ :=
    exists_groupCursor_eq hgroup horder hconsistent hexact (fun k hk => (hkeys k hk).2)
      (hflat ▸ hfold) (hflat ▸ hrows) hwide hsorted labels.length
  rw [hflat] at haggregated
  -- the columns that are shown are those of keys and aggregates
  have hitems : s.list.items.length ≤ labels.length := by
    rw [hlabels, SelectList.columnCount]
    exact Nat.le_add_right _ _
  have hvisible := haggregated.map_visibleCells
    (fun k hk => Nat.lt_of_lt_of_le (hkeys k hk).1 hitems)
    (fun a ha => Nat.lt_of_lt_of_le (SelectList.index_lt_of_mem ha) hitems)
  exact ⟨base, _, hbase, hyields, hvisible.isAnswer hne hshards hdistinct⟩

/-- **Merging the answers of the nodes answers the query over all raw rows**, however they are
spread over the nodes. -/
theorem merge_isAnswer (hs : s.IsAggregating) (hlabels : labels.length = s.list.columnCount)
    (hgroup : sortKeys s.groupBy labels
      (caseSensitivity labels (Statement.select s).tables schema) = .ok keys)
    (horder : sortKeys s.orderBy labels
      (caseSensitivity labels (Statement.select s).tables schema) = .ok orderKeys)
    (hconsistent : ∀ item ∈ s.groupBy ++ s.orderBy, item.IsConsistent labels)
    (hexact : ∀ k ∈ keys, (types k.index).IsExact)
    (hkeys : ∀ k ∈ keys, k.index < s.list.items.length ∧
      ∀ a ∈ s.list.aggregates, k.index ≠ a.index)
    (hcount : 1 < shards.length) (hlength : shards.length < 2 ^ 32)
    (hraws : ∀ raw ∈ raws, IsRaw types s.list keys raw)
    (hsplit : shards.flatMap (·.raws) ~ raws)
    (hshards : ∀ p ∈ shards, p.Answers s.list keys orderKeys labels)
    (hsome : s.groupBy = [] ∨ raws ≠ []) :
    ∃ out, (merge dialect schema (.select s) parameters (shards.map (·.result))).bind
        MergedResult.rows = .ok out ∧
      IsAnswer (PlacedAggregate.ShowsWhole s.list) keys s.list.aggregates raws out ∧
      (s.groupBy = [] → out.length = 1) := by
  have hwhole : ∀ r ∈ shards.map (·.result), r.IsWhole labels :=
    List.forall_mem_map.2 fun p hp => (hshards p hp).whole
  have hnil : s.groupBy = [] → keys = [] := fun hnil => by
    rw [hnil] at hgroup
    exact (Except.ok.inj hgroup).symm
  obtain ⟨base, rows, hbase, hyields, hanswer⟩ := exists_groupCursor_isAnswer hlabels hgroup horder
    hconsistent hexact hkeys hs.distinct
    (List.ne_nil_of_length_pos (Nat.lt_trans Nat.zero_lt_one hcount)) hlength
    (fun raw hraw => hraws raw (hsplit.subset hraw)) hshards
    (hsome.imp hnil fun hraws hnil => hraws (hnil ▸ hsplit).nil_eq.symm)
  have hanswer := hanswer.of_perm hsplit
  refine ⟨rows, ?_, hanswer, fun hgroupBy => ?_⟩
  · refine merge_rows_eq_ok (by rwa [List.length_map]) (fun r hr => (hwhole r hr).labels_eq)
      hs.having hs.window ?_ hyields
    rw [baseCursor, hs.hasAggregate, Bool.or_true]
    exact hbase
  · obtain rfl := hnil hgroupBy
    exact hanswer.length_eq_one

end Merge

/-- The average amount of orders, by region. -/
def averagesByRegion : Select where
  tables := ["t_order"]
  list := ⟨[.column "region" none, .aggregate .avg false (some "amount") none], false⟩
  condition := none
  groupBy := [⟨.label "region", .asc, .low, none⟩]
  orderBy := [⟨.label "REGION", .asc, .low, none⟩]
  having := none
  pagination := none
  lock := false
  subquery := false

/-- The columns of a node's result. -/
def averagesLabels : List String :=
  ["region", "AVG(amount)", "AVG_DERIVED_COUNT_0", "AVG_DERIVED_SUM_0"]

/-- A node with orders, by region and amount, and with the number of amounts and their sum that it
returns of a region. -/
def averagesShard (orders : List (String × Value)) (rows : List (String × Int64 × Int64)) :
    Shard where
  raws := orders.map fun order => [.text order.1, order.2]
  result := .ofRows averagesLabels
    (rows.map fun row => [.text row.1, .null, .integer row.2.1, .integer row.2.2])

/-- Two nodes with orders of one region, which they write differently. -/
def averagesShards : List Shard :=
  [averagesShard [("east", .integer 5), ("East", .null), ("west", .integer 1)]
    [("east", 1, 5), ("west", 1, 1)],
   averagesShard [("EAST", .integer 2)] [("EAST", 1, 2)]]

/-- The column of the region, whatever the case of its texts. -/
def byRegion : SortKey := ⟨0, .asc, .low, false⟩

theorem showsPart_average {raws : List Row} {n sum : Int64} {region : String}
    (hne : averagesByRegion.list.numbers 1 raws ≠ [])
    (hcount : n.toInt = (averagesByRegion.list.numbers 1 raws).length)
    (hsum : sum.toInt = (averagesByRegion.list.numbers 1 raws).sum) :
    ∀ a ∈ averagesByRegion.list.aggregates,
      a.ShowsPart averagesByRegion.list raws
        [.text region, .null, .integer n, .integer sum] := by
  have haggregates : averagesByRegion.list.aggregates =
      [⟨.avg, false, "AVG(amount)", 1, SelectList.derivedColumns false 0 2⟩] := by decide
  rw [haggregates, List.forall_mem_singleton]
  have hderived : ∀ d ∈ SelectList.derivedColumns false 0 2,
      d.function.Shows (averagesByRegion.list.numbers 1 raws)
        (cellAt [.text region, .null, .integer n, .integer sum] d.index) := by
    simp only [SelectList.derivedColumns, List.forall_mem_cons]
    exact ⟨congrArg some hcount, .inr ⟨hne, _, rfl, congrArg some hsum⟩, by simp⟩
  exact hderived

theorem averagesShards_answers :
    ∀ p ∈ averagesShards, p.Answers averagesByRegion.list [byRegion] [byRegion] averagesLabels := by
  have hsummands : ∀ p ∈ averagesShards, ∀ o ∈ p.result.rows,
      ∀ a ∈ averagesByRegion.list.aggregates, ∀ i ∈ a.inputs, (cellAt o i).IsIntegerOrNull := by
    simp only [Value.IsIntegerOrNull]
    decide
  simp only [averagesShards, List.forall_mem_cons] at hsummands ⊢
  obtain ⟨heast, hwest, -⟩ := hsummands
  refine ⟨⟨⟨rfl, rfl, by decide⟩, ⟨by decide, fun id => ?_, fun _ => by decide, ?_⟩,
      fun o ho a ha i hi => (heast o ho a ha i hi).isSummand, by decide⟩,
    ⟨⟨rfl, rfl, by decide⟩, ⟨by decide, fun id => ?_, fun _ => by decide, ?_⟩,
      fun o ho a ha i hi => (hwest o ho a ha i hi).isSummand, by decide⟩, by simp⟩
  · change id ∈ [[Value.text "east"], [.text "west"]] ↔
      id ∈ [[Value.text "east"], [.text "east"], [.text "west"]]
    simp
  · exact List.forall_mem_cons.2 ⟨showsPart_average (by decide) (by decide) (by decide),
      List.forall_mem_singleton.2 (showsPart_average (by decide) (by decide) (by decide))⟩
  · exact Iff.rfl
  · exact List.forall_mem_singleton.2 (showsPart_average (by decide) (by decide) (by decide))

/-- The average of the region is that of its amounts, on whichever node they are. -/
theorem merge_averagesByRegion :
    ∃ out, (merge .mySQL .empty (.select averagesByRegion) []
        (averagesShards.map (·.result))).bind MergedResult.rows = .ok out ∧
      IsAnswer (PlacedAggregate.ShowsWhole averagesByRegion.list) [byRegion]
        averagesByRegion.list.aggregates (averagesShards.flatMap (·.raws)) out := by
  have hraws : ∀ raw ∈ averagesShards.flatMap (·.raws),
      IsRaw (fun _ => .text) averagesByRegion.list [byRegion] raw := by
    have hall : ∀ raw ∈ averagesShards.flatMap (·.raws),
        Row.HasVariants (fun _ => .text) [byRegion] raw ∧
          ∀ a ∈ averagesByRegion.list.aggregates, (cellAt raw a.index).IsIntegerOrNull := by
      simp only [Row.HasVariants, Value.HasVariant, Value.IsIntegerOrNull]
      decide
    exact fun raw hraw => ⟨(hall raw hraw).1, (hall raw hraw).2⟩
  have hs : averagesByRegion.IsAggregating := ⟨by decide, by decide, rfl, rfl⟩
  have hconsistent : ∀ item ∈ averagesByRegion.groupBy ++ averagesByRegion.orderBy,
      item.IsConsistent averagesLabels := by
    simp [averagesByRegion, OrderItem.IsConsistent]
  have hgroup : sortKeys averagesByRegion.groupBy averagesLabels
      (caseSensitivity averagesLabels (Statement.select averagesByRegion).tables .empty) =
        .ok [byRegion] := by decide
  have horder : sortKeys averagesByRegion.orderBy averagesLabels
      (caseSensitivity averagesLabels (Statement.select averagesByRegion).tables .empty) =
        .ok [byRegion] := by decide
  obtain ⟨out, hout, hanswer, -⟩ :=
    merge_isAnswer hs (by decide) hgroup horder hconsistent (by decide) (by decide) (by decide)
      (by decide) hraws (.refl _) averagesShards_answers (.inr (by decide))
  exact ⟨out, hout, hanswer⟩

end ScatterGather
