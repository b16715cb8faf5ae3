import ScatterGather.Proofs.Merge.GroupedPages

/-!
# Proofs/Merge/ArrivalOrder — groups in memory do not depend on the order of rows

Groups in memory take in their rows as these come, and keep the cells of the first one.  Whatever
order the rows come in, and whichever results they come from, the groups have the same identities
and aggregates that tie (`exists_matched`).  Rows of one group tie in any order by group items and
aggregates (`SameGroupRow.compareRows_eq`), so sorting puts them in places that tie: **two merges of
the same rows tie row by row** (`exists_buffered_ties`).
-/

namespace ScatterGather

open scoped List

/-! ## Cells that tie

What DISTINCT and GROUP BY take for one value is decided by keys of hash tables, and an order is
decided by comparing.  The two agree on ties but for doubles. -/

namespace Value

variable {a b : Value}

@[simp] theorem variant?_key (v : Value) : v.key.variant? = v.variant? := by
  cases v <;> rfl

/-- Cells that tie also do so in lower case. -/
theorem order?_foldCase_eq (h : a.order? b = some .eq) :
    a.foldCase.order? b.foldCase = some .eq := by
  have htexts : ∀ {x y : String}, some (orderTexts x y) = some .eq →
      some (orderTexts (Text.lower x) (Text.lower y)) = some .eq := by
    intro x y h
    rw [orderTexts, Option.some.injEq, Std.LawfulEqCmp.compare_eq_iff_eq] at h
    rw [orderTexts, h]
    exact congrArg some Std.ReflCmp.compare_self
  cases a <;> cases b
  case text.text | text.char | char.text | char.char => exact htexts h
  all_goals exact h

/-- Cells of one key do not come one before the other: they tie, or do not compare. -/
theorem getD_order?_eq_of_key (ha : a.isReal = false) (h : a.key = b.key) :
    (a.order? b).getD .eq = .eq := by
  have hvariant : b.variant? = a.variant? := by
    rw [← variant?_key a, h, variant?_key]
  cases ht : a.variant? with
  | none =>
    cases a <;> simp [variant?] at ht
    cases b <;> simp [variant?] at hvariant
    rfl
  | some t =>
    by_cases hexact : t.IsExact
    · rw [(order?_eq_eq_iff ht (hvariant.trans ht) hexact).2 h]
      rfl
    · cases a with
      | null => cases ht
      | json s => cases b <;> rfl
      | real x => cases ha
      | _ =>
        obtain rfl := Option.some.inj ht
        exact absurd (by decide) hexact

theorem AreComparable.subset {cells cells' : List Value} (h : AreComparable cells)
    (hsub : cells' ⊆ cells) : AreComparable cells' :=
  ⟨fun v hv => h.real v (hsub hv), fun v hv w hw => h.order v (hsub hv) w (hsub hw)⟩

end Value

namespace SortKey

variable {k : SortKey} {a b : Value}

/-- **Cells that tie do so for a key.** -/
theorem compare_eq_of_order? (h : a.order? b = some .eq) : k.compare a b = .eq := by
  cases hna : a.isNull with
  | true =>
    obtain rfl := Value.eq_null_of_isNull hna
    cases b with
    | null => rfl
    | _ => cases h
  | false =>
    cases hnb : b.isNull with
    | true =>
      obtain rfl := Value.eq_null_of_isNull hnb
      cases a with
      | null => cases hna
      | _ => cases h
    | false =>
      rw [compare_of_not_isNull hna hnb, compareCells_eq_eq_iff, orderCells, folded, folded]
      split
      · rw [h]
        rfl
      · rw [Value.order?_foldCase_eq h]
        rfl

/-- **Cells that a key sees as one tie.** -/
theorem compare_eq_of_key_folded (ha : a.isReal = false)
    (h : (k.folded a).key = (k.folded b).key) : k.compare a b = .eq := by
  have hnull : a.isNull = b.isNull := by
    rw [← isNull_folded k a, ← isNull_folded k b, ← Value.isNull_key, h, Value.isNull_key]
  cases hna : a.isNull with
  | true =>
    rw [compare, hna, ← hnull, hna]
  | false =>
    rw [compare_of_not_isNull hna (hnull ▸ hna), compareCells_eq_eq_iff, orderCells]
    exact Value.getD_order?_eq_of_key (by rwa [isReal_folded]) h

end SortKey

/-! ## Rows that tie

An order by group items and aggregates looks at nothing that tells two rows of one group apart. -/

section Rows

variable {keys orderKeys : List SortKey} {aggregates : List PlacedAggregate} {a b : Row}

theorem compareRows_eq_of_forall (h : ∀ k ∈ keys,
    k.compare (cellAt a k.index) (cellAt b k.index) = .eq) : compareRows keys a b = .eq := by
  induction keys with
  | nil => rfl
  | cons k keys ih =>
    obtain ⟨hk, h⟩ := List.forall_mem_cons.1 h
    rw [compareRows_cons, hk, ih h]
    rfl

/-- Each key looks at a column of the group keys as one of those does, or at the column of an
aggregate. -/
def AreNamed (keys : List SortKey) (aggregates : List PlacedAggregate)
    (orderKeys : List SortKey) : Prop :=
  ∀ k ∈ orderKeys, (∃ k' ∈ keys, k'.index = k.index ∧ k'.caseSensitive = k.caseSensitive) ∨
    ∃ p ∈ aggregates, p.index = k.index

/-- **What one group shows ties** in an order by group keys and aggregates. -/
theorem SameGroupRow.compareRows_eq (h : SameGroupRow keys aggregates a b)
    (hnamed : AreNamed keys aggregates orderKeys)
    (hreal : ∀ k ∈ orderKeys, (cellAt a k.index).isReal = false) :
    compareRows orderKeys a b = .eq := by
  refine compareRows_eq_of_forall fun k hk => ?_
  obtain ⟨k', hk', hindex, hcase⟩ | ⟨p, hp, hindex⟩ := hnamed k hk
  · exact SortKey.compare_eq_of_key_folded (hreal k hk)
      (folded_eq_of_groupId hk' hindex hcase h.1)
  · exact SortKey.compare_eq_of_order? (hindex ▸ h.2 p hp)

end Rows

/-! ## Groups of the same rows

Groups are matched by identity.  Sorting both sides then leaves matched rows where they tie, though
rows of one place in the order may have changed places among themselves. -/

/-- **Rows that are aggregated whatever their order**: fewer than 2³², no doubles in the columns of
the group keys, inputs that the aggregates take, and cells that compare in the other columns sorted
by. -/
structure AreAggregable (aggregates : List PlacedAggregate) (keys sorted : List SortKey)
    (rows : List Row) : Prop where
  length : rows.length < 2 ^ 32
  hasNoDoubles : ∀ row ∈ rows, Row.HasNoDoubles keys row
  takesAll : ∀ a ∈ aggregates, a.TakesAll rows
  comparable : ∀ k ∈ sorted, (∀ a ∈ aggregates, k.index ≠ a.index) →
    Value.AreComparable (rows.map (cellAt · k.index))

section Groups

variable {list : SelectList} {keys sorted orderKeys : List SortKey}
  {aggregates : List PlacedAggregate} {rows rows' shown shown' out out' : List Row} {o : Row}
  {results results' : List PartialResult} {width : Nat}

theorem AreAggregable.perm (h : AreAggregable aggregates keys sorted rows) (hperm : rows' ~ rows) :
    AreAggregable aggregates keys sorted rows' :=
  ⟨hperm.length_eq ▸ h.length, fun row hrow => h.hasNoDoubles row (hperm.mem_iff.1 hrow),
    fun a ha => (h.takesAll a ha).subset hperm.subset,
    fun k hk hbeside => (h.comparable k hk hbeside).subset (hperm.map _).subset⟩

/-- Every group shows a row. -/
theorem AreAggregable.exists_groupedRows_eq (h : AreAggregable aggregates keys sorted rows)
    (hplaced : ∀ a ∈ aggregates, a.IsPlaced) :
    ∃ out, groupedRows keys aggregates rows = .ok out := by
  refine exists_mapM_eq_ok fun id _ => ?_
  have hsub : rowsOf keys id rows <+ rows := List.filter_sublist
  have hlength := Nat.lt_of_le_of_lt hsub.length_le h.length
  have htakes : ∀ a ∈ aggregates, a.TakesAll (rowsOf keys id rows) := fun a ha =>
    (h.takesAll a ha).subset hsub.subset
  exact exists_groupRow_eq (fun a ha => (htakes a ha).feeds (hplaced a ha) hlength)
    fun a ha => (htakes a ha).exists_result_eq (hplaced a ha) hlength

/-- The identities of rows do not depend on their order. -/
theorem idsOf_perm (hperm : rows' ~ rows) : idsOf keys rows' ~ idsOf keys rows :=
  (hperm.map _).dedup

/-- **The groups of the same rows match**, each with one of the same key and aggregates that tie. -/
theorem exists_matched (h : AreAggregable aggregates keys sorted rows)
    (hplaced : ∀ a ∈ aggregates, a.IsPlaced) (hindex : aggregates.Pairwise (·.index < ·.index))
    (hperm : rows' ~ rows) (hshown : groupedRows keys aggregates rows = .ok shown)
    (hshown' : groupedRows keys aggregates rows' = .ok shown') :
    ∃ matched, matched ~ shown ∧ List.Forall₂ (SameGroupRow keys aggregates) matched shown' := by
  obtain ⟨matched, hmatched, hperm'⟩ :=
    List.perm_comp_forall₂ (idsOf_perm hperm) (mapM_eq_ok.1 hshown)
  refine ⟨matched, hperm', forall₂_of_common hmatched (mapM_eq_ok.1 hshown')
    fun id hid o o' ho ho' => ?_⟩
  have hsub : rowsOf keys id rows' <+ rows' := List.filter_sublist
  have h' := h.perm hperm
  exact sameGroupRow_of_perm hplaced hindex (rowsOf_perm id hperm.symm)
    (fun row hrow => (mem_rowsOf.1 hrow).2)
    (fun a ha => (h'.takesAll a ha).subset hsub.subset)
    (Nat.lt_of_le_of_lt hsub.length_le h'.length) ho' ho

/-- What groups show, in two orders, still matches. -/
theorem exists_matched_of_perm {R : Row → Row → Prop} {matched : List Row}
    (hmatched : matched ~ shown) (hforall : List.Forall₂ R matched shown') (hout : out ~ shown)
    (hout' : out' ~ shown') : ∃ matched, matched ~ out ∧ List.Forall₂ R matched out' := by
  obtain ⟨matched', hforall', hperm⟩ := List.perm_comp_forall₂ hout' hforall.flip
  exact ⟨matched', hperm.trans (hmatched.trans hout.symm), hforall'.flip⟩

/-- A row that some group of the rows shows. -/
def IsShown (aggregates : List PlacedAggregate) (rows : List Row) (o : Row) : Prop :=
  ∃ group, group ≠ [] ∧ group <+~ rows ∧ groupRow aggregates group = .ok o

/-- What groups of some of the rows show is shown by groups of them. -/
theorem isShown_of_groupedRows (h : groupedRows keys aggregates rows' = .ok shown)
    (hperm : rows' ~ rows) (ho : o ∈ shown) : IsShown aggregates rows o := by
  obtain ⟨id, hid, hgroup⟩ := exists_of_mem_mapM h ho
  obtain ⟨first, rest, heq, -, -⟩ := exists_rowsOf_eq_cons hid
  refine ⟨rowsOf keys id rows', by simp [heq], ?_, hgroup⟩
  exact List.filter_sublist.subperm.trans hperm.subperm

/-- **What groups show can be sorted.** -/
theorem AreAggregable.areComparable (h : AreAggregable aggregates keys sorted rows)
    (hplaced : ∀ a ∈ aggregates, a.IsPlaced) (hindex : aggregates.Pairwise (·.index < ·.index))
    (hshown : ∀ o ∈ shown, IsShown aggregates rows o) :
    ∀ k ∈ sorted, Value.AreComparable (shown.map (cellAt · k.index)) := by
  intro k hk
  by_cases hnamed : ∃ a ∈ aggregates, k.index = a.index
  · obtain ⟨a, ha, heq⟩ := hnamed
    refine (h.takesAll a ha).areComparable (hplaced a ha) h.length
      (List.forall_mem_map.2 fun o ho => ?_)
    obtain ⟨group, -, hsub, hgroup⟩ := hshown o ho
    exact ⟨group, hsub, heq ▸ result_of_groupRow hindex hgroup a ha⟩
  · have hbeside : ∀ a ∈ aggregates, k.index ≠ a.index := fun a ha heq => hnamed ⟨a, ha, heq⟩
    refine (h.comparable k hk hbeside).subset fun v hv => ?_
    obtain ⟨o, ho, rfl⟩ := List.mem_map.1 hv
    obtain ⟨group, hne, hsub, hgroup⟩ := hshown o ho
    obtain ⟨first, rest, rfl⟩ := List.exists_cons_of_ne_nil hne
    rw [sameBeside_of_groupRow hgroup k.index hbeside]
    exact List.mem_map_of_mem (hsub.subset List.mem_cons_self)

/-- **Groups of the same rows tie in order**, each with the one in its place. -/
theorem AreAggregable.forall₂_sortRows (h : AreAggregable aggregates keys sorted rows)
    (hplaced : ∀ a ∈ aggregates, a.IsPlaced) (hindex : aggregates.Pairwise (·.index < ·.index))
    (hnamed : AreNamed keys aggregates sorted)
    (hshown : ∀ o ∈ shown ++ shown', IsShown aggregates rows o) {matched : List Row}
    (hmatched : matched ~ sortRows sorted shown)
    (hforall : List.Forall₂ (SameGroupRow keys aggregates) matched (sortRows sorted shown')) :
    List.Forall₂ (fun a b => compareRows sorted a b = .eq) (sortRows sorted shown)
      (sortRows sorted shown') := by
  have hcomparable := h.areComparable hplaced hindex hshown
  have hpreorder := preorderOn_compareRows_of_areComparable hcomparable
  have hmem : ∀ o ∈ sortRows sorted shown, o ∈ shown ++ shown' := fun o ho =>
    List.mem_append_left _ ((sortRows_perm sorted shown).mem_iff.1 ho)
  have hmem' : ∀ o ∈ sortRows sorted shown', o ∈ shown ++ shown' := fun o ho =>
    List.mem_append_right _ ((sortRows_perm sorted shown').mem_iff.1 ho)
  refine hpreorder.forall₂_of_perm hmem hmem'
    (pairwise_sortRows hpreorder fun o ho => List.mem_append_left _ ho)
    (pairwise_sortRows hpreorder fun o ho => List.mem_append_right _ ho) hmatched ?_
  obtain ⟨hlength, hzip⟩ := List.forall₂_iff_zip.1 hforall
  refine List.forall₂_iff_zip.2 ⟨hlength, fun {a b} hab => ?_⟩
  have ha := hmem a (hmatched.mem_iff.1 (List.of_mem_zip hab).1)
  exact (hzip hab).compareRows_eq hnamed fun k hk =>
    (hcomparable k hk).real _ (List.mem_map_of_mem ha)

end Groups

/-! ## Merges of the same rows

The row of no rows at all needs a word of its own: it belongs to no group, and is the same for any
rows. -/

section Merges

variable {s : Select} {list : SelectList} {labels : List String} {caseSensitive : List Bool}
  {keys orderKeys : List SortKey} {results results' : List PartialResult} {width : Nat}

/-- The row of no rows at all holds NULLs and zeros. -/
theorem cellAt_emptyRow (list : SelectList) (i : Nat) :
    cellAt (emptyRow list) i = .null ∨ cellAt (emptyRow list) i = .integer 0 := by
  rw [emptyRow]
  revert i
  refine List.foldlRecOn (motive := fun row => ∀ i, cellAt row i = .null ∨
    cellAt row i = .integer 0) _ _ (fun i => .inl (cellAt_replicate _ i)) fun row hrow a _ i => ?_
  split
  · rw [cellAt_setCell]
    split
    · exact .inr rfl
    · exact hrow i
  · exact hrow i

/-- The cells of the row of no rows are equal to themselves. -/
theorem order?_emptyRow_self (list : SelectList) (i : Nat) :
    (cellAt (emptyRow list) i).order? (cellAt (emptyRow list) i) = some .eq := by
  obtain h | h := cellAt_emptyRow list i <;> rw [h] <;> rfl

/-- The keys that groups in memory are sorted by: the group keys if there are no others. -/
def groupOrder (keys orderKeys : List SortKey) : List SortKey :=
  if orderKeys.isEmpty then keys else orderKeys

/-- Groups in memory are what the groups show, sorted. -/
theorem AreAggregable.exists_groupAll_eq
    (h : AreAggregable list.aggregates keys (groupOrder keys orderKeys) (results.flatMap (·.rows)))
    (hne : results.flatMap (·.rows) ≠ []) (hwide : ∀ r ∈ results, r.IsWide width) :
    ∃ rows shown, groupAll list keys orderKeys results =
        .ok (sortRows (groupOrder keys orderKeys) rows) ∧
      groupedRows keys list.aggregates (results.flatMap (·.rows)) = .ok shown ∧ rows ~ shown := by
  obtain ⟨rows, shown, hall, hshown, hperm⟩ | ⟨e, e', -, he⟩ :=
    groupAll_cases list orderKeys (.of_hasNoDoubles h.hasNoDoubles) hne hwide
  · exact ⟨rows, shown, hall, hshown, hperm⟩
  · obtain ⟨out, hout⟩ := h.exists_groupedRows_eq fun a ha => SelectList.isPlaced_of_mem ha
    cases hout.symm.trans he

/-- **Groups in memory of the same rows tie row by row.** -/
theorem AreAggregable.exists_groupAll_ties
    (h : AreAggregable list.aggregates keys (groupOrder keys orderKeys) (results.flatMap (·.rows)))
    (hnamed : AreNamed keys list.aggregates (groupOrder keys orderKeys))
    (hperm : results'.flatMap (·.rows) ~ results.flatMap (·.rows))
    (hwide : ∀ r ∈ results, r.IsWide width) (hwide' : ∀ r ∈ results', r.IsWide width) :
    ∃ out out', groupAll list keys orderKeys results = .ok out ∧
      groupAll list keys orderKeys results' = .ok out' ∧
      (∃ matched, matched ~ out ∧
        List.Forall₂ (SameGroupRow keys list.aggregates) matched out') ∧
      List.Forall₂ (fun a b => compareRows (groupOrder keys orderKeys) a b = .eq) out out' := by
  have hplaced : ∀ a ∈ list.aggregates, a.IsPlaced := fun a ha => SelectList.isPlaced_of_mem ha
  by_cases hnil : results.flatMap (·.rows) = []
  · have hnil' : results'.flatMap (·.rows) = [] := (hnil ▸ hperm).eq_nil
    refine ⟨_, _, groupAll_eq_of_nil keys orderKeys hnil hwide,
      groupAll_eq_of_nil keys orderKeys hnil' hwide', ⟨_, .refl _, ?_⟩, ?_⟩
    · exact .cons ⟨rfl, fun p _ => order?_emptyRow_self list p.index⟩ .nil
    · exact .cons (compareRows_eq_of_forall fun k _ =>
        SortKey.compare_eq_of_order? (order?_emptyRow_self list k.index)) .nil
  · -- the groups match before they are sorted, and sorting only rearranges them
    have hnil' : results'.flatMap (·.rows) ≠ [] := fun heq => hnil (heq ▸ hperm).symm.eq_nil
    obtain ⟨rows, shown, hall, hrows, hshown⟩ := h.exists_groupAll_eq hnil hwide
    obtain ⟨rows', shown', hall', hrows', hshown'⟩ := (h.perm hperm).exists_groupAll_eq hnil' hwide'
    obtain ⟨matched, hmatched, hforall⟩ :=
      exists_matched h hplaced list.pairwise_index hperm hrows hrows'
    obtain ⟨matched, hmatched, hforall⟩ := exists_matched_of_perm hmatched hforall
      ((sortRows_perm (groupOrder keys orderKeys) rows).trans hshown)
      ((sortRows_perm (groupOrder keys orderKeys) rows').trans hshown')
    refine ⟨_, _, hall, hall', ⟨matched, hmatched, hforall⟩, ?_⟩
    refine h.forall₂_sortRows hplaced list.pairwise_index hnamed
      (List.forall_mem_append.2 ⟨fun o ho => ?_, fun o ho => ?_⟩) hmatched hforall
    · exact isShown_of_groupedRows hrows (.refl _) (hshown.mem_iff.1 ho)
    · exact isShown_of_groupedRows hrows' hperm (hshown'.mem_iff.1 ho)

/-- Items bound to one column see it with the same case. -/
theorem areNamed_of_sortKeys {aggregates : List PlacedAggregate}
    (hkeys : sortKeys s.groupBy labels caseSensitive = .ok keys)
    (horder : sortKeys s.orderBy labels caseSensitive = .ok orderKeys)
    (hnamed : ∀ k ∈ orderKeys, (∃ k' ∈ keys, k'.index = k.index) ∨
      ∃ a ∈ aggregates, a.index = k.index) :
    AreNamed keys aggregates (groupOrder keys orderKeys) := by
  intro k hk
  rw [groupOrder] at hk
  split at hk
  · exact .inl ⟨k, hk, rfl, rfl⟩
  · refine (hnamed k hk).imp_left ?_
    rintro ⟨k', hk', hindex⟩
    refine ⟨k', hk', hindex, ?_⟩
    rw [caseSensitive_of_sortKeys hkeys k' hk', caseSensitive_of_sortKeys horder k hk, hindex]

/-- **A merge in memory does not depend on the order in which rows arrive**, nor on the results they
come from: it shows as many rows, with the same group keys and aggregates that tie, and each ties in
the order with the one in its place. -/
theorem exists_buffered_ties (hgrouped : s.groupBy ≠ [] ∨ s.list.hasAggregate = true)
    (hmemory : OrderItem.sameAll s.groupBy s.orderBy = false)
    (hkeys : sortKeys s.groupBy labels caseSensitive = .ok keys)
    (horder : sortKeys s.orderBy labels caseSensitive = .ok orderKeys)
    (hnamed : ∀ k ∈ orderKeys, (∃ k' ∈ keys, k'.index = k.index) ∨
      ∃ a ∈ s.list.aggregates, a.index = k.index)
    (hperm : results'.flatMap (·.rows) ~ results.flatMap (·.rows))
    (hwide : ∀ r ∈ results, r.IsWide width) (hwide' : ∀ r ∈ results', r.IsWide width)
    (h : AreAggregable s.list.aggregates keys (groupOrder keys orderKeys)
      (results.flatMap (·.rows))) :
    ∃ out out', baseCursor s labels caseSensitive results = .ok (.buffered out none) ∧
      baseCursor s labels caseSensitive results' = .ok (.buffered out' none) ∧
      (∃ matched, matched ~ out ∧
        List.Forall₂ (SameGroupRow keys s.list.aggregates) matched out') ∧
      List.Forall₂ (fun a b => compareRows (groupOrder keys orderKeys) a b = .eq) out out' := by
  have hcursor : ∀ {rows results}, groupAll s.list keys orderKeys results = .ok rows →
      baseCursor s labels caseSensitive results = .ok (.buffered rows none) := by
    intro rows results hall
    rw [baseCursor, if_pos (by simpa using hgrouped), groupCursor, hkeys]
    simp only [bind, Except.bind, hmemory, Bool.false_eq_true, if_false, horder, hall]
    rfl
  obtain ⟨out, out', hall, hall', hmatched, hties⟩ :=
    h.exists_groupAll_ties (areNamed_of_sortKeys hkeys horder hnamed) hperm hwide hwide'
  exact ⟨out, out', hcursor hall, hcursor hall', hmatched, hties⟩

end Merges

/-- The latest orders of each region, how many amounts there are and their sum: the greatest sum
first, and then by region. -/
def latestByRegion : Select where
  tables := ["t_order"]
  list := ⟨[.column "region" none, .aggregate .max false (some "created") none,
    .aggregate .count true (some "amount") none, .aggregate .sum false (some "amount") none], false⟩
  condition := none
  groupBy := [⟨.label "region", .asc, .low, none⟩]
  orderBy := [⟨.position 4, .desc, .low, none⟩, ⟨.label "region", .asc, .low, none⟩]
  having := none
  pagination := none
  lock := false
  subquery := false

/-- The labels of its columns. -/
def latestLabels : List String :=
  ["region", "MAX(created)", "COUNT(DISTINCT amount)", "SUM(amount)"]

/-- A row of a node: a region, a day or an instant, and an amount. -/
def latestRow (region : String) (created : Value) (amount : Int64) : Row :=
  [.text region, created, .integer amount, .integer amount]

/-- Three rows that come from two nodes. -/
def arrivals : List PartialResult :=
  [.ofRows latestLabels [latestRow "east" (.date ⟨1⟩) 5, latestRow "west" .null 7],
    .ofRows latestLabels [latestRow "East" (.timestamp (Date.midnight ⟨1⟩)) 2]]

/-- The same rows, which come from one node in another order. -/
def rearrivals : List PartialResult :=
  [.ofRows latestLabels [latestRow "East" (.timestamp (Date.midnight ⟨1⟩)) 2,
    latestRow "west" .null 7, latestRow "east" (.date ⟨1⟩) 5]]

/-- The sum, and then the region. -/
def bySumAndRegion : List SortKey := [⟨3, .desc, .low, false⟩, byFirst]

/-- Both regions have a sum of seven, and a day and its midnight are the latest of one of them. -/
theorem exists_buffered_ties_arrivals :
    rearrivals.flatMap (·.rows) ~ arrivals.flatMap (·.rows) ∧
    ∃ out out', baseCursor latestByRegion latestLabels [] arrivals = .ok (.buffered out none) ∧
      baseCursor latestByRegion latestLabels [] rearrivals = .ok (.buffered out' none) ∧
      (∃ matched, matched ~ out ∧
        List.Forall₂ (SameGroupRow [byFirst] latestByRegion.list.aggregates) matched out') ∧
      List.Forall₂ (fun a b => compareRows bySumAndRegion a b = .eq) out out' := by
  have hperm : rearrivals.flatMap (·.rows) ~ arrivals.flatMap (·.rows) := by decide
  have hwide : ∀ r ∈ arrivals ++ rearrivals, r.IsWide 4 := by
    simp only [arrivals, rearrivals, List.cons_append, List.nil_append, List.forall_mem_cons]
    exact ⟨⟨rfl, rfl, by decide⟩, ⟨rfl, rfl, by decide⟩, ⟨rfl, rfl, by decide⟩, by simp⟩
  have htakes : ∀ a ∈ latestByRegion.list.aggregates,
      a.TakesAll (arrivals.flatMap (·.rows)) := by
    refine List.forall_mem_cons.2 ⟨.compared rfl ⟨by decide, by decide⟩,
      List.forall_mem_cons.2 ⟨.counted rfl (by decide),
        List.forall_mem_singleton.2 (.integers ?_)⟩⟩
    simp only [PlacedAggregate.TakesIntegers, Value.IsIntegerOrNull]
    decide
  have hcomparable : ∀ k ∈ bySumAndRegion,
      (∀ a ∈ latestByRegion.list.aggregates, k.index ≠ a.index) →
        Value.AreComparable ((arrivals.flatMap (·.rows)).map (cellAt · k.index)) :=
    List.forall_mem_cons.2 ⟨fun hbeside => absurd hbeside (by decide),
      List.forall_mem_singleton.2 fun _ => ⟨by decide, by decide⟩⟩
  have haggregable : AreAggregable latestByRegion.list.aggregates [byFirst]
      (groupOrder [byFirst] bySumAndRegion) (arrivals.flatMap (·.rows)) :=
    ⟨by decide, by simp only [Row.HasNoDoubles]; decide, htakes, hcomparable⟩
  have hgroup : latestByRegion.groupBy ≠ [] := by simp [latestByRegion]
  have hkeys : sortKeys latestByRegion.groupBy latestLabels [] = .ok [byFirst] := by decide
  have horder : sortKeys latestByRegion.orderBy latestLabels [] = .ok bySumAndRegion := by decide
  exact ⟨hperm, exists_buffered_ties (.inl hgroup) (by decide) hkeys horder (by decide) hperm
    (fun r hr => hwide r (List.mem_append_left _ hr))
    (fun r hr => hwide r (List.mem_append_right _ hr)) haggregable⟩

end ScatterGather
