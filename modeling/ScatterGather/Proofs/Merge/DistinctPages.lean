import ScatterGather.Proofs.Merge.GroupedPages
import ScatterGather.Proofs.Ties

/-!
# Proofs/Merge/DistinctPages — the distinct rows that nodes leave out are not missed

A merge of DISTINCT rows in some order shows each row once, whichever node it came from, so it may
show fewer rows than nodes return.  A row that comes after the first `n` of its node still has `n`
different rows before it or beside it, which all come (`min_atMost_le`).  Hence merging the first
`n` rows of each result shows, up to any place in the order, as many of the first `n` rows as
merging whole results does, and **the pages tie row by row** (`merge_firstRows_ties`).
-/

namespace ScatterGather

open scoped List

/-! ## Keys that see the same cells

The order may name some of the visible columns, while DISTINCT looks at all of them.  Two rows that
are one to DISTINCT therefore tie in the order. -/

/-- Each key looks at a column of the others as one of those does, case counting alike. -/
def AreAmong (orderKeys keys : List SortKey) : Prop :=
  ∀ k ∈ orderKeys, ∃ k' ∈ keys, k'.index = k.index ∧ k'.caseSensitive = k.caseSensitive

section Keys

variable {types : Nat → Variant} {items : List OrderItem} {list : SelectList} {labels : List String}
  {caseSensitive : List Bool} {keys orderKeys : List SortKey} {a b : Row} {i : Nat}

/-- Rows with one identity have one for fewer keys as well. -/
theorem AreAmong.groupId_eq (h : AreAmong orderKeys keys) (hid : groupId keys a = groupId keys b) :
    groupId orderKeys a = groupId orderKeys b := by
  refine groupId_eq_iff.2 fun k hk => ?_
  obtain ⟨k', hk', hindex, hcase⟩ := h k hk
  exact folded_eq_of_groupId hk' hindex hcase hid

theorem AreAmong.isExact (h : AreAmong orderKeys keys)
    (hexact : ∀ k ∈ keys, (types k.index).IsExact) : ∀ k ∈ orderKeys, (types k.index).IsExact := by
  intro k hk
  obtain ⟨k', hk', hindex, -⟩ := h k hk
  exact hindex ▸ hexact k' hk'

theorem AreAmong.hasVariants (h : AreAmong orderKeys keys) (ha : Row.HasVariants types keys a) :
    Row.HasVariants types orderKeys a := by
  intro k hk
  obtain ⟨k', hk', hindex, -⟩ := h k hk
  exact hindex ▸ ha k' hk'

/-- There is a key for every visible column. -/
theorem exists_key_of_everyColumn (h : sortKeys (everyColumn list) labels caseSensitive = .ok keys)
    (hi : i < list.items.length) : ∃ k ∈ keys, k.index = i := by
  have hitem : OrderItem.ofPosition (i + 1) ∈ everyColumn list :=
    List.mem_map.2 ⟨i, List.mem_range.2 hi, rfl⟩
  obtain ⟨k, hk, hkey⟩ := mem_of_mapM_eq_ok h hitem
  obtain ⟨j, hj, rfl⟩ := map_eq_ok.1 hkey
  refine ⟨_, hk, ?_⟩
  rw [OrderItem.column, OrderItem.ofPosition] at hj
  dsimp only at hj
  split at hj
  · exact (Except.ok.inj hj).symm
  · cases hj

/-- **Keys of visible columns** look at the cells that tell DISTINCT rows apart. -/
theorem areAmong_everyColumn (h : sortKeys (everyColumn list) labels caseSensitive = .ok keys)
    (horder : sortKeys items labels caseSensitive = .ok orderKeys)
    (hbelow : ∀ k ∈ orderKeys, k.index < list.items.length) : AreAmong orderKeys keys := by
  intro k hk
  obtain ⟨k', hk', hindex⟩ := exists_key_of_everyColumn h (hbelow k hk)
  refine ⟨k', hk', hindex, ?_⟩
  rw [caseSensitive_of_sortKeys h k' hk', caseSensitive_of_sortKeys horder k hk, hindex]

end Keys

/-! ## How many distinct rows come up to a place

The same row may come from several nodes, so positions in the results say nothing about positions in
the page.  What can be compared is how many distinct rows come no later than a given one: that
number is the same for both merges, up to `n`. -/

/-- **Partial results of nodes that return distinct rows in order**: no two rows of a node are one
to the keys, and cells are of one exact type in each key column. -/
structure AreDistinct (types : Nat → Variant) (keys orderKeys : List SortKey)
    (results : List PartialResult) : Prop where
  nodup : ∀ r ∈ results, (r.rows.map (groupId keys)).Nodup
  sorted : ∀ r ∈ results, r.rows.Pairwise (RowLe orderKeys)
  exact : ∀ k ∈ keys, (types k.index).IsExact
  hasVariants : ∀ row ∈ results.flatMap (·.rows), Row.HasVariants types keys row

section Distinct

variable {types : Nat → Variant} {keys orderKeys : List SortKey} {results : List PartialResult}
  {rows out out' : List Row} {a b v : Row} {id : List Value} {n : Nat}

/-- The first rows of distinct rows are distinct rows. -/
theorem AreDistinct.firstRows (h : AreDistinct types keys orderKeys results) (n : Nat) :
    AreDistinct types keys orderKeys (results.map (·.firstRows n)) := by
  refine ⟨fun r hr => ?_, fun r hr => ?_, h.exact, fun row hrow =>
    h.hasVariants row ((flatMap_firstRows_sublist n results).subset hrow)⟩
  all_goals obtain ⟨r, hmem, rfl⟩ := List.mem_map.1 hr
  · exact (h.nodup r hmem).sublist ((List.take_sublist n r.rows).map _)
  · exact (h.sorted r hmem).sublist (List.take_sublist n r.rows)

/-- Distinct rows of nodes can be put in order. -/
theorem AreDistinct.preorderOn (h : AreDistinct types keys orderKeys results)
    (hamong : AreAmong orderKeys keys) :
    PreorderOn (compareRows orderKeys) (Row.HasVariants types orderKeys) :=
  preorderOn_compareRows (hamong.isExact h.exact)

theorem AreDistinct.hasVariants_of_mem (h : AreDistinct types keys orderKeys results)
    (hamong : AreAmong orderKeys keys) {r : PartialResult} (hr : r ∈ results)
    (ha : a ∈ r.rows) : Row.HasVariants types orderKeys a :=
  hamong.hasVariants (h.hasVariants a (List.mem_flatMap.2 ⟨r, hr, ha⟩))

/-- Rows that are shown have the types of those that came. -/
theorem ShowsGroups.hasVariants (h : ShowsGroups keys [] rows out)
    (hvariants : ∀ row ∈ rows, Row.HasVariants types keys row) :
    ∀ o ∈ out, Row.HasVariants types keys o := by
  obtain ⟨firsts, hsub, -, -, hforall⟩ := h
  intro o ho
  obtain ⟨first, hfirst, hsame⟩ := exists_mem_of_forall₂ hforall ho
  exact (hsame.sameKeyCells (by simp)).hasVariants (hvariants first (hsub hfirst))

/-- The identities of the rows that do not come after `v`. -/
def idsUpTo (keys orderKeys : List SortKey) (v : Row) (out : List Row) : List (List Value) :=
  (out.filter fun o => (compareRows orderKeys o v).isLE).map (groupId keys)

/-- Counting the rows up to a place is counting their identities. -/
theorem atMost_eq_length_idsUpTo (keys orderKeys : List SortKey) (v : Row) (out : List Row) :
    atMost (compareRows orderKeys) v out = (idsUpTo keys orderKeys v out).length := by
  rw [atMost, List.countP_eq_length_filter, idsUpTo, List.length_map]

/-- No identity is counted twice. -/
theorem nodup_idsUpTo (h : ShowsGroups keys [] rows out) : (idsUpTo keys orderKeys v out).Nodup :=
  (h.map_groupId (by simp)).1.sublist (List.filter_sublist.map _)

/-- **The identities up to `v`** are those of the rows up to it, however many rows show them. -/
theorem mem_idsUpTo (hamong : AreAmong orderKeys keys)
    (hexact : ∀ k ∈ keys, (types k.index).IsExact)
    (hvariants : ∀ row ∈ rows, Row.HasVariants types keys row)
    (hv : Row.HasVariants types orderKeys v) (h : ShowsGroups keys [] rows out) :
    id ∈ idsUpTo keys orderKeys v out ↔
      ∃ row ∈ rows, groupId keys row = id ∧ RowLe orderKeys row v := by
  have hids := (h.map_groupId (by simp)).2
  have hshown := h.hasVariants hvariants
  have hcongr : ∀ {a b : Row}, Row.HasVariants types keys a → Row.HasVariants types keys b →
      groupId keys a = groupId keys b → RowLe orderKeys a v → RowLe orderKeys b v := by
    intro a b ha hb hid hle
    have hties := (compareRows_eq_eq_iff (hamong.isExact hexact) (hamong.hasVariants ha)
      (hamong.hasVariants hb)).2 (hamong.groupId_eq hid)
    rwa [RowLe, ← (preorderOn_compareRows (hamong.isExact hexact)).isLE_congr
      (hamong.hasVariants ha) (hamong.hasVariants hb) hv hties]
  constructor
  · intro hid
    obtain ⟨o, ho, rfl⟩ := List.mem_map.1 hid
    obtain ⟨ho, hle⟩ := List.mem_filter.1 ho
    obtain ⟨row, hrow, heq⟩ := List.mem_map.1 ((hids _).1 (List.mem_map_of_mem ho))
    exact ⟨row, hrow, heq, hcongr (hshown o ho) (hvariants row hrow) heq.symm hle⟩
  · rintro ⟨row, hrow, rfl, hle⟩
    obtain ⟨o, ho, heq⟩ := List.mem_map.1 ((hids _).2 (List.mem_map_of_mem hrow))
    refine List.mem_map.2 ⟨o, List.mem_filter.2 ⟨ho, ?_⟩, heq⟩
    exact hcongr (hvariants row hrow) (hshown o ho) heq.symm hle

/-- Fewer rows show no more identities. -/
theorem atMost_firstRows_le (h : AreDistinct types keys orderKeys results)
    (hamong : AreAmong orderKeys keys) (hv : Row.HasVariants types orderKeys v)
    (hshows : ShowsGroups keys [] (results.flatMap (·.rows)) out)
    (hshows' : ShowsGroups keys [] ((results.map (·.firstRows n)).flatMap (·.rows)) out') :
    atMost (compareRows orderKeys) v out' ≤ atMost (compareRows orderKeys) v out := by
  rw [atMost_eq_length_idsUpTo keys, atMost_eq_length_idsUpTo keys]
  refine (List.subperm_of_subset (nodup_idsUpTo hshows') fun id hid => ?_).length_le
  rw [mem_idsUpTo hamong h.exact (h.firstRows n).hasVariants hv hshows'] at hid
  obtain ⟨row, hrow, hid⟩ := hid
  exact (mem_idsUpTo hamong h.exact h.hasVariants hv hshows).2
    ⟨row, (flatMap_firstRows_sublist n results).subset hrow, hid⟩

/-- **A row after the first `n` of its node has `n` different rows up to it that come**: those. -/
theorem le_atMost_of_mem_drop (h : AreDistinct types keys orderKeys results)
    (hamong : AreAmong orderKeys keys) (hv : Row.HasVariants types orderKeys v)
    (hshows' : ShowsGroups keys [] ((results.map (·.firstRows n)).flatMap (·.rows)) out')
    {r : PartialResult} (hr : r ∈ results) (ha : a ∈ r.rows.drop n) (hle : RowLe orderKeys a v) :
    n ≤ atMost (compareRows orderKeys) v out' := by
  have hsplit : (r.rows.take n ++ r.rows.drop n).Pairwise (RowLe orderKeys) := by
    rw [List.take_append_drop]
    exact h.sorted r hr
  have hbefore := (List.pairwise_append.1 hsplit).2.2
  have hfirst : ((r.rows.take n).map (groupId keys)).Nodup :=
    (h.nodup r hr).sublist ((List.take_sublist n r.rows).map _)
  have hsub : (r.rows.take n).map (groupId keys) ⊆ idsUpTo keys orderKeys v out' := by
    intro id hid
    obtain ⟨b, hb, rfl⟩ := List.mem_map.1 hid
    rw [mem_idsUpTo hamong h.exact (h.firstRows n).hasVariants hv hshows']
    refine ⟨b, List.mem_flatMap.2 ⟨r.firstRows n, List.mem_map_of_mem hr, hb⟩, rfl, ?_⟩
    exact RowLe.trans (h.preorderOn hamong)
      (h.hasVariants_of_mem hamong hr (List.mem_of_mem_take hb))
      (h.hasVariants_of_mem hamong hr (List.mem_of_mem_drop ha)) hv (hbefore b hb a ha) hle
  have hlength := (List.subperm_of_subset hfirst hsub).length_le
  have hlong := List.length_pos_of_mem ha
  rw [List.length_map, List.length_take] at hlength
  rw [List.length_drop] at hlong
  rw [atMost_eq_length_idsUpTo keys]
  omega

/-- **As many of the first `n` distinct rows come up to any place**, whatever nodes leave out. -/
theorem min_atMost_le (h : AreDistinct types keys orderKeys results)
    (hamong : AreAmong orderKeys keys) (hv : Row.HasVariants types orderKeys v)
    (hshows : ShowsGroups keys [] (results.flatMap (·.rows)) out)
    (hshows' : ShowsGroups keys [] ((results.map (·.firstRows n)).flatMap (·.rows)) out') :
    min n (atMost (compareRows orderKeys) v out) ≤ atMost (compareRows orderKeys) v out' := by
  by_cases hsub : idsUpTo keys orderKeys v out ⊆ idsUpTo keys orderKeys v out'
  · have hlength := (List.subperm_of_subset (nodup_idsUpTo hshows) hsub).length_le
    rw [← atMost_eq_length_idsUpTo, ← atMost_eq_length_idsUpTo] at hlength
    exact Nat.le_trans (Nat.min_le_right _ _) hlength
  · -- a row up to `v` that does not come stands after the first `n` of its node
    obtain ⟨id, hid, hmissing⟩ := Set.not_subset.1 hsub
    obtain ⟨row, hrow, rfl, hle⟩ := (mem_idsUpTo hamong h.exact h.hasVariants hv hshows).1 hid
    obtain ⟨r, hr, hrow⟩ := List.mem_flatMap.1 hrow
    have hdrop : row ∈ r.rows.drop n := by
      rw [← List.take_append_drop n r.rows] at hrow
      refine (List.mem_append.1 hrow).resolve_left fun htake => hmissing ?_
      exact (mem_idsUpTo hamong h.exact (h.firstRows n).hasVariants hv hshows').2
        ⟨row, List.mem_flatMap.2 ⟨r.firstRows n, List.mem_map_of_mem hr, htake⟩, rfl, hle⟩
    exact Nat.le_trans (Nat.min_le_left _ _)
      (le_atMost_of_mem_drop h hamong hv hshows' hr hdrop hle)

/-- **The first `n` distinct rows tie one by one**, whatever nodes leave out after their first. -/
theorem forall₂_take_of_firstRows (h : AreDistinct types keys orderKeys results)
    (hamong : AreAmong orderKeys keys)
    (hshows : ShowsGroups keys [] (results.flatMap (·.rows)) out)
    (hshows' : ShowsGroups keys [] ((results.map (·.firstRows n)).flatMap (·.rows)) out')
    (hsorted : out.Pairwise (RowLe orderKeys)) (hsorted' : out'.Pairwise (RowLe orderKeys)) :
    List.Forall₂ (fun a b => compareRows orderKeys a b = .eq) (out'.take n) (out.take n) :=
  (h.preorderOn hamong).forall₂_take
    (fun o ho => hamong.hasVariants (hshows'.hasVariants (h.firstRows n).hasVariants o ho))
    (fun o ho => hamong.hasVariants (hshows.hasVariants h.hasVariants o ho)) hsorted' hsorted
    (fun _ hv => Nat.le_trans (Nat.min_le_right _ _)
      (atMost_firstRows_le h hamong hv hshows hshows'))
    fun _ hv => min_atMost_le h hamong hv hshows hshows'

end Distinct

/-! ## Pages of distinct rows

Distinct rows are streamed if they arrive in the order of all their columns, and kept in memory
otherwise.  Either way what is shown is one row for each identity, in order, which is all that the
comparison needs. -/

/-- A SELECT of DISTINCT rows in order, not grouped, aggregated or filtered after merging. -/
structure Select.IsDistinct (s : Select) : Prop where
  distinct : s.list.distinct = true
  hasAggregate : s.list.hasAggregate = false
  groupBy : s.groupBy = []
  having : s.having = none
  orderBy : s.orderBy ≠ []

section Pages

variable {types : Nat → Variant} {dialect : Dialect} {schema : Schema} {s : Select}
  {window : Pagination} {count : PageSegment} {parameters : List Value} {labels : List String}
  {caseSensitive : List Bool} {keys orderKeys : List SortKey} {results : List PartialResult}
  {w : Nat}

theorem Select.IsDistinct.aggregates (h : s.IsDistinct) : s.list.aggregates = [] := by
  simpa [SelectList.hasAggregate] using h.hasAggregate

theorem Select.IsDistinct.groupItems (h : s.IsDistinct) : s.groupItems = everyColumn s.list := by
  rw [Select.groupItems, h.groupBy, h.hasAggregate]
  rfl

/-- Without aggregates the row of no rows at all has no cells but NULLs. -/
theorem hasVariants_emptyRow (h : s.IsDistinct) : Row.HasVariants types keys (emptyRow s.list) := by
  intro k _
  have hnull : cellAt (emptyRow s.list) k.index = .null := by
    rw [emptyRow, h.aggregates, List.foldl_nil, cellAt_replicate]
  rw [hnull]
  rintro _ ⟨⟩

/-- Rows without aggregates are grouped without failing. -/
theorem exists_distinctRows_eq (keys : List SortKey) (rows : List Row) :
    ∃ out, groupedRows keys [] rows = .ok out :=
  exists_mapM_eq_ok fun id _ => ⟨(rowsOf keys id rows).headD [], groupRow_nil _⟩

/-- **A cursor shows the distinct rows**: in order, each of those that came once. -/
structure BaseCursor.ShowsDistinct (types : Nat → Variant) (keys orderKeys : List SortKey)
    (width : Nat) (results : List PartialResult) (base : BaseCursor) (out : List Row) : Prop where
  yields : base.Yields width out
  sorted : out.Pairwise (RowLe orderKeys)
  hasVariants : ∀ o ∈ out, Row.HasVariants types keys o
  showsGroups : results.flatMap (·.rows) ≠ [] → ShowsGroups keys [] (results.flatMap (·.rows)) out

/-- A column is named by its place alone. -/
theorem isConsistent_everyColumn : ∀ item ∈ everyColumn s.list, item.IsConsistent labels := by
  intro item hitem
  obtain ⟨i, -, rfl⟩ := List.mem_map.1 hitem
  rintro _ ⟨⟩

/-- Distinct rows that arrive in order of all their columns are streamed. -/
theorem exists_streamed_showsDistinct (hs : s.IsDistinct)
    (hsame : OrderItem.sameAll (everyColumn s.list) s.orderBy = true)
    (hgroup : sortKeys (everyColumn s.list) labels caseSensitive = .ok keys)
    (horder : sortKeys s.orderBy labels caseSensitive = .ok orderKeys)
    (hconsistent : ∀ item ∈ s.orderBy, item.IsConsistent labels) (hne : results ≠ [])
    (hwhole : ∀ r ∈ results, r.IsWhole labels) (h : AreDistinct types keys orderKeys results) :
    ∃ base out, groupCursor s (everyColumn s.list) labels caseSensitive results = .ok base ∧
      base.ShowsDistinct types keys orderKeys labels.length results out := by
  have hbelow := index_lt_of_sortKeys (fun item hitem => (hconsistent item hitem).index_lt) horder
  obtain rfl := Except.ok.inj
    ((sortKeys_of_sameAll hsame isConsistent_everyColumn hconsistent hgroup).symm.trans horder)
  obtain ⟨base, rows, hbase, hordered, -, hperm, ⟨out, hout, hyields⟩ | ⟨e, he, -⟩⟩ :=
    exists_groupCursor_cases hgroup hsame h.exact hbelow h.hasVariants hne
      (fun r hr => (hwhole r hr).isWide) h.sorted labels.length
  · rw [hs.aggregates] at hout
    have hshows := ((showsGroups_of_groupedRows hout (.refl _)).of_perm hperm).map_visibleCells
      (length_of_mem_flatMap hwhole)
    exact ⟨base, _, hbase, hyields,
      pairwise_visibleCells (hordered.pairwise_of_groupedRows (by simp) hout) hbelow,
      hshows.hasVariants h.hasVariants, fun _ => hshows⟩
  · obtain ⟨out, hout⟩ := exists_distinctRows_eq keys rows
    rw [hs.aggregates] at he
    cases he.symm.trans hout

/-- Distinct rows that arrive in another order are kept in memory. -/
theorem exists_buffered_showsDistinct (hs : s.IsDistinct)
    (hsame : OrderItem.sameAll (everyColumn s.list) s.orderBy = false)
    (hgroup : sortKeys (everyColumn s.list) labels caseSensitive = .ok keys)
    (horder : sortKeys s.orderBy labels caseSensitive = .ok orderKeys)
    (hbelow : ∀ k ∈ orderKeys, k.index < labels.length) (hamong : AreAmong orderKeys keys)
    (hwhole : ∀ r ∈ results, r.IsWhole labels) (h : AreDistinct types keys orderKeys results) :
    ∃ base out, groupCursor s (everyColumn s.list) labels caseSensitive results = .ok base ∧
      base.ShowsDistinct types keys orderKeys labels.length results out := by
  have hwide : ∀ r ∈ results, r.IsWide labels.length := fun r hr => (hwhole r hr).isWide
  rw [groupCursor, hgroup, hsame]
  simp only [bind, Except.bind, Bool.false_eq_true, if_false, horder]
  by_cases hnil : results.flatMap (·.rows) = []
  · rw [groupAll_eq_of_nil keys orderKeys hnil hwide]
    refine ⟨_, _, rfl, BaseCursor.yields_buffered labels.length _ none,
      List.pairwise_singleton _ _, fun o ho => ?_, fun hrows => absurd hnil hrows⟩
    obtain rfl := List.mem_singleton.1 ho
    have hvisible := index_lt_of_sortKeys
      (fun item hitem => (isConsistent_everyColumn item hitem).index_lt) hgroup
    exact (sameKeyCells_visibleCells hvisible _).hasVariants (hasVariants_emptyRow hs)
  · obtain ⟨out, out', hall, hout', hperm⟩ | ⟨e, e', -, he'⟩ := groupAll_cases s.list orderKeys
      (.of_hasNoDoubles fun r hr => (h.hasVariants r hr).hasNoDoubles h.exact) hnil hwide
    · rw [hs.aggregates] at hout'
      rw [if_neg (by simpa using sortKeys_ne_nil hs.orderBy horder)] at hall
      have hshown := showsGroups_of_groupedRows hout' ((sortRows_perm orderKeys out).trans hperm)
      have hshows := hshown.map_visibleCells (length_of_mem_flatMap hwhole)
      have hsorted : (sortRows orderKeys out).Pairwise (RowLe orderKeys) :=
        pairwise_sortRows (h.preorderOn hamong) fun o ho =>
          hamong.hasVariants (hshown.hasVariants h.hasVariants o ((sortRows_perm _ _).mem_iff.2 ho))
      exact ⟨_, _, by rw [hall]; rfl, BaseCursor.yields_buffered labels.length _ none,
        pairwise_visibleCells hsorted hbelow, hshows.hasVariants h.hasVariants, fun _ => hshows⟩
    · obtain ⟨out, hout⟩ := exists_distinctRows_eq keys (results.flatMap (·.rows))
      rw [hs.aggregates] at he'
      cases he'.symm.trans hout

/-- **Either way to merge distinct rows** shows them in order, each of those that came once. -/
theorem exists_showsDistinct (hs : s.IsDistinct) (hlabels : labels.length = s.list.items.length)
    (hgroup : sortKeys (everyColumn s.list) labels caseSensitive = .ok keys)
    (horder : sortKeys s.orderBy labels caseSensitive = .ok orderKeys)
    (hconsistent : ∀ item ∈ s.orderBy, item.IsConsistent labels) (hne : results ≠ [])
    (hwhole : ∀ r ∈ results, r.IsWhole labels) (h : AreDistinct types keys orderKeys results) :
    ∃ base out, baseCursor s labels caseSensitive results = .ok base ∧
      base.ShowsDistinct types keys orderKeys labels.length results out := by
  have hbelow := index_lt_of_sortKeys (fun item hitem => (hconsistent item hitem).index_lt) horder
  have hamong := areAmong_everyColumn hgroup horder fun k hk => hlabels ▸ hbelow k hk
  rw [baseCursor_eq_groupCursor (.inr hs.distinct), hs.groupItems]
  cases hsame : OrderItem.sameAll (everyColumn s.list) s.orderBy with
  | true =>
    exact exists_streamed_showsDistinct hs hsame hgroup horder hconsistent hne hwhole h
  | false =>
    exact exists_buffered_showsDistinct hs hsame hgroup horder hbelow hamong hwhole h

/-- **The row count that is written for the nodes** is the last row the merged window can show. -/
theorem exists_pushedLast_eq (hpaging : dialect.paging = .limit) (hgroup : s.groupBy = [])
    (hcount : window.rowCount = some count)
    (hrevised : revisions dialect.paging s window parameters =
      .ok (window.offset.toList.map (fun o => (o, 0)) ++ [(count, w)])) :
    ∃ offset last, window.offsetRows parameters = .ok offset ∧
      window.rowLimit parameters = .ok (some last) ∧
      pushedLast dialect.paging offset (some last) = some w := by
  obtain ⟨counts, hchanged, hcounts⟩ := revisions_eq_ok hrevised
  obtain rfl := List.append_cancel_left hchanged
  rw [hcount] at hcounts
  dsimp only at hcounts
  rw [revisedCount_eq (.inl hgroup), if_pos hpaging] at hcounts
  obtain ⟨n, hpushed, heq⟩ := map_eq_ok.1 hcounts
  obtain rfl : n = w := by simpa using heq
  rw [pushedCount] at hpushed
  simp only [bind_eq_ok, pure, Except.pure, Except.ok.injEq] at hpushed
  obtain ⟨offset, hoffset, last, hlast, rfl⟩ := hpushed
  obtain ⟨last, rfl⟩ : ∃ n, last = some n := by
    rw [Pagination.rowLimit, hcount] at hlast
    simp only [bind_eq_ok, pure, Except.pure, Except.ok.injEq] at hlast
    obtain ⟨n, -, rfl⟩ := hlast
    exact ⟨_, rfl⟩
  exact ⟨offset, last, hoffset, hlast, if_pos hpaging⟩

/-- **The first `w` rows tie one by one**, if a node leaves out rows after its first `w`. -/
theorem BaseCursor.ShowsDistinct.forall₂_take {base base' : BaseCursor} {out out' : List Row}
    {r : PartialResult} (hshows : base.ShowsDistinct types keys orderKeys labels.length results out)
    (hshows' : base'.ShowsDistinct types keys orderKeys labels.length
      (results.map (·.firstRows w)) out')
    (h : AreDistinct types keys orderKeys results) (hamong : AreAmong orderKeys keys)
    (hr : r ∈ results) (hlong : w < r.rows.length) :
    List.Forall₂ (fun a b => compareRows orderKeys a b = .eq) (out'.take w) (out.take w) := by
  obtain rfl | hpos := Nat.eq_zero_or_pos w
  · exact .nil
  obtain ⟨row, hrow⟩ := List.exists_mem_of_length_pos (l := (r.firstRows w).rows) (by
    rw [PartialResult.firstRows, List.length_take]
    omega)
  have hcut : row ∈ (results.map (·.firstRows w)).flatMap (·.rows) :=
    List.mem_flatMap.2 ⟨_, List.mem_map_of_mem hr, hrow⟩
  have hall := (flatMap_firstRows_sublist w results).subset hcut
  exact forall₂_take_of_firstRows h hamong (hshows.showsGroups (List.ne_nil_of_mem hall))
    (hshows'.showsGroups (List.ne_nil_of_mem hcut)) hshows.sorted hshows'.sorted

/-- **Pages of distinct rows tie row by row**, if nodes return as many as the page can show. -/
theorem BaseCursor.ShowsDistinct.forall₂_pageRows {base base' : BaseCursor} {out out' : List Row}
    {offset : Nat} {last : Option Nat}
    (hshows : base.ShowsDistinct types keys orderKeys labels.length results out)
    (hshows' : base'.ShowsDistinct types keys orderKeys labels.length
      (results.map (·.firstRows w)) out')
    (hwhole : results.map (·.firstRows w) = results → base' = base)
    (h : AreDistinct types keys orderKeys results) (hamong : AreAmong orderKeys keys)
    (hlength : ∀ r ∈ results, r.rows.length < 2 ^ 63) (hpaging : dialect.paging ≠ .none)
    (hpushed : pushedLast dialect.paging offset last = some w) :
    List.Forall₂ (fun a b => compareRows orderKeys a b = .eq)
      (pageRows dialect.paging offset last out') (pageRows dialect.paging offset last out) := by
  by_cases hshort : ∀ r ∈ results, r.rows.length ≤ w
  · -- no node leaves out a row
    obtain rfl := hwhole (map_firstRows_eq_self hshort)
    obtain rfl := hshows.yields.unique hshows'.yields
    refine ScatterGather.forall₂_pageRows _ _ _ (List.forall₂_same.2 fun o ho => ?_)
    exact (h.preorderOn hamong).eq_self (hamong.hasVariants (hshows.hasVariants o ho))
  · obtain ⟨r, hr, hlong⟩ : ∃ r ∈ results, w < r.rows.length := by simpa using hshort
    have hfirst := hshows.forall₂_take hshows' h hamong hr hlong
    have hne : w ≠ maxRowCount := (Nat.lt_of_lt_of_le hlong (Nat.le_pred_of_lt (hlength r hr))).ne
    have hpages := pageRows_take_of_ne hpaging (congrArg (·.getD maxRowCount) hpushed) hne
    rw [← hpages out, ← hpages out']
    exact ScatterGather.forall₂_pageRows _ _ _ hfirst

/-- **A merge of distinct rows** shows a page of them. -/
theorem exists_merge_showsDistinct {offset : Nat} {last : Option Nat} (hs : s.IsDistinct)
    (hwindow : s.window? = some window) (hoffset : window.offsetRows parameters = .ok offset)
    (hlast : window.rowLimit parameters = .ok last) (hlabels : labels.length = s.list.items.length)
    (hgroup : sortKeys (everyColumn s.list) labels
      (caseSensitivity labels (Statement.select s).tables schema) = .ok keys)
    (horder : sortKeys s.orderBy labels
      (caseSensitivity labels (Statement.select s).tables schema) = .ok orderKeys)
    (hconsistent : ∀ item ∈ s.orderBy, item.IsConsistent labels) (hmany : 1 < results.length)
    (hwhole : ∀ r ∈ results, r.IsWhole labels) (h : AreDistinct types keys orderKeys results) :
    ∃ base out, baseCursor s labels (caseSensitivity labels (Statement.select s).tables schema)
        results = .ok base ∧
      base.ShowsDistinct types keys orderKeys labels.length results out ∧
      (merge dialect schema (.select s) parameters results).bind MergedResult.rows =
        .ok (pageRows dialect.paging offset last out) := by
  obtain ⟨base, out, hbase, hshows⟩ := exists_showsDistinct hs hlabels hgroup horder hconsistent
    (List.ne_nil_of_length_pos (Nat.zero_lt_of_lt hmany)) hwhole h
  refine ⟨base, out, hbase, hshows, ?_⟩
  rw [merge_rows_eq hmany (fun r hr => (hwhole r hr).labels_eq) hs.having hwindow hbase
    hshows.yields, hoffset, hlast]
  rfl

/-- **A SELECT of distinct rows pages as if nodes returned all rows.**  The revised statement asks
every node for its first `w` rows; merging those shows as many rows as merging all, and each ties in
the order with the one in its place. -/
theorem merge_firstRows_ties (hpaging : dialect.paging = .limit) (hs : s.IsDistinct)
    (hwindow : s.window? = some window) (hcount : window.rowCount = some count)
    (hrevised : revisions dialect.paging s window parameters =
      .ok (window.offset.toList.map (fun o => (o, 0)) ++ [(count, w)]))
    (hlabels : labels.length = s.list.items.length)
    (hgroup : sortKeys (everyColumn s.list) labels
      (caseSensitivity labels (Statement.select s).tables schema) = .ok keys)
    (horder : sortKeys s.orderBy labels
      (caseSensitivity labels (Statement.select s).tables schema) = .ok orderKeys)
    (hconsistent : ∀ item ∈ s.orderBy, item.IsConsistent labels) (hmany : 1 < results.length)
    (hwhole : ∀ r ∈ results, r.IsWhole labels)
    (hlength : ∀ r ∈ results, r.rows.length < 2 ^ 63)
    (h : AreDistinct types keys orderKeys results) :
    (count.bound = .exact → (∀ o ∈ window.offset, o.Apart count) →
      ∀ skipped last, nodeWindow dialect.paging s window parameters = .ok (skipped, last) →
        skipped = 0 ∧ last = some w) ∧
    ∃ page page', (merge dialect schema (.select s) parameters results).bind MergedResult.rows =
        .ok page ∧
      (merge dialect schema (.select s) parameters (results.map (·.firstRows w))).bind
        MergedResult.rows = .ok page' ∧
      List.Forall₂ (fun a b => compareRows orderKeys a b = .eq) page' page := by
  obtain ⟨offset, last, hoffset, hlast, hpushed⟩ :=
    exists_pushedLast_eq hpaging hs.groupBy hcount hrevised
  constructor
  · intro hexact hapart skipped last' hnode
    obtain ⟨hskipped, hpages⟩ := nodeWindow_eq (.inl hs.groupBy)
      (fun o ho c hc => Option.some.inj (hcount.symm.trans hc) ▸ hapart o ho)
      (fun _ c hc => Option.some.inj (hcount.symm.trans hc) ▸ hexact) hnode
    exact ⟨hskipped, (hpages offset (some last) hoffset hlast).trans hpushed⟩
  -- Cut results are whole as well, so that one lemma merges both.
  have hwholeCut : ∀ r ∈ results.map (·.firstRows w), r.IsWhole labels := by
    intro r hr
    obtain ⟨r, hmem, rfl⟩ := List.mem_map.1 hr
    exact (hwhole r hmem).firstRows w
  have hbelow := index_lt_of_sortKeys (fun item hitem => (hconsistent item hitem).index_lt) horder
  have hamong := areAmong_everyColumn hgroup horder fun k hk => hlabels ▸ hbelow k hk
  obtain ⟨base, out, hbase, hshows, hpage⟩ := exists_merge_showsDistinct hs hwindow hoffset hlast
    hlabels hgroup horder hconsistent hmany hwhole h
  obtain ⟨base', out', hbase', hshows', hpage'⟩ := exists_merge_showsDistinct hs hwindow hoffset
    hlast hlabels hgroup horder hconsistent (by rwa [List.length_map]) hwholeCut (h.firstRows w)
  -- Where nothing is cut off, the two merges are one and the same, ties included.
  have hsame : results.map (·.firstRows w) = results → base' = base := by
    intro heq
    rw [heq] at hbase'
    exact Except.ok.inj (hbase'.symm.trans hbase)
  exact ⟨_, _, hpage, hpage', hshows.forall₂_pageRows hshows' hsame h hamong hlength
    (by simp [hpaging]) hpushed⟩

end Pages

/-- The regions and amounts of orders, each pair once, in the order of the amounts. -/
def distinctRegions (window : Pagination) : Select where
  tables := ["t_order"]
  list := ⟨[.column "region" none, .column "amount" none], true⟩
  condition := none
  groupBy := []
  orderBy := [⟨.label "AMOUNT", .asc, .low, none⟩]
  having := none
  pagination := some window
  lock := false
  subquery := false

/-- The pairs that a node returns. -/
def regionsWithAmounts (pairs : List (String × Int64)) : PartialResult :=
  .ofRows ["region", "amount"] (pairs.map fun pair => [.text pair.1, .integer pair.2])

/-- Two nodes that write a pair in common differently, and have others at its place. -/
def distinctResults : List PartialResult :=
  [regionsWithAmounts [("east", 1), ("west", 2), ("south", 2), ("north", 4)],
    regionsWithAmounts [("West", 2), ("north", 2), ("East", 3)]]

/-- The first column of the pairs is a text, the second one an integer. -/
def regionTypes (i : Nat) : Variant := if i = 0 then .text else .integer

/-- The second and third pair come from the first three of each node. -/
theorem merge_firstRows_distinctRegions :
    revisions (Dialect.paging .mySQL) (distinctRegions secondPage) secondPage [.integer 2] =
        .ok (secondPage.offset.toList.map (fun o => (o, 0)) ++
          [(⟨.parameter 0, .exact, none⟩, 3)]) ∧
    nodeWindow (Dialect.paging .mySQL) (distinctRegions secondPage) secondPage [.integer 2] =
        .ok (0, some 3) ∧
    ∃ page page', (merge .mySQL .empty (.select (distinctRegions secondPage)) [.integer 2]
        distinctResults).bind MergedResult.rows = .ok page ∧
      (merge .mySQL .empty (.select (distinctRegions secondPage)) [.integer 2]
        (distinctResults.map (·.firstRows 3))).bind MergedResult.rows = .ok page' ∧
      List.Forall₂ (fun a b => compareRows [⟨1, .asc, .low, false⟩] a b = .eq) page' page := by
  have hrevised : revisions (Dialect.paging .mySQL) (distinctRegions secondPage) secondPage
      [.integer 2] = .ok (secondPage.offset.toList.map (fun o => (o, 0)) ++
        [(⟨.parameter 0, .exact, none⟩, 3)]) := by decide
  have hwhole : ∀ r ∈ distinctResults, r.IsWhole ["region", "amount"] := by
    simp only [distinctResults, List.forall_mem_cons]
    exact ⟨⟨rfl, rfl, by decide⟩, ⟨rfl, rfl, by decide⟩, by simp⟩
  have hvariants : ∀ row ∈ distinctResults.flatMap (·.rows),
      Row.HasVariants regionTypes [⟨0, .asc, .low, false⟩, ⟨1, .asc, .low, false⟩] row := by
    simp only [Row.HasVariants, Value.HasVariant]
    decide
  have hdistinct : AreDistinct regionTypes [⟨0, .asc, .low, false⟩, ⟨1, .asc, .low, false⟩]
      [⟨1, .asc, .low, false⟩] distinctResults :=
    ⟨by decide, by decide, by decide, hvariants⟩
  have hs : (distinctRegions secondPage).IsDistinct :=
    ⟨rfl, rfl, rfl, rfl, by simp [distinctRegions]⟩
  have hconsistent : ∀ item ∈ (distinctRegions secondPage).orderBy,
      item.IsConsistent ["region", "amount"] := by
    simp [distinctRegions, OrderItem.IsConsistent]
  exact ⟨hrevised, by decide +kernel, (merge_firstRows_ties rfl hs rfl rfl hrevised rfl (by decide)
    (by decide) hconsistent (by decide) hwhole (by decide) hdistinct).2⟩

end ScatterGather
