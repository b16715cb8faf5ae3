import Mathlib.Data.List.Flatten
import ScatterGather.Proofs.Merge.Agreement
import ScatterGather.Proofs.Merge.Extreme
import ScatterGather.Proofs.Merge.GroupCursor
import ScatterGather.Proofs.Merge.Pagination

/-!
# Proofs/Merge/GroupedPages — the groups that nodes leave out are not missed

Where groups arrive in order, a node returns one row a group, and only its first rows.  A row that
comes after the first `n` has `n` groups of its own node before it, so its group is none of the
first `n` of all (`groupId_notMem_take`).  Hence the first `n` groups lose none of their rows
(`rowsOf_firstRows_perm`), and the groups that do lose rows stay behind them (`take_idsOf_eq`).  So
what the window shows is the same, up to the order in which each group takes in its rows
(`merge_firstOf_sameGroups`).
-/

namespace ScatterGather

open scoped List

open GroupedStream (InOrder)

/-! ## The first groups

`rows` are all rows in order, and `shard` are those of one node, strictly in order. -/

/-- The row `a` comes before `b`. -/
def RowLt (keys : List SortKey) (a b : Row) : Prop := compareRows keys a b = .lt

instance (keys : List SortKey) : DecidableRel (RowLt keys) := fun a b =>
  inferInstanceAs (Decidable (compareRows keys a b = .lt))

section First

variable {types : Nat → Variant} {keys : List SortKey} {rows rows' shard : List Row} {a b row : Row}
  {id x : List Value} {earlier later : List (List Value)} {width n : Nat}

/-- What comes before does not come after. -/
theorem RowLt.rowLe (h : RowLt keys a b) : RowLe keys a b := by
  rw [RowLe, h]
  rfl

/-- Rows of which one comes before the other are of different groups. -/
theorem RowLt.groupId_ne (h : RowLt keys a b) (hexact : ∀ k ∈ keys, (types k.index).IsExact)
    (ha : Row.HasVariants types keys a) (hb : Row.HasVariants types keys b) :
    groupId keys a ≠ groupId keys b := by
  intro heq
  rw [RowLt, (compareRows_eq_eq_iff hexact ha hb).2 heq] at h
  cases h

/-- Rows strictly in order are of different groups. -/
theorem nodup_map_groupId (hexact : ∀ k ∈ keys, (types k.index).IsExact)
    (hvariants : ∀ r ∈ shard, Row.HasVariants types keys r)
    (hstrict : shard.Pairwise (RowLt keys)) : (shard.map (groupId keys)).Nodup :=
  List.pairwise_map.2 (hstrict.imp_of_mem fun ha hb hlt =>
    hlt.groupId_ne hexact (hvariants _ ha) (hvariants _ hb))

/-- The identities of rows in order are in order. -/
theorem pairwise_idsOf (hsub : rows' ⊆ rows) (h : rows'.Pairwise (RowLe keys)) :
    (idsOf keys rows').Pairwise (IdLe keys rows) :=
  (pairwise_idLe hsub h).sublist (List.dedup_sublist _)

/-- Among identities in order, one that comes before another stands before it. -/
theorem mem_earlier_of_idLe (hexact : ∀ k ∈ keys, (types k.index).IsExact)
    (hvariants : ∀ r ∈ rows, Row.HasVariants types keys r)
    (h : (earlier ++ id :: later).Pairwise (IdLe keys rows)) (hx : x ∈ earlier ++ id :: later)
    (hle : IdLe keys rows x id) (hne : x ≠ id) : x ∈ earlier := by
  have hafter := (List.pairwise_cons.1 (List.pairwise_append.1 h).2.1).1
  obtain hx | hx := List.mem_append.1 hx
  · exact hx
  · obtain heq | hx := List.mem_cons.1 hx
    · exact absurd heq hne
    · exact absurd (hle.antisymm hexact hvariants (hafter x hx)) hne

/-- **A row after the first `n` of its node is of none of the first `n` groups.**  The rows before
it are of `n` groups, which all come before its own. -/
theorem groupId_notMem_take (h : InOrder types keys width rows) (hsub : shard ⊆ rows)
    (hstrict : shard.Pairwise (RowLt keys)) (hrow : row ∈ shard.drop n) :
    groupId keys row ∉ (idsOf keys rows).take n := by
  intro hmem
  have hvariants : ∀ r ∈ shard, Row.HasVariants types keys r := fun r hr =>
    h.hasVariants r (hsub hr)
  have hsplit : (shard.take n ++ shard.drop n).Pairwise (RowLt keys) := by
    rwa [List.take_append_drop]
  have hbefore := (List.pairwise_append.1 hsplit).2.2
  have hnodup : ((shard.take n).map (groupId keys)).Nodup :=
    (nodup_map_groupId h.exact hvariants hstrict).sublist ((List.take_sublist n shard).map _)
  obtain ⟨earlier, later, hids⟩ := List.append_of_mem hmem
  have hordered := pairwise_idsOf (List.Subset.refl rows) h.sorted
  have hall : idsOf keys rows =
      earlier ++ groupId keys row :: (later ++ (idsOf keys rows).drop n) := by
    rw [← List.cons_append, ← List.append_assoc, ← hids, List.take_append_drop]
  have hsubset : (shard.take n).map (groupId keys) ⊆ earlier := by
    intro x hx
    obtain ⟨a, ha, rfl⟩ := List.mem_map.1 hx
    have hmemShard : a ∈ shard := List.mem_of_mem_take ha
    have hrowShard : row ∈ shard := List.mem_of_mem_drop hrow
    have hlt := hbefore a ha row hrow
    have hid : groupId keys a ∈ idsOf keys rows := mem_idsOf.2 ⟨a, hsub hmemShard, rfl⟩
    rw [hall] at hordered hid
    exact mem_earlier_of_idLe h.exact h.hasVariants hordered hid
      ⟨a, hsub hmemShard, row, hsub hrowShard, rfl, rfl, hlt.rowLe⟩
      (hlt.groupId_ne h.exact (hvariants a hmemShard) (hvariants row hrowShard))
  -- `n` groups do not fit into the first `n` beside that of the row
  have hle := (List.subperm_of_subset hnodup hsubset).length_le
  have hlt := congrArg List.length hids
  have hpos := List.length_pos_of_mem hrow
  rw [List.length_map, List.length_take] at hle
  rw [List.length_take, List.length_append, List.length_cons] at hlt
  rw [List.length_drop] at hpos
  omega

/-- **What a node has of the first groups is among its first rows.** -/
theorem rowsOf_take (h : InOrder types keys width rows) (hsub : shard ⊆ rows)
    (hstrict : shard.Pairwise (RowLt keys)) (hid : id ∈ (idsOf keys rows).take n) :
    rowsOf keys id (shard.take n) = rowsOf keys id shard := by
  have hnone : rowsOf keys id (shard.drop n) = [] := rowsOf_eq_nil fun row hrow heq =>
    groupId_notMem_take h hsub hstrict hrow (heq ▸ hid)
  conv_rhs => rw [← List.take_append_drop n shard, rowsOf_append, hnone, List.append_nil]

/-- The rows of a group, node by node. -/
theorem rowsOf_flatMap (keys : List SortKey) (id : List Value) (results : List PartialResult) :
    rowsOf keys id (results.flatMap (·.rows)) = results.flatMap fun r => rowsOf keys id r.rows := by
  induction results with
  | nil => rfl
  | cons r results ih => rw [List.flatMap_cons, rowsOf_append, ih, List.flatMap_cons]

/-- **The first groups lose no rows** where nodes leave out what comes after their first. -/
theorem rowsOf_firstRows_perm {results : List PartialResult} (h : InOrder types keys width rows)
    (hperm : rows ~ results.flatMap (·.rows))
    (hperm' : rows' ~ (results.map (·.firstRows n)).flatMap (·.rows))
    (hstrict : ∀ r ∈ results, r.rows.Pairwise (RowLt keys))
    (hid : id ∈ (idsOf keys rows).take n) : rowsOf keys id rows' ~ rowsOf keys id rows := by
  have hshards : ∀ r ∈ results, rowsOf keys id (r.firstRows n).rows = rowsOf keys id r.rows := by
    intro r hr
    have hsub : r.rows ⊆ rows := fun row hrow =>
      hperm.mem_iff.2 (List.mem_flatMap.2 ⟨r, hr, hrow⟩)
    exact rowsOf_take h hsub (hstrict r hr) hid
  calc rowsOf keys id rows'
      ~ rowsOf keys id ((results.map (·.firstRows n)).flatMap (·.rows)) := rowsOf_perm id hperm'
    _ = results.flatMap fun r => rowsOf keys id (r.firstRows n).rows := by
      rw [rowsOf_flatMap, List.flatMap_map]
    _ = results.flatMap fun r => rowsOf keys id r.rows := List.flatMap_congr hshards
    _ = rowsOf keys id (results.flatMap (·.rows)) := (rowsOf_flatMap keys id results).symm
    _ ~ rowsOf keys id rows := (rowsOf_perm id hperm).symm

/-- Leaving out later items keeps the first ones. -/
theorem take_filter_of_forall {α : Type} {p : α → Bool} {l : List α} {n : Nat}
    (h : ∀ a ∈ l.take n, p a = true) : (l.filter p).take n = l.take n := by
  induction l generalizing n with
  | nil => rfl
  | cons a l ih =>
    cases n with
    | zero => rfl
    | succ n =>
      obtain ⟨ha, h⟩ := List.forall_mem_cons.1 h
      rw [List.filter_cons_of_pos ha, List.take_succ_cons, List.take_succ_cons, ih h]

/-- **The first groups stay the first** where they keep a row. -/
theorem take_idsOf_eq (h : InOrder types keys width rows) (hsub : rows' ⊆ rows)
    (hsorted : rows'.Pairwise (RowLe keys))
    (hkept : ∀ id ∈ (idsOf keys rows).take n, id ∈ idsOf keys rows') :
    (idsOf keys rows').take n = (idsOf keys rows).take n := by
  have hsame : ∀ id, id ∈ idsOf keys rows' ↔
      id ∈ (idsOf keys rows).filter (· ∈ idsOf keys rows') := by
    intro id
    rw [List.mem_filter, decide_eq_true_iff, iff_and_self]
    intro hid
    obtain ⟨row, hrow, hrowId⟩ := mem_idsOf.1 hid
    exact mem_idsOf.2 ⟨row, hsub hrow, hrowId⟩
  have hperm : idsOf keys rows' ~ (idsOf keys rows).filter (· ∈ idsOf keys rows') :=
    (List.perm_ext_iff_of_nodup (nodup_idsOf keys rows')
      ((nodup_idsOf keys rows).filter _)).2 hsame
  have heq : idsOf keys rows' = (idsOf keys rows).filter (· ∈ idsOf keys rows') :=
    hperm.eq_of_pairwise (fun _ _ _ _ => IdLe.antisymm h.exact h.hasVariants)
      (pairwise_idsOf hsub hsorted)
      ((pairwise_idsOf (List.Subset.refl rows) h.sorted).filter _)
  conv_lhs => rw [heq]
  exact take_filter_of_forall fun id hid => decide_eq_true (hkept id hid)

theorem flatMap_firstRows_sublist (n : Nat) (results : List PartialResult) :
    (results.map (·.firstRows n)).flatMap (·.rows) <+ results.flatMap (·.rows) := by
  rw [List.flatMap_map]
  exact List.Sublist.flatMap_right results fun r _ => List.take_sublist n r.rows

/-- **The first groups stay the first** where nodes leave out what comes after their first rows. -/
theorem take_idsOf_firstRows {results : List PartialResult} (h : InOrder types keys width rows)
    (hperm : rows ~ results.flatMap (·.rows)) (hsorted : rows'.Pairwise (RowLe keys))
    (hperm' : rows' ~ (results.map (·.firstRows n)).flatMap (·.rows))
    (hstrict : ∀ r ∈ results, r.rows.Pairwise (RowLt keys)) :
    (idsOf keys rows').take n = (idsOf keys rows).take n := by
  have hsub : rows' ⊆ rows := fun row hrow =>
    hperm.mem_iff.2 ((flatMap_firstRows_sublist n results).subset (hperm'.mem_iff.1 hrow))
  refine take_idsOf_eq h hsub hsorted fun id hid => ?_
  obtain ⟨first, group, heq, -, -⟩ := exists_rowsOf_eq_cons (List.mem_of_mem_take hid)
  have hfirst : first ∈ rowsOf keys id rows' :=
    (rowsOf_firstRows_perm h hperm hperm' hstrict hid).mem_iff.2 (heq ▸ List.mem_cons_self)
  exact mem_idsOf.2 ⟨first, mem_rowsOf.1 hfirst⟩

end First

/-! ## A group in two orders

The rows of a group may come in another order, and its first row may be another one; so a group need
not show the same row twice.  Yet its key stays, and its aggregates are numerically equal. -/

section Orders

variable {keys : List SortKey} {aggregates : List PlacedAggregate}
  {rows rows' group group' out out' : List Row} {o o' : Row} {id : List Value} {n width : Nat}

/-- The first rows of a group in two orders have its identity, if it has any row. -/
theorem groupId_headD_eq (hperm : group' ~ group) (hid : ∀ row ∈ group, groupId keys row = id) :
    groupId keys (group'.headD []) = groupId keys (group.headD []) := by
  cases group with
  | nil => rw [hperm.eq_nil]
  | cons first rest =>
    cases group' with
    | nil => cases hperm.nil_eq
    | cons first' rest' =>
      exact (hid first' (hperm.subset List.mem_cons_self)).trans (hid first List.mem_cons_self).symm

/-- A group in another order shows the same numbers for its aggregates. -/
theorem sameNumber_of_perm (hplaced : ∀ a ∈ aggregates, a.IsPlaced)
    (hindex : aggregates.Pairwise (·.index < ·.index)) (hperm : group' ~ group)
    (hintegers : ∀ row ∈ group, ∀ a ∈ aggregates, a.TakesIntegers row)
    (hlength : group.length < 2 ^ 32) (ho : groupRow aggregates group = .ok o)
    (ho' : groupRow aggregates group' = .ok o') :
    ∀ a ∈ aggregates, (cellAt o' a.index).SameNumber (cellAt o a.index) := by
  intro a ha
  obtain ⟨v', v, hv', hv, hsame⟩ := PlacedAggregate.exists_result_taken_of_perm (hplaced a ha) hperm
    (fun row hrow => hintegers row hrow a ha) hlength
  obtain rfl := Except.ok.inj ((result_of_groupRow hindex ho' a ha).symm.trans hv')
  obtain rfl := Except.ok.inj ((result_of_groupRow hindex ho a ha).symm.trans hv)
  exact hsame

/-- **A group in another order shows the same key and numerically equal aggregates.**  A key that
names the column of an aggregate sees what that shows: a mean, or the aggregate of cells that are
one to the key. -/
theorem sameGroupRow_of_perm (hplaced : ∀ a ∈ aggregates, a.IsPlaced)
    (hindex : aggregates.Pairwise (·.index < ·.index)) (hperm : group' ~ group)
    (hid : ∀ row ∈ group, groupId keys row = id) (htakes : ∀ a ∈ aggregates, a.TakesAll group)
    (hlength : group.length < 2 ^ 32) (ho : groupRow aggregates group = .ok o)
    (ho' : groupRow aggregates group' = .ok o') : SameGroupRow keys aggregates o' o := by
  have hshows := result_of_groupRow hindex ho
  have hshows' := result_of_groupRow hindex ho'
  refine ⟨groupId_eq_iff.2 fun k hk => ?_, fun a ha => ?_⟩
  · by_cases hnamed : ∃ a ∈ aggregates, k.index = a.index
    · obtain ⟨a, ha, heq⟩ := hnamed
      have hone : ∀ row ∈ group, (k.folded (cellAt row a.index)).key =
          (k.folded (cellAt (group.headD []) a.index)).key := by
        intro row hrow
        have hfirst : group.headD [] ∈ group := by
          cases group with
          | nil => exact absurd hrow List.not_mem_nil
          | cons first rest => exact List.mem_cons_self
        rw [← heq]
        exact groupId_eq_iff.1 ((hid row hrow).trans (hid _ hfirst).symm) k hk
      rw [heq]
      exact (htakes a ha).key_folded_eq (hplaced a ha) hperm hlength hone (hshows a ha)
        (hshows' a ha)
    · have hbeside : ∀ p ∈ aggregates, k.index ≠ p.index := fun p hp heq => hnamed ⟨p, hp, heq⟩
      rw [sameBeside_of_groupRow ho' k.index hbeside, sameBeside_of_groupRow ho k.index hbeside]
      exact groupId_eq_iff.1 (groupId_headD_eq hperm hid) k hk
  · obtain ⟨v', v, hv', hv, hties⟩ :=
      (htakes a ha).exists_results_tie (hplaced a ha) hperm hlength
    obtain rfl := Except.ok.inj ((hshows' a ha).symm.trans hv')
    obtain rfl := Except.ok.inj ((hshows a ha).symm.trans hv)
    exact hties

/-- A cursor shows a row with the same key and aggregates, if it is wide enough for the keys. -/
theorem SameGroupRow.map_visibleCells {a b : Row} (h : SameGroupRow keys aggregates a b)
    (hkeys : ∀ k ∈ keys, k.index < width) :
    SameGroupRow keys aggregates (visibleCells width a) (visibleCells width b) := by
  have hsame := sameKeyCells_visibleCells hkeys
  refine ⟨?_, fun p hp => ?_⟩
  · rw [(hsame a).groupId_eq, (hsame b).groupId_eq, h.1]
  · obtain hlt | hle := Nat.lt_or_ge p.index width
    · rw [cellAt_visibleCells hlt, cellAt_visibleCells hlt]
      exact h.2 p hp
    · rw [cellAt_of_length_le ((length_visibleCells width a).trans_le hle),
        cellAt_of_length_le ((length_visibleCells width b).trans_le hle)]
      rfl

/-- **The first groups have in common** what each of them shows either way. -/
theorem forall₂_take_groupedRows {R : Row → Row → Prop}
    (hids : (idsOf keys rows').take n = (idsOf keys rows).take n)
    (hsame : ∀ id ∈ (idsOf keys rows).take n, ∀ o' o,
      groupRow aggregates (rowsOf keys id rows') = .ok o' →
        groupRow aggregates (rowsOf keys id rows) = .ok o → R o' o)
    (hout' : groupedRows keys aggregates rows' = .ok out')
    (hout : groupedRows keys aggregates rows = .ok out) :
    List.Forall₂ R (out'.take n) (out.take n) := by
  have htake' := List.forall₂_take n (mapM_eq_ok.1 hout')
  rw [hids] at htake'
  exact forall₂_of_common htake' (List.forall₂_take n (mapM_eq_ok.1 hout)) hsame

/-- There are no more groups than rows. -/
theorem length_le_of_groupedRows (h : groupedRows keys aggregates rows = .ok out) :
    out.length ≤ rows.length := by
  have hids : (idsOf keys rows).length ≤ (rows.map (groupId keys)).length :=
    (List.dedup_sublist _).length_le
  rwa [List.length_map, (mapM_eq_ok.1 h).length_eq] at hids

end Orders

/-! ## Pages of groups

The two merges are compared group by group: the first groups get all of their rows either way, in
one order or in another. -/

/-- **Partial results of nodes that grouped their rows**: whole, with fewer than 2³² rows in all,
each with one row a group in the order of the keys; cells of one exact type in each key column, and
inputs of aggregates that are NULL or integers. -/
structure AreGrouped (types : Nat → Variant) (list : SelectList) (keys : List SortKey)
    (labels : List String) (results : List PartialResult) : Prop where
  whole : ∀ r ∈ results, r.IsWhole labels
  length : (results.flatMap (·.rows)).length < 2 ^ 32
  strict : ∀ r ∈ results, r.rows.Pairwise (RowLt keys)
  exact : ∀ k ∈ keys, (types k.index).IsExact
  hasVariants : ∀ row ∈ results.flatMap (·.rows), Row.HasVariants types keys row
  integers : ∀ row ∈ results.flatMap (·.rows), ∀ a ∈ list.aggregates, a.TakesIntegers row

section Pages

variable {types : Nat → Variant} {dialect : Dialect} {schema : Schema} {s : Select}
  {window : Pagination} {parameters : List Value} {labels : List String} {list : SelectList}
  {keys : List SortKey} {results : List PartialResult} {rows rows' out out' : List Row}
  {offset n : Nat} {last : Option Nat}

/-- The first rows of grouped results are grouped results. -/
theorem AreGrouped.firstRows (h : AreGrouped types list keys labels results) (n : Nat) :
    AreGrouped types list keys labels (results.map (·.firstRows n)) := by
  have hsub := flatMap_firstRows_sublist n results
  refine ⟨fun r hr => ?_, Nat.lt_of_le_of_lt hsub.length_le h.length, fun r hr => ?_, h.exact,
    fun row hrow => h.hasVariants row (hsub.subset hrow),
    fun row hrow => h.integers row (hsub.subset hrow)⟩
  all_goals obtain ⟨r, hmem, rfl⟩ := List.mem_map.1 hr
  · exact (h.whole r hmem).firstRows n
  · exact (h.strict r hmem).sublist (List.take_sublist n r.rows)

/-- Grouped results can be folded. -/
theorem AreGrouped.foldable (h : AreGrouped types list keys labels results) :
    Foldable types keys list.aggregates (results.flatMap (·.rows)) :=
  .of_integers h.hasVariants h.integers h.length

/-- **Merging whole groups and their first rows** shows the same first groups. -/
theorem AreGrouped.forall₂_take (h : AreGrouped types list keys labels results)
    (hordered : InOrder types keys labels.length rows) (hperm : rows ~ results.flatMap (·.rows))
    (hordered' : InOrder types keys labels.length rows')
    (hperm' : rows' ~ (results.map (·.firstRows n)).flatMap (·.rows))
    (hout : groupedRows keys list.aggregates rows = .ok out)
    (hout' : groupedRows keys list.aggregates rows' = .ok out') :
    List.Forall₂ (SameGroupRow keys list.aggregates) (out'.take n) (out.take n) := by
  have hids := take_idsOf_firstRows hordered hperm hordered'.sorted hperm' h.strict
  refine forall₂_take_groupedRows hids (fun id hid o' o ho' ho => ?_) hout' hout
  have hfoldable := h.foldable.perm hperm.symm
  exact sameGroupRow_of_perm (fun a ha => SelectList.isPlaced_of_mem ha) list.pairwise_index
    (rowsOf_firstRows_perm hordered hperm hperm' h.strict hid)
    (fun row hrow => (mem_rowsOf.1 hrow).2)
    (fun a ha => .integers fun row hrow =>
      h.integers row (hperm.mem_iff.1 (mem_rowsOf.1 hrow).1) a ha) (hfoldable.length id) ho ho'

/-- **Groups in order** are what the cursor goes through, where they can be folded. -/
theorem exists_groups_yields (hwhole : ∀ r ∈ results, r.IsWhole labels)
    (hstrict : ∀ r ∈ results, r.rows.Pairwise (RowLt keys))
    (hexact : ∀ k ∈ keys, (types k.index).IsExact)
    (hfoldable : Foldable types keys s.list.aggregates (results.flatMap (·.rows)))
    (hordered : s.groupsInOrder = true)
    (hkeys : sortKeys s.groupBy labels
      (caseSensitivity labels (Statement.select s).tables schema) = .ok keys)
    (hbelow : ∀ k ∈ keys, k.index < labels.length) (hcount : 1 < results.length) :
    ∃ base rows out, baseCursor s labels
        (caseSensitivity labels (Statement.select s).tables schema) results = .ok base ∧
      InOrder types keys labels.length rows ∧ OrderedStream.Merges keys results rows ∧
      rows ~ results.flatMap (·.rows) ∧ groupedRows keys s.list.aggregates rows = .ok out ∧
      base.Yields labels.length (out.map (visibleCells labels.length)) := by
  have hgroup : s.groupBy ≠ [] := by
    intro hnil
    rw [Select.groupsInOrder, hnil] at hordered
    cases hordered
  have hitems : s.groupItems = s.groupBy := by
    rw [Select.groupItems, if_pos (by simp [hgroup])]
  obtain ⟨base, rows, hbase, hrows, hmerges, hperm, hcases⟩ := exists_groupCursor_cases hkeys
    hordered hexact hbelow hfoldable.hasVariants
    (List.ne_nil_of_length_pos (Nat.zero_lt_of_lt hcount)) (fun r hr => (hwhole r hr).isWide)
    (fun r hr => (hstrict r hr).imp RowLt.rowLe) labels.length
  have hcursor := (baseCursor_eq_groupCursor (.inl hgroup)).trans (hitems ▸ hbase)
  obtain ⟨out, hout, hyields⟩ | ⟨e, he, -⟩ := hcases
  · exact ⟨base, rows, out, hcursor, hrows, hmerges, hperm, hout, hyields⟩
  · obtain ⟨out, hout⟩ := (hfoldable.perm hperm.symm).exists_groupedRows_eq fun a ha =>
      SelectList.isPlaced_of_mem ha
    cases hout.symm.trans he

/-- **A page of groups in order** is the page of what the groups of all rows show. -/
theorem AreGrouped.exists_merge_rows_eq (h : AreGrouped types s.list keys labels results)
    (hordered : s.groupsInOrder = true) (hhaving : s.having = none)
    (hwindow : s.window? = some window) (hoffset : window.offsetRows parameters = .ok offset)
    (hlast : window.rowLimit parameters = .ok last)
    (hkeys : sortKeys s.groupBy labels
      (caseSensitivity labels (Statement.select s).tables schema) = .ok keys)
    (hbelow : ∀ k ∈ keys, k.index < labels.length) (hcount : 1 < results.length) :
    ∃ rows out, InOrder types keys labels.length rows ∧ rows ~ results.flatMap (·.rows) ∧
      groupedRows keys s.list.aggregates rows = .ok out ∧ out.length ≤ maxRowCount ∧
      (merge dialect schema (.select s) parameters results).bind MergedResult.rows =
        .ok (pageRows dialect.paging offset last (out.map (visibleCells labels.length))) := by
  obtain ⟨base, rows, out, hbase, hrows, -, hperm, hout, hyields⟩ :=
    exists_groups_yields h.whole h.strict h.exact h.foldable hordered hkeys hbelow hcount
  have hlength := hperm.length_eq ▸ h.length
  have hle := length_le_of_groupedRows hout
  refine ⟨rows, out, hrows, hperm, hout, by rw [maxRowCount]; omega, ?_⟩
  rw [merge_rows_eq hcount (fun r hr => (h.whole r hr).labels_eq) hhaving hwindow hbase hyields,
    hoffset, hlast]
  rfl

/-- What a node returns up to the last row asked for are its first rows. -/
theorem map_firstOf_eq (hlength : ∀ r ∈ results, r.rows.length ≤ maxRowCount)
    (last : Option Nat) :
    results.map (·.firstOf last) = results.map (·.firstRows (last.getD maxRowCount)) := by
  cases last with
  | some n => rfl
  | none => exact (List.map_id _).trans (map_firstRows_eq_self hlength).symm

/-- A result without a limit has fewer rows than the largest one, and so is cut to it as well. -/
theorem AreGrouped.map_firstOf (h : AreGrouped types list keys labels results)
    (last : Option Nat) :
    results.map (·.firstOf last) = results.map (·.firstRows (last.getD maxRowCount)) := by
  refine map_firstOf_eq (fun r hr => ?_) last
  have hsub : r.rows <+ results.flatMap (·.rows) :=
    List.flatMap_singleton (·.rows) r ▸ (List.singleton_sublist.2 hr).flatMap (·.rows)
  have hle := hsub.length_le
  have hlt := h.length
  rw [maxRowCount]
  omega

/-- **Groups in order page as if nodes returned all of them.**  Nodes skip nothing and return groups
up to the number of the last one that the merged window can show.  Later groups may come in part,
yet merging what came shows the same groups in the same order, with numerically equal aggregates. -/
theorem merge_firstOf_sameGroups (hpaging : dialect.paging ≠ .none)
    (hordered : s.groupsInOrder = true) (hhaving : s.having = none)
    (hwindow : s.window? = some window)
    (hexact : dialect.paging = .limit → ∀ c ∈ window.rowCount, c.bound = .exact)
    (hoffset : window.offsetRows parameters = .ok offset)
    (hlast : window.rowLimit parameters = .ok last)
    (hkeys : sortKeys s.groupBy labels
      (caseSensitivity labels (Statement.select s).tables schema) = .ok keys)
    (hcolumns : ∀ item ∈ s.groupBy, ∀ i ∈ item.index, i < labels.length)
    (hcount : 1 < results.length) (h : AreGrouped types s.list keys labels results) :
    ((∀ o ∈ window.offset, ∀ c ∈ window.rowCount, o.Apart c) →
      ∀ skipped pushed, nodeWindow dialect.paging s window parameters = .ok (skipped, pushed) →
        skipped = 0 ∧ pushed = pushedLast dialect.paging offset last) ∧
    ∃ groups out, ShowsGroups keys s.list.aggregates (results.flatMap (·.rows)) groups ∧
      (merge dialect schema (.select s) parameters results).bind MergedResult.rows =
        .ok (pageRows dialect.paging offset last groups) ∧
      (merge dialect schema (.select s) parameters
          (results.map (·.firstOf (pushedLast dialect.paging offset last)))).bind
        MergedResult.rows = .ok out ∧
      List.Forall₂ (SameGroupRow keys s.list.aggregates) out
        (pageRows dialect.paging offset last groups) := by
  refine ⟨fun hapart skipped pushed hnode => ?_, ?_⟩
  · obtain ⟨hskipped, hpushed⟩ := nodeWindow_eq (.inr hordered) hapart hexact hnode
    exact ⟨hskipped, hpushed offset last hoffset hlast⟩
  have hbelow := index_lt_of_sortKeys hcolumns hkeys
  rw [h.map_firstOf]
  -- What is cut is again grouped, so that one lemma merges both; the pages are compared afterwards.
  have hcut := h.firstRows ((pushedLast dialect.paging offset last).getD maxRowCount)
  obtain ⟨rows, out, hrows, hperm, hout, hlength, hmerge⟩ :=
    h.exists_merge_rows_eq hordered hhaving hwindow hoffset hlast hkeys hbelow hcount
  obtain ⟨rows', out', hrows', hperm', hout', hlength', hmerge'⟩ := hcut.exists_merge_rows_eq
    hordered hhaving hwindow hoffset hlast hkeys hbelow (by rwa [List.length_map])
  have hshows := ((showsGroups_of_groupedRows hout (.refl _)).of_perm hperm).map_visibleCells
    (length_of_mem_flatMap h.whole)
  refine ⟨_, _, hshows, hmerge, hmerge', ?_⟩
  have hfirst := (h.forall₂_take hrows hperm hrows' hperm' hout hout').imp fun _ _ hsame =>
    hsame.map_visibleCells hbelow
  refine forall₂_pageRows_of_take hpaging (by rwa [List.length_map]) (by rwa [List.length_map]) ?_
  rw [← List.map_take, ← List.map_take]
  exact List.forall₂_map_left_iff.2 (List.forall₂_map_right_iff.2 hfirst)

end Pages

/-- The sums of amounts by region, in the order of the regions. -/
def sumsByRegion (window : Pagination) : Select where
  tables := ["t_order"]
  list := ⟨[.column "region" none, .aggregate .sum false (some "amount") none], false⟩
  condition := none
  groupBy := [⟨.label "region", .asc, .low, none⟩]
  orderBy := [⟨.label "REGION", .asc, .low, none⟩]
  having := none
  pagination := some window
  lock := false
  subquery := false

/-- The sums that a node returns. -/
def regionSums (sums : List (String × Int64)) : PartialResult :=
  .ofRows ["region", "SUM(amount)"] (sums.map fun sum => [.text sum.1, .integer sum.2])

/-- Two nodes with orders of two regions in common, which they write differently. -/
def regionResults : List PartialResult :=
  [regionSums [("east", 5), ("west", 1)], regionSums [("East", 6), ("north", 2), ("West", 3)]]

/-- Each node has a row for each of its regions, in their order. -/
theorem areGrouped_regionResults (window : Pagination) :
    AreGrouped (fun _ => .text) (sumsByRegion window).list [byFirst] ["region", "SUM(amount)"]
      regionResults := by
  have hwhole : ∀ r ∈ regionResults, r.IsWhole ["region", "SUM(amount)"] := by
    simp only [regionResults, List.forall_mem_cons]
    exact ⟨⟨rfl, rfl, by decide⟩, ⟨rfl, rfl, by decide⟩, by simp⟩
  have hvariants : ∀ row ∈ regionResults.flatMap (·.rows),
      Row.HasVariants (fun _ => .text) [byFirst] row := by
    simp only [Row.HasVariants, Value.HasVariant]
    decide
  have hintegers : ∀ row ∈ regionResults.flatMap (·.rows),
      ∀ a ∈ (sumsByRegion secondPage).list.aggregates, a.TakesIntegers row := by
    simp only [PlacedAggregate.TakesIntegers, Value.IsIntegerOrNull]
    decide
  exact ⟨hwhole, by decide, by decide, by decide, hvariants, hintegers⟩

theorem sortKeys_sumsByRegion (window : Pagination) :
    sortKeys (sumsByRegion window).groupBy ["region", "SUM(amount)"]
      (caseSensitivity ["region", "SUM(amount)"]
        (Statement.select (sumsByRegion window)).tables .empty) = .ok [byFirst] := by
  change sortKeys (sumsByRegion secondPage).groupBy ["region", "SUM(amount)"]
    (caseSensitivity ["region", "SUM(amount)"]
      (Statement.select (sumsByRegion secondPage)).tables .empty) = .ok [byFirst]
  decide

/-- The second region comes from the first two of each node, though that leaves out a part of the
third one. -/
theorem merge_firstOf_sumsByRegion :
    nodeWindow (Dialect.paging .mySQL) (sumsByRegion secondPage) secondPage [.integer 1] =
        .ok (0, some 2) ∧
    ∃ groups out, ShowsGroups [byFirst] (sumsByRegion secondPage).list.aggregates
        (regionResults.flatMap (·.rows)) groups ∧
      (merge .mySQL .empty (.select (sumsByRegion secondPage)) [.integer 1] regionResults).bind
        MergedResult.rows = .ok (pageRows (Dialect.paging .mySQL) 1 (some 1) groups) ∧
      (merge .mySQL .empty (.select (sumsByRegion secondPage)) [.integer 1]
        (regionResults.map (·.firstOf (some 2)))).bind MergedResult.rows = .ok out ∧
      List.Forall₂ (SameGroupRow [byFirst] (sumsByRegion secondPage).list.aggregates) out
        (pageRows (Dialect.paging .mySQL) 1 (some 1) groups) := by
  have hcolumns : ∀ item ∈ (sumsByRegion secondPage).groupBy, ∀ i ∈ item.index,
      i < ["region", "SUM(amount)"].length := by simp [sumsByRegion]
  have hexact : ∀ c ∈ secondPage.rowCount, c.bound = .exact := by simp [secondPage]
  exact ⟨by decide +kernel, (merge_firstOf_sameGroups Dialect.Paging.noConfusion (by decide) rfl rfl
    (fun _ => hexact) rfl rfl (sortKeys_sumsByRegion secondPage) hcolumns (by decide)
    (areGrouped_regionResults secondPage)).2⟩

end ScatterGather
