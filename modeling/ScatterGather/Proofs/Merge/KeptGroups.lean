import ScatterGather.Proofs.Merge.GroupedPages
import ScatterGather.Proofs.Merge.Having
import ScatterGather.Proofs.Merge.SharedRows

/-!
# Proofs/Merge/KeptGroups — pages of the groups that HAVING keeps

A node returns its first groups as if the merged window counted all groups, yet that window counts
only those that HAVING keeps.  The first `n` groups of all come from the first `n` rows of each
node, the same row first in each (`head?_rowsOf_eq`), so HAVING decides them as it should
(`GroupedParts.forall₂_take`).  Hence the page is right as far as it shows these groups
(`merge_firstOf_keptGroups`): the whole of it, if HAVING keeps all of the first `n`.  Groups that
come after them may be missing from the page, or may be decided on a part of their rows.
-/

namespace ScatterGather

open scoped List

open GroupedStream (InOrder)

/-! ## The first row of a group

HAVING looks at the cells of a group's row, which are those of the first row that the group took in,
and not only at its aggregates.  So it matters that the two merges begin each of the first groups
with the same row. -/

section First

variable {types : Nat → Variant} {keys : List SortKey} {labels : List String}
  {results : List PartialResult} {rows rows' : List Row} {id : List Value} {n width : Nat}

/-- A node's first `n` rows are not all of fewer than `n` groups. -/
theorem agreeThrough_firstRows {shard : List Row} {earlier : List (List Value)}
    (hexact : ∀ k ∈ keys, (types k.index).IsExact)
    (hvariants : ∀ row ∈ shard, Row.HasVariants types keys row)
    (hstrict : shard.Pairwise (RowLt keys)) (hearlier : earlier.length < n) :
    AgreeThrough (fun row => groupId keys row ∈ earlier) (shard.take n) shard := by
  refine agreeThrough_take (or_iff_not_imp_left.2 fun hlong => ?_)
  by_contra hnone
  have hsubset : (shard.take n).map (groupId keys) ⊆ earlier := by
    intro x hx
    obtain ⟨row, hrow, rfl⟩ := List.mem_map.1 hx
    by_contra hmem
    exact hnone ⟨row, hrow, hmem⟩
  have hnodup : ((shard.take n).map (groupId keys)).Nodup :=
    (nodup_map_groupId hexact hvariants hstrict).sublist ((List.take_sublist n shard).map _)
  have hle := (List.subperm_of_subset hnodup hsubset).length_le
  rw [List.length_map, List.length_take] at hle
  omega

/-- Fewer than `n` groups come before one of the first `n`. -/
theorem exists_idsOf_eq_append (hid : id ∈ (idsOf keys rows).take n) :
    ∃ earlier later, idsOf keys rows = earlier ++ id :: later ∧ earlier.length < n ∧
      id ∉ earlier := by
  obtain ⟨earlier, later, hids⟩ := List.append_of_mem hid
  have hall : idsOf keys rows = earlier ++ id :: (later ++ (idsOf keys rows).drop n) := by
    rw [← List.cons_append, ← List.append_assoc, ← hids, List.take_append_drop]
  refine ⟨earlier, _, hall, ?_, ?_⟩
  · have hlength := congrArg List.length hids
    rw [List.length_take, List.length_append, List.length_cons] at hlength
    omega
  · have hnodup := nodup_idsOf keys rows
    rw [hall, List.nodup_append] at hnodup
    exact fun hmem => hnodup.2.2 id hmem id List.mem_cons_self rfl

/-- A row not of the earlier groups is of the next one, if a row of that group is among it and the
rows after it. -/
theorem groupId_eq_of_notMem_earlier {earlier later : List (List Value)} {common tail : List Row}
    {first row : Row} (h : InOrder types keys width rows)
    (hids : idsOf keys rows = earlier ++ id :: later) (hrows : rows = common ++ first :: tail)
    (hrow : row ∈ first :: tail) (hrowId : groupId keys row = id)
    (hfirst : groupId keys first ∉ earlier) : groupId keys first = id := by
  by_contra hne
  have hmem : ∀ a ∈ first :: tail, a ∈ rows := fun a ha => hrows ▸ List.mem_append_right common ha
  have hsorted : (first :: tail).Pairwise (RowLe keys) :=
    h.sorted.sublist (hrows ▸ List.sublist_append_right common _)
  have hafter : row ∈ tail := by
    obtain rfl | hafter := List.mem_cons.1 hrow
    · exact absurd hrowId hne
    · exact hafter
  have hordered := pairwise_idsOf (List.Subset.refl rows) h.sorted
  have hx : groupId keys first ∈ idsOf keys rows :=
    mem_idsOf.2 ⟨first, hmem first List.mem_cons_self, rfl⟩
  rw [hids] at hordered hx
  exact hfirst (mem_earlier_of_idLe h.exact h.hasVariants hordered hx
    ⟨first, hmem first List.mem_cons_self, row, hmem row hrow, rfl, hrowId,
      (List.pairwise_cons.1 hsorted).1 row hafter⟩ hne)

/-- **The first groups have the same first row**, whether nodes return all groups or the first. -/
theorem head?_rowsOf_eq (h : InOrder types keys width rows)
    (hperm : rows ~ results.flatMap (·.rows))
    (hreadable : ∀ r ∈ results, r.Readable keys)
    (hstrict : ∀ r ∈ results, r.rows.Pairwise (RowLt keys))
    (hmerges : OrderedStream.Merges keys results rows)
    (hmerges' : OrderedStream.Merges keys (results.map (·.firstRows n)) rows')
    (hid : id ∈ (idsOf keys rows).take n) :
    (rowsOf keys id rows').head? = (rowsOf keys id rows).head? := by
  obtain ⟨earlier, later, hids, hlt, hnotMem⟩ := exists_idsOf_eq_append hid
  have hshared : ∀ r ∈ results, AgreeThrough (fun row => groupId keys row ∈ earlier)
      (r.rows.take n) r.rows := fun r hr =>
    agreeThrough_firstRows h.exact (fun row hrow => h.hasVariants row
      (hperm.mem_iff.2 (List.mem_flatMap.2 ⟨r, hr, hrow⟩))) (hstrict r hr) hlt
  obtain ⟨common, rest', rest, heq', heq, hcommon, hhead, hstop⟩ :=
    (hmerges'.agreeThrough hreadable hshared hmerges).exists_eq_append
  -- the rows in common are of earlier groups, so the group's rows come after them
  have hnone : rowsOf keys id common = [] :=
    rowsOf_eq_nil fun row hrow hrowId => hnotMem (hrowId ▸ hcommon row hrow)
  rw [heq', heq, rowsOf_append, rowsOf_append, hnone, List.nil_append, List.nil_append]
  obtain ⟨row, hrow, hrowId⟩ := mem_idsOf.1 (List.mem_of_mem_take hid)
  have hrow : row ∈ rest := by
    have hmem : row ∈ rowsOf keys id rows := mem_rowsOf.2 ⟨hrow, hrowId⟩
    rw [heq, rowsOf_append, hnone, List.nil_append] at hmem
    exact (mem_rowsOf.1 hmem).1
  obtain _ | ⟨first, tail⟩ := rest
  · cases hrow
  obtain _ | ⟨first', tail'⟩ := rest'
  · cases hhead
  obtain rfl : first' = first := Option.some.inj hhead
  have hfirst : groupId keys first' = id :=
    groupId_eq_of_notMem_earlier h hids heq hrow hrowId (hstop first' rfl)
  rw [rowsOf_cons_self hfirst, rowsOf_cons_self hfirst, List.head?_cons, List.head?_cons]

end First

/-! ## Groups decided alike

With the same rows and the same one first, a group shows forms of the same numbers.  HAVING does not
tell forms of one number apart. -/

/-- Two rows with the same key and aggregates that HAVING does not tell apart either. -/
def AlikeGroupRow (keys : List SortKey) (aggregates : List PlacedAggregate) (a b : Row) : Prop :=
  SameGroupRow keys aggregates a b ∧ Row.Alike a b

/-- A cursor shows rows that are decided alike as such, if it is wide enough. -/
theorem AlikeGroupRow.map_visibleCells {keys : List SortKey} {aggregates : List PlacedAggregate}
    {a b : Row} {width : Nat} (h : AlikeGroupRow keys aggregates a b)
    (hkeys : ∀ k ∈ keys, k.index < width) :
    AlikeGroupRow keys aggregates (visibleCells width a) (visibleCells width b) :=
  ⟨h.1.map_visibleCells hkeys, h.2.visibleCells width⟩

theorem forall₂_map_visibleCells {keys : List SortKey} {aggregates : List PlacedAggregate}
    {out out' : List Row} {width : Nat}
    (h : List.Forall₂ (AlikeGroupRow keys aggregates) out' out)
    (hkeys : ∀ k ∈ keys, k.index < width) :
    List.Forall₂ (AlikeGroupRow keys aggregates) (out'.map (visibleCells width))
      (out.map (visibleCells width)) :=
  List.forall₂_map_left_iff.2 (List.forall₂_map_right_iff.2 (h.imp fun _ _ hab =>
    hab.map_visibleCells hkeys))

/-- **Partial results of nodes that grouped their rows**: whole, each with one row a group in the
order of the keys; cells of one exact type in each key column, inputs of aggregates that are NULL or
integers, and fewer than 2³² rows in a group. -/
structure GroupedParts (types : Nat → Variant) (list : SelectList) (keys : List SortKey)
    (labels : List String) (results : List PartialResult) : Prop where
  whole : ∀ r ∈ results, r.IsWhole labels
  strict : ∀ r ∈ results, r.rows.Pairwise (RowLt keys)
  exact : ∀ k ∈ keys, (types k.index).IsExact
  hasVariants : ∀ row ∈ results.flatMap (·.rows), Row.HasVariants types keys row
  integers : ∀ row ∈ results.flatMap (·.rows), ∀ a ∈ list.aggregates, a.TakesIntegers row
  length : ∀ id, (rowsOf keys id (results.flatMap (·.rows))).length < 2 ^ 32

section Parts

variable {types : Nat → Variant} {list : SelectList} {keys : List SortKey} {labels : List String}
  {results : List PartialResult} {rows rows' out out' : List Row} {n : Nat}

/-- Results with few rows have few in each group. -/
theorem AreGrouped.parts (h : AreGrouped types list keys labels results) :
    GroupedParts types list keys labels results :=
  ⟨h.whole, h.strict, h.exact, h.hasVariants, h.integers, fun _ =>
    Nat.lt_of_le_of_lt (List.length_filter_le _ _) h.length⟩

/-- Grouped results can be folded. -/
theorem GroupedParts.foldable (h : GroupedParts types list keys labels results) :
    Foldable types keys list.aggregates (results.flatMap (·.rows)) :=
  ⟨h.hasVariants, fun row hrow a ha => (h.integers row hrow a ha).takes, h.length⟩

/-- The first rows of grouped results are grouped results. -/
theorem GroupedParts.firstRows (h : GroupedParts types list keys labels results) (n : Nat) :
    GroupedParts types list keys labels (results.map (·.firstRows n)) := by
  have hsub := flatMap_firstRows_sublist n results
  refine ⟨fun r hr => ?_, fun r hr => ?_, h.exact, fun row hrow => h.hasVariants row
    (hsub.subset hrow), fun row hrow => h.integers row (hsub.subset hrow), fun id =>
    Nat.lt_of_le_of_lt (hsub.filter _).length_le (h.length id)⟩
  all_goals obtain ⟨r, hmem, rfl⟩ := List.mem_map.1 hr
  · exact (h.whole r hmem).firstRows n
  · exact (h.strict r hmem).sublist (List.take_sublist n r.rows)

/-- **Groups with the same rows in any order, the same one first, are decided alike.** -/
theorem GroupedParts.forall₂_of_perm (h : GroupedParts types list keys labels results)
    (hperm : rows ~ results.flatMap (·.rows))
    (hids : (idsOf keys rows').take n = (idsOf keys rows).take n)
    (hgroups : ∀ id ∈ (idsOf keys rows).take n, rowsOf keys id rows' ~ rowsOf keys id rows ∧
      (rowsOf keys id rows').head? = (rowsOf keys id rows).head?)
    (hout' : groupedRows keys list.aggregates rows' = .ok out')
    (hout : groupedRows keys list.aggregates rows = .ok out) :
    List.Forall₂ (AlikeGroupRow keys list.aggregates) (out'.take n) (out.take n) := by
  refine forall₂_take_groupedRows hids (fun id hid o' o ho' ho => ?_) hout' hout
  obtain ⟨hgroup, hhead⟩ := hgroups id hid
  have hplaced : ∀ a ∈ list.aggregates, a.IsPlaced := fun a ha => SelectList.isPlaced_of_mem ha
  have hintegers : ∀ row ∈ rowsOf keys id rows, ∀ a ∈ list.aggregates, a.TakesIntegers row :=
    fun row hrow => h.integers row (hperm.mem_iff.1 (mem_rowsOf.1 hrow).1)
  have hlength : (rowsOf keys id rows).length < 2 ^ 32 :=
    (rowsOf_perm id hperm).length_eq ▸ h.length id
  refine ⟨sameGroupRow_of_perm hplaced list.pairwise_index hgroup
    (fun row hrow => (mem_rowsOf.1 hrow).2)
    (fun a ha => .integers fun row hrow => hintegers row hrow a ha) hlength ho ho', fun i => ?_⟩
  by_cases hnamed : ∃ a ∈ list.aggregates, i = a.index
  · obtain ⟨a, ha, rfl⟩ := hnamed
    exact .inr (sameNumber_of_perm hplaced list.pairwise_index hgroup hintegers hlength ho ho' a ha)
  · have hbeside : ∀ a ∈ list.aggregates, i ≠ a.index := fun a ha heq => hnamed ⟨a, ha, heq⟩
    refine .inl ?_
    rw [sameBeside_of_groupRow ho' i hbeside, sameBeside_of_groupRow ho i hbeside,
      List.headD_eq_head?_getD, List.headD_eq_head?_getD, hhead]

/-- What groups show is decided as itself. -/
theorem GroupedParts.forall₂_self (h : GroupedParts types list keys labels results)
    (hperm : rows ~ results.flatMap (·.rows))
    (hout : groupedRows keys list.aggregates rows = .ok out) :
    List.Forall₂ (AlikeGroupRow keys list.aggregates) out out := by
  have hself := h.forall₂_of_perm (n := out.length) hperm rfl (fun _ _ => ⟨.refl _, rfl⟩) hout hout
  rwa [List.take_length] at hself

/-- **Merging whole groups and their first rows** shows the same first groups, decided alike. -/
theorem GroupedParts.forall₂_take (h : GroupedParts types list keys labels results)
    (hbelow : ∀ k ∈ keys, k.index < labels.length)
    (hordered : InOrder types keys labels.length rows) (hperm : rows ~ results.flatMap (·.rows))
    (hmerges : OrderedStream.Merges keys results rows)
    (hordered' : InOrder types keys labels.length rows')
    (hperm' : rows' ~ (results.map (·.firstRows n)).flatMap (·.rows))
    (hmerges' : OrderedStream.Merges keys (results.map (·.firstRows n)) rows')
    (hout : groupedRows keys list.aggregates rows = .ok out)
    (hout' : groupedRows keys list.aggregates rows' = .ok out') :
    List.Forall₂ (AlikeGroupRow keys list.aggregates) (out'.take n) (out.take n) :=
  h.forall₂_of_perm hperm
    (take_idsOf_firstRows hordered hperm hordered'.sorted hperm' h.strict)
    (fun _ hid => ⟨rowsOf_firstRows_perm hordered hperm hperm' h.strict hid,
      head?_rowsOf_eq hordered hperm (fun r hr => (h.whole r hr).readable hbelow) h.strict hmerges
        hmerges' hid⟩) hout' hout

end Parts

/-! ## The groups that are kept

Filtering keeps its place in a list only as far as the lists are alike.  What HAVING does with
groups after the first `n` is left open, and the statements stop there. -/

section Kept

variable {α : Type} {R : α → α → Prop} {p : α → Bool} {l l' : List α} {n : Nat}

/-- Among items that are alike, alike ones are kept. -/
theorem forall₂_filter (hp : ∀ a b, R a b → p a = p b) (h : List.Forall₂ R l' l) :
    List.Forall₂ R (l'.filter p) (l.filter p) :=
  List.rel_filter (fun a b hab => iff_of_eq (congrArg (· = true) (hp a b hab))) h

/-- Among first items that are alike, the first that are kept are alike. -/
theorem forall₂_take_filter (hp : ∀ a b, R a b → p a = p b)
    (h : List.Forall₂ R (l'.take n) (l.take n)) :
    List.Forall₂ R ((l'.filter p).take ((l.take n).filter p).length)
      ((l.filter p).take ((l.take n).filter p).length) := by
  have hkept := forall₂_filter hp h
  have hsplit : ∀ l : List α, l.filter p = (l.take n).filter p ++ (l.drop n).filter p := fun l => by
    rw [← List.filter_append, List.take_append_drop]
  rw [hsplit l', hsplit l, List.take_left' rfl, ← hkept.length_eq, List.take_left' rfl]
  exact hkept

/-- If all of the first items are kept, the first kept ones are alike. -/
theorem forall₂_take_filter_of_forall (hp : ∀ a b, R a b → p a = p b)
    (h : List.Forall₂ R (l'.take n) (l.take n)) (hall : ∀ a ∈ l.take n, p a = true) :
    List.Forall₂ R ((l'.filter p).take n) ((l.filter p).take n) := by
  have hall' : ∀ a ∈ l'.take n, p a = true := fun a ha => by
    obtain ⟨b, hb, hab⟩ := exists_mem_of_forall₂ h ha
    rw [hp a b hab, hall b hb]
  rwa [take_filter_of_forall hall, take_filter_of_forall hall']

end Kept

section KeptPages

variable {R : Row → Row → Prop} {p : Row → Bool} {rows rows' : List Row} {n offset : Nat}
  {last : Option Nat} {paging : Dialect.Paging}

/-- Pages of kept rows are alike as far as these are among first rows that are alike. -/
theorem forall₂_take_pageRows_filter (hpaging : paging ≠ .none) (hp : ∀ a b, R a b → p a = p b)
    (h : List.Forall₂ R (rows'.take n) (rows.take n)) :
    List.Forall₂ R
      ((pageRows paging offset last (rows'.filter p)).take
        (((rows.take n).filter p).length - offset))
      ((pageRows paging offset last (rows.filter p)).take
        (((rows.take n).filter p).length - offset)) := by
  rw [take_pageRows hpaging, take_pageRows hpaging]
  exact forall₂_pageRows paging offset last (forall₂_take_filter hp h)

/-- They are alike as a whole if all of the first rows are kept, and the window ends with them. -/
theorem forall₂_pageRows_filter_of_forall (hpaging : paging ≠ .none)
    (hn : (pushedLast paging offset last).getD maxRowCount = n) (hne : n ≠ maxRowCount)
    (hp : ∀ a b, R a b → p a = p b) (h : List.Forall₂ R (rows'.take n) (rows.take n))
    (hall : ∀ row ∈ rows.take n, p row = true) :
    List.Forall₂ R (pageRows paging offset last (rows'.filter p))
      (pageRows paging offset last (rows.filter p)) := by
  rw [← pageRows_take_of_ne hpaging hn hne (rows'.filter p),
    ← pageRows_take_of_ne hpaging hn hne (rows.filter p)]
  exact forall₂_pageRows paging offset last (forall₂_take_filter_of_forall hp h hall)

end KeptPages

/-- The SELECT of all groups, whichever HAVING keeps and wherever the window is. -/
def Select.allGroups (s : Select) : Select := { s with having := none, pagination := none }

section Pages

variable {types : Nat → Variant} {dialect : Dialect} {schema : Schema} {s : Select}
  {window : Pagination} {parameters : List Value} {labels : List String} {having : Having}
  {keys : List SortKey} {results : List PartialResult} {offset : Nat} {last : Option Nat}

/-- **The page of a SELECT with HAVING** is that of the groups that HAVING keeps. -/
theorem GroupedParts.exists_merge_rows_eq (h : GroupedParts types s.list keys labels results)
    (hordered : s.groupsInOrder = true)
    (hhaving : s.having.map (fun condition => ⟨condition, labels, parameters⟩) = some having)
    (hwindow : s.window? = some window) (hoffset : window.offsetRows parameters = .ok offset)
    (hlast : window.rowLimit parameters = .ok last)
    (hkeys : sortKeys s.groupBy labels
      (caseSensitivity labels (Statement.select s).tables schema) = .ok keys)
    (hbelow : ∀ k ∈ keys, k.index < labels.length) (hcount : 1 < results.length) :
    ∃ rows out, InOrder types keys labels.length rows ∧ OrderedStream.Merges keys results rows ∧
      rows ~ results.flatMap (·.rows) ∧ groupedRows keys s.list.aggregates rows = .ok out ∧
      (merge dialect schema (.select s.allGroups) parameters results).bind MergedResult.rows =
        .ok (out.map (visibleCells labels.length)) ∧
      ((∀ row ∈ out.map (visibleCells labels.length), having.Decides row) →
        (merge dialect schema (.select s) parameters results).bind MergedResult.rows =
          .ok (pageRows dialect.paging offset last
            ((out.map (visibleCells labels.length)).filter having.admits))) := by
  have hlabels : ∀ r ∈ results, r.labels = labels := fun r hr => (h.whole r hr).labels_eq
  obtain ⟨base, rows, out, hbase, hrows, hmerges, hperm, hout, hyields⟩ :=
    exists_groups_yields h.whole h.strict h.exact h.foldable hordered hkeys hbelow hcount
  refine ⟨rows, out, hrows, hmerges, hperm, hout,
    merge_rows_eq_ok (s := s.allGroups) hcount hlabels rfl rfl hbase hyields, fun hdecides => ?_⟩
  obtain ⟨condition, hcondition, rfl⟩ := Option.map_eq_some_iff.1 hhaving
  have hfiltered := hyields.filtered (h := ⟨condition, labels, parameters⟩) hdecides
  rw [merge_rows_eq_of_yields hcount hlabels hwindow hbase (hhaving ▸ hfiltered), hoffset, hlast]
  rfl

/-- **With HAVING, pages are right as far as nodes know.**  Nodes return groups up to the number of
the last one that the merged window could show if HAVING kept them all.  Where HAVING can be
decided, the page shows the right groups, with numerically equal aggregates, as far as they are
among the first `n`; it is the right page if HAVING keeps all of the first `n`, or if no node has
more. -/
theorem merge_firstOf_keptGroups {n : Nat} (hpaging : dialect.paging ≠ .none)
    (hordered : s.groupsInOrder = true)
    (hhaving : s.having.map (fun condition => ⟨condition, labels, parameters⟩) = some having)
    (hwindow : s.window? = some window)
    (hexact : dialect.paging = .limit → ∀ c ∈ window.rowCount, c.bound = .exact)
    (hoffset : window.offsetRows parameters = .ok offset)
    (hlast : window.rowLimit parameters = .ok last)
    (hn : (pushedLast dialect.paging offset last).getD maxRowCount = n)
    (hkeys : sortKeys s.groupBy labels
      (caseSensitivity labels (Statement.select s).tables schema) = .ok keys)
    (hcolumns : ∀ item ∈ s.groupBy, ∀ i ∈ item.index, i < labels.length)
    (hcount : 1 < results.length) (hlength : ∀ r ∈ results, r.rows.length < 2 ^ 63)
    (h : GroupedParts types s.list keys labels results) :
    ((∀ o ∈ window.offset, ∀ c ∈ window.rowCount, o.Apart c) →
      ∀ skipped pushed, nodeWindow dialect.paging s window parameters = .ok (skipped, pushed) →
        skipped = 0 ∧ pushed = pushedLast dialect.paging offset last) ∧
    ∃ groups groups',
      (merge dialect schema (.select s.allGroups) parameters results).bind MergedResult.rows =
        .ok groups ∧
      (merge dialect schema (.select s.allGroups) parameters
          (results.map (·.firstOf (pushedLast dialect.paging offset last)))).bind
        MergedResult.rows = .ok groups' ∧
      ((∀ row ∈ groups ++ groups', having.Decides row) →
        ∃ page page',
          (merge dialect schema (.select s) parameters results).bind MergedResult.rows =
            .ok page ∧
          (merge dialect schema (.select s) parameters
              (results.map (·.firstOf (pushedLast dialect.paging offset last)))).bind
            MergedResult.rows = .ok page' ∧
          page = pageRows dialect.paging offset last (groups.filter having.admits) ∧
          List.Forall₂ (SameGroupRow keys s.list.aggregates)
            (page'.take (((groups.take n).filter having.admits).length - offset))
            (page.take (((groups.take n).filter having.admits).length - offset)) ∧
          ((∀ row ∈ groups.take n, having.admits row = true) ∨
              (∀ r ∈ results, r.rows.length ≤ n) →
            List.Forall₂ (SameGroupRow keys s.list.aggregates) page' page)) := by
  refine ⟨fun hapart skipped pushed hnode => ?_, ?_⟩
  · obtain ⟨hskipped, hpushed⟩ := nodeWindow_eq (.inr hordered) hapart hexact hnode
    exact ⟨hskipped, hpushed offset last hoffset hlast⟩
  have hbelow := index_lt_of_sortKeys hcolumns hkeys
  have hmax : ∀ r ∈ results, r.rows.length ≤ maxRowCount := fun r hr =>
    Nat.le_pred_of_lt (hlength r hr)
  rw [map_firstOf_eq hmax, hn]
  obtain ⟨rows, out, hrows, hmerges, hperm, hout, hall, hpage⟩ :=
    h.exists_merge_rows_eq hordered hhaving hwindow hoffset hlast hkeys hbelow hcount
  obtain ⟨rows', out', hrows', hmerges', hperm', hout', hall', hpage'⟩ :=
    (h.firstRows n).exists_merge_rows_eq hordered hhaving hwindow hoffset hlast hkeys hbelow
      (by rwa [List.length_map])
  refine ⟨_, _, hall, hall', fun hdecides => ?_⟩
  obtain ⟨hdecides, hdecides'⟩ := List.forall_mem_append.1 hdecides
  have hp : ∀ a b, AlikeGroupRow keys s.list.aggregates a b → having.admits a = having.admits b :=
    fun _ _ hab => having.admits_congr hab.2
  have hfirst := forall₂_map_visibleCells
    (h.forall₂_take hbelow hrows hperm hmerges hrows' hperm' hmerges' hout hout') hbelow
  rw [List.map_take, List.map_take] at hfirst
  refine ⟨_, _, hpage hdecides, hpage' hdecides', rfl,
    (forall₂_take_pageRows_filter hpaging hp hfirst).imp fun _ _ hab => hab.1, fun hwhole => ?_⟩
  by_cases hshort : ∀ r ∈ results, r.rows.length ≤ n
  · -- nothing is left out
    rw [map_firstRows_eq_self hshort] at hall'
    rw [Except.ok.inj (hall'.symm.trans hall)]
    have hself := forall₂_map_visibleCells (h.forall₂_self hperm hout) hbelow
    exact (forall₂_pageRows _ _ _ (forall₂_filter hp hself)).imp fun _ _ hab => hab.1
  · have hne : n ≠ maxRowCount := fun heq => hshort fun r hr => heq ▸ hmax r hr
    exact (forall₂_pageRows_filter_of_forall hpaging hn hne hp hfirst
      (hwhole.resolve_right hshort)).imp fun _ _ hab => hab.1

end Pages

/-- The sums of amounts by region that are above a bound, in the order of the regions. -/
def sumsAbove (bound : Int64) (window : Pagination) : Select :=
  { sumsByRegion window with
    having := some (.test (.compare .greater "SUM(amount)" (.literal (.integer bound)))) }

/-- The second region comes from the first two of each node, as HAVING keeps both; it would refuse
the part of the third one that came, though not the whole. -/
theorem merge_firstOf_sumsAbove :
    nodeWindow (Dialect.paging .mySQL) (sumsAbove 1 secondPage) secondPage [.integer 1] =
        .ok (0, some 2) ∧
    ∃ page page', page ≠ [] ∧
      (merge .mySQL .empty (.select (sumsAbove 1 secondPage)) [.integer 1] regionResults).bind
        MergedResult.rows = .ok page ∧
      (merge .mySQL .empty (.select (sumsAbove 1 secondPage)) [.integer 1]
        (regionResults.map (·.firstOf (some 2)))).bind MergedResult.rows = .ok page' ∧
      List.Forall₂ (SameGroupRow [byFirst] (sumsAbove 1 secondPage).list.aggregates) page'
        page := by
  have hcolumns : ∀ item ∈ (sumsAbove 1 secondPage).groupBy, ∀ i ∈ item.index,
      i < ["region", "SUM(amount)"].length := by simp [sumsAbove, sumsByRegion]
  have hexact : ∀ c ∈ secondPage.rowCount, c.bound = .exact := by simp [secondPage]
  have hpaging : Dialect.paging .mySQL ≠ .none := Dialect.Paging.noConfusion
  have hhaving : (sumsAbove 1 secondPage).having.map
      (Having.mk · ["region", "SUM(amount)"] [.integer 1]) = some _ := rfl
  have hlast : secondPage.rowLimit [.integer 1] = .ok (some 1) := rfl
  obtain ⟨-, groups, groups', hgroups, hgroups', hpages⟩ := merge_firstOf_keptGroups hpaging
    (by decide) hhaving rfl (fun _ => hexact) rfl hlast rfl (sortKeys_sumsByRegion secondPage)
    hcolumns (by decide) (by decide) (areGrouped_regionResults secondPage).parts
  have hall : (merge .mySQL .empty (.select (sumsAbove 1 secondPage).allGroups) [.integer 1]
      regionResults).bind MergedResult.rows = .ok [[.text "east", .integer 11],
        [.text "north", .integer 2], [.text "west", .integer 4]] := by decide +kernel
  have hfirst : (merge .mySQL .empty (.select (sumsAbove 1 secondPage).allGroups) [.integer 1]
      (regionResults.map (·.firstOf (some 2)))).bind MergedResult.rows =
        .ok [[.text "east", .integer 11], [.text "north", .integer 2],
          [.text "west", .integer 1]] := by decide +kernel
  obtain rfl := Except.ok.inj (hgroups.symm.trans hall)
  obtain rfl := Except.ok.inj (hgroups'.symm.trans hfirst)
  obtain ⟨page, page', hpage, hpage', rfl, -, hsame⟩ := hpages (by decide)
  exact ⟨by decide +kernel, _, page', by decide, hpage, hpage', hsame (.inl (by decide))⟩

/-- Only the first row. -/
def firstRowOnly : Pagination := ⟨none, some ⟨.literal 1, .exact, some (104, 105)⟩⟩

-- The first region is not kept, so the page should show the second one, which no node returns.
example :
    nodeWindow (Dialect.paging .mySQL) (sumsAbove 5 firstRowOnly) firstRowOnly [] =
      .ok (0, some 1) ∧
    (merge .mySQL .empty (.select (sumsAbove 5 firstRowOnly)) []
      [regionSums [("east", 1), ("north", 6)], regionSums [("east", 2), ("north", 6)]]).bind
        MergedResult.rows = .ok [[.text "north", .integer 12]] ∧
    (merge .mySQL .empty (.select (sumsAbove 5 firstRowOnly)) []
      ([regionSums [("east", 1), ("north", 6)], regionSums [("east", 2), ("north", 6)]].map
        (·.firstOf (some 1)))).bind MergedResult.rows = .ok [] := by
  decide +kernel

end ScatterGather
