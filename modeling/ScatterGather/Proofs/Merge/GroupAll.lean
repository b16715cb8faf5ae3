import Mathlib.Data.List.Perm.Basic
import ScatterGather.Proofs.Merge.Group
import ScatterGather.Proofs.Merge.HashedKeys

/-!
# Proofs/Merge/GroupAll — groups kept in memory

After some rows the table has a group for each of their identities, with the accumulators of the
rows that have it (`AreGroupsOf`).  Where the keys are hashable (`HashableRows`), folding one more
row is feeding it to its group (`AreGroupsOf.foldRow_eq`), so folding all rows ends with the groups
of all, or with the failure of one of them (`foldRows_cases`): the merge shows what the groups show,
put in order (`groupAll_cases`).  Sorting rows loses none of them (`sortRows_perm`) and puts them in
order (`pairwise_sortRows`).
-/

namespace ScatterGather

open scoped List

/-! ## Folding

The table of groups is searched by key, and the rows come one at a time.  The invariant is that
after some rows it has one group for each of their identities, with exactly the rows of that
identity fed to it. -/

/-- A row goes into the first group of its key, or into a new one at the end. -/
theorem foldRow_cases (aggregates : List PlacedAggregate) (key : List Value) (row : Row)
    (groups : List Group) :
    (∃ before g after, groups = before ++ g :: after ∧ Value.sameKeys g.key key = true ∧
      foldRow aggregates key row groups = (feedRow row aggregates g.accumulators).map
        fun accumulators => before ++ { g with accumulators } :: after) ∨
    (∀ g ∈ groups, Value.sameKeys g.key key = false) ∧
      foldRow aggregates key row groups =
        (feedRow row aggregates (freshAccumulators aggregates)).map
          fun accs => groups ++ [⟨key, row, accs⟩] := by
  induction groups with
  | nil => exact .inr ⟨by simp, rfl⟩
  | cons g groups ih =>
    rw [foldRow]
    split
    · rename_i hsame
      exact .inl ⟨[], g, groups, rfl, hsame, rfl⟩
    · rename_i hne
      obtain ⟨before, h, after, rfl, hsame, heq⟩ | ⟨hnone, heq⟩ := ih
      · refine .inl ⟨g :: before, h, after, rfl, hsame, ?_⟩
        rw [heq]
        cases feedRow row aggregates h.accumulators <;> rfl
      · refine .inr ⟨List.forall_mem_cons.2 ⟨Bool.eq_false_of_not_eq_true hne, hnone⟩, ?_⟩
        rw [heq]
        cases feedRow row aggregates (freshAccumulators aggregates) <;> rfl

/-- A group of these rows: its first row, the key of that row, and the accumulators of all rows with
its identity. -/
structure Group.IsOf (keys : List SortKey) (aggregates : List PlacedAggregate) (rows : List Row)
    (g : Group) : Prop where
  first : (rowsOf keys (groupId keys g.first) rows).head? = some g.first
  key : g.key = groupKey keys g.first
  fed : feedRows aggregates (rowsOf keys (groupId keys g.first) rows) = .ok g.accumulators

/-- **The groups of the rows**, one for each identity. -/
structure AreGroupsOf (keys : List SortKey) (aggregates : List PlacedAggregate) (rows : List Row)
    (groups : List Group) : Prop where
  nodup : (groups.map (groupId keys ·.first)).Nodup
  covers : ∀ row ∈ rows, groupId keys row ∈ groups.map (groupId keys ·.first)
  isOf : ∀ g ∈ groups, g.IsOf keys aggregates rows

section Groups

variable {types : Nat → Variant} {keys : List SortKey} {aggregates : List PlacedAggregate}
  {row : Row} {rows : List Row} {groups : List Group} {g : Group} {accs : List Accumulator}

theorem areGroupsOf_nil : AreGroupsOf keys aggregates [] [] :=
  ⟨List.nodup_nil, by simp, by simp⟩

/-- The first row of a group is one of its rows. -/
theorem Group.IsOf.first_mem (h : g.IsOf keys aggregates rows) : g.first ∈ rows :=
  (mem_rowsOf.1 (List.mem_of_head? h.first)).1

/-- A group is not affected by rows of others. -/
theorem Group.IsOf.concat_of_ne (h : g.IsOf keys aggregates rows)
    (hne : groupId keys row ≠ groupId keys g.first) : g.IsOf keys aggregates (rows ++ [row]) := by
  have hrows : rowsOf keys (groupId keys g.first) (rows ++ [row]) =
      rowsOf keys (groupId keys g.first) rows := rowsOf_concat_of_ne hne
  exact ⟨by rw [hrows, h.first], h.key, by rw [hrows, h.fed]⟩

/-- A group with one more row stands among the groups as before. -/
theorem AreGroupsOf.replace {before after : List Group}
    (h : AreGroupsOf keys aggregates rows (before ++ g :: after))
    (hid : groupId keys row = groupId keys g.first)
    (hfed : feedRows aggregates (rowsOf keys (groupId keys row) (rows ++ [row])) = .ok accs) :
    AreGroupsOf keys aggregates (rows ++ [row])
      (before ++ { g with accumulators := accs } :: after) := by
  have hmap : (before ++ { g with accumulators := accs } :: after).map (groupId keys ·.first) =
      (before ++ g :: after).map (groupId keys ·.first) := by simp
  have hg : g ∈ before ++ g :: after := List.mem_append_right _ List.mem_cons_self
  have hothers : ∀ b ∈ before ++ after, groupId keys row ≠ groupId keys b.first := by
    have hnodup := h.nodup
    rw [List.map_append, List.map_cons, List.nodup_middle, List.nodup_cons, ← List.map_append]
      at hnodup
    intro b hb heq
    exact hnodup.1 (List.mem_map.2 ⟨b, hb, heq.symm.trans hid⟩)
  refine ⟨hmap ▸ h.nodup, ?_, fun b hb => ?_⟩
  · rw [hmap]
    refine List.forall_mem_append.2 ⟨h.covers, List.forall_mem_singleton.2 ?_⟩
    exact List.mem_map.2 ⟨g, hg, hid.symm⟩
  · obtain rfl | hb := List.mem_cons.1 (List.perm_middle.mem_iff.1 hb)
    · refine ⟨?_, (h.isOf g hg).key, hid ▸ hfed⟩
      change (rowsOf keys (groupId keys g.first) (rows ++ [row])).head? = some g.first
      rw [rowsOf_append, List.head?_append, (h.isOf g hg).first]
      rfl
    · have hmem := List.perm_middle.mem_iff.2 (List.mem_cons_of_mem g hb)
      exact (h.isOf b hmem).concat_of_ne (hothers b hb)

/-- A group of one row stands after those of other identities. -/
theorem AreGroupsOf.append (h : AreGroupsOf keys aggregates rows groups)
    (hothers : ∀ g ∈ groups, groupId keys row ≠ groupId keys g.first)
    (hfed : feedRows aggregates (rowsOf keys (groupId keys row) (rows ++ [row])) = .ok accs)
    (hnone : rowsOf keys (groupId keys row) rows = []) :
    AreGroupsOf keys aggregates (rows ++ [row]) (groups ++ [⟨groupKey keys row, row, accs⟩]) := by
  have hmap : (groups ++ [(⟨groupKey keys row, row, accs⟩ : Group)]).map (groupId keys ·.first) =
      groups.map (groupId keys ·.first) ++ [groupId keys row] := by simp
  refine ⟨?_, ?_, List.forall_mem_append.2 ⟨fun g hg => (h.isOf g hg).concat_of_ne (hothers g hg),
    List.forall_mem_singleton.2 ⟨?_, rfl, hfed⟩⟩⟩
  · rw [hmap, ← List.concat_eq_append, List.nodup_concat]
    refine ⟨fun hmem => ?_, h.nodup⟩
    obtain ⟨g, hg, heq⟩ := List.mem_map.1 hmem
    exact hothers g hg heq.symm
  · rw [hmap]
    refine List.forall_mem_append.2 ⟨fun r hr => List.mem_append_left _ (h.covers r hr), ?_⟩
    exact List.forall_mem_singleton.2 (List.mem_append_right _ (List.mem_singleton_self _))
  · rw [rowsOf_concat_self rfl, hnone]
    rfl

/-- **Folding a row is feeding it to its group.** -/
theorem AreGroupsOf.foldRow_eq (h : AreGroupsOf keys aggregates rows groups)
    (hrows : HashableRows keys (rows ++ [row])) :
    ∃ table, foldRow aggregates (groupKey keys row) row groups =
        (feedRows aggregates (rowsOf keys (groupId keys row) (rows ++ [row]))).map table ∧
      ∀ accs, feedRows aggregates (rowsOf keys (groupId keys row) (rows ++ [row])) = .ok accs →
        AreGroupsOf keys aggregates (rows ++ [row]) (table accs) := by
  have hsame : ∀ g ∈ groups, Value.sameKeys g.key (groupKey keys row) = true ↔
      groupId keys g.first = groupId keys row := fun g hg => by
    rw [(h.isOf g hg).key]
    exact hrows.sameKeys_iff (List.mem_append_right _ (List.mem_singleton_self row))
  have hfeed : ∀ accs, feedRows aggregates (rowsOf keys (groupId keys row) rows) = .ok accs →
      feedRow row aggregates accs =
        feedRows aggregates (rowsOf keys (groupId keys row) (rows ++ [row])) := by
    intro accs haccs
    rw [rowsOf_concat_self rfl, feedRows_concat, haccs]
    rfl
  obtain ⟨before, g, after, rfl, hkey, heq⟩ | ⟨hnone, heq⟩ :=
    foldRow_cases aggregates (groupKey keys row) row groups
  · have hg : g ∈ before ++ g :: after := List.mem_append_right _ List.mem_cons_self
    have hid := ((hsame g hg).1 hkey).symm
    refine ⟨_, ?_, fun accs hfed => h.replace hid hfed⟩
    rw [heq, hfeed g.accumulators (hid ▸ (h.isOf g hg).fed)]
  · have hothers : ∀ g ∈ groups, groupId keys row ≠ groupId keys g.first := fun g hg hid =>
      Bool.false_ne_true ((hnone g hg).symm.trans ((hsame g hg).2 hid.symm))
    have hnil : rowsOf keys (groupId keys row) rows = [] := rowsOf_eq_nil fun r hr hid => by
      obtain ⟨g, hg, heq⟩ := List.mem_map.1 (h.covers r hr)
      exact hothers g hg (hid.symm.trans heq.symm)
    refine ⟨_, ?_, fun accs hfed => h.append hothers hfed hnil⟩
    rw [heq, hfeed (freshAccumulators aggregates) (by rw [hnil]; rfl)]

/-- A group of the rows so far that fails is one of all rows, which fails too. -/
theorem exists_feedRows_eq_error {rest : List Row} {id : List Value} {e : Error}
    (hid : id ∈ idsOf keys rows) (h : feedRows aggregates (rowsOf keys id rows) = .error e) :
    ∃ id ∈ idsOf keys (rows ++ rest),
      feedRows aggregates (rowsOf keys id (rows ++ rest)) = .error e := by
  obtain ⟨row, hrow, rfl⟩ := mem_idsOf.1 hid
  refine ⟨_, mem_idsOf.2 ⟨row, List.mem_append_left _ hrow, rfl⟩, ?_⟩
  rw [rowsOf_append]
  exact feedRows_append_eq_error h

/-- The rows of a result are folded into their groups, or one of these fails. -/
theorem AreGroupsOf.foldResult_cases {labels : List String} {rest : List Row}
    (h : AreGroupsOf keys aggregates rows groups)
    (hrows : HashableRows keys (rows ++ rest))
    (hwidth : ∀ row ∈ rest, row.length = labels.length) :
    (∃ groups', foldResult aggregates keys labels none groups rest = .ok groups' ∧
      AreGroupsOf keys aggregates (rows ++ rest) groups') ∨
    ∃ e, foldResult aggregates keys labels none groups rest = .error e ∧
      ∃ id ∈ idsOf keys (rows ++ rest),
        feedRows aggregates (rowsOf keys id (rows ++ rest)) = .error e := by
  induction rest generalizing rows groups with
  | nil => exact .inl ⟨groups, rfl, (List.append_nil rows).symm ▸ h⟩
  | cons row rest ih =>
    obtain ⟨hrow, hrest⟩ := List.forall_mem_cons.1 hwidth
    rw [List.append_cons] at hrows ⊢
    obtain ⟨table, hfold, htable⟩ :=
      h.foldRow_eq (hrows.of_subset (List.subset_append_left _ _))
    rw [foldResult, PartialResult.cells_eq hrow]
    simp only [bind, Except.bind, hfold]
    cases hfed : feedRows aggregates (rowsOf keys (groupId keys row) (rows ++ [row])) with
    | error e =>
      have hid : groupId keys row ∈ idsOf keys (rows ++ [row]) :=
        mem_idsOf.2 ⟨row, List.mem_append_right _ (List.mem_singleton_self row), rfl⟩
      exact .inr ⟨e, rfl, exists_feedRows_eq_error hid hfed⟩
    | ok accs => exact ih (htable accs hfed) hrows hrest

/-- **The rows of all results are folded into their groups**, or one of these fails. -/
theorem AreGroupsOf.foldlM_cases {results : List PartialResult} {width : Nat}
    (h : AreGroupsOf keys aggregates rows groups)
    (hrows : HashableRows keys (rows ++ results.flatMap (·.rows)))
    (hwide : ∀ r ∈ results, r.IsWide width) :
    (∃ groups', results.foldlM (fun groups r =>
        foldResult aggregates keys r.labels r.failure groups r.rows) groups = .ok groups' ∧
      AreGroupsOf keys aggregates (rows ++ results.flatMap (·.rows)) groups') ∨
    ∃ e, results.foldlM (fun groups r =>
        foldResult aggregates keys r.labels r.failure groups r.rows) groups = .error e ∧
      ∃ id ∈ idsOf keys (rows ++ results.flatMap (·.rows)),
        feedRows aggregates (rowsOf keys id (rows ++ results.flatMap (·.rows))) = .error e := by
  induction results generalizing rows groups with
  | nil => exact .inl ⟨groups, rfl, (List.append_nil rows).symm ▸ h⟩
  | cons r rest ih =>
    obtain ⟨hr, hrest⟩ := List.forall_mem_cons.1 hwide
    rw [List.flatMap_cons, ← List.append_assoc] at hrows ⊢
    rw [List.foldlM_cons, hr.failure]
    obtain ⟨groups', hfold, hgroups'⟩ | ⟨e, hfold, id, hid, hfed⟩ := h.foldResult_cases
      (hrows.of_subset (List.subset_append_left _ _))
      fun row hrow => (hr.rows row hrow).trans hr.labels.symm
    · rw [hfold]
      exact ih hgroups' hrows hrest
    · refine .inr ⟨e, ?_, exists_feedRows_eq_error hid hfed⟩
      rw [hfold]
      rfl

/-- All results together are folded into the groups of their rows, or fail with one of these. -/
theorem foldRows_cases (aggregates : List PlacedAggregate) {results : List PartialResult}
    {width : Nat} (hrows : HashableRows keys (results.flatMap (·.rows)))
    (hwide : ∀ r ∈ results, r.IsWide width) :
    (∃ groups, foldRows aggregates keys results = .ok groups ∧
      AreGroupsOf keys aggregates (results.flatMap (·.rows)) groups) ∨
    ∃ e, foldRows aggregates keys results = .error e ∧
      ∃ id ∈ idsOf keys (results.flatMap (·.rows)),
        feedRows aggregates (rowsOf keys id (results.flatMap (·.rows))) = .error e :=
  areGroupsOf_nil.foldlM_cases hrows hwide

/-- The groups have the identities of the rows. -/
theorem AreGroupsOf.perm_idsOf (h : AreGroupsOf keys aggregates rows groups) :
    groups.map (groupId keys ·.first) ~ idsOf keys rows := by
  refine (List.perm_ext_iff_of_nodup h.nodup (nodup_idsOf keys rows)).2 fun id => ⟨fun hid => ?_,
    fun hid => ?_⟩
  · obtain ⟨g, hg, rfl⟩ := List.mem_map.1 hid
    exact mem_idsOf.2 ⟨g.first, (h.isOf g hg).first_mem, rfl⟩
  · obtain ⟨row, hrow, rfl⟩ := mem_idsOf.1 hid
    exact h.covers row hrow

/-- A group in the table shows what its rows show. -/
theorem Group.IsOf.withResults_eq (h : g.IsOf keys aggregates rows) :
    withResults g.first aggregates g.accumulators =
      groupRow aggregates (rowsOf keys (groupId keys g.first) rows) := by
  rw [groupRow, h.fed, List.headD_eq_head?_getD, h.first]
  rfl

/-- The groups in the table show what all groups show, in an order of their own. -/
theorem AreGroupsOf.mapM_cases (h : AreGroupsOf keys aggregates rows groups) :
    (∃ out out', groups.mapM (fun g => withResults g.first aggregates g.accumulators) = .ok out ∧
      groupedRows keys aggregates rows = .ok out' ∧ out ~ out') ∨
    ∃ e e', groups.mapM (fun g => withResults g.first aggregates g.accumulators) = .error e ∧
      groupedRows keys aggregates rows = .error e' := by
  have hmap : groups.mapM (fun g => withResults g.first aggregates g.accumulators) =
      (groups.map (groupId keys ·.first)).mapM fun id =>
        groupRow aggregates (rowsOf keys id rows) := by
    rw [List.mapM_map]
    exact mapM_congr_left fun g hg => (h.isOf g hg).withResults_eq
  rw [hmap]
  exact mapM_cases_of_perm _ h.perm_idsOf

end Groups

/-! ## Rows in order

Rows are sorted by inserting one after the other, each behind those that tie with it. -/

section Order

variable {keys : List SortKey} {Q : Row → Prop} {row : Row} {rows : List Row}

/-- Inserting a row keeps all the others. -/
theorem insertLast_perm (before : Row → Row → Bool) (row : Row) (rows : List Row) :
    insertLast before row rows ~ row :: rows := by
  induction rows with
  | nil => exact .refl _
  | cons r rows ih =>
    rw [insertLast]
    split
    · exact (ih.cons r).trans (.swap row r rows)
    · exact .refl _

/-- **Sorting loses no row.** -/
theorem sortRows_perm (keys : List SortKey) (rows : List Row) : sortRows keys rows ~ rows := by
  have hfold : ∀ sorted : List Row, rows.foldl (fun sorted row =>
      insertLast (fun a b => compareRows keys a b == .lt) row sorted) sorted ~ rows ++ sorted := by
    induction rows with
    | nil => exact fun sorted => .refl _
    | cons row rows ih =>
      intro sorted
      rw [List.foldl_cons]
      exact (ih _).trans (((insertLast_perm _ row sorted).append_left rows).trans List.perm_middle)
  have hall := hfold []
  rw [List.append_nil] at hall
  exact (List.reverse_perm _).trans hall

/-- A row inserted into rows in descending order keeps them so. -/
theorem pairwise_insertLast (horder : PreorderOn (compareRows keys) Q) (hrow : Q row)
    (hrows : ∀ r ∈ rows, Q r) (h : rows.Pairwise fun a b => RowLe keys b a) :
    (insertLast (fun a b => compareRows keys a b == .lt) row rows).Pairwise
      fun a b => RowLe keys b a := by
  induction rows with
  | nil => exact List.pairwise_singleton _ _
  | cons r rows ih =>
    obtain ⟨hr, hrows⟩ := List.forall_mem_cons.1 hrows
    obtain ⟨hfirst, hrest⟩ := List.pairwise_cons.1 h
    rw [insertLast]
    by_cases hlt : compareRows keys row r = .lt
    · rw [if_pos (beq_iff_eq.2 hlt)]
      refine List.pairwise_cons.2 ⟨fun b hb => ?_, ih hrows hrest⟩
      obtain rfl | hb := List.mem_cons.1 ((insertLast_perm _ _ _).mem_iff.1 hb)
      · rw [RowLe, hlt]
        rfl
      · exact hfirst b hb
    · have hle : RowLe keys r row := by
        rw [RowLe, horder.swap hrow hr]
        cases ho : compareRows keys row r with
        | lt => exact absurd ho hlt
        | _ => rfl
      rw [if_neg (by simpa using hlt)]
      refine List.pairwise_cons.2 ⟨List.forall_mem_cons.2 ⟨hle, fun b hb => ?_⟩, h⟩
      exact RowLe.trans horder (hrows b hb) hr hrow (hfirst b hb) hle

/-- **Sorting puts rows in order.** -/
theorem pairwise_sortRows (horder : PreorderOn (compareRows keys) Q) (hrows : ∀ r ∈ rows, Q r) :
    (sortRows keys rows).Pairwise (RowLe keys) := by
  have hfold : ∀ sorted : List Row, (∀ r ∈ sorted, Q r) →
      sorted.Pairwise (fun a b => RowLe keys b a) → (rows.foldl (fun sorted row =>
        insertLast (fun a b => compareRows keys a b == .lt) row sorted) sorted).Pairwise
          fun a b => RowLe keys b a := by
    induction rows with
    | nil => exact fun sorted _ h => h
    | cons row rows ih =>
      intro sorted hsorted h
      obtain ⟨hrow, hrows⟩ := List.forall_mem_cons.1 hrows
      refine ih hrows _ (fun r hr => ?_) (pairwise_insertLast horder hrow hsorted h)
      obtain rfl | hr := List.mem_cons.1 ((insertLast_perm _ _ _).mem_iff.1 hr)
      · exact hrow
      · exact hsorted r hr
  exact List.pairwise_reverse.2 (hfold [] (by simp) .nil)

end Order

/-! ## Groups in memory

A row is made of each group, and the rows are sorted. -/

section GroupAll

variable {types : Nat → Variant} {list : SelectList} {keys : List SortKey}
  {results : List PartialResult} {width : Nat}

/-- **The merge in memory shows what the groups show**, in order, or fails with one of them. -/
theorem groupAll_cases (list : SelectList) (orderKeys : List SortKey)
    (hrows : HashableRows keys (results.flatMap (·.rows)))
    (hne : results.flatMap (·.rows) ≠ []) (hwide : ∀ r ∈ results, r.IsWide width) :
    (∃ out out', groupAll list keys orderKeys results =
        .ok (sortRows (if orderKeys.isEmpty then keys else orderKeys) out) ∧
      groupedRows keys list.aggregates (results.flatMap (·.rows)) = .ok out' ∧ out ~ out') ∨
    ∃ e e', groupAll list keys orderKeys results = .error e ∧
      groupedRows keys list.aggregates (results.flatMap (·.rows)) = .error e' := by
  rw [groupAll]
  obtain ⟨groups, hgroups, hof⟩ | ⟨e, hgroups, id, hid, hfed⟩ :=
    foldRows_cases list.aggregates hrows hwide
  · have hnonempty : groups.isEmpty = false := by
      obtain ⟨row, hrow⟩ := List.exists_mem_of_ne_nil _ hne
      obtain ⟨g, hg, -⟩ := List.mem_map.1 (hof.covers row hrow)
      exact List.isEmpty_eq_false_iff_exists_mem.2 ⟨g, hg⟩
    simp only [bind, Except.bind, hgroups, hnonempty, Bool.false_eq_true, if_false]
    obtain ⟨out, out', hout, hout', hperm⟩ | ⟨e, e', he, he'⟩ := hof.mapM_cases
    · exact .inl ⟨out, out', by rw [hout]; rfl, hout', hperm⟩
    · exact .inr ⟨e, e', by rw [he], he'⟩
  · have hgroup : groupRow list.aggregates (rowsOf keys id (results.flatMap (·.rows))) =
        .error e := by
      rw [groupRow, hfed]
      rfl
    obtain ⟨e', he'⟩ := exists_mapM_eq_error (f := fun id => groupRow list.aggregates
      (rowsOf keys id (results.flatMap (·.rows)))) hid hgroup
    exact .inr ⟨e, e', by rw [hgroups]; rfl, he'⟩

/-- Without any row the merge in memory shows the row of no rows at all. -/
theorem groupAll_eq_of_nil (keys orderKeys : List SortKey) (hnil : results.flatMap (·.rows) = [])
    (hwide : ∀ r ∈ results, r.IsWide width) :
    groupAll list keys orderKeys results = .ok [emptyRow list] := by
  have hrows : HashableRows keys (results.flatMap (·.rows)) := .of_hasNoDoubles (by simp [hnil])
  obtain ⟨groups, hgroups, hof⟩ | ⟨e, -, id, hid, -⟩ :=
    foldRows_cases list.aggregates hrows hwide
  · have hnone : groups = [] := by
      have hperm := hof.perm_idsOf
      rw [hnil] at hperm
      exact List.map_eq_nil_iff.1 hperm.eq_nil
    rw [groupAll, hgroups, hnone]
    rfl
  · rw [hnil] at hid
    exact absurd hid List.not_mem_nil

/-- **Groups in memory** become aggregated rows, in order if their keys order rows. -/
theorem exists_groupAll_eq (orderKeys : List SortKey)
    (hexact : ∀ k ∈ keys, (types k.index).IsExact)
    (hkeys : ∀ k ∈ keys, ∀ a ∈ list.aggregates, k.index ≠ a.index)
    (hrows : Foldable types keys list.aggregates (results.flatMap (·.rows)))
    (hne : results.flatMap (·.rows) ≠ []) (hwide : ∀ r ∈ results, r.IsWide width) :
    ∃ out, groupAll list keys orderKeys results = .ok out ∧
      IsAggregated keys list.aggregates (results.flatMap (·.rows)) out ∧
      (orderKeys = [] ∨ orderKeys = keys → out.Pairwise (RowLe keys)) := by
  have hplaced : ∀ a ∈ list.aggregates, a.IsPlaced := fun a ha => SelectList.isPlaced_of_mem ha
  obtain ⟨rows, hrows'⟩ := hrows.exists_groupedRows_eq hplaced
  obtain ⟨out, out', hall, hout', hperm⟩ | ⟨e, e', -, he'⟩ :=
    groupAll_cases list orderKeys (.of_hasNoDoubles fun r hr =>
      (hrows.hasVariants r hr).hasNoDoubles hexact) hne hwide
  · have haggregated :=
      (isAggregated_of_groupedRows hplaced list.pairwise_index hkeys hrows hout').perm hperm.symm
    refine ⟨_, hall, haggregated.perm (sortRows_perm _ out).symm, fun horder => ?_⟩
    have horderKeys : (if orderKeys.isEmpty then keys else orderKeys) = keys := by
      obtain rfl | rfl := horder
      · rfl
      · exact ite_self _
    rw [horderKeys]
    refine pairwise_sortRows (preorderOn_compareRows hexact) fun o ho => ?_
    obtain ⟨row, hrow, hsame⟩ := haggregated.cells o ho
    exact hsame.hasVariants (hrows.hasVariants row hrow)
  · cases hrows'.symm.trans he'

end GroupAll

end ScatterGather
