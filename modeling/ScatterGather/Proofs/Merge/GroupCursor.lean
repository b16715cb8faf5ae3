import ScatterGather.Proofs.Merge.GroupAll
import ScatterGather.Proofs.Merge.GroupedStream
import ScatterGather.Proofs.Merge.Resolution

/-!
# Proofs/Merge/GroupCursor — every group is shown once, and no other row

Whichever way rows are grouped, the cursor goes through what their groups show, or the merge fails
(`groupCursor_cases`).  So a SELECT with GROUP BY or with DISTINCT rows **shows each group of the
partial rows once and nothing else** (`merge_showsGroups`): a stream on any rows, groups in memory
if there is a row.  Without any, groups in memory show the row of no rows at all, which belongs to
no group.
-/

namespace ScatterGather

open scoped List

/-- **Rows that show each group of others once**: one for each identity, with the cells of a row
that has it, but for the aggregates. -/
def ShowsGroups (keys : List SortKey) (aggregates : List PlacedAggregate) (rows out : List Row) :
    Prop :=
  ∃ firsts, firsts ⊆ rows ∧ (firsts.map (groupId keys)).Nodup ∧
    (∀ row ∈ rows, groupId keys row ∈ firsts.map (groupId keys)) ∧
    List.Forall₂ (SameBeside aggregates) out firsts

section Shows

variable {keys : List SortKey} {aggregates : List PlacedAggregate}
  {rows rows' out out' : List Row} {a b : Row} {width : Nat}

/-- **What groups show**, in whichever order. -/
theorem showsGroups_of_groupedRows (h : groupedRows keys aggregates rows = .ok out')
    (hperm : out ~ out') : ShowsGroups keys aggregates rows out := by
  obtain ⟨firsts, hforall, hfirsts⟩ := List.perm_comp_forall₂ hperm (forall₂_of_groupedRows h)
  have hids : firsts.map (groupId keys) ~ idsOf keys rows :=
    (hfirsts.map _).trans (.of_eq (map_groupId_firstsOf keys rows))
  exact ⟨firsts, fun row hrow => firstsOf_subset keys rows (hfirsts.subset hrow),
    hids.nodup_iff.2 (nodup_idsOf keys rows),
    fun row hrow => hids.mem_iff.2 (mem_idsOf.2 ⟨row, hrow, rfl⟩), hforall⟩

/-- The groups do not depend on the order of the rows. -/
theorem ShowsGroups.of_perm (h : ShowsGroups keys aggregates rows out) (hperm : rows ~ rows') :
    ShowsGroups keys aggregates rows' out := by
  obtain ⟨firsts, hsub, hnodup, hcovers, hforall⟩ := h
  exact ⟨firsts, fun row hrow => hperm.subset (hsub hrow), hnodup,
    fun row hrow => hcovers row (hperm.mem_iff.2 hrow), hforall⟩

/-- A cursor as wide as the rows shows their cells. -/
theorem SameBeside.visibleCells (h : SameBeside aggregates a b) (hwidth : b.length = width) :
    SameBeside aggregates (visibleCells width a) b := by
  intro i hi
  obtain hlt | hle := Nat.lt_or_ge i width
  · rw [cellAt_visibleCells hlt, h i hi]
  · rw [cellAt_of_length_le ((length_visibleCells width a).trans_le hle),
      cellAt_of_length_le (hwidth ▸ hle)]

/-- A cursor as wide as the rows shows the groups as they are. -/
theorem ShowsGroups.map_visibleCells (h : ShowsGroups keys aggregates rows out)
    (hwidth : ∀ row ∈ rows, row.length = width) :
    ShowsGroups keys aggregates rows (out.map (visibleCells width)) := by
  obtain ⟨firsts, hsub, hnodup, hcovers, hforall⟩ := h
  refine ⟨firsts, hsub, hnodup, hcovers, List.forall₂_map_left_iff.2 ?_⟩
  obtain ⟨hlength, hzip⟩ := List.forall₂_iff_zip.1 hforall
  refine List.forall₂_iff_zip.2 ⟨hlength, fun {o first} hmem => ?_⟩
  exact (hzip hmem).visibleCells (hwidth first (hsub (List.of_mem_zip hmem).2))

/-- **Rows that show groups have the identities of the rows**, each once, unless a key names the
column of an aggregate. -/
theorem ShowsGroups.map_groupId (h : ShowsGroups keys aggregates rows out)
    (hkeys : ∀ k ∈ keys, ∀ a ∈ aggregates, k.index ≠ a.index) :
    (out.map (groupId keys)).Nodup ∧
      ∀ id, id ∈ out.map (groupId keys) ↔ id ∈ rows.map (groupId keys) := by
  obtain ⟨firsts, hsub, hnodup, hcovers, hforall⟩ := h
  have hids : out.map (groupId keys) = firsts.map (groupId keys) := by
    rw [← List.forall₂_eq_eq_eq, List.forall₂_map_left_iff, List.forall₂_map_right_iff]
    exact hforall.imp fun _ _ hsame => (hsame.sameKeyCells hkeys).groupId_eq
  rw [hids]
  refine ⟨hnodup, fun id => ⟨fun hid => List.map_subset _ hsub hid, fun hid => ?_⟩⟩
  obtain ⟨row, hrow, rfl⟩ := List.mem_map.1 hid
  exact hcovers row hrow

end Shows

/-! ## Either way to group

Streamed groups and groups in memory differ in the order in which they take rows, and in what they
show of no rows at all.  Both show what the groups of the rows show. -/

/-- The items by which the rows of a SELECT are grouped: all visible columns, where DISTINCT rows
are asked for and nothing else groups them. -/
def Select.groupItems (s : Select) : List OrderItem :=
  if !s.groupBy.isEmpty || s.list.hasAggregate then s.groupBy else everyColumn s.list

section Cursor

variable {types : Nat → Variant} {dialect : Dialect} {schema : Schema} {s : Select}
  {items : List OrderItem} {parameters : List Value} {labels : List String}
  {caseSensitive : List Bool} {keys orderKeys : List SortKey} {results : List PartialResult}

/-- A SELECT that groups rows is merged by a cursor over groups. -/
theorem baseCursor_eq_groupCursor (h : s.groupBy ≠ [] ∨ s.list.distinct = true) :
    baseCursor s labels caseSensitive results =
      groupCursor s s.groupItems labels caseSensitive results := by
  rw [baseCursor, Select.groupItems]
  cases hgroup : !s.groupBy.isEmpty || s.list.hasAggregate with
  | true => rfl
  | false =>
    obtain ⟨hnil, -⟩ := Bool.or_eq_false_iff.1 hgroup
    have hdistinct : s.list.distinct = true := h.resolve_left fun hne => hne (by simpa using hnil)
    rw [hdistinct]
    rfl

/-- **Groups in order** are shown in order, or the cursor breaks where one of them fails. -/
theorem exists_groupCursor_cases (hgroup : sortKeys items labels caseSensitive = .ok keys)
    (hsame : OrderItem.sameAll items s.orderBy = true)
    (hexact : ∀ k ∈ keys, (types k.index).IsExact) (hbelow : ∀ k ∈ keys, k.index < labels.length)
    (hvariants : ∀ row ∈ results.flatMap (·.rows), Row.HasVariants types keys row)
    (hne : results ≠ []) (hwide : ∀ r ∈ results, r.IsWide labels.length)
    (hsorted : ∀ r ∈ results, r.rows.Pairwise (RowLe keys)) (columns : Nat) :
    ∃ base rows, groupCursor s items labels caseSensitive results = .ok base ∧
      GroupedStream.InOrder types keys labels.length rows ∧
      OrderedStream.Merges keys results rows ∧ rows ~ results.flatMap (·.rows) ∧
      ((∃ out, groupedRows keys s.list.aggregates rows = .ok out ∧
        base.Yields columns (out.map (visibleCells columns))) ∨
      ∃ e, groupedRows keys s.list.aggregates rows = .error e ∧ base.BreaksWith columns e) := by
  obtain ⟨g, rows, hg, hbefore, hordered, hmerges, hperm⟩ :=
    GroupedStream.exists_ofResults_isBefore s.list hexact hbelow hvariants hne hwide hsorted
  refine ⟨.grouped g, rows, ?_, hordered, hmerges, hperm, hbefore.reads_cases hordered columns⟩
  rw [groupCursor, hgroup, hsame]
  simp only [bind, Except.bind, if_true, hg]
  rfl

/-- **Either cursor goes through what groups show**, the rows being in an order of their own, or the
merge fails with a group. -/
theorem groupCursor_cases (hgroup : sortKeys items labels caseSensitive = .ok keys)
    (horder : sortKeys s.orderBy labels caseSensitive = .ok orderKeys)
    (hconsistent : ∀ item ∈ items ++ s.orderBy, item.IsConsistent labels)
    (hexact : ∀ k ∈ keys, (types k.index).IsExact)
    (hvariants : ∀ row ∈ results.flatMap (·.rows), Row.HasVariants types keys row)
    (hne : results ≠ []) (hwide : ∀ r ∈ results, r.IsWide labels.length)
    (hsorted : ∀ r ∈ results, r.rows.Pairwise (RowLe orderKeys))
    (hrows : results.flatMap (·.rows) ≠ [] ∨ OrderItem.sameAll items s.orderBy = true)
    (columns : Nat) :
    ∃ rows, rows ~ results.flatMap (·.rows) ∧
      ((∃ base out out', groupCursor s items labels caseSensitive results = .ok base ∧
        base.Yields columns (out.map (visibleCells columns)) ∧
        groupedRows keys s.list.aggregates rows = .ok out' ∧ out ~ out') ∨
      (∃ e, groupedRows keys s.list.aggregates rows = .error e) ∧
        ∀ base, groupCursor s items labels caseSensitive results = .ok base →
          ∃ e, base.BreaksWith columns e) := by
  obtain ⟨hconsistent, hconsistent'⟩ := List.forall_mem_append.1 hconsistent
  cases hsame : OrderItem.sameAll items s.orderBy with
  | true =>
    obtain rfl := Except.ok.inj
      -- The order of the statement is the order of its groups, which lets them arrive one by one.
      ((sortKeys_of_sameAll hsame hconsistent hconsistent' hgroup).symm.trans horder)
    have hbelow := index_lt_of_sortKeys (fun item hitem => (hconsistent item hitem).index_lt) hgroup
    obtain ⟨base, rows, hbase, -, -, hperm, hcases⟩ :=
      exists_groupCursor_cases hgroup hsame hexact hbelow hvariants hne hwide hsorted columns
    rw [hbase]
    refine ⟨rows, hperm, hcases.imp ?_ ?_⟩
    · rintro ⟨out, hout, hyields⟩
      exact ⟨base, out, out, rfl, hyields, hout, .refl _⟩
    · rintro ⟨e, he, hbreaks⟩
      refine ⟨⟨e, he⟩, fun base hbase => ⟨e, ?_⟩⟩
      rwa [← Except.ok.inj hbase]
  | false =>
    have hsome : results.flatMap (·.rows) ≠ [] := hrows.resolve_right (by simp [hsame])
    refine ⟨_, .refl _, ?_⟩
    rw [groupCursor, hgroup, hsame]
    simp only [bind, Except.bind, Bool.false_eq_true, if_false, horder]
    obtain ⟨out, out', hall, hout', hperm⟩ | ⟨e, e', hall, he'⟩ :=
      groupAll_cases s.list orderKeys
        (.of_hasNoDoubles fun r hr => (hvariants r hr).hasNoDoubles hexact) hsome hwide
    · rw [hall]
      exact .inl ⟨_, _, out', rfl, BaseCursor.yields_buffered columns _ none, hout',
        (sortRows_perm _ out).trans hperm⟩
    · rw [hall]
      exact .inr ⟨⟨e', he'⟩, fun _ hbase => by cases hbase⟩

/-- The merge fails with its cursor, if it gets as far as that. -/
theorem exists_merge_rows_eq_error (hcount : 1 < results.length)
    (hlabels : ∀ r ∈ results, r.labels = labels) (hhaving : s.having = none)
    (hwindow : s.window? = none)
    (hbreaks : ∀ base, baseCursor s labels
      (caseSensitivity labels (Statement.select s).tables schema) results = .ok base →
        ∃ e, base.BreaksWith labels.length e) :
    ∃ e, (merge dialect schema (.select s) parameters results).bind MergedResult.rows =
      .error e := by
  cases hbase : baseCursor s labels (caseSensitivity labels (Statement.select s).tables schema)
      results with
  | error e => exact ⟨e, by rw [merge_select_eq hcount hlabels, selectCursor, hbase]; rfl⟩
  | ok base =>
    obtain ⟨e, he⟩ := hbreaks base hbase
    exact ⟨e, merge_rows_eq_error_of_breaks hcount hlabels hhaving hwindow hbase he⟩

/-- **The merge shows what groups show**, the rows being in an order of their own, or fails with one
of them. -/
theorem merge_groups_cases (dialect : Dialect) (parameters : List Value)
    (hs : s.groupBy ≠ [] ∨ s.list.distinct = true) (hhaving : s.having = none)
    (hwindow : s.window? = none)
    (hgroup : sortKeys s.groupItems labels
      (caseSensitivity labels (Statement.select s).tables schema) = .ok keys)
    (horder : sortKeys s.orderBy labels
      (caseSensitivity labels (Statement.select s).tables schema) = .ok orderKeys)
    (hconsistent : ∀ item ∈ s.groupItems ++ s.orderBy, item.IsConsistent labels)
    (hexact : ∀ k ∈ keys, (types k.index).IsExact) (hcount : 1 < results.length)
    (hwhole : ∀ r ∈ results, r.IsWhole labels)
    (hvariants : ∀ row ∈ results.flatMap (·.rows), Row.HasVariants types keys row)
    (hsorted : ∀ r ∈ results, r.rows.Pairwise (RowLe orderKeys))
    (hrows : results.flatMap (·.rows) ≠ [] ∨ OrderItem.sameAll s.groupItems s.orderBy = true) :
    ∃ rows, rows ~ results.flatMap (·.rows) ∧
      ((∃ out out', (merge dialect schema (.select s) parameters results).bind MergedResult.rows =
          .ok (out.map (visibleCells labels.length)) ∧
        groupedRows keys s.list.aggregates rows = .ok out' ∧ out ~ out') ∨
      (∃ e, groupedRows keys s.list.aggregates rows = .error e) ∧
        ∃ e, (merge dialect schema (.select s) parameters results).bind MergedResult.rows =
          .error e) := by
  have hlabels : ∀ r ∈ results, r.labels = labels := fun r hr => (hwhole r hr).labels_eq
  obtain ⟨rows, hperm, ⟨base, out, out', hbase, hyields, hgroups, hout⟩ | ⟨hfails, hbreaks⟩⟩ :=
    groupCursor_cases hgroup horder hconsistent hexact hvariants
      (List.ne_nil_of_length_pos (Nat.lt_trans Nat.zero_lt_one hcount))
      (fun r hr => (hwhole r hr).isWide) hsorted hrows labels.length
  · exact ⟨rows, hperm, .inl ⟨out, out', merge_rows_eq_ok hcount hlabels hhaving hwindow
      ((baseCursor_eq_groupCursor hs).trans hbase) hyields, hgroups, hout⟩⟩
  · refine ⟨rows, hperm, .inr ⟨hfails, ?_⟩⟩
    exact exists_merge_rows_eq_error hcount hlabels hhaving hwindow fun base hbase =>
      hbreaks base ((baseCursor_eq_groupCursor hs).symm.trans hbase)

/-- **Grouping shows every group once, and no other row.**  A SELECT with GROUP BY or with DISTINCT
rows shows each group of the partial rows once, and nothing else, whether groups arrive in order or
are kept in memory; and it does so wherever its aggregates take their inputs.  Only where no row
came at all, groups in memory show a row that is none of theirs. -/
theorem merge_showsGroups (dialect : Dialect) (parameters : List Value)
    (hs : s.groupBy ≠ [] ∨ s.list.distinct = true) (hhaving : s.having = none)
    (hwindow : s.window? = none)
    (hgroup : sortKeys s.groupItems labels
      (caseSensitivity labels (Statement.select s).tables schema) = .ok keys)
    (horder : sortKeys s.orderBy labels
      (caseSensitivity labels (Statement.select s).tables schema) = .ok orderKeys)
    (hconsistent : ∀ item ∈ s.groupItems ++ s.orderBy, item.IsConsistent labels)
    (hexact : ∀ k ∈ keys, (types k.index).IsExact) (hcount : 1 < results.length)
    (hwhole : ∀ r ∈ results, r.IsWhole labels)
    (hvariants : ∀ row ∈ results.flatMap (·.rows), Row.HasVariants types keys row)
    (hsorted : ∀ r ∈ results, r.rows.Pairwise (RowLe orderKeys)) :
    (results.flatMap (·.rows) ≠ [] ∨ OrderItem.sameAll s.groupItems s.orderBy = true →
      (∀ out, (merge dialect schema (.select s) parameters results).bind MergedResult.rows =
          .ok out →
        ShowsGroups keys s.list.aggregates (results.flatMap (·.rows)) out ∧
        ((∀ k ∈ keys, ∀ a ∈ s.list.aggregates, k.index ≠ a.index) →
          (out.map (groupId keys)).Nodup ∧ ∀ id, id ∈ out.map (groupId keys) ↔
            id ∈ (results.flatMap (·.rows)).map (groupId keys))) ∧
      (s.list.aggregates = [] ∨
          Foldable types keys s.list.aggregates (results.flatMap (·.rows)) →
        ∃ out, (merge dialect schema (.select s) parameters results).bind MergedResult.rows =
          .ok out)) ∧
    (results.flatMap (·.rows) = [] → OrderItem.sameAll s.groupItems s.orderBy = false →
      (merge dialect schema (.select s) parameters results).bind MergedResult.rows =
        .ok [visibleCells labels.length (emptyRow s.list)]) := by
  refine ⟨fun hrows => ?_, fun hnil hsame => ?_⟩
  · obtain ⟨rows, hperm, ⟨out, out', hmerge, hgroups, hout⟩ | ⟨⟨e, he⟩, e', hmerge⟩⟩ :=
      merge_groups_cases dialect parameters hs hhaving hwindow hgroup horder hconsistent hexact
        hcount hwhole hvariants hsorted hrows
    · have hshows := ((showsGroups_of_groupedRows hgroups hout).of_perm hperm).map_visibleCells
        (length_of_mem_flatMap hwhole)
      refine ⟨fun shown hshown => ?_, fun _ => ⟨_, hmerge⟩⟩
      -- The merge is a function, so what was shown is what the groups show.
      obtain rfl := Except.ok.inj (hmerge.symm.trans hshown)
      exact ⟨hshows, hshows.map_groupId⟩
    · refine ⟨fun out hout => (by cases hmerge.symm.trans hout), fun hfold => ?_⟩
      obtain ⟨out, hout⟩ : ∃ out, groupedRows keys s.list.aggregates rows = .ok out := by
        obtain hnone | hfold := hfold
        · rw [hnone]
          exact exists_mapM_eq_ok fun id _ => ⟨_, groupRow_nil _⟩
        · exact (hfold.perm hperm.symm).exists_groupedRows_eq fun a ha =>
            SelectList.isPlaced_of_mem ha
      cases he.symm.trans hout
  · refine merge_rows_eq_ok hcount (fun r hr => (hwhole r hr).labels_eq) hhaving hwindow ?_
      (BaseCursor.yields_buffered labels.length [emptyRow s.list] none)
    -- Without rows only the cursor in memory remains, and it starts with one empty row.
    rw [baseCursor_eq_groupCursor hs, groupCursor, hgroup]
    simp only [bind, Except.bind, hsame, Bool.false_eq_true, if_false, horder,
      groupAll_eq_of_nil keys orderKeys hnil fun r hr => (hwhole r hr).isWide]
    rfl

end Cursor

/-- How many orders there are of each status, the greatest number first. -/
def countsByStatus : Select where
  tables := ["t_order"]
  list := ⟨[.column "status" none, .aggregate .count false none none], false⟩
  condition := none
  groupBy := [⟨.label "status", .asc, .low, none⟩]
  orderBy := [⟨.label "COUNT(*)", .desc, .low, none⟩]
  having := none
  pagination := none
  lock := false
  subquery := false

/-- The numbers of orders that a node returns. -/
def statusCounts (counts : List (String × Int64)) : PartialResult :=
  .ofRows ["status", "COUNT(*)"] (counts.map fun count => [.text count.1, .integer count.2])

/-- The column of the status, whatever the case of its texts. -/
def byStatus : SortKey := ⟨0, .asc, .low, false⟩

/-- Two nodes count orders of one status, which they write differently. -/
def statusResults : List PartialResult :=
  [statusCounts [("new", 2), ("old", 1)], statusCounts [("NEW", 3)]]

/-- Each status is shown once. -/
theorem merge_showsGroups_countsByStatus :
    ∃ out, (merge .mySQL .empty (.select countsByStatus) [] statusResults).bind MergedResult.rows =
        .ok out ∧
      (out.map (groupId [byStatus])).Nodup ∧ ∀ id, id ∈ out.map (groupId [byStatus]) ↔
        id ∈ (statusResults.flatMap (·.rows)).map (groupId [byStatus]) := by
  have hwhole : ∀ r ∈ statusResults, r.IsWhole ["status", "COUNT(*)"] := by
    simp only [statusResults, List.forall_mem_cons]
    exact ⟨⟨rfl, rfl, by decide⟩, ⟨rfl, rfl, by decide⟩, by simp⟩
  have hvariants : ∀ row ∈ statusResults.flatMap (·.rows),
      Row.HasVariants (fun _ => .text) [byStatus] row := by
    simp only [Row.HasVariants, Value.HasVariant]
    decide
  have hintegers : ∀ row ∈ statusResults.flatMap (·.rows), ∀ a ∈ countsByStatus.list.aggregates,
      a.TakesIntegers row := by
    simp only [PlacedAggregate.TakesIntegers, Value.IsIntegerOrNull]
    decide
  have hfoldable : Foldable (fun _ => .text) [byStatus] countsByStatus.list.aggregates
      (statusResults.flatMap (·.rows)) := .of_integers hvariants hintegers (by decide)
  have hgroup : sortKeys countsByStatus.groupItems ["status", "COUNT(*)"]
      (caseSensitivity ["status", "COUNT(*)"] (Statement.select countsByStatus).tables .empty) =
        .ok [byStatus] := by decide
  have horder : sortKeys countsByStatus.orderBy ["status", "COUNT(*)"]
      (caseSensitivity ["status", "COUNT(*)"] (Statement.select countsByStatus).tables .empty) =
        .ok [⟨1, .desc, .low, false⟩] := by decide
  have hconsistent : ∀ item ∈ countsByStatus.groupItems ++ countsByStatus.orderBy,
      item.IsConsistent ["status", "COUNT(*)"] := by
    simp [countsByStatus, Select.groupItems, OrderItem.IsConsistent]
  obtain ⟨hshows, hmerge⟩ := (merge_showsGroups .mySQL [] (.inl (by decide)) rfl rfl hgroup horder
    hconsistent (by decide) (by decide) hwhole hvariants (by decide)).1 (.inl (by decide))
  obtain ⟨out, hout⟩ := hmerge (.inr hfoldable)
  exact ⟨out, hout, (hshows out hout).2 (by decide)⟩

end ScatterGather
