import Mathlib.Data.List.Dedup
import Mathlib.Data.List.Induction
import Mathlib.Data.List.Nodup
import ScatterGather.Proofs.Merge.Accumulator
import ScatterGather.Proofs.Merge.Cursor
import ScatterGather.Proofs.Merge.SortKey

/-!
# Proofs/Merge/Group — the rows that groups show

The rows of one identity are a group (`rowsOf`), and a group shows one row: the cells of its first
row, with the aggregates of all its rows in their places (`groupRow`).  What all groups of some rows
show (`groupedRows`) is what either merge of groups comes down to: their first rows, one for each
identity, but for the aggregates (`forall₂_of_groupedRows`).  Where the aggregates take their inputs
all groups show a row (`Foldable.exists_groupedRows_eq`), with the aggregates of all rows of the
group (`isAggregated_of_groupedRows`).
-/

namespace ScatterGather

open scoped List

/-! ## Places of aggregates

The columns derived for a mean stand behind the visible ones, in the order in which they are asked
for. -/

namespace SelectList

/-- **Aggregates have their places**: from left to right among the items, with the derived columns
that they ask for. -/
theorem placeFrom_spec (width index averages : Nat) (items : List SelectItem) :
    (∀ a ∈ placeFrom width index averages items,
      a.IsPlaced ∧ index ≤ a.index ∧ a.index < index + items.length) ∧
    (placeFrom width index averages items).Pairwise (·.index < ·.index) := by
  induction items generalizing index averages with
  | nil => simp [placeFrom]
  | cons item rest ih =>
    -- An item that is no aggregate only moves the places of the rest, and an aggregate takes one
    -- before.
    have hskip : ∀ averages,
        (∀ a ∈ placeFrom width (index + 1) averages rest,
          a.IsPlaced ∧ index ≤ a.index ∧ a.index < index + (item :: rest).length) ∧
        (placeFrom width (index + 1) averages rest).Pairwise (·.index < ·.index) := by
      intro averages
      obtain ⟨hall, hpairwise⟩ := ih (index + 1) averages
      refine ⟨fun a ha => ?_, hpairwise⟩
      obtain ⟨hplaced, hle, hlt⟩ := hall a ha
      rw [List.length_cons]
      exact ⟨hplaced, by omega, by omega⟩
    have hplace : ∀ (a : PlacedAggregate) averages, a.IsPlaced → a.index = index →
        (∀ b ∈ a :: placeFrom width (index + 1) averages rest,
          b.IsPlaced ∧ index ≤ b.index ∧ b.index < index + (item :: rest).length) ∧
        (a :: placeFrom width (index + 1) averages rest).Pairwise (·.index < ·.index) := by
      intro a averages hplaced hindex
      obtain ⟨hall, hpairwise⟩ := hskip averages
      refine ⟨List.forall_mem_cons.2 ⟨⟨hplaced, hindex.ge, ?_⟩, hall⟩,
        List.pairwise_cons.2 ⟨fun b hb => ?_, hpairwise⟩⟩
      · rw [hindex, List.length_cons]
        omega
      · have hlt := ((ih (index + 1) averages).1 b hb).2.1
        omega
    cases item with
    | column name label => exact hskip averages
    | expression text label => exact hskip averages
    | aggregate function distinct argument label =>
      cases function with
      | avg => exact hplace _ _ (by simp [PlacedAggregate.IsPlaced, derivedColumns]) rfl
      | _ => exact hplace _ _ (by simp [PlacedAggregate.IsPlaced]) rfl

/-- Every aggregate has the derived columns it asks for. -/
theorem isPlaced_of_mem {list : SelectList} {a : PlacedAggregate} (h : a ∈ list.aggregates) :
    a.IsPlaced :=
  ((placeFrom_spec _ _ _ _).1 a h).1

/-- Aggregates stand in visible columns. -/
theorem index_lt_of_mem {list : SelectList} {a : PlacedAggregate} (h : a ∈ list.aggregates) :
    a.index < list.items.length := by
  have hlt := ((placeFrom_spec _ _ _ _).1 a h).2.2
  rwa [Nat.zero_add] at hlt

/-- Aggregates stand in different columns, from left to right. -/
theorem pairwise_index (list : SelectList) :
    list.aggregates.Pairwise (·.index < ·.index) :=
  (placeFrom_spec _ _ _ _).2

end SelectList

/-! ## Rows of results

Results are put into the columns of their aggregates, one after the other.  Places differ, so none
overwrites another. -/

/-- Setting a cell changes no other. -/
theorem cellAt_setCell (row : Row) (i j : Nat) (v : Value) :
    cellAt (setCell row i v) j = if j = i then v else cellAt row j := by
  have hlength : i < (row ++ List.replicate (i + 1 - row.length) Value.null).length := by
    rw [List.length_append, List.length_replicate]
    omega
  rw [setCell, cellAt, cellAt, List.getD_eq_getElem?_getD, List.getD_eq_getElem?_getD]
  split
  · rename_i heq
    rw [heq, List.getElem?_set_self hlength]
    rfl
  · rename_i hne
    rw [List.getElem?_set_ne (Ne.symm hne)]
    by_cases hlt : j < row.length
    · rw [List.getElem?_append_left hlt]
    · rw [List.getElem?_append_right (Nat.le_of_not_lt hlt),
        List.getElem?_eq_none (Nat.le_of_not_lt hlt), List.getElem?_replicate]
      split <;> rfl

/-- A row of NULLs. -/
theorem cellAt_replicate (n i : Nat) : cellAt (List.replicate n .null) i = .null := by
  rw [cellAt, List.getD_eq_getElem?_getD, List.getElem?_replicate]
  split <;> rfl

section Results

variable {aggregates : List PlacedAggregate} {accs : List Accumulator} {row out : Row}

/-- Cells outside the columns of the aggregates stay as they are. -/
theorem cellAt_withResults {i : Nat} (h : withResults row aggregates accs = .ok out)
    (hi : ∀ a ∈ aggregates, i ≠ a.index) : cellAt out i = cellAt row i := by
  induction aggregates generalizing row accs with
  | nil =>
    rw [withResults.eq_def] at h
    rw [Except.ok.inj h]
  | cons a aggregates ih =>
    obtain ⟨ha, hrest⟩ := List.forall_mem_cons.1 hi
    cases accs with
    | nil =>
      rw [withResults.eq_def] at h
      rw [Except.ok.inj h]
    | cons acc accs =>
      obtain ⟨v, -, h⟩ := bind_eq_ok.1 h
      rw [ih h hrest, cellAt_setCell, if_neg ha]

/-- Results that are there can be put in their columns. -/
theorem exists_withResults_eq {f : PlacedAggregate → Accumulator}
    (hresult : ∀ a ∈ aggregates, ∃ v, (f a).result = .ok v) (row : Row) :
    ∃ out, withResults row aggregates (aggregates.map f) = .ok out := by
  induction aggregates generalizing row with
  | nil => exact ⟨row, rfl⟩
  | cons a aggregates ih =>
    obtain ⟨⟨v, hv⟩, hresult⟩ := List.forall_mem_cons.1 hresult
    obtain ⟨out, hout⟩ := ih hresult (setCell row a.index v)
    refine ⟨out, ?_⟩
    rw [List.map_cons, withResults, hv]
    exact hout

/-- **The results stand in their columns.** -/
theorem result_of_withResults {f : PlacedAggregate → Accumulator}
    (hindex : aggregates.Pairwise (·.index < ·.index))
    (h : withResults row aggregates (aggregates.map f) = .ok out) :
    ∀ a ∈ aggregates, (f a).result = .ok (cellAt out a.index) := by
  induction aggregates generalizing row with
  | nil => simp
  | cons a aggregates ih =>
    obtain ⟨hfirst, hrest⟩ := List.pairwise_cons.1 hindex
    obtain ⟨v, hv, h⟩ := bind_eq_ok.1 h
    refine List.forall_mem_cons.2 ⟨?_, ih hrest h⟩
    rw [cellAt_withResults h fun b hb => (hfirst b hb).ne, cellAt_setCell, if_pos rfl, hv]

end Results

/-! ## Folding

Folding is described for one group: its accumulators take in its rows from the first on.  It
succeeds where each accumulator does, and fails with a beginning of the rows. -/

section Fold

variable {aggregates : List PlacedAggregate} {accs : List Accumulator} {row : Row}
  {rows : List Row}

/-- A row is taken in where each accumulator takes its inputs. -/
theorem feedRow_eq {f g : PlacedAggregate → Accumulator}
    (h : ∀ a ∈ aggregates, (f a).feed (a.inputs.map (cellAt row)) = (.ok (), g a)) :
    feedRow row aggregates (aggregates.map f) = .ok (aggregates.map g) := by
  induction aggregates with
  | nil => rfl
  | cons a aggregates ih =>
    obtain ⟨ha, h⟩ := List.forall_mem_cons.1 h
    rw [List.map_cons, feedRow, ha]
    simp only [ih h]
    rfl

/-- A row that is taken in is taken in by each accumulator. -/
theorem feedRow_eq_ok {f : PlacedAggregate → Accumulator}
    (h : feedRow row aggregates (aggregates.map f) = .ok accs) :
    accs = aggregates.map fun a => ((f a).feed (a.inputs.map (cellAt row))).2 := by
  induction aggregates generalizing accs with
  | nil => exact (Except.ok.inj h).symm
  | cons a aggregates ih =>
    rw [List.map_cons, feedRow] at h
    split at h
    · cases h
    · rename_i acc hfeed
      obtain ⟨rest, hrest, rfl⟩ := map_eq_ok.1 h
      rw [List.map_cons, hfeed, ih hrest]

/-- The accumulators of a group, its rows taken in one after another. -/
def feedRows (aggregates : List PlacedAggregate) (rows : List Row) :
    Except Error (List Accumulator) :=
  rows.foldlM (fun accs row => feedRow row aggregates accs) (freshAccumulators aggregates)

/-- **The row that a group shows**: the cells of its first row, with the aggregates of all its rows
in their places. -/
def groupRow (aggregates : List PlacedAggregate) (rows : List Row) : Except Error Row :=
  (feedRows aggregates rows).bind (withResults (rows.headD []) aggregates)

/-- Rows are taken in in two goes or in one. -/
theorem feedRows_append (aggregates : List PlacedAggregate) (rows rows' : List Row) :
    feedRows aggregates (rows ++ rows') = (feedRows aggregates rows).bind fun accs =>
      rows'.foldlM (fun accs row => feedRow row aggregates accs) accs :=
  List.foldlM_append

theorem feedRows_concat (aggregates : List PlacedAggregate) (rows : List Row) (row : Row) :
    feedRows aggregates (rows ++ [row]) =
      (feedRows aggregates rows).bind (feedRow row aggregates) := by
  rw [feedRows_append]
  congr 1
  funext accs
  exact bind_pure _

/-- A group fails with its first rows. -/
theorem feedRows_append_eq_error {rows' : List Row} {e : Error}
    (h : feedRows aggregates rows = .error e) : feedRows aggregates (rows ++ rows') = .error e := by
  rw [feedRows_append, h]
  rfl

/-- Without aggregates a group shows its first row. -/
theorem groupRow_nil (rows : List Row) : groupRow [] rows = .ok (rows.headD []) := by
  have hfeeds : feedRows [] rows = .ok [] := by
    induction rows using List.reverseRecOn with
    | nil => rfl
    | append_singleton rows row ih =>
      rw [feedRows_concat, ih]
      rfl
  rw [groupRow, hfeeds]
  rfl

/-- The accumulators of a group have taken in its rows. -/
theorem feedRows_eq_ok (h : feedRows aggregates rows = .ok accs) :
    accs = aggregates.map (·.taken rows) := by
  induction rows using List.reverseRecOn generalizing accs with
  | nil => exact (Except.ok.inj h).symm
  | append_singleton rows row ih =>
    rw [feedRows_concat] at h
    obtain ⟨before, hbefore, hfeed⟩ := bind_eq_ok.1 h
    obtain rfl := ih hbefore
    rw [feedRow_eq_ok hfeed]
    exact List.map_congr_left fun a _ => (a.taken_concat rows row).symm

/-- **A group takes in its rows** where the aggregates do. -/
theorem feedRows_eq (h : ∀ a ∈ aggregates, a.Feeds rows) :
    feedRows aggregates rows = .ok (aggregates.map (·.taken rows)) := by
  induction rows using List.reverseRecOn with
  | nil => rfl
  | append_singleton rows row ih =>
    have hbefore := ih fun a ha before r hfront =>
      h a ha before r (hfront.trans (List.prefix_append _ _))
    rw [feedRows_concat, hbefore]
    exact feedRow_eq fun a ha => h a ha rows row (List.prefix_refl _)

/-- Rows with the same cells, but where an aggregate has its place. -/
def SameBeside (aggregates : List PlacedAggregate) (a b : Row) : Prop :=
  ∀ i, (∀ p ∈ aggregates, i ≠ p.index) → cellAt a i = cellAt b i

/-- A group keeps the cells of its first row, but where an aggregate has its place. -/
theorem sameBeside_of_groupRow {o : Row} (h : groupRow aggregates rows = .ok o) :
    SameBeside aggregates o (rows.headD []) := by
  obtain ⟨accs, -, hresults⟩ := bind_eq_ok.1 h
  exact fun i hi => cellAt_withResults hresults hi

/-- **A group shows the aggregates of its rows.** -/
theorem result_of_groupRow {o : Row} (hindex : aggregates.Pairwise (·.index < ·.index))
    (h : groupRow aggregates rows = .ok o) :
    ∀ a ∈ aggregates, (a.taken rows).result = .ok (cellAt o a.index) := by
  obtain ⟨accs, hfeeds, hresults⟩ := bind_eq_ok.1 h
  obtain rfl := feedRows_eq_ok hfeeds
  exact result_of_withResults hindex hresults

/-- A group shows a row where the aggregates take it in and have a result. -/
theorem exists_groupRow_eq (hfeeds : ∀ a ∈ aggregates, a.Feeds rows)
    (hresult : ∀ a ∈ aggregates, ∃ v, (a.taken rows).result = .ok v) :
    ∃ o, groupRow aggregates rows = .ok o := by
  obtain ⟨o, ho⟩ := exists_withResults_eq hresult (rows.headD [])
  refine ⟨o, ?_⟩
  rw [groupRow, feedRows_eq hfeeds]
  exact ho

end Fold

/-! ## Groups

The rows of a group are filtered out of all rows by their identity.  This has no table and no order
of arrival in it, and both merges of groups are compared with it. -/

/-- The rows of the group with that identity. -/
def rowsOf (keys : List SortKey) (id : List Value) (rows : List Row) : List Row :=
  rows.filter fun row => groupId keys row = id

/-- The identities of rows, each once. -/
def idsOf (keys : List SortKey) (rows : List Row) : List (List Value) :=
  (rows.map (groupId keys)).dedup

/-- The first row of each group. -/
def firstsOf (keys : List SortKey) (rows : List Row) : List Row :=
  (idsOf keys rows).map fun id => (rowsOf keys id rows).headD []

/-- **The rows that groups show**, one for each identity of the rows. -/
def groupedRows (keys : List SortKey) (aggregates : List PlacedAggregate) (rows : List Row) :
    Except Error (List Row) :=
  (idsOf keys rows).mapM fun id => groupRow aggregates (rowsOf keys id rows)

section Groups

variable {types : Nat → Variant} {keys : List SortKey} {aggregates : List PlacedAggregate}
  {row : Row} {rows rows' out : List Row} {id : List Value}

theorem rowsOf_cons_self (h : groupId keys row = id) :
    rowsOf keys id (row :: rows) = row :: rowsOf keys id rows :=
  List.filter_cons_of_pos (decide_eq_true h)

theorem rowsOf_cons_of_ne (h : groupId keys row ≠ id) :
    rowsOf keys id (row :: rows) = rowsOf keys id rows :=
  List.filter_cons_of_neg (by simpa using h)

theorem rowsOf_eq_nil (h : ∀ row ∈ rows, groupId keys row ≠ id) : rowsOf keys id rows = [] :=
  List.filter_eq_nil_iff.2 fun row hrow => by simpa using h row hrow

/-- The rows of a group in another order are its rows in another order. -/
theorem rowsOf_perm (id : List Value) (h : rows ~ rows') :
    rowsOf keys id rows ~ rowsOf keys id rows' :=
  h.filter _

theorem rowsOf_append (id : List Value) (rows rows' : List Row) :
    rowsOf keys id (rows ++ rows') = rowsOf keys id rows ++ rowsOf keys id rows' :=
  List.filter_append ..

theorem rowsOf_concat_self (h : groupId keys row = id) :
    rowsOf keys id (rows ++ [row]) = rowsOf keys id rows ++ [row] := by
  rw [rowsOf_append, rowsOf_cons_self h]
  rfl

theorem rowsOf_concat_of_ne (h : groupId keys row ≠ id) :
    rowsOf keys id (rows ++ [row]) = rowsOf keys id rows := by
  rw [rowsOf_append, rowsOf_cons_of_ne h]
  exact List.append_nil _

theorem mem_rowsOf : row ∈ rowsOf keys id rows ↔ row ∈ rows ∧ groupId keys row = id :=
  List.mem_filter.trans (and_congr_right fun _ => decide_eq_true_iff)

theorem mem_idsOf : id ∈ idsOf keys rows ↔ ∃ row ∈ rows, groupId keys row = id :=
  List.mem_dedup.trans List.mem_map

/-- Identities are listed once. -/
theorem nodup_idsOf (keys : List SortKey) (rows : List Row) : (idsOf keys rows).Nodup :=
  List.nodup_dedup _

/-- A group has a first row, which has its identity. -/
theorem exists_rowsOf_eq_cons (h : id ∈ idsOf keys rows) :
    ∃ first group, rowsOf keys id rows = first :: group ∧ first ∈ rows ∧
      groupId keys first = id := by
  obtain ⟨row, hrow, hid⟩ := mem_idsOf.1 h
  have hne : rowsOf keys id rows ≠ [] := List.ne_nil_of_mem (mem_rowsOf.2 ⟨hrow, hid⟩)
  obtain ⟨first, group, heq⟩ := List.exists_cons_of_ne_nil hne
  have hfirst : first ∈ rowsOf keys id rows := heq ▸ List.mem_cons_self
  exact ⟨first, group, heq, mem_rowsOf.1 hfirst⟩

/-- The first rows have the identities of all rows, each once. -/
theorem map_groupId_firstsOf (keys : List SortKey) (rows : List Row) :
    (firstsOf keys rows).map (groupId keys) = idsOf keys rows := by
  rw [firstsOf, List.map_map]
  refine (List.map_congr_left fun id hid => ?_).trans (List.map_id _)
  obtain ⟨first, group, heq, -, hfirst⟩ := exists_rowsOf_eq_cons hid
  rw [Function.comp_apply, heq]
  exact hfirst

theorem firstsOf_subset (keys : List SortKey) (rows : List Row) : firstsOf keys rows ⊆ rows := by
  intro row hrow
  obtain ⟨id, hid, rfl⟩ := List.mem_map.1 hrow
  obtain ⟨first, group, heq, hfirst, -⟩ := exists_rowsOf_eq_cons hid
  rw [heq]
  exact hfirst

/-- What folding needs of the rows: cells of one exact type in the columns of the keys, inputs that
the aggregates take, and fewer than 2³² rows in a group. -/
structure Foldable (types : Nat → Variant) (keys : List SortKey) (aggregates : List PlacedAggregate)
    (rows : List Row) : Prop where
  hasVariants : ∀ row ∈ rows, Row.HasVariants types keys row
  takes : ∀ row ∈ rows, ∀ a ∈ aggregates, a.Takes row
  length : ∀ id, (rowsOf keys id rows).length < 2 ^ 32

/-- Fewer than 2³² rows with integers can be folded. -/
theorem Foldable.of_integers (hvariants : ∀ row ∈ rows, Row.HasVariants types keys row)
    (hintegers : ∀ row ∈ rows, ∀ a ∈ aggregates, a.TakesIntegers row)
    (hlength : rows.length < 2 ^ 32) : Foldable types keys aggregates rows :=
  ⟨hvariants, fun row hrow a ha => (hintegers row hrow a ha).takes,
    fun _ => Nat.lt_of_le_of_lt (List.length_filter_le _ _) hlength⟩

theorem Foldable.perm (h : Foldable types keys aggregates rows) (hperm : rows ~ rows') :
    Foldable types keys aggregates rows' :=
  ⟨fun row hrow => h.hasVariants row (hperm.mem_iff.2 hrow),
    fun row hrow => h.takes row (hperm.mem_iff.2 hrow),
    fun id => (rowsOf_perm id hperm).length_eq ▸ h.length id⟩

/-- The aggregates of each group hold what they are to show. -/
theorem Foldable.holds_taken (h : Foldable types keys aggregates rows)
    (hplaced : ∀ a ∈ aggregates, a.IsPlaced) (id : List Value) :
    ∀ a ∈ aggregates, a.Holds (rowsOf keys id rows) (a.taken (rowsOf keys id rows)) :=
  fun a ha => PlacedAggregate.holds_taken (hplaced a ha)
    (fun r hr => h.takes r (mem_rowsOf.1 hr).1 a ha) (h.length id)

/-- **Every group shows a row** where the aggregates take their inputs. -/
theorem Foldable.exists_groupedRows_eq (h : Foldable types keys aggregates rows)
    (hplaced : ∀ a ∈ aggregates, a.IsPlaced) :
    ∃ out, groupedRows keys aggregates rows = .ok out := by
  refine exists_mapM_eq_ok fun id _ => exists_groupRow_eq (fun a ha => ?_) fun a ha =>
    (h.holds_taken hplaced id a ha).exists_result_eq (h.length id)
  exact PlacedAggregate.feeds (hplaced a ha) (fun r hr => h.takes r (mem_rowsOf.1 hr).1 a ha)
    (h.length id)

end Groups

/-! ## Aggregated rows

For most of what follows it does not matter how a group's row was made: it has the key cells of one
of its rows and the aggregates of all. -/

/-- Rows with the same cells in the columns of the keys. -/
def SameKeyCells (keys : List SortKey) (a b : Row) : Prop :=
  ∀ k ∈ keys, cellAt a k.index = cellAt b k.index

instance (keys : List SortKey) : DecidableRel (SameKeyCells keys) := fun a b =>
  inferInstanceAs (Decidable (∀ k ∈ keys, cellAt a k.index = cellAt b k.index))

/-- **The aggregated rows of rows**: one for each identity, with the key cells of a row of its group
and with the aggregates of all rows of its group in their columns. -/
structure IsAggregated (keys : List SortKey) (aggregates : List PlacedAggregate)
    (rows out : List Row) : Prop where
  nodup : (out.map (groupId keys)).Nodup
  covers : ∀ row ∈ rows, groupId keys row ∈ out.map (groupId keys)
  cells : ∀ o ∈ out, ∃ row ∈ rows, SameKeyCells keys o row
  shows : ∀ o ∈ out, ∀ a ∈ aggregates, ∃ acc, a.Holds (rowsOf keys (groupId keys o) rows) acc ∧
    acc.result = .ok (cellAt o a.index)

section Aggregated

variable {types : Nat → Variant} {keys : List SortKey} {aggregates : List PlacedAggregate}
  {rows out out' : List Row} {a b : Row}

theorem SameKeyCells.groupId_eq (h : SameKeyCells keys a b) : groupId keys a = groupId keys b :=
  groupId_eq_iff.2 fun k hk => by rw [h k hk]

theorem SameKeyCells.hasVariants (h : SameKeyCells keys a b) (hb : Row.HasVariants types keys b) :
    Row.HasVariants types keys a :=
  fun k hk => h k hk ▸ hb k hk

theorem IsAggregated.perm (h : IsAggregated keys aggregates rows out) (hperm : out ~ out') :
    IsAggregated keys aggregates rows out' :=
  ⟨(hperm.map _).nodup_iff.1 h.nodup, fun row hrow => (hperm.map _).mem_iff.1 (h.covers row hrow),
    fun o ho => h.cells o (hperm.mem_iff.2 ho), fun o ho => h.shows o (hperm.mem_iff.2 ho)⟩

/-- Aggregated rows do not depend on the order of the rows. -/
theorem IsAggregated.of_perm {rows' : List Row} (h : IsAggregated keys aggregates rows out)
    (hperm : rows ~ rows') : IsAggregated keys aggregates rows' out := by
  refine ⟨h.nodup, fun row hrow => h.covers row (hperm.mem_iff.2 hrow), fun o ho => ?_,
    fun o ho a ha => ?_⟩
  · obtain ⟨row, hrow, hsame⟩ := h.cells o ho
    exact ⟨row, hperm.mem_iff.1 hrow, hsame⟩
  · obtain ⟨acc, hholds, hresult⟩ := h.shows o ho a ha
    exact ⟨acc, hholds.perm (rowsOf_perm _ hperm), hresult⟩

/-- Rows with the same key cells stand in one place in the order. -/
theorem SameKeyCells.compareRows_eq {c d : Row} (hab : SameKeyCells keys a b)
    (hcd : SameKeyCells keys c d) : compareRows keys a c = compareRows keys b d := by
  rw [compareRows, compareRows]
  have hkeys : ∀ {a b : Row}, SameKeyCells keys a b → keyCells keys a = keyCells keys b :=
    fun h => List.map_congr_left h
  rw [hkeys hab, hkeys hcd]

theorem SameKeyCells.rowLe_iff {c d : Row} (hab : SameKeyCells keys a b)
    (hcd : SameKeyCells keys c d) : RowLe keys a c ↔ RowLe keys b d := by
  rw [RowLe, RowLe, hab.compareRows_eq hcd]

/-- A cursor shows the cells in the columns of the keys. -/
theorem sameKeyCells_visibleCells {width : Nat} (hwidth : ∀ k ∈ keys, k.index < width) (row : Row) :
    SameKeyCells keys (visibleCells width row) row :=
  fun k hk => cellAt_visibleCells (hwidth k hk) row

/-- **A cursor that is wide enough shows aggregated rows.** -/
theorem IsAggregated.map_visibleCells {width : Nat} (h : IsAggregated keys aggregates rows out)
    (hkeys : ∀ k ∈ keys, k.index < width) (haggregates : ∀ a ∈ aggregates, a.index < width) :
    IsAggregated keys aggregates rows (out.map (visibleCells width)) := by
  have hsame := sameKeyCells_visibleCells hkeys
  have hids : (out.map (visibleCells width)).map (groupId keys) =
      out.map (groupId keys) := by
    rw [List.map_map]
    exact List.map_congr_left fun o _ => (hsame o).groupId_eq
  refine ⟨hids ▸ h.nodup, hids ▸ h.covers, fun o' ho' => ?_, fun o' ho' a ha => ?_⟩
  all_goals obtain ⟨o, ho, rfl⟩ := List.mem_map.1 ho'
  · obtain ⟨row, hrow, hcells⟩ := h.cells o ho
    exact ⟨row, hrow, fun k hk => (hsame o k hk).trans (hcells k hk)⟩
  · rw [(hsame o).groupId_eq, cellAt_visibleCells (haggregates a ha)]
    exact h.shows o ho a ha

/-- The cells that a cursor shows keep rows in order. -/
theorem pairwise_visibleCells {width : Nat} (h : rows.Pairwise (RowLe keys))
    (hkeys : ∀ k ∈ keys, k.index < width) :
    (rows.map (visibleCells width)).Pairwise (RowLe keys) := by
  have hsame := sameKeyCells_visibleCells hkeys
  exact List.pairwise_map.2 (h.imp fun hle => ((hsame _).rowLe_iff (hsame _)).2 hle)

/-- There is a row for each identity, and for no other. -/
theorem IsAggregated.mem_map_iff (h : IsAggregated keys aggregates rows out) (id : List Value) :
    id ∈ out.map (groupId keys) ↔ id ∈ rows.map (groupId keys) := by
  constructor
  · intro hid
    obtain ⟨o, ho, rfl⟩ := List.mem_map.1 hid
    obtain ⟨row, hrow, hsame⟩ := h.cells o ho
    exact List.mem_map.2 ⟨row, hrow, hsame.groupId_eq.symm⟩
  · intro hid
    obtain ⟨row, hrow, rfl⟩ := List.mem_map.1 hid
    exact h.covers row hrow

/-- **What groups show are their first rows**, but for the aggregates. -/
theorem forall₂_of_groupedRows (h : groupedRows keys aggregates rows = .ok out) :
    List.Forall₂ (SameBeside aggregates) out (firstsOf keys rows) :=
  List.forall₂_map_right_iff.2
    ((mapM_eq_ok.1 h).imp fun _ _ hgroup => sameBeside_of_groupRow hgroup).flip

theorem SameBeside.sameKeyCells (h : SameBeside aggregates a b)
    (hkeys : ∀ k ∈ keys, ∀ p ∈ aggregates, k.index ≠ p.index) : SameKeyCells keys a b :=
  fun k hk => h k.index (hkeys k hk)

/-- **What groups show has the identities of the rows**, each once, unless a key names the column of
an aggregate. -/
theorem map_groupId_of_groupedRows (hkeys : ∀ k ∈ keys, ∀ a ∈ aggregates, k.index ≠ a.index)
    (h : groupedRows keys aggregates rows = .ok out) :
    out.map (groupId keys) = idsOf keys rows := by
  rw [← map_groupId_firstsOf, ← List.forall₂_eq_eq_eq, List.forall₂_map_left_iff,
    List.forall₂_map_right_iff]
  exact (forall₂_of_groupedRows h).imp fun _ _ hsame => (hsame.sameKeyCells hkeys).groupId_eq

/-- **What groups show are aggregated rows**, unless a key names the column of an aggregate. -/
theorem isAggregated_of_groupedRows (hplaced : ∀ a ∈ aggregates, a.IsPlaced)
    (hindex : aggregates.Pairwise (·.index < ·.index))
    (hkeys : ∀ k ∈ keys, ∀ a ∈ aggregates, k.index ≠ a.index)
    (hrows : Foldable types keys aggregates rows)
    (h : groupedRows keys aggregates rows = .ok out) : IsAggregated keys aggregates rows out := by
  have hids := map_groupId_of_groupedRows hkeys h
  refine ⟨hids ▸ nodup_idsOf keys rows, fun row hrow => hids ▸ mem_idsOf.2 ⟨row, hrow, rfl⟩,
    fun o ho => ?_, fun o ho => ?_⟩
  · obtain ⟨first, hfirst, hsame⟩ := exists_mem_of_forall₂ (forall₂_of_groupedRows h) ho
    exact ⟨first, firstsOf_subset keys rows hfirst, hsame.sameKeyCells hkeys⟩
  · obtain ⟨id, hid, hgroup⟩ := exists_of_mem_mapM h ho
    obtain ⟨first, group, heq, -, hfirst⟩ := exists_rowsOf_eq_cons hid
    have hid : groupId keys o = id := by
      rw [← hfirst, ((sameBeside_of_groupRow hgroup).sameKeyCells hkeys).groupId_eq, heq]
      rfl
    intro a ha
    rw [hid]
    exact ⟨_, hrows.holds_taken hplaced id a ha, result_of_groupRow hindex hgroup a ha⟩

end Aggregated

end ScatterGather
