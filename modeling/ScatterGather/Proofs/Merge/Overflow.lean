import ScatterGather.Proofs.Merge.Group
import ScatterGather.Proofs.Merge.Returned

/-!
# Proofs/Merge/Overflow — a merge hands its failures back unless a mean overflows

The counts and the sums of an AVG are added by plain decimal addition, which aborts the call where a
total does not fit; a SUM that does not fit fails like everything else.  So a failure that the
caller does not get comes from **numbers in a column of an AVG whose sum, in some order, does not
fit** (`PlacedAggregate.Overflows`).  Whole numbers of 64 bits do fit, unless there are 2³² of them
(`not_columnOverflows`).

The accumulators of a mean add up nothing but numbers of the rows that were read, no one twice
(`PlacedAggregate.AddsUp`), and every way to merge keeps to that: groups in memory take in the rows
one by one, a stream of groups takes in each row that it stands on before it moves on.  With that a
result that breaks makes reading the merge fail, and the caller gets the failure unless an AVG
overflows first (`exists_returned_error_of_failure`).
-/

namespace ScatterGather

open scoped List

/-! ## Totals of a mean

A total that does not fit is a matter of its summands and their order: decimals are rounded as they
are added up.  So the rows are kept as a multiset, and an overflow as a list of summands taken from
it. -/

/-- The numbers in a column of these rows, as decimals. -/
def decimalsAt (index : Nat) (rows : List Row) : List Decimal :=
  rows.filterMap fun row => (cellAt row index).decimal?

/-- A column has numbers whose sum, in some order, does not fit. -/
def ColumnOverflows (index : Nat) (rows : List Row) : Prop :=
  ∃ ds, ds <+~ decimalsAt index rows ∧ Accumulator.addAll ds = .error .additionOverflow

/-- The total of some of the numbers of a column, no one counting twice. -/
def IsTotalOf (index : Nat) (rows : List Row) (total : Option Decimal) : Prop :=
  ∃ ds, ds <+~ decimalsAt index rows ∧ Accumulator.addAll ds = .ok (total.getD .zero)

section Total

variable {i : Nat} {row : Row} {rows rows' : List Row} {total : Option Decimal} {d : Decimal}

theorem decimalsAt_subperm (i : Nat) (h : rows <+~ rows') :
    decimalsAt i rows <+~ decimalsAt i rows' := by
  obtain ⟨l, hperm, hsub⟩ := h
  exact ⟨_, hperm.filterMap _, hsub.filterMap _⟩

theorem ColumnOverflows.mono (h : ColumnOverflows i rows) (hrows : rows <+~ rows') :
    ColumnOverflows i rows' :=
  h.imp fun _ hds => ⟨hds.1.trans (decimalsAt_subperm i hrows), hds.2⟩

theorem IsTotalOf.mono (h : IsTotalOf i rows total) (hrows : rows <+~ rows') :
    IsTotalOf i rows' total :=
  h.imp fun _ hds => ⟨hds.1.trans (decimalsAt_subperm i hrows), hds.2⟩

theorem isTotalOf_none (i : Nat) (rows : List Row) : IsTotalOf i rows none :=
  ⟨[], List.nil_subperm, rfl⟩

/-- What a cursor shows of a row has no numbers that the row does not have. -/
theorem decimal?_of_visibleCells {width : Nat}
    (h : (cellAt (visibleCells width row) i).decimal? = some d) :
    (cellAt row i).decimal? = some d := by
  obtain hlt | hle := Nat.lt_or_ge i width
  · rwa [cellAt_visibleCells hlt] at h
  · rw [cellAt_of_length_le ((length_visibleCells width row).trans_le hle)] at h
    cases h

/-- A sum that does not fit is the one way for an addition to fail. -/
theorem addExact_eq_error {a b : Decimal} {e : Error} (h : Accumulator.addExact a b = .error e) :
    e = .additionOverflow := by
  rw [Accumulator.addExact] at h
  split at h
  · cases h
  · exact (Except.error.inj h).symm

/-- Many additions, one after another, fail by overflowing if they fail. -/
theorem foldlM_addExact_eq_error {ds : List Decimal} {sum : Decimal} {e : Error}
    (h : ds.foldlM Accumulator.addExact sum = .error e) : e = .additionOverflow := by
  induction ds generalizing sum with
  | nil => cases h
  | cons d ds ih =>
    rw [List.foldlM_cons] at h
    cases hd : Accumulator.addExact sum d with
    | error e' =>
      rw [hd] at h
      obtain rfl := Except.error.inj h
      exact addExact_eq_error hd
    | ok sum' =>
      rw [hd] at h
      exact ih h

/-- **A total takes in one more number of its column**, unless that does not fit. -/
theorem IsTotalOf.addExact (h : IsTotalOf i rows total) (hd : (cellAt row i).decimal? = some d) :
    EndsWithin (Error.ArisesIf (ColumnOverflows i (row :: rows)))
      (fun sum => IsTotalOf i (row :: rows) (some sum))
      (Accumulator.addExact (total.getD .zero) d) := by
  obtain ⟨ds, hsub, htotal⟩ := h
  have hcons : decimalsAt i (row :: rows) = d :: decimalsAt i rows := List.filterMap_cons_some hd
  have hmore : ds ++ [d] <+~ decimalsAt i (row :: rows) :=
    hcons ▸ List.perm_append_comm.subperm.trans ((List.subperm_cons d).2 hsub)
  have hall : Accumulator.addAll (ds ++ [d]) = Accumulator.addExact (total.getD .zero) d := by
    rw [Accumulator.addAll, List.foldlM_append, ← Accumulator.addAll, htotal]
    exact bind_pure (Accumulator.addExact (total.getD .zero) d)
  rw [← hall]
  cases hsum : Accumulator.addAll (ds ++ [d]) with
  | ok sum => exact ⟨_, hmore, hsum⟩
  | error e =>
    obtain rfl := foldlM_addExact_eq_error hsum
    exact .inr ⟨rfl, _, hmore, hsum⟩

/-- **A total takes in one more cell of its column**, if that is a number. -/
theorem IsTotalOf.add_number (h : IsTotalOf i rows total) (row : Row) (width : Nat) :
    EndsWithin (Error.ArisesIf (ColumnOverflows i (row :: rows)))
      (fun sum => IsTotalOf i (row :: rows) (some sum))
      ((Accumulator.number (cellAt (visibleCells width row) i)).bind
        (Accumulator.addExact (total.getD .zero))) := by
  have hnumber := Accumulator.failsReturned_number (cellAt (visibleCells width row) i)
  exact (hnumber.arisesIf _).bind fun d hd => h.addExact (decimal?_of_visibleCells hd)

/-- **Whole numbers of 64 bits do not overflow**, unless there are 2³² of them. -/
theorem not_columnOverflows (hrows : ∀ row ∈ rows, (cellAt row i).IsSummand)
    (hlength : rows.length < 2 ^ 32) : ¬ ColumnOverflows i rows := by
  rintro ⟨ds, hsub, hoverflow⟩
  have hlen : ds.length ≤ rows.length := hsub.length_le.trans (List.length_filterMap_le _ _)
  have hds : ∀ d ∈ ds, ∃ y, d.whole? = some y ∧ y.natAbs ≤ 2 ^ 63 := by
    intro d hd
    obtain ⟨row, hrow, hcell⟩ := List.mem_filterMap.1 (hsub.subset hd)
    obtain hnull | ⟨x, hx, hlow, hhigh⟩ := hrows row hrow
    · generalize cellAt row i = v at hcell hnull
      cases v with
      | null => cases hcell
      | _ => cases hnull
    · obtain ⟨d', hd', hwhole, -⟩ := Value.exists_decimal?_eq hx
      obtain rfl := Option.some.inj (hcell.symm.trans hd')
      exact ⟨x, hwhole, by omega⟩
  obtain ⟨sum, hsum, -⟩ := exists_addAll_eq Decimal.whole?_zero hds (by omega)
  cases hsum.symm.trans hoverflow

end Total

/-! ## Accumulators

What an accumulator of a mean holds are totals of its two columns, or for DISTINCT the values that
it has seen.  Other accumulators add nothing up without asking whether it fits. -/

namespace PlacedAggregate

variable {a : PlacedAggregate} {aggregates : List PlacedAggregate} {acc : Accumulator}
  {accs : List Accumulator} {row : Row} {rows rows' : List Row} {real : Bool}

/-- The aggregate is a mean, and one of the columns that it reads has numbers whose sum, in some
order, does not fit. -/
def Overflows (a : PlacedAggregate) (rows : List Row) : Prop :=
  a.function = .avg ∧ ∃ i ∈ a.inputs, ColumnOverflows i rows

/-- The accumulator of a mean adds up nothing but numbers of these rows, no one twice. -/
def AddsUp (a : PlacedAggregate) (rows : List Row) : Accumulator → Prop
  | .mean count sum _ =>
    a.function = .avg ∧ IsTotalOf a.countColumn rows count ∧ IsTotalOf a.column rows sum
  | .distinctMean seen =>
    a.function = .avg ∧ seen.filterMap Value.decimal? <+~ decimalsAt a.column rows
  | _ => True

theorem Overflows.mono (h : a.Overflows rows) (hrows : rows <+~ rows') : a.Overflows rows' :=
  ⟨h.1, h.2.imp fun _ hi => ⟨hi.1, hi.2.mono hrows⟩⟩

theorem AddsUp.mono (h : a.AddsUp rows acc) (hrows : rows <+~ rows') : a.AddsUp rows' acc := by
  cases acc with
  | mean count sum real => exact ⟨h.1, h.2.1.mono hrows, h.2.2.mono hrows⟩
  | distinctMean seen => exact ⟨h.1, h.2.trans (decimalsAt_subperm _ hrows)⟩
  | _ => trivial

/-- A fresh accumulator has added nothing up. -/
theorem addsUp_fresh (a : PlacedAggregate) (rows : List Row) :
    a.AddsUp rows (.fresh a.function a.distinct) := by
  obtain ⟨function, distinct, label, index, derived⟩ := a
  cases function with
  | avg =>
    cases distinct with
    | false => exact ⟨rfl, isTotalOf_none _ _, isTotalOf_none _ _⟩
    | true => exact ⟨rfl, List.nil_subperm⟩
  | _ => cases distinct <;> trivial

/-- A mean takes in one more row. -/
theorem feedMean_within {count sum : Option Decimal} (h : a.AddsUp rows (.mean count sum real))
    (hplaced : a.IsPlaced) (row : Row) (width : Nat) :
    EndsWithin (Error.ArisesIf (a.Overflows (row :: rows)))
      (fun _ => a.AddsUp (row :: rows) (Accumulator.feedMean count sum real
        (cellAt (visibleCells width row) a.countColumn)
        (cellAt (visibleCells width row) a.column)).2)
      (Accumulator.feedMean count sum real (cellAt (visibleCells width row) a.countColumn)
        (cellAt (visibleCells width row) a.column)).1 := by
  obtain ⟨havg, hcount, hsum⟩ := h
  have hrows : rows <+~ row :: rows := (List.sublist_cons_self row rows).subperm
  have hcounted := hcount.add_number row width
  have hsummed := hsum.add_number row width
  rw [Accumulator.feedMean]
  split
  · exact ⟨havg, hcount.mono hrows, hsum.mono hrows⟩
  · generalize (Accumulator.number _).bind (Accumulator.addExact (count.getD .zero)) = counted
      at hcounted
    generalize (Accumulator.number _).bind (Accumulator.addExact (sum.getD .zero)) = summed
      at hsummed
    cases counted with
    | error e =>
      exact Error.ArisesIf.imp hcounted fun ho =>
        ⟨havg, _, countColumn_mem_inputs hplaced havg, ho⟩
    | ok count' =>
      cases summed with
      | error e =>
        exact Error.ArisesIf.imp hsummed fun ho => ⟨havg, _, column_mem_inputs hplaced, ho⟩
      | ok sum' => exact ⟨havg, hcounted, hsummed⟩

/-- A value that is new adds its number to those that were seen. -/
theorem filterMap_addNew_subperm {v : Value} {d : Decimal} (hv : v.decimal? = some d)
    (seen : List Value) :
    (Accumulator.addNew v seen).filterMap Value.decimal? <+~
      d :: seen.filterMap Value.decimal? := by
  rw [Accumulator.addNew]
  split
  · exact (List.sublist_cons_self _ _).subperm
  · rw [List.filterMap_append, List.filterMap_cons_some hv]
    exact List.perm_append_comm.subperm

/-- A mean of different values takes in one more row. -/
theorem feed_distinctMean_within {seen : List Value} (h : a.AddsUp rows (.distinctMean seen))
    (row : Row) (width : Nat) :
    EndsWithin (Error.ArisesIf (a.Overflows (row :: rows)))
      (fun _ => a.AddsUp (row :: rows) ((Accumulator.distinctMean seen).feed
        [cellAt (visibleCells width row) a.countColumn,
          cellAt (visibleCells width row) a.column]).2)
      ((Accumulator.distinctMean seen).feed [cellAt (visibleCells width row) a.countColumn,
        cellAt (visibleCells width row) a.column]).1 := by
  obtain ⟨havg, hseen⟩ := h
  rw [Accumulator.feed]
  cases hinput : Accumulator.lastInput? [cellAt (visibleCells width row) a.countColumn,
    cellAt (visibleCells width row) a.column] with
  | none =>
    have hrows : rows <+~ row :: rows := (List.sublist_cons_self row rows).subperm
    exact ⟨havg, hseen.trans (decimalsAt_subperm _ hrows)⟩
  | some v =>
    obtain ⟨hlast, -⟩ := Option.filter_eq_some_iff.1 hinput
    have hv : cellAt (visibleCells width row) a.column = v := Option.some.inj hlast
    have hnumber := Accumulator.failsReturned_number v
    dsimp only
    cases hd : Accumulator.number v with
    | error e => exact .inl (hnumber.of_eq_error hd)
    | ok d =>
      have hdecimal := hnumber.of_eq_ok hd
      have hcons : decimalsAt a.column (row :: rows) = d :: decimalsAt a.column rows :=
        List.filterMap_cons_some (decimal?_of_visibleCells (hv ▸ hdecimal))
      exact ⟨havg, hcons ▸ (filterMap_addNew_subperm hdecimal seen).trans
        ((List.subperm_cons d).2 hseen)⟩

/-- **An accumulator takes in one more row**, unless a total of it does not fit. -/
theorem AddsUp.feed (h : a.AddsUp rows acc) (hplaced : a.IsPlaced) (row : Row) (width : Nat) :
    EndsWithin (Error.ArisesIf (a.Overflows (row :: rows)))
      (fun _ => a.AddsUp (row :: rows)
        (acc.feed (a.inputs.map (cellAt (visibleCells width row)))).2)
      (acc.feed (a.inputs.map (cellAt (visibleCells width row)))).1 := by
  cases acc with
  | mean count sum real =>
    rw [map_cellAt_inputs_avg hplaced h.1]
    exact feedMean_within h hplaced row width
  | distinctMean seen =>
    rw [map_cellAt_inputs_avg hplaced h.1]
    exact feed_distinctMean_within h row width
  | extreme least best =>
    rw [Accumulator.feed]
    cases Accumulator.firstInput? (a.inputs.map (cellAt (visibleCells width row))) with
    | none => trivial
    | some v =>
      -- Only the means add without a check; what fails in the other kinds is returned.
      have hbetter := Accumulator.failsReturned_better least best v
      dsimp only
      cases hv : Accumulator.better least best v with
      | error e => exact .inl (hbetter.of_eq_error hv)
      | ok w => trivial
  | total sum =>
    rw [Accumulator.feed]
    cases Accumulator.firstInput? (a.inputs.map (cellAt (visibleCells width row))) with
    | none => trivial
    | some v =>
      have hplus := Accumulator.failsReturned_plus sum v
      dsimp only
      cases hv : Accumulator.plus sum v with
      | error e => exact .inl (hplus.of_eq_error hv)
      | ok w => trivial
  | distinctSum seen =>
    rw [Accumulator.feed]
    cases Accumulator.firstInput? (a.inputs.map (cellAt (visibleCells width row))) with
    | none => trivial
    | some v =>
      have hnumber := Accumulator.failsReturned_number v
      dsimp only
      cases hd : Accumulator.number v with
      | error e => exact .inl (hnumber.of_eq_error hd)
      | ok d => trivial
  | distinctCount seen =>
    rw [Accumulator.feed]
    split <;> trivial

/-- **The result of an accumulator** fails only where a total does not fit. -/
theorem AddsUp.result (h : a.AddsUp rows acc) (hplaced : a.IsPlaced) :
    EndsWithin (Error.ArisesIf (a.Overflows rows)) (fun _ => True) acc.result := by
  cases acc with
  | distinctMean seen =>
    obtain ⟨havg, hseen⟩ := h
    rw [Accumulator.result, Accumulator.meanOf]
    split
    · trivial
    · next ds hds =>
      refine EndsWithin.map (P := fun _ => True) ?_ fun _ _ => trivial
      cases hall : Accumulator.addAll ds with
      | ok sum => trivial
      | error e =>
        obtain rfl := foldlM_addExact_eq_error hall
        exact .inr ⟨rfl, havg, _, column_mem_inputs hplaced, ds,
          filterMap_eq_of_mapM hds ▸ hseen, hall⟩
  | mean count sum real => cases count <;> cases sum <;> trivial
  | _ => trivial

end PlacedAggregate

/-! ## Groups in memory

All groups are kept until the last row was read, so the rows that were fed to any of them are among
the rows read so far. -/

/-- One of the aggregates overflows. -/
def AnyOverflows (aggregates : List PlacedAggregate) (rows : List Row) : Prop :=
  ∃ a ∈ aggregates, a.Overflows rows

/-- The accumulators of the aggregates add up nothing but numbers of these rows. -/
abbrev AddUp (aggregates : List PlacedAggregate) (rows : List Row) (accs : List Accumulator) :
    Prop :=
  List.Forall₂ (fun a acc => a.AddsUp rows acc) aggregates accs

section Groups

variable {aggregates : List PlacedAggregate} {accs : List Accumulator} {row : Row}
  {rows rows' before : List Row} {width : Nat} {keys : List SortKey} {key : List Value}
  {groups : List Group}

theorem AnyOverflows.mono (h : AnyOverflows aggregates rows) (hrows : rows <+~ rows') :
    AnyOverflows aggregates rows' :=
  h.imp fun _ ha => ⟨ha.1, ha.2.mono hrows⟩

theorem AddUp.mono (h : AddUp aggregates rows accs) (hrows : rows <+~ rows') :
    AddUp aggregates rows' accs :=
  h.imp fun _ _ ha => ha.mono hrows

theorem addUp_freshAccumulators (aggregates : List PlacedAggregate) (rows : List Row) :
    AddUp aggregates rows (freshAccumulators aggregates) :=
  List.forall₂_map_right_iff.2 (List.forall₂_same.2 fun a _ => a.addsUp_fresh rows)

/-- **Accumulators take in one more row**, unless a total does not fit. -/
theorem feedRow_within (h : AddUp aggregates rows accs) (hplaced : ∀ a ∈ aggregates, a.IsPlaced)
    (row : Row) (width : Nat) :
    EndsWithin (Error.ArisesIf (AnyOverflows aggregates (row :: rows)))
      (AddUp aggregates (row :: rows)) (feedRow (visibleCells width row) aggregates accs) := by
  induction h with
  | nil => exact .nil
  | @cons a acc aggregates accs ha _ ih =>
    obtain ⟨haplaced, hrest⟩ := List.forall_mem_cons.1 hplaced
    have hfed := ha.feed haplaced row width
    have hfeeds := (ih hrest).imp (q := AnyOverflows (a :: aggregates) (row :: rows))
      fun ⟨b, hb, ho⟩ => ⟨b, List.mem_cons_of_mem _ hb, ho⟩
    rw [feedRow]
    rcases hfeed : acc.feed (a.inputs.map (cellAt (visibleCells width row))) with ⟨e | _, acc'⟩
    · rw [hfeed] at hfed
      exact Error.ArisesIf.imp hfed fun ho => ⟨a, List.mem_cons_self, ho⟩
    · rw [hfeed] at hfed
      exact hfeeds.map fun accs' haccs' => List.Forall₂.cons hfed haccs'

/-- **The results of accumulators** fail only where a total does not fit. -/
theorem withResults_within (h : AddUp aggregates rows accs)
    (hplaced : ∀ a ∈ aggregates, a.IsPlaced) (row : Row) :
    EndsWithin (Error.ArisesIf (AnyOverflows aggregates rows)) (fun _ => True)
      (withResults row aggregates accs) := by
  induction h generalizing row with
  | nil => trivial
  | @cons a acc aggregates accs ha _ ih =>
    obtain ⟨haplaced, hrest⟩ := List.forall_mem_cons.1 hplaced
    have hresult := (ha.result haplaced).imp (q := AnyOverflows (a :: aggregates) rows)
      fun ho => ⟨a, List.mem_cons_self, ho⟩
    refine hresult.bind fun v _ => (ih hrest _).imp fun ⟨b, hb, ho⟩ => ?_
    exact ⟨b, List.mem_cons_of_mem _ hb, ho⟩

/-- The accumulators of all groups add up nothing but numbers of these rows. -/
def GroupsAddUp (aggregates : List PlacedAggregate) (rows : List Row) (groups : List Group) :
    Prop :=
  ∀ g ∈ groups, AddUp aggregates rows g.accumulators

theorem GroupsAddUp.mono (h : GroupsAddUp aggregates rows groups) (hrows : rows <+~ rows') :
    GroupsAddUp aggregates rows' groups :=
  fun g hg => (h g hg).mono hrows

/-- **Groups take in one more row.** -/
theorem foldRow_within (h : GroupsAddUp aggregates rows groups)
    (hplaced : ∀ a ∈ aggregates, a.IsPlaced) (key : List Value) (row : Row) (width : Nat) :
    EndsWithin (Error.ArisesIf (AnyOverflows aggregates (row :: rows)))
      (GroupsAddUp aggregates (row :: rows))
      (foldRow aggregates key (visibleCells width row) groups) := by
  have hrows : rows <+~ row :: rows := (List.sublist_cons_self row rows).subperm
  induction groups with
  | nil =>
    refine (feedRow_within (addUp_freshAccumulators aggregates rows) hplaced row width).map
      fun accs h => ?_
    exact List.forall_mem_singleton.2 h
  | cons g rest ih =>
    obtain ⟨hg, hrest⟩ := List.forall_mem_cons.1 h
    rw [foldRow]
    split
    · exact (feedRow_within hg hplaced row width).map fun accs haccs =>
        List.forall_mem_cons.2 ⟨haccs, GroupsAddUp.mono hrest hrows⟩
    · exact (ih hrest).map fun rest' hrest' =>
        List.forall_mem_cons.2 ⟨hg.mono hrows, hrest'⟩

/-- **Groups take in the rows of a result**, whose failure the caller gets. -/
theorem foldResult_within (h : GroupsAddUp aggregates before groups)
    (hplaced : ∀ a ∈ aggregates, a.IsPlaced) (keys : List SortKey) (labels : List String)
    {failure : Option Error} (hfailure : ∀ e ∈ failure, e.isReturned = true)
    (rows : List Row) :
    EndsWithin (Error.ArisesIf (AnyOverflows aggregates (before ++ rows)))
      (GroupsAddUp aggregates (before ++ rows))
      (foldResult aggregates keys labels failure groups rows) := by
  induction rows generalizing before groups with
  | nil =>
    rw [List.append_nil, foldResult.eq_def]
    cases failure with
    | none => exact h
    | some e => exact .inl (hfailure e rfl)
  | cons row rest ih =>
    have hperm : row :: before ++ rest ~ before ++ row :: rest := List.perm_middle.symm
    have hrow : row :: before <+~ before ++ row :: rest :=
      (List.sublist_append_left _ rest).subperm.trans hperm.subperm
    have hcells := PartialResult.mapM_value_within ⟨labels, some row, [], none⟩ labels.length
    refine (hcells.arisesIf _).bind fun cells (heq : cells = visibleCells labels.length row) => ?_
    have hfolded := (foldRow_within h hplaced (groupKey keys cells) row labels.length).imp
      fun ho => ho.mono hrow
    rw [heq] at hfolded ⊢
    refine hfolded.bind fun groups' h' => ?_
    exact (ih h').mono (fun _ he => he.imp fun ho => ho.mono hperm.subperm)
      fun _ h => h.mono hperm.subperm

/-- Groups take in the rows of all results. -/
theorem foldRows_within {results : List PartialResult} (h : GroupsAddUp aggregates before groups)
    (hplaced : ∀ a ∈ aggregates, a.IsPlaced)
    (hreturned : ∀ r ∈ results, ∀ e ∈ r.failure, e.isReturned = true) :
    EndsWithin (Error.ArisesIf (AnyOverflows aggregates (before ++ results.flatMap (·.rows))))
      (GroupsAddUp aggregates (before ++ results.flatMap (·.rows)))
      (results.foldlM (fun groups r => foldResult aggregates keys r.labels r.failure groups r.rows)
        groups) := by
  induction results generalizing before groups with
  | nil =>
    rw [List.flatMap_nil, List.append_nil]
    exact h
  | cons r rest ih =>
    obtain ⟨hr, hrest⟩ := List.forall_mem_cons.1 hreturned
    have hrow : before ++ r.rows <+~ before ++ (r.rows ++ rest.flatMap (·.rows)) :=
      ((List.sublist_append_left _ _).append_left before).subperm
    rw [List.foldlM_cons, List.flatMap_cons]
    have hfolded := (foldResult_within h hplaced keys r.labels hr r.rows).imp fun ho => ho.mono hrow
    refine hfolded.bind fun groups' h' => ?_
    rw [← List.append_assoc]
    exact ih h' hrest

/-- **Groups in memory** fail only in ways that the caller gets, unless an aggregate overflows. -/
theorem groupAll_within (list : SelectList) (groupKeys orderKeys : List SortKey)
    {results : List PartialResult}
    (hreturned : ∀ r ∈ results, ∀ e ∈ r.failure, e.isReturned = true) :
    EndsWithin (Error.ArisesIf (AnyOverflows list.aggregates (results.flatMap (·.rows))))
      (fun _ => True) (groupAll list groupKeys orderKeys results) := by
  have hplaced : ∀ a ∈ list.aggregates, a.IsPlaced := fun a ha => SelectList.isPlaced_of_mem ha
  have hnone : GroupsAddUp list.aggregates [] [] := fun g hg => absurd hg List.not_mem_nil
  refine (foldRows_within hnone hplaced hreturned).bind fun groups hgroups => ?_
  split
  · trivial
  · refine EndsWithin.bind (P := fun _ => True) ?_ fun _ _ => trivial
    have hrows := EndsWithin.mapM fun g hg =>
      withResults_within (hgroups g hg) hplaced g.first
    exact hrows.mono (fun _ he => he) fun _ _ => trivial

end Groups

/-! ## Groups in a stream

A stream of groups stands on a row that no group has taken in yet.  Gathering a group takes rows
away from those to come and stops at one of the next group, so the rows that were fed, the row that
the stream stands on and those to come are always among the rows of the results. -/

/-- The stream stands on a row, which with those to come is among these rows. -/
def OrderedStream.StandsIn (s : OrderedStream) (rows : List Row) : Prop :=
  ∃ p, s.current = some p ∧ p.row :: s.toCome <+~ rows

namespace GroupedStream

variable {aggregates : List PlacedAggregate} {rows fed : List Row}

/-- The row that a stream stands on, as a cursor of groups shows it. -/
theorem streamRow_within {s : OrderedStream} {p : Positioned} (hp : s.current = some p)
    (width : Nat) :
    EndsWithin (fun e => e.isReturned = true) (· = visibleCells width p.row)
      (streamRow width s) := by
  have hvalue : s.value = p.result.value := funext fun i => by rw [OrderedStream.value, hp]
  rw [streamRow, hvalue]
  exact p.result.mapM_value_within width

/-- A row that was to come is taken in. -/
theorem subperm_of_perm_cons {row : Row} {toCome toCome' : List Row}
    (hperm : toCome ~ row :: toCome') (hrows : fed ++ toCome <+~ rows) :
    row :: fed ++ toCome' <+~ rows :=
  (List.perm_middle.symm.trans (hperm.symm.append_left fed)).subperm.trans hrows

/-- What stands in front is among the rows. -/
theorem subperm_of_append {more : List Row} (hrows : fed ++ more <+~ rows) : fed <+~ rows :=
  (List.sublist_append_left fed more).subperm.trans hrows

/-- What gathering a group leaves behind: accumulators that add up nothing but numbers of these
rows, and a stream that stands on a row of them if more groups are to come. -/
structure Leaves (aggregates : List PlacedAggregate) (rows : List Row) (gathered : Gathered)
    (accs : List Accumulator) : Prop where
  accs : AddUp aggregates rows accs
  sound : gathered.stream.IsSound
  stands : gathered.pending = true → gathered.stream.StandsIn rows

/-- **Gathering a group** takes in rows that were to come, each once, and stops at one of them. -/
theorem Gathers.endsWithin {width : Nat} {key : List Value} {fuel : Nat} {accs : List Accumulator}
    {stream : OrderedStream} {gathered : Gathered}
    (h : Gathers aggregates width key fuel accs stream gathered) (hsound : stream.IsSound)
    (hplaced : ∀ a ∈ aggregates, a.IsPlaced) (hfuel : stream.remaining < fuel)
    (haccs : AddUp aggregates fed accs) (hrows : fed ++ stream.toCome <+~ rows) :
    EndsWithin (Error.ArisesIf (AnyOverflows aggregates rows)) (Leaves aggregates rows gathered)
      gathered.result := by
  induction h generalizing fed with
  -- The fuel exceeds the rows to come, so that it cannot run out.
  | full => exact absurd hfuel (Nat.not_lt_zero _)
  | finish hnext =>
    have hend := hsound.next
    rw [hnext] at hend
    exact ⟨haccs.mono (subperm_of_append hrows), hend, fun hpending => by cases hpending⟩
  | other hnext =>
    obtain ⟨ht, -, p, hp, hperm⟩ := hsound.of_next hnext
    refine ⟨haccs.mono (subperm_of_append hrows), ht, fun _ => ⟨p, hp, ?_⟩⟩
    exact hperm.symm.subperm.trans ((List.sublist_append_right _ _).subperm.trans hrows)
  | @take fuel accs accs' stream t row gathered hnext hrow _ hfeed _ ih =>
    obtain ⟨ht, hlt, p, hp, hperm⟩ := hsound.of_next hnext
    obtain rfl := (streamRow_within hp width).of_eq_ok hrow
    refine ih ht (by omega) ?_ (subperm_of_perm_cons hperm hrows)
    exact (feedRow_within haccs hplaced p.row width).of_eq_ok hfeed
  | fail hnext =>
    have hfail := hsound.next
    rw [hnext] at hfail
    exact .inl hfail
  | unreadable hnext hrow =>
    obtain ⟨-, -, p, hp, -⟩ := hsound.of_next hnext
    exact .inl ((streamRow_within hp width).of_eq_error hrow)
  | @refused fuel accs stream t row e hnext hrow _ hfeed =>
    obtain ⟨-, -, p, hp, hperm⟩ := hsound.of_next hnext
    obtain rfl := (streamRow_within hp width).of_eq_ok hrow
    -- The row that is refused counts among those that overflow.
    have hfed := subperm_of_append (subperm_of_perm_cons hperm hrows)
    exact ((feedRow_within haccs hplaced p.row width).of_eq_error hfeed).imp fun ho =>
      ho.mono hfed

/-- A stream of groups that has only rows of these to come. -/
structure DrawsOn (aggregates : List PlacedAggregate) (rows : List Row) (g : GroupedStream) :
    Prop where
  aggregates_eq : g.aggregates = aggregates
  sound : g.stream.IsSound
  stands : g.pending = true → g.stream.StandsIn rows

variable {g : GroupedStream}

/-- A group begins with the row that the stream stands on. -/
theorem beginGroup_within {p : Positioned} (hplaced : ∀ a ∈ g.aggregates, a.IsPlaced)
    (hp : g.stream.current = some p) :
    EndsWithin (Error.ArisesIf (AnyOverflows g.aggregates [p.row]))
      (fun begun => AddUp g.aggregates [p.row] begun.2) g.beginGroup := by
  refine ((streamRow_within hp g.width).arisesIf _).bind fun row heq => ?_
  rw [heq]
  exact (feedRow_within (addUp_freshAccumulators g.aggregates []) hplaced p.row g.width).bind
    fun accs haccs => haccs

/-- **A step from group to group** shows a group of rows that were to come. -/
theorem DrawsOn.next (h : g.DrawsOn aggregates rows) (hplaced : ∀ a ∈ aggregates, a.IsPlaced) :
    EndsWithin (Error.ArisesIf (AnyOverflows aggregates rows))
      (fun more => more = true → g.next.2.DrawsOn aggregates rows) g.next.1 := by
  obtain ⟨rfl, hsound, hstands⟩ := h
  have hgroup : ∀ {row accs gathered}, g.pending = true → g.beginGroup = .ok (row, accs) →
      g.GathersAfter row accs gathered →
      EndsWithin (Error.ArisesIf (AnyOverflows g.aggregates rows))
        (fun _ => gathered.stream.IsSound ∧
          (gathered.pending = true → gathered.stream.StandsIn rows))
        (gathered.result.bind (withResults row g.aggregates)) := by
    intro row accs gathered hpending hbegin hgathers
    obtain ⟨p, hp, hrows⟩ := hstands hpending
    have haccs := (beginGroup_within hplaced hp).of_eq_ok hbegin
    refine (hgathers.endsWithin hsound hplaced (Nat.lt_succ_self _) haccs hrows).bind
      fun accs' hleft => ?_
    exact (withResults_within hleft.accs hplaced row).mono (fun _ he => he) fun _ _ =>
      ⟨hleft.sound, hleft.stands⟩
  rcases hnext : g.next with ⟨outcome, g'⟩
  cases moves_of_next hnext with
  | finish => exact fun hmore => by cases hmore
  | unbegun hpending hbegin =>
    obtain ⟨p, hp, hrows⟩ := hstands hpending
    have hfirst : [p.row] <+~ rows := subperm_of_append hrows
    exact ((beginGroup_within hplaced hp).of_eq_error hbegin).imp fun ho => ho.mono hfirst
  | unshown hpending hbegin hgathers hresult =>
    exact (hgroup hpending hbegin hgathers).of_eq_error hresult
  | shown hpending hbegin hgathers hresult =>
    obtain ⟨hsound', hstands'⟩ := (hgroup hpending hbegin hgathers).of_eq_ok hresult
    exact fun _ => ⟨rfl, hsound', hstands'⟩

/-- **A merge of results in group order** starts before all of their rows. -/
theorem ofResults_within (list : SelectList) (keys : List SortKey) {results : List PartialResult}
    (hresults : ∀ r ∈ results, ∀ e ∈ r.failure, e.isReturned = true) :
    EndsWithin (fun e => e.isReturned = true)
      (DrawsOn list.aggregates (results.flatMap (·.rows))) (ofResults list keys results) := by
  refine (OrderedStream.ofResults_within keys hresults).bind fun s ⟨hsound, hrows⟩ => ?_
  rcases hnext : s.next with ⟨e | pending, t⟩
  · have hfail := hsound.next
    rw [hnext] at hfail
    exact hfail
  · refine ⟨rfl, ?_, fun hpending => ?_⟩
    · have hstep := hsound.next
      rw [hnext] at hstep
      exact hstep
    · obtain rfl : pending = true := hpending
      obtain ⟨-, -, p, hp, hperm⟩ := hsound.of_next hnext
      exact ⟨p, hp, (hperm.symm.trans hrows).subperm⟩

end GroupedStream

/-! ## Merges

A chain and a merge in order add nothing up; the merges of groups draw on the rows of their results.
HAVING and a window only add failures that the caller gets. -/

namespace BaseCursor

variable {aggregates : List PlacedAggregate} {rows : List Row}

/-- A merge that has only rows of these to come, and whose results' failures the caller gets. -/
def DrawsOn (aggregates : List PlacedAggregate) (rows : List Row) : BaseCursor → Prop
  | chained results => ∀ r ∈ results, ∀ e ∈ r.failure, e.isReturned = true
  | ordered s => s.IsSound
  | grouped g => g.DrawsOn aggregates rows
  | buffered _ _ => True

variable {c : BaseCursor}

/-- **A step of a merge** fails only in ways that the caller gets, unless an aggregate overflows. -/
theorem DrawsOn.next (h : c.DrawsOn aggregates rows) (hplaced : ∀ a ∈ aggregates, a.IsPlaced) :
    EndsWithin (Error.ArisesIf (AnyOverflows aggregates rows))
      (fun more => more = true → c.next.2.DrawsOn aggregates rows) c.next.1 := by
  cases c with
  | chained results =>
    exact ((nextChained_within h).arisesIf _).mono (fun _ he => he) fun _ hkept _ => hkept
  | ordered s =>
    have hstep := OrderedStream.IsSound.next h
    exact (hstep.arisesIf _).mono (fun _ he => he) fun _ hkept _ => hkept
  | grouped g => exact GroupedStream.DrawsOn.next h hplaced
  | buffered rows current => cases rows <;> exact fun _ => trivial

end BaseCursor

section Merge

variable {s : Select} {results : List PartialResult} {c : FilteredCursor}

/-- The aggregates of a select list have their places. -/
theorem SelectList.forall_isPlaced (list : SelectList) : ∀ a ∈ list.aggregates, a.IsPlaced :=
  fun _ ha => isPlaced_of_mem ha

/-- A merge of groups draws on the rows of its results, streamed or in memory. -/
theorem groupCursor_within (s : Select) (groupBy : List OrderItem) (labels : List String)
    (caseSensitive : List Bool) (hresults : ∀ r ∈ results, ∀ e ∈ r.failure, e.isReturned = true) :
    EndsWithin (Error.ArisesIf (AnyOverflows s.list.aggregates (results.flatMap (·.rows))))
      (BaseCursor.DrawsOn s.list.aggregates (results.flatMap (·.rows)))
      (groupCursor s groupBy labels caseSensitive results) := by
  refine ((failsReturned_sortKeys _ _ _).arisesIf _).bind fun keys _ => ?_
  split
  · exact ((GroupedStream.ofResults_within s.list keys hresults).arisesIf _).bind fun g hg => hg
  · refine ((failsReturned_sortKeys _ _ _).arisesIf _).bind fun orderKeys _ => ?_
    exact (groupAll_within s.list keys orderKeys hresults).bind fun rows _ => trivial

/-- **Every merge draws on the rows of its results.** -/
theorem baseCursor_within (s : Select) (labels : List String) (caseSensitive : List Bool)
    (hresults : ∀ r ∈ results, ∀ e ∈ r.failure, e.isReturned = true) :
    EndsWithin (Error.ArisesIf (AnyOverflows s.list.aggregates (results.flatMap (·.rows))))
      (BaseCursor.DrawsOn s.list.aggregates (results.flatMap (·.rows)))
      (baseCursor s labels caseSensitive results) := by
  rw [baseCursor]
  split
  · exact groupCursor_within s s.groupBy labels caseSensitive hresults
  · split
    · exact groupCursor_within s (everyColumn s.list) labels caseSensitive hresults
    · split
      · refine ((failsReturned_sortKeys _ _ _).arisesIf _).bind fun keys _ => ?_
        exact ((OrderedStream.ofResults_within keys hresults).arisesIf _).bind fun s hs => hs.1
      · exact hresults

namespace FilteredCursor

variable {aggregates : List PlacedAggregate} {rows : List Row}

/-- HAVING passes over rows and fails where it cannot decide one. -/
theorem nextKept_within (h : Having) (hplaced : ∀ a ∈ aggregates, a.IsPlaced) (fuel : Nat)
    {base : BaseCursor} (hbase : base.DrawsOn aggregates rows) :
    EndsWithin (Error.ArisesIf (AnyOverflows aggregates rows))
      (fun more => more = true → (nextKept h fuel base).2.DrawsOn aggregates rows)
      (nextKept h fuel base).1 := by
  induction fuel generalizing base with
  | zero => exact fun hmore => by cases hmore
  | succ fuel ih =>
    have hstep := hbase.next hplaced
    rcases hnext : base.next with ⟨e | _ | _, b⟩
    · rw [hnext] at hstep
      rw [nextKept_of_stop hnext (by simp)]
      exact hstep
    · rw [nextKept_of_stop hnext (by simp)]
      exact fun hmore => by cases hmore
    · rw [hnext] at hstep
      have hdecided := Having.failsReturned_decide (h := h) b.failsReturned_value h.condition
      rcases hkeeps : h.keeps b.value with e | _ | _
      · rw [nextKept_of_row hnext hkeeps (by simp)]
        exact .inl (hdecided.of_eq_error hkeeps)
      · rw [nextKept_of_refused hnext hkeeps]
        exact ih (hstep rfl)
      · rw [nextKept_of_row hnext hkeeps (by simp)]
        exact hstep

/-- **A step below a window** fails only in ways that the caller gets, unless an aggregate
overflows. -/
theorem next_within (hplaced : ∀ a ∈ aggregates, a.IsPlaced)
    (h : c.base.DrawsOn aggregates rows) :
    EndsWithin (Error.ArisesIf (AnyOverflows aggregates rows))
      (fun more => more = true → c.next.2.base.DrawsOn aggregates rows) c.next.1 := by
  obtain ⟨base, having⟩ := c
  cases having with
  | none => exact h.next hplaced
  | some condition => exact nextKept_within condition hplaced (base.remaining + 1) h

/-- Skipping rows fails only in ways that the caller gets, unless an aggregate overflows. -/
theorem skip_within (hplaced : ∀ a ∈ aggregates, a.IsPlaced)
    (h : c.base.DrawsOn aggregates rows) (count : Nat) :
    EndsWithin (Error.ArisesIf (AnyOverflows aggregates rows)) (fun _ => True)
      (c.skip count) := by
  induction count generalizing c with
  | zero => trivial
  | succ count ih =>
    have hstep := next_within hplaced h
    rw [skip]
    rcases hnext : c.next with ⟨e | _ | _, c'⟩
    · rw [hnext] at hstep
      exact hstep
    · trivial
    · rw [hnext] at hstep
      exact ih (hstep rfl)

/-- **Reading without a window** fails only in ways that the caller gets, unless an aggregate
overflows. -/
theorem arisesIf_of_mem_readRows (hplaced : ∀ a ∈ aggregates, a.IsPlaced)
    (h : c.base.DrawsOn aggregates rows) (width fuel : Nat) {e : Error}
    (he : e ∈ (MergedCursor.readRows width fuel ⟨c, none⟩).2) :
    e.ArisesIf (AnyOverflows aggregates rows) := by
  induction fuel generalizing c with
  | zero => cases he
  | succ fuel ih =>
    have hstep := next_within hplaced h
    rw [MergedCursor.readRows, MergedCursor.next, MergedCursor.nextRow] at he
    rcases hnext : c.next with ⟨e' | _ | _, c'⟩
    · rw [hnext] at hstep he
      obtain rfl := Option.some.inj he
      exact hstep
    · rw [hnext] at he
      cases he
    · rw [hnext] at hstep he
      dsimp only at he
      have hcells := EndsWithin.mapM fun i (_ : i ∈ List.range width) =>
        c'.base.failsReturned_value i
      cases hrow : MergedCursor.cells ⟨c', none⟩ width with
      | error e' =>
        rw [hrow] at he
        obtain rfl := Option.some.inj he
        exact .inl (hcells.of_eq_error hrow)
      | ok row =>
        rw [hrow] at he
        exact ih (hstep rfl) he

end FilteredCursor

/-- **Opening a window** reads the rows that it skips, and fails as reading them does. -/
theorem windowed_within {aggregates : List PlacedAggregate} {rows : List Row} (dialect : Dialect)
    (s : Select) (parameters : List Value) (hplaced : ∀ a ∈ aggregates, a.IsPlaced)
    (h : c.base.DrawsOn aggregates rows) :
    EndsWithin (Error.ArisesIf (AnyOverflows aggregates rows)) (fun _ => True)
      (windowed dialect s parameters c) := by
  have hopen : ∀ offset last fromFirst, EndsWithin (Error.ArisesIf (AnyOverflows aggregates rows))
      (fun _ => True) (openWindow c offset last fromFirst) := fun offset last fromFirst =>
    (FilteredCursor.skip_within hplaced h offset).bind fun _ _ => trivial
  rw [windowed]
  split
  · trivial
  · next window _ =>
    refine ((window.failsReturned_offsetRows parameters).arisesIf _).bind fun offset _ => ?_
    refine ((window.failsReturned_rowLimit parameters).arisesIf _).bind fun last _ => ?_
    split
    · exact hopen _ _ _
    · exact hopen _ _ _
    · exact hopen _ _ _
    · trivial

variable {dialect : Dialect} {schema : Schema} {statement : Statement} {parameters : List Value}

/-- Several results of a SELECT with an AVG that overflows. -/
def Statement.AverageOverflows (statement : Statement) (results : List PartialResult) : Prop :=
  1 < results.length ∧
    ∃ s, statement = .select s ∧ AnyOverflows s.list.aggregates (results.flatMap (·.rows))

/-- A merge that got no window is read as its rows are. -/
theorem arisesIf_of_rows {m : MergedResult} {aggregates : List PlacedAggregate} {rows : List Row}
    {e : Error} (hplaced : ∀ a ∈ aggregates, a.IsPlaced) (hc : m.cursor = ⟨c, none⟩)
    (h : c.base.DrawsOn aggregates rows) (he : m.rows = .error e) :
    e.ArisesIf (AnyOverflows aggregates rows) := by
  refine FilteredCursor.arisesIf_of_mem_readRows hplaced h m.labels.length (c.base.remaining + 1) ?_
  rw [MergedResult.rows, MergedResult.readAll, MergedCursor.readAll, hc] at he
  split at he
  · cases he
  · next e' hread =>
    obtain rfl := Except.error.inj he
    rw [hread]
    rfl

/-- **A merge that fails** hands its failure to the caller, unless an AVG overflows. -/
theorem arisesIf_of_merge {e : Error}
    (hreturned : ∀ r ∈ results, ∀ e ∈ r.failure, e.isReturned = true)
    (hwindow : ∀ m, merge dialect schema statement parameters results = .ok m →
      m.cursor.window = none)
    (he : (merge dialect schema statement parameters results).bind MergedResult.rows = .error e) :
    e.ArisesIf (statement.AverageOverflows results) := by
  obtain heq | ⟨s, labels, hs, hcount, -, heq⟩ :=
    merge_eq_passing_or dialect schema statement parameters results
  · rw [heq] at he
    have hnone : ∀ a ∈ ([] : List PlacedAggregate), a.IsPlaced := fun a ha =>
      absurd ha List.not_mem_nil
    have hdraws : (BaseCursor.chained results).DrawsOn [] [] := hreturned
    exact (arisesIf_of_rows (c := ⟨.chained results, none⟩) hnone rfl hdraws he).imp
      fun ⟨a, ha, _⟩ => absurd ha List.not_mem_nil
  · have hbase := baseCursor_within s labels (caseSensitivity labels statement.tables schema)
      hreturned
    -- Both the making of the cursor and its reading may fail, each for the same reason.
    suffices harises : e.ArisesIf (AnyOverflows s.list.aggregates (results.flatMap (·.rows))) from
      harises.imp fun ho => ⟨hcount, s, hs, ho⟩
    cases hm : merge dialect schema statement parameters results with
    | error e' =>
      rw [hm] at he
      obtain rfl := Except.error.inj he
      have hcursor := heq.symm.trans hm
      have hwithin := hbase.bind fun base hdraws =>
        windowed_within (c := ⟨base, s.having.map fun condition => ⟨condition, labels, parameters⟩⟩)
          dialect s parameters s.list.forall_isPlaced hdraws
      exact hwithin.of_eq_error (map_eq_error.1 hcursor)
    | ok m =>
      rw [hm] at he
      have hnone := hwindow m hm
      rw [heq] at hm
      obtain ⟨cursor, hcursor, rfl⟩ := map_eq_ok.1 hm
      obtain ⟨base, hbase', hwindowed⟩ := bind_eq_ok.1 hcursor
      exact arisesIf_of_rows s.list.forall_isPlaced (eq_of_windowed hwindowed hnone)
        (hbase.of_eq_ok hbase') he

/-- **No silent partial results.**  Where one of the results breaks before it ends, merging them
without a window and reading all rows fails, however they are merged and whatever HAVING keeps.  The
caller gets the failure, unless the numbers that an AVG adds up overflow. -/
theorem exists_returned_error_of_failure (hfailure : ∃ r ∈ results, r.failure.isSome)
    (hreturned : ∀ r ∈ results, ∀ e ∈ r.failure, e.isReturned = true)
    (hwindow : ∀ m, merge dialect schema statement parameters results = .ok m →
      m.cursor.window = none) :
    ∃ e, (merge dialect schema statement parameters results).bind MergedResult.rows = .error e ∧
      (e.isReturned = true ∨ e = .additionOverflow ∧ statement.AverageOverflows results) := by
  obtain ⟨e, he⟩ := exists_rows_eq_error_of_failure hfailure hwindow
  exact ⟨e, he, arisesIf_of_merge hreturned hwindow he⟩

end Merge

/-- The connection to the first node breaks after two keys, and there is no AVG to overflow. -/
theorem exists_returned_error_itemsByKey :
    ∃ e, (merge .mySQL .empty (.select itemsByKey) []
        [(keysOf [1, 4]).failingAfter 2 cursorLost, keysOf [2, 3]]).bind MergedResult.rows =
          .error e ∧
      (e.isReturned = true ∨ e = .additionOverflow ∧
        (Statement.select itemsByKey).AverageOverflows
          [(keysOf [1, 4]).failingAfter 2 cursorLost, keysOf [2, 3]]) := by
  have hfailure : ∃ r ∈ [(keysOf [1, 4]).failingAfter 2 cursorLost, keysOf [2, 3]],
      r.failure.isSome := ⟨_, List.mem_cons_self, rfl⟩
  have hreturned : ∀ r ∈ [(keysOf [1, 4]).failingAfter 2 cursorLost, keysOf [2, 3]],
      ∀ e ∈ r.failure, e.isReturned = true := by
    rintro r hr e he
    obtain rfl | hr := List.mem_cons.1 hr
    · obtain rfl : cursorLost = e := Option.some.inj he
      rfl
    · obtain rfl := List.mem_singleton.1 hr
      cases he
  have hwindow : itemsByKey.window? = none := rfl
  exact exists_returned_error_of_failure hfailure hreturned fun m =>
    window_eq_none_of_merge hwindow

/-- The mean price of the items of a table. -/
def meanPrice : Select where
  tables := ["t_item"]
  list := ⟨[.aggregate .avg false (some "price") none], false⟩
  condition := none
  groupBy := []
  orderBy := []
  having := none
  pagination := none
  lock := false
  subquery := false

/-- Counts and sums that a node returns for a mean. -/
def meansOf (rows : List (Value × Value)) : PartialResult :=
  .ofRows ["AVG(price)", "AVG_DERIVED_COUNT_0", "AVG_DERIVED_SUM_0"]
    (rows.map fun (count, sum) => [.null, count, sum])

/-- The greatest decimal, one less than 2⁹⁶. -/
def greatest : Decimal :=
  { Decimal.zero with
    coefficient := 79228162514264337593543950335
    coefficient_lt := by decide }

/-! The connection to the second node breaks, but before that the sums of the first one overflow:
the call is aborted, and the caller does not get the failure. -/

example : (merge .mySQL .empty (.select meanPrice) []
    [meansOf [(.integer 1, .numeric greatest), (.integer 1, .numeric greatest)],
      (meansOf []).failingAfter 0 cursorLost]).bind MergedResult.rows =
        .error .additionOverflow := by
  rfl

end ScatterGather
