import Mathlib.Data.List.Nodup
import ScatterGather.Proofs.Merge.Accumulator
import ScatterGather.Proofs.Merge.SortKey
import ScatterGather.Proofs.Ties

/-!
# Proofs/Merge/Extreme — aggregates of cells of any type

MIN and MAX take cells that compare with each other, whatever their types, and hold one that no
other beats (`IsBest`); COUNT DISTINCT takes any cells but doubles, and holds one of each key of a
hash table (`IsKeySet`).  With the aggregates of integers these are all that take rows in any order
(`PlacedAggregate.TakesAll`): they never fail (`TakesAll.feeds`), show results that tie whatever the
order of the rows (`TakesAll.exists_results_tie`), and results of parts of the rows compare
(`TakesAll.areComparable`).
-/

namespace ScatterGather

open scoped List

/-! ## Cells of a column

Cells that compare need not be numbers, nor of one type: a day compares with an instant. -/

/-- The cells of a column that are not NULL. -/
def filledCells (index : Nat) (rows : List Row) : List Value :=
  (rows.map (cellAt · index)).filter fun v => !v.isNull

section Filled

variable {i : Nat} {rows rows' : List Row} {row : Row} {v : Value}

theorem mem_filledCells :
    v ∈ filledCells i rows ↔ (∃ row ∈ rows, cellAt row i = v) ∧ v.isNull = false := by
  rw [filledCells, List.mem_filter, List.mem_map, Bool.not_eq_true']

theorem filledCells_subset (h : rows ⊆ rows') : filledCells i rows ⊆ filledCells i rows' := by
  intro v hv
  obtain ⟨⟨row, hrow, hcell⟩, hnull⟩ := mem_filledCells.1 hv
  exact mem_filledCells.2 ⟨⟨row, h hrow, hcell⟩, hnull⟩

theorem filledCells_perm (h : rows ~ rows') : filledCells i rows ~ filledCells i rows' :=
  (h.map _).filter _

theorem filledCells_concat (i : Nat) (rows : List Row) (row : Row) :
    filledCells i (rows ++ [row]) = filledCells i rows ++ filledCells i [row] := by
  rw [filledCells, List.map_append, List.filter_append]
  rfl

theorem filledCells_singleton_of_isNull (h : (cellAt row i).isNull = true) :
    filledCells i [row] = [] := by
  simp [filledCells, h]

theorem filledCells_singleton (h : (cellAt row i).isNull = false) :
    filledCells i [row] = [cellAt row i] := by
  simp [filledCells, h]

end Filled

namespace Value

/-- **Cells that all compare**, each with itself too, doubles aside. -/
structure AllCompare (cells : List Value) : Prop where
  real : ∀ a ∈ cells, a.isReal = false
  order : ∀ a ∈ cells, ∀ b ∈ cells, (a.order? b).isSome

/-- The order of two cells in which the better one comes first. -/
def prefer (least : Bool) (a b : Value) : Ordering :=
  if least then (a.order? b).getD .eq else ((a.order? b).getD .eq).swap

variable {cells cells' : List Value} {a b : Value}

theorem AllCompare.subset (h : AllCompare cells) (hsub : cells' ⊆ cells) : AllCompare cells' :=
  ⟨fun a ha => h.real a (hsub ha), fun a ha b hb => h.order a (hsub ha) b (hsub hb)⟩

/-- Cells that all compare can be sorted, among NULLs. -/
theorem AllCompare.areComparable (h : AllCompare cells)
    (hcells : ∀ v ∈ cells', v.isNull = true ∨ v ∈ cells) : AreComparable cells' := by
  have hmem : ∀ v ∈ cells', v.isNull = false → v ∈ cells := fun v hv hfilled =>
    (hcells v hv).resolve_left (by simp [hfilled])
  refine ⟨fun v hv => ?_, fun a ha b hb hfilled hfilled' _ =>
    h.order a (hmem a ha hfilled) b (hmem b hb hfilled')⟩
  obtain hnull | hv := hcells v hv
  · rw [eq_null_of_isNull hnull]
    rfl
  · exact h.real v hv

/-- **Cells that all compare are in order**, the better ones first. -/
theorem AllCompare.preorderOn (h : AllCompare cells) (least : Bool) :
    PreorderOn (prefer least) (· ∈ cells) := by
  have horder : PreorderOn (fun a b : Value => (a.order? b).getD .eq) (· ∈ cells) := by
    refine ⟨fun {a b} ha hb => ?_, fun {a b c} ha hb hc hab hbc => ?_⟩
    · rw [order?_swap (h.real a ha) (h.real b hb)]
      cases a.order? b <;> rfl
    · obtain ⟨o, ho⟩ := Option.isSome_iff_exists.1 (h.order a ha b hb)
      obtain ⟨p, hp⟩ := Option.isSome_iff_exists.1 (h.order b hb c hc)
      rw [ho] at hab
      rw [hp] at hbc
      obtain ⟨q, hq, hle⟩ :=
        isLE_order?_trans (h.real a ha) (h.real b hb) (h.real c hc) ho hp hab hbc
      rw [hq]
      exact hle
  cases least with
  | true => exact horder
  | false => exact horder.reverse

/-- Cells of which neither is better tie. -/
theorem AllCompare.order?_eq_of_prefer {least : Bool} (h : AllCompare cells) (ha : a ∈ cells)
    (hb : b ∈ cells) (heq : prefer least a b = .eq) : a.order? b = some .eq := by
  obtain ⟨o, ho⟩ := Option.isSome_iff_exists.1 (h.order a ha b hb)
  rw [prefer, ho] at heq
  rw [ho]
  cases least with
  | true => exact congrArg some heq
  | false => exact congrArg some (Ordering.swap_eq_eq.1 heq)

/-- Cells that compare with themselves can be aggregated. -/
theorem isComparable_of_order?_self (hnull : a.isNull = false) (h : (a.order? a).isSome) :
    a.isComparable = true := by
  cases a with
  | null => cases hnull
  | json s => cases h
  | _ => rfl

end Value

/-! ## The best cell

The first of several best cells is held, so the order of the rows decides which one it is, but not
how it compares. -/

/-- Nothing for no cells, and otherwise one that none of them beats. -/
def IsBest (least : Bool) (cells : List Value) (best : Option Value) : Prop :=
  (cells = [] ∧ best = none) ∨
    ∃ v ∈ cells, best = some v ∧ ∀ w ∈ cells, (Value.prefer least v w).isLE

section Best

variable {least : Bool} {cells cells' : List Value} {best best' : Option Value} {v : Value}
  {i : Nat} {rows : List Row} {row : Row}

/-- What beats the best cell so far replaces it. -/
theorem better_eq {current : Value} {o : Ordering} (hv : v.isComparable = true)
    (ho : v.order? current = some o) : Accumulator.better least (some current) v =
      .ok (if Value.prefer least v current = .lt then v else current) := by
  rw [Accumulator.better, hv]
  simp only [Bool.not_true, Bool.false_eq_true, if_false, ho, Value.prefer, Option.getD_some]
  cases least <;> cases o <;> rfl

/-- **The best of cells takes in one more.** -/
theorem IsBest.exists_better_eq (h : IsBest least cells best) (hv : v.isNull = false)
    (hcompare : Value.AllCompare (cells ++ [v])) :
    ∃ w, Accumulator.better least best v = .ok w ∧ IsBest least (cells ++ [v]) (some w) := by
  have hlast : v ∈ cells ++ [v] := List.mem_append_right _ (List.mem_singleton_self v)
  have hcomparable := Value.isComparable_of_order?_self hv (hcompare.order v hlast v hlast)
  have hpreorder := hcompare.preorderOn least
  have hself : (Value.prefer least v v).isLE := by
    rw [hpreorder.eq_self hlast]
    rfl
  obtain ⟨rfl, rfl⟩ | ⟨current, hcurrent, rfl, hbest⟩ := h
  · refine ⟨v, by rw [Accumulator.better, hcomparable]; rfl, .inr ⟨v, hlast, rfl, ?_⟩⟩
    exact List.forall_mem_singleton.2 hself
  · have hmem : current ∈ cells ++ [v] := List.mem_append_left _ hcurrent
    obtain ⟨o, ho⟩ := Option.isSome_iff_exists.1 (hcompare.order v hlast current hmem)
    refine ⟨_, better_eq hcomparable ho, .inr ?_⟩
    by_cases hbeats : Value.prefer least v current = .lt
    · -- what beats the best so far is beaten by no cell that does not beat that
      rw [if_pos hbeats]
      refine ⟨v, hlast, rfl, List.forall_mem_append.2 ⟨fun w hw => ?_,
        List.forall_mem_singleton.2 hself⟩⟩
      rw [hpreorder.lt_of_lt_of_isLE hlast hmem (List.mem_append_left _ hw) hbeats (hbest w hw)]
      rfl
    · rw [if_neg hbeats]
      refine ⟨current, hmem, rfl, List.forall_mem_append.2 ⟨hbest,
        List.forall_mem_singleton.2 ?_⟩⟩
      rw [hpreorder.swap hlast hmem]
      cases hprefer : Value.prefer least v current with
      | lt => exact absurd hprefer hbeats
      | _ => rfl

/-- **The best of one more row.** -/
theorem IsBest.exists_feed_eq (h : IsBest least (filledCells i rows) best)
    (hcompare : Value.AllCompare (filledCells i (rows ++ [row]))) :
    ∃ best', Accumulator.feed [cellAt row i] (.extreme least best) =
        (.ok (), .extreme least best') ∧
      IsBest least (filledCells i (rows ++ [row])) best' := by
  rw [filledCells_concat] at hcompare ⊢
  rw [Accumulator.feed]
  cases hnull : (cellAt row i).isNull with
  | true =>
    rw [filledCells_singleton_of_isNull hnull, List.append_nil, firstInput?_of_isNull hnull]
    exact ⟨best, rfl, h⟩
  | false =>
    rw [filledCells_singleton hnull] at hcompare ⊢
    obtain ⟨w, hw, hbest⟩ := h.exists_better_eq hnull hcompare
    refine ⟨some w, ?_, hbest⟩
    rw [firstInput?_of_whole? hnull]
    simp only [hw]

/-- The best cell is NULL for no cells, and otherwise one of them. -/
theorem IsBest.getD_mem (h : IsBest least cells best) :
    (cells = [] ∧ best.getD .null = .null) ∨ best.getD .null ∈ cells := by
  obtain ⟨hnil, rfl⟩ | ⟨v, hv, rfl, -⟩ := h
  · exact .inl ⟨hnil, rfl⟩
  · exact .inr hv

/-- Best ones of the same cells look alike if all the cells do. -/
theorem IsBest.congr {β : Type} {f : Value → β} {x : β} (h : IsBest least cells best)
    (h' : IsBest least cells' best') (hperm : cells' ~ cells) (hone : ∀ v ∈ cells, f v = x) :
    f (best'.getD .null) = f (best.getD .null) := by
  obtain ⟨rfl, hnull⟩ | hmem := h.getD_mem <;> obtain ⟨rfl, hnull'⟩ | hmem' := h'.getD_mem
  · rw [hnull, hnull']
  · exact absurd (hperm.mem_iff.1 hmem') List.not_mem_nil
  · exact absurd (hperm.mem_iff.2 hmem) List.not_mem_nil
  · rw [hone _ hmem, hone _ (hperm.mem_iff.1 hmem')]

/-- **Best ones of the same cells tie.** -/
theorem IsBest.order?_eq (h : IsBest least cells best) (h' : IsBest least cells' best')
    (hperm : cells' ~ cells) (hcompare : Value.AllCompare cells) :
    (best'.getD .null).order? (best.getD .null) = some .eq := by
  obtain ⟨rfl, rfl⟩ | ⟨v, hv, rfl, hbest⟩ := h <;>
    obtain ⟨rfl, rfl⟩ | ⟨v', hv', rfl, hbest'⟩ := h'
  · rfl
  · exact absurd (hperm.mem_iff.1 hv') List.not_mem_nil
  · exact absurd (hperm.mem_iff.2 hv) List.not_mem_nil
  · have hmem := hperm.mem_iff.1 hv'
    have hties := (hcompare.preorderOn least).eq_of_isLE hmem hv (hbest' v (hperm.mem_iff.2 hv))
      (hbest v' hmem)
    exact hcompare.order?_eq_of_prefer hmem hv hties

end Best

/-! ## Different cells

A set of cells is known up to the choice of one cell for each key. -/

/-- Cells with each key of the given ones, once. -/
structure IsKeySet (cells seen : List Value) : Prop where
  nodup : (seen.map Value.key).Nodup
  mem_iff : ∀ x, x ∈ seen.map Value.key ↔ x ∈ cells.map Value.key
  real : ∀ v ∈ seen, v.isReal = false

section Different

variable {cells cells' seen seen' : List Value} {v : Value} {i : Nat} {rows : List Row} {row : Row}

/-- **The different cells take in one more.** -/
theorem IsKeySet.addNew (h : IsKeySet cells seen) (hv : v.isReal = false) :
    IsKeySet (cells ++ [v]) (Accumulator.addNew v seen) := by
  have hkeys : ∀ x, x ∈ (cells ++ [v]).map Value.key ↔ x ∈ seen.map Value.key ∨ x = v.key := by
    intro x
    rw [List.map_append, List.mem_append, h.mem_iff, List.map_singleton, List.mem_singleton]
  rw [addNew_eq_of_isNaN (Value.isNaN_of_not_isReal hv)]
  split
  · rename_i hmem
    refine ⟨h.nodup, fun x => ?_, h.real⟩
    rw [hkeys, or_iff_left_of_imp]
    rintro rfl
    exact hmem
  · rename_i hmem
    refine ⟨?_, fun x => ?_, List.forall_mem_append.2 ⟨h.real, List.forall_mem_singleton.2 hv⟩⟩
    · rw [List.map_append, List.map_singleton, ← List.concat_eq_append, List.nodup_concat]
      exact ⟨hmem, h.nodup⟩
    · rw [hkeys, List.map_append, List.mem_append, List.map_singleton, List.mem_singleton]

/-- **The different cells of one more row**, to be counted. -/
theorem IsKeySet.exists_feed_eq (h : IsKeySet (filledCells i rows) seen)
    (hrow : (cellAt row i).isReal = false) :
    ∃ seen', Accumulator.feed [cellAt row i] (.distinctCount seen) =
      (.ok (), .distinctCount seen') ∧ IsKeySet (filledCells i (rows ++ [row])) seen' := by
  rw [filledCells_concat, Accumulator.feed]
  cases hnull : (cellAt row i).isNull with
  | true =>
    rw [filledCells_singleton_of_isNull hnull, List.append_nil, firstInput?_of_isNull hnull]
    exact ⟨seen, rfl, h⟩
  | false =>
    rw [filledCells_singleton hnull, firstInput?_of_whole? hnull]
    exact ⟨_, rfl, h.addNew hrow⟩

/-- **There are as many different ones** of the same cells. -/
theorem IsKeySet.length_eq (h : IsKeySet cells seen) (h' : IsKeySet cells' seen')
    (hperm : cells' ~ cells) : seen'.length = seen.length := by
  have hkeys : seen'.map Value.key ~ seen.map Value.key :=
    (List.perm_ext_iff_of_nodup h'.nodup h.nodup).2 fun x => by
      rw [h.mem_iff, h'.mem_iff, (hperm.map _).mem_iff]
  have hlength := hkeys.length_eq
  rwa [List.length_map, List.length_map] at hlength

end Different

/-! ## Results that are numbers

Results are compared with each other when groups are sorted.  Those of numeric aggregates are exact
numbers or NULL, which always compare. -/

namespace Value

/-- The cell is NULL or a number other than a double. -/
def IsExactOrNull (v : Value) : Prop :=
  v.isNull = true ∨ v.isNumeric = true ∧ v.isReal = false

/-- A whole number is exact. -/
theorem isExactOrNull_of_whole? {v : Value} {x : Int} (h : v.whole? = some x) :
    v.IsExactOrNull := by
  obtain ⟨_, rfl⟩ | ⟨_, rfl⟩ | ⟨_, rfl⟩ := cases_of_whole? h <;> exact .inr ⟨rfl, rfl⟩

/-- Numbers are points of one scale, doubles aside. -/
theorem exists_rank?_eq {v : Value} (h : v.isNumeric = true) (hreal : v.isReal = false) :
    ∃ n, v.rank? = some (.point .number n) := by
  cases v with
  | smallInt n => exact ⟨_, rfl⟩
  | integer n => exact ⟨_, rfl⟩
  | numeric d => exact ⟨_, rfl⟩
  | real x => cases hreal
  | _ => cases h

/-- **Numbers compare**, doubles aside. -/
theorem areComparable_of_isExactOrNull {cells : List Value} (h : ∀ v ∈ cells, v.IsExactOrNull) :
    AreComparable cells := by
  have hreal : ∀ v ∈ cells, v.isReal = false := fun v hv => by
    obtain hnull | ⟨-, hreal⟩ := h v hv
    · rw [eq_null_of_isNull hnull]
      rfl
    · exact hreal
  have hnumeric : ∀ v ∈ cells, v.isNull = false → v.isNumeric = true := fun v hv hfilled =>
    ((h v hv).resolve_left (by simp [hfilled])).1
  refine ⟨hreal, fun a ha b hb hfilled hfilled' _ => ?_⟩
  obtain ⟨m, hm⟩ := exists_rank?_eq (hnumeric a ha hfilled) (hreal a ha)
  obtain ⟨n, hn⟩ := exists_rank?_eq (hnumeric b hb hfilled') (hreal b hb)
  rw [order?_eq (hreal a ha) (hreal b hb), hm, hn]
  rfl

end Value

/-- An integer is its own key in a hash table, and so is NULL. -/
theorem key_folded_of_isIntegerOrNull {v : Value} (k : SortKey) (h : v.IsIntegerOrNull) :
    (k.folded v).key = v := by
  have hkey : ∀ w : Value, w.foldCase = w → w.key = w → (k.folded w).key = w := by
    intro w hfold hkey
    rw [SortKey.folded, hfold, ite_self, hkey]
  cases v with
  | null => exact hkey _ rfl rfl
  | integer n => exact hkey _ rfl rfl
  | _ => obtain h | h := h <;> cases h

/-- A mean without doubles is no double. -/
theorem isExactOrNull_average (sum count : Decimal) :
    (Accumulator.average sum count false).IsExactOrNull := by
  rw [Accumulator.average]
  split
  · exact .inl rfl
  · split
    · exact .inl rfl
    · exact .inr ⟨rfl, rfl⟩

namespace PlacedAggregate

variable {a : PlacedAggregate} {rows rows' all : List Row} {acc : Accumulator} {v : Value}

/-- **The aggregate of integers is a number** or NULL. -/
theorem Holds.isExactOrNull (h : a.Holds rows acc) (hlength : rows.length < 2 ^ 32)
    (hresult : acc.result = .ok v) : v.IsExactOrNull := by
  cases h with
  | extreme hfresh hbest =>
    obtain rfl := Except.ok.inj hresult
    obtain ⟨-, rfl⟩ | ⟨w, rfl, x, -, hw, -⟩ := hbest
    · exact .inl rfl
    · exact Value.isExactOrNull_of_whole? hw
  | total hfresh hsum =>
    obtain rfl := Except.ok.inj hresult
    obtain ⟨-, rfl⟩ | ⟨-, w, rfl, hw⟩ := hsum
    · exact .inl rfl
    · exact Value.isExactOrNull_of_whole? hw
  | @mean count sum hfresh hmean =>
    cases count with
    | none => exact Except.ok.inj hresult ▸ .inl rfl
    | some count =>
      cases sum with
      | none => exact Except.ok.inj hresult ▸ .inl rfl
      | some sum => exact Except.ok.inj hresult ▸ isExactOrNull_average sum count
  | distinctCount hfresh hseen => exact Except.ok.inj hresult ▸ .inr ⟨rfl, rfl⟩
  | @distinctSum seen hfresh hseen =>
    obtain rfl := Except.ok.inj hresult
    obtain rfl | hne := Decidable.em (seen = [])
    · exact .inl rfl
    · exact Value.isExactOrNull_of_whole? (whole?_sumOf hseen.isInteger
        (Nat.lt_of_le_of_lt hseen.length_le hlength) hne)
  | distinctMean hfresh hseen =>
    obtain ⟨sum, hsum, -⟩ := exists_meanOf_eq hseen.isInteger
      (Nat.lt_of_le_of_lt hseen.length_le hlength)
    obtain rfl := Except.ok.inj (hsum.symm.trans hresult)
    exact isExactOrNull_average _ _

/-! ## Rows in any order

The three ways for an aggregate to take rows are put together, so that what follows can speak of
rows alone. -/

/-- **An aggregate takes all these rows, in any order**: MIN or MAX of cells that all compare, COUNT
DISTINCT of cells other than doubles, or any aggregate of integers. -/
inductive TakesAll (a : PlacedAggregate) (rows : List Row) : Prop
  | compared {least : Bool} : Accumulator.fresh a.function a.distinct = .extreme least none →
      Value.AllCompare (filledCells a.column rows) → TakesAll a rows
  | counted : Accumulator.fresh a.function a.distinct = .distinctCount [] →
      (∀ row ∈ rows, (cellAt row a.column).isReal = false) → TakesAll a rows
  | integers : (∀ row ∈ rows, a.TakesIntegers row) → TakesAll a rows

theorem TakesAll.subset (h : a.TakesAll rows) (hsub : rows' ⊆ rows) : a.TakesAll rows' := by
  cases h with
  | compared hfresh hcompare =>
    exact .compared hfresh (hcompare.subset (filledCells_subset hsub))
  | counted hfresh hcells => exact .counted hfresh fun row hrow => hcells row (hsub hrow)
  | integers hrows => exact .integers fun row hrow => hrows row (hsub hrow)

/-- MIN and MAX take in rows whose cells all compare. -/
theorem feeds_of_allCompare {least : Bool} (hplaced : a.IsPlaced)
    (hfresh : Accumulator.fresh a.function a.distinct = .extreme least none)
    (hcompare : Value.AllCompare (filledCells a.column rows)) :
    a.Feeds rows ∧ ∃ best, a.taken rows = .extreme least best ∧
      IsBest least (filledCells a.column rows) best := by
  refine feeds_of_step (P := fun rows acc => ∃ best, acc = .extreme least best ∧
    IsBest least (filledCells a.column rows) best) ⟨none, hfresh, .inl ⟨rfl, rfl⟩⟩ ?_
  rintro before row _ hfront ⟨best, rfl, hbest⟩
  obtain ⟨best', hfeed, hbest'⟩ := hbest.exists_feed_eq
    (hcompare.subset (filledCells_subset hfront.subset))
  refine ⟨_, ?_, best', rfl, hbest'⟩
  rw [map_cellAt_inputs hplaced hfresh (by simp) (by simp)]
  exact hfeed

/-- COUNT DISTINCT takes in rows without doubles. -/
theorem feeds_of_counted (hplaced : a.IsPlaced)
    (hfresh : Accumulator.fresh a.function a.distinct = .distinctCount [])
    (hcells : ∀ row ∈ rows, (cellAt row a.column).isReal = false) :
    a.Feeds rows ∧ ∃ seen, a.taken rows = .distinctCount seen ∧
      IsKeySet (filledCells a.column rows) seen := by
  refine feeds_of_step (P := fun rows acc => ∃ seen, acc = .distinctCount seen ∧
    IsKeySet (filledCells a.column rows) seen) ⟨[], hfresh, List.nodup_nil, by simp [filledCells],
      by simp⟩ ?_
  rintro before row _ hfront ⟨seen, rfl, hseen⟩
  obtain ⟨seen', hfeed, hseen'⟩ := hseen.exists_feed_eq
    (hcells row (hfront.subset (List.mem_append_right _ (List.mem_singleton_self row))))
  refine ⟨_, ?_, seen', rfl, hseen'⟩
  rw [map_cellAt_inputs hplaced hfresh (by simp) (by simp)]
  exact hfeed

/-- **Such rows are taken in one after another.** -/
theorem TakesAll.feeds (h : a.TakesAll rows) (hplaced : a.IsPlaced)
    (hlength : rows.length < 2 ^ 32) : a.Feeds rows := by
  cases h with
  | compared hfresh hcompare => exact (feeds_of_allCompare hplaced hfresh hcompare).1
  | counted hfresh hcells => exact (feeds_of_counted hplaced hfresh hcells).1
  | integers hrows =>
    exact PlacedAggregate.feeds hplaced (fun r hr => (hrows r hr).takes) hlength

/-- **In whichever order, the results tie.** -/
theorem TakesAll.exists_results_tie (h : a.TakesAll rows) (hplaced : a.IsPlaced)
    (hperm : rows' ~ rows) (hlength : rows.length < 2 ^ 32) :
    ∃ v' v, (a.taken rows').result = .ok v' ∧ (a.taken rows).result = .ok v ∧
      v'.order? v = some .eq := by
  cases h with
  | compared hfresh hcompare =>
    obtain ⟨-, best, htaken, hbest⟩ := feeds_of_allCompare hplaced hfresh hcompare
    have hcells := filledCells_perm (i := a.column) hperm
    obtain ⟨-, best', htaken', hbest'⟩ :=
      feeds_of_allCompare hplaced hfresh (hcompare.subset hcells.subset)
    rw [htaken, htaken']
    exact ⟨_, _, rfl, rfl, hbest.order?_eq hbest' hcells hcompare⟩
  | counted hfresh hcells =>
    obtain ⟨-, seen, htaken, hseen⟩ := feeds_of_counted hplaced hfresh hcells
    obtain ⟨-, seen', htaken', hseen'⟩ := feeds_of_counted hplaced hfresh fun row hrow =>
      hcells row (hperm.mem_iff.1 hrow)
    rw [htaken, htaken']
    refine ⟨_, _, rfl, rfl, ?_⟩
    rw [hseen.length_eq hseen' (filledCells_perm hperm)]
    exact Value.order?_eq_eq_of_whole? rfl rfl
  | integers hrows =>
    obtain ⟨v', v, hv', hv, hsame⟩ := exists_result_taken_of_perm hplaced hperm hrows hlength
    exact ⟨v', v, hv', hv, hsame.order?_eq⟩

/-- Rows that an aggregate takes have a result. -/
theorem TakesAll.exists_result_eq (h : a.TakesAll rows) (hplaced : a.IsPlaced)
    (hlength : rows.length < 2 ^ 32) : ∃ v, (a.taken rows).result = .ok v := by
  obtain ⟨v, -, hv, -, -⟩ := h.exists_results_tie hplaced (.refl rows) hlength
  exact ⟨v, hv⟩

/-- **Where a key sees one cell in all rows**, it sees one result, in whichever order they are. -/
theorem TakesAll.key_folded_eq {k : SortKey} {x v' : Value} (h : a.TakesAll rows)
    (hplaced : a.IsPlaced) (hperm : rows' ~ rows) (hlength : rows.length < 2 ^ 32)
    (hone : ∀ row ∈ rows, (k.folded (cellAt row a.index)).key = x)
    (hv : (a.taken rows).result = .ok v) (hv' : (a.taken rows').result = .ok v') :
    (k.folded v').key = (k.folded v).key := by
  cases h with
  | compared hfresh hcompare =>
    have hcells := filledCells_perm (i := a.column) hperm
    -- Compared cells may be of any type; the key sees the same cell whichever of them is kept.
    have hkey : ∀ w ∈ filledCells a.column rows, (k.folded w).key = x := by
      intro w hw
      obtain ⟨⟨row, hrow, rfl⟩, -⟩ := mem_filledCells.1 hw
      rw [hplaced.column_eq (ne_avg_of_fresh hfresh (by simp) (by simp))]
      exact hone row hrow
    obtain ⟨-, best, htaken, hbest⟩ := feeds_of_allCompare hplaced hfresh hcompare
    obtain ⟨-, best', htaken', hbest'⟩ :=
      feeds_of_allCompare hplaced hfresh (hcompare.subset hcells.subset)
    rw [htaken] at hv
    rw [htaken'] at hv'
    obtain rfl := Except.ok.inj hv
    obtain rfl := Except.ok.inj hv'
    exact hbest.congr hbest' (f := fun w => (k.folded w).key) hcells hkey
  | counted hfresh hcells =>
    obtain ⟨-, seen, htaken, hseen⟩ := feeds_of_counted hplaced hfresh hcells
    obtain ⟨-, seen', htaken', hseen'⟩ := feeds_of_counted hplaced hfresh fun row hrow =>
      hcells row (hperm.mem_iff.1 hrow)
    rw [htaken] at hv
    rw [htaken'] at hv'
    rw [← Except.ok.inj hv, ← Except.ok.inj hv',
      hseen.length_eq hseen' (filledCells_perm hperm)]
  | integers hrows =>
    have hvalue : a.function ≠ .avg → ∃ w, ∀ row ∈ rows, cellAt row a.index = w := fun havg =>
      ⟨x, fun row hrow => by
        have hcolumn := hrows row hrow a.column (column_mem_inputs hplaced)
        rw [hplaced.column_eq havg] at hcolumn
        rw [← hone row hrow, key_folded_of_isIntegerOrNull k hcolumn]⟩
    rw [result_taken_of_perm hplaced hperm hrows hlength hvalue, hv] at hv'
    rw [Except.ok.inj hv']

/-- **Results of parts of the rows compare.** -/
theorem TakesAll.areComparable (h : a.TakesAll all) (hplaced : a.IsPlaced)
    (hlength : all.length < 2 ^ 32) {shown : List Value}
    (hshown : ∀ v ∈ shown, ∃ rows, rows <+~ all ∧ (a.taken rows).result = .ok v) :
    Value.AreComparable shown := by
  cases h with
  | compared hfresh hcompare =>
    refine hcompare.areComparable fun v hv => ?_
    obtain ⟨rows, hsub, hresult⟩ := hshown v hv
    have hcells := filledCells_subset (i := a.column) hsub.subset
    obtain ⟨-, best, htaken, hbest⟩ := feeds_of_allCompare hplaced hfresh (hcompare.subset hcells)
    rw [htaken] at hresult
    obtain rfl := Except.ok.inj hresult
    obtain ⟨-, hnull⟩ | hmem := hbest.getD_mem
    · exact .inl (by rw [hnull]; rfl)
    · exact .inr (hcells hmem)
  | counted hfresh hcells =>
    refine Value.areComparable_of_isExactOrNull fun v hv => ?_
    obtain ⟨rows, hsub, hresult⟩ := hshown v hv
    obtain ⟨-, seen, htaken, -⟩ := feeds_of_counted hplaced hfresh fun row hrow =>
      hcells row (hsub.subset hrow)
    rw [htaken] at hresult
    exact Except.ok.inj hresult ▸ .inr ⟨rfl, rfl⟩
  | integers hrows =>
    refine Value.areComparable_of_isExactOrNull fun v hv => ?_
    obtain ⟨rows, hsub, hresult⟩ := hshown v hv
    have hlt := Nat.lt_of_le_of_lt hsub.length_le hlength
    exact (holds_taken hplaced (fun r hr => (hrows r (hsub.subset hr)).takes) hlt).isExactOrNull
      hlt hresult

end PlacedAggregate

end ScatterGather
