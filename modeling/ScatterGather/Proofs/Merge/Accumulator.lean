import Mathlib.Algebra.BigOperators.Group.List.Basic
import Mathlib.Data.List.Perm.Subperm
import ScatterGather.Merge.Group
import ScatterGather.Proofs.Outcome
import ScatterGather.Proofs.Value.HashKey
import ScatterGather.Proofs.Value.SameNumber

/-!
# Proofs/Merge/Accumulator — what accumulators hold

Fed with rows whose inputs are NULL or whole numbers of 64 bits, an accumulator never fails as long
as there are fewer than 2³² rows, and what it `Holds` depends on the rows alone and not on their
order: the sum of the numbers, the least or the greatest of them, or the different ones.  So
accumulators fed with the same rows in any order show forms of **the same number**
(`PlacedAggregate.Holds.result_sameNumber`), and what becomes of a fresh one that takes in rows one
by one (`PlacedAggregate.taken`) differs in no more than that.
-/

namespace ScatterGather

open scoped List

/-! ## Inputs

An aggregate reads the columns of its inputs: its own, or for a mean the derived count and sum.
`column` and `countColumn` name them for all functions alike, so that what follows need not look
into the list of inputs. -/

/-- The cell is NULL or a whole number of 64 bits. -/
def Value.IsSummand (v : Value) : Prop :=
  v.isNull = true ∨ ∃ x, v.whole? = some x ∧ -2 ^ 63 ≤ x ∧ x < 2 ^ 63

/-- The cell is NULL or of the type of 64-bit integers. -/
def Value.IsIntegerOrNull (v : Value) : Prop := v.isNull = true ∨ v.isInteger = true

theorem Value.IsIntegerOrNull.isSummand {v : Value} (h : v.IsIntegerOrNull) : v.IsSummand := by
  refine h.imp id fun hint => ?_
  cases v with
  | integer n => exact ⟨n.toInt, rfl, n.le_toInt, n.toInt_lt⟩
  | _ => exact nomatch hint

theorem Value.whole?_of_isNull {v : Value} (h : v.isNull = true) : v.whole? = none := by
  cases v with
  | null => rfl
  | _ => exact nomatch h

/-- A cell that is a number is within 64 bits. -/
theorem Value.IsSummand.bounds {v : Value} {x : Int} (h : v.IsSummand) (hx : v.whole? = some x) :
    -2 ^ 63 ≤ x ∧ x < 2 ^ 63 := by
  obtain hnull | ⟨y, hy, hrange⟩ := h
  · exact nomatch (whole?_of_isNull hnull).symm.trans hx
  · exact Option.some.inj (hy.symm.trans hx) ▸ hrange

/-- The whole numbers in a column. -/
def wholeNumbers (index : Nat) (rows : List Row) : List Int :=
  rows.filterMap fun row => (cellAt row index).whole?

namespace PlacedAggregate

/-- The column that an aggregate counts, sums or compares. -/
def column (a : PlacedAggregate) : Nat := a.inputs.getLast?.getD a.index

/-- The column of the counts of a mean. -/
def countColumn (a : PlacedAggregate) : Nat := a.inputs.head?.getD a.index

/-- The derived columns are those that the function asks for. -/
def IsPlaced (a : PlacedAggregate) : Prop :=
  if a.function = .avg then
    ∃ count sum, a.derived = [count, sum] ∧ count.function = .count ∧ sum.function = .sum
  else a.derived = []

/-- The inputs of a row are NULL or whole numbers of 64 bits; they are integers where different
values are told apart. -/
def Takes (a : PlacedAggregate) (row : Row) : Prop :=
  ∀ i ∈ a.inputs, (cellAt row i).IsSummand ∧ (a.distinct = true → (cellAt row i).IsIntegerOrNull)

/-- The inputs of a row are NULL or integers. -/
def TakesIntegers (a : PlacedAggregate) (row : Row) : Prop :=
  ∀ i ∈ a.inputs, (cellAt row i).IsIntegerOrNull

theorem TakesIntegers.takes {a : PlacedAggregate} {row : Row} (h : a.TakesIntegers row) :
    a.Takes row :=
  fun i hi => ⟨(h i hi).isSummand, fun _ => h i hi⟩

end PlacedAggregate

/-! ## What is held

Each relation says what a kind of accumulator is of the numbers it was fed with.  They speak of
numbers and not of cells: a sum keeps one form of a number among several, and which one depends on
the order. -/

/-- Nothing for no numbers, and otherwise their sum. -/
def IsSum {α : Type} (whole? : α → Option Int) (ns : List Int) (sum : Option α) : Prop :=
  (ns = [] ∧ sum = none) ∨ (ns ≠ [] ∧ ∃ a, sum = some a ∧ whole? a = some ns.sum)

/-- Nothing for no numbers, and otherwise the least or the greatest of them. -/
def IsExtreme (least : Bool) (ns : List Int) (best : Option Value) : Prop :=
  (ns = [] ∧ best = none) ∨ ∃ v, best = some v ∧ ∃ x ∈ ns, v.whole? = some x ∧
    ∀ y ∈ ns, if least then x ≤ y else y ≤ x

/-- The count and the sum of a row that has both. -/
def meanInput? (i j : Nat) (row : Row) : Option (Int × Int) :=
  (cellAt row i).whole?.bind fun count => (cellAt row j).whole?.map fun sum => (count, sum)

/-- The totals of the counts and of the sums, in plain form if all are 64-bit integers. -/
structure IsMean (i j : Nat) (rows : List Row) (count sum : Option Decimal) : Prop where
  isCount : IsSum Decimal.whole? ((rows.filterMap (meanInput? i j)).map Prod.fst) count
  isSum : IsSum Decimal.whole? ((rows.filterMap (meanInput? i j)).map Prod.snd) sum
  isPlain : (∀ row ∈ rows, (cellAt row i).IsIntegerOrNull ∧ (cellAt row j).IsIntegerOrNull) →
    (∀ d ∈ count, d.IsPlain) ∧ ∀ d ∈ sum, d.IsPlain

/-- The different integers of a column, each once. -/
structure IsDistinct (index : Nat) (rows : List Row) (seen : List Value) : Prop where
  nodup : seen.Nodup
  mem_iff : ∀ v, v ∈ seen ↔ ∃ row ∈ rows, cellAt row index = v ∧ v.isNull = false
  isInteger : ∀ v ∈ seen, v.isInteger = true

/-- **What the accumulator of an aggregate holds** after it took in these rows, in any order. -/
inductive PlacedAggregate.Holds (a : PlacedAggregate) (rows : List Row) : Accumulator → Prop
  | extreme {least : Bool} {best : Option Value} :
      Accumulator.fresh a.function a.distinct = .extreme least none →
      IsExtreme least (wholeNumbers a.column rows) best → Holds a rows (.extreme least best)
  | total {sum : Option Value} : Accumulator.fresh a.function a.distinct = .total none →
      IsSum Value.whole? (wholeNumbers a.column rows) sum → Holds a rows (.total sum)
  | mean {count sum : Option Decimal} :
      Accumulator.fresh a.function a.distinct = .mean none none false →
      IsMean a.countColumn a.column rows count sum → Holds a rows (.mean count sum false)
  | distinctCount {seen : List Value} :
      Accumulator.fresh a.function a.distinct = .distinctCount [] →
      IsDistinct a.column rows seen → Holds a rows (.distinctCount seen)
  | distinctSum {seen : List Value} :
      Accumulator.fresh a.function a.distinct = .distinctSum [] →
      IsDistinct a.column rows seen → Holds a rows (.distinctSum seen)
  | distinctMean {seen : List Value} :
      Accumulator.fresh a.function a.distinct = .distinctMean [] →
      IsDistinct a.column rows seen → Holds a rows (.distinctMean seen)

section Perm

variable {i j : Nat} {rows rows' : List Row} {ns ns' : List Int}

/-- A sum does not depend on the order of the numbers. -/
theorem IsSum.perm {α : Type} {whole? : α → Option Int} {sum : Option α}
    (h : IsSum whole? ns sum) (hperm : ns ~ ns') : IsSum whole? ns' sum := by
  obtain ⟨rfl, hsum⟩ | ⟨hne, hsum⟩ := h
  · exact .inl ⟨hperm.symm.eq_nil, hsum⟩
  · exact .inr ⟨fun hnil => hne (hnil ▸ hperm).eq_nil, hperm.sum_eq ▸ hsum⟩

/-- An extreme does not depend on the order of the numbers. -/
theorem IsExtreme.perm {least : Bool} {best : Option Value} (h : IsExtreme least ns best)
    (hperm : ns ~ ns') : IsExtreme least ns' best := by
  obtain ⟨rfl, hbest⟩ | ⟨v, hv, x, hx, hwhole, hbest⟩ := h
  · exact .inl ⟨hperm.symm.eq_nil, hbest⟩
  · exact .inr ⟨v, hv, x, hperm.mem_iff.1 hx, hwhole, fun y hy => hbest y (hperm.mem_iff.2 hy)⟩

/-- The totals of a mean do not depend on the order of the rows. -/
theorem IsMean.perm {count sum : Option Decimal} (h : IsMean i j rows count sum)
    (hperm : rows ~ rows') : IsMean i j rows' count sum :=
  ⟨h.isCount.perm ((hperm.filterMap _).map _), h.isSum.perm ((hperm.filterMap _).map _),
    fun hrows => h.isPlain fun row hrow => hrows row (hperm.mem_iff.1 hrow)⟩

/-- Different integers do not depend on the order of the rows either. -/
theorem IsDistinct.of_perm {seen : List Value} (h : IsDistinct i rows seen) (hperm : rows ~ rows') :
    IsDistinct i rows' seen := by
  refine ⟨h.nodup, fun v => (h.mem_iff v).trans ?_, h.isInteger⟩
  exact exists_congr fun row => and_congr_left fun _ => hperm.mem_iff

end Perm

/-! ## One more summand

Lemmas about single values.  None of the additions overflows: a decimal holds 96 bits, and fewer
than 2³² summands of 64 bits add up to less. -/

/-- A sum of 64-bit numbers is bounded by how many there are. -/
theorem natAbs_sum_le {ns : List Int} (h : ∀ n ∈ ns, -2 ^ 63 ≤ n ∧ n < 2 ^ 63) :
    ns.sum.natAbs ≤ ns.length * 2 ^ 63 := by
  induction ns with
  | nil => simp
  | cons n ns ih =>
    obtain ⟨hn, hns⟩ := List.forall_mem_cons.1 h
    have hrest := ih hns
    rw [List.sum_cons, List.length_cons]
    omega

/-- Fewer than 2³² whole numbers of 64 bits have a sum that fits a decimal. -/
theorem natAbs_sum_lt {ns : List Int} (h : ∀ n ∈ ns, -2 ^ 63 ≤ n ∧ n < 2 ^ 63)
    (hlength : ns.length < 2 ^ 32) : ns.sum.natAbs < 2 ^ 96 := by
  have hle := natAbs_sum_le h
  omega

section Summand

variable {ns : List Int} {v : Value} {x : Int}

/-- **A sum takes in one more summand.** -/
theorem IsSum.exists_plus_eq {sum : Option Value} (h : IsSum Value.whole? ns sum)
    (hv : v.whole? = some x) (hfits : (x :: ns).sum.natAbs < 2 ^ 96) :
    ∃ w, Accumulator.plus sum v = .ok w ∧ IsSum Value.whole? (x :: ns) (some w) := by
  rw [List.sum_cons] at hfits
  have hsum : ∃ w, Accumulator.plus sum v = .ok w ∧ w.whole? = some (x + ns.sum) := by
    obtain ⟨rfl, rfl⟩ | ⟨-, current, rfl, hcurrent⟩ := h
    · exact Value.exists_add_eq hv rfl hfits
    · rw [add_comm] at hfits ⊢
      exact Value.exists_add_eq hcurrent hv hfits
  obtain ⟨w, hw, hwhole⟩ := hsum
  exact ⟨w, hw, .inr ⟨List.cons_ne_nil _ _, w, rfl, hwhole⟩⟩

/-- **A total of decimals takes in one more summand.** -/
theorem IsSum.exists_addExact_eq {sum : Option Decimal} {d : Decimal}
    (h : IsSum Decimal.whole? ns sum) (hd : d.whole? = some x)
    (hfits : (x :: ns).sum.natAbs < 2 ^ 96) :
    ∃ e, Accumulator.addExact (sum.getD .zero) d = .ok e ∧
      IsSum Decimal.whole? (x :: ns) (some e) ∧
      ((∀ c ∈ sum, c.IsPlain) → d.IsPlain → e.IsPlain) := by
  have hcurrent : (sum.getD .zero).whole? = some ns.sum ∧
      ((∀ c ∈ sum, c.IsPlain) → (sum.getD .zero).IsPlain) := by
    obtain ⟨rfl, rfl⟩ | ⟨-, current, rfl, hcurrent⟩ := h
    · exact ⟨rfl, fun _ => Decimal.isPlain_zero⟩
    · exact ⟨hcurrent, fun hplain => hplain current rfl⟩
  rw [List.sum_cons, add_comm] at hfits
  obtain ⟨e, he, hwhole, hplain⟩ := Decimal.exists_add?_eq hcurrent.1 hd hfits
  refine ⟨e, by rw [Accumulator.addExact, he], .inr ⟨List.cons_ne_nil _ _, e, rfl, ?_⟩, ?_⟩
  · rw [hwhole, List.sum_cons, add_comm]
  · exact fun hsum hd => hplain (hcurrent.2 hsum) hd

/-- **The best of the numbers takes in one more.** -/
theorem IsExtreme.exists_better_eq {least : Bool} {best : Option Value}
    (h : IsExtreme least ns best) (hv : v.whole? = some x) :
    ∃ w, Accumulator.better least best v = .ok w ∧ IsExtreme least (x :: ns) (some w) := by
  rw [Accumulator.better.eq_def, Value.isComparable_of_whole? hv]
  obtain ⟨rfl, rfl⟩ | ⟨current, rfl, y, hy, hcurrent, hbest⟩ := h
  · refine ⟨v, rfl, .inr ⟨v, rfl, x, List.mem_cons_self, hv, ?_⟩⟩
    intro z hz
    obtain rfl := List.mem_singleton.1 hz
    cases least <;> exact le_refl _
  · simp only [Bool.not_true, Bool.false_eq_true, if_false, Value.order?_of_whole? hv hcurrent]
    by_cases hwins : compare x y = if least then .lt else .gt
    · refine ⟨v, by rw [if_pos hwins], .inr ⟨v, rfl, x, List.mem_cons_self, hv, ?_⟩⟩
      refine List.forall_mem_cons.2 ⟨by cases least <;> exact le_refl _, fun z hz => ?_⟩
      have hz := hbest z hz
      cases least with
      | true => exact (Int.compare_eq_lt.1 hwins).le.trans hz
      | false => exact hz.trans (Int.compare_eq_gt.1 hwins).le
    · refine ⟨current, by rw [if_neg hwins], .inr ⟨current, rfl, y, List.mem_cons_of_mem _ hy,
        hcurrent, List.forall_mem_cons.2 ⟨?_, hbest⟩⟩⟩
      cases least with
      | true => exact not_lt.1 fun hlt => hwins (Int.compare_eq_lt.2 hlt)
      | false => exact not_lt.1 fun hlt => hwins (Int.compare_eq_gt.2 hlt)

/-- **A value is added unless one of its key is there.** -/
theorem addNew_eq_of_isNaN (hv : v.isNaN = false) (seen : List Value) :
    Accumulator.addNew v seen = if v.key ∈ seen.map Value.key then seen else seen ++ [v] := by
  have hany : (seen.any fun w => w.sameKey v) = decide (v.key ∈ seen.map Value.key) := by
    rw [Bool.eq_iff_iff, List.any_eq_true, decide_eq_true_iff, List.mem_map]
    exact exists_congr fun w => and_congr_right fun _ => Value.sameKey_iff_of_isNaN hv
  rw [Accumulator.addNew, hany]
  simp only [decide_eq_true_eq]

/-- Integers are their own keys. -/
theorem Value.key_of_isInteger {v : Value} (h : v.isInteger = true) : v.key = v := by
  cases v with
  | integer n => rfl
  | _ => exact nomatch h

theorem Value.isNull_of_isInteger {v : Value} (h : v.isInteger = true) : v.isNull = false := by
  cases v with
  | integer n => rfl
  | _ => exact nomatch h

/-- Integers are added that are not there. -/
theorem addNew_eq {seen : List Value} (hseen : ∀ w ∈ seen, w.isInteger = true)
    (hv : v.isInteger = true) :
    Accumulator.addNew v seen = if v ∈ seen then seen else seen ++ [v] := by
  have hnan : v.isNaN = false := by
    cases v <;> first | rfl | exact nomatch hv
  have hkeys : seen.map Value.key = seen :=
    (List.map_congr_left fun w hw => Value.key_of_isInteger (hseen w hw)).trans (List.map_id seen)
  rw [addNew_eq_of_isNaN hnan, hkeys, Value.key_of_isInteger hv]

/-- **The different integers take in one more.** -/
theorem IsDistinct.addNew {index : Nat} {row : Row} {rows : List Row} {seen : List Value}
    (h : IsDistinct index rows seen) (hv : (cellAt row index).isInteger = true) :
    IsDistinct index (row :: rows) (Accumulator.addNew (cellAt row index) seen) := by
  have hnull := Value.isNull_of_isInteger hv
  have hrows : ∀ v, (∃ r ∈ row :: rows, cellAt r index = v ∧ v.isNull = false) ↔
      v = cellAt row index ∨ v ∈ seen := by
    intro v
    simp only [h.mem_iff, List.mem_cons, exists_eq_or_imp]
    refine or_congr_left ⟨fun hcell => hcell.1.symm, ?_⟩
    rintro rfl
    exact ⟨rfl, hnull⟩
  rw [addNew_eq h.isInteger hv]
  split
  · rename_i hmem
    refine ⟨h.nodup, fun v => ?_, h.isInteger⟩
    rw [hrows]
    exact ⟨Or.inr, fun hv => hv.elim (fun heq => heq ▸ hmem) id⟩
  · rename_i hmem
    refine ⟨?_, fun v => ?_, fun v hv => ?_⟩
    · exact List.nodup_append.2 ⟨h.nodup, List.pairwise_singleton _ _,
        fun w hw u hu => by rw [List.mem_singleton.1 hu]; exact fun heq => hmem (heq ▸ hw)⟩
    · rw [hrows, List.mem_append, List.mem_singleton, or_comm]
    · obtain hold | hnew := List.mem_append.1 hv
      · exact h.isInteger v hold
      · rw [List.mem_singleton.1 hnew]
        exact ‹(cellAt row index).isInteger = true›

/-- NULLs are not told apart from what is there. -/
theorem IsDistinct.cons_of_isNull {index : Nat} {row : Row} {rows : List Row} {seen : List Value}
    (h : IsDistinct index rows seen) (hv : (cellAt row index).isNull = true) :
    IsDistinct index (row :: rows) seen := by
  refine ⟨h.nodup, fun v => ?_, h.isInteger⟩
  simp only [h.mem_iff, List.mem_cons, exists_eq_or_imp]
  refine ⟨Or.inr, fun hrow => hrow.resolve_left ?_⟩
  rintro ⟨rfl, hnull⟩
  exact Bool.false_ne_true (hnull.symm.trans hv)

end Summand

/-! ## One more row

The same for rows: what a row feeds to the accumulator of an aggregate is one cell of its column, or
a count and a sum.  NULL leaves everything as it is. -/

section Feed

variable {i j : Nat} {row : Row} {rows : List Row} {x : Int}

theorem wholeNumbers_cons_of_isNull (h : (cellAt row i).isNull = true) :
    wholeNumbers i (row :: rows) = wholeNumbers i rows :=
  List.filterMap_cons_none (Value.whole?_of_isNull h)

theorem wholeNumbers_cons (h : (cellAt row i).whole? = some x) :
    wholeNumbers i (row :: rows) = x :: wholeNumbers i rows :=
  List.filterMap_cons_some h

theorem sum_wholeNumbers_lt (h : ∀ row ∈ rows, (cellAt row i).IsSummand)
    (hlength : rows.length < 2 ^ 32) : (wholeNumbers i rows).sum.natAbs < 2 ^ 96 := by
  refine natAbs_sum_lt (fun n hn => ?_) (Nat.lt_of_le_of_lt (List.length_filterMap_le _ _) hlength)
  obtain ⟨row, hrow, hcell⟩ := List.mem_filterMap.1 hn
  exact (h row hrow).bounds hcell

theorem firstInput?_of_isNull {v : Value} (h : v.isNull = true) :
    Accumulator.firstInput? [v] = none := by
  rw [Accumulator.firstInput?]
  simp [h]

theorem firstInput?_of_whole? {v : Value} (h : v.isNull = false) :
    Accumulator.firstInput? [v] = some v := by
  rw [Accumulator.firstInput?]
  simp [h]

/-- **The total of one more row.** -/
theorem exists_feed_total {sum : Option Value}
    (hsum : IsSum Value.whole? (wholeNumbers i rows) sum)
    (hrows : ∀ r ∈ row :: rows, (cellAt r i).IsSummand) (hlength : (row :: rows).length < 2 ^ 32) :
    ∃ sum', Accumulator.feed [cellAt row i] (.total sum) = (.ok (), .total sum') ∧
      IsSum Value.whole? (wholeNumbers i (row :: rows)) sum' := by
  have hfits := sum_wholeNumbers_lt hrows hlength
  rw [Accumulator.feed]
  obtain hnull | ⟨x, hx, -⟩ := hrows row List.mem_cons_self
  · rw [firstInput?_of_isNull hnull, wholeNumbers_cons_of_isNull hnull]
    exact ⟨sum, rfl, hsum⟩
  · rw [wholeNumbers_cons hx] at hfits ⊢
    obtain ⟨w, hw, hsum'⟩ := hsum.exists_plus_eq hx hfits
    refine ⟨some w, ?_, hsum'⟩
    rw [firstInput?_of_whole? (Value.isNull_of_whole? hx)]
    simp only [hw]

/-- **The extreme of one more row.** -/
theorem exists_feed_extreme {least : Bool} {best : Option Value}
    (hbest : IsExtreme least (wholeNumbers i rows) best) (hrow : (cellAt row i).IsSummand) :
    ∃ best', Accumulator.feed [cellAt row i] (.extreme least best) =
        (.ok (), .extreme least best') ∧
      IsExtreme least (wholeNumbers i (row :: rows)) best' := by
  rw [Accumulator.feed]
  obtain hnull | ⟨x, hx, -⟩ := hrow
  · rw [firstInput?_of_isNull hnull, wholeNumbers_cons_of_isNull hnull]
    exact ⟨best, rfl, hbest⟩
  · obtain ⟨w, hw, hbest'⟩ := hbest.exists_better_eq hx
    refine ⟨some w, ?_, wholeNumbers_cons hx ▸ hbest'⟩
    rw [firstInput?_of_whole? (Value.isNull_of_whole? hx)]
    simp only [hw]

theorem meanInput?_of_isNull (h : (cellAt row i).isNull = true ∨ (cellAt row j).isNull = true) :
    meanInput? i j row = none := by
  rw [meanInput?]
  obtain h | h := h
  · rw [Value.whole?_of_isNull h, Option.bind_none]
  · rw [Value.whole?_of_isNull h]
    cases (cellAt row i).whole? <;> rfl

theorem meanInput?_eq {y : Int} (hi : (cellAt row i).whole? = some x)
    (hj : (cellAt row j).whole? = some y) : meanInput? i j row = some (x, y) := by
  rw [meanInput?, hi, hj]
  rfl

theorem number_eq {v : Value} {d : Decimal} (h : v.decimal? = some d) :
    Accumulator.number v = .ok d := by
  rw [Accumulator.number, h]

/-- A mean passes over a row without a count or without a sum. -/
theorem feedMean_of_isNull {c s : Value} {count sum : Option Decimal} {real : Bool}
    (h : c.isNull = true ∨ s.isNull = true) :
    Accumulator.feedMean count sum real c s = (.ok (), .mean count sum real) :=
  if_pos (Bool.or_eq_true_iff.2 h)

/-- A mean takes in a count and a sum that can be added to what it holds. -/
theorem feedMean_eq {c s : Value} {y : Int} {d e count' sum' : Decimal} {count sum : Option Decimal}
    (hx : c.whole? = some x) (hy : s.whole? = some y) (hd : c.decimal? = some d)
    (he : s.decimal? = some e) (hcount : Accumulator.addExact (count.getD .zero) d = .ok count')
    (hsum : Accumulator.addExact (sum.getD .zero) e = .ok sum') :
    Accumulator.feedMean count sum false c s = (.ok (), .mean (some count') (some sum') false) := by
  simp only [Accumulator.feedMean, Value.isNull_of_whole? hx, Value.isNull_of_whole? hy,
    Value.isReal_of_whole? hy, number_eq hd, number_eq he, Except.bind, hcount, hsum, Bool.or_self,
    Bool.false_eq_true, if_false]

/-- The counts, and the sums, have a total that fits. -/
theorem sum_meanInputs_lt
    (h : ∀ row ∈ rows, (cellAt row i).IsSummand ∧ (cellAt row j).IsSummand)
    (hlength : rows.length < 2 ^ 32) :
    ((rows.filterMap (meanInput? i j)).map Prod.fst).sum.natAbs < 2 ^ 96 ∧
      ((rows.filterMap (meanInput? i j)).map Prod.snd).sum.natAbs < 2 ^ 96 := by
  have hlt : (rows.filterMap (meanInput? i j)).length < 2 ^ 32 :=
    Nat.lt_of_le_of_lt (List.length_filterMap_le _ _) hlength
  have hbounds : ∀ p ∈ rows.filterMap (meanInput? i j),
      (-2 ^ 63 ≤ p.1 ∧ p.1 < 2 ^ 63) ∧ -2 ^ 63 ≤ p.2 ∧ p.2 < 2 ^ 63 := by
    intro p hp
    obtain ⟨row, hrow, hinput⟩ := List.mem_filterMap.1 hp
    obtain ⟨c, hc, hinput⟩ := Option.bind_eq_some_iff.1 hinput
    obtain ⟨s, hs, rfl⟩ := Option.map_eq_some_iff.1 hinput
    exact ⟨(h row hrow).1.bounds hc, (h row hrow).2.bounds hs⟩
  constructor
  · exact natAbs_sum_lt (List.forall_mem_map.2 fun p hp => (hbounds p hp).1)
      (by rwa [List.length_map])
  · exact natAbs_sum_lt (List.forall_mem_map.2 fun p hp => (hbounds p hp).2)
      (by rwa [List.length_map])

/-- A row without a count or without a sum leaves a mean as it is. -/
theorem IsMean.cons_of_isNull {count sum : Option Decimal} (hmean : IsMean i j rows count sum)
    (hnull : (cellAt row i).isNull = true ∨ (cellAt row j).isNull = true) :
    IsMean i j (row :: rows) count sum := by
  have hrows : (row :: rows).filterMap (meanInput? i j) = rows.filterMap (meanInput? i j) :=
    List.filterMap_cons_none (meanInput?_of_isNull hnull)
  refine ⟨?_, ?_, fun h => hmean.isPlain (List.forall_mem_cons.1 h).2⟩
  · rw [hrows]
    exact hmean.isCount
  · rw [hrows]
    exact hmean.isSum

/-- **The mean of one more row.** -/
theorem exists_feed_mean {count sum : Option Decimal} (hmean : IsMean i j rows count sum)
    (hrows : ∀ r ∈ row :: rows, (cellAt r i).IsSummand ∧ (cellAt r j).IsSummand)
    (hlength : (row :: rows).length < 2 ^ 32) :
    ∃ count' sum', Accumulator.feed [cellAt row i, cellAt row j] (.mean count sum false) =
      (.ok (), .mean count' sum' false) ∧ IsMean i j (row :: rows) count' sum' := by
  obtain ⟨hcountFits, hsumFits⟩ := sum_meanInputs_lt hrows hlength
  rw [Accumulator.feed]
  obtain ⟨hi, hj⟩ := hrows row List.mem_cons_self
  obtain hnull | ⟨x, hx, -⟩ := hi
  · exact ⟨count, sum, feedMean_of_isNull (.inl hnull), hmean.cons_of_isNull (.inl hnull)⟩
  obtain hnull | ⟨y, hy, -⟩ := hj
  · exact ⟨count, sum, feedMean_of_isNull (.inr hnull), hmean.cons_of_isNull (.inr hnull)⟩
  -- From here on both inputs are numbers and the row counts.
  have hinput : (row :: rows).filterMap (meanInput? i j) =
      (x, y) :: rows.filterMap (meanInput? i j) :=
    List.filterMap_cons_some (meanInput?_eq hx hy)
  rw [hinput, List.map_cons] at hcountFits hsumFits
  obtain ⟨c, hc, hcwhole, hcplain⟩ := Value.exists_decimal?_eq hx
  obtain ⟨s, hs, hswhole, hsplain⟩ := Value.exists_decimal?_eq hy
  obtain ⟨count', hcount, hisCount, hplainCount⟩ :=
    hmean.isCount.exists_addExact_eq hcwhole hcountFits
  obtain ⟨sum', hsum, hisSum, hplainSum⟩ := hmean.isSum.exists_addExact_eq hswhole hsumFits
  refine ⟨some count', some sum', feedMean_eq hx hy hc hs hcount hsum, ?_, ?_, fun hall => ?_⟩
  · rw [hinput]
    exact hisCount
  · rw [hinput]
    exact hisSum
  · obtain ⟨⟨hinti, hintj⟩, hrest⟩ := List.forall_mem_cons.1 hall
    obtain ⟨hcounts, hsums⟩ := hmean.isPlain hrest
    have hint : ∀ {v : Value} {z : Int}, v.whole? = some z → v.IsIntegerOrNull →
        v.isInteger = true := fun hz h => h.resolve_left (by simp [Value.isNull_of_whole? hz])
    refine ⟨fun d hd => ?_, fun d hd => ?_⟩
    · exact Option.some.inj hd ▸ hplainCount hcounts (hcplain (hint hx hinti))
    · exact Option.some.inj hd ▸ hplainSum hsums (hsplain (hint hy hintj))

/-- **The different integers of one more row**, to be counted. -/
theorem exists_feed_distinctCount {seen : List Value} (hseen : IsDistinct i rows seen)
    (hrow : (cellAt row i).IsIntegerOrNull) :
    ∃ seen', Accumulator.feed [cellAt row i] (.distinctCount seen) =
      (.ok (), .distinctCount seen') ∧ IsDistinct i (row :: rows) seen' := by
  rw [Accumulator.feed]
  obtain hnull | hint := hrow
  · rw [firstInput?_of_isNull hnull]
    exact ⟨seen, rfl, hseen.cons_of_isNull hnull⟩
  · rw [firstInput?_of_whole? (Value.isNull_of_isInteger hint)]
    exact ⟨_, rfl, hseen.addNew hint⟩

theorem exists_number_eq {v : Value} (h : v.isInteger = true) :
    ∃ d, Accumulator.number v = .ok d := by
  cases v with
  | integer n => exact ⟨_, rfl⟩
  | _ => exact nomatch h

/-- **The different integers of one more row**, to be added up. -/
theorem exists_feed_distinctSum {seen : List Value} (hseen : IsDistinct i rows seen)
    (hrow : (cellAt row i).IsIntegerOrNull) :
    ∃ seen', Accumulator.feed [cellAt row i] (.distinctSum seen) =
      (.ok (), .distinctSum seen') ∧ IsDistinct i (row :: rows) seen' := by
  rw [Accumulator.feed]
  obtain hnull | hint := hrow
  · rw [firstInput?_of_isNull hnull]
    exact ⟨seen, rfl, hseen.cons_of_isNull hnull⟩
  · obtain ⟨d, hd⟩ := exists_number_eq hint
    refine ⟨_, ?_, hseen.addNew hint⟩
    rw [firstInput?_of_whole? (Value.isNull_of_isInteger hint)]
    simp only [hd]

/-- **The different integers of one more row**, to be averaged. -/
theorem exists_feed_distinctMean {seen inputs : List Value} (hseen : IsDistinct i rows seen)
    (hrow : (cellAt row i).IsIntegerOrNull) (hinputs : inputs.getLast? = some (cellAt row i)) :
    ∃ seen', Accumulator.feed inputs (.distinctMean seen) =
      (.ok (), .distinctMean seen') ∧ IsDistinct i (row :: rows) seen' := by
  have hlast : Accumulator.lastInput? inputs =
      if (cellAt row i).isNull then none else some (cellAt row i) := by
    cases hnull : (cellAt row i).isNull <;> simp [Accumulator.lastInput?, hinputs, hnull]
  rw [Accumulator.feed, hlast]
  obtain hnull | hint := hrow
  · rw [hnull]
    exact ⟨seen, rfl, hseen.cons_of_isNull hnull⟩
  · obtain ⟨d, hd⟩ := exists_number_eq hint
    refine ⟨_, ?_, hseen.addNew hint⟩
    rw [Value.isNull_of_isInteger hint]
    simp only [hd, Bool.false_eq_true, if_false]

end Feed

namespace PlacedAggregate

variable {a : PlacedAggregate} {row : Row} {rows : List Row} {acc : Accumulator}

/-- An aggregate other than a mean reads its own column. -/
theorem IsPlaced.inputs_eq (h : a.IsPlaced) (hne : a.function ≠ .avg) : a.inputs = [a.column] := by
  rw [IsPlaced, if_neg hne] at h
  simp [inputs, column, h]

/-- The column that an aggregate other than a mean reads. -/
theorem IsPlaced.column_eq (h : a.IsPlaced) (hne : a.function ≠ .avg) : a.column = a.index := by
  rw [IsPlaced, if_neg hne] at h
  simp [inputs, column, h]

/-- A mean reads its derived columns. -/
theorem IsPlaced.inputs_avg (h : a.IsPlaced) (heq : a.function = .avg) :
    a.inputs = [a.countColumn, a.column] := by
  rw [IsPlaced, if_pos heq] at h
  obtain ⟨count, sum, h, -⟩ := h
  simp [inputs, column, countColumn, h]

/-- **A fresh accumulator** holds the aggregate of no rows. -/
theorem holds_fresh (a : PlacedAggregate) : a.Holds [] (.fresh a.function a.distinct) := by
  have hdistinct : ∀ i, IsDistinct i [] [] := fun i => ⟨List.nodup_nil, by simp, by simp⟩
  have hsum : ∀ {α : Type} {whole? : α → Option Int}, IsSum whole? [] none := .inl ⟨rfl, rfl⟩
  have hmean : ∀ i j, IsMean i j [] none none := fun i j => ⟨hsum, hsum, fun _ => by simp⟩
  obtain ⟨function, distinct, label, index, derived⟩ := a
  cases function <;> cases distinct
  · exact .total rfl hsum
  · exact .distinctCount rfl (hdistinct _)
  · exact .total rfl hsum
  · exact .distinctSum rfl (hdistinct _)
  · exact .mean rfl (hmean _ _)
  · exact .distinctMean rfl (hdistinct _)
  all_goals exact .extreme rfl (.inl ⟨rfl, rfl⟩)

/-- A mean is kept by the accumulators of means. -/
theorem fresh_avg (distinct : Bool) : Accumulator.fresh .avg distinct = .mean none none false ∨
    Accumulator.fresh .avg distinct = .distinctMean [] := by
  cases distinct
  · exact .inl rfl
  · exact .inr rfl

/-- An accumulator of another kind is not that of a mean. -/
theorem ne_avg_of_fresh (h : Accumulator.fresh a.function a.distinct = acc)
    (hmean : acc ≠ .mean none none false) (hdistinct : acc ≠ .distinctMean []) :
    a.function ≠ .avg := by
  intro heq
  rw [heq] at h
  obtain hfresh | hfresh := fresh_avg a.distinct
  · exact hmean (h.symm.trans hfresh)
  · exact hdistinct (h.symm.trans hfresh)

/-- Only a mean is kept by an accumulator of means. -/
theorem eq_avg_of_fresh
    (h : Accumulator.fresh a.function a.distinct = .mean none none false ∨
      Accumulator.fresh a.function a.distinct = .distinctMean []) : a.function = .avg := by
  revert h
  cases a.function <;> cases a.distinct <;> simp [Accumulator.fresh]

/-- Different values are told apart where DISTINCT asks for it. -/
theorem distinct_of_fresh
    (h : Accumulator.fresh a.function a.distinct = .distinctCount [] ∨
      Accumulator.fresh a.function a.distinct = .distinctSum [] ∨
      Accumulator.fresh a.function a.distinct = .distinctMean []) : a.distinct = true := by
  revert h
  cases a.function <;> cases a.distinct <;> simp [Accumulator.fresh]

/-- An aggregate reads its column. -/
theorem column_mem_inputs (h : a.IsPlaced) : a.column ∈ a.inputs := by
  by_cases heq : a.function = .avg
  · rw [h.inputs_avg heq]
    exact List.mem_cons_of_mem _ (List.mem_singleton_self _)
  · rw [h.inputs_eq heq]
    exact List.mem_singleton_self _

/-- A mean reads its derived count. -/
theorem countColumn_mem_inputs (h : a.IsPlaced) (heq : a.function = .avg) :
    a.countColumn ∈ a.inputs := by
  rw [h.inputs_avg heq]
  exact List.mem_cons_self

/-- The cells that an accumulator is fed with: one, unless it is that of a mean. -/
theorem map_cellAt_inputs (h : a.IsPlaced) (hfresh : .fresh a.function a.distinct = acc)
    (hmean : acc ≠ .mean none none false) (hdistinct : acc ≠ .distinctMean []) :
    a.inputs.map (cellAt row) = [cellAt row a.column] := by
  rw [h.inputs_eq (ne_avg_of_fresh hfresh hmean hdistinct), List.map_singleton]

/-- The accumulator of a mean is fed with a count and a sum. -/
theorem map_cellAt_inputs_avg (h : a.IsPlaced) (heq : a.function = .avg) :
    a.inputs.map (cellAt row) = [cellAt row a.countColumn, cellAt row a.column] := by
  rw [h.inputs_avg heq, List.map_cons, List.map_singleton]

/-- **What is held does not depend on the order of the rows.** -/
theorem Holds.perm {rows' : List Row} (h : a.Holds rows acc) (hperm : rows ~ rows') :
    a.Holds rows' acc := by
  have hnumbers : wholeNumbers a.column rows ~ wholeNumbers a.column rows' := hperm.filterMap _
  cases h with
  | extreme hfresh hbest => exact .extreme hfresh (hbest.perm hnumbers)
  | total hfresh hsum => exact .total hfresh (hsum.perm hnumbers)
  | mean hfresh hmean => exact .mean hfresh (hmean.perm hperm)
  | distinctCount hfresh hseen => exact .distinctCount hfresh (hseen.of_perm hperm)
  | distinctSum hfresh hseen => exact .distinctSum hfresh (hseen.of_perm hperm)
  | distinctMean hfresh hseen => exact .distinctMean hfresh (hseen.of_perm hperm)

/-- **An accumulator takes in one more row**, and then holds the aggregate with it. -/
theorem Holds.exists_feed_eq (hplaced : a.IsPlaced) (h : a.Holds rows acc)
    (hrows : ∀ r ∈ row :: rows, a.Takes r) (hlength : (row :: rows).length < 2 ^ 32) :
    ∃ acc', acc.feed (a.inputs.map (cellAt row)) = (.ok (), acc') ∧ a.Holds (row :: rows) acc' := by
  -- What each kind needs of its input follows from one assumption on the row.
  have hsummands : ∀ r ∈ row :: rows, (cellAt r a.column).IsSummand := fun r hr =>
    (hrows r hr a.column (column_mem_inputs hplaced)).1
  have hinteger : a.distinct = true → (cellAt row a.column).IsIntegerOrNull :=
    (hrows row List.mem_cons_self a.column (column_mem_inputs hplaced)).2
  cases h with
  | extreme hfresh hbest =>
    obtain ⟨best', hfeed, hbest'⟩ := exists_feed_extreme hbest (hsummands row List.mem_cons_self)
    rw [map_cellAt_inputs hplaced hfresh (by simp) (by simp)]
    exact ⟨_, hfeed, .extreme hfresh hbest'⟩
  | total hfresh hsum =>
    obtain ⟨sum', hfeed, hsum'⟩ := exists_feed_total hsum hsummands hlength
    rw [map_cellAt_inputs hplaced hfresh (by simp) (by simp)]
    exact ⟨_, hfeed, .total hfresh hsum'⟩
  | mean hfresh hmean =>
    have havg := eq_avg_of_fresh (.inl hfresh)
    have hcounts : ∀ r ∈ row :: rows, (cellAt r a.countColumn).IsSummand := fun r hr =>
      (hrows r hr a.countColumn (countColumn_mem_inputs hplaced havg)).1
    obtain ⟨count', sum', hfeed, hmean'⟩ :=
      exists_feed_mean hmean (fun r hr => ⟨hcounts r hr, hsummands r hr⟩) hlength
    rw [map_cellAt_inputs_avg hplaced havg]
    exact ⟨_, hfeed, .mean hfresh hmean'⟩
  | distinctCount hfresh hseen =>
    have hdistinct := distinct_of_fresh (.inl hfresh)
    obtain ⟨seen', hfeed, hseen'⟩ := exists_feed_distinctCount hseen (hinteger hdistinct)
    rw [map_cellAt_inputs hplaced hfresh (by simp) (by simp)]
    exact ⟨_, hfeed, .distinctCount hfresh hseen'⟩
  | distinctSum hfresh hseen =>
    have hdistinct := distinct_of_fresh (.inr (.inl hfresh))
    obtain ⟨seen', hfeed, hseen'⟩ := exists_feed_distinctSum hseen (hinteger hdistinct)
    rw [map_cellAt_inputs hplaced hfresh (by simp) (by simp)]
    exact ⟨_, hfeed, .distinctSum hfresh hseen'⟩
  | distinctMean hfresh hseen =>
    have hdistinct := distinct_of_fresh (.inr (.inr hfresh))
    have hlast : [cellAt row a.countColumn, cellAt row a.column].getLast? =
        some (cellAt row a.column) := rfl
    obtain ⟨seen', hfeed, hseen'⟩ := exists_feed_distinctMean hseen (hinteger hdistinct) hlast
    rw [map_cellAt_inputs_avg hplaced (eq_avg_of_fresh (.inr hfresh))]
    exact ⟨_, hfeed, .distinctMean hfresh hseen'⟩

end PlacedAggregate

/-! ## Results

What is held determines the number that is shown, and for means of integers even its form.  So two
accumulators that hold the aggregate of the same rows show the same, however they came to it. -/

section Same

variable {ns : List Int}

/-- Sums of the same numbers are the same number. -/
theorem IsSum.sameNumber {sum sum' : Option Value} (h : IsSum Value.whole? ns sum)
    (h' : IsSum Value.whole? ns sum') : (sum.getD .null).SameNumber (sum'.getD .null) := by
  obtain ⟨hnil, rfl⟩ | ⟨hne, v, rfl, hv⟩ := h <;> obtain ⟨hnil', rfl⟩ | ⟨hne', v', rfl, hv'⟩ := h'
  · exact .refl rfl
  · exact absurd hnil hne'
  · exact absurd hnil' hne
  · exact .whole hv hv'

/-- Extremes of the same numbers are the same number. -/
theorem IsExtreme.sameNumber {least : Bool} {best best' : Option Value}
    (h : IsExtreme least ns best) (h' : IsExtreme least ns best') :
    (best.getD .null).SameNumber (best'.getD .null) := by
  obtain ⟨hnil, rfl⟩ | ⟨v, rfl, x, hx, hv, hbest⟩ := h <;>
    obtain ⟨hnil', rfl⟩ | ⟨v', rfl, x', hx', hv', hbest'⟩ := h'
  · exact .refl rfl
  · exact absurd (hnil ▸ hx') List.not_mem_nil
  · exact absurd (hnil' ▸ hx) List.not_mem_nil
  · have heq : x = x' := by
      have hle := hbest x' hx'
      have hge := hbest' x hx
      cases least with
      | true => exact le_antisymm hle hge
      | false => exact le_antisymm hge hle
    exact .whole hv (heq ▸ hv')

/-- Plain totals of the same numbers are the same. -/
theorem IsSum.eq_of_isPlain {sum sum' : Option Decimal} (h : IsSum Decimal.whole? ns sum)
    (h' : IsSum Decimal.whole? ns sum') (hplain : ∀ d ∈ sum, d.IsPlain)
    (hplain' : ∀ d ∈ sum', d.IsPlain) : sum = sum' := by
  obtain ⟨hnil, rfl⟩ | ⟨hne, d, rfl, hd⟩ := h <;> obtain ⟨hnil', rfl⟩ | ⟨hne', d', rfl, hd'⟩ := h'
  · rfl
  · exact absurd hnil hne'
  · exact absurd hnil' hne
  · rw [(hplain d rfl).eq_of_whole? (hplain' d' rfl) (hd.trans hd'.symm)]

end Same

/-- A mean without doubles is numerically equal to itself. -/
theorem average_order?_self (sum count : Decimal) :
    (Accumulator.average sum count false).order? (Accumulator.average sum count false) =
      some .eq := by
  have hnumeric : ∀ d : Decimal, (Value.numeric d).order? (.numeric d) = some .eq := fun d =>
    congrArg some (Int.compare_eq_eq.2 rfl)
  rw [Accumulator.average]
  split
  · rfl
  · split
    · rfl
    · exact hnumeric _

section Mean

variable {i j : Nat} {rows : List Row} {count count' sum sum' : Option Decimal}

/-- The result of a mean is numerically equal to itself. -/
theorem exists_result_mean (count sum : Option Decimal) :
    ∃ v, (Accumulator.mean count sum false).result = .ok v ∧ v.order? v = some .eq := by
  obtain _ | count := count
  · exact ⟨_, rfl, rfl⟩
  · obtain _ | sum := sum
    · exact ⟨_, rfl, rfl⟩
    · exact ⟨_, rfl, average_order?_self sum count⟩

/-- The totals of the same 64-bit integers are the same. -/
theorem IsMean.eq_of_isInteger (h : IsMean i j rows count sum) (h' : IsMean i j rows count' sum')
    (hrows : ∀ row ∈ rows, (cellAt row i).IsIntegerOrNull ∧ (cellAt row j).IsIntegerOrNull) :
    count = count' ∧ sum = sum' := by
  obtain ⟨hcount, hsum⟩ := h.isPlain hrows
  obtain ⟨hcount', hsum'⟩ := h'.isPlain hrows
  exact ⟨h.isCount.eq_of_isPlain h'.isCount hcount hcount',
    h.isSum.eq_of_isPlain h'.isSum hsum hsum'⟩

end Mean

section Distinct

variable {i : Nat} {rows : List Row} {seen seen' : List Value}

/-- The different integers of the same rows are the same, in some order. -/
theorem IsDistinct.perm (h : IsDistinct i rows seen) (h' : IsDistinct i rows seen') :
    seen ~ seen' :=
  (List.perm_ext_iff_of_nodup h.nodup h'.nodup).2 fun v => by rw [h.mem_iff, h'.mem_iff]

/-- There are no more different integers than rows. -/
theorem IsDistinct.length_le (h : IsDistinct i rows seen) : seen.length ≤ rows.length := by
  have hsubset : seen ⊆ rows.map (cellAt · i) := by
    intro v hv
    obtain ⟨row, hrow, hcell, -⟩ := (h.mem_iff v).1 hv
    exact List.mem_map.2 ⟨row, hrow, hcell⟩
  rw [← List.length_map (cellAt · i)]
  exact (List.subperm_of_subset h.nodup hsubset).length_le

/-- An integer is a whole number of 64 bits. -/
theorem natAbs_le_of_isInteger {v : Value} (h : v.isInteger = true) :
    ∃ x, v.whole? = some x ∧ x.natAbs ≤ 2 ^ 63 := by
  obtain hnull | ⟨x, hx, hle, hlt⟩ := Value.IsIntegerOrNull.isSummand (.inr h)
  · rw [Value.isNull_of_isInteger h] at hnull
    exact nomatch hnull
  · exact ⟨x, hx, by omega⟩

/-- Integers add up to their sum. -/
theorem exists_foldlM_add_eq {v : Value} {x : Int} (hv : v.whole? = some x)
    (hseen : ∀ w ∈ seen, w.isInteger = true)
    (hfits : x.natAbs + seen.length * 2 ^ 63 < 2 ^ 96) :
    ∃ s, seen.foldlM Value.add v = .ok s ∧
      s.whole? = some (x + (seen.filterMap Value.whole?).sum) := by
  induction seen generalizing v x with
  | nil => exact ⟨v, rfl, by simpa using hv⟩
  | cons w seen ih =>
    obtain ⟨hw, hseen⟩ := List.forall_mem_cons.1 hseen
    obtain ⟨y, hy, hle⟩ := natAbs_le_of_isInteger hw
    rw [List.length_cons] at hfits
    have habs := Int.natAbs_add_le x y
    obtain ⟨s, hs, hwhole⟩ := Value.exists_add_eq hv hy (by omega)
    obtain ⟨t, ht, htotal⟩ := ih hwhole hseen (by omega)
    refine ⟨t, ?_, ?_⟩
    · rw [List.foldlM_cons, hs]
      exact ht
    · rw [htotal, List.filterMap_cons_some hy, List.sum_cons, add_assoc]

/-- The sum of some integers is a whole number. -/
theorem whole?_sumOf (hseen : ∀ w ∈ seen, w.isInteger = true) (hlength : seen.length < 2 ^ 32)
    (hne : seen ≠ []) :
    (Accumulator.sumOf seen).whole? = some (seen.filterMap Value.whole?).sum := by
  obtain ⟨v, rest, rfl⟩ := List.exists_cons_of_ne_nil hne
  obtain ⟨hv, hrest⟩ := List.forall_mem_cons.1 hseen
  obtain ⟨x, hx, hle⟩ := natAbs_le_of_isInteger hv
  rw [List.length_cons] at hlength
  obtain ⟨s, hs, hwhole⟩ := exists_foldlM_add_eq hx hrest (by omega)
  rw [Accumulator.sumOf, hs, List.filterMap_cons_some hx, List.sum_cons]
  exact hwhole

/-- Sums of the same integers are the same number. -/
theorem sumOf_sameNumber (hperm : seen ~ seen') (hseen : ∀ w ∈ seen, w.isInteger = true)
    (hlength : seen.length < 2 ^ 32) :
    (Accumulator.sumOf seen).SameNumber (Accumulator.sumOf seen') := by
  obtain rfl | hne := Decidable.em (seen = [])
  · obtain rfl := hperm.symm.eq_nil
    exact .refl rfl
  · have hne' : seen' ≠ [] := fun h => hne (h ▸ hperm).eq_nil
    have hseen' : ∀ w ∈ seen', w.isInteger = true := fun w hw => hseen w (hperm.mem_iff.2 hw)
    refine .whole (whole?_sumOf hseen hlength hne) ?_
    rw [whole?_sumOf hseen' (hperm.length_eq ▸ hlength) hne', (hperm.filterMap _).sum_eq]

/-- Integers as plain decimals. -/
theorem exists_mapM_decimal?_eq (hseen : ∀ w ∈ seen, w.isInteger = true) :
    ∃ ds, seen.mapM Value.decimal? = some ds ∧ ds.length = seen.length ∧
      ds.filterMap Decimal.whole? = seen.filterMap Value.whole? ∧
      ∀ d ∈ ds, d.IsPlain ∧ ∃ y, d.whole? = some y ∧ y.natAbs ≤ 2 ^ 63 := by
  induction seen with
  | nil => exact ⟨[], rfl, rfl, rfl, by simp⟩
  | cons v seen ih =>
    obtain ⟨hv, hseen⟩ := List.forall_mem_cons.1 hseen
    obtain ⟨ds, hds, hlength, hwholes, hplains⟩ := ih hseen
    obtain ⟨x, hx, hle⟩ := natAbs_le_of_isInteger hv
    obtain ⟨d, hd, hwhole, hplain⟩ := Value.exists_decimal?_eq hx
    refine ⟨d :: ds, ?_, by simp [hlength], ?_,
      List.forall_mem_cons.2 ⟨⟨hplain hv, x, hwhole, hle⟩, hplains⟩⟩
    · rw [List.mapM_cons, hd, hds]
      rfl
    · rw [List.filterMap_cons_some hwhole, List.filterMap_cons_some hx, hwholes]

/-- Whole decimals add up to their sum, plain ones in plain form. -/
theorem exists_addAll_eq {ds : List Decimal} {e : Decimal} {x : Int} (he : e.whole? = some x)
    (hds : ∀ d ∈ ds, ∃ y, d.whole? = some y ∧ y.natAbs ≤ 2 ^ 63)
    (hfits : x.natAbs + ds.length * 2 ^ 63 < 2 ^ 96) :
    ∃ s, ds.foldlM Accumulator.addExact e = .ok s ∧
      s.whole? = some (x + (ds.filterMap Decimal.whole?).sum) ∧
      (e.IsPlain → (∀ d ∈ ds, d.IsPlain) → s.IsPlain) := by
  induction ds generalizing e x with
  | nil => exact ⟨e, rfl, by simpa using he, fun hplain _ => hplain⟩
  | cons d ds ih =>
    obtain ⟨⟨y, hy, hle⟩, hds⟩ := List.forall_mem_cons.1 hds
    rw [List.length_cons] at hfits
    have habs := Int.natAbs_add_le x y
    obtain ⟨s, hs, hwhole, hsplain⟩ := Decimal.exists_add?_eq he hy (by omega)
    obtain ⟨t, ht, htotal, htplain⟩ := ih hwhole hds (by omega)
    refine ⟨t, ?_, ?_, fun hplain hall => ?_⟩
    · rw [List.foldlM_cons, Accumulator.addExact, hs]
      exact ht
    · rw [htotal, List.filterMap_cons_some hy, List.sum_cons, add_assoc]
    · obtain ⟨hd, hall⟩ := List.forall_mem_cons.1 hall
      exact htplain (hsplain hplain hd) hall

/-- The mean of integers. -/
theorem exists_meanOf_eq (hseen : ∀ w ∈ seen, w.isInteger = true) (hlength : seen.length < 2 ^ 32) :
    ∃ sum : Decimal, Accumulator.meanOf seen =
        .ok (Accumulator.average sum ((Decimal.ofNat? seen.length).getD .zero) false) ∧
      sum.IsPlain ∧ sum.whole? = some (seen.filterMap Value.whole?).sum := by
  obtain ⟨ds, hds, hlen, hwholes, hplains⟩ := exists_mapM_decimal?_eq hseen
  obtain ⟨sum, hsum, hwhole, hplain⟩ :=
    exists_addAll_eq Decimal.whole?_zero (fun d hd => (hplains d hd).2) (by omega)
  have hreal : seen.any Value.isReal = false := by
    rw [List.any_eq_false]
    intro v hv
    obtain ⟨x, hx, -⟩ := natAbs_le_of_isInteger (hseen v hv)
    simp [Value.isReal_of_whole? hx]
  refine ⟨sum, ?_, hplain Decimal.isPlain_zero fun d hd => (hplains d hd).1,
    by rw [hwhole, hwholes, zero_add]⟩
  rw [Accumulator.meanOf, hds]
  simp only [Accumulator.addAll, hsum, Except.map, hreal]

/-- Means of the same integers are the same. -/
theorem meanOf_perm (hperm : seen ~ seen') (hseen : ∀ w ∈ seen, w.isInteger = true)
    (hlength : seen.length < 2 ^ 32) :
    ∃ v, Accumulator.meanOf seen = .ok v ∧ Accumulator.meanOf seen' = .ok v ∧
      v.order? v = some .eq := by
  have hseen' : ∀ w ∈ seen', w.isInteger = true := fun w hw => hseen w (hperm.mem_iff.2 hw)
  obtain ⟨sum, hsum, hplain, hwhole⟩ := exists_meanOf_eq hseen hlength
  obtain ⟨sum', hsum', hplain', hwhole'⟩ := exists_meanOf_eq hseen' (hperm.length_eq ▸ hlength)
  have heq : sum = sum' :=
    hplain.eq_of_whole? hplain' (by rw [hwhole, hwhole', (hperm.filterMap _).sum_eq])
  refine ⟨_, hsum, ?_, average_order?_self _ _⟩
  rw [hsum', heq, hperm.length_eq]

end Distinct

namespace PlacedAggregate

variable {a : PlacedAggregate} {row : Row} {rows : List Row} {acc acc' : Accumulator}

/-- The inputs of a mean are integers. -/
theorem takesIntegers_avg (hplaced : a.IsPlaced) (havg : a.function = .avg)
    (hrows : ∀ r ∈ rows, a.TakesIntegers r) :
    ∀ r ∈ rows, (cellAt r a.countColumn).IsIntegerOrNull ∧ (cellAt r a.column).IsIntegerOrNull := by
  intro r hr
  have hinputs := hrows r hr
  rw [TakesIntegers, hplaced.inputs_avg havg] at hinputs
  exact ⟨hinputs _ List.mem_cons_self, hinputs _ (List.mem_cons_of_mem _ List.mem_cons_self)⟩

/-- **There is a result** where fewer than 2³² rows were taken in. -/
theorem Holds.exists_result_eq (h : a.Holds rows acc) (hlength : rows.length < 2 ^ 32) :
    ∃ v, acc.result = .ok v := by
  cases h with
  | extreme _ _ => exact ⟨_, rfl⟩
  | total _ _ => exact ⟨_, rfl⟩
  | @mean count sum _ _ =>
    obtain ⟨v, hv, -⟩ := exists_result_mean count sum
    exact ⟨v, hv⟩
  | distinctCount _ _ => exact ⟨_, rfl⟩
  | distinctSum _ _ => exact ⟨_, rfl⟩
  | distinctMean _ hseen =>
    obtain ⟨_, hmean, -⟩ :=
      exists_meanOf_eq hseen.isInteger (Nat.lt_of_le_of_lt hseen.length_le hlength)
    exact ⟨_, hmean⟩

/-- **Accumulators that took in the same integers show the same number.** -/
theorem Holds.result_sameNumber (hplaced : a.IsPlaced) (h : a.Holds rows acc)
    (h' : a.Holds rows acc') (hrows : ∀ r ∈ rows, a.TakesIntegers r)
    (hlength : rows.length < 2 ^ 32) :
    ∃ v v', acc.result = .ok v ∧ acc'.result = .ok v' ∧ v.SameNumber v' := by
  cases h with
  | extreme hfresh hbest =>
    cases h' with
    | extreme hfresh' hbest' =>
      -- Both started from one aggregate, so they are of one kind; the other kinds are excluded
      -- alike.
      obtain ⟨rfl, -⟩ := Accumulator.extreme.inj (hfresh.symm.trans hfresh')
      exact ⟨_, _, rfl, rfl, hbest.sameNumber hbest'⟩
    | _ hfresh' => exact nomatch hfresh.symm.trans hfresh'
  | total hfresh hsum =>
    cases h' with
    | total _ hsum' => exact ⟨_, _, rfl, rfl, hsum.sameNumber hsum'⟩
    | _ hfresh' => exact nomatch hfresh.symm.trans hfresh'
  | mean hfresh hmean =>
    cases h' with
    | mean _ hmean' =>
      obtain ⟨v, hv, hself⟩ := exists_result_mean _ _
      -- Over integers the exact totals determine their decimals, and so the mean.
      have hintegers := takesIntegers_avg hplaced (eq_avg_of_fresh (.inl hfresh)) hrows
      obtain ⟨rfl, rfl⟩ := hmean.eq_of_isInteger hmean' hintegers
      exact ⟨v, v, hv, hv, .refl hself⟩
    | _ hfresh' => exact nomatch hfresh.symm.trans hfresh'
  | distinctCount hfresh hseen =>
    cases h' with
    | @distinctCount seen' _ hseen' =>
      have hlen := (hseen.perm hseen').length_eq
      refine ⟨_, _, rfl, rfl, ?_⟩
      rw [hlen]
      exact .whole rfl rfl
    | _ hfresh' => exact nomatch hfresh.symm.trans hfresh'
  | distinctSum hfresh hseen =>
    cases h' with
    | distinctSum _ hseen' =>
      exact ⟨_, _, rfl, rfl, sumOf_sameNumber (hseen.perm hseen') hseen.isInteger
        (Nat.lt_of_le_of_lt hseen.length_le hlength)⟩
    | _ hfresh' => exact nomatch hfresh.symm.trans hfresh'
  | distinctMean hfresh hseen =>
    cases h' with
    | distinctMean _ hseen' =>
      obtain ⟨v, hv, hv', hself⟩ := meanOf_perm (hseen.perm hseen') hseen.isInteger
        (Nat.lt_of_le_of_lt hseen.length_le hlength)
      exact ⟨v, v, hv, hv', .refl hself⟩
    | _ hfresh' => exact nomatch hfresh.symm.trans hfresh'

/-- Means of the same integers are the same. -/
theorem Holds.result_eq_of_avg (hplaced : a.IsPlaced) (havg : a.function = .avg)
    (h : a.Holds rows acc) (h' : a.Holds rows acc') (hrows : ∀ r ∈ rows, a.TakesIntegers r)
    (hlength : rows.length < 2 ^ 32) : acc.result = acc'.result := by
  cases h with
  | mean hfresh hmean =>
    cases h' with
    | mean _ hmean' =>
      obtain ⟨rfl, rfl⟩ := hmean.eq_of_isInteger hmean' (takesIntegers_avg hplaced havg hrows)
      rfl
    | _ hfresh' => cases hfresh.symm.trans hfresh'
  | distinctMean hfresh hseen =>
    cases h' with
    | distinctMean _ hseen' =>
      obtain ⟨v, hv, hv', -⟩ := meanOf_perm (hseen.perm hseen') hseen.isInteger
        (Nat.lt_of_le_of_lt hseen.length_le hlength)
      exact hv.trans hv'.symm
    | _ hfresh' => cases hfresh.symm.trans hfresh'
  | _ hfresh => exact absurd havg (ne_avg_of_fresh hfresh (by simp) (by simp))

/-! ### Rows taken in one after another -/

/-- What the accumulator of an aggregate becomes by taking in these rows. -/
def taken (a : PlacedAggregate) (rows : List Row) : Accumulator :=
  (rows.map fun row => a.inputs.map (cellAt row)).foldl (fun acc inputs => (acc.feed inputs).2)
    (.fresh a.function a.distinct)

/-- One more row at the end is taken in last. -/
theorem taken_concat (a : PlacedAggregate) (rows : List Row) (row : Row) :
    a.taken (rows ++ [row]) = ((a.taken rows).feed (a.inputs.map (cellAt row))).2 := by
  rw [taken, taken, List.map_append, List.foldl_append]
  rfl

/-- The accumulator of an aggregate takes in these rows one after another without failing. -/
def Feeds (a : PlacedAggregate) (rows : List Row) : Prop :=
  ∀ before row, before ++ [row] <+: rows →
    (a.taken before).feed (a.inputs.map (cellAt row)) = (.ok (), a.taken (before ++ [row]))

/-- **What every row leads to from the rows before it holds of all rows**, which are taken in. -/
theorem feeds_of_step {P : List Row → Accumulator → Prop} (hfresh : P [] (a.taken []))
    (hstep : ∀ before row acc, before ++ [row] <+: rows → P before acc →
      ∃ acc', acc.feed (a.inputs.map (cellAt row)) = (.ok (), acc') ∧ P (before ++ [row]) acc') :
    a.Feeds rows ∧ P rows (a.taken rows) := by
  have hfronts : ∀ front, front <+: rows → P front (a.taken front) := by
    simp only [taken, List.foldl_map] at hfresh ⊢
    refine forall_front_foldl hfresh fun before row held hfront hbefore => ?_
    obtain ⟨next, hfeed, hnext⟩ := hstep before row held hfront hbefore
    rwa [hfeed]
  refine ⟨fun before row hfront => ?_, hfronts rows List.prefix_rfl⟩
  have hbefore := hfronts before ((List.prefix_append _ _).trans hfront)
  obtain ⟨next, hfeed, -⟩ := hstep before row _ hfront hbefore
  rw [taken_concat, hfeed]

/-- Row by row, what is held stays the aggregate of the rows before. -/
theorem feeds_and_holds_taken (hplaced : a.IsPlaced) (hrows : ∀ r ∈ rows, a.Takes r)
    (hlength : rows.length < 2 ^ 32) : a.Feeds rows ∧ a.Holds rows (a.taken rows) := by
  refine feeds_of_step a.holds_fresh fun before row acc hfront hholds => ?_
  have hperm : row :: before ~ before ++ [row] := (List.perm_append_singleton row before).symm
  obtain ⟨acc', hfeed, hholds'⟩ := hholds.exists_feed_eq hplaced
    (fun r hr => hrows r (hfront.subset (hperm.mem_iff.1 hr)))
    (Nat.lt_of_le_of_lt (hperm.length_eq ▸ hfront.length_le) hlength)
  exact ⟨acc', hfeed, hholds'.perm hperm⟩

/-- **Rows whose inputs are whole numbers are taken in.** -/
theorem feeds (hplaced : a.IsPlaced) (hrows : ∀ r ∈ rows, a.Takes r)
    (hlength : rows.length < 2 ^ 32) : a.Feeds rows :=
  (feeds_and_holds_taken hplaced hrows hlength).1

/-- **What took in rows holds their aggregate.** -/
theorem holds_taken (hplaced : a.IsPlaced) (hrows : ∀ r ∈ rows, a.Takes r)
    (hlength : rows.length < 2 ^ 32) : a.Holds rows (a.taken rows) :=
  (feeds_and_holds_taken hplaced hrows hlength).2

/-- Whatever order the rows were taken in, it is their aggregate that is held. -/
theorem holds_taken_of_perm {rows' : List Row} (hplaced : a.IsPlaced) (hperm : rows' ~ rows)
    (hrows : ∀ r ∈ rows, a.Takes r) (hlength : rows.length < 2 ^ 32) :
    a.Holds rows (a.taken rows') :=
  (holds_taken hplaced (fun r hr => hrows r (hperm.mem_iff.1 hr))
    (hperm.length_eq ▸ hlength)).perm hperm

/-- **The same integers in another order** have one number for an aggregate. -/
theorem exists_result_taken_of_perm {rows' : List Row} (hplaced : a.IsPlaced)
    (hperm : rows' ~ rows) (hrows : ∀ r ∈ rows, a.TakesIntegers r)
    (hlength : rows.length < 2 ^ 32) :
    ∃ v' v, (a.taken rows').result = .ok v' ∧ (a.taken rows).result = .ok v ∧
      v'.SameNumber v := by
  have htakes : ∀ r ∈ rows, a.Takes r := fun r hr => (hrows r hr).takes
  exact (holds_taken_of_perm hplaced hperm htakes hlength).result_sameNumber hplaced
    (holds_taken hplaced htakes hlength) hrows hlength

/-- **An aggregate whose own column holds one value** is the same in whichever order: a mean reads
other columns, and any other aggregate takes in that value again and again. -/
theorem result_taken_of_perm {rows' : List Row} (hplaced : a.IsPlaced)
    (hperm : rows' ~ rows) (hrows : ∀ r ∈ rows, a.TakesIntegers r)
    (hlength : rows.length < 2 ^ 32)
    (hone : a.function ≠ .avg → ∃ v, ∀ r ∈ rows, cellAt r a.index = v) :
    (a.taken rows').result = (a.taken rows).result := by
  by_cases havg : a.function = .avg
  · have htakes : ∀ r ∈ rows, a.Takes r := fun r hr => (hrows r hr).takes
    exact (holds_taken_of_perm hplaced hperm htakes hlength).result_eq_of_avg hplaced havg
      (holds_taken hplaced htakes hlength) hrows hlength
  · obtain ⟨v, hv⟩ := hone havg
    have hinputs : a.inputs = [a.index] := by
      rw [hplaced.inputs_eq havg, hplaced.column_eq havg]
    have hconst : ∀ l : List Row, (∀ r ∈ l, r ∈ rows) →
        (l.map fun row => a.inputs.map (cellAt row)) = List.replicate l.length [v] := by
      intro l hl
      refine List.map_eq_replicate_iff.2 fun r hr => ?_
      rw [hinputs, List.map_singleton, hv r (hl r hr)]
    rw [taken, taken, hconst rows' fun r hr => hperm.mem_iff.1 hr, hconst rows fun r hr => hr,
      hperm.length_eq]

end PlacedAggregate

end ScatterGather
