import ScatterGather.Merge.Accumulator
import ScatterGather.Proofs.Outcome

/-!
# Proofs/Merge/Rejection — what a rejected row leaves behind

An accumulator that rejects a row goes on with the next one.  It should then be as if the row had
never come, and so it is for every aggregate but AVG, which counts a row before it looks at its sum.
`showsAs_of_rejected` says **which rows leave a trace** (`LeavesTrace`) and what the trace is;
after any other row that was rejected, every result is what it would have been without the row.
-/

namespace ScatterGather

namespace Accumulator

variable {acc acc' : Accumulator} {row inputs : List Value} {rows later : List (List Value)}
  {count count' sum : Option Decimal} {real : Bool} {c s : Value} {e : Error}

/-! ## Rows one after another

The merge stops at the first row that is rejected, but an accumulator by itself goes on. -/

/-- The accumulator after these rows, whether or not it rejected some of them. -/
def after (acc : Accumulator) (rows : List (List Value)) : Accumulator :=
  rows.foldl (fun acc inputs => (acc.feed inputs).2) acc

/-- None of the rows is rejected. -/
def Accepts (acc : Accumulator) (rows : List (List Value)) : Prop :=
  ∀ before row, before ++ [row] <+: rows → ((acc.after before).feed row).1 = .ok ()

theorem after_append (acc : Accumulator) (rows later : List (List Value)) :
    acc.after (rows ++ later) = (acc.after rows).after later := List.foldl_append

theorem after_concat (acc : Accumulator) (rows : List (List Value)) (row : List Value) :
    acc.after (rows ++ [row]) = ((acc.after rows).feed row).2 := acc.after_append rows [row]

/-- **What every row leads to from the rows before it holds of all rows**, and none is rejected. -/
theorem accepts_of_step {P : List (List Value) → Accumulator → Prop} (hstart : P [] acc)
    (hstep : ∀ before row held, before ++ [row] <+: rows → P before held →
      ∃ next, held.feed row = (.ok (), next) ∧ P (before ++ [row]) next) :
    acc.Accepts rows ∧ P rows (acc.after rows) := by
  have hfronts : ∀ front, front <+: rows → P front (acc.after front) := by
    refine forall_front_foldl hstart fun before row held hfront hbefore => ?_
    obtain ⟨next, hfeed, hnext⟩ := hstep before row held hfront hbefore
    rwa [hfeed]
  refine ⟨fun before row hfront => ?_, hfronts rows List.prefix_rfl⟩
  have hbefore := hfronts before ((List.prefix_append _ _).trans hfront)
  obtain ⟨next, hfeed, -⟩ := hstep before row _ hfront hbefore
  rw [hfeed]

/-! ## Accumulators that act alike

A mean that has counted rows of count zero acts like one that has counted none: adding to a zero
gives the other summand as it is, and neither has a result. -/

/-- No row tells the two apart: they are one, or two means that have counted nothing. -/
inductive ActsLike : Accumulator → Accumulator → Prop
  | refl (acc : Accumulator) : ActsLike acc acc
  | uncounted {count count' sum : Option Decimal} {real : Bool} :
      (count.getD .zero).isZero = true → (count'.getD .zero).isZero = true →
        ActsLike (mean count sum real) (mean count' sum real)

/-- Adding to a zero gives the other summand. -/
theorem bind_addExact_of_isZero {zero : Decimal} (h : zero.isZero = true)
    (d : Except Error Decimal) : d.bind (addExact zero) = d := by
  cases d with
  | error e => rfl
  | ok d => simp [Except.bind, addExact, Decimal.add?, h]

/-- A mean that has counted nothing has no result. -/
theorem result_of_uncounted (h : (count.getD .zero).isZero = true) :
    (mean count sum real).result = .ok .null := by
  cases count with
  | none => rfl
  | some count =>
    cases sum with
    | none => rfl
    | some sum => exact congrArg Except.ok (if_pos h)

theorem ActsLike.result_eq (h : acc.ActsLike acc') : acc.result = acc'.result := by
  cases h with
  | refl => rfl
  | uncounted hcount hcount' => rw [result_of_uncounted hcount, result_of_uncounted hcount']

/-- **Both take a row in or both reject it**, and act alike afterwards. -/
theorem ActsLike.feed (h : acc.ActsLike acc') (inputs : List Value) :
    (acc.feed inputs).1 = (acc'.feed inputs).1 ∧
      (acc.feed inputs).2.ActsLike (acc'.feed inputs).2 := by
  cases h with
  | refl => exact ⟨rfl, .refl _⟩
  | uncounted hcount hcount' =>
    match inputs with
    | [] | [_] => exact ⟨rfl, .uncounted hcount hcount'⟩
    | c :: s :: _ =>
      simp only [Accumulator.feed, feedMean, bind_addExact_of_isZero hcount,
        bind_addExact_of_isZero hcount']
      split
      · exact ⟨rfl, .uncounted hcount hcount'⟩
      · cases number c with
        | error e => exact ⟨rfl, .uncounted hcount hcount'⟩
        | ok d => exact ⟨rfl, .refl _⟩

/-- The two show the same result, and take in or reject the same next rows. -/
def ShowsAs (acc acc' : Accumulator) : Prop :=
  acc.result = acc'.result ∧ ∀ inputs, (acc.feed inputs).1 = (acc'.feed inputs).1

theorem ActsLike.showsAs (h : acc.ActsLike acc') : acc.ShowsAs acc' :=
  ⟨h.result_eq, fun inputs => (h.feed inputs).1⟩

theorem ActsLike.after (h : acc.ActsLike acc') (rows : List (List Value)) :
    (acc.after rows).ActsLike (acc'.after rows) := by
  induction rows generalizing acc acc' with
  | nil => exact h
  | cons row rows ih => exact ih (h.feed row).2

/-! ## Rejected rows

A mean counts before it adds.  So a row whose count can be taken and whose sum cannot leaves its
count behind; every other accumulator decides first and changes afterwards. -/

/-- The total of counts with one more count, if that is a number and the total fits. -/
def counted? (count : Option Decimal) (c : Value) : Option Decimal :=
  c.decimal?.bind (count.getD .zero).add?

/-- Rejecting the row, a mean keeps something of it: that its sum is a double, which none was
before, or its count, if that is a number other than zero that could be added. -/
def LeavesTrace : Accumulator → List Value → Prop
  | mean count _ real, c :: s :: _ =>
    c.isNull = false ∧ s.isNull = false ∧
      ((real = false ∧ s.isReal = true) ∨
        (c.decimal?.any fun d => !d.isZero) = true ∧ (counted? count c).isSome = true)
  | _, _ => False

theorem toOption_counted (count : Option Decimal) (c : Value) :
    ((number c).bind (addExact (count.getD .zero))).toOption = counted? count c := by
  rw [counted?, number]
  cases c.decimal? with
  | none => rfl
  | some d =>
    simp only [Except.bind, addExact, Option.bind_some]
    cases (count.getD .zero).add? d <;> rfl

/-- **A mean that rejects a row has counted it**, as far as that was possible, and has noted whether
its sum is a double. -/
theorem feedMean_of_error (h : feedMean count sum real c s = (.error e, acc')) :
    c.isNull = false ∧ s.isNull = false ∧
      acc' = mean ((counted? count c).or count) sum (real || s.isReal) := by
  have hcounted := toOption_counted count c
  rw [feedMean] at h
  split at h
  · cases h
  · rename_i hnull
    obtain ⟨hc, hs⟩ := Bool.or_eq_false_iff.1 (Bool.eq_false_iff.2 hnull)
    refine ⟨hc, hs, ?_⟩
    cases hcount : (number c).bind (addExact (count.getD .zero)) with
    | error _ =>
      rw [hcount] at h hcounted
      obtain ⟨-, rfl⟩ := Prod.mk.inj h
      rw [← hcounted]
      rfl
    | ok d =>
      rw [hcount] at h hcounted
      rw [← hcounted]
      simp only at h
      split at h
      · obtain ⟨-, rfl⟩ := Prod.mk.inj h
        rfl
      · cases h

/-- **Any other accumulator that rejects a row stays as it is**, and so does a mean that rejects a
row without a count and a sum. -/
theorem feed_of_error (h : acc.feed inputs = (.error e, acc')) :
    acc' = acc ∨ ∃ count sum real c s rest, acc = mean count sum real ∧ inputs = c :: s :: rest ∧
      c.isNull = false ∧ s.isNull = false ∧
        acc' = mean ((counted? count c).or count) sum (real || s.isReal) := by
  cases acc with
  | mean count sum real =>
    match inputs with
    | [] | [_] => exact .inl (Prod.mk.inj h).2.symm
    | c :: s :: rest => exact .inr ⟨count, sum, real, c, s, rest, rfl, rfl, feedMean_of_error h⟩
  | extreme _ _ | total _ | distinctSum _ | distinctMean _ =>
    left
    rw [feed] at h
    split at h
    · cases h
    · split at h
      · exact (Prod.mk.inj h).2.symm
      · cases h
  | distinctCount _ =>
    rw [feed] at h
    split at h <;> cases h

/-- A count that is no number or zero, or that does not fit, leaves a mean that acts the same. -/
theorem actsLike_counted
    (h : (c.decimal?.any fun d => !d.isZero) = true → (counted? count c).isSome = false) :
    (mean ((counted? count c).or count) sum real).ActsLike (mean count sum real) := by
  cases hcounted : counted? count c with
  | none => exact .refl _
  | some total =>
    obtain ⟨d, hd, htotal⟩ := Option.bind_eq_some_iff.1 hcounted
    have hzero : d.isZero = true := by
      by_contra hne
      have hsome := h (by simp [hd, Bool.eq_false_iff.2 hne])
      rw [hcounted] at hsome
      cases hsome
    rw [Decimal.add?] at htotal
    split at htotal
    · rename_i huncounted
      obtain rfl := Option.some.inj htotal
      exact .uncounted hzero huncounted
    · rename_i hcount
      obtain rfl := Option.some.inj htotal
      -- a total other than zero is there, so the total that stays is that one
      cases count with
      | none => exact absurd rfl hcount
      | some count => exact .refl _

theorem actsLike_of_not_leavesTrace (h : acc.feed inputs = (.error e, acc'))
    (htrace : ¬ acc.LeavesTrace inputs) : acc'.ActsLike acc := by
  obtain rfl | ⟨count, sum, real, c, s, rest, rfl, rfl, hc, hs, rfl⟩ := feed_of_error h
  · exact .refl _
  · obtain ⟨hreal, hcount⟩ := not_or.1 fun h => htrace ⟨hc, hs, h⟩
    have hflag : (real || s.isReal) = real := by
      cases real with
      | true => rfl
      | false => exact Bool.eq_false_iff.2 fun h => hreal ⟨rfl, h⟩
    rw [hflag]
    exact actsLike_counted fun h => Bool.eq_false_iff.2 fun hsome => hcount ⟨h, hsome⟩

/-- Whether the accumulator is that of a plain AVG. -/
def isMean : Accumulator → Bool
  | mean _ _ _ => true
  | _ => false

/-- Feeding an accumulator does not change its kind. -/
theorem isMean_feed (acc : Accumulator) (inputs : List Value) :
    (acc.feed inputs).2.isMean = acc.isMean := by
  cases acc with
  | mean count sum real =>
    match inputs with
    | [] | [_] => rfl
    | c :: s :: _ =>
      rw [feed, feedMean]
      split
      · rfl
      · dsimp only
        split
        · rfl
        · split <;> rfl
  | extreme _ _ | total _ | distinctSum _ | distinctMean _ =>
    rw [feed]
    split
    · rfl
    · split <;> rfl
  | distinctCount _ =>
    rw [feed]
    split <;> rfl

theorem isMean_after (acc : Accumulator) (rows : List (List Value)) :
    (acc.after rows).isMean = acc.isMean := by
  induction rows generalizing acc with
  | nil => rfl
  | cons row rows ih => exact (ih _).trans (acc.isMean_feed row)

theorem eq_avg_of_isMean_fresh {f : Aggregate} {distinct : Bool}
    (h : (fresh f distinct).isMean = true) : f = .avg ∧ distinct = false := by
  cases f <;> cases distinct <;> first | exact ⟨rfl, rfl⟩ | cases h

theorem LeavesTrace.exists_eq_mean (h : acc.LeavesTrace inputs) :
    ∃ count sum real c s rest, acc = mean count sum real ∧ inputs = c :: s :: rest := by
  match acc, inputs with
  | mean count sum real, c :: s :: rest => exact ⟨count, sum, real, c, s, rest, rfl, rfl⟩

/-- **A rejected row that leaves no trace might as well not have come**: whatever came before it and
comes after it, every result is the same, and so is whether the next row is rejected.  Only plain
averages keep a trace, of a row whose sum is a double, the first one, or whose count is a number
other than zero: they keep its count and that its sum is a double, but not the sum. -/
theorem showsAs_of_rejected {f : Aggregate} {distinct : Bool} {before : List (List Value)}
    (h : (((fresh f distinct).after before).feed row).1 = .error e) :
    (¬ ((fresh f distinct).after before).LeavesTrace row → ∀ later,
      ((fresh f distinct).after (before ++ row :: later)).ShowsAs
        ((fresh f distinct).after (before ++ later))) ∧
    (((fresh f distinct).after before).LeavesTrace row → f = .avg ∧ distinct = false ∧
      ∃ count sum real c s rest, (fresh f distinct).after before = mean count sum real ∧
        row = c :: s :: rest ∧ (fresh f distinct).after (before ++ [row]) =
          mean ((counted? count c).or count) sum (real || s.isReal)) := by
  have hfeed : ((fresh f distinct).after before).feed row =
      (.error e, (fresh f distinct).after (before ++ [row])) :=
    Prod.ext h (after_concat _ _ _).symm
  refine ⟨fun htrace later => ?_, fun htrace => ?_⟩
  · rw [List.append_cons, after_append _ (before ++ [row]) later, after_append _ before later]
    exact ((actsLike_of_not_leavesTrace hfeed htrace).after later).showsAs
  · obtain ⟨count, sum, real, c, s, rest, hheld, rfl⟩ := htrace.exists_eq_mean
    rw [hheld] at hfeed
    have hmean : (fresh f distinct).isMean = true := by
      rw [← isMean_after _ before, hheld]
      rfl
    obtain ⟨hf, hdistinct⟩ := eq_avg_of_isMean_fresh hmean
    exact ⟨hf, hdistinct, count, sum, real, c, s, rest, hheld, rfl, (feedMean_of_error hfeed).2.2⟩

/-- A count that is a text is rejected without a trace, a sum that is one after its count was
taken in. -/
theorem showsAs_of_rejected_texts :
    (((fresh .avg false).after [[.integer 1, .integer 10]]).feed [.text "x", .integer 1]).1 =
      .error (.notComparable (.notNumeric (.text "x"))) ∧
    (∀ later, ((fresh .avg false).after
        ([[.integer 1, .integer 10]] ++ [.text "x", .integer 1] :: later)).ShowsAs
      ((fresh .avg false).after ([[.integer 1, .integer 10]] ++ later))) ∧
    (((fresh .avg false).after [[.integer 1, .integer 10]]).feed [.integer 1, .text "x"]).1 =
      .error (.notComparable (.notNumeric (.text "x"))) ∧
    ∃ count sum real c s rest,
      (fresh .avg false).after [[.integer 1, .integer 10]] = mean count sum real ∧
        [.integer 1, .text "x"] = c :: s :: rest ∧ (fresh .avg false).after
          ([[.integer 1, .integer 10]] ++ [[.integer 1, .text "x"]]) =
            mean ((counted? count c).or count) sum (real || s.isReal) := by
  have hcount : (((fresh .avg false).after [[.integer 1, .integer 10]]).feed
      [.text "x", .integer 1]).1 = .error (.notComparable (.notNumeric (.text "x"))) := rfl
  have hsum : (((fresh .avg false).after [[.integer 1, .integer 10]]).feed
      [.integer 1, .text "x"]).1 = .error (.notComparable (.notNumeric (.text "x"))) := rfl
  refine ⟨hcount, (showsAs_of_rejected hcount).1 ?_, hsum, ((showsAs_of_rejected hsum).2 ?_).2.2⟩
  · rintro ⟨-, -, ⟨-, hreal⟩ | ⟨hnumber, -⟩⟩
    · cases hreal
    · cases hnumber
  · exact ⟨rfl, rfl, .inr ⟨rfl, rfl⟩⟩

example : ((fresh .avg false).after [[.integer 1, .integer 10], [.integer 1, .text "x"],
    [.integer 1, .integer 20]]).result = .ok (.numeric ⟨false, 10, 0, by decide, by decide⟩) := rfl

end Accumulator

end ScatterGather
