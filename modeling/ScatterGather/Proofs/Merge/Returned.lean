import ScatterGather.Proofs.Merge.Positions

/-!
# Proofs/Merge/Returned — failures that a merge hands back

Adding values, comparing them, deciding HAVING, finding columns and numbers of rows fail in many
ways, and the caller gets every one of these failures (`FailsReturned`).  The same holds of reading
results one after another or in order, as long as what breaks a result is handed back itself
(`OrderedStream.IsSound.next`, `BaseCursor.nextChained_within`).

The one failure that is not handed back comes from adding up a mean.  `Error.ArisesIf` leaves room
for it, under a condition that says where it may come from.
-/

namespace ScatterGather

open scoped List

/-- A computation that fails only in ways that the caller gets. -/
abbrev FailsReturned {α : Type} (x : Except Error α) : Prop :=
  EndsWithin (fun e => e.isReturned = true) (fun _ => True) x

/-- A failure that the caller gets, or an overflow where one may be. -/
def Error.ArisesIf (overflows : Prop) (e : Error) : Prop :=
  e.isReturned = true ∨ e = .additionOverflow ∧ overflows

section ArisesIf

variable {α : Type} {P : α → Prop} {x : Except Error α} {p q : Prop} {e : Error}

/-- A wider condition allows as much. -/
theorem Error.ArisesIf.imp (h : e.ArisesIf p) (hpq : p → q) : e.ArisesIf q :=
  h.imp_right (And.imp_right hpq)

theorem EndsWithin.arisesIf (h : EndsWithin (fun e => e.isReturned = true) P x) (q : Prop) :
    EndsWithin (Error.ArisesIf q) P x :=
  h.mono (fun _ he => .inl he) fun _ ha => ha

theorem EndsWithin.imp (h : EndsWithin (Error.ArisesIf p) P x) (hpq : p → q) :
    EndsWithin (Error.ArisesIf q) P x :=
  h.mono (fun _ he => he.imp hpq) fun _ ha => ha

end ArisesIf

/-! ## Values

Here the sum of a SUM and the total of a mean part ways: adding two cells is a step that may fail,
adding two decimals is not. -/

/-- **A sum of cells that does not fit** is a failure like any other. -/
theorem Value.failsReturned_add (a b : Value) : FailsReturned (a.add b) := by
  have hdecimals : FailsReturned (sumDecimals a b) := by
    rw [sumDecimals]
    split
    · split
      · trivial
      · exact rfl
    · exact rfl
  rw [add]
  split
  · trivial
  · split
    · split
      · trivial
      · exact hdecimals
    · exact hdecimals

theorem Accumulator.failsReturned_better (least : Bool) (best : Option Value) (v : Value) :
    FailsReturned (better least best v) := by
  rw [better.eq_def]
  split
  · exact rfl
  · split
    · trivial
    · split
      · exact rfl
      · trivial

theorem Accumulator.failsReturned_plus (sum : Option Value) (v : Value) :
    FailsReturned (plus sum v) := by
  cases sum <;> exact Value.failsReturned_add _ _

/-- A cell that is taken for a number is one. -/
theorem Accumulator.failsReturned_number (v : Value) :
    EndsWithin (fun e => e.isReturned = true) (fun d => v.decimal? = some d) (number v) := by
  rw [number]
  split
  · next hd => exact hd
  · exact rfl

/-! ## HAVING

A condition fails where an operand has no value, where two values have no order and where the cell
of a column cannot be shown.  The last is up to the cursor below, so it is a hypothesis here. -/

theorem Expression.failsReturned_resolve (parameters : List Value) (e : Expression) :
    FailsReturned (e.resolve parameters) := by
  cases e with
  | parameter index =>
    rw [resolve]
    split
    · trivial
    · exact rfl
  | _ => trivial

namespace Having

variable {h : Having} {value : Nat → Except Error Value}

theorem failsReturned_cell (hvalue : ∀ i, FailsReturned (value i)) (label : String) :
    FailsReturned (h.cell value label) := by
  rw [cell]
  split
  · exact hvalue _
  · exact rfl

theorem failsReturned_operand (e : Expression) : FailsReturned (h.operand e) := by
  refine (e.failsReturned_resolve h.parameters).bind fun v _ => ?_
  cases v with
  | none => exact rfl
  | some v => trivial

theorem failsReturned_comparison (hvalue : ∀ i, FailsReturned (value i)) (op : Comparison)
    (column : String) (e : Expression) : FailsReturned (h.comparison value op column e) := by
  refine (failsReturned_cell hvalue column).bind fun v _ =>
    (failsReturned_operand e).bind fun w _ => ?_
  split
  · trivial
  · split
    · trivial
    · exact rfl

/-- Operands are decided one by one, up to the first that is equal. -/
theorem failsReturned_isAmong (v : Value) (operands : List Expression) :
    FailsReturned (h.isAmong v operands) := by
  induction operands with
  | nil => trivial
  | cons e rest ih =>
    refine (failsReturned_operand e).bind fun w _ => ?_
    split
    · trivial
    · exact ih

theorem failsReturned_predicate (hvalue : ∀ i, FailsReturned (value i)) (p : Predicate) :
    FailsReturned (h.predicate value p) := by
  have hcell := fun label => failsReturned_cell (h := h) hvalue label
  cases p with
  | compare op column e => exact failsReturned_comparison hvalue op column e
  | between column low high =>
    refine (failsReturned_comparison hvalue _ column low).bind fun b _ => ?_
    split
    · exact failsReturned_comparison hvalue _ column high
    · trivial
  | like column pattern =>
    refine (hcell column).bind fun v _ => ?_
    split <;> trivial
  | among column operands =>
    refine (hcell column).bind fun v _ => ?_
    split
    · trivial
    · exact failsReturned_isAmong v operands
  | isNull column => exact (hcell column).bind fun v _ => trivial
  | isNotNull column => exact (hcell column).bind fun v _ => trivial

/-- **HAVING fails only in ways that the caller gets**, where the cells it looks at do. -/
theorem failsReturned_decide (hvalue : ∀ i, FailsReturned (value i)) (c : Condition) :
    FailsReturned (h.decide value c) := by
  induction c with
  | test p => exact failsReturned_predicate hvalue p
  | and left right ihl ihr =>
    refine ihl.bind fun b _ => ?_
    split
    · exact ihr
    · trivial
  | or left right ihl ihr =>
    refine ihl.bind fun b _ => ?_
    split
    · trivial
    · exact ihr

end Having

/-! ## Columns and numbers of rows

What is looked up before the first row is merged: the columns of the sort keys, and the offset and
the row count of the window. -/

theorem OrderItem.failsReturned_column (labels : List String) (item : OrderItem) :
    FailsReturned (item.column labels) := by
  rw [column]
  split
  · trivial
  · split
    · trivial
    · exact rfl
  · split
    · trivial
    · exact rfl

/-- Sort keys are found, or one of their columns is not there. -/
theorem failsReturned_sortKeys (items : List OrderItem) (labels : List String)
    (caseSensitive : List Bool) : FailsReturned (sortKeys items labels caseSensitive) := by
  refine (EndsWithin.mapM (R := fun _ _ => True) fun item _ => ?_).mono (fun _ h => h)
    fun _ _ => trivial
  exact (item.failsReturned_column labels).map fun _ _ => trivial

theorem PageSegment.failsReturned_resolve (s : PageSegment) (parameters : List Value) :
    FailsReturned (s.resolve parameters) := by
  rw [resolve]
  split
  · trivial
  · split
    · exact rfl
    · split
      · split
        · trivial
        · exact rfl
      · exact rfl

theorem Pagination.failsReturned_offsetRows (p : Pagination) (parameters : List Value) :
    FailsReturned (p.offsetRows parameters) := by
  rw [offsetRows]
  split
  · trivial
  · exact (PageSegment.failsReturned_resolve _ parameters).bind fun _ _ => trivial

theorem Pagination.failsReturned_rowLimit (p : Pagination) (parameters : List Value) :
    FailsReturned (p.rowLimit parameters) := by
  rw [rowLimit]
  split
  · trivial
  · exact (PageSegment.failsReturned_resolve _ parameters).bind fun _ _ => trivial

/-! ## Rows of results

A row is read cell by cell, and a cell may be missing; what can be read is the row itself
(`visibleCells`).  Results in order are read ahead, so a stream may fail with the failure of any
result that it still holds. -/

/-- A cell that can be read is that of the row. -/
theorem PartialResult.value_within (r : PartialResult) (i : Nat) :
    EndsWithin (fun e => e.isReturned = true) (· = cellAt (r.current.getD []) i) (r.value i) := by
  rw [PartialResult.value]
  cases hcurrent : r.current with
  | none => exact rfl
  | some row =>
    dsimp only
    cases hcell : row[i]? with
    | none => exact rfl
    | some v =>
      change v = row.getD i .null
      rw [List.getD_eq_getElem?_getD, hcell, Option.getD_some]

/-- Cells that can be read are those of the row, from its first on. -/
theorem PartialResult.mapM_value_within (r : PartialResult) (width : Nat) :
    EndsWithin (fun e => e.isReturned = true) (· = visibleCells width (r.current.getD []))
      ((List.range width).mapM r.value) := by
  refine (EndsWithin.mapM fun i _ => r.value_within i).mono (fun _ he => he) fun row hrow => ?_
  have heq : List.Forall₂ (· = ·) row ((List.range width).map (cellAt (r.current.getD []))) :=
    List.forall₂_map_right_iff.2 hrow.flip
  rwa [List.forall₂_eq_eq_eq] at heq

/-- Reading on fails where the result breaks or the row lacks a cell of the keys. -/
theorem Positioned.failsReturned_read (keys : List SortKey) {r : PartialResult}
    (hr : ∀ e ∈ r.failure, e.isReturned = true) : FailsReturned (read keys r) := by
  obtain ⟨labels, current, rows, failure⟩ := r
  cases rows with
  | nil =>
    cases failure with
    | none => trivial
    | some e => exact hr e rfl
  | cons row rows =>
    have hcells := EndsWithin.mapM fun (k : SortKey) (_ : k ∈ keys) =>
      PartialResult.value_within ⟨labels, some row, rows, failure⟩ k.index
    exact hcells.map fun _ _ => trivial

namespace OrderedStream

variable {s : OrderedStream}

/-- The queue has its shape, and reading on fails only in ways that the caller gets. -/
structure IsSound (s : OrderedStream) : Prop where
  full : s.queue.IsFull
  returned : ∀ p ∈ s.held, ∀ e ∈ p.result.failure, e.isReturned = true

/-- The first row of the queue is shown, and its result is held as before. -/
theorem IsSound.advance (h : s.IsSound) (hcurrent : s.current = none) :
    EndsWithin (fun e => e.isReturned = true) (fun _ => s.advance.2.IsSound) s.advance.1 := by
  have hheld : s.held = s.queue.toList := by
    rw [held, hcurrent, Option.toList_none, List.nil_append]
  obtain ⟨-, hnext⟩ | ⟨p, queue, hqueue, hperm, hnext⟩ := advance_cases h.full
  · rw [hnext]
    exact ⟨h.full, fun p hp => h.returned p (hheld ▸ hp)⟩
  · rw [hnext]
    exact ⟨hqueue, fun p hp => h.returned p (hheld ▸ hperm.symm.subset hp)⟩

/-- The stream with its current result back in the queue, or without it at its end. -/
theorem IsSound.pushed {c : Positioned} {o : Option Positioned} (h : s.IsSound)
    (hcurrent : s.current = some c) (hread : Positioned.read s.keys c.result = .ok o) :
    IsSound { s with queue := s.pushed o, current := none } := by
  obtain ⟨hfull, hperm⟩ := isFull_pushed h.full o
  refine ⟨hfull, fun p hp => ?_⟩
  obtain hp | hp := List.mem_append.1 (hperm.subset hp)
  · rw [(Positioned.read_eq_ok_some (hread.trans (congrArg _ (Option.mem_toList.1 hp)))).2]
    exact h.returned c (by simp [held, hcurrent])
  · exact h.returned p (List.mem_append_right _ hp)

/-- **A step of a sound stream** fails only in ways that the caller gets. -/
theorem IsSound.next (h : s.IsSound) :
    EndsWithin (fun e => e.isReturned = true) (fun _ => s.next.2.IsSound) s.next.1 := by
  obtain ⟨hcurrent, hnext⟩ | ⟨c, hcurrent, ⟨e, hread, hnext⟩ | ⟨o, hread, hnext⟩⟩ := s.next_cases
  · rw [hnext]
    exact h.advance hcurrent
  · rw [hnext]
    exact (Positioned.failsReturned_read s.keys
      (h.returned c (by simp [held, hcurrent]))).of_eq_error hread
  · rw [hnext]
    exact (h.pushed hcurrent hread).advance rfl

/-- **A step to a row** stands on a row that was to come. -/
theorem IsSound.of_next {t : OrderedStream} (h : s.IsSound) (hnext : s.next = (.ok true, t)) :
    t.IsSound ∧ t.remaining < s.remaining ∧
      ∃ p, t.current = some p ∧ s.toCome ~ p.row :: t.toCome := by
  have hsound := h.next
  have hstep := (next_step h.full).2
  rw [hnext] at hsound hstep
  obtain ⟨p, hp, hrows⟩ := hstep rfl
  exact ⟨hsound, remaining_lt_of_perm hrows, p, hp, hrows⟩

/-- The queue takes in the first rows of results whose failures the caller gets. -/
theorem enqueueAll_within {keys : List SortKey} {results : List PartialResult}
    {queue : Queue Positioned} (hfull : queue.IsFull)
    (hqueue : ∀ p ∈ queue.toList, ∀ e ∈ p.result.failure, e.isReturned = true)
    (hresults : ∀ r ∈ results, ∀ e ∈ r.failure, e.isReturned = true) :
    EndsWithin (fun e => e.isReturned = true)
      (fun queue' => queue'.IsFull ∧
        (∀ p ∈ queue'.toList, ∀ e ∈ p.result.failure, e.isReturned = true) ∧
        queue'.toList.flatMap Positioned.rows ~
          queue.toList.flatMap Positioned.rows ++ results.flatMap (·.rows))
      (enqueueAll keys queue results) := by
  induction results generalizing queue with
  | nil => exact ⟨hfull, hqueue, by rw [List.flatMap_nil, List.append_nil]⟩
  | cons r rest ih =>
    obtain ⟨hr, hrest⟩ := List.forall_mem_cons.1 hresults
    rw [enqueueAll]
    cases hread : Positioned.read keys r with
    | error e => exact (Positioned.failsReturned_read keys hr).of_eq_error hread
    | ok o =>
      cases o with
      | none =>
        rw [List.flatMap_cons, (Positioned.read_eq_ok_none hread).1, List.nil_append]
        exact ih hfull hqueue hrest
      | some p =>
        obtain ⟨hrows, hfailure⟩ := Positioned.read_eq_ok_some hread
        have hpush : (queue.push (Positioned.precedes keys) p).IsFull ∧
            (queue.push (Positioned.precedes keys) p).toList ~ p :: queue.toList := hfull.push
        -- A first row joins the queue with its result behind it, and neither has been shown yet.
        obtain ⟨hpushed, hperm⟩ := hpush
        refine (ih hpushed (fun q hq => ?_) hrest).mono (fun _ he => he) fun queue' h' => ?_
        · obtain rfl | hq := List.mem_cons.1 (hperm.subset hq)
          · rwa [hfailure]
          · exact hqueue q hq
        · obtain ⟨hfull', hqueue', hrows'⟩ := h'
          refine ⟨hfull', hqueue', hrows'.trans ?_⟩
          rw [List.flatMap_cons, ← List.append_assoc, ← hrows]
          exact ((hperm.flatMap_right Positioned.rows).trans List.perm_append_comm).append_right _

/-- **A merge of sorted results** starts before all of their rows. -/
theorem ofResults_within (keys : List SortKey) {results : List PartialResult}
    (hresults : ∀ r ∈ results, ∀ e ∈ r.failure, e.isReturned = true) :
    EndsWithin (fun e => e.isReturned = true)
      (fun s => s.IsSound ∧ s.toCome ~ results.flatMap (·.rows)) (ofResults keys results) := by
  refine (enqueueAll_within Queue.isFull_empty ?_ hresults).map fun queue hqueue => ?_
  · exact fun p hp => absurd hp List.not_mem_nil
  · obtain ⟨hfull, hreturned, hrows⟩ := hqueue
    refine ⟨⟨hfull, hreturned⟩, ?_⟩
    rw [toCome_eq_flatMap rfl]
    exact hrows

end OrderedStream

namespace BaseCursor

/-- A chain of results fails as the one that it is reading does. -/
theorem nextChained_within {results : List PartialResult}
    (h : ∀ r ∈ results, ∀ e ∈ r.failure, e.isReturned = true) :
    EndsWithin (fun e => e.isReturned = true)
      (fun _ => ∀ r ∈ (nextChained results).2, ∀ e ∈ r.failure, e.isReturned = true)
      (nextChained results).1 := by
  induction results with
  | nil => exact h
  | cons r rest ih =>
    obtain ⟨labels, current, rows, failure⟩ := r
    obtain ⟨hr, hrest⟩ := List.forall_mem_cons.1 h
    cases rows with
    | cons row rows => exact List.forall_mem_cons.2 ⟨hr, hrest⟩
    | nil =>
      cases failure with
      | some e => exact hr e rfl
      | none => exact ih hrest

theorem failsReturned_shownCell (row : Option Row) (index : Nat) :
    FailsReturned (shownCell row index) := by
  cases row with
  | none => exact rfl
  | some row => trivial

/-- A cell that cannot be shown is a failure that the caller gets. -/
theorem failsReturned_value (c : BaseCursor) (index : Nat) : FailsReturned (c.value index) := by
  have hresult : ∀ r : PartialResult, FailsReturned (r.value index) := fun r =>
    (r.value_within index).mono (fun _ he => he) fun _ _ => trivial
  cases c with
  | chained results =>
    cases results with
    | nil => exact rfl
    | cons r rest => exact hresult r
  | ordered s =>
    rw [value, OrderedStream.value]
    split
    · exact rfl
    · exact hresult _
  | grouped g => exact failsReturned_shownCell _ _
  | buffered rows current => exact failsReturned_shownCell _ _

end BaseCursor

end ScatterGather
