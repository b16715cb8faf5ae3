import ScatterGather.Proofs.Merge.Cursor
import ScatterGather.Proofs.Merge.Resolution
import ScatterGather.Proofs.Value.SameNumber

/-!
# Proofs/Merge/Having — merged rows that HAVING keeps

HAVING looks at the cells of a row and at nothing else, and it does not tell apart the forms of one
number (`Having.toOption_decide_congr`).  So a cursor under HAVING shows **the rows that it keeps**,
in their order (`BaseCursor.Yields.filtered`), as long as it can decide each of them.
-/

namespace ScatterGather

/-- Rows that no comparison tells apart. -/
def Row.Alike (a b : Row) : Prop := ∀ i, (cellAt a i).Alike (cellAt b i)

/-- A cursor shows rows alike as such. -/
theorem Row.Alike.visibleCells {a b : Row} (h : Row.Alike a b) (width : Nat) :
    Row.Alike (visibleCells width a) (visibleCells width b) := by
  intro i
  obtain hlt | hle := Nat.lt_or_ge i width
  · rw [cellAt_visibleCells hlt, cellAt_visibleCells hlt]
    exact h i
  · rw [cellAt_of_length_le ((length_visibleCells width a).trans_le hle),
      cellAt_of_length_le ((length_visibleCells width b).trans_le hle)]
    exact .refl _

namespace Having

/-! ## What a decision depends on

HAVING is decided in three truth values and on cells found by name.  Cells alike are forms of one
number, or the same value: no comparison and no list of values tells them apart, although an error
may name the one form or the other. -/

/-- Whether HAVING keeps a row with these cells. -/
def holds (h : Having) (row : Row) : Except Error Bool := h.keeps fun i => .ok (cellAt row i)

/-- HAVING can be decided of the row. -/
def Decides (h : Having) (row : Row) : Prop := ∃ b, h.holds row = .ok b

instance (h : Having) : DecidablePred h.Decides := fun row =>
  match hrow : h.holds row with
  | .ok b => isTrue ⟨b, hrow⟩
  | .error _ => isFalse fun ⟨_, hb⟩ => nomatch hrow.symm.trans hb

/-- HAVING keeps the row. -/
def admits (h : Having) (row : Row) : Bool := (h.holds row).toOption = some true

/-- Both ways to look at a row find cells alike in the columns of HAVING. -/
def LooksAlike (h : Having) (value value' : Nat → Except Error Value) : Prop :=
  ∀ i < h.labels.length, ∃ v w, value i = .ok v ∧ value' i = .ok w ∧ v.Alike w

section Congr

variable {h : Having} {value value' : Nat → Except Error Value}

theorem LooksAlike.cell_cases (hlooks : h.LooksAlike value value') (label : String) :
    (∃ v w, h.cell value label = .ok v ∧ h.cell value' label = .ok w ∧ v.Alike w) ∨
      ∃ e, h.cell value label = .error e ∧ h.cell value' label = .error e := by
  rw [cell, cell]
  cases hindex : labelIndex? h.labels label with
  | none => exact .inr ⟨_, rfl, rfl⟩
  | some i => exact .inl (hlooks i (labelIndex?_lt hindex))

/-- A comparison finds the same on cells alike. -/
theorem toOption_comparison_congr (hlooks : h.LooksAlike value value') (op : Comparison)
    (column : String) (e : Expression) :
    (h.comparison value op column e).toOption = (h.comparison value' op column e).toOption := by
  rw [comparison, comparison]
  obtain ⟨v, w, hv, hw, halike⟩ | ⟨error, hv, hw⟩ := hlooks.cell_cases column
  · rw [hv, hw]
    cases h.operand e with
    | error _ => rfl
    | ok u =>
      simp only [bind, Except.bind, halike.isNull_eq, halike.order?_congr u]
      split
      · rfl
      · cases w.order? u <;> rfl
  · rw [hv, hw]

/-- Of two cells that look alike, both are among some operands or none. -/
theorem isAmong_congr (h : Having) {v w : Value} (halike : v.Alike w) (operands : List Expression) :
    h.isAmong v operands = h.isAmong w operands := by
  induction operands with
  | nil => rfl
  | cons e rest ih => simp only [isAmong, halike.order?_congr, ih]

/-- A predicate decides alike on rows that look alike. -/
theorem toOption_predicate_congr (hlooks : h.LooksAlike value value') (p : Predicate) :
    (h.predicate value p).toOption = (h.predicate value' p).toOption := by
  cases p with
  | compare op column e => exact toOption_comparison_congr hlooks op column e
  | between column low high =>
    simp only [predicate, toOption_bind, toOption_comparison_congr hlooks,
      apply_ite Except.toOption]
  | like column pattern =>
    rw [predicate, predicate]
    obtain ⟨v, w, hv, hw, rfl | hsame⟩ | ⟨error, hv, hw⟩ := hlooks.cell_cases column
    · rw [hv, hw]
    · rw [hv, hw]
      cases hsame with
      | refl _ => rfl
      | whole hv hw =>
        obtain ⟨_, rfl⟩ | ⟨_, rfl⟩ | ⟨_, rfl⟩ := Value.cases_of_whole? hv <;>
          obtain ⟨_, rfl⟩ | ⟨_, rfl⟩ | ⟨_, rfl⟩ := Value.cases_of_whole? hw <;> rfl
    · rw [hv, hw]
  | among column operands =>
    rw [predicate, predicate]
    obtain ⟨v, w, hv, hw, halike⟩ | ⟨error, hv, hw⟩ := hlooks.cell_cases column
    · rw [hv, hw]
      simp only [bind, Except.bind, halike.isNull_eq, h.isAmong_congr halike]
    · rw [hv, hw]
  | isNull column | isNotNull column =>
    rw [predicate, predicate]
    obtain ⟨v, w, hv, hw, halike⟩ | ⟨error, hv, hw⟩ := hlooks.cell_cases column
    · rw [hv, hw]
      simp only [bind, Except.bind, halike.isNull_eq]
    · rw [hv, hw]

/-- **Cells alike are decided alike**, errors aside. -/
theorem toOption_decide_congr (hlooks : h.LooksAlike value value') (c : Condition) :
    (h.decide value c).toOption = (h.decide value' c).toOption := by
  induction c with
  | test p => exact toOption_predicate_congr hlooks p
  | and left right ihl ihr =>
    simp only [decide, toOption_bind, ihl, ihr, apply_ite Except.toOption]
  | or left right ihl ihr =>
    simp only [decide, toOption_bind, ihl, ihr, apply_ite Except.toOption]

end Congr

/-- **Rows alike are kept alike.** -/
theorem admits_congr (h : Having) {a b : Row} (halike : Row.Alike a b) :
    h.admits a = h.admits b := by
  have hlooks : h.LooksAlike (fun i => .ok (cellAt a i)) fun i => .ok (cellAt b i) :=
    fun i _ => ⟨_, _, rfl, rfl, halike i⟩
  rw [admits, admits, holds, holds, keeps, keeps, toOption_decide_congr hlooks]

/-- **HAVING is decided by the cells that are shown.** -/
theorem keeps_eq {h : Having} {value : Nat → Except Error Value} {row : Row}
    (hcells : (List.range h.labels.length).mapM value = .ok row) (hdecides : h.Decides row) :
    h.keeps value = .ok (h.admits row) := by
  have hlooks : h.LooksAlike value fun i => .ok (cellAt row i) := by
    intro i hi
    have hvalue : value i = .ok (cellAt row i) := by
      have hlength : row.length = h.labels.length := by
        rw [← (mapM_eq_ok.1 hcells).length_eq, List.length_range]
      have hget := (List.forall₂_iff_get.1 (mapM_eq_ok.1 hcells)).2 i (by simpa using hi)
        (hlength ▸ hi)
      simpa [cellAt, hlength, hi] using hget
    exact ⟨_, _, hvalue, rfl, .refl _⟩
  obtain ⟨b, hb⟩ := hdecides
  have hkeeps : (h.keeps value).toOption = some b := by
    rw [keeps, toOption_decide_congr hlooks]
    exact congrArg Except.toOption hb
  rw [admits, hb]
  cases hv : h.keeps value with
  | error e =>
    rw [hv] at hkeeps
    cases hkeeps
  | ok b' =>
    rw [hv] at hkeeps
    rw [Option.some.inj hkeeps]
    cases b <;> rfl

end Having

/-! ## Reading under HAVING

A row is decided before it is shown.  Rows that are refused take no place, so the rows under HAVING
are those of the merge below, filtered. -/

section Reading

variable {h : Having} {c : BaseCursor} {views : List View} {ending : Except Error Unit}

/-- HAVING keeps the row that is shown. -/
def Having.admitsView (h : Having) (view : View) : Bool := (h.keeps view).toOption = some true

theorem Having.admitsView_eq {view : View} {b : Bool} (hb : h.keeps view = .ok b) :
    h.admitsView view = b := by
  simp [admitsView, hb, Except.toOption]

/-- A step under HAVING is given fuel for all rows that remain below. -/
theorem FilteredCursor.next_of_having (h : Having) (c : BaseCursor) :
    FilteredCursor.next ⟨c, some h⟩ = ((nextKept h (c.remaining + 1) c).1,
      ⟨(nextKept h (c.remaining + 1) c).2, some h⟩) :=
  rfl

/-- Any fuel beyond the rows to come is enough. -/
theorem FilteredCursor.nextKept_eq {fuel fuel' : Nat} (hpasses : c.Passes views ending)
    (hdecides : ∀ view ∈ views, ∃ b, h.keeps view = .ok b) (hfuel : views.length < fuel)
    (hfuel' : views.length < fuel') : nextKept h fuel c = nextKept h fuel' c := by
  induction hpasses generalizing fuel fuel' with
  | done hnext | fail hnext =>
    obtain ⟨fuel, rfl⟩ := Nat.exists_eq_add_one_of_ne_zero (Nat.ne_zero_of_lt hfuel)
    obtain ⟨fuel', rfl⟩ := Nat.exists_eq_add_one_of_ne_zero (Nat.ne_zero_of_lt hfuel')
    rw [nextKept_of_stop hnext (by simp), nextKept_of_stop hnext (by simp)]
  | step hnext _ _ ih =>
    obtain ⟨fuel, rfl⟩ := Nat.exists_eq_add_one_of_ne_zero (Nat.ne_zero_of_lt hfuel)
    obtain ⟨fuel', rfl⟩ := Nat.exists_eq_add_one_of_ne_zero (Nat.ne_zero_of_lt hfuel')
    obtain ⟨⟨b, hb⟩, hdecides⟩ := List.forall_mem_cons.1 hdecides
    cases b with
    | true => rw [nextKept_of_row hnext hb (by simp), nextKept_of_row hnext hb (by simp)]
    | false =>
      rw [nextKept_of_refused hnext hb, nextKept_of_refused hnext hb]
      exact ih hdecides (Nat.lt_of_succ_lt_succ hfuel) (Nat.lt_of_succ_lt_succ hfuel')

/-- **Under HAVING a cursor passes the rows that are kept**, and ends as the merge below. -/
theorem BaseCursor.Passes.filtered (hpasses : c.Passes views ending)
    (hdecides : ∀ view ∈ views, ∃ b, h.keeps view = .ok b) :
    FilteredCursor.Passes ⟨c, some h⟩ (views.filter h.admitsView) ending := by
  induction hpasses with
  | @done c c' hnext =>
    refine @Passes.done _ _ _ _ (FilteredCursor.mk c h) (FilteredCursor.mk c' h) ?_
    rw [FilteredCursor.next_of_having, FilteredCursor.nextKept_of_stop hnext (by simp)]
  | @fail c c' e hnext =>
    refine @Passes.fail _ _ _ _ (FilteredCursor.mk c h) (FilteredCursor.mk c' h) e ?_
    rw [FilteredCursor.next_of_having, FilteredCursor.nextKept_of_stop hnext (by simp)]
  | @step c c' views ending hnext hlt hrest ih =>
    obtain ⟨⟨b, hb⟩, hdecides⟩ := List.forall_mem_cons.1 hdecides
    have hadmits := Having.admitsView_eq hb
    cases b with
    | true =>
      rw [List.filter_cons_of_pos hadmits]
      refine @Passes.step _ _ _ _ (FilteredCursor.mk c h) (FilteredCursor.mk c' h) _ _ ?_ hlt
        (ih hdecides)
      rw [FilteredCursor.next_of_having, FilteredCursor.nextKept_of_row hnext hb (by simp)]
    | false =>
      rw [List.filter_cons_of_neg (by simp [hadmits])]
      refine (ih hdecides).congr ?_ (Nat.le_of_lt hlt)
      have hle := hrest.length_le
      rw [FilteredCursor.next_of_having, FilteredCursor.next_of_having,
        FilteredCursor.nextKept_of_refused hnext hb,
        FilteredCursor.nextKept_eq hrest hdecides (Nat.lt_of_le_of_lt hle hlt)
          (Nat.lt_succ_of_le hle)]

/-- HAVING that decides rows decides what shows them alike. -/
theorem Having.forall₂_keeps {rows : List Row}
    (hcells : views.mapM (viewCells h.labels.length) = .ok rows)
    (hdecides : ∀ row ∈ rows, h.Decides row) :
    List.Forall₂ (fun view row => viewCells h.labels.length view = .ok row ∧
      h.keeps view = .ok (h.admits row)) views rows := by
  refine forall₂_of_common (mapM_eq_ok.1 hcells).flip (List.forall₂_same.2 fun _ _ => rfl) ?_
  rintro row hrow view _ hview rfl
  exact ⟨hview, keeps_eq hview (hdecides row hrow)⟩

/-- HAVING that decides the rows decides what is shown of them. -/
theorem Having.exists_keeps_of_mapM {rows : List Row}
    (hcells : views.mapM (viewCells h.labels.length) = .ok rows)
    (hdecides : ∀ row ∈ rows, h.Decides row) : ∀ view ∈ views, ∃ b, h.keeps view = .ok b := by
  intro view hview
  obtain ⟨row, -, -, hkeeps⟩ := exists_mem_of_forall₂ (forall₂_keeps hcells hdecides) hview
  exact ⟨_, hkeeps⟩

/-- **Under HAVING a cursor shows the rows that are kept.** -/
theorem BaseCursor.Yields.filtered {rows : List Row} (hyields : c.Yields h.labels.length rows)
    (hdecides : ∀ row ∈ rows, h.Decides row) :
    FilteredCursor.Yields h.labels.length ⟨c, some h⟩ (rows.filter h.admits) := by
  obtain ⟨views, hviews, hcells⟩ := Reads.exists_passes hyields
  have hkept := BaseCursor.Passes.filtered hviews (Having.exists_keeps_of_mapM hcells hdecides)
  have hrows := List.rel_filter (p := h.admitsView) (q := h.admits)
    (fun _ _ hrow => iff_of_eq (congrArg (· = true) (Having.admitsView_eq hrow.2)))
    (Having.forall₂_keeps hcells hdecides)
  exact hkept.reads (mapM_eq_ok.2 (hrows.imp fun _ _ hrow => hrow.1))

end Reading

end ScatterGather
