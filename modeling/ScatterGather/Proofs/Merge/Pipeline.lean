import ScatterGather.Proofs.Merge.Having
import ScatterGather.Proofs.Merge.Positions

/-!
# Proofs/Merge/Pipeline — a merge is a pipeline of lists

What a merged SELECT shows is computed from the rows that its merge passes: HAVING filters them, the
window cuts its **page** out of what is kept, and a failure of the merge counts unless the page is
filled before it (`pipeline`).  HAVING is taken with two truth values here, a comparison with NULL
being false (`Having.accepts`).  `rows_of_merge`: **reading a merge to its end yields what the
pipeline does**, for every statement, dialect and list of results, as long as HAVING can decide the
rows.
-/

namespace ScatterGather

/-! ## HAVING with two truth values

The decision stops at the first part that settles it, and may fail at a part that no answer needs.
Where it comes to an answer, that is the one of plain truth tables in which a comparison with NULL
does not hold. -/

/-- Whether a comparison holds; none with NULL does. -/
def Comparison.holdsOf (op : Comparison) (v w : Value) : Bool :=
  !v.isNull && !w.isNull && (v.order? w).any op.holds

namespace Having

variable (h : Having) (view : View)

/-- The cell of a column, NULL in its absence. -/
def shown (label : String) : Value := (h.cell view label).toOption.getD .null

/-- The value of an operand, NULL in its absence. -/
def given (e : Expression) : Value := (h.operand e).toOption.getD .null

/-- Whether a predicate is true of a row. -/
def meets : Predicate → Bool
  | .compare op column e => op.holdsOf (h.shown view column) (h.given e)
  | .between column low high =>
    Comparison.greaterOrEqual.holdsOf (h.shown view column) (h.given low) &&
      Comparison.lessOrEqual.holdsOf (h.shown view column) (h.given high)
  | .like column pattern => (h.shown view column).text?.any (likeMatches · pattern)
  | .among column operands =>
    operands.any fun e => Comparison.equal.holdsOf (h.shown view column) (h.given e)
  | .isNull column => (h.shown view column).isNull
  | .isNotNull column => !(h.shown view column).isNull

/-- Whether a condition is true of a row. -/
def accepts : Condition → Bool
  | .test p => h.meets view p
  | .and left right => accepts left && accepts right
  | .or left right => accepts left || accepts right

section Decided

variable {h : Having} {view : View} {b : Bool}

theorem shown_of_cell {label : String} {v : Value} (hv : h.cell view label = .ok v) :
    h.shown view label = v := by
  rw [shown, hv]
  rfl

theorem given_of_operand {e : Expression} {v : Value} (hv : h.operand e = .ok v) :
    h.given e = v := by
  rw [given, hv]
  rfl

/-- A comparison that is decided holds as it says. -/
theorem eq_holdsOf_of_comparison {op : Comparison} {column : String} {e : Expression}
    (hb : h.comparison view op column e = .ok b) :
    b = op.holdsOf (h.shown view column) (h.given e) := by
  obtain ⟨v, hv, hb⟩ := bind_eq_ok.1 hb
  obtain ⟨w, hw, hb⟩ := bind_eq_ok.1 hb
  rw [shown_of_cell hv, given_of_operand hw, Comparison.holdsOf]
  split at hb
  · next hnull =>
    obtain rfl := Except.ok.inj hb
    obtain hv | hw := (Bool.or_eq_true _ _).mp hnull
    · rw [hv]
      rfl
    · rw [hw, Bool.not_true, Bool.and_false, Bool.false_and]
  · next hnull =>
    obtain ⟨hv, hw⟩ : v.isNull = false ∧ w.isNull = false := by simpa using hnull
    rw [hv, hw]
    split at hb
    · next o ho =>
      obtain rfl := Except.ok.inj hb
      rw [ho]
      rfl
    · cases hb

/-- NULL is equal to no value. -/
theorem order?_ne_eq_of_isNull {v w : Value} (hv : v.isNull = false) (hw : w.isNull = true) :
    v.order? w ≠ some .eq := by
  obtain rfl := Value.eq_null_of_isNull hw
  cases v with
  | null => cases hv
  | _ => simp [Value.order?]

/-- A value that is not NULL equals the operands that it compares as equal to. -/
theorem holdsOf_equal {v w : Value} (hv : v.isNull = false) :
    Comparison.equal.holdsOf v w = true ↔ v.order? w = some .eq := by
  rw [Comparison.holdsOf, hv]
  cases hw : w.isNull with
  | true => simp [order?_ne_eq_of_isNull hv hw]
  | false => cases v.order? w <;> simp [Comparison.holds]

/-- A value that is not NULL is among operands if an equality with one of them holds. -/
theorem eq_any_of_isAmong {v : Value} {operands : List Expression} (hv : v.isNull = false)
    (hb : h.isAmong v operands = .ok b) :
    b = operands.any fun e => Comparison.equal.holdsOf v (h.given e) := by
  induction operands with
  | nil => exact (Except.ok.inj hb).symm
  | cons e rest ih =>
    obtain ⟨w, hw, hb⟩ := bind_eq_ok.1 hb
    rw [List.any_cons, given_of_operand hw]
    split at hb
    · next heq =>
      obtain rfl := Except.ok.inj hb
      rw [(holdsOf_equal hv).2 heq, Bool.true_or]
    · next hne =>
      rw [Bool.eq_false_iff.2 (mt (holdsOf_equal hv).1 hne), Bool.false_or]
      exact ih hb

/-- **A predicate that is decided** is true as it says. -/
theorem eq_meets_of_predicate {p : Predicate} (hb : h.predicate view p = .ok b) :
    b = h.meets view p := by
  cases p with
  | compare op column e => exact eq_holdsOf_of_comparison hb
  | between column low high =>
    obtain ⟨above, habove, hb⟩ := bind_eq_ok.1 hb
    rw [meets, ← eq_holdsOf_of_comparison habove]
    cases above with
    | true => exact eq_holdsOf_of_comparison hb
    | false => exact (Except.ok.inj hb).symm
  | like column pattern =>
    obtain ⟨v, hv, hb⟩ := bind_eq_ok.1 hb
    rw [meets, shown_of_cell hv]
    cases v with
    | text t | char t => exact (Except.ok.inj hb).symm
    | null => exact (Except.ok.inj hb).symm
    | _ => cases hb
  | among column operands =>
    obtain ⟨v, hv, hb⟩ := bind_eq_ok.1 hb
    rw [meets, shown_of_cell hv]
    cases hnull : v.isNull with
    | true =>
      rw [hnull] at hb
      obtain rfl := Except.ok.inj hb
      -- NULL is among nothing.
      simp [Comparison.holdsOf, hnull]
    | false =>
      rw [hnull] at hb
      exact eq_any_of_isAmong hnull hb
  | isNull column | isNotNull column =>
    obtain ⟨v, hv, hb⟩ := bind_eq_ok.1 hb
    rw [meets, shown_of_cell hv]
    exact (Except.ok.inj hb).symm

/-- **A condition that is decided** is true as it says, whichever of its parts were looked at. -/
theorem eq_accepts_of_decide {c : Condition} (hb : h.decide view c = .ok b) :
    b = h.accepts view c := by
  induction c generalizing b with
  | test p => exact eq_meets_of_predicate hb
  | and left right ihl ihr =>
    obtain ⟨l, hl, hb⟩ := bind_eq_ok.1 hb
    rw [accepts, ← ihl hl]
    cases l with
    | true => exact ihr hb
    | false => exact (Except.ok.inj hb).symm
  | or left right ihl ihr =>
    obtain ⟨l, hl, hb⟩ := bind_eq_ok.1 hb
    rw [accepts, ← ihl hl]
    cases l with
    | true => exact (Except.ok.inj hb).symm
    | false => exact ihr hb

end Decided

end Having

/-! ## Rows that are kept

HAVING stands between the merge and the window.  It makes a shorter list and passes the ending
on. -/

/-- Whether HAVING, if any, accepts a row. -/
def keptBy (having : Option Having) (view : View) : Bool :=
  having.all fun h => h.accepts view h.condition

section Kept

variable {h : Having} {c : BaseCursor} {views : List View} {ending : Except Error Unit}

/-- A row that HAVING keeps is one that it accepts. -/
theorem keptBy_of_keeps {view : View} {b : Bool} (hb : h.keeps view = .ok b) :
    keptBy (some h) view = b :=
  (Having.eq_accepts_of_decide hb).symm

/-- **A cursor passes the rows that HAVING accepts**, if any, and ends as the merge below. -/
theorem BaseCursor.Passes.kept {having : Option Having} (hpasses : c.Passes views ending)
    (hdecides : ∀ h ∈ having, ∀ view ∈ views, ∃ b, h.keeps view = .ok b) :
    FilteredCursor.Passes ⟨c, having⟩ (views.filter (keptBy having)) ending := by
  cases having with
  | none =>
    have hall : views.filter (keptBy none) = views := List.filter_eq_self.2 fun _ _ => rfl
    rw [hall]
    exact Passes.map (fun c => FilteredCursor.mk c none) (fun _ => rfl) (fun _ => rfl)
      (fun _ => rfl) hpasses
  | some h =>
    have hkept : views.filter (keptBy (some h)) = views.filter h.admitsView :=
      List.filter_congr fun view hview => by
        obtain ⟨b, hb⟩ := hdecides h rfl view hview
        rw [keptBy_of_keeps hb, Having.admitsView_eq hb]
    rw [hkept]
    exact hpasses.filtered (hdecides h rfl)

end Kept

/-! ## Pages

Offsets and row counts, or row numbers, cut a part out of a list.  A page that is filled ends the
reading, so a failure after it is never met. -/

/-- The page of a list: after the first `offset` items as many as counted, those whose numbers are
above `offset` up to the count, or all. -/
def page {α : Type} (paging : Dialect.Paging) (offset : Nat) (count : Option Nat)
    (items : List α) : List α :=
  match paging with
  | .limit => count.elim (items.drop offset) (items.drop offset).take
  | .rowNumber | .top =>
    ((items.zipIdx 1).filter fun item => offset < item.2 && count.all (item.2 ≤ ·)).map (·.1)
  | .none => items

/-- The number of the last item of a page that is filled. -/
def lastNumber? (paging : Dialect.Paging) (offset : Nat) (count : Option Nat) : Option Nat :=
  match paging with
  | .limit => count.map (offset + ·)
  | .rowNumber | .top => count
  | .none => none

/-- The offset and the row count of a SELECT; without a window nothing is left out. -/
def Select.windowNumbers (s : Select) (parameters : List Value) :
    Except Error (Nat × Option Nat) :=
  match s.window? with
  | none => .ok (0, none)
  | some window => do
    let offset ← window.offsetRows parameters
    let count ← window.rowLimit parameters
    return (offset, count)

/-- The rows of a page; the ending counts unless the page is filled. -/
def readPage (width : Nat) (paging : Dialect.Paging) (offset : Nat) (count : Option Nat)
    (views : List View) (ending : Except Error Unit) : Except Error (List Row) :=
  readOff width (page paging offset count views)
    (if (lastNumber? paging offset count).any (· ≤ views.length) then .ok () else ending)

/-- What a SELECT yields of the rows that its merge passes: the page of those that HAVING
accepts. -/
def pipeline (width : Nat) (having : Option Having) (paging : Dialect.Paging) (offset : Nat)
    (count : Option Nat) (views : List View) (ending : Except Error Unit) :
    Except Error (List Row) :=
  readPage width paging offset count (views.filter (keptBy having)) ending

/-- Numbers from `k + 1` on cut out what skipping and counting do, `k` items having gone by. -/
theorem map_filter_zipIdx {α : Type} (offset : Nat) (count : Option Nat) (items : List α)
    (k : Nat) :
    ((items.zipIdx (k + 1)).filter
        fun item => offset < item.2 && count.all (item.2 ≤ ·)).map (·.1) =
      count.elim (items.drop (offset - k)) fun n =>
        (items.drop (offset - k)).take (n - max offset k) := by
  induction items generalizing k with
  | nil => cases count <;> simp
  | cons item items ih =>
    rw [List.zipIdx_cons]
    obtain hle | hlt := Nat.lt_or_ge k offset |>.symm
    · -- The page has begun: it takes this item unless the count is reached.
      have hdrop : offset - k = 0 := Nat.sub_eq_zero_of_le hle
      have hdrop' : offset - (k + 1) = 0 := by omega
      have hmax : max offset k = k := Nat.max_eq_right hle
      have hmax' : max offset (k + 1) = k + 1 := Nat.max_eq_right (by omega)
      have ih := ih (k + 1)
      rw [hdrop', hmax'] at ih
      rw [hdrop, hmax]
      cases count with
      | none =>
        rw [List.filter_cons_of_pos (by simpa using Nat.lt_succ_of_le hle), List.map_cons, ih]
        rfl
      | some n =>
        obtain hfull | hroom := Nat.lt_or_ge k n |>.symm
        · rw [List.filter_cons_of_neg (by simp; omega), ih]
          simp [Nat.sub_eq_zero_of_le hfull, Nat.sub_eq_zero_of_le (Nat.le_succ_of_le hfull)]
        · rw [List.filter_cons_of_pos (by simp; omega), List.map_cons, ih,
            Option.elim_some, Option.elim_some, show n - k = n - (k + 1) + 1 by omega]
          rfl
    · have hdrop : offset - k = offset - (k + 1) + 1 := by omega
      have hmax : max offset k = max offset (k + 1) := by omega
      rw [List.filter_cons_of_neg (by simp; omega), ih, hdrop, hmax, List.drop_succ_cons]

/-- **Row numbers cut a page out** as skipping and counting do. -/
theorem page_rowNumber {α : Type} (offset : Nat) (count : Option Nat) (items : List α) :
    page .rowNumber offset count items =
      count.elim (items.drop offset) fun n => (items.drop offset).take (n - offset) := by
  rw [page, map_filter_zipIdx]
  simp

/-- A page without limits is the list. -/
theorem page_zero {α : Type} (paging : Dialect.Paging) (items : List α) :
    page paging 0 none items = items := by
  cases paging with
  | limit => rfl
  | rowNumber | top => exact page_rowNumber 0 none items
  | none => rfl

section Windows

variable {width : Nat} {c : FilteredCursor} {views : List View} {ending : Except Error Unit}

/-- **Skipping** passes over as many rows, or comes to the end. -/
theorem FilteredCursor.Passes.skip_cases {count : Nat} {enough : Bool} {c' : FilteredCursor}
    (h : c.Passes views ending) (hskip : c.skip count = .ok (enough, c')) :
    (enough = true ∧ count ≤ views.length ∧ c'.Passes (views.drop count) ending) ∨
      (enough = false ∧ views.length < count ∧ ending = .ok ()) := by
  induction count generalizing c views with
  | zero =>
    obtain ⟨rfl, rfl⟩ := Prod.mk.inj (Except.ok.inj hskip)
    exact .inl ⟨rfl, Nat.zero_le _, h⟩
  | succ count ih =>
    rw [skip] at hskip
    cases h with
    | done hnext =>
      rw [hnext] at hskip
      obtain ⟨rfl, rfl⟩ := Prod.mk.inj (Except.ok.inj hskip)
      exact .inr ⟨rfl, Nat.zero_lt_succ _, rfl⟩
    | fail hnext =>
      rw [hnext] at hskip
      cases hskip
    | step hnext _ hrest =>
      rw [hnext] at hskip
      obtain ⟨he, hle, hc'⟩ | ⟨he, hlt, hend⟩ := ih hrest hskip
      · exact .inl ⟨he, Nat.succ_le_succ hle, hc'⟩
      · exact .inr ⟨he, Nat.succ_lt_succ hlt, hend⟩

/-- **Reading an open window** takes the rows after the skipped ones, which were there unless the
merge has ended. -/
theorem outcomeOf_readAll_of_openWindow {offset : Nat} {last : Option Nat} {fromFirst : Bool}
    {m : MergedCursor} (h : c.Passes views ending)
    (hm : openWindow c offset last fromFirst = .ok m) :
    outcomeOf (m.readAll width) =
        readWithin width (last.map (· - if fromFirst then offset else 0)) (views.drop offset)
          ending ∧
      (offset ≤ views.length ∨ ending = .ok ()) := by
  obtain ⟨⟨enough, c'⟩, hskip, hm⟩ := bind_eq_ok.1 hm
  obtain rfl := Except.ok.inj hm
  obtain ⟨rfl, hle, hc'⟩ | ⟨rfl, hlt, rfl⟩ := h.skip_cases hskip
  · exact ⟨hc'.outcomeOf_readRows (Nat.lt_succ_of_le hc'.length_le), .inl hle⟩
  · refine ⟨?_, .inr rfl⟩
    rw [List.drop_eq_nil_of_le (Nat.le_of_lt hlt)]
    have hdry : isOpen (some ⟨if fromFirst then offset else 0, last, true⟩) = false := rfl
    exact (outcomeOf_readRows_of_not_isOpen hdry _).trans (readWithin_nil_ok width _).symm

/-- A row count has room for rows after the skipped ones as a page has. -/
theorem readWithin_eq_limit (count : Option Nat) {offset : Nat}
    (hend : offset ≤ views.length ∨ ending = .ok ()) :
    readWithin width (count.map (· - 0)) (views.drop offset) ending =
      readPage width .limit offset count views ending := by
  cases count with
  | none => rfl
  | some n =>
    refine congrArg (readOff width _) ?_
    obtain hle | rfl := hend
    · have hiff : n - 0 ≤ (views.drop offset).length ↔ offset + n ≤ views.length := by
        rw [List.length_drop]
        omega
      simp only [Option.map_some, Option.any_some, decide_eq_true_eq, lastNumber?, hiff]
    · simp

/-- A row number, less the rows that were skipped, has room for rows as a page has. -/
theorem readWithin_eq_rowNumber (count : Option Nat) {offset : Nat}
    (hend : offset ≤ views.length ∨ ending = .ok ()) :
    readWithin width (count.map (· - offset)) (views.drop offset) ending =
      readPage width .rowNumber offset count views ending := by
  rw [readPage, page_rowNumber]
  cases count with
  | none => rfl
  | some n =>
    refine congrArg (readOff width _) ?_
    obtain hle | rfl := hend
    · have hiff : n - offset ≤ (views.drop offset).length ↔ n ≤ views.length := by
        rw [List.length_drop]
        omega
      simp only [Option.map_some, Option.any_some, decide_eq_true_eq, lastNumber?, hiff]
    · simp

/-- **The ways to open a window**: none over rows that are all shown, or one that counts from the
first row shown or from the first of all. -/
theorem windowed_cases {dialect : Dialect} {s : Select} {parameters : List Value}
    {m : MergedCursor} (hm : windowed dialect s parameters c = .ok m) :
    ∃ offset count, s.windowNumbers parameters = .ok (offset, count) ∧
      ((m = ⟨c, none⟩ ∧ (dialect.paging = .none ∨ offset = 0 ∧ count = none)) ∨
        (dialect.paging = .limit ∧ openWindow c offset count false = .ok m) ∨
        ((dialect.paging = .rowNumber ∨ dialect.paging = .top) ∧
          openWindow c offset count true = .ok m)) := by
  rw [windowed] at hm
  rw [Select.windowNumbers]
  cases hwindow : s.window? with
  | none =>
    rw [hwindow] at hm
    exact ⟨0, none, rfl, .inl ⟨(Except.ok.inj hm).symm, .inr ⟨rfl, rfl⟩⟩⟩
  | some window =>
    rw [hwindow] at hm
    obtain ⟨offset, hoffset, hm⟩ := bind_eq_ok.1 hm
    obtain ⟨count, hcount, hm⟩ := bind_eq_ok.1 hm
    refine ⟨offset, count, by simp only [hoffset, hcount]; rfl, ?_⟩
    cases hpaging : dialect.paging with
    | none =>
      rw [hpaging] at hm
      exact .inl ⟨(Except.ok.inj hm).symm, .inl rfl⟩
    | limit =>
      rw [hpaging] at hm
      exact .inr (.inl ⟨rfl, hm⟩)
    | rowNumber =>
      rw [hpaging] at hm
      exact .inr (.inr ⟨.inl rfl, hm⟩)
    | top =>
      rw [hpaging] at hm
      exact .inr (.inr ⟨.inr rfl, hm⟩)

/-- **A window shows the page** of the rows below it. -/
theorem outcomeOf_readAll_of_windowed {dialect : Dialect} {s : Select} {parameters : List Value}
    {m : MergedCursor} {offset : Nat} {count : Option Nat} (h : c.Passes views ending)
    (hm : windowed dialect s parameters c = .ok m)
    (hnumbers : s.windowNumbers parameters = .ok (offset, count)) :
    outcomeOf (m.readAll width) = readPage width dialect.paging offset count views ending := by
  obtain ⟨offset', count', hnumbers', hm⟩ := windowed_cases hm
  obtain ⟨rfl, rfl⟩ := Prod.mk.inj (Except.ok.inj (hnumbers.symm.trans hnumbers'))
  obtain ⟨rfl, hpaging⟩ | ⟨hpaging, hm⟩ | ⟨hpaging, hm⟩ := hm
  · have hall : outcomeOf (MergedCursor.readAll ⟨c, none⟩ width) =
        readWithin width none views ending :=
      h.outcomeOf_readRows (Nat.lt_succ_of_le h.length_le)
    rw [hall]
    obtain hpaging | ⟨rfl, rfl⟩ := hpaging
    · rw [hpaging]
      rfl
    · rw [readPage, page_zero]
      cases dialect.paging <;> rfl
  · obtain ⟨hread, hend⟩ := outcomeOf_readAll_of_openWindow h hm
    rw [hpaging]
    exact hread.trans (readWithin_eq_limit count hend)
  · obtain ⟨hread, hend⟩ := outcomeOf_readAll_of_openWindow h hm
    obtain hpaging | hpaging := hpaging <;> rw [hpaging] <;>
      exact hread.trans (readWithin_eq_rowNumber count hend)

end Windows

/-! ## Merges

All kinds of merge come together here: which rows a base cursor passes is its own matter, and what
is shown of them is the pipeline's. -/

section Merge

variable {dialect : Dialect} {schema : Schema} {s : Select} {parameters : List Value}
  {results : List PartialResult} {m : MergedResult}

/-- HAVING as a merge of these labels decides it. -/
def Select.decided (s : Select) (labels : List String) (parameters : List Value) :
    Option Having :=
  s.having.map fun condition => ⟨condition, labels, parameters⟩

/-- **A merge is a pipeline of lists.**  The merge of several results passes some rows and ends, or
fails, in one way; reading the result of a SELECT over them yields the page of the rows that HAVING
accepts, as long as HAVING can decide each.  Over whole results each of the rows can be read, and
none but a stream of groups may fail. -/
theorem rows_of_merge (hcount : 1 < results.length)
    (h : merge dialect schema (.select s) parameters results = .ok m) :
    ∃ base views ending offset count,
      baseCursor s m.labels (caseSensitivity m.labels (Statement.select s).tables schema) results =
        .ok base ∧
      base.Passes views ending ∧ s.windowNumbers parameters = .ok (offset, count) ∧
      ((∀ r ∈ results, r.IsWhole m.labels) →
        (∀ view ∈ views, ∃ row, viewCells m.labels.length view = .ok row) ∧
          ((∀ g, base ≠ .grouped g) → ending = .ok ())) ∧
      ((∀ h ∈ s.decided m.labels parameters, ∀ view ∈ views, ∃ b, h.keeps view = .ok b) →
        m.rows = pipeline m.labels.length (s.decided m.labels parameters) dialect.paging offset
          count views ending) := by
  rw [merge.eq_1, if_pos hcount] at h
  obtain ⟨cursor, hcursor, rfl⟩ := map_eq_ok.1 h
  obtain ⟨base, hbase, hwindowed⟩ := bind_eq_ok.1 hcursor
  obtain ⟨views, ending, hpasses⟩ := exists_passes_of_baseCursor hbase
  obtain ⟨offset, count, hnumbers, -⟩ := windowed_cases hwindowed
  refine ⟨base, views, ending, offset, count, hbase, hpasses, hnumbers,
    fun hwhole => readable_of_passes hbase hwhole hpasses, fun hdecides => ?_⟩
  exact (MergedResult.rows_eq _).trans
    (outcomeOf_readAll_of_windowed (hpasses.kept hdecides) hwindowed hnumbers)

end Merge

/-- The second of the keys above one. -/
def keysAboveOne : Select :=
  { itemsByKey with
    having := some (.test (.compare .greater "k" (.literal (.integer 1))))
    pagination := some ⟨some ⟨.literal 1, .exact, none⟩, some ⟨.literal 1, .exact, none⟩⟩ }

/-- Two nodes return keys, one of which HAVING refuses and one of which is skipped. -/
theorem rows_of_merge_keysAboveOne : ∃ m base views,
    merge .mySQL .empty (.select keysAboveOne) [] [keysOf [1, 4], keysOf [2, 3]] = .ok m ∧
    baseCursor keysAboveOne ["k"] [false] [keysOf [1, 4], keysOf [2, 3]] = .ok base ∧
    base.Passes views (.ok ()) ∧
    m.rows = pipeline 1 (keysAboveOne.decided ["k"] []) .limit 1 (some 1) views (.ok ()) ∧
    m.rows = .ok [[.integer 3]] := by
  obtain ⟨m, hm, hlabels, hrows⟩ : ∃ m, merge .mySQL .empty (.select keysAboveOne) []
      [keysOf [1, 4], keysOf [2, 3]] = .ok m ∧ m.labels = ["k"] ∧ m.rows = .ok [[.integer 3]] :=
    ⟨_, rfl, rfl, rfl⟩
  obtain ⟨base, hbase, hyields⟩ : ∃ base, baseCursor keysAboveOne ["k"] [false]
      [keysOf [1, 4], keysOf [2, 3]] = .ok base ∧
      base.Yields 1 [[.integer 1], [.integer 2], [.integer 3], [.integer 4]] :=
    ⟨_, rfl, .step rfl (by decide) rfl (.step rfl (by decide) rfl (.step rfl (by decide) rfl
      (.step rfl (by decide) rfl (.done rfl))))⟩
  obtain ⟨views, hviews, hcells⟩ := Reads.exists_passes hyields
  obtain ⟨base', views', ending, offset, count, hbase', hpasses, hnumbers, -, hpipeline⟩ :=
    rows_of_merge (by decide) hm
  rw [hlabels] at hbase' hpipeline
  obtain rfl := Except.ok.inj (hbase.symm.trans hbase')
  obtain ⟨rfl, rfl⟩ := hviews.unique hpasses
  obtain ⟨rfl, rfl⟩ := Prod.mk.inj (Except.ok.inj hnumbers)
  refine ⟨m, base, views, hm, hbase, hviews, hpipeline ?_, hrows⟩
  rintro h ⟨⟩
  exact Having.exists_keeps_of_mapM hcells (by decide)

/-- The sums of values by key, in the order of the keys. -/
def sumsByKey : Select where
  tables := ["t_order"]
  list := ⟨[.column "k" none, .aggregate .sum false (some "v") none], false⟩
  condition := none
  groupBy := [⟨.label "k", .asc, .low, none⟩]
  orderBy := [⟨.label "k", .asc, .low, none⟩]
  having := none
  pagination := none
  lock := false
  subquery := false

/-- Keys and sums that a node returns. -/
def sumsOf (sums : List (Int64 × Value)) : PartialResult :=
  .ofRows ["k", "SUM(v)"] (sums.map fun p => [.integer p.1, p.2])

/-- **A merge may fail although no result does**: a text is no summand, so the reading stops after
the first group, whose row it has shown. -/
theorem rows_ne_ok_sumsByKey : ∃ m e,
    merge .mySQL .empty (.select sumsByKey) []
      [sumsOf [(1, .integer 5), (2, .text "x")], sumsOf [(1, .integer 3)]] = .ok m ∧
    (∀ r ∈ [sumsOf [(1, .integer 5), (2, .text "x")], sumsOf [(1, .integer 3)]],
      r.failure = none) ∧
    sumsByKey.having = none ∧ sumsByKey.window? = none ∧
    m.readAll = ([[.integer 1, .integer 8]], some e) ∧ ∀ rows, m.rows ≠ .ok rows := by
  refine ⟨_, _, rfl, ?_, rfl, rfl, rfl, fun rows hrows => ?_⟩
  · simp [sumsOf, PartialResult.ofRows]
  · cases hrows

end ScatterGather
