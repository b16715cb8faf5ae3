import ScatterGather.Merge.OrderedStream
import ScatterGather.Proofs.Merge.Queue
import ScatterGather.Proofs.Merge.SortKey
import ScatterGather.Proofs.Outcome

/-!
# Proofs/Merge/OrderedStream — what a merge of sorted results shows

A stream **yields** the rows that it shows one after another (`OrderedStream.Yields`).  For results
that can be read to their ends (`PartialResult.Readable`):

* it yields every row of theirs once (`OrderedStream.exists_yields`);
* if each result is sorted, so is what it yields (`OrderedStream.Yields.pairwise`);
* the first `w` rows it yields depend only on the first `w` rows of every result
  (`OrderedStream.take_eq_of_firstRows`), ties included, since cutting the results off does not
  change which of the rows in the queue comes next: the two streams stay **in step**
  (`OrderedStream.InStep`) for as long as the rows that they have read agree.
-/

namespace ScatterGather

open scoped List

/-- A result that can be read to its end by these keys: it does not fail, and its rows have the
columns of the keys. -/
structure PartialResult.Readable (keys : List SortKey) (r : PartialResult) : Prop where
  failure : r.failure = none
  width : ∀ row ∈ r.rows, ∀ k ∈ keys, k.index < row.length

/-! ## Positioned results

A result in the queue has a row read from it, whose key cells are kept at hand.  For a readable
result, reading the next row succeeds until there is none. -/

namespace Positioned

variable {keys : List SortKey} {r : PartialResult} {p : Positioned}

/-- The row that was read last. -/
def row (p : Positioned) : Row := p.result.current.getD []

/-- The row that was read last and those to be read. -/
def rows (p : Positioned) : List Row := p.row :: p.result.rows

/-- The result after its next row was read; nothing without one. -/
def first? (keys : List SortKey) (r : PartialResult) : Option Positioned :=
  match r.rows with
  | [] => none
  | row :: rows => some ⟨{ r with current := some row, rows }, keyCells keys row⟩

/-- A readable result with the cells of its row at hand. -/
structure IsAt (keys : List SortKey) (p : Positioned) : Prop where
  current : p.result.current = some p.row
  cells : p.cells = keyCells keys p.row
  readable : p.result.Readable keys

/-- A result at its row hands out the cells of that row. -/
theorem value_eq_cellAt {row : Row} {index : Nat} (hrow : r.current = some row)
    (hindex : index < row.length) : r.value index = .ok (cellAt row index) := by
  rw [PartialResult.value, hrow]
  simp [cellAt, hindex]

/-- **Reading a readable result succeeds.** -/
theorem read_eq (h : r.Readable keys) : read keys r = .ok (first? keys r) := by
  obtain ⟨labels, current, rows, failure⟩ := r
  obtain ⟨rfl : failure = none, hwidth⟩ := h
  cases rows with
  | nil => rfl
  | cons row rows =>
    have hcells : keys.mapM (fun k => PartialResult.value ⟨labels, some row, rows, none⟩ k.index) =
        .ok (keyCells keys row) :=
      mapM_eq_ok_map fun k hk => value_eq_cellAt rfl (hwidth row List.mem_cons_self k hk)
    rw [read, PartialResult.next]
    exact congrArg (Except.map _) hcells

theorem first?_eq_none : first? keys r = none ↔ r.rows = [] := by
  rw [first?]
  split <;> simp_all

/-- The result that was read has the same rows, one of them being shown. -/
theorem isAt_of_first? (h : r.Readable keys) (hp : first? keys r = some p) :
    p.IsAt keys ∧ p.rows = r.rows := by
  rw [first?] at hp
  split at hp
  · exact nomatch hp
  · rename_i row rows hrows
    obtain rfl := Option.some.inj hp
    exact ⟨⟨rfl, rfl, h.failure, fun a ha => h.width a (hrows ▸ List.mem_cons_of_mem row ha)⟩,
      hrows.symm⟩

end Positioned

/-! ## The rows to come

All that a stream still has to show stands in the queue or behind the row that is shown.  A step
moves one row out of this collection and loses none. -/

namespace OrderedStream

section Live

variable {s : OrderedStream}

/-- The rows still to be shown, in no particular order. -/
def toCome (s : OrderedStream) : List Row :=
  s.queue.toList.flatMap Positioned.rows ++ (s.current.map fun p => p.result.rows).getD []

/-- A stream over readable results whose queue has its shape. -/
structure IsLive (s : OrderedStream) : Prop where
  full : s.queue.IsFull
  queue : ∀ p ∈ s.queue.toList, p.IsAt s.keys
  current : ∀ p ∈ s.current, p.IsAt s.keys

/-- The queue with one more result, if there is one. -/
def pushed (s : OrderedStream) : Option Positioned → Queue Positioned
  | none => s.queue
  | some p => s.queue.push (Positioned.precedes s.keys) p

/-- The stream with its current result back in the queue, unless that has come to its end. -/
def refilled (s : OrderedStream) : OrderedStream :=
  { s with queue := s.pushed (s.current.bind fun p => Positioned.first? s.keys p.result)
           current := none }

/-- **A live stream puts the current result back, then shows the first row of the queue.** -/
theorem IsLive.next_eq (h : s.IsLive) : s.next = s.refilled.advance := by
  obtain ⟨keys, queue, current⟩ := s
  cases current with
  | none => rfl
  | some p =>
    have hread := Positioned.read_eq (h.current p rfl).readable
    rw [next, refilled]
    dsimp only
    rw [hread]
    cases hp : Positioned.first? keys p.result <;> simp [pushed, hp]

/-- With no current row, the rows to come are those of the results in the queue. -/
theorem toCome_eq_flatMap (hcurrent : s.current = none) :
    s.toCome = s.queue.toList.flatMap Positioned.rows := by
  rw [toCome, hcurrent]
  exact List.append_nil _

/-- The queue with one more result has the rows of that result in addition. -/
theorem IsLive.pushed {o : Option Positioned} (h : s.IsLive) (ho : ∀ p ∈ o, p.IsAt s.keys) :
    (s.pushed o).IsFull ∧ (∀ p ∈ (s.pushed o).toList, p.IsAt s.keys) ∧
      (s.pushed o).toList.flatMap Positioned.rows ~
        s.queue.toList.flatMap Positioned.rows ++ (o.map Positioned.rows).getD [] := by
  cases o with
  | none => exact ⟨h.full, h.queue, .of_eq (List.append_nil _).symm⟩
  | some p =>
    have hpush : (s.queue.push (Positioned.precedes s.keys) p).IsFull ∧
        (s.queue.push (Positioned.precedes s.keys) p).toList ~ p :: s.queue.toList := h.full.push
    obtain ⟨hfull, hperm⟩ := hpush
    refine ⟨hfull, fun q hq => ?_, (hperm.flatMap_right _).trans List.perm_append_comm⟩
    obtain rfl | hq := List.mem_cons.1 (hperm.subset hq)
    · exact ho _ rfl
    · exact h.queue q hq

/-- What was left of the current result. -/
theorem IsLive.isAt_of_refilled (h : s.IsLive) :
    ∀ p ∈ s.current.bind fun p => Positioned.first? s.keys p.result, p.IsAt s.keys := by
  intro p hp
  obtain ⟨c, hc, hfirst⟩ := Option.bind_eq_some_iff.1 hp
  exact (Positioned.isAt_of_first? (h.current c hc).readable hfirst).1

/-- Putting the current result back keeps its rows to come. -/
theorem IsLive.rows_of_refilled (h : s.IsLive) :
    ((s.current.bind fun p => Positioned.first? s.keys p.result).map Positioned.rows).getD [] =
      (s.current.map fun p => p.result.rows).getD [] := by
  cases hc : s.current with
  | none => rfl
  | some c =>
    change ((Positioned.first? s.keys c.result).map Positioned.rows).getD [] = c.result.rows
    cases hfirst : Positioned.first? s.keys c.result with
    | none => exact (Positioned.first?_eq_none.1 hfirst).symm
    | some p => exact (Positioned.isAt_of_first? (h.current c hc).readable hfirst).2

/-- **Putting the current result back keeps the rows to come.** -/
theorem IsLive.refilled (h : s.IsLive) : s.refilled.IsLive ∧ s.refilled.toCome ~ s.toCome := by
  obtain ⟨hfull, hat, hperm⟩ := h.pushed h.isAt_of_refilled
  rw [h.rows_of_refilled] at hperm
  refine ⟨⟨hfull, hat, fun p hp => nomatch hp⟩, ?_⟩
  rw [toCome_eq_flatMap rfl]
  exact hperm

/-- **A step of a live stream** shows a row that was to come, or there was none. -/
theorem IsLive.next_cases (h : s.IsLive) :
    (s.toCome = [] ∧ s.next = (.ok false, { s.refilled with current := none })) ∨
      ∃ s' p queue, s.refilled.queue.pop? (Positioned.precedes s.keys) = some (p, queue) ∧
        s' = { s.refilled with queue, current := some p } ∧ s.next = (.ok true, s') ∧
        s'.IsLive ∧ p.IsAt s.keys ∧ s.toCome ~ p.row :: s'.toCome := by
  obtain ⟨hlive, hperm⟩ := h.refilled
  rw [h.next_eq, advance]
  change _ ∨ ∃ s' p queue, s.refilled.queue.pop? (Positioned.precedes s.refilled.keys) = _ ∧ _
  split
  · rename_i p queue hpop
    obtain ⟨hfull, hqueue⟩ := hlive.full.perm_pop? hpop
    have hp : p.IsAt s.keys := hlive.queue p (hqueue.symm.subset List.mem_cons_self)
    refine Or.inr ⟨_, p, queue, hpop, rfl, rfl, ⟨hfull, fun q hq => ?_, ?_⟩, hp, ?_⟩
    · exact hlive.queue q (hqueue.symm.subset (List.mem_cons_of_mem p hq))
    · rintro q ⟨⟩
      exact hp
    · refine hperm.symm.trans ?_
      rw [toCome_eq_flatMap (s := s.refilled) rfl]
      refine (hqueue.flatMap_right _).trans ?_
      exact List.perm_append_comm.cons p.row
  · rename_i hpop
    have hnil := hlive.full.pop?_eq_none.1 hpop
    refine Or.inl ⟨?_, rfl⟩
    rw [toCome_eq_flatMap (s := s.refilled) rfl, hnil] at hperm
    exact List.nil_perm.1 hperm

end Live

/-! ## What a stream yields

The rows to come are counted, and a step leaves fewer of them.  So the stream comes to its end after
showing each of them. -/

/-- The row that is shown. -/
def row? (s : OrderedStream) : Option Row := s.current.map Positioned.row

/-- The stream shows these rows and comes to its end. -/
inductive Yields : OrderedStream → List Row → Prop
  | done {s s' : OrderedStream} : s.next = (.ok false, s') → Yields s []
  | step {s s' : OrderedStream} {row : Row} {rows : List Row} : s.next = (.ok true, s') →
      s'.row? = some row → Yields s' rows → Yields s (row :: rows)

section Yields

variable {s : OrderedStream} {rows rows' : List Row}

/-- **A live stream yields the rows to come**, each once. -/
theorem IsLive.exists_yields (h : s.IsLive) : ∃ rows, s.Yields rows ∧ rows ~ s.toCome := by
  induction hn : s.toCome.length generalizing s with
  | zero =>
    obtain ⟨hnil, hnext⟩ | ⟨s', p, _, _, _, _, _, _, hperm⟩ := h.next_cases
    · exact ⟨[], .done hnext, .of_eq hnil.symm⟩
    · simp [hperm.length_eq] at hn
  | succ n ih =>
    obtain ⟨hnil, hnext⟩ | ⟨s', p, _, _, rfl, hnext, hlive, hp, hperm⟩ := h.next_cases
    · simp [hnil] at hn
    · obtain ⟨rows, hrows, hlist⟩ := ih hlive (by simpa [hperm.length_eq] using hn)
      exact ⟨p.row :: rows, .step hnext rfl hrows, (hlist.cons p.row).trans hperm.symm⟩

/-- **A stream yields one list of rows.** -/
theorem Yields.unique (h : s.Yields rows) (h' : s.Yields rows') : rows = rows' := by
  induction h generalizing rows' with
  | done hnext =>
    cases h' with
    | done _ => rfl
    | step hnext' _ _ => exact nomatch (congrArg Prod.fst (hnext.symm.trans hnext'))
  | step hnext hrow _ ih =>
    cases h' with
    | done hnext' => exact nomatch (congrArg Prod.fst (hnext.symm.trans hnext'))
    | step hnext' hrow' hrest =>
      obtain rfl := congrArg Prod.snd (hnext.symm.trans hnext')
      rw [ih hrest, Option.some.inj (hrow.symm.trans hrow')]

/-- After a step that shows a row, the stream yields the others. -/
theorem Yields.of_next {t : OrderedStream} (h : s.Yields rows) (hnext : s.next = (.ok true, t)) :
    ∃ row rest, t.row? = some row ∧ t.Yields rest ∧ rows = row :: rest := by
  cases h with
  | done hnext' => exact nomatch (congrArg Prod.fst (hnext.symm.trans hnext'))
  | step hnext' hrow hrest =>
    obtain rfl := congrArg Prod.snd (hnext.symm.trans hnext')
    exact ⟨_, _, hrow, hrest, rfl⟩

/-- A step leaves a live stream. -/
theorem IsLive.of_next {t : OrderedStream} (h : s.IsLive) (hnext : s.next = (.ok true, t)) :
    t.IsLive := by
  obtain ⟨-, hnext'⟩ | ⟨t', _, _, _, _, hnext', hlive, _⟩ := h.next_cases
  · exact nomatch (congrArg Prod.fst (hnext.symm.trans hnext'))
  · obtain rfl := congrArg Prod.snd (hnext.symm.trans hnext')
    exact hlive

/-- What a live stream yields are the rows to come. -/
theorem Yields.perm (hlive : s.IsLive) (h : s.Yields rows) : rows ~ s.toCome := by
  obtain ⟨rows', hrows', hperm⟩ := hlive.exists_yields
  exact h.unique hrows' ▸ hperm

/-- The rows to come are counted. -/
theorem remaining_eq (s : OrderedStream) : s.remaining = s.toCome.length := by
  have hfold : ∀ (items : List Positioned) (n : Nat),
      items.foldl (fun n p => n + p.result.rows.length + 1) n =
        n + (items.flatMap Positioned.rows).length := by
    intro items
    induction items with
    | nil => simp
    | cons p items ih =>
      intro n
      rw [List.foldl_cons, ih, List.flatMap_cons, List.length_append, Positioned.rows,
        List.length_cons]
      omega
  rw [remaining, hfold, toCome, List.length_append, Nat.zero_add]
  cases s.current <;> rfl

end Yields

/-- A stream without results is live. -/
theorem isLive_empty (keys : List SortKey) : IsLive ⟨keys, .empty, none⟩ :=
  ⟨Queue.isFull_empty, by simp, by simp⟩

/-- The first row of each result stands in the queue. -/
theorem exists_enqueueAll_eq {keys : List SortKey} {results : List PartialResult}
    {queue : Queue Positioned} (hresults : ∀ r ∈ results, r.Readable keys)
    (hlive : IsLive ⟨keys, queue, none⟩) :
    ∃ queue', enqueueAll keys queue results = .ok queue' ∧ IsLive ⟨keys, queue', none⟩ ∧
      queue'.toList.flatMap Positioned.rows ~
        queue.toList.flatMap Positioned.rows ++ results.flatMap (·.rows) := by
  induction results generalizing queue with
  | nil => exact ⟨queue, rfl, hlive, .of_eq (List.append_nil _).symm⟩
  | cons r rest ih =>
    obtain ⟨hr, hrest⟩ := List.forall_mem_cons.1 hresults
    have hread := Positioned.read_eq hr
    cases hfirst : Positioned.first? keys r with
    | none =>
      obtain ⟨queue', heq, hlive', hperm⟩ := ih hrest hlive
      refine ⟨queue', ?_, hlive', ?_⟩
      · rw [enqueueAll, hread, hfirst]
        exact heq
      · rwa [List.flatMap_cons, Positioned.first?_eq_none.1 hfirst, List.nil_append]
    | some p =>
      obtain ⟨hp, hrows⟩ := Positioned.isAt_of_first? hr hfirst
      obtain ⟨hfull, hat, hpushed⟩ := hlive.pushed (o := some p) fun q hq => Option.some.inj hq ▸ hp
      obtain ⟨queue', heq, hlive', hperm⟩ := ih hrest ⟨hfull, hat, fun q hq => nomatch hq⟩
      refine ⟨queue', ?_, hlive', hperm.trans ?_⟩
      · rw [enqueueAll, hread, hfirst]
        exact heq
      · rw [List.flatMap_cons, ← hrows, ← List.append_assoc]
        exact hpushed.append_right _

/-- **The merge of readable results** is live, and their rows are to come. -/
theorem exists_ofResults_eq {keys : List SortKey} {results : List PartialResult}
    (hresults : ∀ r ∈ results, r.Readable keys) :
    ∃ s, ofResults keys results = .ok s ∧ s.IsLive ∧ s.keys = keys ∧ s.current = none ∧
      s.toCome ~ results.flatMap (·.rows) := by
  obtain ⟨queue, heq, hlive, hperm⟩ := exists_enqueueAll_eq hresults (isLive_empty keys)
  refine ⟨⟨keys, queue, none⟩, by rw [ofResults, heq]; rfl, hlive, rfl, rfl, ?_⟩
  rw [toCome_eq_flatMap rfl]
  exact hperm

/-- Merged by these keys, the results yield these rows. -/
def Merges (keys : List SortKey) (results : List PartialResult) (rows : List Row) : Prop :=
  ∃ s, ofResults keys results = .ok s ∧ s.Yields rows

end OrderedStream

/-! ## Sorted results

Where the keys order the rows, the queue holds the first row of each sorted result, so the first
row of the queue comes before all rows to come. -/

/-- The row `a` does not come after `b`. -/
def RowLe (keys : List SortKey) (a b : Row) : Prop := (compareRows keys a b).isLE

instance (keys : List SortKey) : DecidableRel (RowLe keys) := fun a b =>
  inferInstanceAs (Decidable ((compareRows keys a b).isLE = true))

section Sorted

variable {keys : List SortKey} {Q : Row → Prop}

theorem RowLe.trans (horder : PreorderOn (compareRows keys) Q) {a b c : Row} (ha : Q a) (hb : Q b)
    (hc : Q c) (hab : RowLe keys a b) (hbc : RowLe keys b c) : RowLe keys a c :=
  horder.trans ha hb hc hab hbc

/-- Positioned results compare by their rows. -/
theorem Positioned.precedes_eq {p q : Positioned} (hp : p.IsAt keys) (hq : q.IsAt keys) :
    Positioned.precedes keys p q = (compareRows keys p.row q.row == .lt) := by
  rw [precedes, hp.cells, hq.cells]
  rfl

/-- A result that does not come after another one has a row that does not. -/
theorem Positioned.rowLe_of_precedes {p q : Positioned} (horder : PreorderOn (compareRows keys) Q)
    (hp : p.IsAt keys ∧ Q p.row) (hq : q.IsAt keys ∧ Q q.row)
    (h : Positioned.precedes keys q p = false) : RowLe keys p.row q.row := by
  rw [precedes_eq hq.1 hp.1] at h
  rw [RowLe, horder.swap hq.2 hp.2]
  cases ho : compareRows keys q.row p.row <;> rw [ho] at h <;> first | rfl | exact nomatch h

/-- Results in a queue can be put in order by their rows. -/
theorem Positioned.ranks (horder : PreorderOn (compareRows keys) Q) :
    Tree.Ranks (Positioned.precedes keys) fun p => p.IsAt keys ∧ Q p.row where
  asymm {p q} hp hq h := by
    rw [precedes_eq hp.1 hq.1, beq_iff_eq] at h
    rw [precedes_eq hq.1 hp.1, horder.swap hp.2 hq.2, h]
    rfl
  trans {p q r} hp hq hr hpq hqr := by
    have hle := RowLe.trans horder hp.2 hq.2 hr.2 (rowLe_of_precedes horder hp hq hpq)
      (rowLe_of_precedes horder hq hr hqr)
    rw [precedes_eq hr.1 hp.1, horder.swap hp.2 hr.2]
    rw [RowLe] at hle
    cases ho : compareRows keys p.row r.row <;> rw [ho] at hle <;>
      first | rfl | exact nomatch hle

namespace OrderedStream

/-- A live stream over sorted results whose rows the keys order. -/
structure IsSorted (Q : Row → Prop) (s : OrderedStream) : Prop where
  live : s.IsLive
  ordered : s.queue.IsOrdered (Positioned.precedes s.keys)
  rows : ∀ row ∈ s.toCome, Q row
  queue : ∀ p ∈ s.queue.toList, p.rows.Pairwise (RowLe s.keys)
  current : ∀ p ∈ s.current, p.result.rows.Pairwise (RowLe s.keys)

variable {s : OrderedStream}

theorem IsSorted.prop_row (h : s.IsSorted Q) {p : Positioned} (hp : p ∈ s.queue.toList) :
    p.IsAt s.keys ∧ Q p.row :=
  ⟨h.live.queue p hp, h.rows _ (List.mem_append_left _
    (List.mem_flatMap.2 ⟨p, hp, List.mem_cons_self⟩))⟩

/-- The queue with one more sorted result is a heap of sorted results. -/
theorem IsSorted.pushed (horder : PreorderOn (compareRows s.keys) Q) (h : s.IsSorted Q)
    {o : Option Positioned} (hat : ∀ p ∈ o, p.IsAt s.keys ∧ Q p.row)
    (hsorted : ∀ p ∈ o, p.rows.Pairwise (RowLe s.keys)) :
    (s.pushed o).IsOrdered (Positioned.precedes s.keys) ∧
      ∀ p ∈ (s.pushed o).toList, p.rows.Pairwise (RowLe s.keys) := by
  cases o with
  | none => exact ⟨h.ordered, h.queue⟩
  | some p =>
    refine ⟨h.ordered.push (Positioned.ranks horder) (hat p rfl) (fun q hq => h.prop_row hq)
      h.live.full, fun q hq => ?_⟩
    obtain rfl | hq := List.mem_cons.1 (h.live.full.push.2.subset hq)
    · exact hsorted _ rfl
    · exact h.queue q hq

/-- Putting the current result back leaves a sorted stream. -/
theorem IsSorted.refilled (horder : PreorderOn (compareRows s.keys) Q) (h : s.IsSorted Q) :
    s.refilled.IsSorted Q := by
  obtain ⟨hlive, hperm⟩ := h.live.refilled
  have hfirst : ∀ p ∈ s.current.bind fun p => Positioned.first? s.keys p.result,
      p.rows.Pairwise (RowLe s.keys) ∧ Q p.row := by
    intro p hp
    obtain ⟨c, hc, hp⟩ := Option.bind_eq_some_iff.1 hp
    have hrows := (Positioned.isAt_of_first? (h.live.current c hc).readable hp).2
    refine ⟨hrows ▸ h.current c hc, h.rows _ (List.mem_append_right _ ?_)⟩
    rw [hc]
    change p.row ∈ c.result.rows
    exact hrows ▸ List.mem_cons_self
  obtain ⟨hordered, hqueue⟩ := h.pushed horder
    (fun p hp => ⟨h.live.isAt_of_refilled p hp, (hfirst p hp).2⟩) fun p hp => (hfirst p hp).1
  exact ⟨hlive, hordered, fun row hrow => h.rows row (hperm.subset hrow), hqueue,
    fun p hp => nomatch hp⟩

/-- **The first of the queue comes before all rows to come.** -/
theorem IsSorted.of_pop? (horder : PreorderOn (compareRows s.keys) Q) (h : s.IsSorted Q)
    (hcurrent : s.current = none) {p : Positioned} {queue : Queue Positioned}
    (hpop : s.queue.pop? (Positioned.precedes s.keys) = some (p, queue))
    (hlive : IsLive { s with queue, current := some p }) :
    IsSorted Q { s with queue, current := some p } ∧
      ∀ row ∈ toCome { s with queue, current := some p }, RowLe s.keys p.row row := by
  obtain ⟨-, hperm⟩ := h.live.full.perm_pop? hpop
  have hmem : p ∈ s.queue.toList := hperm.symm.subset List.mem_cons_self
  have hsub : ∀ q ∈ queue.toList, q ∈ s.queue.toList := fun q hq =>
    hperm.symm.subset (List.mem_cons_of_mem p hq)
  obtain ⟨hordered, hfirst⟩ := h.ordered.pop? (Positioned.ranks horder)
    (fun q hq => h.prop_row hq) h.live.full hpop
  -- Rows to come are behind a row of the queue, which the first one precedes, or behind the first
  -- one.
  obtain ⟨hhead, htail⟩ := List.pairwise_cons.1 (h.queue p hmem)
  have hrows : ∀ row ∈ toCome { s with queue, current := some p }, Q row := by
    intro row hrow
    refine h.rows row ?_
    rw [toCome_eq_flatMap hcurrent, List.mem_flatMap]
    obtain hrow | hrow := List.mem_append.1 hrow
    · obtain ⟨q, hq, hrow⟩ := List.mem_flatMap.1 hrow
      exact ⟨q, hsub q hq, hrow⟩
    · exact ⟨p, hmem, List.mem_cons_of_mem _ hrow⟩
  refine ⟨⟨hlive, hordered, hrows, fun q hq => h.queue q (hsub q hq), ?_⟩, fun row hrow => ?_⟩
  · rintro q ⟨⟩
    exact htail
  · have hQ := hrows row hrow
    obtain hrow | hrow := List.mem_append.1 hrow
    · obtain ⟨q, hq, hrow⟩ := List.mem_flatMap.1 hrow
      have hle := Positioned.rowLe_of_precedes horder (h.prop_row hmem) (h.prop_row (hsub q hq))
        (hfirst q hq)
      obtain rfl | hrow := List.mem_cons.1 hrow
      · exact hle
      · exact hle.trans horder (h.prop_row hmem).2 (h.prop_row (hsub q hq)).2 hQ
          ((List.pairwise_cons.1 (h.queue q (hsub q hq))).1 row hrow)
    · exact hhead row hrow

/-- A step of a sorted stream leaves one, and shows a row that no row to come precedes. -/
theorem IsSorted.next (horder : PreorderOn (compareRows s.keys) Q) (h : s.IsSorted Q)
    {s' : OrderedStream} {row : Row} (hnext : s.next = (.ok true, s')) (hrow : s'.row? = some row) :
    s'.IsSorted Q ∧ s'.keys = s.keys ∧ ∀ b ∈ s'.toCome, RowLe s.keys row b := by
  obtain ⟨-, hnext'⟩ | ⟨s'', p, queue, hpop, hs, hnext', hlive, -, -⟩ := h.live.next_cases
  · exact nomatch (congrArg Prod.fst (hnext.symm.trans hnext'))
  · obtain rfl : s' = s'' := congrArg Prod.snd (hnext.symm.trans hnext')
    subst hs
    obtain rfl : p.row = row := Option.some.inj hrow
    have hrefilled : s.refilled.IsSorted Q := h.refilled horder
    obtain ⟨hsorted, hle⟩ := hrefilled.of_pop? (s := s.refilled) horder rfl hpop hlive
    exact ⟨hsorted, rfl, hle⟩

/-- **A stream over sorted results yields its rows in order.** -/
theorem Yields.pairwise {rows : List Row} (horder : PreorderOn (compareRows s.keys) Q)
    (hsorted : s.IsSorted Q) (h : s.Yields rows) : rows.Pairwise (RowLe s.keys) := by
  induction h with
  | done _ => exact .nil
  | step hnext hrow hrest ih =>
    obtain ⟨hsorted', hkeys, hle⟩ := hsorted.next horder hnext hrow
    rw [← hkeys] at horder hle ⊢
    refine List.pairwise_cons.2 ⟨fun b hb => hle b ?_, ih horder hsorted'⟩
    exact (hrest.perm hsorted'.live).subset hb

/-- The first rows of sorted results stand in a heap. -/
theorem IsSorted.of_enqueueAll {results : List PartialResult} {queue queue' : Queue Positioned}
    (horder : PreorderOn (compareRows keys) Q) (hresults : ∀ r ∈ results, r.Readable keys)
    (hQ : ∀ r ∈ results, ∀ row ∈ r.rows, Q row)
    (hrows : ∀ r ∈ results, r.rows.Pairwise (RowLe keys))
    (h : IsSorted Q ⟨keys, queue, none⟩) (heq : enqueueAll keys queue results = .ok queue') :
    IsSorted Q ⟨keys, queue', none⟩ := by
  induction results generalizing queue with
  | nil => exact Except.ok.inj heq ▸ h
  | cons r rest ih =>
    obtain ⟨hr, hresults⟩ := List.forall_mem_cons.1 hresults
    obtain ⟨hQr, hQ⟩ := List.forall_mem_cons.1 hQ
    obtain ⟨hrowsr, hrows⟩ := List.forall_mem_cons.1 hrows
    rw [enqueueAll, Positioned.read_eq hr] at heq
    cases hfirst : Positioned.first? keys r with
    | none =>
      rw [hfirst] at heq
      exact ih hresults hQ hrows h heq
    | some p =>
      rw [hfirst] at heq
      -- A result with rows joins the queue; its first row and those behind it are rows to come.
      obtain ⟨hp, hprows⟩ := Positioned.isAt_of_first? hr hfirst
      have hQp : Q p.row := hQr _ (hprows ▸ List.mem_cons_self)
      obtain ⟨hfull, hat, hperm⟩ := h.live.pushed (o := some p) fun q hq => Option.some.inj hq ▸ hp
      obtain ⟨hordered, hqueue⟩ := h.pushed (o := some p) horder
        (fun q hq => Option.some.inj hq ▸ ⟨hp, hQp⟩)
        fun q hq => Option.some.inj hq ▸ (show p.rows.Pairwise _ from hprows ▸ hrowsr)
      have hlive : IsLive ⟨keys, _, none⟩ := ⟨hfull, hat, fun q hq => nomatch hq⟩
      refine ih hresults hQ hrows ⟨hlive, hordered, fun row hrow => ?_, hqueue,
        fun q hq => nomatch hq⟩ heq
      rw [toCome_eq_flatMap rfl] at hrow
      obtain hrow | hrow := List.mem_append.1 (hperm.subset hrow)
      · exact h.rows row (List.mem_append_left _ hrow)
      · exact hQr row (hprows ▸ hrow)

/-- **The merge of sorted results is sorted.** -/
theorem isSorted_of_ofResults {results : List PartialResult}
    (horder : PreorderOn (compareRows keys) Q) (hresults : ∀ r ∈ results, r.Readable keys)
    (hQ : ∀ r ∈ results, ∀ row ∈ r.rows, Q row)
    (hrows : ∀ r ∈ results, r.rows.Pairwise (RowLe keys)) (h : ofResults keys results = .ok s) :
    s.IsSorted Q := by
  obtain ⟨queue, heq, rfl⟩ := map_eq_ok.1 h
  have hempty : IsSorted Q ⟨keys, .empty, none⟩ :=
    ⟨isLive_empty keys, Queue.isOrdered_empty, by simp [toCome], by simp, by simp⟩
  exact hempty.of_enqueueAll horder hresults hQ hrows heq

end OrderedStream

end Sorted

/-! ## Results cut off

Results of which only the first rows are left go on like the full ones as long as rows are left. -/

/-- The result with the first of its rows only. -/
def PartialResult.firstRows (count : Nat) (r : PartialResult) : PartialResult :=
  { r with rows := r.rows.take count }

theorem PartialResult.Readable.firstRows {keys : List SortKey} {r : PartialResult} (count : Nat)
    (h : r.Readable keys) : (r.firstRows count).Readable keys :=
  ⟨h.failure, fun row hrow => h.width row (List.mem_of_mem_take hrow)⟩

/-! ## Streams in step

Which row comes next depends on comparisons alone.  So two streams show the same rows as long as
they stay **in step**: their results stand on the same rows in queues of one shape. -/

/-- Two results that stand on the same row. -/
structure Positioned.SameRow (keys : List SortKey) (p p' : Positioned) : Prop where
  isAt : p.IsAt keys
  isAt' : p'.IsAt keys
  row : p.row = p'.row

/-- Results that stand on the same rows compare alike. -/
theorem Positioned.agree_of_sameRow {keys : List SortKey} {R : Positioned → Positioned → Prop}
    (hR : ∀ p p', R p p' → p.SameRow keys p') :
    Tree.Agree R (precedes keys) (precedes keys) := fun p q p' q' hp hq => by
  have hp := hR p p' hp
  have hq := hR q q' hq
  rw [precedes_eq hp.isAt hq.isAt, precedes_eq hp.isAt' hq.isAt', hp.row, hq.row]

/-- Reading on gives related results, or finds the end on both sides. -/
def PartialResult.ReadsOn (keys : List SortKey) (R : Positioned → Positioned → Prop)
    (r r' : PartialResult) : Prop :=
  (Positioned.first? keys r = none ∧ Positioned.first? keys r' = none) ∨
    ∃ p p', Positioned.first? keys r = some p ∧ Positioned.first? keys r' = some p' ∧ R p p'

namespace OrderedStream

/-- Two streams by the same keys, with related results in the queue, and in the current ones related
results to be read on. -/
structure InStep (keys : List SortKey) (R : Positioned → Positioned → Prop)
    (s s' : OrderedStream) : Prop where
  keys_eq : s.keys = keys
  keys_eq' : s'.keys = keys
  queue : s.queue.Matches R s'.queue
  current : s.current = none ∧ s'.current = none ∨
    ∃ p p', s.current = some p ∧ s'.current = some p' ∧ p.result.ReadsOn keys R p'.result

section InStep

variable {keys : List SortKey} {R : Positioned → Positioned → Prop} {s s' : OrderedStream}

/-- Reading on keeps the queues in step. -/
theorem InStep.refilled (hR : ∀ p p', R p p' → p.SameRow keys p') (h : InStep keys R s s') :
    s.refilled.queue.Matches R s'.refilled.queue := by
  obtain ⟨hkeys, hkeys', hqueue, ⟨hc, hc'⟩ | ⟨p, p', hc, hc', hreads⟩⟩ := h
  · rw [OrderedStream.refilled, OrderedStream.refilled, hc, hc']
    exact hqueue
  · rw [OrderedStream.refilled, OrderedStream.refilled, hc, hc', hkeys, hkeys']
    obtain ⟨hnone, hnone'⟩ | ⟨q, q', hq, hq', hrelated⟩ := hreads
    · simp only [Option.bind_some, hnone, hnone']
      exact hqueue
    · simp only [Option.bind_some, hq, hq', OrderedStream.pushed, hkeys, hkeys']
      exact hqueue.push (Positioned.agree_of_sameRow hR) hrelated

/-- **Streams in step** show the same row next, on related results, or come to their ends
together. -/
theorem InStep.next_cases (hR : ∀ p p', R p p' → p.SameRow keys p') (hlive : s.IsLive)
    (hlive' : s'.IsLive) (h : InStep keys R s s') :
    (∃ t t', s.next = (.ok false, t) ∧ s'.next = (.ok false, t')) ∨
      ∃ p p' q q', s.next = (.ok true, ⟨keys, q, some p⟩) ∧
        s'.next = (.ok true, ⟨keys, q', some p'⟩) ∧ R p p' ∧ q.Matches R q' := by
  have hkeys : s.refilled.keys = keys := h.keys_eq
  have hkeys' : s'.refilled.keys = keys := h.keys_eq'
  rw [hlive.next_eq, hlive'.next_eq, advance, advance, hkeys, hkeys']
  obtain ⟨hpop, hpop'⟩ | ⟨p, q, p', q', hpop, hpop', hp, hq⟩ :=
    (h.refilled hR).pop? (Positioned.agree_of_sameRow hR)
  · rw [hpop, hpop']
    exact .inl ⟨_, _, rfl, rfl⟩
  · rw [hpop, hpop']
    exact .inr ⟨p, p', q, q', rfl, rfl, hp, hq⟩

/-- One step of streams in step. -/
structure Steps (keys : List SortKey) (R : Positioned → Positioned → Prop) (p p' : Positioned)
    (t t' : OrderedStream) (rest rest' : List Row) : Prop where
  related : R p p'
  keys_eq : t.keys = keys
  keys_eq' : t'.keys = keys
  queue : t.queue.Matches R t'.queue
  current : t.current = some p
  current' : t'.current = some p'
  live : t.IsLive
  live' : t'.IsLive
  yields : t.Yields rest
  yields' : t'.Yields rest'

/-- The streams stay in step if the results they stand on read on alike. -/
theorem Steps.inStep {S : Positioned → Positioned → Prop} {p p' : Positioned}
    {t t' : OrderedStream} {rest rest' : List Row} (h : Steps keys R p p' t t' rest rest')
    (hRS : ∀ p p', R p p' → S p p') (hreads : p.result.ReadsOn keys S p'.result) :
    InStep keys S t t' :=
  ⟨h.keys_eq, h.keys_eq', h.queue.mono hRS, .inr ⟨p, p', h.current, h.current', hreads⟩⟩

/-- **What streams in step yield** begins with one row, or is nothing. -/
theorem InStep.yields_cases (hR : ∀ p p', R p p' → p.SameRow keys p') (hlive : s.IsLive)
    (hlive' : s'.IsLive) (h : InStep keys R s s') {rows rows' : List Row} (hy : s.Yields rows)
    (hy' : s'.Yields rows') :
    (rows = [] ∧ rows' = []) ∨ ∃ t t' p p' rest rest', rows = p.row :: rest ∧
      rows' = p'.row :: rest' ∧ Steps keys R p p' t t' rest rest' := by
  obtain ⟨t, t', hnext, hnext'⟩ | ⟨p, p', q, q', hnext, hnext', hp, hq⟩ :=
    h.next_cases hR hlive hlive'
  · exact .inl ⟨hy.unique (.done hnext), hy'.unique (.done hnext')⟩
  · obtain ⟨row, rest, hrow, hrest, rfl⟩ := hy.of_next hnext
    obtain ⟨row', rest', hrow', hrest', rfl⟩ := hy'.of_next hnext'
    obtain rfl : p.row = row := Option.some.inj hrow
    obtain rfl : p'.row = row' := Option.some.inj hrow'
    exact .inr ⟨_, _, p, p', rest, rest', rfl, rfl, hp, rfl, rfl, hq, rfl, rfl,
      hlive.of_next hnext, hlive'.of_next hnext', hrest, hrest'⟩

/-- **Results that read on alike** make queues in step. -/
theorem matches_enqueueAll {results results' : List PartialResult}
    {queue queue' q q' : Queue Positioned}
    (hR : ∀ p p', R p p' → p.SameRow keys p')
    (hresults : List.Forall₂ (fun r r' => r.Readable keys ∧ r'.Readable keys ∧ r.ReadsOn keys R r')
      results results')
    (h : queue.Matches R queue') (hq : enqueueAll keys queue results = .ok q)
    (hq' : enqueueAll keys queue' results' = .ok q') : q.Matches R q' := by
  induction hresults generalizing queue queue' with
  | nil => exact Except.ok.inj hq ▸ Except.ok.inj hq' ▸ h
  | @cons r r' rest rest' hr _ ih =>
    obtain ⟨hreadable, hreadable', hreads⟩ := hr
    rw [enqueueAll, Positioned.read_eq hreadable] at hq
    rw [enqueueAll, Positioned.read_eq hreadable'] at hq'
    obtain ⟨hnone, hnone'⟩ | ⟨p, p', hp, hp', hrelated⟩ := hreads
    · rw [hnone] at hq
      rw [hnone'] at hq'
      exact ih h hq hq'
    · rw [hp] at hq
      rw [hp'] at hq'
      exact ih (h.push (Positioned.agree_of_sameRow hR) hrelated) hq hq'

/-- **Merges of results that read on alike** are in step. -/
theorem inStep_of_ofResults {results results' : List PartialResult}
    (hR : ∀ p p', R p p' → p.SameRow keys p')
    (hresults : List.Forall₂ (fun r r' => r.Readable keys ∧ r'.Readable keys ∧ r.ReadsOn keys R r')
      results results')
    (hs : ofResults keys results = .ok s) (hs' : ofResults keys results' = .ok s') :
    InStep keys R s s' := by
  obtain ⟨q, hq, rfl⟩ := map_eq_ok.1 hs
  obtain ⟨q', hq', rfl⟩ := map_eq_ok.1 hs'
  exact ⟨rfl, rfl, matches_enqueueAll hR hresults Queue.matches_empty hq hq', .inl ⟨rfl, rfl⟩⟩

end InStep

/-- A merge of readable results is live. -/
theorem isLive_of_ofResults {keys : List SortKey} {results : List PartialResult}
    {s : OrderedStream} (hresults : ∀ r ∈ results, r.Readable keys)
    (h : ofResults keys results = .ok s) : s.IsLive := by
  obtain ⟨_, heq, hlive, -⟩ := exists_ofResults_eq hresults
  exact Except.ok.inj (h.symm.trans heq) ▸ hlive

end OrderedStream

/-! ### Results that are cut off

The argument is about the first rows of results, so two results are related while at least as many
rows are left as are still asked for. -/

/-- The result `p` is `p'` with at least `count` of the rows to be read. -/
structure Positioned.Cuts (keys : List SortKey) (count : Nat) (p p' : Positioned) : Prop
    extends p.SameRow keys p' where
  rows : ∃ n, count ≤ n ∧ p.result.rows = p'.result.rows.take n

namespace Positioned

variable {keys : List SortKey} {count : Nat} {p p' : Positioned}

theorem Cuts.mono {fewer : Nat} (hle : fewer ≤ count) (h : p.Cuts keys count p') :
    p.Cuts keys fewer p' :=
  ⟨h.toSameRow, h.rows.imp fun _ hn => ⟨Nat.le_trans hle hn.1, hn.2⟩⟩

theorem exists_first?_eq (keys : List SortKey) {r : PartialResult} {row : Row} {rest : List Row}
    (hrows : r.rows = row :: rest) :
    ∃ p, first? keys r = some p ∧ p.row = row ∧ p.result.rows = rest :=
  ⟨_, by rw [first?, hrows], rfl, rfl⟩

/-- Reading on takes a row off both, if one is left at all. -/
theorem readsOn_take {r r' : PartialResult} (hr : r.Readable keys) (hr' : r'.Readable keys)
    {n : Nat} (hn : count + 1 ≤ n) (hrows : r.rows = r'.rows.take n) :
    r.ReadsOn keys (Cuts keys count) r' := by
  obtain ⟨m, rfl⟩ : ∃ m, n = m + 1 := ⟨n - 1, by omega⟩
  cases hr'rows : r'.rows with
  | nil =>
    rw [hr'rows, List.take_nil] at hrows
    exact .inl ⟨first?_eq_none.2 hrows, first?_eq_none.2 hr'rows⟩
  | cons row rest =>
    rw [hr'rows, List.take_succ_cons] at hrows
    obtain ⟨p, hp, hrow, hrest⟩ := exists_first?_eq keys hrows
    obtain ⟨p', hp', hrow', hrest'⟩ := exists_first?_eq keys hr'rows
    exact .inr ⟨p, p', hp, hp', ⟨⟨(isAt_of_first? hr hp).1, (isAt_of_first? hr' hp').1,
      hrow.trans hrow'.symm⟩, m, by omega, hrest.trans (hrest' ▸ rfl)⟩⟩

end Positioned

namespace OrderedStream

variable {keys : List SortKey} {s s' : OrderedStream} {count : Nat}

/-- **The first rows do not depend on what was cut off** after as many. -/
theorem InStep.take_eq (hlive : s.IsLive) (hlive' : s'.IsLive)
    (h : InStep keys (Positioned.Cuts keys count) s s') {rows rows' : List Row}
    (hy : s.Yields rows) (hy' : s'.Yields rows') :
    rows.take (count + 1) = rows'.take (count + 1) := by
  induction count generalizing s s' rows rows' with
  | zero =>
    obtain ⟨rfl, rfl⟩ | ⟨t, t', p, p', rest, rest', rfl, rfl, hstep⟩ :=
      h.yields_cases (fun _ _ hp => hp.toSameRow) hlive hlive' hy hy'
    · rfl
    · rw [List.take_succ_cons, List.take_succ_cons, hstep.related.row, List.take_zero,
        List.take_zero]
  | succ count ih =>
    obtain ⟨rfl, rfl⟩ | ⟨t, t', p, p', rest, rest', rfl, rfl, hstep⟩ :=
      h.yields_cases (fun _ _ hp => hp.toSameRow) hlive hlive' hy hy'
    · rfl
    · obtain ⟨n, hn, hrows⟩ := hstep.related.rows
      have hreads : p.result.ReadsOn keys (Positioned.Cuts keys count) p'.result :=
        Positioned.readsOn_take hstep.related.isAt.readable hstep.related.isAt'.readable hn hrows
      have hrest := ih hstep.live hstep.live' (hstep.inStep (fun _ _ hp => hp.mono
        (Nat.le_succ count)) hreads) hstep.yields hstep.yields'
      rw [List.take_succ_cons, List.take_succ_cons, hstep.related.row, hrest]

/-- **The first `count` rows of a merge depend only on the first `count` rows of each result.** -/
theorem take_eq_of_firstRows {keys : List SortKey} {results : List PartialResult}
    {rows rows' : List Row} (hresults : ∀ r ∈ results, r.Readable keys)
    (hs : ofResults keys (results.map (PartialResult.firstRows count)) = .ok s)
    (hs' : ofResults keys results = .ok s') (hy : s.Yields rows) (hy' : s'.Yields rows') :
    rows.take count = rows'.take count := by
  cases count with
  | zero => rfl
  | succ count =>
    have hcut : ∀ r ∈ results, (r.firstRows (count + 1)).Readable keys := fun r hr =>
      (hresults r hr).firstRows _
    have hreads : List.Forall₂ (fun r r' => r.Readable keys ∧ r'.Readable keys ∧
        r.ReadsOn keys (Positioned.Cuts keys count) r')
        (results.map (PartialResult.firstRows (count + 1))) results :=
      List.forall₂_map_left_iff.2 (List.forall₂_same.2 fun r hr => ⟨hcut r hr, hresults r hr,
        Positioned.readsOn_take (hcut r hr) (hresults r hr) (Nat.le_refl _) rfl⟩)
    have hinStep := inStep_of_ofResults (fun _ _ hp => hp.toSameRow) hreads hs hs'
    exact hinStep.take_eq (isLive_of_ofResults (List.forall_mem_map.2 hcut) hs)
      (isLive_of_ofResults hresults hs') hy hy'

end OrderedStream

end ScatterGather
