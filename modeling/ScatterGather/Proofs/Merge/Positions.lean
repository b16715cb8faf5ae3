import ScatterGather.Proofs.Merge.Failure
import ScatterGather.Proofs.Merge.Pagination

/-!
# Proofs/Merge/Positions — the rows that a merge goes through, and how it ends

Every merge passes one list of rows and ends in one way (`exists_passes_of_baseCursor`,
`Passes.unique`), since less remains after each row: a queue keeps its shape, and gathering a group
takes in a row at least.

Over whole results every row can be read, and only a stream of groups may fail, where an aggregate
refuses its input (`readable_of_passes`).
-/

namespace ScatterGather

open scoped List

/-! ## Steps of merges

A base cursor is any of four things.  What they have in common is a measure that goes down at each
row, and for a queue the shape that lets it find a row as long as there is one. -/

namespace OrderedStream

variable {s : OrderedStream}

/-- **A step keeps the shape of the queue**, and shows a row that was to come. -/
theorem next_step (hfull : s.queue.IsFull) :
    s.next.2.queue.IsFull ∧ (s.next.1 = .ok true →
      ∃ p, s.next.2.current = some p ∧ s.toCome ~ p.row :: s.next.2.toCome) := by
  obtain ⟨hcurrent, hnext⟩ | ⟨c, hcurrent, ⟨e, -, hnext⟩ | ⟨o, hread, hnext⟩⟩ := s.next_cases
  · rw [hnext]
    exact advance_step hfull hcurrent
  · rw [hnext]
    exact ⟨hfull, fun h => by cases h⟩
  · obtain ⟨hfull', hshown⟩ := advance_step
      (s := { s with queue := s.pushed o, current := none }) (isFull_pushed hfull o).1 rfl
    rw [hnext]
    refine ⟨hfull', fun houtcome => (hshown houtcome).imp fun p hp => ⟨hp.1, ?_⟩⟩
    exact (toCome_pushed hfull hcurrent hread).symm.trans hp.2

theorem next_step_of_eq {outcome : Except Error Bool} {t : OrderedStream}
    (hfull : s.queue.IsFull) (h : s.next = (outcome, t)) :
    t.queue.IsFull ∧ (outcome = .ok true → t.remaining < s.remaining) := by
  have hstep := next_step hfull
  rw [h] at hstep
  refine ⟨hstep.1, fun houtcome => ?_⟩
  obtain ⟨p, -, hrows⟩ := hstep.2 houtcome
  exact remaining_lt_of_perm hrows

/-- Filling a queue with first rows keeps its shape and reads every one of them. -/
theorem isFull_enqueueAll {keys : List SortKey} {results : List PartialResult}
    {queue queue' : Queue Positioned} (hfull : queue.IsFull)
    (h : enqueueAll keys queue results = .ok queue') :
    queue'.IsFull ∧ ∀ r ∈ results, ∃ o, Positioned.read keys r = .ok o := by
  induction results generalizing queue with
  | nil =>
    obtain rfl := Except.ok.inj h
    exact ⟨hfull, fun r hr => absurd hr List.not_mem_nil⟩
  | cons r rest ih =>
    obtain ⟨o, hread, h⟩ := bind_eq_ok.1 h
    cases o with
    | none =>
      obtain ⟨hfull', hrest⟩ := ih hfull h
      exact ⟨hfull', List.forall_mem_cons.2 ⟨⟨_, hread⟩, hrest⟩⟩
    | some p =>
      have hpush : (queue.push (Positioned.precedes keys) p).IsFull := hfull.push.1
      obtain ⟨hfull', hrest⟩ := ih hpush h
      exact ⟨hfull', List.forall_mem_cons.2 ⟨⟨_, hread⟩, hrest⟩⟩

/-- A merge of sorted results has read the first row of each. -/
theorem isFull_of_ofResults {keys : List SortKey} {results : List PartialResult}
    (h : ofResults keys results = .ok s) :
    s.queue.IsFull ∧ ∀ r ∈ results, ∃ o, Positioned.read keys r = .ok o := by
  obtain ⟨queue, hqueue, rfl⟩ := map_eq_ok.1 h
  exact isFull_enqueueAll Queue.isFull_empty hqueue

end OrderedStream

namespace GroupedStream

/-- **Gathering a group** keeps the shape of the queue, and stops at a row after the first. -/
theorem Gathers.isFull_and_le {aggregates : List PlacedAggregate} {width : Nat} {key : List Value}
    {fuel : Nat} {accs out : List Accumulator} {stream : OrderedStream} {gathered : Gathered}
    (h : Gathers aggregates width key fuel accs stream gathered) (hfull : stream.queue.IsFull)
    (hok : gathered.result = .ok out) :
    gathered.stream.queue.IsFull ∧
      (gathered.pending = true → gathered.stream.remaining + min fuel 1 ≤ stream.remaining) := by
  induction h with
  | full => exact ⟨hfull, fun _ => Nat.le_refl _⟩
  | finish hnext => exact ⟨(OrderedStream.next_step_of_eq hfull hnext).1, nofun⟩
  | other hnext =>
    obtain ⟨hfull', hlt⟩ := OrderedStream.next_step_of_eq hfull hnext
    refine ⟨hfull', fun _ => ?_⟩
    have := hlt rfl
    dsimp only
    omega
  | take hnext _ _ _ _ ih =>
    obtain ⟨hfull', hlt⟩ := OrderedStream.next_step_of_eq hfull hnext
    obtain ⟨hfull'', hle⟩ := ih hfull' hok
    refine ⟨hfull'', fun hpending => ?_⟩
    have := hlt rfl
    have := hle hpending
    omega
  | fail | unreadable | refused => cases hok

/-- **A step from group to group** shows a row and leaves fewer groups to come. -/
theorem next_step {g g' : GroupedStream} (hfull : g.stream.queue.IsFull)
    (h : g.next = (.ok true, g')) :
    g'.stream.queue.IsFull ∧ g'.remaining < g.remaining ∧ ∃ row, g'.current = some row := by
  cases moves_of_next h with
  | @shown row shown _ gathered hpending _ hgathers hresult =>
    obtain ⟨out, hout, -⟩ := bind_eq_ok.1 hresult
    obtain ⟨hfull', hle⟩ := hgathers.isFull_and_le hfull hout
    refine ⟨hfull', ?_, shown, rfl⟩
    rw [remaining, remaining, if_pos hpending]
    dsimp only
    split
    · next hmore =>
      have := hle hmore
      omega
    · omega

end GroupedStream

namespace BaseCursor

/-- The queue of a merge has its shape. -/
def IsFull : BaseCursor → Prop
  | ordered s => s.queue.IsFull
  | grouped g => g.stream.queue.IsFull
  | chained _ | buffered _ _ => True

/-- A chain has one row less to show after each. -/
theorem remaining_nextChained {results results' : List PartialResult}
    (h : nextChained results = (.ok true, results')) :
    (chained results').remaining < (chained results).remaining := by
  induction results with
  | nil => cases congrArg Prod.fst h
  | cons r rest ih =>
    obtain ⟨labels, current, rows, failure⟩ := r
    cases rows with
    | cons row rows =>
      obtain rfl : ⟨labels, some row, rows, failure⟩ :: rest = results' := congrArg Prod.snd h
      simp [remaining]
    | nil =>
      cases failure with
      | some e => cases congrArg Prod.fst h
      | none => exact ih h

/-- **A step of a merge** keeps the shape of its queue and leaves less to come. -/
theorem IsFull.step {c c' : BaseCursor} (h : c.IsFull) (hnext : c.next = (.ok true, c')) :
    c'.IsFull ∧ c'.remaining < c.remaining := by
  cases c with
  | chained results =>
    obtain rfl := congrArg Prod.snd hnext
    have houtcome : (nextChained results).1 = .ok true := congrArg Prod.fst hnext
    exact ⟨trivial, remaining_nextChained (Prod.ext houtcome rfl)⟩
  | ordered s =>
    obtain rfl := congrArg Prod.snd hnext
    have houtcome : s.next.1 = .ok true := congrArg Prod.fst hnext
    obtain ⟨hfull, hlt⟩ := OrderedStream.next_step_of_eq (s := s) h (Prod.ext houtcome rfl)
    exact ⟨hfull, hlt rfl⟩
  | grouped g =>
    obtain rfl := congrArg Prod.snd hnext
    have houtcome : g.next.1 = .ok true := congrArg Prod.fst hnext
    obtain ⟨hfull, hlt, -⟩ := GroupedStream.next_step (g := g) h (Prod.ext houtcome rfl)
    exact ⟨hfull, hlt⟩
  | buffered rows current =>
    cases rows with
    | nil => cases congrArg Prod.fst hnext
    | cons row rows =>
      obtain rfl := congrArg Prod.snd hnext
      exact ⟨trivial, Nat.lt_succ_self _⟩

end BaseCursor

section Merge

variable {s : Select} {labels : List String} {caseSensitive : List Bool}
  {results : List PartialResult} {base : BaseCursor}

/-- The queue of a merge has its shape at the start. -/
theorem isFull_of_baseCursor (h : baseCursor s labels caseSensitive results = .ok base) :
    base.IsFull := by
  obtain rfl | ⟨_, _, rows, -, rfl⟩ | ⟨keys, stream, hstream, rfl⟩ | ⟨keys, g, hg, rfl⟩ :=
    baseCursor_cases h
  · trivial
  · trivial
  · exact (OrderedStream.isFull_of_ofResults hstream).1
  · obtain ⟨stream, hstream, hg⟩ := bind_eq_ok.1 hg
    have hfull := (OrderedStream.next_step (OrderedStream.isFull_of_ofResults hstream).1).1
    generalize stream.next = moved at hg hfull
    obtain ⟨e | pending, t⟩ := moved
    · cases hg
    · obtain rfl := Except.ok.inj hg
      exact hfull

/-- **However results are merged, the cursor passes some rows** and ends or fails. -/
theorem exists_passes_of_baseCursor (h : baseCursor s labels caseSensitive results = .ok base) :
    ∃ views ending, base.Passes views ending :=
  exists_passes_of_step BaseCursor.IsFull.step (isFull_of_baseCursor h)

/-! ## Whole results

Without failures in the results there is nothing to fail but an aggregate. -/

/-- A whole result whose first row could be read by keys has their columns in every row. -/
theorem PartialResult.IsWhole.readable_of_read {keys : List SortKey} {r : PartialResult}
    {o : Option Positioned} (hr : r.IsWhole labels) (h : Positioned.read keys r = .ok o) :
    r.Readable keys := by
  refine ⟨hr.failure, fun row hrow k hk => ?_⟩
  have hwidth := hr.width
  obtain ⟨_, current, rows, failure⟩ := r
  cases rows with
  | nil => exact absurd hrow List.not_mem_nil
  | cons first rest =>
    obtain ⟨cells, hcells, -⟩ := map_eq_ok.1 h
    obtain ⟨v, -, hv⟩ := mem_of_mapM_eq_ok hcells hk
    have hlt : k.index < first.length := by
      rw [PartialResult.value] at hv
      dsimp only at hv
      split at hv
      · next hget => exact (List.getElem?_eq_some_iff.1 hget).1
      · cases hv
    rwa [hwidth row hrow, ← hwidth first List.mem_cons_self]

/-- **Over whole results only a stream of groups may fail.** -/
theorem exists_yields_of_whole (h : baseCursor s labels caseSensitive results = .ok base)
    (hwhole : ∀ r ∈ results, r.IsWhole labels) (hgrouped : ∀ g, base ≠ .grouped g) :
    ∃ rows, base.Yields labels.length rows := by
  obtain rfl | ⟨_, _, rows, -, rfl⟩ | ⟨keys, stream, hstream, rfl⟩ | ⟨keys, g, -, rfl⟩ :=
    baseCursor_cases h
  · exact ⟨_, BaseCursor.yields_chained (fun r hr => (hwhole r hr).failure)
      fun r hr => (hwhole r hr).width⟩
  · exact ⟨_, BaseCursor.yields_buffered labels.length rows none⟩
  · obtain ⟨-, hread⟩ := OrderedStream.isFull_of_ofResults hstream
    obtain ⟨t, ht, hlive, -, -, hcome⟩ := OrderedStream.exists_ofResults_eq fun r hr =>
      (hread r hr).elim fun _ ho => (hwhole r hr).readable_of_read ho
    obtain rfl := Except.ok.inj (hstream.symm.trans ht)
    obtain ⟨rows, hrows, hperm⟩ := hlive.exists_yields
    refine ⟨rows, BaseCursor.yields_ordered hlive hrows fun row hrow => ?_⟩
    exact length_of_mem_flatMap hwhole row (hcome.mem_iff.1 (hperm.mem_iff.1 hrow))
  · exact absurd rfl (hgrouped g)

/-- **Over whole results every row that a merge passes can be read**, and the merge comes to its end
unless it is a stream of groups. -/
theorem readable_of_passes {views : List View} {ending : Except Error Unit}
    (h : baseCursor s labels caseSensitive results = .ok base)
    (hwhole : ∀ r ∈ results, r.IsWhole labels) (hpasses : base.Passes views ending) :
    (∀ view ∈ views, ∃ row, viewCells labels.length view = .ok row) ∧
      ((∀ g, base ≠ .grouped g) → ending = .ok ()) := by
  by_cases hgrouped : ∃ g, base = .grouped g
  · refine ⟨?_, fun hnot => hgrouped.elim fun g hg => absurd hg (hnot g)⟩
    refine hpasses.forall_mem (P := fun c => c.IsFull ∧ ∃ g, c = .grouped g) ?_
      ⟨isFull_of_baseCursor h, hgrouped⟩
    rintro _ c' ⟨hfull, g, rfl⟩ hnext
    obtain rfl := congrArg Prod.snd hnext
    have houtcome : g.next.1 = .ok true := congrArg Prod.fst hnext
    obtain ⟨hfull', -, row, hrow⟩ :=
      GroupedStream.next_step (g := g) hfull (Prod.ext houtcome rfl)
    refine ⟨⟨hfull', _, rfl⟩, visibleCells labels.length row, ?_⟩
    exact BaseCursor.mapM_value_grouped hrow labels.length
  · obtain ⟨rows, hyields⟩ := exists_yields_of_whole h hwhole fun g hg => hgrouped ⟨g, hg⟩
    obtain ⟨views', hviews, hrows⟩ := Reads.exists_passes hyields
    obtain ⟨rfl, rfl⟩ := hpasses.unique hviews
    refine ⟨fun view hview => ?_, fun _ => rfl⟩
    obtain ⟨row, -, hrow⟩ := mem_of_mapM_eq_ok hrows hview
    exact ⟨row, hrow⟩

end Merge

end ScatterGather
