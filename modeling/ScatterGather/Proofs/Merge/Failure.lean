import ScatterGather.Proofs.Merge.Cursor
import ScatterGather.Proofs.Merge.Gathering

/-!
# Proofs/Merge/Failure — a result that breaks is never taken for one that ends

A cursor **fails ahead** if moving on comes to a failure before it comes to the end (`FailsAhead`),
less remaining at each row.  A result that breaks makes every cursor over it fail ahead, whichever
way it merges the rows: a chain keeps the result until it is read through, the queue of a sorted
merge holds it until its row has been shown, and gathering a group stops at a failure of the stream
below.  HAVING passes over rows but not over a failure.  So reading a merge without a window to the
end is an error (`exists_rows_eq_error_of_failure`), and no list of rows.  Which errors the caller
gets is another question, of the values that the rows hold.

Nothing is asked of the rows here, not even that they have as many cells as there are labels: a cell
that is missing is an error as well.
-/

namespace ScatterGather

open scoped List

/-- Moving on comes to a failure before the end, with less remaining after each row. -/
inductive FailsAhead {σ : Type} (next : σ → Except Error Bool × σ) (remaining : σ → Nat) : σ → Prop
  | now {c c' : σ} {e : Error} : next c = (.error e, c') → FailsAhead next remaining c
  | later {c c' : σ} : next c = (.ok true, c') → remaining c' < remaining c →
      FailsAhead next remaining c' → FailsAhead next remaining c

/-- Moving on fails, or leads to a row with less remaining and one of these cursors again. -/
def FailsOrMoves {σ : Type} (next : σ → Except Error Bool × σ) (remaining : σ → Nat)
    (P : σ → Prop) (c : σ) : Prop :=
  (∃ e c', next c = (.error e, c')) ∨
    ∃ c', next c = (.ok true, c') ∧ P c' ∧ remaining c' < remaining c

section FailsAhead

variable {σ : Type} {next : σ → Except Error Bool × σ} {remaining : σ → Nat} {P : σ → Prop} {c : σ}

/-- **Cursors that fail or stay among themselves fail ahead**, since what remains goes down. -/
theorem FailsAhead.of_step (hstep : ∀ c, P c → FailsOrMoves next remaining P c) (h : P c) :
    FailsAhead next remaining c := by
  induction hn : remaining c using Nat.strongRecOn generalizing c with
  | ind n ih =>
    obtain ⟨e, c', hnext⟩ | ⟨c', hnext, hc', hlt⟩ := hstep c h
    · exact .now hnext
    · exact .later hnext hlt (ih _ (hn ▸ hlt) hc' rfl)

/-- With a failure ahead, the next step fails or comes nearer to it. -/
theorem FailsAhead.step (h : FailsAhead next remaining c) :
    FailsOrMoves next remaining (FailsAhead next remaining) c := by
  cases h with
  | now hnext => exact .inl ⟨_, _, hnext⟩
  | later hnext hlt hrest => exact .inr ⟨_, hnext, hrest, hlt⟩

/-- After a row the failure is still ahead. -/
theorem FailsAhead.of_next {c' : σ} (h : FailsAhead next remaining c)
    (hnext : next c = (.ok true, c')) :
    FailsAhead next remaining c' ∧ remaining c' < remaining c := by
  cases h with
  | now hfail => exact nomatch hfail.symm.trans hnext
  | later hmove hlt hrest =>
    obtain rfl := congrArg Prod.snd (hmove.symm.trans hnext)
    exact ⟨hrest, hlt⟩

/-- There is no end before the failure. -/
theorem FailsAhead.next_ne {c' : σ} (h : FailsAhead next remaining c) :
    next c ≠ (.ok false, c') := by
  intro hnext
  cases h with
  | now hfail => exact nomatch hfail.symm.trans hnext
  | later hmove _ _ => exact nomatch hmove.symm.trans hnext

/-- A step of a cursor around another one fails or moves as that does. -/
theorem FailsOrMoves.map {τ : Type} {next' : τ → Except Error Bool × τ} {remaining' : τ → Nat}
    {Q : τ → Prop} (h : FailsOrMoves next remaining P c) (f : σ → τ)
    (hnext : next' (f c) = ((next c).1, f (next c).2))
    (hremaining : ∀ c, remaining' (f c) = remaining c) (hkept : ∀ c, P c → Q (f c)) :
    FailsOrMoves next' remaining' Q (f c) := by
  obtain ⟨e, c', h⟩ | ⟨c', h, hc', hlt⟩ := h
  · exact .inl ⟨e, f c', by rw [hnext, h]⟩
  · exact .inr ⟨f c', by rw [hnext, h], hkept c' hc', by rwa [hremaining, hremaining]⟩

/-- A cursor around another one fails ahead where that does. -/
theorem FailsAhead.map {τ : Type} {next' : τ → Except Error Bool × τ} {remaining' : τ → Nat}
    (f : σ → τ) (hnext : ∀ c, next' (f c) = ((next c).1, f (next c).2))
    (hremaining : ∀ c, remaining' (f c) = remaining c) (h : FailsAhead next remaining c) :
    FailsAhead next' remaining' (f c) := by
  refine FailsAhead.of_step (P := fun d => ∃ c, d = f c ∧ FailsAhead next remaining c) ?_
    ⟨c, rfl, h⟩
  rintro _ ⟨c, rfl, h⟩
  exact h.step.map f (hnext c) hremaining fun c hc => ⟨c, rfl, hc⟩

/-- A cursor that fails ahead passes rows until then, however it shows them. -/
theorem FailsAhead.exists_passes (view : σ → View) (h : FailsAhead next remaining c) :
    ∃ views e, Passes next view remaining c views (.error e) := by
  induction h with
  | now hnext => exact ⟨[], _, .fail hnext⟩
  | later hnext hlt _ ih =>
    obtain ⟨views, e, hviews⟩ := ih
    exact ⟨_, e, .step hnext hlt hviews⟩

end FailsAhead

/-- Moving on in a sorted merge comes to a failure. -/
abbrev OrderedStream.WillFail : OrderedStream → Prop :=
  FailsAhead OrderedStream.next OrderedStream.remaining

/-- Moving on from group to group comes to a failure. -/
abbrev GroupedStream.WillFail : GroupedStream → Prop :=
  FailsAhead GroupedStream.next GroupedStream.remaining

/-- Moving on in a merge comes to a failure. -/
abbrev BaseCursor.WillFail : BaseCursor → Prop := FailsAhead BaseCursor.next BaseCursor.remaining

/-- Moving on below a window comes to a failure. -/
abbrev FilteredCursor.WillFail : FilteredCursor → Prop :=
  FailsAhead FilteredCursor.next fun c => c.base.remaining

/-! ## Sorted results

A stream reads as many results as have not come to their end.  One that will break is among them
until it does: its row waits in the queue, and after that row the result is asked for its next
one. -/

namespace Positioned

variable {keys : List SortKey} {r : PartialResult} {p : Positioned}

/-- **A result comes to its end** only after its last row, and without a failure. -/
theorem read_eq_ok_none (h : read keys r = .ok none) : r.rows = [] ∧ r.failure = none := by
  obtain ⟨labels, current, rows, failure⟩ := r
  cases rows with
  | nil =>
    cases failure with
    | none => exact ⟨rfl, rfl⟩
    | some e => exact nomatch h
  | cons row rows =>
    obtain ⟨cells, -, hcells⟩ := map_eq_ok.1 h
    exact nomatch hcells

/-- **A result that reads a row** has the same rows and the same failure. -/
theorem read_eq_ok_some (h : read keys r = .ok (some p)) :
    p.rows = r.rows ∧ p.result.failure = r.failure := by
  obtain ⟨labels, current, rows, failure⟩ := r
  cases rows with
  | nil => cases failure <;> exact nomatch h
  | cons row rows =>
    obtain ⟨cells, -, hcells⟩ := map_eq_ok.1 h
    obtain rfl := Option.some.inj hcells
    exact ⟨rfl, rfl⟩

end Positioned

namespace OrderedStream

variable {s : OrderedStream} {o : Option Positioned}

/-- The queue with one more result holds just that one in addition. -/
theorem isFull_pushed (hfull : s.queue.IsFull) (o : Option Positioned) :
    (s.pushed o).IsFull ∧ (s.pushed o).toList ~ o.toList ++ s.queue.toList := by
  cases o with
  | none => exact ⟨hfull, .refl _⟩
  | some p => exact hfull.push

/-- **A step** puts the current result back after its next row was read, unless reading that fails,
then shows the first row of the queue. -/
theorem next_cases (s : OrderedStream) :
    (s.current = none ∧ s.next = s.advance) ∨
      ∃ c, s.current = some c ∧
        ((∃ e, Positioned.read s.keys c.result = .error e ∧
            s.next = (.error e, { s with current := none })) ∨
          ∃ o, Positioned.read s.keys c.result = .ok o ∧
            s.next = advance { s with queue := s.pushed o, current := none }) := by
  obtain ⟨keys, queue, current⟩ := s
  cases current with
  | none => exact .inl ⟨rfl, rfl⟩
  | some c =>
    refine .inr ⟨c, rfl, ?_⟩
    rw [next]
    dsimp only
    cases hread : Positioned.read keys c.result with
    | error e => exact .inl ⟨e, rfl, rfl⟩
    | ok o => cases o <;> exact .inr ⟨_, rfl, rfl⟩

/-- **The first row of the queue is shown**, if there is one. -/
theorem advance_cases (hfull : s.queue.IsFull) :
    (s.queue.toList = [] ∧ s.advance = (.ok false, { s with current := none })) ∨
      ∃ p queue, queue.IsFull ∧ s.queue.toList ~ p :: queue.toList ∧
        s.advance = (.ok true, { s with queue, current := some p }) := by
  rw [advance]
  cases hpop : s.queue.pop? (Positioned.precedes s.keys) with
  | none => exact .inl ⟨hfull.pop?_eq_none.1 hpop, rfl⟩
  | some popped =>
    obtain ⟨p, queue⟩ := popped
    obtain ⟨hqueue, hperm⟩ := hfull.perm_pop? hpop
    exact .inr ⟨p, queue, hqueue, hperm, rfl⟩

/-- The results that a stream still reads. -/
def held (s : OrderedStream) : List Positioned := s.current.toList ++ s.queue.toList

/-- A stream that still reads a result which breaks. -/
structure ReadsBroken (s : OrderedStream) : Prop where
  full : s.queue.IsFull
  broken : ∃ p ∈ s.held, p.result.failure.isSome

/-- Putting the current result back leaves the same rows to come. -/
theorem toCome_pushed {c : Positioned} {o : Option Positioned} (hfull : s.queue.IsFull)
    (hcurrent : s.current = some c) (hread : Positioned.read s.keys c.result = .ok o) :
    toCome { s with queue := s.pushed o, current := none } ~ s.toCome := by
  obtain ⟨-, hperm⟩ := isFull_pushed hfull o
  have hrows := hperm.flatMap_right Positioned.rows
  rw [List.flatMap_append] at hrows
  rw [toCome_eq_flatMap rfl, toCome, hcurrent]
  cases o with
  | none =>
    change _ ~ _ ++ c.result.rows
    rwa [(Positioned.read_eq_ok_none hread).1, List.append_nil]
  | some q =>
    change _ ~ _ ++ c.result.rows
    rw [← (Positioned.read_eq_ok_some hread).1]
    exact hrows.trans (List.flatMap_singleton Positioned.rows q ▸ List.perm_append_comm)

theorem remaining_pushed {c : Positioned} {o : Option Positioned} (hfull : s.queue.IsFull)
    (hcurrent : s.current = some c) (hread : Positioned.read s.keys c.result = .ok o) :
    remaining { s with queue := s.pushed o, current := none } = s.remaining := by
  rw [remaining_eq, remaining_eq, (toCome_pushed hfull hcurrent hread).length_eq]

/-- After a row less remains. -/
theorem remaining_lt_of_perm {t : OrderedStream} {row : Row} (h : s.toCome ~ row :: t.toCome) :
    t.remaining < s.remaining := by
  rw [remaining_eq, remaining_eq, h.length_eq]
  exact Nat.lt_succ_self _

/-- Showing the first row of the queue keeps its shape, and shows a row that was to come. -/
theorem advance_step (hfull : s.queue.IsFull) (hcurrent : s.current = none) :
    s.advance.2.queue.IsFull ∧ (s.advance.1 = .ok true →
      ∃ p, s.advance.2.current = some p ∧ s.toCome ~ p.row :: s.advance.2.toCome) := by
  obtain ⟨-, hnext⟩ | ⟨p, queue, hqueue, hperm, hnext⟩ := advance_cases hfull
  · rw [hnext]
    exact ⟨hfull, fun h => by cases h⟩
  · rw [hnext]
    refine ⟨hqueue, fun _ => ⟨p, rfl, ?_⟩⟩
    have hrows : s.toCome ~ p.row :: (p.result.rows ++ queue.toList.flatMap Positioned.rows) := by
      rw [toCome_eq_flatMap hcurrent]
      exact hperm.flatMap_right Positioned.rows
    exact hrows.trans (List.perm_append_comm.cons p.row)

/-- **A stream without a current result moves on to a row** while a result in its queue breaks. -/
theorem ReadsBroken.advance_eq (h : s.ReadsBroken) (hcurrent : s.current = none) :
    ∃ s', s.advance = (.ok true, s') ∧ s'.ReadsBroken ∧ s'.remaining < s.remaining := by
  obtain ⟨hfull, p, hp, hbroken⟩ := h
  rw [held, hcurrent] at hp
  obtain ⟨hnil, -⟩ | ⟨first, queue, hqueue, hperm, hnext⟩ := advance_cases hfull
  · exact absurd (hnil ▸ hp) List.not_mem_nil
  · obtain ⟨_, -, hrows⟩ := (advance_step hfull hcurrent).2 (congrArg Prod.fst hnext)
    have hlt := remaining_lt_of_perm hrows
    rw [hnext] at hlt
    exact ⟨_, hnext, ⟨hqueue, p, hperm.subset hp, hbroken⟩, hlt⟩

/-- The stream with its current result back in the queue, or without it at its end. -/
theorem ReadsBroken.pushed {c : Positioned} (h : s.ReadsBroken) (hcurrent : s.current = some c)
    (hread : Positioned.read s.keys c.result = .ok o) :
    ReadsBroken { s with queue := s.pushed o, current := none } ∧
      remaining { s with queue := s.pushed o, current := none } = s.remaining := by
  obtain ⟨hfull, p, hp, hbroken⟩ := h
  refine ⟨?_, remaining_pushed hfull hcurrent hread⟩
  obtain ⟨hpushed, hperm⟩ := isFull_pushed hfull o
  rw [held, hcurrent] at hp
  cases o with
  | none =>
    refine ⟨hfull, p, ?_, hbroken⟩
    obtain rfl | hp := List.mem_cons.1 hp
    · rw [(Positioned.read_eq_ok_none hread).2] at hbroken
      cases hbroken
    · exact hp
  | some q =>
    refine ⟨hpushed, ?_⟩
    obtain rfl | hp := List.mem_cons.1 hp
    · exact ⟨q, hperm.symm.subset List.mem_cons_self,
        (Positioned.read_eq_ok_some hread).2 ▸ hbroken⟩
    · exact ⟨p, hperm.symm.subset (List.mem_cons_of_mem q hp), hbroken⟩

/-- **A step of a stream that reads a broken result** fails or keeps it. -/
theorem ReadsBroken.step (h : s.ReadsBroken) :
    FailsOrMoves next remaining ReadsBroken s := by
  obtain ⟨hcurrent, hnext⟩ | ⟨c, hcurrent, ⟨e, -, hnext⟩ | ⟨o, hread, hnext⟩⟩ := s.next_cases
  · obtain ⟨s', hs', hbroken⟩ := h.advance_eq hcurrent
    exact .inr ⟨s', hnext.trans hs', hbroken⟩
  · exact .inl ⟨e, _, hnext⟩
  · obtain ⟨hpushed, hremaining⟩ := h.pushed hcurrent hread
    obtain ⟨s', hs', hbroken, hlt⟩ := hpushed.advance_eq rfl
    exact .inr ⟨s', hnext.trans hs', hbroken, hremaining ▸ hlt⟩

/-- The queue of all results holds those that break. -/
theorem exists_mem_enqueueAll {keys : List SortKey} {results : List PartialResult}
    {queue queue' : Queue Positioned} (hfull : queue.IsFull)
    (h : enqueueAll keys queue results = .ok queue')
    (hbroken : (∃ p ∈ queue.toList, p.result.failure.isSome) ∨ ∃ r ∈ results, r.failure.isSome) :
    queue'.IsFull ∧ ∃ p ∈ queue'.toList, p.result.failure.isSome := by
  induction results generalizing queue with
  | nil =>
    obtain rfl := Except.ok.inj h
    exact ⟨hfull, hbroken.resolve_right fun ⟨r, hr, _⟩ => nomatch hr⟩
  | cons r rest ih =>
    obtain ⟨o, hread, h⟩ := bind_eq_ok.1 h
    cases o with
    | none =>
      refine ih hfull h (hbroken.imp_right ?_)
      rintro ⟨r', hr', hfails⟩
      obtain rfl | hr' := List.mem_cons.1 hr'
      · rw [(Positioned.read_eq_ok_none hread).2] at hfails
        exact nomatch hfails
      · exact ⟨r', hr', hfails⟩
    | some p =>
      have hpush : (queue.push (Positioned.precedes keys) p).IsFull ∧
          (queue.push (Positioned.precedes keys) p).toList ~ p :: queue.toList := hfull.push
      obtain ⟨hpushed, hperm⟩ := hpush
      refine ih hpushed h ?_
      obtain ⟨q, hq, hfails⟩ | ⟨r', hr', hfails⟩ := hbroken
      · exact .inl ⟨q, hperm.symm.subset (List.mem_cons_of_mem p hq), hfails⟩
      · obtain rfl | hr' := List.mem_cons.1 hr'
        · refine .inl ⟨p, hperm.symm.subset List.mem_cons_self, ?_⟩
          rwa [(Positioned.read_eq_ok_some hread).2]
        · exact .inr ⟨r', hr', hfails⟩

/-- **A merge of sorted results fails ahead** if one of them breaks. -/
theorem willFail_of_failure {keys : List SortKey} {results : List PartialResult}
    (h : ofResults keys results = .ok s) (hfailure : ∃ r ∈ results, r.failure.isSome) :
    s.WillFail := by
  obtain ⟨queue, hqueue, rfl⟩ := map_eq_ok.1 h
  obtain ⟨hfull, hbroken⟩ := exists_mem_enqueueAll Queue.isFull_empty hqueue (.inr hfailure)
  exact FailsAhead.of_step (fun _ => ReadsBroken.step) ⟨hfull, hbroken⟩

end OrderedStream

/-! ## Groups

Groups are gathered row by row from a stream that fails ahead, or folded in memory from whole
results.  Neither comes past the failure. -/

namespace GroupedStream

variable {aggregates : List PlacedAggregate} {g : GroupedStream}

/-- **Gathering a group from a stream that fails ahead** fails, or stops before the failure. -/
theorem Gathers.error_or_willFail {width : Nat} {key : List Value} {fuel : Nat}
    {accs : List Accumulator} {stream : OrderedStream} {gathered : Gathered}
    (hgathers : Gathers aggregates width key fuel accs stream gathered) (h : stream.WillFail) :
    (∃ e, gathered.result = .error e) ∨
      gathered.pending = true ∧ gathered.stream.WillFail ∧
        gathered.stream.remaining + min fuel 1 ≤ stream.remaining := by
  induction hgathers with
  | full => exact .inr ⟨rfl, h, Nat.le_refl _⟩
  | finish hnext => exact absurd hnext h.next_ne
  | other hnext =>
    obtain ⟨hfail, hlt⟩ := h.of_next hnext
    exact .inr ⟨rfl, hfail, by dsimp only; omega⟩
  | take hnext _ _ _ _ ih =>
    obtain ⟨ht, hlt⟩ := h.of_next hnext
    refine (ih ht).imp_right fun ⟨hpending, hfail, hle⟩ => ⟨hpending, hfail, ?_⟩
    omega
  | fail | unreadable | refused => exact .inl ⟨_, rfl⟩

/-- A stream that stands on a row of the next group and fails ahead. -/
structure StandsBeforeFailure (g : GroupedStream) : Prop where
  pending : g.pending = true
  stream : g.stream.WillFail

/-- **A step from group to group** fails, or stops before the failure. -/
theorem StandsBeforeFailure.step (h : g.StandsBeforeFailure) :
    FailsOrMoves next remaining StandsBeforeFailure g := by
  rw [FailsOrMoves]
  rcases hnext : g.next with ⟨outcome, g'⟩
  cases moves_of_next hnext with
  | finish hpending => cases hpending.symm.trans h.pending
  | unbegun | unshown => exact .inl ⟨_, _, rfl⟩
  | shown _ _ hgathers hresult =>
    obtain ⟨e, he⟩ | ⟨hpending, hfail, hle⟩ := hgathers.error_or_willFail h.stream
    · rw [he] at hresult
      cases hresult
    · refine .inr ⟨_, rfl, ⟨hpending, hfail⟩, ?_⟩
      rw [remaining, remaining, if_pos hpending, if_pos h.pending]
      dsimp only
      omega

/-- **A merge of results in group order fails ahead** if one of them breaks. -/
theorem willFail_of_failure {list : SelectList} {keys : List SortKey}
    {results : List PartialResult} (h : ofResults list keys results = .ok g)
    (hfailure : ∃ r ∈ results, r.failure.isSome) : g.WillFail := by
  obtain ⟨stream, hstream, h⟩ := bind_eq_ok.1 h
  obtain ⟨e, t, hnext⟩ | ⟨t, hnext, ht, -⟩ :=
    (OrderedStream.willFail_of_failure hstream hfailure).step
  · rw [hnext] at h
    exact nomatch h
  · rw [hnext] at h
    obtain rfl := Except.ok.inj h
    exact FailsAhead.of_step (fun _ => StandsBeforeFailure.step) ⟨rfl, ht⟩

end GroupedStream

section GroupAll

variable {aggregates : List PlacedAggregate} {keys : List SortKey}

/-- **Folding the rows of a result that breaks** fails after the last row, if not before. -/
theorem foldResult_ne_ok {labels : List String} {failure : Option Error} {groups out : List Group}
    {rows : List Row} (hfailure : failure.isSome) :
    foldResult aggregates keys labels failure groups rows ≠ .ok out := by
  intro h
  induction rows generalizing groups with
  | nil =>
    obtain ⟨e, rfl⟩ := Option.isSome_iff_exists.1 hfailure
    exact nomatch h
  | cons row rest ih =>
    obtain ⟨cells, -, h⟩ := bind_eq_ok.1 h
    obtain ⟨groups', -, h⟩ := bind_eq_ok.1 h
    exact ih h

/-- Folding several results fails if one of them breaks. -/
theorem foldlM_foldResult_ne_ok {results : List PartialResult} {groups out : List Group}
    (hfailure : ∃ r ∈ results, r.failure.isSome) :
    results.foldlM (fun groups r => foldResult aggregates keys r.labels r.failure groups r.rows)
      groups ≠ .ok out := by
  intro h
  induction results generalizing groups with
  | nil => simp at hfailure
  | cons r rest ih =>
    rw [List.foldlM_cons] at h
    obtain ⟨groups', hr, hrest⟩ := bind_eq_ok.1 h
    obtain ⟨r', hr', hfails⟩ := hfailure
    obtain rfl | hr' := List.mem_cons.1 hr'
    · exact foldResult_ne_ok hfails hr
    · exact ih ⟨r', hr', hfails⟩ hrest

/-- **Groups in memory need every result whole.** -/
theorem groupAll_ne_ok {list : SelectList} {groupKeys orderKeys : List SortKey}
    {results : List PartialResult} {rows : List Row}
    (hfailure : ∃ r ∈ results, r.failure.isSome) :
    groupAll list groupKeys orderKeys results ≠ .ok rows := by
  intro h
  obtain ⟨groups, hgroups, -⟩ := bind_eq_ok.1 h
  exact foldlM_foldResult_ne_ok hfailure hgroups

end GroupAll

/-! ## Merges

The layers of a merge are gone through from the inside out.  None of them turns a failure below into
an end. -/

namespace BaseCursor

/-- **A chain keeps a result that breaks** until it is read through. -/
theorem failsOrMoves_nextChained {results : List PartialResult}
    (h : ∃ r ∈ results, r.failure.isSome) :
    FailsOrMoves nextChained (fun results => (chained results).remaining)
      (fun results => ∃ r ∈ results, r.failure.isSome) results := by
  induction results with
  | nil => simp at h
  | cons r rest ih =>
    obtain ⟨labels, current, rows, failure⟩ := r
    cases rows with
    | cons row rows =>
      refine .inr ⟨_, rfl, ?_, by simp [remaining]⟩
      obtain ⟨r', hr', hfails⟩ := h
      obtain rfl | hr' := List.mem_cons.1 hr'
      · exact ⟨_, List.mem_cons_self, hfails⟩
      · exact ⟨r', List.mem_cons_of_mem _ hr', hfails⟩
    | nil =>
      cases failure with
      | some e => exact .inl ⟨e, _, rfl⟩
      | none =>
        obtain ⟨r', hr', hfails⟩ := h
        obtain rfl | hr' := List.mem_cons.1 hr'
        · cases hfails
        · exact ih ⟨r', hr', hfails⟩

/-- A chain with a result that breaks fails ahead. -/
theorem willFail_chained {results : List PartialResult} (h : ∃ r ∈ results, r.failure.isSome) :
    (chained results).WillFail :=
  (FailsAhead.of_step (fun _ => failsOrMoves_nextChained) h).map chained (fun _ => rfl)
    fun _ => rfl

end BaseCursor

/-- A merge in order fails where its stream does. -/
theorem OrderedStream.WillFail.base {s : OrderedStream} (h : s.WillFail) :
    (BaseCursor.ordered s).WillFail :=
  h.map BaseCursor.ordered (fun _ => rfl) fun _ => rfl

/-- A merge of groups fails where its stream does. -/
theorem GroupedStream.WillFail.base {g : GroupedStream} (h : g.WillFail) :
    (BaseCursor.grouped g).WillFail :=
  h.map BaseCursor.grouped (fun _ => rfl) fun _ => rfl

section BaseCursor

variable {s : Select} {labels : List String} {caseSensitive : List Bool}
  {results : List PartialResult} {base : BaseCursor}

/-- **The ways to merge**: a chain, groups in memory, a stream in order or one of groups. -/
theorem baseCursor_cases (h : baseCursor s labels caseSensitive results = .ok base) :
    base = .chained results ∨
      (∃ groupKeys orderKeys rows, groupAll s.list groupKeys orderKeys results = .ok rows ∧
        base = .buffered rows none) ∨
      (∃ keys stream, OrderedStream.ofResults keys results = .ok stream ∧ base = .ordered stream) ∨
      ∃ keys g, GroupedStream.ofResults s.list keys results = .ok g ∧ base = .grouped g := by
  have hgroups : ∀ {groupBy : List OrderItem},
      groupCursor s groupBy labels caseSensitive results = .ok base →
        (∃ groupKeys orderKeys rows, groupAll s.list groupKeys orderKeys results = .ok rows ∧
          base = .buffered rows none) ∨
        ∃ keys g, GroupedStream.ofResults s.list keys results = .ok g ∧ base = .grouped g := by
    intro groupBy h
    obtain ⟨groupKeys, -, h⟩ := bind_eq_ok.1 h
    split at h
    · obtain ⟨g, hg, h⟩ := bind_eq_ok.1 h
      obtain rfl := Except.ok.inj h
      exact .inr ⟨groupKeys, g, hg, rfl⟩
    · obtain ⟨orderKeys, -, h⟩ := bind_eq_ok.1 h
      obtain ⟨rows, hrows, h⟩ := bind_eq_ok.1 h
      obtain rfl := Except.ok.inj h
      exact .inl ⟨groupKeys, orderKeys, rows, hrows, rfl⟩
  rw [baseCursor] at h
  split at h
  · exact .inr ((hgroups h).imp_right .inr)
  · split at h
    · exact .inr ((hgroups h).imp_right .inr)
    · split at h
      · obtain ⟨keys, -, h⟩ := bind_eq_ok.1 h
        obtain ⟨stream, hstream, h⟩ := bind_eq_ok.1 h
        obtain rfl := Except.ok.inj h
        exact .inr (.inr (.inl ⟨keys, stream, hstream, rfl⟩))
      · exact .inl (Except.ok.inj h).symm

/-- **However results are merged, the cursor fails ahead** if one of them breaks. -/
theorem willFail_of_baseCursor (hfailure : ∃ r ∈ results, r.failure.isSome)
    (h : baseCursor s labels caseSensitive results = .ok base) : base.WillFail := by
  obtain rfl | ⟨_, _, rows, hrows, -⟩ | ⟨keys, stream, hstream, rfl⟩ | ⟨keys, g, hg, rfl⟩ :=
    baseCursor_cases h
  · exact BaseCursor.willFail_chained hfailure
  · exact absurd hrows (groupAll_ne_ok hfailure)
  · exact (OrderedStream.willFail_of_failure hstream hfailure).base
  · exact (GroupedStream.willFail_of_failure hg hfailure).base

end BaseCursor

namespace FilteredCursor

/-- **HAVING passes over rows**, not over a failure. -/
theorem failsOrMoves_nextKept {h : Having} {fuel : Nat} {base : BaseCursor} (hbase : base.WillFail)
    (hfuel : base.remaining < fuel) :
    FailsOrMoves (nextKept h fuel) BaseCursor.remaining BaseCursor.WillFail base := by
  induction hbase generalizing fuel with
  | now hnext =>
    obtain ⟨fuel, rfl⟩ := Nat.exists_eq_add_one_of_ne_zero (Nat.ne_zero_of_lt hfuel)
    exact .inl ⟨_, _, nextKept_of_stop hnext (by simp)⟩
  | @later base b hnext hlt hb ih =>
    obtain ⟨fuel, rfl⟩ := Nat.exists_eq_add_one_of_ne_zero (Nat.ne_zero_of_lt hfuel)
    rw [FailsOrMoves]
    rcases hkeeps : h.keeps b.value with e | _ | _
    · exact .inl ⟨e, b, nextKept_of_row hnext hkeeps (by simp)⟩
    · rw [nextKept_of_refused hnext hkeeps]
      exact (ih (by omega)).imp_right fun ⟨b', hnext', hb', hlt'⟩ =>
        ⟨b', hnext', hb', Nat.lt_trans hlt' hlt⟩
    · exact .inr ⟨b, nextKept_of_row hnext hkeeps (by simp), hb, hlt⟩

/-- **With or without HAVING**, a cursor fails ahead where the merge below does. -/
theorem willFail_of_base {c : FilteredCursor} (h : c.base.WillFail) : c.WillFail := by
  refine FailsAhead.of_step (P := fun c => c.base.WillFail) (fun c h => ?_) h
  obtain ⟨base, having⟩ := c
  cases having with
  | none =>
    exact (FailsAhead.step h).map (FilteredCursor.mk · none) rfl (fun _ => rfl) fun _ hb => hb
  | some condition =>
    have hkept : FailsOrMoves (nextKept condition (base.remaining + 1)) BaseCursor.remaining
        BaseCursor.WillFail base := failsOrMoves_nextKept h (Nat.lt_succ_self _)
    exact hkept.map (FilteredCursor.mk · (some condition)) rfl (fun _ => rfl) fun _ hb => hb

/-- **Reading a cursor that fails ahead** ends in an error, given fuel for all rows. -/
theorem WillFail.exists_readRows_eq {width fuel : Nat} {c : FilteredCursor} (h : c.WillFail)
    (hfuel : c.base.remaining < fuel) :
    ∃ rows e, MergedCursor.readRows width fuel ⟨c, none⟩ = (rows, some e) := by
  obtain ⟨views, e, hviews⟩ := FailsAhead.exists_passes (fun c => c.base.value) h
  have hread : outcomeOf (MergedCursor.readRows width fuel ⟨c, none⟩) =
      readOff width views (.error e) :=
    FilteredCursor.Passes.outcomeOf_readRows hviews (Nat.lt_of_le_of_lt hviews.length_le hfuel)
  obtain ⟨e', he'⟩ : ∃ e', readOff width views (.error e) = .error e' := by
    rw [readOff]
    cases views.mapM (viewCells width) <;> exact ⟨_, rfl⟩
  obtain ⟨rows, hrows⟩ := outcomeOf_eq_error.1 (hread.trans he')
  exact ⟨rows, e', hrows⟩

end FilteredCursor

section Merge

variable {dialect : Dialect} {schema : Schema} {statement : Statement} {parameters : List Value}
  {results : List PartialResult}

/-- A cursor that got no window is that of its rows. -/
theorem eq_of_windowed {s : Select} {c : FilteredCursor} {m : MergedCursor}
    (h : windowed dialect s parameters c = .ok m) (hwindow : m.window = none) : m = ⟨c, none⟩ := by
  have hopen : ∀ {offset last fromFirst},
      openWindow c offset last fromFirst = .ok m → m = ⟨c, none⟩ := by
    intro offset last fromFirst h
    obtain ⟨skipped, -, h⟩ := bind_eq_ok.1 h
    obtain rfl := Except.ok.inj h
    exact nomatch hwindow
  rw [windowed] at h
  split at h
  · exact (Except.ok.inj h).symm
  · obtain ⟨offset, -, h⟩ := bind_eq_ok.1 h
    obtain ⟨last, -, h⟩ := bind_eq_ok.1 h
    split at h
    · exact hopen h
    · exact hopen h
    · exact hopen h
    · exact (Except.ok.inj h).symm

/-- The cursor of a statement whose results pass through. -/
def passing (results : List PartialResult) : MergedResult :=
  ⟨(results.head?.map (·.labels)).getD [], ⟨⟨.chained results, none⟩, none⟩⟩

/-- **A merge passes the results through**, unless it is that of a SELECT over several ones. -/
theorem merge_eq_passing_or (dialect : Dialect) (schema : Schema) (statement : Statement)
    (parameters : List Value) (results : List PartialResult) :
    merge dialect schema statement parameters results = .ok (passing results) ∨
      ∃ s labels, statement = .select s ∧ 1 < results.length ∧
        labels = (results.head?.map (·.labels)).getD [] ∧
        merge dialect schema statement parameters results =
          (selectCursor dialect schema s statement.tables labels parameters results).map
            fun cursor => ⟨labels, cursor⟩ := by
  cases statement with
  | select s =>
    rw [merge.eq_1]
    split
    · next hcount => exact .inr ⟨s, _, rfl, hcount, rfl, rfl⟩
    · exact .inl rfl
  | insert _ | update _ | delete _ | ddl _ | dal _ => exact .inl rfl

/-- The cursor of a merge that succeeds. -/
theorem merge_cases {m : MergedResult}
    (h : merge dialect schema statement parameters results = .ok m) :
    m = passing results ∨
      ∃ s base labels, statement = .select s ∧
        baseCursor s labels (caseSensitivity labels statement.tables schema) results = .ok base ∧
        windowed dialect s parameters
          ⟨base, s.having.map fun condition => ⟨condition, labels, parameters⟩⟩ = .ok m.cursor ∧
        labels = (results.head?.map (·.labels)).getD [] := by
  obtain heq | ⟨s, labels, hs, -, hlabels, heq⟩ :=
    merge_eq_passing_or dialect schema statement parameters results
  · exact .inl (Except.ok.inj (h.symm.trans heq))
  · rw [heq] at h
    obtain ⟨cursor, hcursor, rfl⟩ := map_eq_ok.1 h
    obtain ⟨base, hbase, hwindowed⟩ := bind_eq_ok.1 hcursor
    exact .inr ⟨s, base, labels, hs, hbase, hwindowed, hlabels⟩

/-- **The rows of a merge without a window fail ahead** if a result breaks. -/
theorem willFail_of_merge {m : MergedResult}
    (h : merge dialect schema statement parameters results = .ok m)
    (hwindow : m.cursor.window = none) (hfailure : ∃ r ∈ results, r.failure.isSome) :
    ∃ c : FilteredCursor, m.cursor = ⟨c, none⟩ ∧ c.WillFail := by
  obtain rfl | ⟨s, base, labels, -, hbase, hwindowed, -⟩ := merge_cases h
  · exact ⟨_, rfl, FilteredCursor.willFail_of_base (BaseCursor.willFail_chained hfailure)⟩
  · exact ⟨_, eq_of_windowed hwindowed hwindow,
      FilteredCursor.willFail_of_base (willFail_of_baseCursor hfailure hbase)⟩

/-- **Rows are never read past a result that breaks.**  Where one of the results breaks before it
ends, merging them without a window and reading all rows fails, however they are merged and whatever
HAVING keeps. -/
theorem exists_rows_eq_error_of_failure (hfailure : ∃ r ∈ results, r.failure.isSome)
    (hwindow : ∀ m, merge dialect schema statement parameters results = .ok m →
      m.cursor.window = none) :
    ∃ e, (merge dialect schema statement parameters results).bind MergedResult.rows =
      .error e := by
  cases hm : merge dialect schema statement parameters results with
  | error e => exact ⟨e, rfl⟩
  | ok m =>
    obtain ⟨c, hc, hfail⟩ := willFail_of_merge hm (hwindow m hm) hfailure
    obtain ⟨rows, e, hread⟩ : ∃ rows e, MergedCursor.readRows m.labels.length
        (c.base.remaining + 1) ⟨c, none⟩ = (rows, some e) :=
      hfail.exists_readRows_eq (Nat.lt_succ_self _)
    refine ⟨e, ?_⟩
    change m.rows = .error e
    rw [MergedResult.rows, MergedResult.readAll, MergedCursor.readAll, hc, hread]

/-- A SELECT without a window gets none. -/
theorem window_eq_none_of_merge {s : Select} {m : MergedResult} (hs : s.window? = none)
    (h : merge dialect schema (.select s) parameters results = .ok m) : m.cursor.window = none := by
  obtain rfl | ⟨_, base, labels, ⟨⟩, -, hwindowed, -⟩ := merge_cases h
  · rfl
  · rw [windowed, hs] at hwindowed
    rw [← Except.ok.inj hwindowed]

end Merge

/-- The items of a table by their keys. -/
def itemsByKey : Select where
  tables := ["t_item"]
  list := ⟨[.column "k" none], false⟩
  condition := none
  groupBy := []
  orderBy := [⟨.label "k", .asc, .low, none⟩]
  having := none
  pagination := none
  lock := false
  subquery := false

/-- Keys that a node returns. -/
def keysOf (ns : List Int64) : PartialResult := .ofRows ["k"] (ns.map fun n => [.integer n])

/-- A connection that broke. -/
def cursorLost : Error := .executionFailed "ds_x" "cursor lost"

/-! The connection to the first node breaks after two keys. -/

example : (merge .mySQL .empty (.select itemsByKey) []
    [(keysOf [1, 4]).failingAfter 2 cursorLost, keysOf [2, 3]]).bind MergedResult.rows =
      .error cursorLost := by
  rfl

end ScatterGather
