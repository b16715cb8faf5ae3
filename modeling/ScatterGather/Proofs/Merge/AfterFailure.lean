import Mathlib.Logic.Function.Iterate
import Mathlib.Logic.Relation
import ScatterGather.Proofs.Merge.Failure

/-!
# Proofs/Merge/AfterFailure — what a merge shows after a result was lost

A call **loses a result** if it fails because the next row of a result could not be read
(`MergedResult.LosesResult`); the call may have passed over rows before it, those of a group or
those that HAVING refuses.  What is left then decides what later calls show:

* a chain stands before the lost result and fails again;
* a group stream has no row to begin the next group with, and fails again, unless its rows have no
  columns at all;
* a merge in order has left the lost result out, so it goes on with what stands in its queue.

So no row is shown any more unless the merge below **goes on** (`BaseCursor.GoesOn`), and in order
it goes on as if the lost result had come to its end (`MergedResult.next_of_lost`).
-/

namespace ScatterGather

/-- Moving on leads from the one to the other over rows. -/
abbrev MovesOver {σ : Type} (next : σ → Except Error Bool × σ) : σ → σ → Prop :=
  Relation.ReflTransGen fun c d => next c = (.ok true, d)

/-- These stay among themselves when they are moved on, and show no row. -/
structure ShowsNoMore {σ : Type} (next : σ → Except Error Bool × σ) (P : σ → Prop) : Prop where
  outcome : ∀ c, P c → (next c).1 ≠ .ok true
  kept : ∀ c, P c → P (next c).2

/-- **What shows no more row never does**, however often it is moved on. -/
theorem ShowsNoMore.iterate {σ : Type} {next : σ → Except Error Bool × σ} {P : σ → Prop}
    (h : ShowsNoMore next P) {c : σ} (hc : P c) (n : Nat) : P ((fun c => (next c).2)^[n] c) := by
  induction n generalizing c with
  | zero => exact hc
  | succ n ih => exact ih (h.kept c hc)

/-! ## Losing a result

Every layer of a merge has its own way to pass a failure on: a group has been gathering rows, HAVING
has been refusing them.  The definitions look through to the result whose row could not be read. -/

/-- The call fails, and it is the stream that failed, on a row of the group or the one after. -/
def GroupedStream.LosesResult (g : GroupedStream) (e : Error) : Prop :=
  g.next.1 = .error e ∧ ∃ t, MovesOver OrderedStream.next g.stream t ∧ t.next.1 = .error e ∧
    g.next.2.stream = t.next.2

/-- The call fails because a result does.  A chain and a merge in order fail for no other reason,
and rows in memory do not fail. -/
def BaseCursor.LosesResult (e : Error) : BaseCursor → Prop
  | chained results => (nextChained results).1 = .error e
  | ordered s => s.next.1 = .error e
  | grouped g => g.LosesResult e
  | buffered _ _ => False

/-- The call fails, and it is the merge below that failed, maybe after rows that HAVING refused. -/
def FilteredCursor.LosesResult (c : FilteredCursor) (e : Error) : Prop :=
  c.next.1 = .error e ∧ ∃ b, MovesOver BaseCursor.next c.base b ∧ b.LosesResult e ∧
    c.next.2.base = b.next.2

/-- The call fails because a result does. -/
def MergedResult.LosesResult (r : MergedResult) (e : Error) : Prop :=
  r.next.1 = .error e ∧ r.cursor.rows.LosesResult e

/-- A merge that goes on after a result was lost: other results stand in the queue of a merge in
order, or groups are made of rows without columns. -/
def BaseCursor.GoesOn : BaseCursor → Prop
  | ordered s => (s.queue.pop? (Positioned.precedes s.keys)).isSome
  | grouped g => g.width = 0
  | chained _ | buffered _ _ => False

/-- A merge that cannot show a row any more: its chain stands before a lost result, its queue is
empty, or its stream stands on no row to begin a group with. -/
def BaseCursor.IsBroken : BaseCursor → Prop
  | chained results => ∃ r rest, results = r :: rest ∧ r.rows = [] ∧ r.failure.isSome
  | ordered s => s.current = none ∧ s.queue.pop? (Positioned.precedes s.keys) = none
  | grouped g => g.pending = true ∧ ∃ e, GroupedStream.streamRow g.width g.stream = .error e
  | buffered _ _ => False

/-! ## Streams

What a failed call leaves behind, for the two kinds of stream. -/

namespace OrderedStream

variable {s : OrderedStream} {e : Error}

/-- **A failure leaves the current result out**, and nothing else changes. -/
theorem snd_next_of_error (h : s.next.1 = .error e) : s.next.2 = { s with current := none } := by
  have hadvance : ∀ u : OrderedStream, u.advance.1 ≠ .error e := by
    intro u hu
    rw [advance] at hu
    split at hu <;> cases hu
  obtain ⟨-, hnext⟩ | ⟨c, -, ⟨e', -, hnext⟩ | ⟨o, -, hnext⟩⟩ := s.next_cases
  · exact absurd (hnext ▸ h) (hadvance _)
  · rw [hnext]
  · exact absurd (hnext ▸ h) (hadvance _)

/-- Without a current result a row is shown exactly if one stands in the queue. -/
theorem next_eq_ok_true_iff (hcurrent : s.current = none) :
    s.next.1 = .ok true ↔ (s.queue.pop? (Positioned.precedes s.keys)).isSome := by
  obtain ⟨keys, queue, current⟩ := s
  obtain rfl : current = none := hcurrent
  rw [next, advance]
  dsimp only
  cases queue.pop? (Positioned.precedes keys) <;> simp

/-- No row can be read where the stream stands on none, unless it has no cells. -/
theorem exists_streamRow_eq_error {width : Nat} (hwidth : width ≠ 0) (hcurrent : s.current = none) :
    ∃ e, GroupedStream.streamRow width s = .error e :=
  exists_mapM_eq_error (List.mem_range.2 (Nat.pos_of_ne_zero hwidth)) (by rw [value, hcurrent])

end OrderedStream

namespace GroupedStream

variable {g : GroupedStream} {e : Error}

/-- **A failure between groups** leaves a group to be begun. -/
theorem pending_of_error (h : g.next.1 = .error e) : g.next.2.pending = true := by
  rcases hnext : g.next with ⟨outcome, g'⟩
  rw [hnext] at h
  cases moves_of_next hnext with
  | finish | shown => cases h
  | unbegun hpending => exact hpending
  | unshown hpending => exact hpending

/-- A group that cannot be begun fails for good. -/
theorem next_eq_of_streamRow (hpending : g.pending = true)
    (hrow : streamRow g.width g.stream = .error e) : g.next = (.error e, g) := by
  have hbegin : g.beginGroup = .error e := by
    rw [beginGroup, hrow]
    rfl
  rw [next, hpending, hbegin]
  rfl

/-- **A lost result leaves no row to begin the next group with.** -/
theorem LosesResult.isBroken (h : g.LosesResult e) (hwidth : g.next.2.width ≠ 0) :
    (BaseCursor.grouped g.next.2).IsBroken := by
  obtain ⟨hnext, t, -, ht, hstream⟩ := h
  have hcurrent : g.next.2.stream.current = none := by
    rw [hstream, OrderedStream.snd_next_of_error ht]
  exact ⟨pending_of_error hnext, OrderedStream.exists_streamRow_eq_error hwidth hcurrent⟩

end GroupedStream

/-! ## Layers

From the merge below up to the window: a broken merge stays as it is, and no layer above it makes a
row out of nothing. -/

namespace BaseCursor

variable {c : BaseCursor} {e : Error}

/-- A chain that fails stands before the result that failed. -/
theorem isBroken_chained {results : List PartialResult}
    (h : (nextChained results).1 = .error e) : (chained (nextChained results).2).IsBroken := by
  induction results with
  | nil => cases h
  | cons r results ih =>
    obtain ⟨labels, current, rows, failure⟩ := r
    cases rows with
    | cons row rows => cases h
    | nil =>
      cases failure with
      | none => exact ih h
      | some e' => exact ⟨_, _, rfl, rfl, rfl⟩

/-- **A merge that lost a result is broken**, unless it goes on. -/
theorem LosesResult.isBroken (h : c.LosesResult e) (hends : ¬ c.next.2.GoesOn) :
    c.next.2.IsBroken := by
  cases c with
  | chained results => exact isBroken_chained h
  | ordered s =>
    exact ⟨congrArg OrderedStream.current (OrderedStream.snd_next_of_error h),
      Option.not_isSome_iff_eq_none.1 hends⟩
  | grouped g => exact GroupedStream.LosesResult.isBroken h hends
  | buffered rows current => exact h.elim

/-- A merge in order that lost a result stands on no row. -/
theorem LosesResult.current_eq_none {s : OrderedStream} (h : c.LosesResult e)
    (hs : c.next.2 = ordered s) : s.current = none := by
  cases c with
  | chained results => cases hs
  | ordered t =>
    rw [← BaseCursor.ordered.inj hs]
    exact congrArg OrderedStream.current (OrderedStream.snd_next_of_error h)
  | grouped g => cases hs
  | buffered rows current => exact h.elim

/-- **A broken merge stays as it is**, and shows no row. -/
theorem IsBroken.exists_next_eq (h : c.IsBroken) :
    ∃ outcome, c.next = (outcome, c) ∧ outcome ≠ .ok true := by
  cases c with
  | chained results =>
    obtain ⟨r, rest, rfl, hrows, hfailure⟩ := h
    obtain ⟨e, he⟩ := Option.isSome_iff_exists.1 hfailure
    have hnext : r.next = (.error e, r) := by rw [PartialResult.next, hrows, he]
    refine ⟨.error e, ?_, by simp⟩
    rw [next, nextChained, hnext]
    rfl
  | ordered s =>
    obtain ⟨keys, queue, current⟩ := s
    obtain ⟨rfl : current = none, hpop : queue.pop? _ = none⟩ := h
    refine ⟨.ok false, ?_, by simp⟩
    rw [next, OrderedStream.next, OrderedStream.advance]
    dsimp only
    rw [hpop]
    rfl
  | grouped g =>
    obtain ⟨hpending, e, hrow⟩ := h
    exact ⟨.error e, congrArg (Prod.map id grouped)
      (GroupedStream.next_eq_of_streamRow hpending hrow), by simp⟩
  | buffered rows current => exact h.elim

/-- **A broken merge shows no more rows.** -/
theorem showsNoMore_isBroken : ShowsNoMore next IsBroken := by
  constructor
  all_goals
    intro c h
    obtain ⟨outcome, hnext, hne⟩ := h.exists_next_eq
    rw [hnext]
  · exact hne
  · exact h

end BaseCursor

/-- **HAVING shows nothing of a broken merge.** -/
theorem FilteredCursor.showsNoMore_isBroken :
    ShowsNoMore FilteredCursor.next fun c => c.base.IsBroken := by
  have hstep : ∀ c : FilteredCursor, c.base.IsBroken →
      c.next.1 = c.base.next.1 ∧ c.next.2.base = c.base.next.2 := by
    rintro ⟨base, having⟩ hbroken
    cases having with
    | none => exact ⟨rfl, rfl⟩
    | some condition =>
      have hnext : nextKept condition (base.remaining + 1) base = base.next :=
        nextKept_of_stop rfl (BaseCursor.showsNoMore_isBroken.outcome base hbroken)
      rw [next]
      dsimp only
      rw [hnext]
      exact ⟨rfl, rfl⟩
  refine ⟨fun c h => ?_, fun c h => ?_⟩
  · rw [(hstep c h).1]
    exact BaseCursor.showsNoMore_isBroken.outcome c.base h
  · rw [(hstep c h).2]
    exact BaseCursor.showsNoMore_isBroken.kept c.base h

namespace MergedResult

variable {r : MergedResult} {e : Error}

/-- A call moves the rows below the window on, or shows nothing and leaves them as they are. -/
theorem next_cases (r : MergedResult) :
    (r.next.1 = r.cursor.rows.next.1 ∧ r.next.2.cursor.rows = r.cursor.rows.next.2) ∨
      r.next.1 = .ok false ∧ r.next.2.cursor.rows = r.cursor.rows := by
  obtain ⟨labels, rows, window⟩ := r
  cases window with
  | none => exact .inl ⟨rfl, rfl⟩
  | some w =>
    rw [next, MergedCursor.next]
    dsimp only
    split
    · exact .inr ⟨rfl, rfl⟩
    · split
      · exact .inl ⟨rfl, rfl⟩
      · split
        · exact .inr ⟨rfl, rfl⟩
        · exact .inl ⟨rfl, rfl⟩

/-- **A window shows nothing of a broken merge.** -/
theorem showsNoMore_isBroken : ShowsNoMore next fun r => r.cursor.rows.base.IsBroken := by
  have hrows := FilteredCursor.showsNoMore_isBroken
  refine ⟨fun r h => ?_, fun r h => ?_⟩
  · obtain ⟨hnext, -⟩ | ⟨hnext, -⟩ := r.next_cases
    · rw [hnext]
      exact hrows.outcome r.cursor.rows h
    · rw [hnext]
      exact nofun
  · obtain ⟨-, hnext⟩ | ⟨-, hnext⟩ := r.next_cases
    · rw [hnext]
      exact hrows.kept r.cursor.rows h
    · rwa [hnext]

/-- The merge below lost a result, and is left where that call left it. -/
theorem LosesResult.exists_base (h : r.LosesResult e) :
    ∃ b : BaseCursor, b.LosesResult e ∧ r.next.2.cursor.rows.base = b.next.2 := by
  obtain ⟨hnext, -, b, -, hb, hbase⟩ := h
  obtain ⟨-, hrows⟩ | ⟨hfalse, -⟩ := r.next_cases
  · exact ⟨b, hb, hrows ▸ hbase⟩
  · exact nomatch hnext.symm.trans hfalse

/-- The merged result after that many calls. -/
def after (r : MergedResult) (n : Nat) : MergedResult := (fun r => r.next.2)^[n] r

/-- One call more is one after the others. -/
theorem after_succ (r : MergedResult) (n : Nat) : r.after (n + 1) = (r.after n).next.2 :=
  Function.iterate_succ_apply' _ n r

/-- Calls are counted in two goes or in one. -/
theorem after_add (r : MergedResult) (m n : Nat) : r.after (m + n) = (r.after m).after n := by
  rw [Nat.add_comm]
  exact Function.iterate_add_apply _ n m r

/-- **After a call that lost a result no row is shown**, unless the merge goes on.  A merge in order
goes on where rows of other results wait: the very next call shows the first of them. -/
theorem next_of_lost {k : Nat} (hlost : (r.after k).LosesResult e) :
    (¬ (r.after (k + 1)).cursor.rows.base.GoesOn → ∀ j, k < j → (r.after j).next.1 ≠ .ok true) ∧
      ∀ s, (r.after (k + 1)).cursor = ⟨⟨.ordered s, none⟩, none⟩ →
        ((r.after (k + 1)).next.1 = .ok true ↔ (BaseCursor.ordered s).GoesOn) := by
  obtain ⟨b, hb, hbase⟩ := hlost.exists_base
  rw [← after_succ] at hbase
  constructor
  · intro hends j hj
    have hbroken : (r.after (k + 1)).cursor.rows.base.IsBroken := by
      rw [hbase] at hends ⊢
      exact hb.isBroken hends
    obtain ⟨n, rfl⟩ := Nat.exists_eq_add_of_le hj
    rw [after_add]
    exact showsNoMore_isBroken.outcome _ (showsNoMore_isBroken.iterate hbroken n)
  · intro s hs
    have hcurrent : s.current = none := hb.current_eq_none (by rw [← hbase, hs])
    have hnext : (r.after (k + 1)).next.1 = s.next.1 := by
      rw [next, hs]
      rfl
    rw [hnext]
    exact OrderedStream.next_eq_ok_true_iff hcurrent

end MergedResult

/-- Where the keys of both nodes were shown before the connection to one broke, no row follows;
where keys of the other node wait, they do. -/
theorem next_of_lost_itemsByKey :
    (∃ r, merge .mySQL .empty (.select itemsByKey) []
        [(keysOf [1, 4]).failingAfter 2 cursorLost, keysOf [2, 3]] = .ok r ∧
      (r.after 4).LosesResult cursorLost ∧ ∀ j, 4 < j → (r.after j).next.1 ≠ .ok true) ∧
    ∃ r, merge .mySQL .empty (.select itemsByKey) []
        [(keysOf [1, 4]).failingAfter 1 cursorLost, keysOf [2, 3]] = .ok r ∧
      (r.after 1).LosesResult cursorLost ∧ (r.after 2).next.1 = .ok true := by
  have hlate : ∃ r, merge .mySQL .empty (.select itemsByKey) []
        [(keysOf [1, 4]).failingAfter 2 cursorLost, keysOf [2, 3]] = .ok r ∧
      (r.after 4).LosesResult cursorLost ∧ ¬ (r.after 5).cursor.rows.base.GoesOn := by
    refine ⟨_, rfl, ⟨rfl, rfl, _, .refl, rfl, rfl⟩, ?_⟩
    exact Bool.false_ne_true
  have hearly : ∃ r s, merge .mySQL .empty (.select itemsByKey) []
        [(keysOf [1, 4]).failingAfter 1 cursorLost, keysOf [2, 3]] = .ok r ∧
      (r.after 1).LosesResult cursorLost ∧ (r.after 2).cursor = ⟨⟨.ordered s, none⟩, none⟩ ∧
        (BaseCursor.ordered s).GoesOn :=
    ⟨_, _, rfl, ⟨rfl, rfl, _, .refl, rfl, rfl⟩, rfl, rfl⟩
  obtain ⟨r, hr, hlost, hends⟩ := hlate
  obtain ⟨r', s, hr', hlost', hs, hgoes⟩ := hearly
  exact ⟨⟨r, hr, hlost, (MergedResult.next_of_lost hlost).1 hends⟩,
    r', hr', hlost', ((MergedResult.next_of_lost hlost').2 s hs).2 hgoes⟩

end ScatterGather
