import ScatterGather.Proofs.Merge.OrderedStream

/-!
# Proofs/Merge/SharedRows — how far merges of cut results go together

Two lists **agree through** the items in `P` if they are the same up to the first item outside `P`,
that one included (`AgreeThrough`).  A list cut off agrees with itself through `P` unless all that
is left of it is in `P`.  So do merges: where results agree through `P`, one by one, the rows that
their merges yield agree through `P` too (`OrderedStream.Merges.agreeThrough`), since up to there
the two streams stay in step.
-/

namespace ScatterGather

/-- Lists that are the same up to the first item outside `P`, that one included. -/
inductive AgreeThrough {α : Type} (P : α → Prop) : List α → List α → Prop
  | nil : AgreeThrough P [] []
  | stop {a : α} {l l' : List α} : ¬P a → AgreeThrough P (a :: l) (a :: l')
  | cons {a : α} {l l' : List α} : AgreeThrough P l l' → AgreeThrough P (a :: l) (a :: l')

section AgreeThrough

variable {α : Type} {P : α → Prop} {l l' : List α}

/-- A list agrees with itself cut off, if an item outside `P` is left or nothing was cut. -/
theorem agreeThrough_take {n : Nat} (h : l.length ≤ n ∨ ∃ a ∈ l.take n, ¬P a) :
    AgreeThrough P (l.take n) l := by
  induction l generalizing n with
  | nil =>
    rw [List.take_nil]
    exact .nil
  | cons a l ih =>
    cases n with
    | zero =>
      obtain h | ⟨b, hb, -⟩ := h
      · cases h
      · cases hb
    | succ n =>
      rw [List.take_succ_cons] at h ⊢
      obtain h | ⟨b, hb, hP⟩ := h
      · exact .cons (ih (.inl (Nat.le_of_succ_le_succ h)))
      · obtain rfl | hb := List.mem_cons.1 hb
        · exact .stop hP
        · exact .cons (ih (.inr ⟨b, hb, hP⟩))

/-- **What lists that agree through `P` have in common**: items in `P`, and the first outside. -/
theorem AgreeThrough.exists_eq_append (h : AgreeThrough P l l') :
    ∃ common rest rest', l = common ++ rest ∧ l' = common ++ rest' ∧ (∀ a ∈ common, P a) ∧
      rest.head? = rest'.head? ∧ ∀ a ∈ rest.head?, ¬P a := by
  induction h with
  | nil => exact ⟨[], [], [], rfl, rfl, by simp, rfl, by simp⟩
  | @stop a l l' ha => exact ⟨[], a :: l, a :: l', rfl, rfl, by simp, rfl, by simpa using ha⟩
  | @cons a l l' _ ih =>
    by_cases ha : P a
    · obtain ⟨common, rest, rest', rfl, rfl, hcommon, hhead, hrest⟩ := ih
      exact ⟨a :: common, rest, rest', rfl, rfl, List.forall_mem_cons.2 ⟨ha, hcommon⟩, hhead, hrest⟩
    · exact ⟨[], a :: l, a :: l', rfl, rfl, by simp, rfl, by simpa using ha⟩

end AgreeThrough

/-! ## Merges

The queues of both merges hold the same first rows for as long as the rows taken are in `P`.  The
first row outside `P` is still common, and nothing is said of what comes after it. -/

/-- Two results that stand on one row, and agree through `P` in what is left if that row is in
it. -/
structure Positioned.Shares (keys : List SortKey) (P : Row → Prop) (p p' : Positioned) : Prop
    extends p.SameRow keys p' where
  rows : P p.row → AgreeThrough P p.result.rows p'.result.rows

section Shares

variable {keys : List SortKey} {P : Row → Prop} {rows rows' : List Row}

/-- Results that agree through `P` read on so. -/
theorem AgreeThrough.readsOn {r r' : PartialResult} (hr : r.Readable keys) (hr' : r'.Readable keys)
    (h : AgreeThrough P r.rows r'.rows) : r.ReadsOn keys (Positioned.Shares keys P) r' := by
  have hfirst : ∀ {row rest rest'}, r.rows = row :: rest → r'.rows = row :: rest' →
      (P row → AgreeThrough P rest rest') → r.ReadsOn keys (Positioned.Shares keys P) r' := by
    rintro row rest rest' hrows hrows' hrest
    obtain ⟨p, hp, rfl, rfl⟩ := Positioned.exists_first?_eq keys hrows
    obtain ⟨p', hp', hrow, rfl⟩ := Positioned.exists_first?_eq keys hrows'
    exact .inr ⟨p, p', hp, hp', ⟨(Positioned.isAt_of_first? hr hp).1,
      (Positioned.isAt_of_first? hr' hp').1, hrow.symm⟩, hrest⟩
  generalize hrows : r.rows = l at h
  generalize hrows' : r'.rows = l' at h
  cases h with
  | nil => exact .inl ⟨Positioned.first?_eq_none.2 hrows, Positioned.first?_eq_none.2 hrows'⟩
  | stop hP => exact hfirst hrows hrows' fun h => absurd h hP
  | cons hrest => exact hfirst hrows hrows' fun _ => hrest

namespace OrderedStream

/-- **Streams over results that agree through `P` agree through `P`.** -/
theorem InStep.agreeThrough {s s' : OrderedStream} (hlive : s.IsLive) (hlive' : s'.IsLive)
    (h : InStep keys (Positioned.Shares keys P) s s') (hy : s.Yields rows) (hy' : s'.Yields rows') :
    AgreeThrough P rows rows' := by
  induction hn : rows.length generalizing s s' rows rows' with
  | zero =>
    obtain rfl := List.length_eq_zero_iff.1 hn
    obtain ⟨-, rfl⟩ | ⟨_, _, _, _, _, _, hcons, -⟩ :=
      h.yields_cases (fun _ _ hp => hp.toSameRow) hlive hlive' hy hy'
    · exact .nil
    · cases hcons
  | succ n ih =>
    obtain ⟨rfl, -⟩ | ⟨t, t', p, p', rest, rest', rfl, rfl, hstep⟩ :=
      h.yields_cases (fun _ _ hp => hp.toSameRow) hlive hlive' hy hy'
    · cases hn
    · rw [← hstep.related.row]
      by_cases hP : P p.row
      · have hreads := (hstep.related.rows hP).readsOn hstep.related.isAt.readable
          hstep.related.isAt'.readable
        exact .cons (ih hstep.live hstep.live' (hstep.inStep (fun _ _ hp => hp) hreads)
          hstep.yields hstep.yields' (Nat.succ.inj hn))
      · exact .stop hP

/-- **Where the first rows of each result agree with all through `P`, so do their merges.** -/
theorem Merges.agreeThrough {results : List PartialResult} {n : Nat}
    (hresults : ∀ r ∈ results, r.Readable keys)
    (hshared : ∀ r ∈ results, AgreeThrough P (r.rows.take n) r.rows)
    (h : Merges keys (results.map (·.firstRows n)) rows) (h' : Merges keys results rows') :
    AgreeThrough P rows rows' := by
  obtain ⟨s, hs, hy⟩ := h
  obtain ⟨s', hs', hy'⟩ := h'
  have hcut : ∀ r ∈ results, (r.firstRows n).Readable keys := fun r hr =>
    (hresults r hr).firstRows n
  have hreads : List.Forall₂ (fun r r' => r.Readable keys ∧ r'.Readable keys ∧
      r.ReadsOn keys (Positioned.Shares keys P) r') (results.map (·.firstRows n)) results :=
    List.forall₂_map_left_iff.2 (List.forall₂_same.2 fun r hr => ⟨hcut r hr, hresults r hr,
      AgreeThrough.readsOn (hcut r hr) (hresults r hr) (hshared r hr)⟩)
  exact (inStep_of_ofResults (fun _ _ hp => hp.toSameRow) hreads hs hs').agreeThrough
    (isLive_of_ofResults (List.forall_mem_map.2 hcut) hs) (isLive_of_ofResults hresults hs') hy hy'

end OrderedStream

end Shares

end ScatterGather
