import ScatterGather.Proofs.Execution.Window
import ScatterGather.Proofs.Merge.Cursor
import ScatterGather.Proofs.Merge.Resolution

/-!
# Proofs/Merge/Pagination — the rows that nodes leave out are not missed

The statement that a node gets has a window of its own (`nodeWindow`), which skips nothing and ends
where the merged window can end at the latest (`nodeWindow_eq`).  A merge takes its first `count`
rows from the first `count` rows of the results, and the merged window looks no further; so merging
only what the nodes return gives the same rows (`merge_firstOf_eq`).
-/

namespace ScatterGather

open scoped List

/-! ## The window of a node

The statement that a node gets is read back here, as the node would read it: parameters as they were
bound last, literals as the bytes now say.  So what was written over the window is known only
through what it denotes. -/

/-- The segment as a node reads it: bytes of a literal that were written over hold the number that
was written last. -/
def PageSegment.patched (patches : List Patch) (s : PageSegment) : PageSegment :=
  match s.number, s.position with
  | .literal _, some (start, stop) =>
    match patches.reverse.find? fun p => p.start == start && p.stop == stop with
    | some p => { s with number := .literal p.number }
    | none => s
  | _, _ => s

/-- The window as a node reads it. -/
def Pagination.patched (patches : List Patch) (window : Pagination) : Pagination :=
  ⟨window.offset.map (·.patched patches), window.rowCount.map (·.patched patches)⟩

/-- The rows that a node skips, and the last row it returns, in the statement it gets. -/
def nodeWindow (paging : Dialect.Paging) (s : Select) (window : Pagination)
    (parameters : List Value) : Except Error (Nat × Option Nat) := do
  let changed ← revisions paging s window parameters
  let (parameters, patches) ← applyRevisions parameters [] changed
  let skipped ← (window.patched patches).offsetRows parameters
  let last ← (window.patched patches).rowLimit parameters
  return (skipped, last)

/-- Two numbers of a window that stand in different places: different parameters, or different
bytes. -/
def PageSegment.Apart (a b : PageSegment) : Prop :=
  match a.number, b.number with
  | .parameter i, .parameter j => i ≠ j
  | .literal _, .literal _ => a.position ≠ b.position
  | _, _ => True

/-- What `s` denotes in a node's statement. -/
def PageSegment.reads (s : PageSegment) (sent : List Value × List Patch) : Except Error Nat :=
  (s.patched sent.2).resolve sent.1

section Segments

variable {s t : PageSegment} {n : Nat} {parameters : List Value} {patches : List Patch}

@[simp] theorem PageSegment.patched_bound (patches : List Patch) (s : PageSegment) :
    (s.patched patches).bound = s.bound := by
  rw [patched.eq_def]
  split
  · split <;> rfl
  · rfl

@[simp] theorem PageSegment.patched_nil (s : PageSegment) : s.patched [] = s := by
  rw [patched.eq_def]
  split <;> rfl

/-- Standing apart is mutual. -/
theorem PageSegment.Apart.symm (h : s.Apart t) : t.Apart s := by
  obtain ⟨_ | _, _, _⟩ := s <;> obtain ⟨_ | _, _, _⟩ := t
  · exact Ne.symm h
  · trivial
  · trivial
  · exact Ne.symm h

/-- A parameter is read as it was bound last. -/
theorem PageSegment.reads_parameter {i : Nat} (hs : s.number = .parameter i)
    (sent : List Value × List Patch) : s.reads sent = s.resolve sent.1 := by
  rw [reads, patched.eq_def, hs]

/-- A literal is read as it was written last. -/
theorem PageSegment.reads_literal {start stop m : Nat} (hs : s.number = .literal m)
    (hposition : s.position = some (start, stop)) (sent : List Value × List Patch) :
    s.reads sent = .ok (((sent.2.reverse.find? fun p => p.start == start && p.stop == stop).map
      (·.number)).getD m) := by
  rw [reads, patched.eq_def, hs, hposition]
  dsimp only
  cases sent.2.reverse.find? fun p => p.start == start && p.stop == stop with
  | none => rw [resolve, hs]; rfl
  | some p => rfl

/-- A parameter that is set is read as the number it was set to. -/
theorem PageSegment.resolve_set {i : Nat} (hs : s.number = .parameter i)
    (hi : i < parameters.length) (hn : n ≤ maxRowCount) :
    s.resolve (parameters.set i (.integer (Int64.ofNat n))) = .ok n := by
  rw [resolve, hs]
  simp [hi, Value.int?, toInt_ofNat hn]

/-- A segment apart from a parameter reads the same when that is set. -/
theorem PageSegment.Apart.reads_set {i : Nat} (hs : s.number = .parameter i) (h : t.Apart s)
    (v : Value) : t.reads (parameters.set i v, patches) = t.reads (parameters, patches) := by
  obtain ⟨m | j, bound, position⟩ := t
  · rw [reads, reads, patched.eq_def]
    dsimp only
    split
    · split <;> rfl
    · rfl
  · have hne : j ≠ i := by
      rw [Apart.eq_def, hs] at h
      exact h
    rw [reads_parameter rfl, reads_parameter rfl, resolve, resolve]
    dsimp only
    rw [List.getElem?_set_ne hne.symm]

/-- A segment apart from a literal reads the same when that is written over. -/
theorem PageSegment.Apart.reads_append {m start stop : Nat} (hs : s.number = .literal m)
    (hposition : s.position = some (start, stop)) (h : t.Apart s) (n : Nat) :
    t.reads (parameters, patches ++ [⟨start, stop, n⟩]) = t.reads (parameters, patches) := by
  obtain ⟨k | j, bound, _ | ⟨start', stop'⟩⟩ := t
  · rfl
  · have hne : ¬(start = start' ∧ stop = stop') := by
      rintro ⟨rfl, rfl⟩
      rw [Apart.eq_def, hs, hposition] at h
      exact h rfl
    rw [reads_literal rfl rfl, reads_literal rfl rfl]
    simp [hne]
  · rfl
  · rfl

/-- **One revision** makes its segment read as the new number, and no segment apart from it read
otherwise. -/
theorem exists_applyRevisions_eq {sent : List Value × List Patch} {rest : List (PageSegment × Nat)}
    (h : applyRevisions parameters patches ((s, n) :: rest) = .ok sent) (hn : n ≤ maxRowCount) :
    ∃ mid, applyRevisions mid.1 mid.2 rest = .ok sent ∧ s.reads mid = .ok n ∧
      ∀ t : PageSegment, t.Apart s → t.reads mid = t.reads (parameters, patches) := by
  rw [applyRevisions.eq_def] at h
  dsimp only at h
  split at h
  · rename_i index hs
    split at h
    · rename_i hindex
      refine ⟨(_, _), h, ?_, fun t ht => ht.reads_set hs _⟩
      rw [PageSegment.reads_parameter hs]
      exact PageSegment.resolve_set hs hindex hn
    · exact nomatch h
  · rename_i m start stop hs hposition
    refine ⟨(_, _), h, ?_, fun t ht => ht.reads_append hs hposition n⟩
    rw [PageSegment.reads_literal hs hposition]
    simp
  · exact nomatch h

end Segments

section NodeWindow

variable {paging : Dialect.Paging} {s : Select} {window : Pagination} {parameters : List Value}
  {sent : List Value × List Patch} {counts : List (PageSegment × Nat)}

/-- **The offset becomes zero**, and nothing else changes with it. -/
theorem exists_offset_revised
    (h : applyRevisions parameters [] (window.offset.toList.map (fun o => (o, 0)) ++ counts) =
      .ok sent) :
    ∃ mid, applyRevisions mid.1 mid.2 counts = .ok sent ∧
      (∀ o ∈ window.offset, o.reads mid = .ok 0) ∧
      ∀ t : PageSegment, (∀ o ∈ window.offset, t.Apart o) → t.reads mid = t.resolve parameters := by
  cases hoffset : window.offset with
  | none =>
    rw [hoffset] at h
    refine ⟨(parameters, []), h, fun o ho => (by simp at ho), fun t _ => ?_⟩
    rw [PageSegment.reads, PageSegment.patched_nil]
  | some o =>
    rw [hoffset] at h
    obtain ⟨mid, hmid, hread, hothers⟩ := exists_applyRevisions_eq h (Nat.zero_le _)
    refine ⟨mid, hmid, ?_, ?_⟩
    · rintro _ ⟨rfl⟩
      exact hread
    · intro t ht
      rw [hothers t (ht o rfl), PageSegment.reads, PageSegment.patched_nil]

/-- Where rows are not regrouped, the row count changes if it counts from the first row kept. -/
theorem revisedCount_eq (hgroup : s.groupBy = [] ∨ s.groupsInOrder = true) (count : PageSegment) :
    revisedCount paging s window count parameters =
      if paging = .limit then (pushedCount window parameters).map fun n => [(count, n)]
      else .ok [] := by
  have hregroups : (!s.groupBy.isEmpty && !s.groupsInOrder) = false := by
    obtain hnil | hordered := hgroup
    · rw [hnil]
      rfl
    · rw [hordered, Bool.not_true, Bool.and_false]
  rw [revisedCount, hregroups]
  rfl

/-- The offset and then the row count are revised. -/
theorem revisions_eq_ok {changed : List (PageSegment × Nat)}
    (h : revisions paging s window parameters = .ok changed) :
    ∃ counts, changed = window.offset.toList.map (fun o => (o, 0)) ++ counts ∧
      match window.rowCount with
      | some c => revisedCount paging s window c parameters = .ok counts
      | none => counts = [] := by
  rw [revisions] at h
  cases hcount : window.rowCount with
  | none =>
    rw [hcount] at h
    exact ⟨[], (Except.ok.inj h).symm, rfl⟩
  | some c =>
    rw [hcount] at h
    obtain ⟨counts, hcounts, h⟩ := bind_eq_ok.1 h
    exact ⟨counts, (Except.ok.inj h).symm, hcounts⟩

/-- A row count that is written for nodes is a row number. -/
theorem pushedCount_le {n : Nat} (h : pushedCount window parameters = .ok n) :
    n ≤ maxRowCount := by
  rw [pushedCount] at h
  simp only [bind_eq_ok, pure, Except.pure, Except.ok.injEq] at h
  obtain ⟨_, _, _, _, rfl⟩ := h
  exact Nat.min_le_right _ _

/-- The numbers that a node reads. -/
structure NodeReads (paging : Dialect.Paging) (window : Pagination) (parameters : List Value)
    (sent : List Value × List Patch) : Prop where
  offset : ∀ o ∈ window.offset, o.reads sent = .ok 0
  pushed : paging = .limit → ∀ c ∈ window.rowCount, c.reads sent = pushedCount window parameters
  kept : paging ≠ .limit → ∀ c ∈ window.rowCount, c.reads sent = c.resolve parameters

/-- **What the revisions make a node read** where rows are not regrouped. -/
theorem nodeReads_of_revisions {changed : List (PageSegment × Nat)}
    (hgroup : s.groupBy = [] ∨ s.groupsInOrder = true)
    (hapart : ∀ o ∈ window.offset, ∀ c ∈ window.rowCount, o.Apart c)
    (hchanged : revisions paging s window parameters = .ok changed)
    (hsent : applyRevisions parameters [] changed = .ok sent) :
    NodeReads paging window parameters sent := by
  obtain ⟨counts, rfl, hcounts⟩ := revisions_eq_ok hchanged
  -- The offset is revised first; the row count is read after that and has to be another number.
  obtain ⟨mid, hmid, hoffset, hothers⟩ := exists_offset_revised hsent
  cases hcount : window.rowCount with
  | none =>
    rw [hcount] at hcounts
    obtain rfl : counts = [] := hcounts
    obtain rfl := Except.ok.inj hmid
    exact ⟨hoffset, fun _ c hc => by simp [hcount] at hc, fun _ c hc => by simp [hcount] at hc⟩
  | some c =>
    rw [hcount] at hcounts
    dsimp only at hcounts
    rw [revisedCount_eq hgroup] at hcounts
    by_cases hlimit : paging = .limit
    · rw [if_pos hlimit] at hcounts
      obtain ⟨n, hn, rfl⟩ := map_eq_ok.1 hcounts
      obtain ⟨last, hlast, hread, hrest⟩ := exists_applyRevisions_eq hmid (pushedCount_le hn)
      obtain rfl := Except.ok.inj hlast
      refine ⟨?_, ?_, fun hne => absurd hlimit hne⟩
      · intro o ho
        exact (hrest o (hapart o ho c hcount)).trans (hoffset o ho)
      · intro _ c' hc'
        obtain rfl := Option.some.inj (hcount.symm.trans hc')
        rw [hread, hn]
    · rw [if_neg hlimit] at hcounts
      obtain rfl := Except.ok.inj hcounts
      obtain rfl := Except.ok.inj hmid
      refine ⟨hoffset, fun h => absurd h hlimit, ?_⟩
      intro _ c' hc'
      exact hothers c' fun o ho => (hapart o ho c' hc').symm

/-- The last row that a node returns, for the offset and the last row of the merged window. -/
def pushedLast (paging : Dialect.Paging) (offset : Nat) (last : Option Nat) : Option Nat :=
  if paging = .limit then last.map fun count => min (offset + count) maxRowCount else last

/-- A node skips no rows. -/
theorem NodeReads.skipped_eq {skipped : Nat} (h : NodeReads paging window parameters sent)
    (hskipped : (window.patched sent.2).offsetRows sent.1 = .ok skipped) : skipped = 0 := by
  rw [Pagination.offsetRows, Pagination.patched] at hskipped
  cases hoffset : window.offset with
  | none =>
    rw [hoffset] at hskipped
    exact (Except.ok.inj hskipped).symm
  | some o =>
    have hread : (o.patched sent.2).resolve sent.1 = .ok 0 := h.offset o hoffset
    rw [hoffset] at hskipped
    simp only [Option.map_some, hread, bind, Except.bind, pure, Except.pure] at hskipped
    have hzero := (Except.ok.inj hskipped).symm
    split at hzero <;> exact hzero

/-- The last row of a node. -/
theorem NodeReads.last_eq {offset : Nat} {last last' : Option Nat}
    (h : NodeReads paging window parameters sent)
    (hexact : paging = .limit → ∀ c ∈ window.rowCount, c.bound = .exact)
    (hlast' : (window.patched sent.2).rowLimit sent.1 = .ok last')
    (hoffset : window.offsetRows parameters = .ok offset)
    (hlast : window.rowLimit parameters = .ok last) : last' = pushedLast paging offset last := by
  have hpushed := pushedCount_eq hoffset hlast
  rw [Pagination.rowLimit, Pagination.patched] at hlast'
  rw [Pagination.rowLimit] at hlast
  cases hcount : window.rowCount with
  | none =>
    rw [hcount] at hlast hlast'
    obtain rfl := Except.ok.inj hlast
    rw [pushedLast.eq_def, ← Except.ok.inj hlast']
    split <;> rfl
  | some c =>
    rw [hcount] at hlast hlast'
    simp only [Option.map_some, bind_eq_ok, pure, Except.pure, Except.ok.injEq,
      PageSegment.patched_bound] at hlast hlast'
    obtain ⟨m, hm, rfl⟩ := hlast'
    obtain ⟨n, hn, rfl⟩ := hlast
    by_cases hlimit : paging = .limit
    · have hm' := (h.pushed hlimit c hcount).symm.trans hm
      have hbound : c.bound ≠ .exclusive := by simp [hexact hlimit c hcount]
      rw [pushedLast, if_pos hlimit, ← Except.ok.inj (hpushed.symm.trans hm'), if_neg hbound,
        if_neg hbound]
      rfl
    · have hm' := (h.kept hlimit c hcount).symm.trans hm
      rw [pushedLast, if_neg hlimit, Except.ok.inj (hn.symm.trans hm')]

/-- **A node skips nothing**, and returns rows up to the last one that the merged window can show:
its row number, or the rows skipped and those shown. -/
theorem nodeWindow_eq {skipped : Nat} {last' : Option Nat}
    (hgroup : s.groupBy = [] ∨ s.groupsInOrder = true)
    (hapart : ∀ o ∈ window.offset, ∀ c ∈ window.rowCount, o.Apart c)
    (hexact : paging = .limit → ∀ c ∈ window.rowCount, c.bound = .exact)
    (h : nodeWindow paging s window parameters = .ok (skipped, last')) :
    skipped = 0 ∧ ∀ offset last, window.offsetRows parameters = .ok offset →
      window.rowLimit parameters = .ok last → last' = pushedLast paging offset last := by
  rw [nodeWindow] at h
  simp only [bind_eq_ok, pure, Except.pure, Except.ok.injEq, Prod.mk.injEq] at h
  obtain ⟨changed, hchanged, sent, hsent, skipped, hskipped, last', hlast', rfl, rfl⟩ := h
  have hreads := nodeReads_of_revisions hgroup hapart hchanged hsent
  refine ⟨hreads.skipped_eq hskipped, fun offset last hoffset hlast => ?_⟩
  exact hreads.last_eq hexact hlast' hoffset hlast

end NodeWindow

/-! ## The rows in the window

A page of a list only depends on a beginning of it.  The nodes are asked for that much, or for
everything where the number would not fit. -/

/-- **A window shows rows among the first** that nodes are asked for, if they are asked for less
than all. -/
theorem pageRows_take_of_ne {paging : Dialect.Paging} {offset n : Nat} {last : Option Nat}
    (hpaging : paging ≠ .none) (hn : (pushedLast paging offset last).getD maxRowCount = n)
    (hne : n ≠ maxRowCount) (rows : List Row) :
    pageRows paging offset last (rows.take n) = pageRows paging offset last rows := by
  cases last with
  | none =>
    rw [pushedLast] at hn
    split at hn <;> exact absurd hn.symm hne
  | some last =>
    have htake : ∀ shown, offset + shown ≤ n ∨ shown = n - offset →
        ((rows.take n).drop offset).take shown = (rows.drop offset).take shown := by
      intro shown hshown
      rw [List.drop_take, List.take_take, Nat.min_eq_left (by omega)]
    cases paging with
    | none => exact absurd rfl hpaging
    | limit =>
      have hmin : min (offset + last) maxRowCount = n := hn
      exact htake last (.inl (by omega))
    | rowNumber | top =>
      have hlast : last = n := hn
      exact htake (last - offset) (.inr (congrArg (· - offset) hlast))

/-- **A window shows rows among the first** that nodes are asked for: all there are, if nothing is
asked of them or no more can be. -/
theorem pageRows_take {paging : Dialect.Paging} {offset : Nat} {last : Option Nat}
    {rows : List Row} (hpaging : paging ≠ .none) (hlength : rows.length ≤ maxRowCount) :
    pageRows paging offset last (rows.take ((pushedLast paging offset last).getD maxRowCount)) =
      pageRows paging offset last rows := by
  by_cases hn : (pushedLast paging offset last).getD maxRowCount = maxRowCount
  · rw [hn, List.take_of_length_le hlength]
  · exact pageRows_take_of_ne hpaging rfl hn rows

/-- The first rows of a page come from the first rows below it. -/
theorem take_pageRows {paging : Dialect.Paging} (hpaging : paging ≠ .none) (offset : Nat)
    (last : Option Nat) (rows : List Row) (k : Nat) :
    (pageRows paging offset last rows).take (k - offset) =
      pageRows paging offset last (rows.take k) := by
  have hwindow : ∀ fromFirst, (windowRows fromFirst offset last rows).take (k - offset) =
      windowRows fromFirst offset last (rows.take k) := by
    intro fromFirst
    cases last with
    | none => exact List.drop_take.symm
    | some last =>
      rw [windowRows, windowRows, List.drop_take, List.take_take, List.take_take, Nat.min_comm]
  cases paging with
  | none => exact absurd rfl hpaging
  | limit => exact hwindow false
  | rowNumber => exact hwindow true
  | top => exact hwindow true

/-- A window keeps what rows have in common one by one. -/
theorem forall₂_pageRows {R : Row → Row → Prop} {rows rows' : List Row} (paging : Dialect.Paging)
    (offset : Nat) (last : Option Nat) (h : List.Forall₂ R rows rows') :
    List.Forall₂ R (pageRows paging offset last rows) (pageRows paging offset last rows') := by
  have hwindow : ∀ fromFirst, List.Forall₂ R (windowRows fromFirst offset last rows)
      (windowRows fromFirst offset last rows') := by
    intro fromFirst
    cases last with
    | none => exact List.forall₂_drop offset h
    | some last => exact List.forall₂_take _ (List.forall₂_drop offset h)
  cases paging with
  | none => exact h
  | limit => exact hwindow false
  | rowNumber => exact hwindow true
  | top => exact hwindow true

/-- **A window shows what the first rows have in common**, those that nodes are asked for. -/
theorem forall₂_pageRows_of_take {R : Row → Row → Prop} {paging : Dialect.Paging} {offset : Nat}
    {last : Option Nat} {rows rows' : List Row} (hpaging : paging ≠ .none)
    (hlength : rows.length ≤ maxRowCount) (hlength' : rows'.length ≤ maxRowCount)
    (h : List.Forall₂ R (rows.take ((pushedLast paging offset last).getD maxRowCount))
      (rows'.take ((pushedLast paging offset last).getD maxRowCount))) :
    List.Forall₂ R (pageRows paging offset last rows) (pageRows paging offset last rows') := by
  rw [← pageRows_take hpaging hlength, ← pageRows_take hpaging hlength']
  exact forall₂_pageRows paging offset last h

/-- The first rows of a chain are among the first rows of its parts. -/
theorem take_flatMap_take {α β : Type} (f : α → List β) (n : Nat) (l : List α) :
    (l.flatMap fun a => (f a).take n).take n = (l.flatMap f).take n := by
  induction l with
  | nil => rfl
  | cons a l ih =>
    rw [List.flatMap_cons, List.flatMap_cons, List.take_append, List.take_append, List.take_take,
      Nat.min_self]
    congr 1
    have hlen : n - (f a).length = n - ((f a).take n).length := by
      rw [List.length_take]
      omega
    have hle : n - ((f a).take n).length ≤ n := Nat.sub_le _ _
    rw [hlen, ← Nat.min_eq_left hle, ← List.take_take, ih, List.take_take]

/-! ## Merges of plain SELECTs

A chain and a merge in order take rows off the fronts of the results.  Whatever is left out behind
the first `n` rows of one result cannot be among the first `n` of the merge. -/

/-- A SELECT of rows as they are stored: not grouped, aggregated, made distinct or filtered after
merging. -/
structure Select.IsPlain (s : Select) : Prop where
  groupBy : s.groupBy = []
  hasAggregate : s.list.hasAggregate = false
  distinct : s.list.distinct = false
  having : s.having = none

/-- The rows of the result that a node returns, if it returns no more than `last`. -/
def PartialResult.firstOf (last : Option Nat) (r : PartialResult) : PartialResult :=
  match last with
  | none => r
  | some count => r.firstRows count

section Plain

variable {s : Select} {labels : List String} {caseSensitive : List Bool}
  {results : List PartialResult} {keys : List SortKey}

theorem PartialResult.IsWhole.readable {r : PartialResult} (h : r.IsWhole labels)
    (hkeys : ∀ k ∈ keys, k.index < labels.length) : r.Readable keys :=
  ⟨h.failure, fun row hrow k hk => (h.width row hrow).symm ▸ hkeys k hk⟩

/-- The first rows of a whole result are one. -/
theorem PartialResult.IsWhole.firstRows {r : PartialResult} (h : r.IsWhole labels) (count : Nat) :
    (r.firstRows count).IsWhole labels :=
  ⟨h.labels_eq, h.failure, fun row hrow => h.width row (List.mem_of_mem_take hrow)⟩

/-- A plain SELECT is merged as a chain, or in order if it has one. -/
theorem Select.IsPlain.baseCursor_eq (h : s.IsPlain) (labels : List String)
    (caseSensitive : List Bool) (results : List PartialResult) :
    baseCursor s labels caseSensitive results =
      if s.orderBy.isEmpty then .ok (.chained results)
      else (sortKeys s.orderBy labels caseSensitive).bind fun keys =>
        (OrderedStream.ofResults keys results).map .ordered := by
  rw [baseCursor, h.groupBy, h.hasAggregate, h.distinct]
  cases s.orderBy with
  | nil => rfl
  | cons item items =>
    simp only [List.isEmpty_nil, Bool.not_true, Bool.or_self, Bool.false_eq_true, if_false,
      List.isEmpty_cons, Bool.not_false, if_true]
    rfl

/-- A merge in order shows what its stream yields, which are all rows. -/
theorem exists_ordered_yields (hwhole : ∀ r ∈ results, r.IsWhole labels)
    (hkeys : ∀ k ∈ keys, k.index < labels.length) :
    ∃ t rows, OrderedStream.ofResults keys results = .ok t ∧ t.Yields rows ∧
      BaseCursor.Yields labels.length (.ordered t) rows ∧ rows ~ results.flatMap (·.rows) := by
  obtain ⟨t, ht, hlive, -, -, hcome⟩ := OrderedStream.exists_ofResults_eq fun r hr =>
    (hwhole r hr).readable hkeys
  obtain ⟨rows, hrows, hperm⟩ := hlive.exists_yields
  refine ⟨t, rows, ht, hrows, BaseCursor.yields_ordered hlive hrows fun row hrow => ?_,
    hperm.trans hcome⟩
  obtain ⟨r, hr, hmem⟩ := List.mem_flatMap.1 (hcome.mem_iff.1 (hperm.mem_iff.1 hrow))
  exact (hwhole r hr).width row hmem

/-- **The first rows of a plain SELECT** come from the first rows of the results, whichever way
they are merged, if its items are bound to columns. -/
theorem Select.IsPlain.exists_yields (h : s.IsPlain)
    (hcolumns : ∀ item ∈ s.orderBy, ∀ i ∈ item.index, i < labels.length)
    (hwhole : ∀ r ∈ results, r.IsWhole labels) (count : Nat) :
    (∃ e, sortKeys s.orderBy labels caseSensitive = .error e ∧
      ∀ results, baseCursor s labels caseSensitive results = .error e) ∨
    ∃ base base' rows rows', baseCursor s labels caseSensitive results = .ok base ∧
      baseCursor s labels caseSensitive (results.map (·.firstRows count)) = .ok base' ∧
      base.Yields labels.length rows ∧ base'.Yields labels.length rows' ∧
      rows'.take count = rows.take count ∧ rows ~ results.flatMap (·.rows) := by
  have hcut : ∀ r ∈ results.map (·.firstRows count), r.IsWhole labels := by
    intro r hr
    obtain ⟨r, hmem, rfl⟩ := List.mem_map.1 hr
    exact (hwhole r hmem).firstRows count
  -- Without an order results are chained, with one they are merged by it.
  simp only [h.baseCursor_eq]
  cases hitems : s.orderBy.isEmpty with
  | true =>
    refine .inr ⟨_, _, _, _, rfl, rfl,
      BaseCursor.yields_chained (fun r hr => (hwhole r hr).failure) fun r hr => (hwhole r hr).width,
      BaseCursor.yields_chained (fun r hr => (hcut r hr).failure) fun r hr => (hcut r hr).width, ?_⟩
    refine ⟨?_, .refl _⟩
    rw [List.flatMap_map]
    exact take_flatMap_take _ count results
  | false =>
    cases hkeys : sortKeys s.orderBy labels caseSensitive with
    | error e => exact .inl ⟨e, rfl, fun _ => rfl⟩
    | ok keys =>
      have hlt := index_lt_of_sortKeys hcolumns hkeys
      obtain ⟨t, rows, ht, hrows, hyields, hperm⟩ := exists_ordered_yields hwhole hlt
      obtain ⟨t', rows', ht', hrows', hyields', -⟩ := exists_ordered_yields hcut hlt
      refine .inr ⟨.ordered t, .ordered t', rows, rows', ?_, ?_, hyields, hyields', ?_, hperm⟩
      · simp only [Except.bind, ht]
        rfl
      · simp only [Except.bind, ht']
        rfl
      · exact OrderedStream.take_eq_of_firstRows (fun r hr => (hwhole r hr).readable hlt) ht' ht
          hrows' hrows

end Plain

section Merge

variable {dialect : Dialect} {schema : Schema} {s : Select} {window : Pagination}
  {parameters : List Value} {labels : List String} {results : List PartialResult}

/-- **What a merge shows through its window**, given what is shown below it. -/
theorem merge_rows_eq_of_yields {base : BaseCursor} {rows : List Row} (hcount : 1 < results.length)
    (hlabels : ∀ r ∈ results, r.labels = labels) (hwindow : s.window? = some window)
    (hbase : baseCursor s labels (caseSensitivity labels (Statement.select s).tables schema)
      results = .ok base)
    (hyields : FilteredCursor.Yields labels.length
      ⟨base, s.having.map fun condition => ⟨condition, labels, parameters⟩⟩ rows) :
    (merge dialect schema (.select s) parameters results).bind MergedResult.rows =
      (window.offsetRows parameters).bind fun offset => (window.rowLimit parameters).map fun last =>
        pageRows dialect.paging offset last rows := by
  rw [merge_select_eq hcount hlabels, selectCursor, hbase]
  change ((windowed dialect s parameters _).map _).bind _ = _
  cases hoffset : window.offsetRows parameters with
  | error e =>
    simp only [windowed, hwindow, hoffset]
    rfl
  | ok offset =>
    cases hlast : window.rowLimit parameters with
    | error e =>
      simp only [windowed, hwindow, hoffset, hlast]
      rfl
    | ok last =>
      obtain ⟨m, hm, hread⟩ : ∃ m, windowed dialect s parameters _ = .ok m ∧
          m.readAll labels.length = (pageRows dialect.paging offset last rows, none) :=
        exists_windowed_eq hyields hwindow hoffset hlast
      rw [hm]
      exact MergedResult.rows_eq_ok (r := ⟨labels, m⟩) hread

/-- Without HAVING, a merge shows what its cursor goes through. -/
theorem merge_rows_eq {base : BaseCursor} {rows : List Row} (hcount : 1 < results.length)
    (hlabels : ∀ r ∈ results, r.labels = labels) (hhaving : s.having = none)
    (hwindow : s.window? = some window)
    (hbase : baseCursor s labels (caseSensitivity labels (Statement.select s).tables schema)
      results = .ok base) (hyields : base.Yields labels.length rows) :
    (merge dialect schema (.select s) parameters results).bind MergedResult.rows =
      (window.offsetRows parameters).bind fun offset => (window.rowLimit parameters).map fun last =>
        pageRows dialect.paging offset last rows := by
  refine merge_rows_eq_of_yields hcount hlabels hwindow hbase ?_
  rw [hhaving]
  exact hyields.unfiltered

theorem merge_rows_eq_error {e : Error} (hcount : 1 < results.length)
    (hlabels : ∀ r ∈ results, r.labels = labels)
    (hbase : baseCursor s labels (caseSensitivity labels (Statement.select s).tables schema)
      results = .error e) :
    (merge dialect schema (.select s) parameters results).bind MergedResult.rows = .error e := by
  rw [merge_select_eq hcount hlabels, selectCursor, hbase]
  rfl

/-- A result that is no longer than what may be asked for is left whole. -/
theorem map_firstRows_eq_self {n : Nat} (h : ∀ r ∈ results, r.rows.length ≤ n) :
    results.map (·.firstRows n) = results := by
  refine (List.map_congr_left fun r hr => ?_).trans (List.map_id _)
  rw [PartialResult.firstRows, List.take_of_length_le (h r hr)]
  rfl

/-- **Merging the first rows of each result** shows the rows of the whole merge in the window. -/
theorem merge_map_firstRows_eq {n : Nat} (hplain : s.IsPlain) (hpaging : dialect.paging ≠ .none)
    (hwindow : s.window? = some window)
    (hcolumns : ∀ item ∈ s.orderBy, ∀ i ∈ item.index, i < labels.length)
    (hcount : 1 < results.length) (hwhole : ∀ r ∈ results, r.IsWhole labels)
    (hlength : ∀ r ∈ results, r.rows.length < 2 ^ 63)
    (hn : ∀ offset last, window.offsetRows parameters = .ok offset →
      window.rowLimit parameters = .ok last → pushedLast dialect.paging offset last = some n) :
    (merge dialect schema (.select s) parameters (results.map (·.firstRows n))).bind
        MergedResult.rows =
      (merge dialect schema (.select s) parameters results).bind MergedResult.rows := by
  by_cases hmax : n = maxRowCount
  · -- no result is cut off
    rw [map_firstRows_eq_self fun r hr => hmax ▸ Nat.le_pred_of_lt (hlength r hr)]
  have hlabels : ∀ r ∈ results, r.labels = labels := fun r hr => (hwhole r hr).labels_eq
  have hcount' : 1 < (results.map (·.firstRows n)).length := by rwa [List.length_map]
  have hlabels' : ∀ r ∈ results.map (·.firstRows n), r.labels = labels :=
    List.forall_mem_map.2 hlabels
  obtain ⟨e, -, hfails⟩ | ⟨base, base', rows, rows', hbase, hbase', hrows, hrows', htake, -⟩ :=
    hplain.exists_yields hcolumns hwhole n
  · rw [merge_rows_eq_error hcount hlabels (hfails _),
      merge_rows_eq_error hcount' hlabels' (hfails _)]
  · rw [merge_rows_eq hcount hlabels hplain.having hwindow hbase hrows,
      merge_rows_eq hcount' hlabels' hplain.having hwindow hbase' hrows']
    cases hoffset : window.offsetRows parameters with
    | error e => rfl
    | ok offset =>
      cases hlast : window.rowLimit parameters with
      | error e => rfl
      | ok last =>
        have hpages := pageRows_take_of_ne hpaging
          (congrArg (·.getD maxRowCount) (hn offset last hoffset hlast)) hmax
        exact congrArg Except.ok ((hpages rows').symm.trans
          ((congrArg (pageRows dialect.paging offset last) htake).trans (hpages rows)))

/-- **Merging whole results** shows the window of all rows, if the items and the numbers resolve. -/
theorem exists_merge_rows_eq {keys : List SortKey} {offset : Nat} {last : Option Nat}
    (hplain : s.IsPlain) (hwindow : s.window? = some window)
    (hcolumns : ∀ item ∈ s.orderBy, ∀ i ∈ item.index, i < labels.length)
    (hcount : 1 < results.length) (hwhole : ∀ r ∈ results, r.IsWhole labels)
    (hkeys : sortKeys s.orderBy labels (caseSensitivity labels (Statement.select s).tables schema) =
      .ok keys)
    (hoffset : window.offsetRows parameters = .ok offset)
    (hlast : window.rowLimit parameters = .ok last) :
    ∃ rows, rows ~ results.flatMap (·.rows) ∧
      (merge dialect schema (.select s) parameters results).bind MergedResult.rows =
        .ok (pageRows dialect.paging offset last rows) := by
  obtain ⟨e, herror, -⟩ | ⟨base, -, rows, -, hbase, -, hrows, -, -, hperm⟩ :=
    hplain.exists_yields hcolumns hwhole 0
  · exact nomatch (hkeys.symm.trans herror)
  · refine ⟨rows, hperm, ?_⟩
    rw [merge_rows_eq hcount (fun r hr => (hwhole r hr).labels_eq) hplain.having hwindow hbase
      hrows, hoffset, hlast]
    rfl

/-- **A plain SELECT pages as if nodes returned all rows.**  Nodes skip nothing and return the rows
up to the last one that the merged window can show; merging those gives the rows that merging whole
results gives, in the same order, or fails alike where an item or a number does not resolve. -/
theorem merge_firstOf_eq {skipped : Nat} {last : Option Nat} (hplain : s.IsPlain)
    (hpaging : dialect.paging ≠ .none) (hwindow : s.window? = some window)
    (hapart : ∀ o ∈ window.offset, ∀ c ∈ window.rowCount, o.Apart c)
    (hexact : dialect.paging = .limit → ∀ c ∈ window.rowCount, c.bound = .exact)
    (hnode : nodeWindow dialect.paging s window parameters = .ok (skipped, last))
    (hcolumns : ∀ item ∈ s.orderBy, ∀ i ∈ item.index, i < labels.length)
    (hcount : 1 < results.length) (hwhole : ∀ r ∈ results, r.IsWhole labels)
    (hlength : ∀ r ∈ results, r.rows.length < 2 ^ 63) :
    (skipped = 0 ∧ ∀ offset kept, window.offsetRows parameters = .ok offset →
      window.rowLimit parameters = .ok kept → last = pushedLast dialect.paging offset kept) ∧
    (merge dialect schema (.select s) parameters (results.map (·.firstOf last))).bind
        MergedResult.rows =
      (merge dialect schema (.select s) parameters results).bind MergedResult.rows ∧
    ∀ keys offset kept, sortKeys s.orderBy labels
        (caseSensitivity labels (Statement.select s).tables schema) = .ok keys →
      window.offsetRows parameters = .ok offset → window.rowLimit parameters = .ok kept →
      ∃ rows, rows ~ results.flatMap (·.rows) ∧
        (merge dialect schema (.select s) parameters results).bind MergedResult.rows =
          .ok (pageRows dialect.paging offset kept rows) := by
  have hlast := nodeWindow_eq (.inl hplain.groupBy) hapart hexact hnode
  refine ⟨hlast, ?_, fun keys offset kept =>
    exists_merge_rows_eq hplain hwindow hcolumns hcount hwhole⟩
  cases last with
  | none =>
    have hself : results.map (·.firstOf none) = results := List.map_id _
    rw [hself]
  | some n =>
    exact merge_map_firstRows_eq hplain hpaging hwindow hcolumns hcount hwhole hlength
      fun offset kept hoffset hkept => (hlast.2 offset kept hoffset hkept).symm

end Merge

/-- The orders by amount, in this window. -/
def ordersByAmount (window : Pagination) : Select where
  tables := ["t_order"]
  list := ⟨[.column "amount" none], false⟩
  condition := none
  groupBy := []
  orderBy := [⟨.label "AMOUNT", .desc, .low, none⟩]
  having := none
  pagination := some window
  lock := false
  subquery := false

/-- A literal offset at these bytes, and a row count among the parameters. -/
def secondPage : Pagination :=
  ⟨some ⟨.literal 1, .exact, some (48, 49)⟩, some ⟨.parameter 0, .exact, none⟩⟩

/-- Amounts that a node returns. -/
def amounts (ns : List Int64) : PartialResult := .ofRows ["amount"] (ns.map fun n => [.integer n])

/-- The second and third orders come from the first three of each node. -/
theorem merge_firstOf_ordersByAmount :
    nodeWindow (Dialect.paging .mySQL) (ordersByAmount secondPage) secondPage [.integer 2] =
        .ok (0, some 3) ∧
    (merge .mySQL .empty (.select (ordersByAmount secondPage)) [.integer 2]
        ([amounts [9, 5, 3, 1], amounts [8, 5, 4, 2]].map (·.firstOf (some 3)))).bind
          MergedResult.rows =
      (merge .mySQL .empty (.select (ordersByAmount secondPage)) [.integer 2]
        [amounts [9, 5, 3, 1], amounts [8, 5, 4, 2]]).bind MergedResult.rows := by
  have hnode : nodeWindow (Dialect.paging .mySQL) (ordersByAmount secondPage) secondPage
      [.integer 2] = .ok (0, some 3) := by decide +kernel
  have hwhole : ∀ r ∈ [amounts [9, 5, 3, 1], amounts [8, 5, 4, 2]],
      r.IsWhole ["amount"] ∧ r.rows.length < 2 ^ 63 := by
    simp only [List.forall_mem_cons]
    refine ⟨⟨⟨rfl, rfl, ?_⟩, by decide⟩, ⟨⟨rfl, rfl, ?_⟩, by decide⟩, by simp⟩ <;> decide
  have hplain : (ordersByAmount secondPage).IsPlain := ⟨rfl, rfl, rfl, rfl⟩
  have hapart : ∀ o ∈ secondPage.offset, ∀ c ∈ secondPage.rowCount, o.Apart c := by
    simp [secondPage, PageSegment.Apart]
  have hexact : ∀ c ∈ secondPage.rowCount, c.bound = .exact := by simp [secondPage]
  have hcolumns : ∀ item ∈ (ordersByAmount secondPage).orderBy, ∀ i ∈ item.index,
      i < ["amount"].length := by simp [ordersByAmount]
  refine ⟨hnode, ?_⟩
  exact (merge_firstOf_eq hplain Dialect.Paging.noConfusion rfl hapart
    (fun _ => hexact) hnode hcolumns (by decide) (fun r hr => (hwhole r hr).1)
    fun r hr => (hwhole r hr).2).2.1

end ScatterGather
