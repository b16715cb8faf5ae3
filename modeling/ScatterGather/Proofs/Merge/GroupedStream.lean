import ScatterGather.Merge.Cursor
import ScatterGather.Proofs.Merge.Group

/-!
# Proofs/Merge/GroupedStream — groups that arrive as runs of rows

Rows in order come group by group, since rows tie exactly within a group
(`groupId_ne_of_mem_dropWhile`).  So gathering a run of rows gathers a whole group, and the row that
ends it begins the next one.  A grouped stream therefore shows what the groups of its rows show, or
fails with the first that does (`IsBefore.reads_cases`); over sorted results these are the
aggregated rows of all their rows, in order (`exists_ofResults_eq`).
-/

namespace ScatterGather

open scoped List

/-! ## Streams on their way

A grouped stream stands one row ahead of what it shows.  So its invariant is about a stream in the
middle of its rows. -/

namespace OrderedStream

/-- A live stream by these keys that yields these rows. -/
structure IsGoing (keys : List SortKey) (rows : List Row) (s : OrderedStream) : Prop where
  live : s.IsLive
  keys_eq : s.keys = keys
  yields : s.Yields rows

variable {keys : List SortKey} {row : Row} {rows : List Row} {s : OrderedStream} {width : Nat}

/-- With a row to come, the stream moves on to it. -/
theorem IsGoing.exists_next_eq (h : s.IsGoing keys (row :: rows)) :
    ∃ t, s.next = (.ok true, t) ∧ t.row? = some row ∧ t.IsGoing keys rows := by
  obtain ⟨hlive, hkeys, hyields⟩ := h
  cases hyields with
  | @step _ t _ _ hnext hrow hrest =>
    obtain ⟨-, hnext'⟩ | ⟨t', _, _, _, rfl, hnext', hlive', -, -⟩ := hlive.next_cases
    · exact nomatch congrArg Prod.fst (hnext.symm.trans hnext')
    · obtain rfl := congrArg Prod.snd (hnext.symm.trans hnext')
      exact ⟨_, hnext, hrow, hlive', hkeys, hrest⟩

/-- A stream with no row to come is at its end. -/
theorem IsGoing.exists_next_eq_false (h : s.IsGoing keys []) : ∃ t, s.next = (.ok false, t) := by
  obtain ⟨-, -, hyields⟩ := h
  cases hyields with
  | done hnext => exact ⟨_, hnext⟩

/-- The number of rows that remain. -/
theorem IsGoing.remaining_eq (h : s.IsGoing keys rows) : s.remaining = rows.length := by
  rw [OrderedStream.remaining_eq, (h.yields.perm h.live).length_eq]

/-- **The row that a live stream stands on.** -/
theorem streamRow_eq (hlive : s.IsLive) (hrow : s.row? = some row) (hwidth : row.length = width) :
    GroupedStream.streamRow width s = .ok row := by
  obtain ⟨p, hp, rfl⟩ := Option.map_eq_some_iff.1 hrow
  have hvalue : s.value = p.result.value := by
    funext i
    rw [value, hp]
  rw [GroupedStream.streamRow, hvalue]
  exact PartialResult.mapM_value_eq (hlive.current p hp).current hwidth

end OrderedStream

/-! ## Gathering a group

The stream is moved on until a row of another group comes up or none is left.  That row is not lost:
the next group begins with it. -/

namespace GroupedStream

open OrderedStream (IsGoing)

/-- A stream that stands on the first of these rows and yields the others, or is at its end. -/
def StandsOn (keys : List SortKey) (pending : Bool) (s : OrderedStream) : List Row → Prop
  | [] => pending = false
  | row :: rest => pending = true ∧ s.row? = some row ∧ s.IsGoing keys rest

section Gather

variable {types : Nat → Variant} {keys : List SortKey} {aggregates : List PlacedAggregate}
  {first : Row} {rows : List Row} {accs : List Accumulator} {s : OrderedStream} {width fuel : Nat}

/-- Whether a row is of the group of another one. -/
def sameGroup (keys : List SortKey) (first row : Row) : Bool :=
  decide (groupId keys row = groupId keys first)

/-- The stream's test of a row is whether it is of the group. -/
theorem equalsAll_eq_sameGroup {row : Row} (hexact : ∀ k ∈ keys, (types k.index).IsExact)
    (hrow : Row.HasVariants types keys row) (hfirst : Row.HasVariants types keys first) :
    Value.equalsAll (groupKey keys row) (groupKey keys first) = sameGroup keys first row := by
  rw [Bool.eq_iff_iff, sameGroup, decide_eq_true_iff]
  exact equalsAll_groupKey_iff (hrow.hasNoDoubles hexact) (hfirst.hasNoDoubles hexact)

/-- **Gathering takes in the run of rows of the group**, and stops on the row after it unless one of
the run is not taken. -/
theorem exists_gather_eq (aggregates : List PlacedAggregate) (accs : List Accumulator)
    (hexact : ∀ k ∈ keys, (types k.index).IsExact)
    (hfirst : Row.HasVariants types keys first) (h : s.IsGoing keys rows)
    (hrows : ∀ row ∈ rows, Row.HasVariants types keys row)
    (hwidth : ∀ row ∈ rows, row.length = width) (hfuel : rows.length < fuel) :
    ∃ pending t, gather aggregates width (groupKey keys first) fuel accs s =
        ⟨(rows.takeWhile (sameGroup keys first)).foldlM
          (fun accs row => feedRow row aggregates accs) accs, pending, t⟩ ∧
      ∀ accs', (rows.takeWhile (sameGroup keys first)).foldlM
          (fun accs row => feedRow row aggregates accs) accs = .ok accs' →
        StandsOn keys pending t (rows.dropWhile (sameGroup keys first)) := by
  induction rows generalizing accs s fuel with
  | nil =>
    obtain ⟨fuel, rfl⟩ := Nat.exists_eq_add_one_of_ne_zero (Nat.ne_zero_of_lt hfuel)
    obtain ⟨t, hnext⟩ := h.exists_next_eq_false
    refine ⟨false, t, ?_, fun _ _ => rfl⟩
    rw [gather, hnext]
    rfl
  | cons row rows ih =>
    obtain ⟨fuel, rfl⟩ := Nat.exists_eq_add_one_of_ne_zero (Nat.ne_zero_of_lt hfuel)
    obtain ⟨hvariants, hrows⟩ := List.forall_mem_cons.1 hrows
    obtain ⟨hrow, hwidth⟩ := List.forall_mem_cons.1 hwidth
    obtain ⟨t, hnext, hstands, hgoing⟩ := h.exists_next_eq
    -- Comparing values is comparing keys, as all cells of a column have one exact type.
    have hsame := equalsAll_eq_sameGroup hexact hvariants hfirst
    rw [gather, hnext]
    simp only [OrderedStream.streamRow_eq hgoing.live hstands hrow, hgoing.keys_eq, hsame]
    cases hgroup : sameGroup keys first row with
    | false =>
      have hneg : ¬sameGroup keys first row = true := by simp [hgroup]
      rw [List.takeWhile_cons_of_neg hneg, List.dropWhile_cons_of_neg hneg]
      exact ⟨true, t, rfl, fun _ _ => ⟨rfl, hstands, hgoing⟩⟩
    | true =>
      rw [List.takeWhile_cons_of_pos hgroup, List.dropWhile_cons_of_pos hgroup, List.foldlM_cons]
      cases hfeed : feedRow row aggregates accs with
      | error e => exact ⟨true, t, rfl, fun _ herror => by cases herror⟩
      | ok accs' => exact ih accs' hgoing hrows hwidth (Nat.lt_of_succ_lt_succ hfuel)

end Gather

/-! ## Runs of rows

In order, equal identities stand together.  This is where the keys have to be compared exactly: a
tie must be an equality of identities. -/

section Runs

variable {types : Nat → Variant} {keys : List SortKey} {first : Row} {rows : List Row}

/-- **Where rows are in order, a group is a run**: after a row of another group there is none of the
first one's. -/
theorem groupId_ne_of_mem_dropWhile (hexact : ∀ k ∈ keys, (types k.index).IsExact)
    (hrows : ∀ row ∈ first :: rows, Row.HasVariants types keys row)
    (hsorted : (first :: rows).Pairwise (RowLe keys)) :
    ∀ row ∈ rows.dropWhile (sameGroup keys first), groupId keys row ≠ groupId keys first := by
  have horder := preorderOn_compareRows hexact
  obtain ⟨hfirst, hrest⟩ := List.forall_mem_cons.1 hrows
  obtain ⟨hle, hpairwise⟩ := List.pairwise_cons.1 hsorted
  induction rows with
  | nil => simp
  | cons a rows ih =>
    obtain ⟨ha, hvariants⟩ := List.forall_mem_cons.1 hrest
    obtain ⟨hlea, hles⟩ := List.forall_mem_cons.1 hle
    obtain ⟨hbelow, hpairwise'⟩ := List.pairwise_cons.1 hpairwise
    cases hgroup : sameGroup keys first a with
    | true =>
      rw [List.dropWhile_cons_of_pos hgroup]
      exact ih (List.forall_mem_cons.2 ⟨hfirst, hvariants⟩)
        (List.pairwise_cons.2 ⟨hles, hpairwise'⟩) hvariants hles hpairwise'
    | false =>
      have hne : groupId keys a ≠ groupId keys first := by simpa [sameGroup] using hgroup
      have hlt : compareRows keys first a = .lt := by
        cases ho : compareRows keys first a with
        | lt => rfl
        | eq => exact absurd ((compareRows_eq_eq_iff hexact hfirst ha).1 ho).symm hne
        | gt =>
          rw [RowLe, ho] at hlea
          cases hlea
      rw [List.dropWhile_cons_of_neg (by simp [hgroup])]
      refine List.forall_mem_cons.2 ⟨hne, fun b hb heq => ?_⟩
      have hlt' := horder.lt_of_lt_of_isLE hfirst ha (hvariants b hb) hlt (hbelow b hb)
      rw [(compareRows_eq_eq_iff hexact hfirst (hvariants b hb)).2 heq.symm] at hlt'
      cases hlt'

/-- All rows of the first run are of the first group. -/
theorem groupId_of_mem_takeWhile {row : Row} (h : row ∈ rows.takeWhile (sameGroup keys first)) :
    groupId keys row = groupId keys first :=
  of_decide_eq_true (List.all_eq_true.1 List.all_takeWhile row h)

/-- A run of one item is one item. -/
theorem dedup_run {α : Type} [DecidableEq α] {a : α} {run rest : List α} (hrun : ∀ b ∈ run, b = a)
    (hrest : a ∉ rest) : (a :: (run ++ rest)).dedup = a :: rest.dedup := by
  induction run with
  | nil => exact List.dedup_cons_of_notMem hrest
  | cons b run ih =>
    obtain ⟨rfl, hrun⟩ := List.forall_mem_cons.1 hrun
    rw [List.cons_append, List.dedup_cons_of_mem List.mem_cons_self]
    exact ih hrun

/-- The rows of a group are those in the first run and those behind it. -/
theorem rowsOf_eq_append (first : Row) (id : List Value) (rows : List Row) :
    rowsOf keys id rows = rowsOf keys id (rows.takeWhile (sameGroup keys first)) ++
      rowsOf keys id (rows.dropWhile (sameGroup keys first)) := by
  rw [rowsOf, rowsOf, rowsOf, ← List.filter_append, List.takeWhile_append_dropWhile]

/-- The rows of the first group are the first run. -/
theorem rowsOf_eq_takeWhile (hexact : ∀ k ∈ keys, (types k.index).IsExact)
    (hrows : ∀ row ∈ first :: rows, Row.HasVariants types keys row)
    (hsorted : (first :: rows).Pairwise (RowLe keys)) :
    rowsOf keys (groupId keys first) (first :: rows) =
      first :: rows.takeWhile (sameGroup keys first) := by
  have htake : rowsOf keys (groupId keys first) (rows.takeWhile (sameGroup keys first)) =
      rows.takeWhile (sameGroup keys first) :=
    List.filter_eq_self.2 fun row hrow => decide_eq_true (groupId_of_mem_takeWhile hrow)
  rw [rowsOf_cons_self rfl, rowsOf_eq_append first _ rows, htake,
    rowsOf_eq_nil (groupId_ne_of_mem_dropWhile hexact hrows hsorted), List.append_nil]

/-- The rows of another group come after the first run. -/
theorem rowsOf_dropWhile {id : List Value} (hid : id ≠ groupId keys first) :
    rowsOf keys id (first :: rows) = rowsOf keys id (rows.dropWhile (sameGroup keys first)) := by
  have htake : rowsOf keys id (rows.takeWhile (sameGroup keys first)) = [] :=
    rowsOf_eq_nil fun row hrow heq => hid (heq.symm.trans (groupId_of_mem_takeWhile hrow))
  rw [rowsOf_cons_of_ne (Ne.symm hid), rowsOf_eq_append first _ rows, htake,
    List.nil_append]

end Runs

/-! ## One group after another

What the rows of a stream show is cut into the first run and the groups of the rest, and the
recursion follows the stream. -/

section Groups

variable {types : Nat → Variant} {keys : List SortKey} {aggregates : List PlacedAggregate}
  {row : Row} {rows rest out : List Row} {width columns : Nat} {g : GroupedStream}

/-- **Rows in order**: of one width, with keys that are compared exactly. -/
structure InOrder (types : Nat → Variant) (keys : List SortKey) (width : Nat) (rows : List Row) :
    Prop where
  exact : ∀ k ∈ keys, (types k.index).IsExact
  hasVariants : ∀ row ∈ rows, Row.HasVariants types keys row
  width : ∀ row ∈ rows, row.length = width
  sorted : rows.Pairwise (RowLe keys)

theorem InOrder.of_sublist {rows' : List Row} (h : InOrder types keys width rows)
    (hsub : rows' <+ rows) : InOrder types keys width rows' :=
  { h with
    hasVariants := fun row hrow => h.hasVariants row (hsub.subset hrow)
    width := fun row hrow => h.width row (hsub.subset hrow)
    sorted := h.sorted.sublist hsub }

/-- The rows after the first run are in order too. -/
theorem InOrder.dropWhile (h : InOrder types keys width (row :: rest)) :
    InOrder types keys width (rest.dropWhile (sameGroup keys row)) :=
  h.of_sublist ((List.dropWhile_sublist _).cons row)

/-- **The identities of rows in order** are that of the first run and those of the rows after it. -/
theorem InOrder.idsOf_cons (h : InOrder types keys width (row :: rest)) :
    idsOf keys (row :: rest) =
      groupId keys row :: idsOf keys (rest.dropWhile (sameGroup keys row)) := by
  have hothers : groupId keys row ∉ (rest.dropWhile (sameGroup keys row)).map (groupId keys) := by
    intro hmem
    obtain ⟨r, hr, heq⟩ := List.mem_map.1 hmem
    exact groupId_ne_of_mem_dropWhile h.exact h.hasVariants h.sorted r hr heq
  have hsplit : rest.map (groupId keys) =
      (rest.takeWhile (sameGroup keys row)).map (groupId keys) ++
        (rest.dropWhile (sameGroup keys row)).map (groupId keys) := by
    rw [← List.map_append, List.takeWhile_append_dropWhile]
  rw [idsOf, List.map_cons, hsplit, dedup_run ?_ hothers, idsOf]
  intro id hid
  obtain ⟨r, hr, rfl⟩ := List.mem_map.1 hid
  exact groupId_of_mem_takeWhile hr

/-- **The groups of rows in order** are the first run and those of the rows after it. -/
theorem InOrder.groupedRows_cons (h : InOrder types keys width (row :: rest)) :
    groupedRows keys aggregates (row :: rest) =
      (groupRow aggregates (row :: rest.takeWhile (sameGroup keys row))).bind fun o =>
        (groupedRows keys aggregates (rest.dropWhile (sameGroup keys row))).map (o :: ·) := by
  have hrest : ∀ id ∈ idsOf keys (rest.dropWhile (sameGroup keys row)),
      rowsOf keys id (row :: rest) = rowsOf keys id (rest.dropWhile (sameGroup keys row)) := by
    intro id hid
    obtain ⟨r, hr, rfl⟩ := mem_idsOf.1 hid
    exact rowsOf_dropWhile (groupId_ne_of_mem_dropWhile h.exact h.hasVariants h.sorted r hr)
  rw [groupedRows, h.idsOf_cons, List.mapM_cons,
    rowsOf_eq_takeWhile h.exact h.hasVariants h.sorted,
    mapM_congr_left fun id hid => congrArg (groupRow aggregates) (hrest id hid)]
  rfl

/-- The first rows of groups stand in order. -/
theorem InOrder.firstsOf_sublist (h : InOrder types keys width rows) :
    firstsOf keys rows <+ rows := by
  induction hlength : rows.length using Nat.strong_induction_on generalizing rows with
  | _ n ih =>
    cases rows with
    | nil => exact List.Sublist.refl []
    | cons row rest =>
      have hsub : rest.dropWhile (sameGroup keys row) <+ rest := List.dropWhile_sublist _
      have hfirsts := ih _ (hlength ▸ Nat.lt_succ_of_le hsub.length_le) h.dropWhile rfl
      have hcons : firstsOf keys (row :: rest) =
          row :: firstsOf keys (rest.dropWhile (sameGroup keys row)) := by
        rw [firstsOf, h.idsOf_cons, List.map_cons,
          rowsOf_eq_takeWhile h.exact h.hasVariants h.sorted, firstsOf]
        refine congrArg (row :: ·) (List.map_congr_left fun id hid => ?_)
        obtain ⟨r, hr, rfl⟩ := mem_idsOf.1 hid
        rw [rowsOf_dropWhile
          (groupId_ne_of_mem_dropWhile h.exact h.hasVariants h.sorted r hr)]
      rw [hcons]
      exact (hfirsts.trans hsub).cons_cons row

/-- What the groups of rows in order show is in order, unless a key names the column of an
aggregate. -/
theorem InOrder.pairwise_of_groupedRows (h : InOrder types keys width rows)
    (hkeys : ∀ k ∈ keys, ∀ a ∈ aggregates, k.index ≠ a.index)
    (hout : groupedRows keys aggregates rows = .ok out) : out.Pairwise (RowLe keys) := by
  have hfirsts := h.sorted.sublist h.firstsOf_sublist
  have hsame := (forall₂_of_groupedRows hout).imp fun _ _ hsame => hsame.sameKeyCells hkeys
  generalize firstsOf keys rows = firsts at hfirsts hsame
  clear hout
  induction hsame with
  | nil => exact .nil
  | @cons o first out firsts hcells hrest ih =>
    obtain ⟨hle, hfirsts⟩ := List.pairwise_cons.1 hfirsts
    refine List.pairwise_cons.2 ⟨fun o' ho' => ?_, ih hfirsts⟩
    obtain ⟨first', hfirst', hcells'⟩ := exists_mem_of_forall₂ hrest ho'
    exact (hcells.rowLe_iff hcells').2 (hle first' hfirst')

/-- A grouped stream whose stream stands on the first of these rows. -/
structure IsBefore (keys : List SortKey) (aggregates : List PlacedAggregate) (width : Nat)
    (rows : List Row) (g : GroupedStream) : Prop where
  stands : StandsOn keys g.pending g.stream rows
  aggregates_eq : g.aggregates = aggregates
  width_eq : g.width = width

/-- As many groups remain as there are rows, at most. -/
theorem IsBefore.remaining_eq (h : g.IsBefore keys aggregates width rows) :
    g.remaining = rows.length := by
  obtain ⟨stream, aggregates', width', current, pending⟩ := g
  obtain ⟨hstands, -, -⟩ := h
  cases rows with
  | nil =>
    obtain rfl : pending = false := hstands
    rfl
  | cons row rest =>
    obtain ⟨rfl, -, hgoing⟩ := hstands
    change stream.remaining + 1 = rest.length + 1
    rw [hgoing.remaining_eq]

/-- **Moving on shows the group of the next run**, and the stream stands before the rows after it;
or it fails with the group. -/
theorem IsBefore.next_cases (h : g.IsBefore keys aggregates width (row :: rest))
    (hrows : InOrder types keys width (row :: rest)) :
    (∃ o g', groupRow aggregates (row :: rest.takeWhile (sameGroup keys row)) = .ok o ∧
      g.next = (.ok true, g') ∧ g'.current = some o ∧
      g'.IsBefore keys aggregates width (rest.dropWhile (sameGroup keys row))) ∨
    ∃ e g', groupRow aggregates (row :: rest.takeWhile (sameGroup keys row)) = .error e ∧
      g.next = (.error e, g') := by
  obtain ⟨⟨hpending, hstands, hgoing⟩, rfl, rfl⟩ := h
  obtain ⟨hfirst, hvariants⟩ := List.forall_mem_cons.1 hrows.hasVariants
  obtain ⟨hrow, hwidth⟩ := List.forall_mem_cons.1 hrows.width
  have hstream := OrderedStream.streamRow_eq hgoing.live hstands hrow
  rw [next, hpending, beginGroup, hstream, groupRow, feedRows, List.foldlM_cons, hgoing.keys_eq]
  simp only [Bool.not_true, Bool.false_eq_true, if_false, bind, Except.bind, List.headD_cons]
  cases feedRow row g.aggregates (freshAccumulators g.aggregates) with
  | error e => exact .inr ⟨e, g, rfl, rfl⟩
  | ok accs =>
    obtain ⟨pending, t, hgather, hafter⟩ := exists_gather_eq g.aggregates accs
      hrows.exact hfirst hgoing hvariants hwidth
      (Nat.lt_succ_of_le hgoing.remaining_eq.ge)
    simp only [pure, Except.pure, hgather]
    cases hrun : (rest.takeWhile (sameGroup keys row)).foldlM
        (fun accs row => feedRow row g.aggregates accs) accs with
    | error e => exact .inr ⟨e, _, rfl, rfl⟩
    | ok accs' =>
      dsimp only
      cases withResults row g.aggregates accs' with
      | error e => exact .inr ⟨e, _, rfl, rfl⟩
      | ok o => exact .inl ⟨o, _, rfl, rfl, rfl, hafter accs' hrun, rfl, rfl⟩

/-- **Reading a grouped stream shows what the groups of its rows show**, in order, or breaks where
one of them fails. -/
theorem IsBefore.reads_cases (h : g.IsBefore keys aggregates width rows)
    (hrows : InOrder types keys width rows) (columns : Nat) :
    (∃ out, groupedRows keys aggregates rows = .ok out ∧
      BaseCursor.Yields columns (.grouped g) (out.map (visibleCells columns))) ∨
    ∃ e, groupedRows keys aggregates rows = .error e ∧
      BaseCursor.BreaksWith columns e (.grouped g) := by
  induction hlength : rows.length using Nat.strong_induction_on generalizing rows g with
  | _ n ih =>
    cases rows with
    | nil =>
      have hnext : g.next = (.ok false, { g with current := none }) := by
        rw [next, show g.pending = false from h.stands]
        rfl
      exact .inl ⟨[], rfl, .done (congrArg (Prod.map id BaseCursor.grouped) hnext)⟩
    | cons row rest =>
      rw [hrows.groupedRows_cons]
      obtain ⟨o, g', hgroup, hnext, hcurrent, hbefore⟩ | ⟨e, g', hgroup, hnext⟩ :=
        h.next_cases hrows
      · have hmove : BaseCursor.next (.grouped g) = (.ok true, .grouped g') :=
          congrArg (Prod.map id BaseCursor.grouped) hnext
        have hcells := BaseCursor.mapM_value_grouped hcurrent columns
        have hlt : (rest.dropWhile (sameGroup keys row)).length < (row :: rest).length :=
          Nat.lt_succ_of_le (List.dropWhile_sublist _).length_le
        -- A step uses up the run of its group, and what is left decreases with the rows behind it.
        have hless : g'.remaining < g.remaining := by
          rwa [h.remaining_eq, hbefore.remaining_eq]
        obtain ⟨out, hout, hyields⟩ | ⟨e, he, hbreaks⟩ :=
          ih _ (hlength ▸ hlt) hbefore hrows.dropWhile rfl
        · refine .inl ⟨o :: out, ?_, .step hmove hless hcells hyields⟩
          rw [hgroup, hout]
          rfl
        · refine .inr ⟨e, ?_, .step hmove hless hcells hbreaks⟩
          rw [hgroup, he]
          rfl
      · refine .inr ⟨e, ?_, .fail (congrArg (Prod.map id BaseCursor.grouped) hnext)⟩
        rw [hgroup]
        rfl

/-- A sorted stream has its first step taken before its first group. -/
theorem exists_standsOn {s : OrderedStream} (hlive : s.IsLive) (hkeys : s.keys = keys)
    (h : s.Yields rows) :
    ∃ pending t, s.next = (.ok pending, t) ∧ StandsOn keys pending t rows := by
  cases h with
  | done hnext => exact ⟨false, _, hnext, rfl⟩
  | @step _ t row rest hnext hrow hrest =>
    have hgoing : OrderedStream.IsGoing keys (row :: rest) s :=
      ⟨hlive, hkeys, .step hnext hrow hrest⟩
    obtain ⟨t', hnext', hrow', hgoing'⟩ := hgoing.exists_next_eq
    exact ⟨true, t', hnext', rfl, hrow', hgoing'⟩

/-- **A grouped stream over sorted results** stands before all their rows, merged in order. -/
theorem exists_ofResults_isBefore (list : SelectList) {results : List PartialResult}
    (hexact : ∀ k ∈ keys, (types k.index).IsExact) (hbelow : ∀ k ∈ keys, k.index < width)
    (hvariants : ∀ row ∈ results.flatMap (·.rows), Row.HasVariants types keys row)
    (hne : results ≠ []) (hwide : ∀ r ∈ results, r.IsWide width)
    (hsorted : ∀ r ∈ results, r.rows.Pairwise (RowLe keys)) :
    ∃ g rows, ofResults list keys results = .ok g ∧
      g.IsBefore keys list.aggregates width rows ∧ InOrder types keys width rows ∧
      OrderedStream.Merges keys results rows ∧ rows ~ results.flatMap (·.rows) := by
  have horder := preorderOn_compareRows hexact
  have hreadable : ∀ r ∈ results, r.Readable keys := fun r hr =>
    ⟨(hwide r hr).failure, fun row hrow k hk => (hwide r hr).rows row hrow ▸ hbelow k hk⟩
  obtain ⟨s, hs, hlive, hskeys, -, hcome⟩ := OrderedStream.exists_ofResults_eq hreadable
  have hissorted : s.IsSorted (Row.HasVariants types keys) :=
    OrderedStream.isSorted_of_ofResults horder hreadable
      (fun r hr row hrow => hvariants row (List.mem_flatMap.2 ⟨r, hr, hrow⟩)) hsorted hs
  obtain ⟨rows, hyields, hperm⟩ := hlive.exists_yields
  have hperm' := hperm.trans hcome
  obtain ⟨pending, t, hnext, hstands⟩ := exists_standsOn hlive hskeys hyields
  obtain ⟨r, rest, rfl⟩ := List.exists_cons_of_ne_nil hne
  refine ⟨⟨t, list.aggregates, width, none, pending⟩, rows, ?_, ⟨hstands, rfl, rfl⟩,
    ⟨hexact, fun row hrow => hvariants row (hperm'.mem_iff.1 hrow), fun row hrow => ?_, ?_⟩,
    ⟨s, hs, hyields⟩, hperm'⟩
  · rw [ofResults, hs]
    simp only [bind, Except.bind, hnext, List.head?_cons, Option.map_some, Option.getD_some,
      (hwide r List.mem_cons_self).labels]
    rfl
  · obtain ⟨r', hr', hrow'⟩ := List.mem_flatMap.1 (hperm'.mem_iff.1 hrow)
    exact (hwide r' hr').rows row hrow'
  · exact hskeys ▸ hyields.pairwise (hskeys.symm ▸ horder) hissorted

/-- **A grouped stream over sorted results** shows the aggregated rows of all their rows, in
order. -/
theorem exists_ofResults_eq {list : SelectList} {results : List PartialResult}
    (hexact : ∀ k ∈ keys, (types k.index).IsExact)
    (hkeys : ∀ k ∈ keys, ∀ a ∈ list.aggregates, k.index ≠ a.index)
    (hbelow : ∀ k ∈ keys, k.index < width)
    (hrows : Foldable types keys list.aggregates (results.flatMap (·.rows)))
    (hne : results ≠ []) (hwide : ∀ r ∈ results, r.IsWide width)
    (hsorted : ∀ r ∈ results, r.rows.Pairwise (RowLe keys)) (columns : Nat) :
    ∃ g out, ofResults list keys results = .ok g ∧
      BaseCursor.Yields columns (.grouped g) (out.map (visibleCells columns)) ∧
      IsAggregated keys list.aggregates (results.flatMap (·.rows)) out ∧
      out.Pairwise (RowLe keys) := by
  have hplaced : ∀ a ∈ list.aggregates, a.IsPlaced := fun a ha => SelectList.isPlaced_of_mem ha
  obtain ⟨g, rows, hg, hbefore, hordered, -, hperm⟩ := exists_ofResults_isBefore list hexact
    hbelow hrows.hasVariants hne hwide hsorted
  have hfoldable := hrows.perm hperm.symm
  obtain ⟨out, hout⟩ := hfoldable.exists_groupedRows_eq hplaced
  obtain ⟨out', hout', hyields⟩ | ⟨e, he, -⟩ := hbefore.reads_cases hordered columns
  · have haggregated :=
      isAggregated_of_groupedRows hplaced list.pairwise_index hkeys hfoldable hout'
    exact ⟨g, out', hg, hyields, haggregated.of_perm hperm,
      hordered.pairwise_of_groupedRows hkeys hout'⟩
  · cases hout.symm.trans he

end Groups

end GroupedStream

end ScatterGather
