import ScatterGather.Proofs.Merge.Cursor

/-!
# Proofs/Merge/Interleaving — a merge of results takes their rows in turn

Rows **interleave** sources (`Interleaves`) if they can be taken off the fronts of the sources, one
after another, until nothing is left: each row of each source once, and those of one source in its
order.  What a merge in order yields interleaves its results, sorted or not, and is sorted if they
are and their cells compare column by column (`OrderedStream.exists_interleaving`).

A result stands for one source wherever it is: in the queue with the row it has read
(`Positioned.rows`), or out of it while its row is shown (`OrderedStream.sources`).
-/

namespace ScatterGather

open scoped List

/-! ## Rows taken in turn

Interleaving says that nothing is lost, doubled or put in another order within a source.  It says
nothing of which source comes next. -/

/-- The rows are taken off the fronts of the sources, one after another, until all are empty. -/
inductive Interleaves : List (List Row) → List Row → Prop
  | done {sources : List (List Row)} : (∀ source ∈ sources, source = []) → Interleaves sources []
  | take {sources others : List (List Row)} {row : Row} {rest rows : List Row} :
      sources ~ (row :: rest) :: others → Interleaves (rest :: others) rows →
      Interleaves sources (row :: rows)

namespace Interleaves

variable {sources sources' : List (List Row)} {rows : List Row}

/-- The order of the sources does not matter. -/
theorem of_perm (h : Interleaves sources rows) (hperm : sources ~ sources') :
    Interleaves sources' rows := by
  cases h with
  | done hempty => exact .done fun source hsource => hempty source (hperm.symm.subset hsource)
  | take htake hrest => exact .take (hperm.symm.trans htake) hrest

/-- Nothing is taken off an empty source. -/
theorem nil_cons (h : Interleaves sources rows) : Interleaves ([] :: sources) rows := by
  induction h with
  | done hempty => exact .done (List.forall_mem_cons.2 ⟨rfl, hempty⟩)
  | take htake _ ih =>
    refine .take ((htake.cons []).trans (.swap _ _ _)) (ih.of_perm (.swap _ _ _))

/-- **Every row is taken once.** -/
theorem perm (h : Interleaves sources rows) : rows ~ sources.flatten := by
  induction h with
  | done hempty => exact .of_eq (List.flatten_eq_nil_iff.2 hempty).symm
  | take htake _ ih => exact (ih.cons _).trans htake.symm.flatten

/-- **The rows of a source are taken in its order.** -/
theorem sublist (h : Interleaves sources rows) : ∀ source ∈ sources, source <+ rows := by
  induction h with
  | done hempty =>
    intro source hsource
    rw [hempty source hsource]
  | take htake _ ih =>
    obtain ⟨hrest, hothers⟩ := List.forall_mem_cons.1 ih
    intro source hsource
    rcases List.mem_cons.1 (htake.subset hsource) with rfl | hsource
    · exact hrest.cons_cons _
    · exact (hothers source hsource).cons _

end Interleaves

/-! ## The sources of a stream

To follow a stream, its results are taken as sources wherever they are.  A step takes the first row
off one of them; a result at its end is a source without rows. -/

namespace OrderedStream

section Live

variable {s : OrderedStream} {rows : List Row}

/-- The rows still to be shown, result by result. -/
def sources (s : OrderedStream) : List (List Row) :=
  s.queue.toList.map Positioned.rows ++ (s.current.map fun p => p.result.rows).toList

/-- The rows to come are those of all sources. -/
theorem toCome_eq_flatten (s : OrderedStream) : s.toCome = s.sources.flatten := by
  rw [toCome, sources, List.flatten_append, List.flatMap_def]
  cases s.current <;> simp

/-- The queue holds one more result, if there is one. -/
theorem IsLive.perm_pushed (h : s.IsLive) (o : Option Positioned) :
    (s.pushed o).toList ~ o.toList ++ s.queue.toList := by
  cases o with
  | none => exact .refl _
  | some p => exact h.full.push.2

/-- Putting the current result back changes no source, or leaves out an empty one. -/
theorem IsLive.interleaves_of_refilled (h : s.IsLive)
    (hrows : Interleaves s.refilled.sources rows) : Interleaves s.sources rows := by
  have hsources : s.refilled.sources =
      (s.pushed (s.current.bind fun p => Positioned.first? s.keys p.result)).toList.map
        Positioned.rows := List.append_nil _
  rw [hsources] at hrows
  have hpushed := hrows.of_perm ((h.perm_pushed _).map _)
  cases hc : s.current with
  | none =>
    rw [hc] at hpushed
    rw [sources, hc]
    exact hpushed.of_perm (.of_eq (List.append_nil _).symm)
  | some c =>
    rw [hc] at hpushed
    rw [sources, hc]
    change Interleaves (_ ++ [c.result.rows]) rows
    cases hfirst : Positioned.first? s.keys c.result with
    | none =>
      rw [Option.bind_some, hfirst] at hpushed
      rw [Positioned.first?_eq_none.1 hfirst]
      exact hpushed.nil_cons.of_perm (List.perm_append_singleton [] _).symm
    | some p =>
      rw [Option.bind_some, hfirst] at hpushed
      rw [← (Positioned.isAt_of_first? (h.current c hc).readable hfirst).2]
      exact hpushed.of_perm (List.perm_append_singleton p.rows _).symm

/-- **What a live stream yields interleaves its sources.** -/
theorem IsLive.interleaves (h : s.IsLive) (hrows : s.Yields rows) : Interleaves s.sources rows := by
  induction hrows with
  | @done s s' hnext =>
    rcases h.next_cases with ⟨hnil, -⟩ | ⟨t, _, _, _, _, hnext', _⟩
    · rw [toCome_eq_flatten, List.flatten_eq_nil_iff] at hnil
      exact .done hnil
    · cases hnext.symm.trans hnext'
  | @step s s' row rows hnext hrow hrest ih =>
    rcases h.next_cases with ⟨-, hnext'⟩ | ⟨t, p, queue, hpop, ht, hnext', hlive, _, _⟩
    · cases hnext.symm.trans hnext'
    · obtain rfl : s' = t := congrArg Prod.snd (hnext.symm.trans hnext')
      subst ht
      obtain rfl : p.row = row := Option.some.inj hrow
      -- the result that is shown was the first of the queue
      have hqueue := (h.refilled.1.full.perm_pop? hpop).2.map Positioned.rows
      have htake := (List.Perm.of_eq (List.append_nil _)).trans hqueue
      exact h.interleaves_of_refilled (.take htake ((ih hlive).of_perm List.perm_append_comm))

end Live

variable {keys : List SortKey} {results : List PartialResult}

/-- The queue of all first rows has the results for sources, but for empty ones. -/
theorem interleaves_of_enqueueAll {queue queue' : Queue Positioned} {rows : List Row}
    (hresults : ∀ r ∈ results, r.Readable keys) (hlive : IsLive ⟨keys, queue, none⟩)
    (h : enqueueAll keys queue results = .ok queue')
    (hrows : Interleaves (queue'.toList.map Positioned.rows) rows) :
    Interleaves (queue.toList.map Positioned.rows ++ results.map (·.rows)) rows := by
  induction results generalizing queue with
  | nil =>
    cases h
    exact hrows.of_perm (.of_eq (List.append_nil _).symm)
  | cons r rest ih =>
    obtain ⟨hr, hrest⟩ := List.forall_mem_cons.1 hresults
    rw [enqueueAll, Positioned.read_eq hr] at h
    rw [List.map_cons]
    cases hfirst : Positioned.first? keys r with
    | none =>
      rw [hfirst] at h
      rw [Positioned.first?_eq_none.1 hfirst]
      exact (ih hrest hlive h).nil_cons.of_perm List.perm_middle.symm
    | some p =>
      rw [hfirst] at h
      obtain ⟨hp, hprows⟩ := Positioned.isAt_of_first? hr hfirst
      obtain ⟨hfull, hat, -⟩ := hlive.pushed (o := some p) fun q hq => Option.some.inj hq ▸ hp
      have hlist := (hlive.perm_pushed (some p)).map Positioned.rows
      refine (ih hrest ⟨hfull, hat, by simp⟩ h).of_perm ((hlist.append_right _).trans ?_)
      rw [← hprows]
      exact List.perm_middle.symm

/-- **A merge in order takes each result's rows in turn**: reading it to the end succeeds and shows
every row once, those of one result in its order, sorted or not.  If each result is sorted and the
cells of each column compare with each other, all rows are sorted, whatever the directions, the
places of NULLs and the case of texts. -/
theorem exists_interleaving (hresults : ∀ r ∈ results, r.Readable keys) :
    ∃ s rows, ofResults keys results = .ok s ∧ s.Yields rows ∧
      (∀ width, (∀ r ∈ results, ∀ row ∈ r.rows, row.length = width) →
        MergedCursor.readAll ⟨⟨.ordered s, none⟩, none⟩ width = (rows, none)) ∧
      Interleaves (results.map (·.rows)) rows ∧
      ((∀ r ∈ results, r.rows.Pairwise (RowLe keys)) →
        (∀ k ∈ keys, Value.AreComparable
          ((results.flatMap (·.rows)).map (cellAt · k.index))) →
        rows.Pairwise (RowLe keys)) := by
  obtain ⟨s, hs, hlive, hkeys, hcurrent, -⟩ := exists_ofResults_eq hresults
  obtain ⟨rows, hrows, -⟩ := hlive.exists_yields
  have hinterleaves : Interleaves (results.map (·.rows)) rows := by
    obtain ⟨queue, hqueue, rfl⟩ := map_eq_ok.1 hs
    refine interleaves_of_enqueueAll hresults (isLive_empty keys) hqueue ?_
    exact (hlive.interleaves hrows).of_perm (.of_eq (List.append_nil _))
  have hmem : ∀ row ∈ rows, row ∈ results.flatMap (·.rows) := fun row hrow => by
    rw [List.flatMap_def]
    exact hinterleaves.perm.subset hrow
  refine ⟨s, rows, hs, hrows, fun width hwidth => ?_, hinterleaves, fun hsorted hcells => ?_⟩
  · refine (BaseCursor.yields_ordered hlive hrows fun row hrow => ?_).unfiltered.readAll_eq none
    obtain ⟨r, hr, hrow⟩ := List.mem_flatMap.1 (hmem row hrow)
    exact hwidth r hr row hrow
  · have horder := preorderOn_compareRows_of_areComparable hcells
    rw [← hkeys] at horder ⊢
    refine hrows.pairwise horder (isSorted_of_ofResults (hkeys ▸ horder) hresults ?_ hsorted hs)
    exact fun r hr row hrow => List.mem_flatMap.2 ⟨r, hr, hrow⟩

/-- Numbers of one column. -/
def numbers (cells : List Value) : PartialResult := .ofRows ["n"] (cells.map fun cell => [cell])

/-- The first column, the greatest number first and NULLs last. -/
def greatestFirst : SortKey := ⟨0, .desc, .low, false⟩

/-- Integers of two widths and NULLs merge into one descending order, an empty result aside. -/
theorem exists_interleaving_greatestFirst :
    ∃ s rows, ofResults [greatestFirst] [numbers [.integer 9, .smallInt 4, .null], numbers [],
        numbers [.smallInt 7, .integer 4]] = .ok s ∧
      s.Yields rows ∧
      Interleaves [[[.integer 9], [.smallInt 4], [.null]], [], [[.smallInt 7], [.integer 4]]] rows ∧
      rows.Pairwise (RowLe [greatestFirst]) := by
  have hresults : ∀ r ∈ [numbers [.integer 9, .smallInt 4, .null], numbers [],
      numbers [.smallInt 7, .integer 4]], r.Readable [greatestFirst] := by
    simp only [List.forall_mem_cons]
    refine ⟨⟨rfl, ?_⟩, ⟨rfl, ?_⟩, ⟨rfl, ?_⟩, by simp⟩ <;> decide
  obtain ⟨s, rows, hs, hrows, -, hinterleaves, hsorted⟩ := exists_interleaving hresults
  refine ⟨s, rows, hs, hrows, hinterleaves, hsorted (by decide) ?_⟩
  simp only [List.forall_mem_cons]
  refine ⟨⟨?_, ?_⟩, by simp⟩ <;> decide

end OrderedStream

end ScatterGather
