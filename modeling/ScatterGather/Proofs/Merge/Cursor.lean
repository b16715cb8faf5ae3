import ScatterGather.Merge.Result
import ScatterGather.Proofs.Merge.OrderedStream

/-!
# Proofs/Merge/Cursor — what reading a cursor shows

Reading a cursor **shows** a list of rows if it moves through them and comes to its end, a measure
of what remains going down at each (`Reads`), and **breaks** if a failure comes first (`Breaks`).
Moving on alone **passes** rows and then ends or fails (`Passes`); a row is taken as the cursor
shows it then, cell by cell (`View`), for a cell may be missing.

The measure bounds the number of rows, so it is fuel enough: reading through a window takes the rows
that there is room for (`FilteredCursor.Passes.outcomeOf_readRows`).  So a window cuts its part out
of the list (`exists_windowed_eq`): rows are skipped, then as many are shown as it asks for.
-/

namespace ScatterGather

/-- Reading moves through these rows to the end, with less remaining after each. -/
inductive Reads {σ : Type} (next : σ → Except Error Bool × σ) (cells : σ → Except Error Row)
    (remaining : σ → Nat) : σ → List Row → Prop
  | done {c c' : σ} : next c = (.ok false, c') → Reads next cells remaining c []
  | step {c c' : σ} {row : Row} {rows : List Row} : next c = (.ok true, c') →
      remaining c' < remaining c → cells c' = .ok row → Reads next cells remaining c' rows →
      Reads next cells remaining c (row :: rows)

/-- Reading moves through rows until it fails, with less remaining after each. -/
inductive Breaks {σ : Type} (next : σ → Except Error Bool × σ) (cells : σ → Except Error Row)
    (remaining : σ → Nat) (e : Error) : σ → Prop
  | fail {c c' : σ} : next c = (.error e, c') → Breaks next cells remaining e c
  | step {c c' : σ} {row : Row} : next c = (.ok true, c') → remaining c' < remaining c →
      cells c' = .ok row → Breaks next cells remaining e c' → Breaks next cells remaining e c

section Reads

variable {σ τ : Type} {next : σ → Except Error Bool × σ} {cells : σ → Except Error Row}
  {remaining : σ → Nat} {c d : σ} {rows rows' : List Row} {e : Error}

/-- **What remains bounds the rows.** -/
theorem Reads.length_le (h : Reads next cells remaining c rows) : rows.length ≤ remaining c := by
  induction h with
  | done _ => exact Nat.zero_le _
  | step _ hlt _ _ ih =>
    rw [List.length_cons]
    omega

/-- **Reading shows one list of rows.** -/
theorem Reads.unique (h : Reads next cells remaining c rows)
    (h' : Reads next cells remaining c rows') : rows = rows' := by
  induction h generalizing rows' with
  | done hnext =>
    cases h' with
    | done _ => rfl
    | step hnext' _ _ _ => exact nomatch (congrArg Prod.fst (hnext.symm.trans hnext'))
  | step hnext _ hcells _ ih =>
    cases h' with
    | done hnext' => exact nomatch (congrArg Prod.fst (hnext.symm.trans hnext'))
    | step hnext' _ hcells' hrest =>
      obtain rfl := congrArg Prod.snd (hnext.symm.trans hnext')
      rw [ih hrest, Except.ok.inj (hcells.symm.trans hcells')]

/-- A cursor that moves on to the same place reads alike. -/
theorem Reads.congr (h : Reads next cells remaining d rows) (hnext : next c = next d)
    (hle : remaining d ≤ remaining c) : Reads next cells remaining c rows := by
  cases h with
  | done h => exact .done (hnext.trans h)
  | step h hlt hcells hrest => exact .step (hnext.trans h) (Nat.lt_of_lt_of_le hlt hle) hcells hrest

/-- A cursor around another one reads what that reads. -/
theorem Reads.map {next' : τ → Except Error Bool × τ} {cells' : τ → Except Error Row}
    {remaining' : τ → Nat} (f : σ → τ) (hnext : ∀ c, next' (f c) = ((next c).1, f (next c).2))
    (hcells : ∀ c, cells' (f c) = cells c) (hremaining : ∀ c, remaining' (f c) = remaining c)
    (h : Reads next cells remaining c rows) : Reads next' cells' remaining' (f c) rows := by
  induction h with
  | done h => exact .done (by rw [hnext, h])
  | step h hlt hc _ ih =>
    refine .step (by rw [hnext, h]) ?_ ((hcells _).trans hc) ih
    rwa [hremaining, hremaining]

/-- Where the reading breaks, so does that of a cursor around it. -/
theorem Breaks.map {next' : τ → Except Error Bool × τ} {cells' : τ → Except Error Row}
    {remaining' : τ → Nat} (f : σ → τ) (hnext : ∀ c, next' (f c) = ((next c).1, f (next c).2))
    (hcells : ∀ c, cells' (f c) = cells c) (hremaining : ∀ c, remaining' (f c) = remaining c)
    (h : Breaks next cells remaining e c) : Breaks next' cells' remaining' e (f c) := by
  induction h with
  | fail h => exact .fail (by rw [hnext, h])
  | step h hlt hc _ ih =>
    refine .step (by rw [hnext, h]) ?_ ((hcells _).trans hc) ih
    rwa [hremaining, hremaining]

end Reads

/-! ## Positions

Whether a row can be read is a second question after whether there is one.  To move on without
reading is what HAVING and a window do, so the rows that are passed are described apart from their
cells. -/

/-- A row as a cursor shows it. -/
abbrev View := Nat → Except Error Value

/-- The first cells of a row. -/
def viewCells (width : Nat) (view : View) : Except Error Row := (List.range width).mapM view

/-- Moving on passes these rows, with less remaining after each, and then ends or fails. -/
inductive Passes {σ : Type} (next : σ → Except Error Bool × σ) (view : σ → View)
    (remaining : σ → Nat) : σ → List View → Except Error Unit → Prop
  | done {c c' : σ} : next c = (.ok false, c') → Passes next view remaining c [] (.ok ())
  | fail {c c' : σ} {e : Error} : next c = (.error e, c') →
      Passes next view remaining c [] (.error e)
  | step {c c' : σ} {views : List View} {ending : Except Error Unit} : next c = (.ok true, c') →
      remaining c' < remaining c → Passes next view remaining c' views ending →
      Passes next view remaining c (view c' :: views) ending

section Passes

variable {σ τ : Type} {next : σ → Except Error Bool × σ} {view : σ → View} {remaining : σ → Nat}
  {c d : σ} {views views' : List View} {ending ending' : Except Error Unit}

/-- **A cursor passes one list of rows and ends in one way.** -/
theorem Passes.unique (h : Passes next view remaining c views ending)
    (h' : Passes next view remaining c views' ending') : views = views' ∧ ending = ending' := by
  induction h generalizing views' with
  | done hnext =>
    cases h' with
    | done _ => exact ⟨rfl, rfl⟩
    | fail hnext' => cases congrArg Prod.fst (hnext.symm.trans hnext')
    | step hnext' _ _ => cases congrArg Prod.fst (hnext.symm.trans hnext')
  | fail hnext =>
    cases h' with
    | done hnext' => cases congrArg Prod.fst (hnext.symm.trans hnext')
    | fail hnext' =>
      obtain rfl := Except.error.inj (congrArg Prod.fst (hnext.symm.trans hnext'))
      exact ⟨rfl, rfl⟩
    | step hnext' _ _ => cases congrArg Prod.fst (hnext.symm.trans hnext')
  | step hnext _ _ ih =>
    cases h' with
    | done hnext' => cases congrArg Prod.fst (hnext.symm.trans hnext')
    | fail hnext' => cases congrArg Prod.fst (hnext.symm.trans hnext')
    | step hnext' _ hrest =>
      obtain rfl := congrArg Prod.snd (hnext.symm.trans hnext')
      obtain ⟨rfl, rfl⟩ := ih hrest
      exact ⟨rfl, rfl⟩

/-- **What remains bounds the rows.** -/
theorem Passes.length_le (h : Passes next view remaining c views ending) :
    views.length ≤ remaining c := by
  induction h with
  | done _ | fail _ => exact Nat.zero_le _
  | step _ hlt _ ih =>
    rw [List.length_cons]
    omega

/-- A cursor that moves on to the same place passes the same. -/
theorem Passes.congr (h : Passes next view remaining d views ending) (hnext : next c = next d)
    (hle : remaining d ≤ remaining c) : Passes next view remaining c views ending := by
  cases h with
  | done h => exact .done (hnext.trans h)
  | fail h => exact .fail (hnext.trans h)
  | step h hlt hrest => exact .step (hnext.trans h) (Nat.lt_of_lt_of_le hlt hle) hrest

/-- A cursor around another one passes what that passes. -/
theorem Passes.map {next' : τ → Except Error Bool × τ} {view' : τ → View} {remaining' : τ → Nat}
    (f : σ → τ) (hnext : ∀ c, next' (f c) = ((next c).1, f (next c).2))
    (hview : ∀ c, view' (f c) = view c) (hremaining : ∀ c, remaining' (f c) = remaining c)
    (h : Passes next view remaining c views ending) :
    Passes next' view' remaining' (f c) views ending := by
  induction h with
  | done h => exact .done (by rw [hnext, h])
  | fail h => exact .fail (by rw [hnext, h])
  | step h hlt _ ih =>
    rw [← hview]
    refine .step (by rw [hnext, h]) ?_ ih
    rwa [hremaining, hremaining]

/-- **Cursors that stay among themselves** pass some rows, since what remains goes down. -/
theorem exists_passes_of_step {P : σ → Prop}
    (hstep : ∀ {c c'}, P c → next c = (.ok true, c') → P c' ∧ remaining c' < remaining c)
    (h : P c) : ∃ views ending, Passes next view remaining c views ending := by
  induction hn : remaining c using Nat.strongRecOn generalizing c with
  | ind n ih =>
    obtain ⟨⟨e | _ | _, c'⟩, hnext⟩ : ∃ p, next c = p := ⟨_, rfl⟩
    · exact ⟨[], .error e, .fail hnext⟩
    · exact ⟨[], .ok (), .done hnext⟩
    · obtain ⟨hc', hlt⟩ := hstep h hnext
      obtain ⟨views, ending, hrest⟩ := ih _ (hn ▸ hlt) hc' rfl
      exact ⟨_, ending, .step hnext hlt hrest⟩

/-- What holds of every row that cursors of one kind show holds of all that they pass. -/
theorem Passes.forall_mem {P : σ → Prop} {Q : View → Prop}
    (hstep : ∀ {c c'}, P c → next c = (.ok true, c') → P c' ∧ Q (view c'))
    (h : Passes next view remaining c views ending) (hc : P c) : ∀ view ∈ views, Q view := by
  induction h with
  | done _ | fail _ => exact fun view hview => absurd hview List.not_mem_nil
  | step hnext _ _ ih =>
    obtain ⟨hc', hview⟩ := hstep hc hnext
    exact List.forall_mem_cons.2 ⟨hview, ih hc'⟩

/-- What is read to the end is passed, and every row of it can be read. -/
theorem Reads.exists_passes {width : Nat} {rows : List Row}
    (h : Reads next (fun c => viewCells width (view c)) remaining c rows) :
    ∃ views, Passes next view remaining c views (.ok ()) ∧
      views.mapM (viewCells width) = .ok rows := by
  induction h with
  | done hnext => exact ⟨[], .done hnext, rfl⟩
  | step hnext hlt hcells _ ih =>
    obtain ⟨views, hviews, hrows⟩ := ih
    exact ⟨_, .step hnext hlt hviews, mapM_eq_ok.2 (.cons hcells (mapM_eq_ok.1 hrows))⟩

/-- What is read until it fails is passed, and every row of it can be read. -/
theorem Breaks.exists_passes {width : Nat} {e : Error}
    (h : Breaks next (fun c => viewCells width (view c)) remaining e c) :
    ∃ views rows, Passes next view remaining c views (.error e) ∧
      views.mapM (viewCells width) = .ok rows := by
  induction h with
  | fail hnext => exact ⟨[], [], .fail hnext, rfl⟩
  | step hnext hlt hcells _ ih =>
    obtain ⟨views, rows, hviews, hrows⟩ := ih
    exact ⟨_, _, .step hnext hlt hviews, mapM_eq_ok.2 (.cons hcells (mapM_eq_ok.1 hrows))⟩

/-- **Rows that are passed and can be read are read.** -/
theorem Passes.reads {width : Nat} {rows : List Row}
    (h : Passes next view remaining c views (.ok ()))
    (hrows : views.mapM (viewCells width) = .ok rows) :
    Reads next (fun c => viewCells width (view c)) remaining c rows := by
  generalize hend : Except.ok () = ending at h
  induction h generalizing rows with
  | done hnext =>
    obtain rfl := Except.ok.inj hrows
    exact .done hnext
  | fail _ => cases hend
  | step hnext hlt _ ih =>
    obtain ⟨row, rest, hrow, hrest, rfl⟩ := List.forall₂_cons_left_iff.1 (mapM_eq_ok.1 hrows)
    exact .step hnext hlt hrow (ih (mapM_eq_ok.2 hrest) hend)

end Passes

/-! ## Cursors of merges

The four kinds of merge and the layers above them are the instances that the rest is about. -/

/-- Reading a base cursor shows these rows of `width` cells. -/
abbrev BaseCursor.Yields (width : Nat) : BaseCursor → List Row → Prop :=
  Reads BaseCursor.next (fun c => (List.range width).mapM c.value) BaseCursor.remaining

/-- Reading below a window shows these rows of `width` cells. -/
abbrev FilteredCursor.Yields (width : Nat) : FilteredCursor → List Row → Prop :=
  Reads FilteredCursor.next (fun c => (List.range width).mapM c.base.value) fun c =>
    c.base.remaining

/-- Reading a base cursor fails. -/
abbrev BaseCursor.BreaksWith (width : Nat) (e : Error) : BaseCursor → Prop :=
  Breaks BaseCursor.next (fun c => (List.range width).mapM c.value) BaseCursor.remaining e

/-- Reading below a window fails. -/
abbrev FilteredCursor.BreaksWith (width : Nat) (e : Error) : FilteredCursor → Prop :=
  Breaks FilteredCursor.next (fun c => (List.range width).mapM c.base.value)
    (fun c => c.base.remaining) e

/-- Moving a merge on passes these rows. -/
abbrev BaseCursor.Passes : BaseCursor → List View → Except Error Unit → Prop :=
  ScatterGather.Passes BaseCursor.next BaseCursor.value BaseCursor.remaining

/-- Moving on below a window passes these rows. -/
abbrev FilteredCursor.Passes : FilteredCursor → List View → Except Error Unit → Prop :=
  ScatterGather.Passes FilteredCursor.next (fun c => c.base.value) fun c => c.base.remaining

/-- Without HAVING all rows are kept. -/
theorem BaseCursor.Yields.unfiltered {width : Nat} {c : BaseCursor} {rows : List Row}
    (h : c.Yields width rows) : FilteredCursor.Yields width ⟨c, none⟩ rows :=
  Reads.map (fun c => FilteredCursor.mk c none) (fun _ => rfl) (fun _ => rfl) (fun _ => rfl) h

/-- Without HAVING a cursor breaks as its base does. -/
theorem BaseCursor.BreaksWith.unfiltered {width : Nat} {e : Error} {c : BaseCursor}
    (h : c.BreaksWith width e) : FilteredCursor.BreaksWith width e ⟨c, none⟩ :=
  Breaks.map (fun c => FilteredCursor.mk c none) (fun _ => rfl) (fun _ => rfl) (fun _ => rfl) h

/-! ## HAVING

A step of a cursor under HAVING is one or more steps of the merge below.  The fuel is what remains
there, which goes down at each of them. -/

namespace FilteredCursor

variable {h : Having} {fuel : Nat} {base base' : BaseCursor} {outcome : Except Error Bool}

/-- Without a row HAVING has nothing to say. -/
theorem nextKept_of_stop (hnext : base.next = (outcome, base')) (hstop : outcome ≠ .ok true) :
    nextKept h (fuel + 1) base = (outcome, base') := by
  rw [nextKept, hnext]
  split
  · next heq => exact absurd (congrArg Prod.fst heq) hstop
  · next heq => exact heq.symm

/-- **HAVING stops at a row** unless it refuses it. -/
theorem nextKept_of_row (hnext : base.next = (.ok true, base'))
    (hkeeps : h.keeps base'.value = outcome) (hrefused : outcome ≠ .ok false) :
    nextKept h (fuel + 1) base = (outcome, base') := by
  rw [nextKept, hnext]
  dsimp only
  rw [hkeeps]
  split
  · exact absurd rfl hrefused
  · rfl

/-- **HAVING passes over a row** that it refuses. -/
theorem nextKept_of_refused (hnext : base.next = (.ok true, base'))
    (hkeeps : h.keeps base'.value = .ok false) :
    nextKept h (fuel + 1) base = nextKept h fuel base' := by
  rw [nextKept, hnext]
  dsimp only
  rw [hkeeps]

end FilteredCursor

/-! ## Windows

A window counts rows and lets them through up to a number.  Its state changes by one call at a time,
so it is enough to say what a call does while the window is open and when it is not. -/

/-- Whether a window lets another row through. -/
def isOpen : Option Window → Bool
  | none => true
  | some w => !w.dry && w.last.all fun last => w.position < last

/-- The window after another row was asked for. -/
def moved : Option Window → Option Window
  | none => none
  | some w => some (if w.last.isSome then { w with position := w.position + 1 } else w)

section Window

variable {window : Option Window} {c : FilteredCursor}

/-- While the window is open a call goes through to the rows below, and moves the window. -/
theorem next_of_isOpen (h : isOpen window = true) :
    MergedCursor.next ⟨c, window⟩ = (c.next.1, ⟨c.next.2, moved window⟩) := by
  cases window with
  | none => rfl
  | some w =>
    obtain ⟨position, last, dry⟩ := w
    obtain ⟨hdry, hlast⟩ := (Bool.and_eq_true _ _).mp h
    obtain rfl : dry = false := by simpa using hdry
    cases last with
    | none => rfl
    | some last =>
      have hlt : position < last := by simpa using hlast
      rw [MergedCursor.next]
      exact if_neg (Nat.not_le.2 hlt)

/-- A window that is not open answers that there is no row. -/
theorem next_of_not_isOpen (h : isOpen window = false) :
    ∃ m, MergedCursor.next ⟨c, window⟩ = (.ok false, m) := by
  cases window with
  | none => exact nomatch h
  | some w =>
    obtain ⟨position, last, dry⟩ := w
    cases dry with
    | true => exact ⟨_, rfl⟩
    | false =>
      cases last with
      | none => exact nomatch h
      | some last =>
        have hle : last ≤ position := by simpa [isOpen] using h
        rw [MergedCursor.next]
        exact ⟨_, if_pos hle⟩

end Window

/-! ## Rows that are read

Reading puts rows together cell by cell until it is told to stop.  Up to here nothing was said of
the number of rows; `room` says how many of them a window still lets through. -/

/-- The rows that show these cells, if the reading ends well. -/
def readOff (width : Nat) (views : List View) (ending : Except Error Unit) :
    Except Error (List Row) := do
  let rows ← views.mapM (viewCells width)
  ending
  return rows

/-- The rows that were read, or the failure that ended the reading. -/
def outcomeOf (read : List Row × Option Error) : Except Error (List Row) :=
  read.2.elim (.ok read.1) .error

/-- The number of rows that a window has room for, if there is a limit. -/
def room : Option Window → Option Nat
  | none => none
  | some w => if w.dry then some 0 else w.last.map (· - w.position)

section Reading

variable {width : Nat} {c : FilteredCursor} {views : List View} {ending : Except Error Unit}
  {window : Option Window}

/-- A window that is not open has room for none. -/
theorem room_of_not_isOpen (h : isOpen window = false) : room window = some 0 := by
  cases window with
  | none => cases h
  | some w =>
    obtain ⟨position, last, dry⟩ := w
    cases dry with
    | true => rfl
    | false =>
      cases last with
      | none => cases h
      | some last =>
        have hle : last ≤ position := by simpa [isOpen] using h
        exact congrArg some (Nat.sub_eq_zero_of_le hle)

/-- A row takes a place. -/
theorem room_of_isOpen (h : isOpen window = true) :
    room window = (room (moved window)).map (· + 1) := by
  cases window with
  | none => rfl
  | some w =>
    obtain ⟨position, last, dry⟩ := w
    obtain ⟨hdry, hlast⟩ := (Bool.and_eq_true _ _).mp h
    obtain rfl : dry = false := by simpa using hdry
    cases last with
    | none => rfl
    | some last =>
      have hlt : position < last := by simpa using hlast
      change some (last - position) = some (last - (position + 1) + 1)
      rw [show last - (position + 1) + 1 = last - position by omega]

/-- The rows that there is room for; the ending counts where there is room left. -/
def readWithin (width : Nat) (room : Option Nat) (views : List View)
    (ending : Except Error Unit) : Except Error (List Row) :=
  readOff width (room.elim views views.take)
    (if room.any (· ≤ views.length) then .ok () else ending)

/-- Without room nothing is read, and the ending does not matter. -/
theorem readWithin_zero (width : Nat) (views : List View) (ending : Except Error Unit) :
    readWithin width (some 0) views ending = .ok [] :=
  rfl

/-- Without rows the ending is what is read, if there is room. -/
theorem readWithin_nil (width : Nat) (left : Option Nat) (ending : Except Error Unit) :
    readWithin width (left.map (· + 1)) [] ending = ending.map fun _ => [] := by
  cases left <;> cases ending <;> rfl

/-- With room and a row, the row is read and then the others. -/
theorem readWithin_cons (width : Nat) (left : Option Nat) (view : View) (views : List View)
    (ending : Except Error Unit) :
    readWithin width (left.map (· + 1)) (view :: views) ending = (do
      let row ← viewCells width view
      let rows ← readWithin width left views ending
      return row :: rows) := by
  cases left with
  | none => simp [readWithin, readOff, List.mapM_cons]
  | some n => simp [readWithin, readOff, List.mapM_cons]

theorem readWithin_nil_ok (width : Nat) (left : Option Nat) :
    readWithin width left [] (.ok ()) = .ok [] := by
  cases left <;> simp [readWithin, readOff]

/-- A window without room shows nothing. -/
theorem outcomeOf_readRows_of_not_isOpen (h : isOpen window = false) (fuel : Nat) :
    outcomeOf (MergedCursor.readRows width (fuel + 1) ⟨c, window⟩) = .ok [] := by
  obtain ⟨m, hm⟩ := next_of_not_isOpen h
  rw [MergedCursor.readRows, hm]
  rfl

/-- **A row that a window has room for** is read before the others. -/
theorem outcomeOf_readRows_of_isOpen {c' : FilteredCursor} (h : isOpen window = true)
    (hnext : c.next = (.ok true, c')) (fuel : Nat) :
    outcomeOf (MergedCursor.readRows width (fuel + 1) ⟨c, window⟩) = (do
      let row ← viewCells width c'.base.value
      let rows ← outcomeOf (MergedCursor.readRows width fuel ⟨c', moved window⟩)
      return row :: rows) := by
  have hcells : MergedCursor.cells ⟨c', moved window⟩ width = viewCells width c'.base.value := rfl
  rw [MergedCursor.readRows, next_of_isOpen h, hnext]
  dsimp only
  rw [hcells]
  cases viewCells width c'.base.value with
  | error e => rfl
  | ok row =>
    dsimp only
    generalize MergedCursor.readRows width fuel ⟨c', moved window⟩ = read
    obtain ⟨rows, _ | e⟩ := read <;> rfl

/-- **Reading through a window** takes the rows that it has room for. -/
theorem FilteredCursor.Passes.outcomeOf_readRows {fuel : Nat} (h : c.Passes views ending)
    (hfuel : views.length < fuel) :
    outcomeOf (MergedCursor.readRows width fuel ⟨c, window⟩) =
      readWithin width (room window) views ending := by
  induction h generalizing fuel window with
  | done hnext | fail hnext =>
    obtain ⟨fuel, rfl⟩ := Nat.exists_eq_add_one_of_ne_zero (Nat.ne_zero_of_lt hfuel)
    cases hopen : isOpen window with
    | true =>
      rw [MergedCursor.readRows, next_of_isOpen hopen, hnext, room_of_isOpen hopen, readWithin_nil]
      rfl
    | false =>
      rw [outcomeOf_readRows_of_not_isOpen hopen, room_of_not_isOpen hopen, readWithin_zero]
  | step hnext _ _ ih =>
    obtain ⟨fuel, rfl⟩ := Nat.exists_eq_add_one_of_ne_zero (Nat.ne_zero_of_lt hfuel)
    cases hopen : isOpen window with
    | true =>
      rw [outcomeOf_readRows_of_isOpen hopen hnext, room_of_isOpen hopen, readWithin_cons,
        ih (Nat.lt_of_succ_lt_succ hfuel)]
    | false =>
      rw [outcomeOf_readRows_of_not_isOpen hopen, room_of_not_isOpen hopen, readWithin_zero]

end Reading

/-- **Rows that can all be read** are read as far as there is room. -/
theorem readWithin_eq_ok {width : Nat} {views : List View} {rows : List Row}
    (hcells : views.mapM (viewCells width) = .ok rows) (left : Option Nat) :
    readWithin width left views (.ok ()) = .ok (left.elim rows rows.take) := by
  have hread : (left.elim views views.take).mapM (viewCells width) =
      .ok (left.elim rows rows.take) := by
    cases left with
    | none => exact hcells
    | some n => exact mapM_eq_ok.2 (List.forall₂_take n (mapM_eq_ok.1 hcells))
  rw [readWithin, readOff, hread, ite_self]
  rfl

theorem outcomeOf_eq_ok {read : List Row × Option Error} {rows : List Row} :
    outcomeOf read = .ok rows ↔ read = (rows, none) := by
  obtain ⟨rows', _ | e⟩ := read <;> simp [outcomeOf]

theorem outcomeOf_eq_error {read : List Row × Option Error} {e : Error} :
    outcomeOf read = .error e ↔ ∃ rows, read = (rows, some e) := by
  obtain ⟨rows, _ | e'⟩ := read <;> simp [outcomeOf]

/-- The rows that a window shows of those that its cursor goes through. -/
def shownRows (window : Option Window) (rows : List Row) : List Row :=
  match window with
  | none => rows
  | some w =>
    if w.dry then []
    else
      match w.last with
      | none => rows
      | some last => rows.take (last - w.position)

/-- A window shows as many rows as it has room for. -/
theorem shownRows_eq (window : Option Window) (rows : List Row) :
    shownRows window rows = (room window).elim rows rows.take := by
  cases window with
  | none => rfl
  | some w =>
    obtain ⟨position, last, _ | _⟩ := w
    · cases last <;> rfl
    · rfl

/-- **Reading through a window** shows the rows in it, given fuel for all. -/
theorem FilteredCursor.Yields.readRows_eq {width fuel : Nat} {c : FilteredCursor} {rows : List Row}
    {window : Option Window} (h : c.Yields width rows) (hfuel : rows.length < fuel) :
    MergedCursor.readRows width fuel ⟨c, window⟩ = (shownRows window rows, none) := by
  obtain ⟨views, hviews, hcells⟩ := Reads.exists_passes h
  have hlength : views.length = rows.length := (mapM_eq_ok.1 hcells).length_eq
  have hread : outcomeOf (MergedCursor.readRows width fuel ⟨c, window⟩) =
      readWithin width (room window) views (.ok ()) :=
    FilteredCursor.Passes.outcomeOf_readRows hviews (hlength ▸ hfuel)
  rw [readWithin_eq_ok hcells, ← shownRows_eq] at hread
  exact outcomeOf_eq_ok.1 hread

/-- **Reading without a window fails where the reading below does.** -/
theorem FilteredCursor.BreaksWith.exists_readRows_eq {width fuel : Nat} {e : Error}
    {c : FilteredCursor} (h : c.BreaksWith width e) (hfuel : c.base.remaining < fuel) :
    ∃ rows, MergedCursor.readRows width fuel ⟨c, none⟩ = (rows, some e) := by
  obtain ⟨views, rows, hviews, hcells⟩ := Breaks.exists_passes h
  have hread : outcomeOf (MergedCursor.readRows width fuel ⟨c, none⟩) =
      readOff width views (.error e) :=
    FilteredCursor.Passes.outcomeOf_readRows hviews (Nat.lt_of_le_of_lt hviews.length_le hfuel)
  rw [readOff, hcells] at hread
  exact outcomeOf_eq_error.1 hread

namespace FilteredCursor

variable {width : Nat} {c : FilteredCursor} {rows : List Row}

/-- Skipping passes over as many rows, if there are as many. -/
theorem Yields.skip_eq {count : Nat} (h : c.Yields width rows) (hle : count ≤ rows.length) :
    ∃ c', c.skip count = .ok (true, c') ∧ c'.Yields width (rows.drop count) := by
  induction count generalizing c rows with
  | zero => exact ⟨c, rfl, h⟩
  | succ count ih =>
    cases h with
    | done _ => exact absurd hle (Nat.not_succ_le_zero count)
    | step hnext _ _ hrest =>
      obtain ⟨c', hskip, hc'⟩ := ih hrest (Nat.le_of_succ_le_succ hle)
      exact ⟨c', by rw [skip, hnext]; exact hskip, hc'⟩

/-- Skipping more rows than there are finds the end. -/
theorem Yields.skip_eq_false {count : Nat} (h : c.Yields width rows) (hlt : rows.length < count) :
    ∃ c', c.skip count = .ok (false, c') := by
  induction count generalizing c rows with
  | zero => exact absurd hlt (Nat.not_lt_zero _)
  | succ count ih =>
    cases h with
    | done hnext => exact ⟨_, by rw [skip, hnext]⟩
    | step hnext _ _ hrest =>
      obtain ⟨c', hskip⟩ := ih hrest (Nat.lt_of_succ_lt_succ hlt)
      exact ⟨c', by rw [skip, hnext]; exact hskip⟩

end FilteredCursor

/-- The part of the rows in a window: those after the first `offset`, up to the row number `last`,
which counts from the first row of all or from the first shown. -/
def windowRows (fromFirst : Bool) (offset : Nat) (last : Option Nat) (rows : List Row) : List Row :=
  match last with
  | none => rows.drop offset
  | some last => (rows.drop offset).take (if fromFirst then last - offset else last)

/-- The part of the rows that a dialect's window keeps. -/
def pageRows (paging : Dialect.Paging) (offset : Nat) (last : Option Nat) (rows : List Row) :
    List Row :=
  match paging with
  | .none => rows
  | .limit => windowRows false offset last rows
  | .rowNumber | .top => windowRows true offset last rows

section Page

variable {width : Nat} {c : FilteredCursor} {rows : List Row}

theorem FilteredCursor.Yields.readAll_eq (h : c.Yields width rows) (window : Option Window) :
    MergedCursor.readAll ⟨c, window⟩ width = (shownRows window rows, none) :=
  h.readRows_eq (Nat.lt_succ_of_le h.length_le)

/-- **A window that opens shows its part of the rows.** -/
theorem exists_openWindow_eq (h : c.Yields width rows) (offset : Nat) (last : Option Nat)
    (fromFirst : Bool) :
    ∃ m, openWindow c offset last fromFirst = .ok m ∧
      m.readAll width = (windowRows fromFirst offset last rows, none) := by
  obtain hle | hlt := Nat.lt_or_ge rows.length offset |>.symm
  · obtain ⟨c', hskip, hc'⟩ := h.skip_eq hle
    refine ⟨⟨c', some ⟨if fromFirst then offset else 0, last, false⟩⟩, ?_, ?_⟩
    · rw [openWindow, hskip]
      rfl
    · rw [hc'.readAll_eq]
      cases last <;> cases fromFirst <;> rfl
  · obtain ⟨c', hskip⟩ := h.skip_eq_false hlt
    refine ⟨⟨c', some ⟨if fromFirst then offset else 0, last, true⟩⟩, ?_, ?_⟩
    · rw [openWindow, hskip]
      rfl
    · have hnil : windowRows fromFirst offset last rows = [] := by
        rw [windowRows.eq_def, List.drop_eq_nil_of_le (Nat.le_of_lt hlt)]
        cases last <;> simp
      rw [hnil]
      rfl

/-- **What a SELECT shows through its window.** -/
theorem exists_windowed_eq {dialect : Dialect} {s : Select} {window : Pagination}
    {parameters : List Value} {offset : Nat} {last : Option Nat} (h : c.Yields width rows)
    (hwindow : s.window? = some window) (hoffset : window.offsetRows parameters = .ok offset)
    (hlast : window.rowLimit parameters = .ok last) :
    ∃ m, windowed dialect s parameters c = .ok m ∧
      m.readAll width = (pageRows dialect.paging offset last rows, none) := by
  simp only [windowed, hwindow, hoffset, hlast, bind, Except.bind]
  cases dialect.paging with
  | limit => exact exists_openWindow_eq h offset last false
  | rowNumber => exact exists_openWindow_eq h offset last true
  | top => exact exists_openWindow_eq h offset last true
  | none => exact ⟨_, rfl, h.readAll_eq none⟩

end Page

/-! ## Merges of plain rows

A chain and a merge in order hand out the rows of their results as they are. -/

/-- A row is made of its cells. -/
theorem map_cellAt_range {row : Row} {width : Nat} (h : row.length = width) :
    (List.range width).map (cellAt row) = row := by
  refine List.ext_getElem (by simp [h]) fun i hi hi' => ?_
  rw [List.getElem_map, List.getElem_range, cellAt, List.getD_eq_getElem?_getD,
    List.getElem?_eq_getElem hi']
  rfl

/-- The cells of the row that a result has read. -/
theorem PartialResult.mapM_value_eq {r : PartialResult} {row : Row} {width : Nat}
    (hcurrent : r.current = some row) (hwidth : row.length = width) :
    (List.range width).mapM r.value = .ok row := by
  have hcells : (List.range width).mapM r.value = .ok ((List.range width).map (cellAt row)) :=
    mapM_eq_ok_map fun i hi =>
      Positioned.value_eq_cellAt hcurrent (hwidth ▸ List.mem_range.1 hi)
  rw [hcells, map_cellAt_range hwidth]

/-- The row that a result without a failure has just read, with as many cells as labels. -/
theorem PartialResult.cells_eq {labels : List String} {row : Row} (h : row.length = labels.length) :
    PartialResult.cells ⟨labels, some row, [], none⟩ = .ok row :=
  mapM_value_eq rfl h

/-- A result that comes to its end, of this width. -/
structure PartialResult.IsWide (width : Nat) (r : PartialResult) : Prop where
  labels : r.labels.length = width
  failure : r.failure = none
  rows : ∀ row ∈ r.rows, row.length = width

namespace BaseCursor

variable {width : Nat}

/-- A chain shows the rows of its first result before those of the rest. -/
theorem Yields.cons {rest : List PartialResult} {restRows : List Row}
    (h : Yields width (chained rest) restRows) {r : PartialResult} (hfailure : r.failure = none)
    (hwidth : ∀ row ∈ r.rows, row.length = width) :
    Yields width (chained (r :: rest)) (r.rows ++ restRows) := by
  obtain ⟨labels, current, rows, failure⟩ := r
  obtain rfl : failure = none := hfailure
  change ∀ row ∈ rows, row.length = width at hwidth
  induction rows generalizing current with
  | nil => exact h.congr rfl (Nat.le_refl _)
  | cons row rows ih =>
    obtain ⟨hrow, hrows⟩ := List.forall_mem_cons.1 hwidth
    have hcells : (List.range width).mapM (PartialResult.value ⟨labels, some row, rows, none⟩) =
        .ok row := PartialResult.mapM_value_eq rfl hrow
    refine @Reads.step _ _ _ _ _ (chained (⟨labels, some row, rows, none⟩ :: rest)) _ _ rfl ?_
      hcells (ih (some row) hrows)
    exact Nat.lt_succ_self _

/-- **A chain shows the rows of one result after another.** -/
theorem yields_chained {results : List PartialResult} (hfailure : ∀ r ∈ results, r.failure = none)
    (hwidth : ∀ r ∈ results, ∀ row ∈ r.rows, row.length = width) :
    Yields width (chained results) (results.flatMap (·.rows)) := by
  induction results with
  | nil => exact .done rfl
  | cons r rest ih =>
    obtain ⟨hr, hfailure⟩ := List.forall_mem_cons.1 hfailure
    obtain ⟨hwr, hwidth⟩ := List.forall_mem_cons.1 hwidth
    exact (ih hfailure hwidth).cons hr hwr

/-- **A merge in order shows what its stream yields.** -/
theorem yields_ordered {s : OrderedStream} {rows : List Row} (hlive : s.IsLive)
    (h : s.Yields rows) (hwidth : ∀ row ∈ rows, row.length = width) :
    Yields width (ordered s) rows := by
  induction h with
  | done hnext => exact .done (by rw [next, hnext]; rfl)
  | @step s s' row rows hnext hrow hrest ih =>
    obtain ⟨hw, hws⟩ := List.forall_mem_cons.1 hwidth
    have hlive' := hlive.of_next hnext
    obtain ⟨p, hp, rfl⟩ := Option.map_eq_some_iff.1 hrow
    refine @Reads.step _ _ _ _ _ (ordered s') _ _ (by rw [next, hnext]; rfl) ?_ ?_
      (ih hlive' hws)
    · have hlen := ((OrderedStream.Yields.step hnext hrow hrest).perm hlive).length_eq
      have hlen' := (hrest.perm hlive').length_eq
      rw [List.length_cons] at hlen
      rw [remaining, remaining, OrderedStream.remaining_eq, OrderedStream.remaining_eq]
      omega
    · have hvalue : value (ordered s') = p.result.value := by
        funext i
        rw [value, OrderedStream.value, hp]
      rw [hvalue]
      exact PartialResult.mapM_value_eq (hlive'.current p hp).current hw

end BaseCursor

/-! ## Rows in memory

Rows in memory may be wider than what is visible; a cursor shows as many cells as it has columns. -/

/-- What a cursor of that many columns shows of a row; NULLs beyond its end. -/
def visibleCells (width : Nat) (row : Row) : Row := (List.range width).map (cellAt row)

@[simp] theorem length_visibleCells (width : Nat) (row : Row) :
    (visibleCells width row).length = width := by
  simp [visibleCells]

theorem cellAt_of_length_le {row : Row} {i : Nat} (h : row.length ≤ i) : cellAt row i = .null := by
  rw [cellAt, List.getD_eq_getElem?_getD, List.getElem?_eq_none h]
  rfl

theorem cellAt_visibleCells {width i : Nat} (h : i < width) (row : Row) :
    cellAt (visibleCells width row) i = cellAt row i := by
  rw [visibleCells, cellAt, List.getD_eq_getElem?_getD, List.getElem?_map,
    List.getElem?_range h]
  rfl

theorem mapM_shownCell (width : Nat) (row : Row) :
    (List.range width).mapM (BaseCursor.shownCell (some row)) = .ok (visibleCells width row) :=
  mapM_eq_ok_map fun _ _ => rfl

/-- A grouped stream shows its group as it is. -/
theorem BaseCursor.mapM_value_grouped {g : GroupedStream} {row : Row} (h : g.current = some row)
    (width : Nat) : (List.range width).mapM (grouped g).value = .ok (visibleCells width row) := by
  have hvalue : (grouped g).value = shownCell (some row) := funext fun i => by rw [value, h]
  rw [hvalue]
  exact mapM_shownCell width row

/-- **Rows in memory are shown in turn.** -/
theorem BaseCursor.yields_buffered (width : Nat) (rows : List Row) (current : Option Row) :
    Yields width (buffered rows current) (rows.map (visibleCells width)) := by
  induction rows generalizing current with
  | nil => exact .done rfl
  | cons row rows ih =>
    exact @Reads.step _ _ _ _ _ (buffered rows (some row)) _ _ rfl (Nat.lt_succ_self _)
      (mapM_shownCell width row) (ih (some row))

/-! ## Merged results

What was said about cursors is put together for the merge of a SELECT over whole results. -/

/-- A whole result, with these labels. -/
structure PartialResult.IsWhole (labels : List String) (r : PartialResult) : Prop where
  labels_eq : r.labels = labels
  failure : r.failure = none
  width : ∀ row ∈ r.rows, row.length = labels.length

section Merge

variable {dialect : Dialect} {schema : Schema} {s : Select} {parameters : List Value}
  {labels : List String} {results : List PartialResult}

theorem PartialResult.IsWhole.isWide {r : PartialResult} (h : r.IsWhole labels) :
    r.IsWide labels.length :=
  ⟨congrArg _ h.labels_eq, h.failure, h.width⟩

/-- The rows of whole results are as wide as their labels. -/
theorem length_of_mem_flatMap (hwhole : ∀ r ∈ results, r.IsWhole labels) :
    ∀ row ∈ results.flatMap (·.rows), row.length = labels.length := by
  intro row hrow
  obtain ⟨r, hr, hrow⟩ := List.mem_flatMap.1 hrow
  exact (hwhole r hr).width row hrow

theorem MergedResult.rows_eq (r : MergedResult) : r.rows = outcomeOf r.readAll := by
  rw [MergedResult.rows]
  obtain ⟨rows, _ | e⟩ := r.readAll <;> rfl

/-- Rows that are read to the end are the rows to come. -/
theorem MergedResult.rows_eq_ok {r : MergedResult} {rows : List Row}
    (h : r.cursor.readAll r.labels.length = (rows, none)) : r.rows = .ok rows := by
  rw [MergedResult.rows, MergedResult.readAll, h]

/-- Several results of a SELECT are merged by its cursor, under the labels that they have in common.
-/
theorem merge_select_eq (hcount : 1 < results.length) (hlabels : ∀ r ∈ results, r.labels = labels) :
    merge dialect schema (.select s) parameters results =
      (selectCursor dialect schema s (Statement.select s).tables labels parameters results).map
        fun cursor => ⟨labels, cursor⟩ := by
  obtain _ | ⟨r, rest⟩ := results
  · exact absurd hcount (Nat.not_lt_zero 1)
  · have hr : r.labels = labels := hlabels r List.mem_cons_self
    rw [merge]
    simp only [if_pos hcount, List.head?_cons, Option.map_some, Option.getD_some, hr]

/-- **A merge without a window fails with its cursor.** -/
theorem merge_rows_eq_error_of_breaks {base : BaseCursor} {e : Error} (hcount : 1 < results.length)
    (hlabels : ∀ r ∈ results, r.labels = labels) (hhaving : s.having = none)
    (hwindow : s.window? = none)
    (hbase : baseCursor s labels (caseSensitivity labels (Statement.select s).tables schema)
      results = .ok base) (hbreaks : base.BreaksWith labels.length e) :
    (merge dialect schema (.select s) parameters results).bind MergedResult.rows = .error e := by
  obtain ⟨rows, hread⟩ : ∃ rows,
      MergedCursor.readAll ⟨⟨base, none⟩, none⟩ labels.length = (rows, some e) :=
    hbreaks.unfiltered.exists_readRows_eq (Nat.lt_succ_self _)
  rw [merge_select_eq hcount hlabels, selectCursor, hbase, hhaving]
  change ((windowed dialect s parameters ⟨base, none⟩).map _).bind _ = _
  rw [windowed, hwindow]
  change MergedResult.rows _ = _
  rw [MergedResult.rows, MergedResult.readAll]
  dsimp only
  rw [hread]

/-- **A merge without a window shows all that its cursor goes through.** -/
theorem merge_rows_eq_ok {base : BaseCursor} {rows : List Row} (hcount : 1 < results.length)
    (hlabels : ∀ r ∈ results, r.labels = labels) (hhaving : s.having = none)
    (hwindow : s.window? = none)
    (hbase : baseCursor s labels (caseSensitivity labels (Statement.select s).tables schema)
      results = .ok base) (hyields : base.Yields labels.length rows) :
    (merge dialect schema (.select s) parameters results).bind MergedResult.rows = .ok rows := by
  have hread : MergedCursor.readAll ⟨⟨base, none⟩, none⟩ labels.length = (rows, none) :=
    hyields.unfiltered.readAll_eq none
  rw [merge_select_eq hcount hlabels, selectCursor, hbase, hhaving]
  change ((windowed dialect s parameters ⟨base, none⟩).map _).bind _ = _
  rw [windowed, hwindow]
  exact MergedResult.rows_eq_ok hread

end Merge

end ScatterGather
