import Mathlib.Order.Basic
import ScatterGather.Execution.Unit
import ScatterGather.Proofs.Outcome

/-!
# Proofs/Execution/Window — a widened statement differs in its window alone

Numbers of the window are written over bytes of the SQL text (`Overwritten`) or set among the
parameters (`Rebound`).  Patches are applied back to front, so each finds its bytes where the
statement has them, however long the numbers behind it have become (`Overwritten.foldlM_eq`).  A
scattered SELECT whose numbers stand in places of their own is therefore **rewritten there and
nowhere else** (`executionUnits_isRewritten`).
-/

namespace ScatterGather

/-! ## Numbers written over a text

Positions count the bytes of the statement as it came.  Writing the last range first keeps them
valid: what lies before a range has not changed when its turn comes. -/

/-- The rest of a text, from byte `before` on, with numbers written over ranges of its bytes, the
ranges in the order of the text. -/
inductive Overwritten : Nat → List Patch → String → String → Prop
  | rest (before : Nat) (text : String) : Overwritten before [] text text
  | patch {before : Nat} {p : Patch} {ps : List Patch} {kept cut left left' : String}
      (hstart : before + kept.utf8ByteSize = p.start)
      (hstop : p.start + cut.utf8ByteSize = p.stop) (hleft : Overwritten p.stop ps left left') :
      Overwritten before (p :: ps) (kept ++ cut ++ left) (kept ++ Text.ofNat p.number ++ left')

/-- Bytes of a text that begin and end between characters. -/
structure IsRange (text : String) (start stop : Nat) : Prop where
  lt : start < stop
  start_valid : (String.Pos.Raw.mk start).IsValid text
  stop_valid : (String.Pos.Raw.mk stop).IsValid text

instance (text : String) (start stop : Nat) : Decidable (IsRange text start stop) :=
  decidable_of_iff (start < stop ∧ (String.Pos.Raw.mk start).IsValid text ∧
    (String.Pos.Raw.mk stop).IsValid text)
    ⟨fun h => ⟨h.1, h.2.1, h.2.2⟩, fun h => ⟨h.lt, h.start_valid, h.stop_valid⟩⟩

/-- Patches that share no byte. -/
def Patch.Disjoint (p q : Patch) : Prop := p.stop ≤ q.start ∨ q.stop ≤ p.start

section Text

variable {p : Patch} {ps patches : List Patch} {text text' front : String}

/-- **Bytes are split off between two characters.** -/
theorem splitBytes?_append (before after : String) :
    splitBytes? before.utf8ByteSize (before ++ after).toList =
      some (before.toList, after.toList) := by
  obtain ⟨cs, rfl⟩ := before.exists_eq_ofList
  rw [String.toList_append, String.toList_ofList]
  induction cs with
  | nil => simp [splitBytes?]
  | cons c cs ih =>
    have hsize : (String.ofList (c :: cs)).utf8ByteSize =
        c.utf8Size + (String.ofList cs).utf8ByteSize := by
      rw [String.ofList_cons, String.utf8ByteSize_append, String.utf8ByteSize_singleton]
    obtain ⟨n, hn⟩ := Nat.exists_eq_add_one_of_ne_zero
      (Nat.ne_of_gt (Nat.add_pos_left c.utf8Size_pos (String.ofList cs).utf8ByteSize))
    have hle : c.utf8Size ≤ n + 1 := by omega
    have hrest : n + 1 - c.utf8Size = (String.ofList cs).utf8ByteSize := by omega
    rw [hsize, hn, List.cons_append, splitBytes?, if_pos hle, hrest, ih]
    rfl

/-- A patch writes its number over its bytes. -/
theorem Patch.apply_eq {kept cut left : String} (hstart : kept.utf8ByteSize = p.start)
    (hstop : p.start + cut.utf8ByteSize = p.stop) :
    p.apply (kept ++ cut ++ left).toList = .ok (kept ++ Text.ofNat p.number ++ left).toList := by
  have hle : p.start ≤ p.stop := by omega
  have hcut : p.stop - p.start = cut.utf8ByteSize := by omega
  rw [apply, if_pos hle, hcut, ← hstart, String.append_assoc, splitBytes?_append, Option.bind_some]
  dsimp only
  rw [splitBytes?_append]
  simp

/-- **Back to front, every patch finds its bytes where they were.** -/
theorem Overwritten.foldlM_eq {before : Nat} (h : Overwritten before ps text text')
    (hfront : front.utf8ByteSize = before) :
    ps.reverse.foldlM Patch.apply (front ++ text).toList = .ok (front ++ text').toList := by
  rw [List.foldlM_reverse]
  induction h generalizing front with
  | rest before text => rfl
  | @patch before p ps kept cut left left' hstart hstop _ ih =>
    have hkept : (front ++ kept).utf8ByteSize = p.start := by
      rw [String.utf8ByteSize_append, hfront, hstart]
    have hcut : (front ++ kept ++ cut).utf8ByteSize = p.stop := by
      rw [String.utf8ByteSize_append, hkept, hstop]
    have hlast := ih hcut
    rw [List.foldrM_cons, ← String.append_assoc, ← String.append_assoc, hlast]
    exact (Patch.apply_eq hkept hstop).trans (by simp only [String.append_assoc])

/-- What lies before a later place begins with what lies before an earlier one. -/
theorem exists_append_of_le {a b c d : String} (h : a ++ b = c ++ d)
    (hle : a.utf8ByteSize ≤ c.utf8ByteSize) : ∃ e, c = a ++ e ∧ b = e ++ d := by
  have hlist := congrArg String.toList h
  rw [String.toList_append, String.toList_append, List.append_eq_append_iff] at hlist
  obtain ⟨e, hc, hb⟩ | ⟨e, ha, hd⟩ := hlist
  · exact ⟨String.ofList e, by simp [← String.toList_inj, hc], by simp [← String.toList_inj, hb]⟩
  · have hsplit : a = c ++ String.ofList e := by simp [← String.toList_inj, ha]
    have hsize := congrArg String.utf8ByteSize hsplit
    rw [String.utf8ByteSize_append] at hsize
    have hempty : String.ofList e = "" := String.utf8ByteSize_eq_zero_iff.1 (by omega)
    rw [hempty, String.append_empty] at hsplit
    rw [hsplit, String.append_right_inj] at h
    exact ⟨"", by rw [hsplit, String.append_empty], by rw [h, String.empty_append]⟩

/-- A text splits before and after a range that begins behind its front. -/
theorem IsRange.exists_append {start stop : Nat} (h : IsRange (front ++ text) start stop)
    (hfront : front.utf8ByteSize ≤ start) :
    ∃ kept cut left, text = kept ++ cut ++ left ∧
      front.utf8ByteSize + kept.utf8ByteSize = start ∧ start + cut.utf8ByteSize = stop := by
  obtain ⟨before, after, hsplit, hbefore⟩ :=
    String.Pos.Raw.isValid_iff_exists_append.1 h.start_valid
  obtain ⟨before', left, hsplit', hbefore'⟩ :=
    String.Pos.Raw.isValid_iff_exists_append.1 h.stop_valid
  have hstart : before.utf8ByteSize = start := (congrArg String.Pos.Raw.byteIdx hbefore).symm
  have hstop : before'.utf8ByteSize = stop := (congrArg String.Pos.Raw.byteIdx hbefore').symm
  obtain ⟨kept, rfl, rfl⟩ := exists_append_of_le hsplit (hfront.trans_eq hstart.symm)
  have hlt := h.lt
  obtain ⟨cut, rfl, rfl⟩ := exists_append_of_le (hsplit.symm.trans hsplit') (by omega)
  rw [String.utf8ByteSize_append, hstart] at hstop
  rw [String.utf8ByteSize_append] at hstart
  exact ⟨kept, cut, left, (String.append_assoc ..).symm, hstart, hstop⟩

/-- Ranges of a text can be written over in their order. -/
theorem exists_overwritten (hrange : ∀ p ∈ ps, IsRange (front ++ text) p.start p.stop)
    (hsorted : ps.Pairwise fun p q => p.stop ≤ q.start)
    (hfront : ∀ p ∈ ps, front.utf8ByteSize ≤ p.start) :
    ∃ text', Overwritten front.utf8ByteSize ps text text' := by
  induction ps generalizing front text with
  | nil => exact ⟨text, .rest _ text⟩
  | cons p ps ih =>
    obtain ⟨hp, hrange⟩ := List.forall_mem_cons.1 hrange
    obtain ⟨hlater, hsorted⟩ := List.pairwise_cons.1 hsorted
    obtain ⟨kept, cut, left, rfl, hstart, hstop⟩ := hp.exists_append (hfront p List.mem_cons_self)
    have hsize : (front ++ kept ++ cut).utf8ByteSize = p.stop := by
      rw [String.utf8ByteSize_append, String.utf8ByteSize_append, hstart, hstop]
    rw [← String.append_assoc, ← String.append_assoc] at hrange
    obtain ⟨left', hleft⟩ := ih hrange hsorted fun q hq => hsize.trans_le (hlater q hq)
    rw [hsize] at hleft
    exact ⟨_, .patch hstart hstop hleft⟩

/-- Patches that share no byte are applied from the last to the first. -/
theorem exists_inOrder (hlt : ∀ p ∈ patches, p.start < p.stop)
    (hdisjoint : patches.Pairwise Patch.Disjoint) :
    ∃ ps : List Patch, patches.mergeSort (fun a b => decide (b.start ≤ a.start)) = ps.reverse ∧
      ps.Perm patches ∧ ps.Pairwise fun p q => p.stop ≤ q.start := by
  obtain ⟨ps, hps⟩ : ∃ ps : List Patch,
      patches.mergeSort (fun a b => decide (b.start ≤ a.start)) = ps.reverse :=
    ⟨_, (List.reverse_reverse _).symm⟩
  have hperm : ps.Perm patches :=
    (List.reverse_perm ps).symm.trans (hps ▸ List.mergeSort_perm patches _)
  have hdescending : (patches.mergeSort fun a b => decide (b.start ≤ a.start)).Pairwise
      fun a b => decide (b.start ≤ a.start) :=
    List.pairwise_mergeSort
      (fun a b c hab hbc => by simp only [decide_eq_true_iff] at *; omega)
      (fun a b => by simp only [Bool.or_eq_true, decide_eq_true_iff]; omega) patches
  rw [hps, List.pairwise_reverse] at hdescending
  refine ⟨ps, hps, hperm, ?_⟩
  refine (hdescending.and (hperm.symm.pairwise hdisjoint Or.symm)).imp_of_mem ?_
  rintro p q hp hq ⟨hle, hdisjoint⟩
  refine hdisjoint.resolve_right fun hstop => ?_
  have hlt := hlt q (hperm.mem_iff.1 hq)
  exact absurd (of_decide_eq_true hle) (by omega)

/-- **Patches that share no byte are all written**, whatever their order. -/
theorem exists_applyPatches_eq (hrange : ∀ p ∈ patches, IsRange text p.start p.stop)
    (hdisjoint : patches.Pairwise Patch.Disjoint) :
    ∃ text' ps, ps.Perm patches ∧ Overwritten 0 ps text text' ∧
      applyPatches text.toList patches = .ok text'.toList := by
  obtain ⟨ps, hps, hperm, hsorted⟩ := exists_inOrder (fun p hp => (hrange p hp).lt) hdisjoint
  have hrange' : ∀ p ∈ ps, IsRange ("" ++ text) p.start p.stop := fun p hp =>
    String.empty_append.symm ▸ hrange p (hperm.mem_iff.1 hp)
  obtain ⟨text', htext'⟩ := exists_overwritten hrange' hsorted fun p _ => Nat.zero_le _
  have happly := htext'.foldlM_eq rfl
  rw [String.empty_append, String.empty_append] at happly
  exact ⟨text', ps, hperm, htext', by rw [applyPatches, hps, happly]⟩

end Text

/-! ## Numbers of the window that change

An offset or a row count stands in the text or is a parameter, and changes accordingly: a patch, or
another value in its place.  Both kinds are collected in one pass over the changes. -/

/-- The bytes that a changed number is written over, if it is a literal. -/
def patch? (change : PageSegment × Nat) : Option Patch :=
  match change.1.number, change.1.position with
  | .literal _, some (start, stop) => some ⟨start, stop, change.2⟩
  | _, _ => none

/-- Two numbers in places of their own: different parameters, or literals that share no byte. -/
def PageSegment.Disjoint (a b : PageSegment) : Prop :=
  match a.number, b.number with
  | .literal _, .literal _ => ∀ p ∈ a.position, ∀ q ∈ b.position, p.2 ≤ q.1 ∨ q.2 ≤ p.1
  | .parameter i, .parameter j => i ≠ j
  | _, _ => True

/-- The number can be read and written over: a literal stands in the SQL text, a parameter is an
integer that is not negative. -/
def PageSegment.IsPlaced (s : PageSegment) (sql : LogicSql) : Prop :=
  match s.number with
  | .literal _ => ∃ start stop, s.position = some (start, stop) ∧ IsRange sql.sql start stop
  | .parameter i => ∃ v n, sql.parameters[i]? = some v ∧ v.int? = some n ∧ 0 ≤ n.toInt

/-- Parameters that differ where a change names them, and nowhere else. -/
structure Rebound (changes : List (PageSegment × Nat)) (parameters sent : List Value) : Prop where
  length_eq : sent.length = parameters.length
  changed : ∀ change ∈ changes, ∀ i, change.1.number = .parameter i →
    ∃ n : Int64, sent[i]? = some (.integer n) ∧ n.toInt = change.2
  others : ∀ i, (∀ change ∈ changes, change.1.number ≠ .parameter i) → sent[i]? = parameters[i]?

/-- SQL text and parameters that differ where these numbers of the window change, and nowhere
else. -/
structure IsRewritten (changes : List (PageSegment × Nat)) (sql : LogicSql) (text : String)
    (parameters : List Value) : Prop where
  text : ∃ ranges, ranges.Perm (changes.filterMap patch?) ∧ Overwritten 0 ranges sql.sql text
  parameters : Rebound changes sql.parameters parameters

section Revisions

variable {changes : List (PageSegment × Nat)} {parameters sent : List Value} {patches : List Patch}
  {offset count s t : PageSegment} {n : Nat} {sql : LogicSql}

theorem toInt_ofNat (h : n ≤ maxRowCount) : (Int64.ofNat n).toInt = n :=
  Int64.toInt_ofNat_of_lt (Nat.lt_succ_of_le h)

theorem Rebound.nil (parameters : List Value) : Rebound [] parameters parameters :=
  ⟨rfl, by simp, fun _ _ => rfl⟩

/-- A change of a literal leaves the parameters alone. -/
theorem Rebound.cons_literal {m : Nat} (hs : s.number = .literal m)
    (h : Rebound changes parameters sent) : Rebound ((s, n) :: changes) parameters sent where
  length_eq := h.length_eq
  changed := by
    refine List.forall_mem_cons.2 ⟨fun i hi => ?_, h.changed⟩
    rw [hs] at hi
    exact nomatch hi
  others i hi := h.others i fun change hchange => hi change (List.mem_cons_of_mem _ hchange)

/-- A parameter is set first and left alone by the changes after it. -/
theorem Rebound.cons_parameter {i : Nat} (hs : s.number = .parameter i)
    (hi : i < parameters.length) (hn : n ≤ maxRowCount)
    (hothers : ∀ change ∈ changes, change.1.number ≠ .parameter i)
    (h : Rebound changes (parameters.set i (.integer (Int64.ofNat n))) sent) :
    Rebound ((s, n) :: changes) parameters sent where
  length_eq := by rw [h.length_eq, List.length_set]
  changed := by
    refine List.forall_mem_cons.2 ⟨fun j hj => ?_, h.changed⟩
    obtain rfl : i = j := PageNumber.parameter.inj (hs.symm.trans hj)
    refine ⟨Int64.ofNat n, ?_, toInt_ofNat hn⟩
    rw [h.others i hothers, List.getElem?_set_self hi]
  others j hj := by
    obtain ⟨hne, hj⟩ := List.forall_mem_cons.1 hj
    rw [h.others j hj, List.getElem?_set_ne]
    rintro rfl
    exact hne hs

/-- A changed literal becomes a patch behind those that there are. -/
theorem applyRevisions_literal {m start stop : Nat} (hs : s.number = .literal m)
    (hposition : s.position = some (start, stop)) :
    applyRevisions parameters patches ((s, n) :: changes) =
      applyRevisions parameters (patches ++ [⟨start, stop, n⟩]) changes := by
  rw [applyRevisions, hs, hposition]

/-- A changed parameter is set at once. -/
theorem applyRevisions_parameter {i : Nat} (hs : s.number = .parameter i)
    (hi : i < parameters.length) :
    applyRevisions parameters patches ((s, n) :: changes) =
      applyRevisions (parameters.set i (.integer (Int64.ofNat n))) patches changes := by
  rw [applyRevisions, hs]
  exact if_pos hi

/-- A number in a place of its own is no parameter that another one is. -/
theorem PageSegment.Disjoint.ne_parameter {i : Nat} (h : s.Disjoint t)
    (hs : s.number = .parameter i) : t.number ≠ .parameter i := by
  intro ht
  rw [Disjoint, hs, ht] at h
  exact h rfl

/-- **Every change finds its place**: a parameter is set, and a literal becomes a patch. -/
theorem exists_applyRevisions_eq_ok (hplaced : ∀ change ∈ changes, change.1.IsPlaced sql)
    (hle : ∀ change ∈ changes, change.2 ≤ maxRowCount)
    (hdisjoint : changes.Pairwise fun a b => a.1.Disjoint b.1)
    (hlength : parameters.length = sql.parameters.length) :
    ∃ sent, applyRevisions parameters patches changes =
      .ok (sent, patches ++ changes.filterMap patch?) ∧ Rebound changes parameters sent := by
  induction changes generalizing parameters patches with
  | nil => exact ⟨parameters, by rw [applyRevisions]; simp, .nil parameters⟩
  | cons change changes ih =>
    obtain ⟨s, n⟩ := change
    obtain ⟨hplaced, hplacedRest⟩ := List.forall_mem_cons.1 hplaced
    obtain ⟨hn, hleRest⟩ := List.forall_mem_cons.1 hle
    obtain ⟨hapart, hdisjointRest⟩ := List.pairwise_cons.1 hdisjoint
    -- Setting a parameter keeps their number, and the other changes are at other places.
    have ih := fun parameters patches =>
      @ih parameters patches hplacedRest hleRest hdisjointRest
    cases hs : s.number with
    | literal m =>
      rw [PageSegment.IsPlaced, hs] at hplaced
      obtain ⟨start, stop, hposition, -⟩ := hplaced
      obtain ⟨sent, hsent, hrebound⟩ := ih parameters (patches ++ [⟨start, stop, n⟩]) hlength
      have hpatch : patch? (s, n) = some ⟨start, stop, n⟩ := by rw [patch?, hs, hposition]
      refine ⟨sent, ?_, hrebound.cons_literal hs⟩
      rw [applyRevisions_literal hs hposition, hsent, List.filterMap_cons_some hpatch,
        List.append_assoc, List.singleton_append]
    | parameter i =>
      rw [PageSegment.IsPlaced, hs] at hplaced
      obtain ⟨v, _, hv, -⟩ := hplaced
      have hi : i < parameters.length := hlength ▸ (List.getElem?_eq_some_iff.1 hv).1
      obtain ⟨sent, hsent, hrebound⟩ := ih (parameters.set i (.integer (Int64.ofNat n))) patches
        (List.length_set.trans hlength)
      have hpatch : patch? (s, n) = none := by rw [patch?, hs]
      refine ⟨sent, ?_, hrebound.cons_parameter hs hi hn fun change hchange =>
        (hapart change hchange).ne_parameter hs⟩
      rw [applyRevisions_parameter hs hi, hsent, List.filterMap_cons_none hpatch]

/-- A patch is written over a literal. -/
theorem literal_of_patch? {change : PageSegment × Nat} {p : Patch} (h : patch? change = some p) :
    ∃ m, change.1.number = .literal m ∧ change.1.position = some (p.start, p.stop) := by
  rw [patch?] at h
  split at h
  · next m start stop hnumber hposition =>
    obtain rfl := Option.some.inj h
    exact ⟨m, hnumber, hposition⟩
  · exact nomatch h

/-- The patches of numbers in places of their own share no byte. -/
theorem pairwise_filterMap_patch? (hdisjoint : changes.Pairwise fun a b => a.1.Disjoint b.1) :
    (changes.filterMap patch?).Pairwise Patch.Disjoint := by
  refine List.pairwise_filterMap.2 (hdisjoint.imp fun {a b} hab p hp q hq => ?_)
  obtain ⟨_, hnumber, hposition⟩ := literal_of_patch? hp
  obtain ⟨_, hnumber', hposition'⟩ := literal_of_patch? hq
  rw [PageSegment.Disjoint, hnumber, hnumber'] at hab
  exact hab _ hposition _ hposition'

/-- A literal in the SQL text is patched where it stands. -/
theorem isRange_of_patch? {change : PageSegment × Nat} {p : Patch} (h : change.1.IsPlaced sql)
    (hp : patch? change = some p) : IsRange sql.sql p.start p.stop := by
  obtain ⟨_, hnumber, hposition⟩ := literal_of_patch? hp
  rw [PageSegment.IsPlaced, hnumber] at h
  obtain ⟨start, stop, hplace, hrange⟩ := h
  obtain ⟨rfl, rfl⟩ := Prod.mk.inj (Option.some.inj (hplace.symm.trans hposition))
  exact hrange

/-- **A statement whose window changes differs there alone.** -/
theorem exists_widen_eq {paging : Dialect.Paging} {select : Select} {window : Pagination}
    (hchanges : revisions paging select window sql.parameters = .ok changes)
    (hplaced : ∀ change ∈ changes, change.1.IsPlaced sql)
    (hle : ∀ change ∈ changes, change.2 ≤ maxRowCount)
    (hdisjoint : changes.Pairwise fun a b => a.1.Disjoint b.1) :
    ∃ text parameters, widen paging select window sql = .ok (text, parameters) ∧
      IsRewritten changes sql text parameters := by
  obtain ⟨sent, hsent, hrebound⟩ : ∃ sent, applyRevisions sql.parameters [] changes =
      .ok (sent, changes.filterMap patch?) ∧ Rebound changes sql.parameters sent :=
    exists_applyRevisions_eq_ok hplaced hle hdisjoint rfl
  have hrange : ∀ p ∈ changes.filterMap patch?, IsRange sql.sql p.start p.stop := by
    intro p hp
    obtain ⟨change, hchange, hp⟩ := List.mem_filterMap.1 hp
    exact isRange_of_patch? (hplaced change hchange) hp
  obtain ⟨text, ranges, hranges, hover, happly⟩ :=
    exists_applyPatches_eq hrange (pairwise_filterMap_patch? hdisjoint)
  refine ⟨text, sent, ?_, ⟨ranges, hranges, hover⟩, hrebound⟩
  exact bind_eq_ok.2 ⟨changes, hchanges, bind_eq_ok.2 ⟨_, hsent, bind_eq_ok.2 ⟨_, happly, by
    rw [String.ofList_toList]; rfl⟩⟩⟩

/-! ## What changes

It remains to say which numbers change and to what: nothing is skipped on a node, and as many rows
are kept as the merged window may reach into. -/

/-- The numbers that change where the window skips and keeps so many rows: nothing is skipped, and
as many rows are kept as the merged window may show. -/
def windowChanges (paging : Dialect.Paging) (select : Select) (offset count : PageSegment)
    (skipped kept : Nat) : List (PageSegment × Nat) :=
  (offset, 0) ::
    if select.groupBy ≠ [] ∧ select.groupsInOrder = false then [(count, 2 ^ 63 - 1)]
    else if paging = .limit then [(count, min (skipped + kept) (2 ^ 63 - 1))]
    else []

/-- The rows that one node may have to return are those skipped and those kept. -/
theorem pushedCount_eq {window : Pagination} {skipped : Nat} {last : Option Nat}
    (hskipped : window.offsetRows parameters = .ok skipped)
    (hlast : window.rowLimit parameters = .ok last) :
    pushedCount window parameters = .ok (min (skipped + last.getD 0) maxRowCount) := by
  rw [pushedCount, hskipped, hlast]
  rfl

/-- Where both numbers can be read, the changes are those of the window. -/
theorem revisions_eq {paging : Dialect.Paging} {select : Select} {skipped kept : Nat}
    (hskipped : Pagination.offsetRows ⟨some offset, some count⟩ parameters = .ok skipped)
    (hkept : Pagination.rowLimit ⟨some offset, some count⟩ parameters = .ok (some kept)) :
    revisions paging select ⟨some offset, some count⟩ parameters =
      .ok (windowChanges paging select offset count skipped kept) := by
  have hregroups : (!select.groupBy.isEmpty && !select.groupsInOrder) = true ↔
      select.groupBy ≠ [] ∧ select.groupsInOrder = false := by
    simp
  rw [revisions, windowChanges]
  dsimp only
  rw [revisedCount, if_congr hregroups rfl rfl, pushedCount_eq hskipped hkept]
  split
  · rfl
  · split <;> rfl

/-- Only the two numbers of the window change, to row numbers. -/
theorem mem_windowChanges {paging : Dialect.Paging} {select : Select} {skipped kept : Nat}
    {change : PageSegment × Nat}
    (h : change ∈ windowChanges paging select offset count skipped kept) :
    (change.1 = offset ∨ change.1 = count) ∧ change.2 ≤ maxRowCount := by
  obtain rfl | h := List.mem_cons.1 h
  · exact ⟨.inl rfl, Nat.zero_le _⟩
  · split at h
    · obtain rfl := List.mem_singleton.1 h
      exact ⟨.inr rfl, Nat.le_refl _⟩
    · split at h
      · obtain rfl := List.mem_singleton.1 h
        exact ⟨.inr rfl, Nat.min_le_right _ _⟩
      · exact nomatch h

/-- The changes are in places of their own if the two numbers are. -/
theorem pairwise_windowChanges {paging : Dialect.Paging} {select : Select} {skipped kept : Nat}
    (hdisjoint : offset.Disjoint count) :
    (windowChanges paging select offset count skipped kept).Pairwise
      fun a b => a.1.Disjoint b.1 := by
  rw [windowChanges]
  split
  · simpa using hdisjoint
  · split <;> simp [hdisjoint]

/-- A number that can be read is read. -/
theorem PageSegment.IsPlaced.exists_resolve (h : s.IsPlaced sql) :
    ∃ n, s.resolve sql.parameters = .ok n := by
  cases hnumber : s.number with
  | literal m => exact ⟨m, by rw [resolve, hnumber]⟩
  | parameter i =>
    rw [IsPlaced, hnumber] at h
    obtain ⟨v, n, hv, hn, hpos⟩ := h
    exact ⟨n.toInt.toNat, by simp [resolve, hnumber, hv, hn, hpos]⟩

/-- A SELECT with a window is widened where the dialect pages. -/
theorem shared_eq_widen {dialect : Dialect} {s : Select} (hpaging : dialect.paging ≠ .none)
    (hselect : sql.statement = .select s)
    (hwindow : s.pagination = some ⟨some offset, some count⟩) :
    shared dialect sql = widen dialect.paging s ⟨some offset, some count⟩ sql := by
  have hpresent : s.window? = some ⟨some offset, some count⟩ := by
    rw [Select.window?, hwindow]
    rfl
  rw [shared, hselect]
  dsimp only
  rw [hpresent]
  exact if_neg hpaging

/-- Units of several data sources share SQL text and parameters, but for the tables. -/
theorem executionUnits_eq_of_shared {dialect : Dialect} {route : Route} {text : String}
    (hroute : 1 < route.units.length) (hshared : shared dialect sql = .ok (text, parameters)) :
    executionUnits dialect sql route = .ok (route.units.map fun u =>
      ⟨u.dataSource.actual, renameTables u text, parameters⟩) := by
  have hunits : route.units.isEmpty = false :=
    List.isEmpty_eq_false_iff.2 (List.ne_nil_of_length_pos (Nat.zero_lt_of_lt hroute))
  rw [executionUnits, hunits, if_pos hroute, hshared]
  rfl

end Revisions

/-- **Only the window of a scattered SELECT is rewritten.** -/
theorem executionUnits_isRewritten {dialect : Dialect} {s : Select} {sql : LogicSql} {route : Route}
    {offset count : PageSegment} (hpaging : dialect.paging ≠ .none)
    (hselect : sql.statement = .select s) (hwindow : s.pagination = some ⟨some offset, some count⟩)
    (hroute : 1 < route.units.length) (hoffset : offset.IsPlaced sql) (hcount : count.IsPlaced sql)
    (hdisjoint : offset.Disjoint count) :
    ∃ skipped kept text parameters,
      Pagination.offsetRows ⟨some offset, some count⟩ sql.parameters = .ok skipped ∧
      Pagination.rowLimit ⟨some offset, some count⟩ sql.parameters = .ok (some kept) ∧
      executionUnits dialect sql route = .ok (route.units.map fun u =>
        ⟨u.dataSource.actual, renameTables u text, parameters⟩) ∧
      IsRewritten (windowChanges dialect.paging s offset count skipped kept) sql text
        parameters := by
  obtain ⟨n, hn⟩ := hoffset.exists_resolve
  obtain ⟨m, hm⟩ := hcount.exists_resolve
  obtain ⟨skipped, hskipped⟩ : ∃ skipped,
      Pagination.offsetRows ⟨some offset, some count⟩ sql.parameters = .ok skipped :=
    ⟨_, bind_eq_ok.2 ⟨n, hn, rfl⟩⟩
  obtain ⟨kept, hkept⟩ : ∃ kept,
      Pagination.rowLimit ⟨some offset, some count⟩ sql.parameters = .ok (some kept) :=
    ⟨_, bind_eq_ok.2 ⟨m, hm, rfl⟩⟩
  have hplaced : ∀ change ∈ windowChanges dialect.paging s offset count skipped kept,
      change.1.IsPlaced sql := by
    intro change hchange
    obtain ⟨heq | heq, -⟩ := mem_windowChanges hchange
    · rwa [heq]
    · rwa [heq]
  obtain ⟨text, parameters, hwiden, hrewritten⟩ := exists_widen_eq (revisions_eq hskipped hkept)
    hplaced (fun change hchange => (mem_windowChanges hchange).2) (pairwise_windowChanges hdisjoint)
  have hshared := (shared_eq_widen hpaging hselect hwindow).trans hwiden
  exact ⟨skipped, kept, text, parameters, hskipped, hkept,
    executionUnits_eq_of_shared hroute hshared, hrewritten⟩

/-- Fifteen rows to skip, from byte 50 on. -/
def offsetFifteen : PageSegment := ⟨.literal 15, .exact, some (50, 52)⟩

/-- Eight rows to keep, at byte 41. -/
def countEight : PageSegment := ⟨.literal 8, .exact, some (41, 42)⟩

/-- Eight orders after the first fifteen: the row count stands before the offset. -/
def ordersAfterFifteen : LogicSql where
  statement := .select
    { tables := ["t_order"], list := ⟨[], false⟩, condition := none, groupBy := []
      orderBy := [⟨.label "id", .asc, .low, none⟩], having := none
      pagination := some ⟨some offsetFifteen, some countEight⟩, lock := false, subquery := false }
  sql := "SELECT id FROM t_order ORDER BY id LIMIT 8 OFFSET 15"
  parameters := []

/-- Orders on two data sources. -/
def ordersOnTwo : Route where
  units := ["ds_0", "ds_1"].map fun ds => .on ds [⟨"t_order", "t_order_0"⟩]
  conditionNodes := []
  keys := none
  federated := false

/-- The first twenty-three rows are asked for on both. -/
theorem executionUnits_isRewritten_ordersAfterFifteen :
    offsetFifteen.IsPlaced ordersAfterFifteen ∧ countEight.IsPlaced ordersAfterFifteen ∧
      offsetFifteen.Disjoint countEight ∧ 1 < ordersOnTwo.units.length ∧ ∃ text parameters,
      executionUnits .mySQL ordersAfterFifteen ordersOnTwo = .ok (ordersOnTwo.units.map fun u =>
        ⟨u.dataSource.actual, renameTables u text, parameters⟩) ∧
      IsRewritten [(offsetFifteen, 0), (countEight, 23)] ordersAfterFifteen text parameters := by
  have hoffset : offsetFifteen.IsPlaced ordersAfterFifteen := ⟨50, 52, rfl, by decide +kernel⟩
  have hcount : countEight.IsPlaced ordersAfterFifteen := ⟨41, 42, rfl, by decide +kernel⟩
  have hdisjoint : offsetFifteen.Disjoint countEight := by
    rintro _ ⟨⟩ _ ⟨⟩
    decide
  have hpaging : Dialect.mySQL.paging ≠ .none := by decide
  have hroute : 1 < ordersOnTwo.units.length := by decide
  obtain ⟨_, _, text, parameters, ⟨⟩, ⟨⟩, hunits, hrewritten⟩ :=
    executionUnits_isRewritten hpaging rfl rfl hroute hoffset hcount hdisjoint
  exact ⟨hoffset, hcount, hdisjoint, hroute, text, parameters, hunits, hrewritten⟩

example : (executionUnits .mySQL ordersAfterFifteen ordersOnTwo).toOption.map (·.map (·.sql)) =
    some ["SELECT id FROM t_order_0 ORDER BY id LIMIT 23 OFFSET 0",
      "SELECT id FROM t_order_0 ORDER BY id LIMIT 23 OFFSET 0"] := by
  cbv

end ScatterGather
