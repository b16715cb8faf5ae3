import Mathlib.Data.List.Forall2
import Mathlib.Data.List.Perm.Basic
import ScatterGather.Proofs.Comparison

/-!
# Proofs/Ties — lists in order that differ within ties

A list in order is known, up to ties, by how many of its items are at most a given one
(`atMost`): the item at a position is at most `v` exactly if the position is below that number
(`PreorderOn.isLE_getElem_iff`).  So the first items of two lists in order **tie one by one** where
those numbers agree (`PreorderOn.forall₂_take`), in particular if the items tie in any pairing
(`PreorderOn.forall₂_of_perm`).
-/

namespace ScatterGather

open scoped List

variable {α : Type}

/-- How many items are at most `v`. -/
def atMost (cmp : α → α → Ordering) (v : α) (l : List α) : Nat := l.countP fun a => (cmp a v).isLE

section Count

variable {cmp : α → α → Ordering} {a v : α} {l l' : List α}

theorem atMost_le_length (cmp : α → α → Ordering) (v : α) (l : List α) :
    atMost cmp v l ≤ l.length :=
  List.countP_le_length

theorem atMost_cons (cmp : α → α → Ordering) (v a : α) (l : List α) :
    atMost cmp v (a :: l) = atMost cmp v l + if (cmp a v).isLE then 1 else 0 := by
  rw [atMost, List.countP_cons]
  rfl

theorem atMost_perm (h : l ~ l') : atMost cmp v l = atMost cmp v l' := h.countP_eq _

end Count

namespace PreorderOn

variable {cmp : α → α → Ordering} {P : α → Prop} {a b v : α} {l l' m : List α} {n i : Nat}

theorem eq_self (h : PreorderOn cmp P) (ha : P a) : cmp a a = .eq := by
  have hswap := h.swap ha ha
  cases ho : cmp a a <;> rw [ho] at hswap <;> first | rfl | cases hswap

/-- Items that do not come after each other tie. -/
theorem eq_of_isLE (h : PreorderOn cmp P) (ha : P a) (hb : P b) (hab : (cmp a b).isLE)
    (hba : (cmp b a).isLE) : cmp a b = .eq := by
  rw [h.swap ha hb] at hba
  cases ho : cmp a b with
  | eq => rfl
  | lt => rw [ho] at hba; cases hba
  | gt => rw [ho] at hab; cases hab

/-- Where not even the first item of a list in order is at most `v`, none is. -/
theorem atMost_eq_zero (h : PreorderOn cmp P) (hl : ∀ b ∈ a :: l, P b) (hv : P v)
    (hsorted : (a :: l).Pairwise fun b c => (cmp b c).isLE) (ha : ¬ (cmp a v).isLE) :
    atMost cmp v (a :: l) = 0 := by
  obtain ⟨hPa, hPl⟩ := List.forall_mem_cons.1 hl
  rw [atMost, List.countP_eq_zero]
  refine List.forall_mem_cons.2 ⟨ha, fun b hb hbv => ha ?_⟩
  exact h.trans hPa (hPl b hb) hv ((List.pairwise_cons.1 hsorted).1 b hb) hbv

/-! ## Positions and counts

A position in a list in order is compared with a count.  This turns a statement about two lists,
item by item, into one about two numbers for each value. -/

/-- **The items at most `v` come first** in a list in order. -/
theorem isLE_getElem_iff (h : PreorderOn cmp P) (hl : ∀ a ∈ l, P a) (hv : P v)
    (hsorted : l.Pairwise fun a b => (cmp a b).isLE) (hi : i < l.length) :
    (cmp l[i] v).isLE ↔ i < atMost cmp v l := by
  induction l generalizing i with
  | nil => cases hi
  | cons a l ih =>
    have hPl := (List.forall_mem_cons.1 hl).2
    have hrest := (List.pairwise_cons.1 hsorted).2
    by_cases ha : (cmp a v).isLE
    · rw [atMost_cons, if_pos ha]
      cases i with
      | zero => exact iff_of_true ha (Nat.succ_pos _)
      | succ i => exact (ih hPl hrest (Nat.lt_of_succ_lt_succ hi)).trans Nat.succ_lt_succ_iff.symm
    · -- no later item is at most `v`, or the first one would be
      rw [h.atMost_eq_zero hl hv hsorted ha]
      refine iff_of_false (fun hle => ha ?_) (Nat.not_lt_zero i)
      cases i with
      | zero => exact hle
      | succ i =>
        have hlt : i < l.length := Nat.lt_of_succ_lt_succ hi
        have hmem : l[i] ∈ l := List.getElem_mem hlt
        exact h.trans (hl a List.mem_cons_self) (hPl _ hmem) hv
          ((List.pairwise_cons.1 hsorted).1 _ hmem) hle

/-- The last item of a list in order has all items up to it. -/
theorem atMost_getLast (h : PreorderOn cmp P) (hl : ∀ a ∈ l, P a)
    (hsorted : l.Pairwise fun a b => (cmp a b).isLE) (hne : l ≠ []) :
    atMost cmp (l.getLast hne) l = l.length := by
  rw [atMost, List.countP_eq_length]
  intro a ha
  rw [← List.dropLast_concat_getLast hne, List.mem_append, List.mem_singleton] at ha
  obtain ha | rfl := ha
  · rw [← List.dropLast_concat_getLast hne] at hsorted
    exact (List.pairwise_append.1 hsorted).2.2 a ha _ (List.mem_singleton_self _)
  · rw [h.eq_self (hl _ (List.getLast_mem hne))]
    rfl

/-- A list is no longer than another one, as far as that counts, if it has no more items up to its
last one. -/
theorem min_length_le (h : PreorderOn cmp P) (hl : ∀ a ∈ l, P a)
    (hsorted : l.Pairwise fun a b => (cmp a b).isLE)
    (hle : ∀ v ∈ l, min n (atMost cmp v l) ≤ atMost cmp v l') : min n l.length ≤ l'.length := by
  obtain rfl | hne := Decidable.em (l = [])
  · exact Nat.le_trans (Nat.min_le_right n 0) (Nat.zero_le _)
  · have hlast := hle _ (List.getLast_mem hne)
    rw [h.atMost_getLast hl hsorted hne] at hlast
    exact Nat.le_trans hlast (atMost_le_length _ _ _)

/-- The item of one list is at most that of the other at the same position, if it has no fewer items
up to it. -/
theorem isLE_getElem_of_atMost (h : PreorderOn cmp P) (hl : ∀ a ∈ l, P a) (hl' : ∀ a ∈ l', P a)
    (hsorted : l.Pairwise fun a b => (cmp a b).isLE)
    (hsorted' : l'.Pairwise fun a b => (cmp a b).isLE)
    (hle : ∀ v ∈ l', min n (atMost cmp v l') ≤ atMost cmp v l) (hn : i < n) (hi : i < l.length)
    (hi' : i < l'.length) : (cmp l[i] l'[i]).isLE := by
  have hmem : l'[i] ∈ l' := List.getElem_mem _
  rw [h.isLE_getElem_iff hl (hl' _ hmem) hsorted hi]
  have hself : i < atMost cmp l'[i] l' := by
    rw [← h.isLE_getElem_iff hl' (hl' _ hmem) hsorted' hi', h.eq_self (hl' _ hmem)]
    rfl
  exact Nat.lt_of_lt_of_le (Nat.lt_min.2 ⟨hn, hself⟩) (hle _ hmem)

/-- **The first items of two lists in order tie one by one** if each list has, up to any item, as
many items as the other, as far as the first `n` count. -/
theorem forall₂_take (h : PreorderOn cmp P) (hl : ∀ a ∈ l, P a) (hl' : ∀ a ∈ l', P a)
    (hsorted : l.Pairwise fun a b => (cmp a b).isLE)
    (hsorted' : l'.Pairwise fun a b => (cmp a b).isLE)
    (hle : ∀ v, P v → min n (atMost cmp v l) ≤ atMost cmp v l')
    (hge : ∀ v, P v → min n (atMost cmp v l') ≤ atMost cmp v l) :
    List.Forall₂ (fun a b => cmp a b = .eq) (l.take n) (l'.take n) := by
  have hlength := h.min_length_le hl hsorted fun v hv => hle v (hl v hv)
  have hlength' := h.min_length_le hl' hsorted' fun v hv => hge v (hl' v hv)
  refine List.forall₂_iff_get.2 ⟨by rw [List.length_take, List.length_take]; omega,
    fun i hi hi' => ?_⟩
  rw [List.length_take, Nat.lt_min] at hi hi'
  simp only [List.get_eq_getElem, List.getElem_take]
  refine h.eq_of_isLE (hl _ (List.getElem_mem _)) (hl' _ (List.getElem_mem _)) ?_ ?_
  · exact h.isLE_getElem_of_atMost hl hl' hsorted hsorted' (fun v hv => hge v (hl' v hv)) hi.1
      hi.2 hi'.2
  · exact h.isLE_getElem_of_atMost hl' hl hsorted' hsorted (fun v hv => hle v (hl v hv)) hi.1
      hi'.2 hi.2

/-- Items that tie come before the same items. -/
theorem isLE_congr (h : PreorderOn cmp P) (ha : P a) (hb : P b) (hv : P v) (hab : cmp a b = .eq) :
    (cmp a v).isLE = (cmp b v).isLE := by
  have hba : (cmp b a).isLE := by rw [h.swap ha hb, hab]; rfl
  rw [Bool.eq_iff_iff]
  exact ⟨h.trans hb ha hv hba, h.trans ha hb hv (by rw [hab]; rfl)⟩

theorem atMost_congr (h : PreorderOn cmp P) (hm : ∀ a ∈ m, P a) (hl : ∀ a ∈ l, P a) (hv : P v)
    (hties : List.Forall₂ (fun a b => cmp a b = .eq) m l) : atMost cmp v m = atMost cmp v l := by
  induction hties with
  | nil => rfl
  | cons hab _ ih =>
    obtain ⟨ha, hm⟩ := List.forall_mem_cons.1 hm
    obtain ⟨hb, hl⟩ := List.forall_mem_cons.1 hl
    rw [atMost_cons, atMost_cons, ih hm hl, h.isLE_congr ha hb hv hab]

/-- **Two lists in order tie one by one** if their items can be paired so that each pair ties. -/
theorem forall₂_of_perm (h : PreorderOn cmp P) (hl : ∀ a ∈ l, P a) (hl' : ∀ a ∈ l', P a)
    (hsorted : l.Pairwise fun a b => (cmp a b).isLE)
    (hsorted' : l'.Pairwise fun a b => (cmp a b).isLE) (hperm : m ~ l)
    (hties : List.Forall₂ (fun a b => cmp a b = .eq) m l') :
    List.Forall₂ (fun a b => cmp a b = .eq) l l' := by
  have hcount : ∀ v, P v → atMost cmp v l = atMost cmp v l' := fun v hv =>
    (atMost_perm hperm.symm).trans
      (h.atMost_congr (fun a ha => hl a (hperm.mem_iff.1 ha)) hl' hv hties)
  have hlength : l.length = l'.length := hperm.length_eq.symm.trans hties.length_eq
  have htake := h.forall₂_take (n := l.length) hl hl' hsorted hsorted'
    (fun v hv => Nat.le_trans (Nat.min_le_right _ _) (Nat.le_of_eq (hcount v hv)))
    fun v hv => Nat.le_trans (Nat.min_le_right _ _) (Nat.le_of_eq (hcount v hv).symm)
  rwa [List.take_length, hlength, List.take_length] at htake

end PreorderOn

end ScatterGather
