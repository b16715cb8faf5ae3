/-!
# Proofs/Comparison — comparisons that are preorders on a part of a type

Cells compare with each other only where their types allow, and rows only where their cells do.
`PreorderOn cmp P` says that `cmp` is a total preorder among the items with `P`; it is handed on
along functions, reversals and lexicographic combination.
-/

namespace ScatterGather

variable {α β : Type}

/-- A comparison that is antisymmetric in its two sides, and transitive, among items with `P`. -/
structure PreorderOn (cmp : α → α → Ordering) (P : α → Prop) : Prop where
  swap : ∀ {a b}, P a → P b → cmp b a = (cmp a b).swap
  trans : ∀ {a b c}, P a → P b → P c → (cmp a b).isLE → (cmp b c).isLE → (cmp a c).isLE

namespace PreorderOn

variable {cmp cmp' : α → α → Ordering} {P : α → Prop} {a b c : α}

theorem lt_of_lt_of_isLE (h : PreorderOn cmp P) (ha : P a) (hb : P b) (hc : P c)
    (hab : cmp a b = .lt) (hbc : (cmp b c).isLE) : cmp a c = .lt := by
  have hle : (cmp a c).isLE := h.trans ha hb hc (by rw [hab]; rfl) hbc
  cases hac : cmp a c with
  | lt => rfl
  | gt => rw [hac] at hle; exact nomatch hle
  | eq =>
    -- otherwise `b` would be at most `c`, hence at most `a`
    have hca : (cmp c a).isLE := by rw [h.swap ha hc, hac]; rfl
    have hba := h.trans hb hc ha hbc hca
    rw [h.swap ha hb, hab] at hba
    exact nomatch hba

theorem lt_of_isLE_of_lt (h : PreorderOn cmp P) (ha : P a) (hb : P b) (hc : P c)
    (hab : (cmp a b).isLE) (hbc : cmp b c = .lt) : cmp a c = .lt := by
  have hle : (cmp a c).isLE := h.trans ha hb hc hab (by rw [hbc]; rfl)
  cases hac : cmp a c with
  | lt => rfl
  | gt => rw [hac] at hle; exact nomatch hle
  | eq =>
    have hca : (cmp c a).isLE := by rw [h.swap ha hc, hac]; rfl
    have hcb := h.trans hc ha hb hca hab
    rw [h.swap hb hc, hbc] at hcb
    exact nomatch hcb

theorem eq_trans (h : PreorderOn cmp P) (ha : P a) (hb : P b) (hc : P c) (hab : cmp a b = .eq)
    (hbc : cmp b c = .eq) : cmp a c = .eq := by
  have hle : (cmp a c).isLE := h.trans ha hb hc (by rw [hab]; rfl) (by rw [hbc]; rfl)
  have hge : (cmp c a).isLE := by
    refine h.trans hc hb ha ?_ ?_
    · rw [h.swap hb hc, hbc]; rfl
    · rw [h.swap ha hb, hab]; rfl
  rw [h.swap ha hc] at hge
  cases hac : cmp a c with
  | eq => rfl
  | lt => rw [hac] at hge; exact absurd hge (by decide)
  | gt => rw [hac] at hle; exact absurd hle (by decide)

/-- To compare by the images under a function is a preorder as well. -/
theorem comap {P' : β → Prop} (h : PreorderOn cmp P) (f : β → α) (hf : ∀ b, P' b → P (f b)) :
    PreorderOn (fun x y => cmp (f x) (f y)) P' where
  swap ha hb := h.swap (hf _ ha) (hf _ hb)
  trans ha hb hc := h.trans (hf _ ha) (hf _ hb) (hf _ hc)

/-- The comparison the other way round. -/
theorem reverse (h : PreorderOn cmp P) : PreorderOn (fun x y => (cmp x y).swap) P where
  swap ha hb := congrArg Ordering.swap (h.swap ha hb)
  trans {a b c} ha hb hc hab hbc := by
    rw [← h.swap ha hb] at hab
    rw [← h.swap hb hc] at hbc
    rw [← h.swap ha hc]
    exact h.trans hc hb ha hbc hab

/-- **One comparison after another**: the second decides where the first sees no difference. -/
theorem andThen (h : PreorderOn cmp P) (h' : PreorderOn cmp' P) :
    PreorderOn (fun x y => (cmp x y).then (cmp' x y)) P where
  swap ha hb := by rw [Ordering.swap_then, h.swap ha hb, h'.swap ha hb]
  trans {a b c} ha hb hc hab hbc := by
    cases hab' : cmp a b with
    | gt => rw [hab'] at hab; exact nomatch hab
    | lt =>
      have hle : (cmp b c).isLE := by
        cases hbc' : cmp b c <;> first | rfl | (rw [hbc'] at hbc; exact nomatch hbc)
      rw [h.lt_of_lt_of_isLE ha hb hc hab' hle]
      rfl
    | eq =>
      rw [hab'] at hab
      cases hbc' : cmp b c with
      | gt => rw [hbc'] at hbc; exact nomatch hbc
      | lt =>
        rw [h.lt_of_isLE_of_lt ha hb hc (by rw [hab']; rfl) hbc']
        rfl
      | eq =>
        rw [hbc'] at hbc
        rw [h.eq_trans ha hb hc hab' hbc']
        exact h'.trans ha hb hc hab hbc

/-- Without a difference to look for, all items tie. -/
theorem const : PreorderOn (fun _ _ : α => .eq) P where
  swap _ _ := rfl
  trans _ _ _ _ _ := rfl

end PreorderOn

end ScatterGather
