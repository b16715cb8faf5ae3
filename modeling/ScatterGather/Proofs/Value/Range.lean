import ScatterGather.Proofs.Value.Rank
import ScatterGather.ValueRange

/-!
# Proofs/Value/Range — an intersection holds what both ranges hold

A bound of an intersection is one of the two, or both at once where they tie.  Bounds that tie are
interchangeable for every value (`Value.order?_congr_right`), so **a value of both ranges is in
their intersection** (`ValueRange.contains_intersect`), doubles aside.  What lies beyond a bound
lies beyond all that come before it (`Bound.admits_of_order?`), so where the bounds compare with
each other the intersection holds **nothing else** (`ValueRange.contains_intersect_iff`).
-/

namespace ScatterGather

/-- A bound that is not a double. -/
def Bound.IsExact (b : Bound) : Prop := b.value.isReal = false

/-- A range without doubles at its ends. -/
structure ValueRange.IsExact (r : ValueRange) : Prop where
  lower : ∀ b ∈ r.lower, b.IsExact
  upper : ∀ b ∈ r.upper, b.IsExact

variable {v : Value} {side : Ordering}

theorem Bound.isExact_tighter {a b : Bound} (ha : a.IsExact) (hb : b.IsExact) :
    (a.tighter side b).IsExact := by
  rw [Bound.tighter]
  split
  · exact ha
  · split
    · exact ha
    · exact hb
  · exact hb

/-- The tighter bound admits what both admit. -/
theorem Bound.admits_tighter {a b : Bound} {prefer : Ordering} (hv : v.isReal = false)
    (hae : a.IsExact) (hbe : b.IsExact) (ha : a.admits side v = true)
    (hb : b.admits side v = true) : (a.tighter prefer b).admits side v = true := by
  rw [Bound.tighter]
  split
  · rename_i htie
    have hsame : v.order? a.value = v.order? b.value := Value.order?_congr_right hv hae hbe htie
    rw [Bound.admits] at ha hb ⊢
    rw [← hsame] at hb
    cases ho : v.order? a.value with
    | none => simp [ho] at ha
    | some o =>
      rw [ho] at ha hb
      cases o with
      | eq => exact Bool.and_eq_true _ _ |>.mpr ⟨ha, hb⟩
      | lt => exact ha
      | gt => exact ha
  · split
    · exact ha
    · exact hb
  · exact hb

/-! ## Bounds one after another

The other direction asks more of the bounds: where they do not compare, the intersection keeps one
of them and forgets the other. -/

/-- A value on the side of a bound, or on a bound that belongs to the range. -/
theorem Bound.admits_iff {b : Bound} (hside : side ≠ .eq) :
    b.admits side v = true ↔
      v.order? b.value = some side ∨ v.order? b.value = some .eq ∧ b.inclusive = true := by
  rw [Bound.admits]
  split
  · rename_i htie
    simp [htie, hside.symm]
  · rename_i o hne ho
    have hne : o ≠ .eq := hne
    simp [ho, hne]
  · rename_i hnone
    simp [hnone]

/-- **What a bound admits lies beyond a bound before it.** -/
theorem Bound.admits_of_order? {b c : Bound} (hv : v.isReal = false) (hbe : b.IsExact)
    (hce : c.IsExact) (hside : side ≠ .eq) (hbc : b.value.order? c.value = some side)
    (hb : b.admits side v = true) : c.admits side v = true := by
  rw [admits_iff hside] at hb ⊢
  obtain ho | ⟨ho, -⟩ := hb
  · exact .inl (by rw [Value.order?_trans hv hbe hce ho hbc (.inl rfl) (.inl rfl),
      Ordering.then_self])
  · exact .inl (Value.order?_trans hv hbe hce ho hbc (.inr rfl) (.inl rfl))

/-- Of two bounds that compare the tighter one is both where they tie, and else the one beyond. -/
theorem Bound.tighter_cases {a b : Bound} {o : Ordering} (h : a.value.order? b.value = some o)
    (hside : side ≠ .eq) :
    o = .eq ∧ a.tighter side b = ⟨a.value, a.inclusive && b.inclusive⟩ ∨
      o = side ∧ a.tighter side b = a ∨ o = side.swap ∧ a.tighter side b = b := by
  rw [tighter, h]
  cases o <;> cases side <;> simp at hside ⊢

/-- **What the tighter of two bounds admits both admit**, if the bounds compare. -/
theorem Bound.admits_of_admits_tighter {a b : Bound} (hv : v.isReal = false) (hae : a.IsExact)
    (hbe : b.IsExact) (hside : side ≠ .eq) (hab : (a.value.order? b.value).isSome)
    (h : (a.tighter side b).admits side v = true) :
    a.admits side v = true ∧ b.admits side v = true := by
  obtain ⟨o, ho⟩ := Option.isSome_iff_exists.1 hab
  obtain ⟨rfl, heq⟩ | ⟨rfl, heq⟩ | ⟨rfl, heq⟩ := tighter_cases ho hside
  · have hsame : v.order? a.value = v.order? b.value := Value.order?_congr_right hv hae hbe ho
    rw [heq, admits_iff hside] at h
    rw [admits_iff hside, admits_iff hside, ← hsame]
    obtain hbeyond | ⟨htie, hboth⟩ := h
    · exact ⟨.inl hbeyond, .inl hbeyond⟩
    · obtain ⟨ha, hb⟩ := (Bool.and_eq_true ..).mp hboth
      exact ⟨.inr ⟨htie, ha⟩, .inr ⟨htie, hb⟩⟩
  · rw [heq] at h
    exact ⟨h, admits_of_order? hv hae hbe hside ho h⟩
  · rw [heq] at h
    have hba : b.value.order? a.value = some side := by
      rw [Value.order?_swap hae hbe, ho]
      exact congrArg some Ordering.swap_swap
    exact ⟨admits_of_order? hv hbe hae hside hba h, h⟩

namespace ValueRange

theorem all_tighter? {p : Bound → Prop} {prefer : Ordering}
    (hp : ∀ a b, p a → p b → p (a.tighter prefer b)) {x y : Option Bound}
    (hx : ∀ b ∈ x, p b) (hy : ∀ b ∈ y, p b) : ∀ b ∈ tighter? prefer x y, p b := by
  intro b hb
  cases x with
  | none => exact hy b (by simpa [tighter?] using hb)
  | some a =>
    cases y with
    | none => exact hx b (by simpa [tighter?] using hb)
    | some c =>
      obtain rfl : a.tighter prefer c = b := by simpa [tighter?] using hb
      exact hp a c (hx a rfl) (hy c rfl)

theorem IsExact.intersect {r s : ValueRange} (hr : r.IsExact) (hs : s.IsExact) :
    (r.intersect s).IsExact where
  lower := all_tighter? (fun _ _ ha hb => Bound.isExact_tighter ha hb) hr.lower hs.lower
  upper := all_tighter? (fun _ _ ha hb => Bound.isExact_tighter ha hb) hr.upper hs.upper

theorem contains_iff {r : ValueRange} :
    r.contains v = true ↔
      (∀ b ∈ r.lower, b.admits .gt v = true) ∧ ∀ b ∈ r.upper, b.admits .lt v = true := by
  rw [contains, Bool.and_eq_true, Option.all_eq_true, Option.all_eq_true]
  rfl

/-- **A value of both ranges is in their intersection.** -/
theorem contains_intersect {r s : ValueRange} (hv : v.isReal = false) (hre : r.IsExact)
    (hse : s.IsExact) (hr : r.contains v = true) (hs : s.contains v = true) :
    (r.intersect s).contains v = true := by
  obtain ⟨hrl, hru⟩ := contains_iff.1 hr
  obtain ⟨hsl, hsu⟩ := contains_iff.1 hs
  -- exactness goes along, since a tie is only sound between exact bounds
  have both : ∀ {prefer side : Ordering} {x y : Option Bound}, (∀ b ∈ x, b.IsExact) →
      (∀ b ∈ y, b.IsExact) → (∀ b ∈ x, b.admits side v = true) →
      (∀ b ∈ y, b.admits side v = true) →
      ∀ b ∈ tighter? prefer x y, b.IsExact ∧ b.admits side v = true := fun hxe hye hx hy =>
    all_tighter? (p := fun b => b.IsExact ∧ b.admits _ v = true)
      (fun a b ha hb => ⟨Bound.isExact_tighter ha.1 hb.1,
        Bound.admits_tighter hv ha.1 hb.1 ha.2 hb.2⟩)
      (fun b hb => ⟨hxe b hb, hx b hb⟩) (fun b hb => ⟨hye b hb, hy b hb⟩)
  exact contains_iff.2 ⟨fun b hb => (both hre.lower hse.lower hrl hsl b hb).2,
    fun b hb => (both hre.upper hse.upper hru hsu b hb).2⟩

/-- Ranges whose bounds compare at each end where both have one. -/
structure Compares (r s : ValueRange) : Prop where
  lower : ∀ a ∈ r.lower, ∀ b ∈ s.lower, (a.value.order? b.value).isSome
  upper : ∀ a ∈ r.upper, ∀ b ∈ s.upper, (a.value.order? b.value).isSome

/-- What the tighter of two ends admits both admit, if they compare. -/
theorem admits_of_tighter? (hv : v.isReal = false) (hside : side ≠ .eq) {x y : Option Bound}
    (hx : ∀ b ∈ x, b.IsExact) (hy : ∀ b ∈ y, b.IsExact)
    (hxy : ∀ a ∈ x, ∀ b ∈ y, (a.value.order? b.value).isSome)
    (h : ∀ b ∈ tighter? side x y, b.admits side v = true) :
    (∀ b ∈ x, b.admits side v = true) ∧ ∀ b ∈ y, b.admits side v = true := by
  cases x with
  | none => exact ⟨by simp, by simpa [tighter?] using h⟩
  | some a =>
    cases y with
    | none => exact ⟨by simpa [tighter?] using h, by simp⟩
    | some b =>
      obtain ⟨ha, hb⟩ := Bound.admits_of_admits_tighter hv (hx a rfl) (hy b rfl) hside
        (hxy a rfl b rfl) (h _ rfl)
      exact ⟨by simpa using ha, by simpa using hb⟩

/-- **An intersection holds what both ranges hold**, and nothing else where their bounds compare. -/
theorem contains_intersect_iff {r s : ValueRange} (hv : v.isReal = false) (hre : r.IsExact)
    (hse : s.IsExact) (hcompares : r.Compares s) :
    (r.intersect s).contains v = true ↔ r.contains v = true ∧ s.contains v = true := by
  refine ⟨fun h => ?_, fun h => contains_intersect hv hre hse h.1 h.2⟩
  obtain ⟨hlower, hupper⟩ := contains_iff.1 h
  obtain ⟨hrl, hsl⟩ := admits_of_tighter? hv (by decide) hre.lower hse.lower hcompares.lower hlower
  obtain ⟨hru, hsu⟩ := admits_of_tighter? hv (by decide) hre.upper hse.upper hcompares.upper hupper
  exact ⟨contains_iff.2 ⟨hrl, hru⟩, contains_iff.2 ⟨hsl, hsu⟩⟩

end ValueRange

end ScatterGather
