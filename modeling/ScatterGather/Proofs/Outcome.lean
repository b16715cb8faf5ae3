import Mathlib.Data.List.Forall2
import Mathlib.Data.List.Induction
import Mathlib.Data.List.Perm.Basic

/-!
# Proofs/Outcome — when a computation that may fail succeeds

A chain of steps succeeds exactly when every step does; so a list of steps yields, item by item,
what the steps yield (`mapM_eq_ok`).  What each step of a run keeps holds all along the run
(`forall_front_foldl`).
-/

namespace ScatterGather

variable {ε α β : Type}

/-- **A chain of two steps succeeds when both do.** -/
@[simp] theorem bind_eq_ok {x : Except ε α} {f : α → Except ε β} {b : β} :
    x >>= f = .ok b ↔ ∃ a, x = .ok a ∧ f a = .ok b := by
  cases x <;> simp [bind, Except.bind]

@[simp] theorem map_eq_ok {x : Except ε α} {f : α → β} {b : β} :
    x.map f = .ok b ↔ ∃ a, x = .ok a ∧ f a = b := by
  cases x <;> simp [Except.map]

theorem map_eq_error {x : Except ε α} {f : α → β} {e : ε} :
    x.map f = .error e ↔ x = .error e := by
  cases x <;> simp [Except.map]

/-- **Steps over a list yield item by item.** -/
theorem mapM_eq_ok {f : α → Except ε β} {l : List α} {ys : List β} :
    l.mapM f = .ok ys ↔ List.Forall₂ (fun a b => f a = .ok b) l ys := by
  induction l generalizing ys with
  | nil => cases ys <;> simp [pure, Except.pure]
  | cons a l ih =>
    rw [List.mapM_cons, List.forall₂_cons_left_iff]
    simp only [bind_eq_ok, pure, Except.pure, Except.ok.injEq, ih]
    constructor
    · rintro ⟨b, hb, bs, hbs, rfl⟩
      exact ⟨b, bs, hb, hbs, rfl⟩
    · rintro ⟨b, bs, hb, hbs, rfl⟩
      exact ⟨b, hb, bs, hbs, rfl⟩

theorem mapM_singleton_eq_ok {f : α → Except ε β} {a : α} {ys : List β} :
    [a].mapM f = .ok ys ↔ ∃ b, f a = .ok b ∧ ys = [b] := by
  rw [mapM_eq_ok, List.forall₂_cons_left_iff]
  simp

theorem exists_mem_of_forall₂ {R : α → β → Prop} {l : List α} {ys : List β} {a : α}
    (h : List.Forall₂ R l ys) (ha : a ∈ l) : ∃ b ∈ ys, R a b := by
  induction h with
  | nil => simp at ha
  | cons hab _ ih =>
    obtain rfl | ha := List.mem_cons.1 ha
    · exact ⟨_, List.mem_cons_self, hab⟩
    · obtain ⟨b, hb, hR⟩ := ih ha
      exact ⟨b, List.mem_cons_of_mem _ hb, hR⟩

/-- What a step yields is among what the steps over the list yield. -/
theorem mem_of_mapM_eq_ok {f : α → Except ε β} {l : List α} {ys : List β} {a : α}
    (h : l.mapM f = .ok ys) (ha : a ∈ l) : ∃ b ∈ ys, f a = .ok b :=
  exists_mem_of_forall₂ (mapM_eq_ok.1 h) ha

/-- What the steps over a list yield comes from items of it. -/
theorem exists_of_mem_mapM {f : α → Except ε β} {l : List α} {ys : List β} {b : β}
    (h : l.mapM f = .ok ys) (hb : b ∈ ys) : ∃ a ∈ l, f a = .ok b :=
  exists_mem_of_forall₂ ((mapM_eq_ok.1 h).flip) hb

/-- **Steps hand a relation on** to what they yield. -/
theorem forall₂_of_mapM_eq_ok {γ : Type} {R : γ → α → Prop} {S : γ → β → Prop}
    {f : α → Except ε β} {rows : List γ} {l : List α} {ys : List β}
    (hstep : ∀ row a b, R row a → f a = .ok b → S row b) (h : List.Forall₂ R rows l)
    (hys : l.mapM f = .ok ys) : List.Forall₂ S rows ys := by
  have hall := mapM_eq_ok.1 hys
  clear hys
  induction h generalizing ys with
  | nil =>
    cases hall
    exact .nil
  | cons hr _ ih =>
    obtain ⟨b, rest, hb, hrest, rfl⟩ := List.forall₂_cons_left_iff.1 hall
    exact .cons (hstep _ _ _ hr hb) (ih hrest)

/-- What two ways of taking a list item by item have in common. -/
theorem forall₂_of_common {γ : Type} {R : β → γ → Prop} {S : α → β → Prop} {T : α → γ → Prop}
    {l : List α} {ys : List β} {zs : List γ} (hs : List.Forall₂ S l ys) (ht : List.Forall₂ T l zs)
    (h : ∀ a ∈ l, ∀ y z, S a y → T a z → R y z) : List.Forall₂ R ys zs := by
  induction hs generalizing zs with
  | nil =>
    cases ht
    exact .nil
  | cons hay _ ih =>
    obtain ⟨z, rest, haz, hrest, rfl⟩ := List.forall₂_cons_left_iff.1 ht
    obtain ⟨ha, hl⟩ := List.forall_mem_cons.1 h
    exact .cons (ha _ _ hay haz) (ih hrest hl)

theorem exists_forall₂ {R : α → β → Prop} {l : List α} (h : ∀ a ∈ l, ∃ b, R a b) :
    ∃ ys, List.Forall₂ R l ys := by
  induction l with
  | nil => exact ⟨[], .nil⟩
  | cons a l ih =>
    obtain ⟨⟨b, hb⟩, hl⟩ := List.forall_mem_cons.1 h
    obtain ⟨ys, hys⟩ := ih hl
    exact ⟨b :: ys, .cons hb hys⟩

/-- Steps that can each succeed succeed together. -/
theorem exists_mapM_eq_ok {f : α → Except ε β} {l : List α} (h : ∀ a ∈ l, ∃ b, f a = .ok b) :
    ∃ ys, l.mapM f = .ok ys :=
  (exists_forall₂ h).imp fun _ => mapM_eq_ok.2

/-- A step that fails makes the steps over the list fail. -/
theorem exists_mapM_eq_error {f : α → Except ε β} {l : List α} {a : α} {e : ε} (ha : a ∈ l)
    (h : f a = .error e) : ∃ e', l.mapM f = .error e' := by
  cases hall : l.mapM f with
  | error e' => exact ⟨e', rfl⟩
  | ok ys =>
    obtain ⟨b, -, hb⟩ := mem_of_mapM_eq_ok hall ha
    cases h.symm.trans hb

/-- Steps that are taken alike yield alike. -/
theorem mapM_congr_left {f g : α → Except ε β} {l : List α} (h : ∀ a ∈ l, f a = g a) :
    l.mapM f = l.mapM g := by
  induction l with
  | nil => rfl
  | cons a l ih =>
    obtain ⟨ha, hl⟩ := List.forall_mem_cons.1 h
    rw [List.mapM_cons, List.mapM_cons, ha, ih hl]

theorem forM_congr_left {f g : α → Except ε Unit} {l : List α} (h : ∀ a ∈ l, f a = g a) :
    l.forM f = l.forM g := by
  induction l with
  | nil => rfl
  | cons a l ih =>
    obtain ⟨ha, hl⟩ := List.forall_mem_cons.1 h
    rw [List.forM, List.forM, ha, ih hl]

/-! Errors aside, a computation is the option of what it yields. -/

theorem toOption_bind (x : Except ε α) (f : α → Except ε β) :
    (x >>= f).toOption = x.toOption.bind fun a => (f a).toOption := by
  cases x <;> rfl

theorem toOption_map (x : Except ε α) (f : α → β) : (x.map f).toOption = x.toOption.map f := by
  cases x <;> rfl

/-- Steps that yield alike, whatever their errors, yield alike over a list. -/
theorem toOption_mapM_congr {f g : α → Except ε β} {l : List α}
    (h : ∀ a ∈ l, (f a).toOption = (g a).toOption) :
    (l.mapM f).toOption = (l.mapM g).toOption := by
  induction l with
  | nil => rfl
  | cons a l ih =>
    obtain ⟨ha, hl⟩ := List.forall_mem_cons.1 h
    simp only [List.mapM_cons, toOption_bind, ha, ih hl]

/-! With a report for each error, a computation is what it yields or what it reports. -/

/-- Computations that yield and report alike both fail, or yield the same. -/
theorem cases_of_mapError_eq {ε' : Type} {report : ε → ε'} {x y : Except ε α}
    (h : x.mapError report = y.mapError report) :
    (∃ e e', x = .error e ∧ y = .error e' ∧ report e = report e') ∨ ∃ a, x = .ok a ∧ y = .ok a := by
  cases x with
  | error e =>
    cases y with
    | error e' => exact .inl ⟨e, e', rfl, rfl, Except.error.inj h⟩
    | ok b => cases h
  | ok a =>
    cases y with
    | error e' => cases h
    | ok b => exact .inr ⟨a, rfl, congrArg Except.ok (Except.ok.inj h).symm⟩

/-- Chains whose steps yield and report alike do so as well. -/
theorem mapError_bind_congr {ε' : Type} {report : ε → ε'} {x y : Except ε α} {f g : α → Except ε β}
    (h : x.mapError report = y.mapError report)
    (hf : ∀ a, (f a).mapError report = (g a).mapError report) :
    (x >>= f).mapError report = (y >>= g).mapError report := by
  obtain ⟨e, e', rfl, rfl, he⟩ | ⟨a, rfl, rfl⟩ := cases_of_mapError_eq h
  · exact congrArg Except.error he
  · exact hf a

/-- Steps that yield and report alike do so over a list. -/
theorem mapError_mapM_congr {ε' : Type} {report : ε → ε'} {f g : α → Except ε β} {l : List α}
    (h : ∀ a ∈ l, (f a).mapError report = (g a).mapError report) :
    (l.mapM f).mapError report = (l.mapM g).mapError report := by
  induction l with
  | nil => rfl
  | cons a l ih =>
    obtain ⟨ha, hl⟩ := List.forall_mem_cons.1 h
    rw [List.mapM_cons, List.mapM_cons]
    exact mapError_bind_congr ha fun b => mapError_bind_congr (ih hl) fun bs => rfl

/-- **Steps in another order** yield the same in another order, or fail too. -/
theorem mapM_cases_of_perm (f : α → Except ε β) {l l' : List α} (h : l.Perm l') :
    (∃ ys ys', l.mapM f = .ok ys ∧ l'.mapM f = .ok ys' ∧ ys.Perm ys') ∨
    ∃ e e', l.mapM f = .error e ∧ l'.mapM f = .error e' := by
  cases hl : l.mapM f with
  | ok ys =>
    obtain ⟨ys', hall, hperm⟩ := List.perm_comp_forall₂ h.symm (mapM_eq_ok.1 hl)
    exact .inl ⟨ys, ys', rfl, mapM_eq_ok.2 hall, hperm.symm⟩
  | error e =>
    cases hl' : l'.mapM f with
    | error e' => exact .inr ⟨e, e', rfl, rfl⟩
    | ok ys' =>
      obtain ⟨ys, hys⟩ := exists_mapM_eq_ok fun a ha =>
        (mem_of_mapM_eq_ok hl' (h.mem_iff.1 ha)).imp fun _ hb => hb.2
      cases hl.symm.trans hys

/-- Steps that all succeed succeed together. -/
theorem mapM_eq_ok_map {f : α → Except ε β} {g : α → β} {l : List α}
    (h : ∀ a ∈ l, f a = .ok (g a)) : l.mapM f = .ok (l.map g) :=
  mapM_eq_ok.2 (List.forall₂_map_right_iff.2 (List.forall₂_same.2 h))

/-- What the steps over a list yield, where each may yield nothing. -/
theorem filterMap_eq_of_mapM {f : α → Option β} {l : List α} {ys : List β}
    (h : l.mapM f = some ys) : l.filterMap f = ys := by
  induction l generalizing ys with
  | nil => exact Option.some.inj h
  | cons a l ih =>
    rw [List.mapM_cons] at h
    obtain ⟨y, hy, hrest⟩ := Option.bind_eq_some_iff.1 h
    obtain ⟨rest, hl, hys⟩ := Option.bind_eq_some_iff.1 hrest
    obtain rfl := Option.some.inj hys
    rw [List.filterMap_cons_some hy, ih hl]

/-- **What every step keeps holds after each front of a list of steps.** -/
theorem forall_front_foldl {P : List α → β → Prop} {step : β → α → β} {start : β} {items : List α}
    (hstart : P [] start)
    (hstep : ∀ before a held, before ++ [a] <+: items → P before held →
      P (before ++ [a]) (step held a)) :
    ∀ front, front <+: items → P front (front.foldl step start) := by
  intro front
  induction front using List.reverseRecOn with
  | nil => exact fun _ => hstart
  | append_singleton before a ih =>
    intro hfront
    rw [List.foldl_concat]
    exact hstep before a _ hfront (ih ((List.prefix_append _ _).trans hfront))

/-! ## How a computation may end

A computation **ends within** a set of failures and a set of values if it fails only in ways of the
one and yields only what is in the other.  That composes along a chain of steps, so it is shown of
each step by itself. -/

/-- Failing only in the ways of `E`, and yielding only what `P` holds of. -/
def EndsWithin (E : ε → Prop) (P : α → Prop) : Except ε α → Prop
  | .ok a => P a
  | .error e => E e

section EndsWithin

variable {E E' : ε → Prop} {P P' : α → Prop} {Q : β → Prop} {x : Except ε α}

theorem EndsWithin.of_eq_ok {a : α} (h : EndsWithin E P x) (hx : x = .ok a) : P a := by
  subst hx
  exact h

theorem EndsWithin.of_eq_error {e : ε} (h : EndsWithin E P x) (hx : x = .error e) : E e := by
  subst hx
  exact h

theorem EndsWithin.mono (h : EndsWithin E P x) (hE : ∀ e, E e → E' e) (hP : ∀ a, P a → P' a) :
    EndsWithin E' P' x := by
  cases x with
  | ok a => exact hP a h
  | error e => exact hE e h

/-- **A chain ends within** what its second step does, given what the first may yield. -/
theorem EndsWithin.bind {f : α → Except ε β} (h : EndsWithin E P x)
    (hf : ∀ a, P a → EndsWithin E Q (f a)) : EndsWithin E Q (x >>= f) := by
  cases x with
  | ok a => exact hf a h
  | error e => exact h

theorem EndsWithin.map {f : α → β} (h : EndsWithin E P x) (hf : ∀ a, P a → Q (f a)) :
    EndsWithin E Q (x.map f) := by
  cases x with
  | ok a => exact hf a h
  | error e => exact h

/-- **Steps over a list end within** what each of them does. -/
theorem EndsWithin.mapM {R : α → β → Prop} {f : α → Except ε β} {l : List α}
    (h : ∀ a ∈ l, EndsWithin E (R a) (f a)) : EndsWithin E (List.Forall₂ R l) (l.mapM f) := by
  induction l with
  | nil => exact .nil
  | cons a l ih =>
    obtain ⟨ha, hl⟩ := List.forall_mem_cons.1 h
    rw [List.mapM_cons]
    exact ha.bind fun b hb => (ih hl).bind fun bs hbs => List.Forall₂.cons hb hbs

end EndsWithin

end ScatterGather
