import ScatterGather.Sharding.Derivation

/-!
# Proofs/Sharding/Timed — computations that read a clock

Derivation reads the clock only where an operand is the present instant, and `run_resolveOperand`
says all that resolving an operand does: the value it yields and the clock it leaves.  What a whole
computation does is a **contract on a class of clocks** that readings do not leave (`EnsuresOn`),
and contracts chain as the steps do.  A clock that stands still (`Ensures`) and one that may show
anything (`Always`) are two such classes.
-/

namespace ScatterGather

/-! ## Operands

Of all operands only the present instant asks the clock.  A literal and a parameter have their
values at every instant. -/

/-- The value of an operand at an instant; nothing where only the database knows it. -/
def Expression.valueAt (now : Moment) (parameters : List Value) : Expression → Option Value
  | literal v => some v
  | parameter index => parameters[index]?
  | .now => some (.timestamp now)
  | complex _ => none

/-- Whether the operand has a value before the database sees it. -/
def Expression.isKnown : Expression → Bool
  | .literal _ | .parameter _ | .now => true
  | .complex _ => false

/-- The clock after an operand is asked for its value: only the present instant takes a reading. -/
def Expression.after (clock : Clock) : Expression → Clock
  | .now => clock.now.2
  | .literal _ | .parameter _ | .complex _ => clock

/-- What only the database knows leaves the clock. -/
theorem Expression.after_of_isKnown_eq_false {operand : Expression} (h : operand.isKnown = false)
    (clock : Clock) : operand.after clock = clock := by
  cases operand <;> first | rfl | cases h

namespace Sharding

/-! ## Runs

A run that succeeds is taken apart step by step, with the clock between the steps. -/

section Run

variable {α β : Type} {clock clock' : Clock}

/-- A chain runs its second step on the clock that the first one leaves. -/
theorem run_bind (x : Timed α) (f : α → Timed β) (clock : Clock) :
    (x >>= f).run clock = match x.run clock with
      | (.ok a, c) => (f a).run c
      | (.error e, c) => (.error e, c) := by
  unfold ExceptT.run
  simp only [bind, ExceptT.bind, ExceptT.mk, StateT.bind, ExceptT.bindCont]
  cases x clock with
  | mk result c => cases result <;> rfl

/-- **A chain of two steps succeeds when both do**, the second on the clock that the first
leaves. -/
theorem run_bind_eq_ok {x : Timed α} {f : α → Timed β} {b : β} :
    (x >>= f).run clock = (.ok b, clock') ↔
      ∃ a c, x.run clock = (.ok a, c) ∧ (f a).run c = (.ok b, clock') := by
  rw [run_bind]
  constructor
  · intro h
    split at h
    · rename_i a c hx
      exact ⟨a, c, hx, h⟩
    · cases h
  · rintro ⟨a, c, hx, hf⟩
    rw [hx]
    exact hf

/-- A value takes no reading. -/
theorem run_pure_eq_ok {a b : α} :
    (pure a : Timed α).run clock = (.ok b, clock') ↔ a = b ∧ clock = clock' := by
  change (Except.ok a, clock) = (Except.ok b, clock') ↔ _
  rw [Prod.mk.injEq, Except.ok.injEq]

/-- A step that does not read the clock leaves it. -/
theorem run_lift_eq_ok {x : Except Error α} {b : α} :
    (x : Timed α).run clock = (.ok b, clock') ↔ x = .ok b ∧ clock = clock' := by
  change (x, clock) = (Except.ok b, clock') ↔ _
  rw [Prod.mk.injEq]

/-- What a computation is mapped to when it succeeds. -/
theorem run_map_eq_ok {x : Timed α} {f : α → β} {b : β} :
    ((f <$> x).run clock).1 = .ok b ↔ ∃ a, (x.run clock).1 = .ok a ∧ f a = b := by
  rw [map_eq_pure_bind, run_bind]
  obtain ⟨result, c⟩ := x.run clock
  cases result with
  | error e => exact ⟨nofun, fun ⟨a, ha, _⟩ => nomatch ha⟩
  | ok a =>
    refine ⟨fun h => ⟨a, rfl, Except.ok.inj h⟩, ?_⟩
    rintro ⟨_, ⟨⟩, rfl⟩
    rfl

end Run

/-! ## Contracts

A class of clocks is given by a property that reading the clock does not lose.  Standing at one
instant is one, and having any readings at all is another. -/

/-- Started on a clock of the class, the computation leaves one of the class, and yields only what
has the property. -/
def EnsuresOn {α : Type} (C : Clock → Prop) (x : Timed α) (post : α → Prop) : Prop :=
  ∀ clock a clock', C clock → x.run clock = (.ok a, clock') → C clock' ∧ post a

section Contracts

variable {α β : Type} {C : Clock → Prop} {now : Moment}

theorem ensuresOn_pure {a : α} {post : α → Prop} (h : post a) : EnsuresOn C (pure a) post := by
  intro clock b clock' hC hb
  obtain ⟨rfl, rfl⟩ := run_pure_eq_ok.1 hb
  exact ⟨hC, h⟩

/-- **Contracts chain** as computations do. -/
theorem EnsuresOn.bind {x : Timed α} {f : α → Timed β} {post : α → Prop} {post' : β → Prop}
    (hx : EnsuresOn C x post) (hf : ∀ a, post a → EnsuresOn C (f a) post') :
    EnsuresOn C (x >>= f) post' := by
  intro clock b clock' hC hb
  obtain ⟨a, c, ha, hb⟩ := run_bind_eq_ok.1 hb
  obtain ⟨hC, hpost⟩ := hx clock a c hC ha
  exact hf a hpost c b clock' hC hb

theorem EnsuresOn.mono {x : Timed α} {post post' : α → Prop} (hx : EnsuresOn C x post)
    (h : ∀ a, post a → post' a) : EnsuresOn C x post' := by
  intro clock a clock' hC ha
  exact (hx clock a clock' hC ha).imp_right (h a)

/-- On a clock that always shows `now`, the computation leaves the clock, and yields only what
has the property. -/
def Ensures {α : Type} (now : Moment) (x : Timed α) (post : α → Prop) : Prop :=
  ∀ a c, x.run (Clock.fixed now) = (.ok a, c) → c = Clock.fixed now ∧ post a

/-- Whatever the clock shows, the computation yields only what has the property. -/
def Always {α : Type} (x : Timed α) (post : α → Prop) : Prop :=
  ∀ clock a clock', x.run clock = (.ok a, clock') → post a

/-- A contract at one instant is one on the clocks that always show it. -/
theorem ensures_iff {x : Timed α} {post : α → Prop} :
    Ensures now x post ↔ EnsuresOn (· = Clock.fixed now) x post := by
  refine ⟨?_, fun h a c hrun => h _ a c rfl hrun⟩
  rintro h _ a c rfl hrun
  exact h a c hrun

/-- A contract under any readings is one on the class of all clocks. -/
theorem always_iff {x : Timed α} {post : α → Prop} :
    Always x post ↔ EnsuresOn (fun _ => True) x post :=
  ⟨fun h clock a c _ hrun => ⟨trivial, h clock a c hrun⟩,
    fun h clock a c hrun => (h clock a c trivial hrun).2⟩

theorem ensures_pure {a : α} {post : α → Prop} (h : post a) : Ensures now (pure a) post :=
  ensures_iff.2 (ensuresOn_pure h)

theorem Ensures.bind {x : Timed α} {f : α → Timed β} {post : α → Prop} {post' : β → Prop}
    (hx : Ensures now x post) (hf : ∀ a, post a → Ensures now (f a) post') :
    Ensures now (x >>= f) post' :=
  ensures_iff.2 ((ensures_iff.1 hx).bind fun a ha => ensures_iff.1 (hf a ha))

/-- A contract may promise less. -/
theorem Ensures.mono {x : Timed α} {post post' : α → Prop} (hx : Ensures now x post)
    (h : ∀ a, post a → post' a) : Ensures now x post' :=
  ensures_iff.2 ((ensures_iff.1 hx).mono h)

theorem always_pure {a : α} {post : α → Prop} (h : post a) : Always (pure a) post :=
  always_iff.2 (ensuresOn_pure h)

theorem Always.bind {x : Timed α} {f : α → Timed β} {post : α → Prop} {post' : β → Prop}
    (hx : Always x post) (hf : ∀ a, post a → Always (f a) post') : Always (x >>= f) post' :=
  always_iff.2 ((always_iff.1 hx).bind fun a ha => always_iff.1 (hf a ha))

end Contracts

/-! ## Resolving an operand

This is where the clock is read, so everything above comes back to these few lemmas. -/

section Operand

variable {C : Clock → Prop} {parameters : List Value} {column : String} {operand : Expression}
  {clock clock' : Clock} {now : Moment}

/-- Checking an operand keeps its value. -/
theorem checkOperand_eq_ok {v w : Value} (h : checkOperand column v = .ok w) : w = v := by
  rw [checkOperand] at h
  split at h
  · cases h
  · split at h <;> cases h
    rfl

/-- **An operand resolves to what it shows at the present reading of the clock**, which is something
exactly if it can be known. -/
theorem run_resolveOperand {found : Option Value}
    (h : (resolveOperand parameters column operand).run clock = (.ok found, clock')) :
    found = operand.valueAt clock.now.1 parameters ∧ found.isSome = operand.isKnown ∧
      clock' = operand.after clock := by
  -- the last step of every operand that has a value
  have hcheck : ∀ {v : Value} {c : Clock},
      (do return some (← checkOperand column v) : Timed (Option Value)).run c =
        (.ok found, clock') → found = some v ∧ found.isSome = true ∧ clock' = c := by
    intro v c h
    obtain ⟨w, _, hlift, h⟩ := run_bind_eq_ok.1 h
    obtain ⟨hw, rfl⟩ := run_lift_eq_ok.1 hlift
    obtain ⟨rfl, rfl⟩ := run_pure_eq_ok.1 h
    exact ⟨congrArg some (checkOperand_eq_ok hw), rfl, rfl⟩
  cases operand with
  | literal v => exact hcheck h
  | parameter index =>
    obtain ⟨value, _, hlift, h⟩ := run_bind_eq_ok.1 h
    obtain ⟨hvalue, rfl⟩ := run_lift_eq_ok.1 hlift
    rw [Expression.resolve] at hvalue
    rw [Expression.valueAt]
    split at hvalue <;> cases hvalue
    rename_i v hv
    rw [hv]
    exact hcheck h
  | now =>
    obtain ⟨v, _, hpresent, h⟩ := run_bind_eq_ok.1 h
    cases hpresent
    exact hcheck h
  | complex text =>
    obtain ⟨rfl, rfl⟩ := run_pure_eq_ok.1 h
    exact ⟨rfl, rfl, rfl⟩

/-- An operand has a value if one can be known. -/
theorem ensuresOn_resolveOperand (hC : ∀ clock, C clock → C clock.now.2) (column : String)
    (operand : Expression) :
    EnsuresOn C (resolveOperand parameters column operand) (·.isSome = operand.isKnown) := by
  intro clock found clock' hclock h
  obtain ⟨-, hknown, rfl⟩ := run_resolveOperand h
  refine ⟨?_, hknown⟩
  cases operand with
  | now => exact hC clock hclock
  | literal | parameter | complex => exact hclock

/-- **At one instant an operand resolves to its value.** -/
theorem ensures_resolveOperand (column : String) (operand : Expression) :
    Ensures now (resolveOperand parameters column operand)
      (· = operand.valueAt now parameters) := by
  intro found clock' h
  obtain ⟨hfound, -, rfl⟩ := run_resolveOperand h
  refine ⟨?_, hfound⟩
  cases operand <;> rfl

end Operand

end Sharding

end ScatterGather
