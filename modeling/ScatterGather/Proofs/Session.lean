import Mathlib.Data.List.Induction
import Mathlib.Logic.Function.Basic
import ScatterGather.Session

/-!
# Proofs/Session — one transaction id for one transaction

Any number of sessions share one counter of transaction ids, and each of them goes through events at
any time.  Whatever the interleaving, the counter stays one ahead of the ids that were given out,
and an id that is still open was given to one session (`SharedSessions.HasGiven.step`).  So the ids
come **in order, without gap or repetition**, and no two sessions hold one of them
(`SharedSessions.isOrderly_after`), as long as the counter has not started over.
-/

namespace ScatterGather

/-- What happens to a session. -/
inductive SessionEvent where
  | begin
  | commit
  | rollback
  | close
  | visitPrimary
  | setWriteRouteOnly (only : Bool)
  deriving DecidableEq

/-- Sessions that share one counter of transaction ids. -/
structure SharedSessions (ι : Type) where
  ids : TransactionIds
  session : ι → Session

namespace SharedSessions

variable {ι : Type}

/-- New sessions on a new counter. -/
def fresh : SharedSessions ι := ⟨.first, fun _ => .fresh⟩

/-- **`n` ids have been given out**: the counter is one ahead, and those still open are among them,
each in one session. -/
structure HasGiven (s : SharedSessions ι) (n : Nat) : Prop where
  next : s.ids.next = n + 1
  le : ∀ i, ∀ id ∈ (s.session i).transaction, id ≤ n
  inj : ∀ i j, ∀ id ∈ (s.session i).transaction, id ∈ (s.session j).transaction → i = j

/-- At first no id has been given out. -/
theorem hasGiven_fresh : (fresh : SharedSessions ι).HasGiven 0 :=
  ⟨rfl, fun _ _ h => (Option.not_mem_none _ h).elim,
    fun _ _ _ h => (Option.not_mem_none _ h).elim⟩

variable [DecidableEq ι]

/-- Opens a transaction of one session: its id, or why there is none. -/
def begin (s : SharedSessions ι) (i : ι) : Except Error Nat × SharedSessions ι :=
  match (s.session i).begin s.ids with
  | .error e => (.error e, s)
  | .ok (id, session, ids) => (.ok id, ⟨ids, Function.update s.session i session⟩)

/-- Changes one session, and nothing that it shares. -/
def change (s : SharedSessions ι) (i : ι) (f : Session → Session) : SharedSessions ι :=
  { s with session := Function.update s.session i (f (s.session i)) }

/-- The id that an event of a session gives out, if any, and the sessions after it. -/
def step (s : SharedSessions ι) (i : ι) : SessionEvent → Option Nat × SharedSessions ι
  | .begin => ((s.begin i).1.toOption, (s.begin i).2)
  | .commit | .rollback => (none, s.change i Session.endTransaction)
  | .close => (none, s.change i Session.close)
  | .visitPrimary => (none, s.change i Session.visitPrimary)
  | .setWriteRouteOnly only => (none, s.change i (·.setWriteRouteOnly only))

/-- The sessions after events of any of them, the first one first. -/
def after (s : SharedSessions ι) (events : List (ι × SessionEvent)) : SharedSessions ι :=
  events.foldl (fun s e => (s.step e.1 e.2).2) s

/-- The ids that the events give out, in their order. -/
def given (s : SharedSessions ι) : List (ι × SessionEvent) → List Nat
  | [] => []
  | e :: rest => (s.step e.1 e.2).1.toList ++ given (s.step e.1 e.2).2 rest

section Run

variable {s : SharedSessions ι} {i j : ι} {n id : Nat}

/-- The last event comes after the others. -/
theorem after_concat (s : SharedSessions ι) (past : List (ι × SessionEvent))
    (e : ι × SessionEvent) : s.after (past ++ [e]) = ((s.after past).step e.1 e.2).2 := by
  rw [after, List.foldl_append]
  rfl

/-- An event gives out its id after those of the events before. -/
theorem given_concat (s : SharedSessions ι) (past : List (ι × SessionEvent))
    (e : ι × SessionEvent) :
    s.given (past ++ [e]) = s.given past ++ ((s.after past).step e.1 e.2).1.toList := by
  induction past generalizing s with
  | nil => exact List.append_nil _
  | cons first past ih =>
    rw [List.cons_append, given, given, ih, List.append_assoc]
    rfl

/-! ## What one event does

An event concerns one session, and of what the sessions share only the counter.  The invariant
`HasGiven` therefore splits into the counter, the session at hand and all the others. -/

/-- **A session with an open transaction begins no other**, and nothing changes. -/
theorem begin_of_open (h : (s.session i).transaction = some id) :
    s.begin i = (.error (.unsupported (.transactionOpen id)), s) := by
  rw [begin, Session.begin, h]

/-- **A session without one begins a transaction** under the next id. -/
theorem begin_of_none (h : (s.session i).transaction = none) : s.begin i = (.ok s.ids.next,
    ⟨s.ids.advance,
      Function.update s.session i { s.session i with transaction := some s.ids.next }⟩) := by
  rw [begin, Session.begin, h]

/-- A transaction that begins leaves every other session as it was. -/
theorem session_begin (h : (s.session i).transaction = none) : (s.begin i).2.session j =
    if j = i then { s.session i with transaction := some s.ids.next } else s.session j := by
  rw [begin_of_none h]
  exact Function.update_apply ..

/-- Every other session is as it was. -/
theorem session_change (s : SharedSessions ι) (i j : ι) (f : Session → Session) :
    (s.change i f).session j = if j = i then f (s.session i) else s.session j :=
  Function.update_apply ..

/-- Open transactions of other sessions stay, and a session loses its own or keeps it. -/
theorem mem_transaction_change {f : Session → Session}
    (hf : (f (s.session i)).transaction = none ∨
      (f (s.session i)).transaction = (s.session i).transaction)
    (h : id ∈ ((s.change i f).session j).transaction) : id ∈ (s.session j).transaction := by
  rw [session_change] at h
  split at h
  next heq =>
    subst heq
    obtain hf | hf := hf
    · rw [hf] at h
      cases h
    · rwa [hf] at h
  next => exact h

/-- An event that leaves the counter gives nothing out. -/
theorem HasGiven.change {f : Session → Session} (h : s.HasGiven n)
    (hf : (f (s.session i)).transaction = none ∨
      (f (s.session i)).transaction = (s.session i).transaction) : (s.change i f).HasGiven n :=
  ⟨h.next, fun j id hid => h.le j id (mem_transaction_change hf hid),
    fun j k id hj hk => h.inj j k id (mem_transaction_change hf hj) (mem_transaction_change hf hk)⟩

/-- A transaction that begins opens the next id, which no session has. -/
theorem HasGiven.begin (h : s.HasGiven n) (hfits : n + 2 < 2 ^ 64)
    (hnone : (s.session i).transaction = none) : (s.begin i).2.HasGiven (n + 1) := by
  have hmem : ∀ j, ∀ id ∈ ((s.begin i).2.session j).transaction,
      j = i ∧ id = n + 1 ∨ j ≠ i ∧ id ∈ (s.session j).transaction := by
    intro j id hid
    rw [session_begin hnone] at hid
    split at hid
    next heq => exact .inl ⟨heq, (Option.some.inj hid).symm.trans h.next⟩
    next hne => exact .inr ⟨hne, hid⟩
  refine ⟨?_, fun j id hid => ?_, fun j k id hj hk => ?_⟩
  · rw [begin_of_none hnone, TransactionIds.advance, h.next]
    exact Nat.mod_eq_of_lt hfits
  · obtain ⟨-, rfl⟩ | ⟨-, hid⟩ := hmem j id hid
    · exact Nat.le_refl _
    · exact Nat.le_succ_of_le (h.le j id hid)
  · obtain ⟨rfl, rfl⟩ | ⟨-, hj⟩ := hmem j id hj
    · obtain ⟨rfl, -⟩ | ⟨-, hk⟩ := hmem k _ hk
      · rfl
      · exact absurd (h.le k _ hk) (Nat.not_succ_le_self n)
    · obtain ⟨-, rfl⟩ | ⟨-, hk⟩ := hmem k id hk
      · exact absurd (h.le j _ hj) (Nat.not_succ_le_self n)
      · exact h.inj j k id hj hk

/-- **One event** gives out nothing, or the next id. -/
theorem HasGiven.step (h : s.HasGiven n) (i : ι) (e : SessionEvent) :
    (s.step i e).1 = none ∧ (s.step i e).2.HasGiven n ∨
      (s.step i e).1 = some (n + 1) ∧ (n + 2 < 2 ^ 64 → (s.step i e).2.HasGiven (n + 1)) := by
  cases e with
  | begin =>
    cases htransaction : (s.session i).transaction with
    | some id =>
      rw [SharedSessions.step, begin_of_open htransaction]
      exact .inl ⟨rfl, h⟩
    | none =>
      refine .inr ⟨?_, fun hfits => h.begin hfits htransaction⟩
      rw [SharedSessions.step, begin_of_none htransaction, ← h.next]
      rfl
  | commit | rollback => exact .inl ⟨rfl, h.change (f := Session.endTransaction) (.inl rfl)⟩
  | close => exact .inl ⟨rfl, h.change (f := Session.close) (.inl rfl)⟩
  | visitPrimary => exact .inl ⟨rfl, h.change (f := Session.visitPrimary) (.inr rfl)⟩
  | setWriteRouteOnly only =>
    exact .inl ⟨rfl, h.change (f := (·.setWriteRouteOnly only)) (.inr rfl)⟩

/-! ## What all events do

The run is followed from its end: the last event is one step after the run before it. -/

/-- **The events give out 1, 2, 3, …**, until the counter starts over. -/
theorem hasGiven_after (events : List (ι × SessionEvent))
    (hfew : ((fresh : SharedSessions ι).given events).length + 1 < 2 ^ 64) :
    (fresh.after events).HasGiven (fresh.given events).length ∧
      fresh.given events = List.range' 1 (fresh.given events).length := by
  induction events using List.reverseRecOn with
  | nil => exact ⟨hasGiven_fresh, rfl⟩
  | append_singleton past e ih =>
    rw [given_concat] at hfew ⊢
    rw [after_concat]
    rw [List.length_append] at hfew
    obtain ⟨hbefore, hrange⟩ := ih (by omega)
    obtain ⟨hnone, hafter⟩ | ⟨hsome, hafter⟩ := hbefore.step e.1 e.2
    · rw [hnone, Option.toList_none, List.append_nil]
      exact ⟨hafter, hrange⟩
    · rw [hsome, Option.toList_some, List.length_singleton] at hfew
      rw [hsome, Option.toList_some, List.length_append, List.length_singleton,
        List.range'_concat, ← hrange, Nat.one_mul, Nat.add_comm 1]
      exact ⟨hafter hfew, rfl⟩

/-- **Orderly ids**: those given out are 1, 2, 3, …, the counter is beyond all of them, those that
are open belong to one session each, and a session with an open one gets no other. -/
structure IsOrderly (s : SharedSessions ι) (ids : List Nat) : Prop where
  inOrder : ids = List.range' 1 ids.length
  next : s.ids.next = ids.length + 1
  below : ∀ i, ∀ id ∈ (s.session i).transaction, id < s.ids.next
  unique : ∀ i j, ∀ id ∈ (s.session i).transaction, id ∈ (s.session j).transaction → i = j
  /-- A session without an open transaction gets the next id. -/
  begins : ∀ i, (s.session i).transaction = none → (s.begin i).1 = .ok s.ids.next
  /-- A session with one gets none, and nothing changes. -/
  refuses : ∀ i, ∀ id ∈ (s.session i).transaction,
    s.begin i = (.error (.unsupported (.transactionOpen id)), s)

/-- **Transaction ids are unique across sessions**, whatever any number of them went through, in
whichever order. -/
theorem isOrderly_after (events : List (ι × SessionEvent))
    (hfew : ((fresh : SharedSessions ι).given events).length < 2 ^ 64 - 1) :
    (fresh.after events).IsOrderly (fresh.given events) := by
  obtain ⟨hgiven, hrange⟩ := hasGiven_after events (by omega)
  refine ⟨hrange, hgiven.next, fun i id hid => ?_, hgiven.inj, fun i hnone => ?_,
    fun i id hid => begin_of_open hid⟩
  · rw [hgiven.next]
    exact Nat.lt_succ_of_le (hgiven.le i id hid)
  · rw [begin_of_none hnone]

/-- Two sessions: the first commits and begins again, after one that is refused. -/
def twoSessions : List (Bool × SessionEvent) :=
  [(true, .begin), (false, .begin), (false, .begin), (true, .visitPrimary), (true, .commit),
    (true, .begin)]

/-- Three transactions begin, and two are open. -/
theorem isOrderly_after_twoSessions : (fresh.given twoSessions).length < 2 ^ 64 - 1 ∧
    fresh.given twoSessions = [1, 2, 3] ∧
    (fresh.after twoSessions).IsOrderly (fresh.given twoSessions) :=
  ⟨by decide, by decide, isOrderly_after twoSessions (by decide)⟩

end Run

end SharedSessions

end ScatterGather
