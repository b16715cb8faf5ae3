import Mathlib.Data.List.Rotate
import ScatterGather.Proofs.ReadWrite.Choice

/-!
# Proofs/ReadWrite/Turns — replicas in turn

A round robin counts the turns of every group by itself.  So the calls for one group go through its
replicas in their order (`InTurn`), whatever calls for other groups lie between (`inTurn_ofGroup`).
As many calls in a row as there are replicas get a rotation of them (`map_snd_eq_rotate`); several
such rounds get **every replica once a round** (`count_map_snd`).
-/

namespace ScatterGather

/-- A call for a replica of a group, to choose from a first one and more. -/
structure ReplicaCall where
  group : String
  first : String
  more : List String
  deriving DecidableEq

/-- The replicas to choose from. -/
def ReplicaCall.replicas (c : ReplicaCall) : List String := c.first :: c.more

namespace Balancer

/-- The calls, one after the other, each with the replica it gets. -/
def serve (balancer : Balancer) (source : RandomSource) :
    List ReplicaCall → List (ReplicaCall × String)
  | [] => []
  | c :: calls =>
    let (replica, balancer, source) := balancer.pick source c.group c.first c.more
    (c, replica) :: serve balancer source calls

/-- The calls for one group. -/
def ofGroup (group : String) (served : List (ReplicaCall × String)) :
    List (ReplicaCall × String) :=
  served.filter fun s => s.1.group = group

/-- The calls get the replicas in their order, from the turn `n` on, and the first one again after
the last. -/
def InTurn : Nat → List (ReplicaCall × String) → Prop
  | _, [] => True
  | n, (c, replica) :: served =>
    c.replicas[n % c.replicas.length]? = some replica ∧ InTurn (n + 1) served

variable {turns : List (String × UInt64)} {source : RandomSource}
  {c : ReplicaCall} {calls : List ReplicaCall} {served after : List (ReplicaCall × String)}
  {group replica : String} {replicas : List String} {n k i : Nat}

/-! ## What is served

The balancer only looks at the calls that come; who makes them does not matter. -/

/-- Every call is served. -/
theorem map_fst_serve (balancer : Balancer) (source : RandomSource) (calls : List ReplicaCall) :
    (balancer.serve source calls).map (·.1) = calls := by
  induction calls generalizing balancer source with
  | nil => rfl
  | cons c calls ih => exact congrArg (c :: ·) (ih _ _)

/-- **Every call gets one of its replicas.** -/
theorem forall_serve_mem_replicas (balancer : Balancer) (source : RandomSource)
    (calls : List ReplicaCall) : ∀ s ∈ balancer.serve source calls, s.2 ∈ s.1.replicas := by
  induction calls generalizing balancer source with
  | nil => simp [serve]
  | cons c calls ih =>
    exact List.forall_mem_cons.2 ⟨pick_mem balancer source c.group c.first c.more, ih _ _⟩

/-! ## Turns

Each group has a counter of its own, which a call for another group leaves alone.  So a mixed list
of calls can be filtered by group before it is looked at. -/

/-- **A call gets the replica whose turn it is, and its group's turns go on.** -/
theorem serve_roundRobin_cons (turns : List (String × UInt64)) (source : RandomSource)
    (c : ReplicaCall) (calls : List ReplicaCall) :
    ∃ replica, c.replicas[(turnsOf turns c.group).toNat % c.replicas.length]? = some replica ∧
      (roundRobin turns).serve source (c :: calls) =
        (c, replica) :: (roundRobin (countTurn c.group turns)).serve source calls := by
  have hlt : (turnsOf turns c.group).toNat % c.replicas.length < c.replicas.length :=
    Nat.mod_lt _ (Nat.succ_pos _)
  refine ⟨_, List.getElem?_eq_getElem hlt, ?_⟩
  rw [serve, pick, List.getElem_eq_getD c.first]
  rfl

/-- **The calls for a group are in turn**, whatever other calls there are. -/
theorem inTurn_ofGroup (hfew : (turnsOf turns group).toNat + calls.length < 2 ^ 64) :
    InTurn (turnsOf turns group).toNat (ofGroup group ((roundRobin turns).serve source calls)) := by
  induction calls generalizing turns with
  | nil => trivial
  | cons c calls ih =>
    rw [List.length_cons] at hfew
    obtain ⟨replica, hreplica, hserve⟩ := serve_roundRobin_cons turns source c calls
    have hnext := turnsOf_countTurn turns c.group group
    rw [hserve, ofGroup]
    by_cases hgroup : c.group = group
    · subst hgroup
      have hcount : (turnsOf (countTurn c.group turns) c.group).toNat =
          (turnsOf turns c.group).toNat + 1 := by
        rw [hnext, if_pos rfl, UInt64.toNat_add]
        exact Nat.mod_eq_of_lt (by simp; omega)
      rw [List.filter_cons_of_pos (by simp)]
      refine ⟨hreplica, ?_⟩
      rw [← hcount]
      exact ih (by omega)
    · rw [if_neg (Ne.symm hgroup)] at hnext
      rw [List.filter_cons_of_neg (by simpa using hgroup), ← hnext]
      exact ih (by rw [hnext]; omega)

/-- Calls in turn go on being so where the first ones have ended. -/
theorem inTurn_append : InTurn n (served ++ after) ↔
    InTurn n served ∧ InTurn (n + served.length) after := by
  induction served generalizing n with
  | nil => simp [InTurn]
  | cons s served ih =>
    simp only [List.cons_append, InTurn, ih, List.length_cons, and_assoc]
    rw [Nat.add_right_comm, Nat.add_assoc]

/-- Where calls are in turn, each one of them is. -/
theorem InTurn.getElem?_eq (h : InTurn n served) (hi : served[i]? = some (c, replica)) :
    c.replicas[(n + i) % c.replicas.length]? = some replica := by
  induction served generalizing n i with
  | nil => simp at hi
  | cons s served ih =>
    cases i with
    | zero =>
      obtain rfl := Option.some.inj hi
      exact h.1
    | succ i =>
      rw [← Nat.add_assoc, Nat.add_right_comm]
      exact ih h.2 (by simpa using hi)

/-! ## Rounds

As many calls as replicas make a round, wherever it begins. -/

section Rounds

variable (h : InTurn n served) (hsame : ∀ s ∈ served, s.1.replicas = replicas)

include h hsame

/-- **A round is a rotation of the replicas.** -/
theorem InTurn.map_snd_eq_rotate (hlength : served.length = replicas.length) :
    served.map (·.2) = replicas.rotate n := by
  refine List.ext_getElem (by simpa using hlength) fun i hi _ => ?_
  rw [List.length_map] at hi
  have hturn : served[i].1.replicas[(n + i) % served[i].1.replicas.length]? = some served[i].2 :=
    h.getElem?_eq (List.getElem?_eq_getElem hi)
  rw [hsame _ (List.getElem_mem hi), Nat.add_comm] at hturn
  rw [List.getElem_map, List.getElem_rotate]
  exact ((List.getElem?_eq_some_iff.1 hturn).2).symm

/-- **Every replica has one turn in each round.** -/
theorem InTurn.count_map_snd (hnodup : replicas.Nodup)
    (hlength : served.length = k * replicas.length) (hreplica : replica ∈ replicas) :
    (served.map (·.2)).count replica = k := by
  induction k generalizing n served with
  | zero =>
    rw [Nat.zero_mul] at hlength
    rw [List.length_eq_zero_iff.1 hlength, List.map_nil, List.count_nil]
  | succ k ih =>
    rw [Nat.succ_mul] at hlength
    obtain ⟨round, rest, rfl, hround⟩ :
        ∃ round rest, served = round ++ rest ∧ round.length = replicas.length :=
      ⟨_, _, (List.take_append_drop replicas.length served).symm, by simp; omega⟩
    rw [List.length_append] at hlength
    obtain ⟨hfirst, hmore⟩ := inTurn_append.1 h
    obtain ⟨hsameFirst, hsameMore⟩ := List.forall_mem_append.1 hsame
    rw [List.map_append, List.count_append, hfirst.map_snd_eq_rotate hsameFirst hround,
      (List.rotate_perm replicas n).count_eq, List.count_eq_one_of_mem hnodup hreplica,
      ih hmore hsameMore (by omega), Nat.add_comm]

end Rounds

/-- No group has taken a turn yet. -/
theorem create_roundRobin (props : Properties) :
    create "ROUND_ROBIN" props = .ok (roundRobin []) := by
  have hname : Text.upper "ROUND_ROBIN" = "ROUND_ROBIN" := by decide +kernel
  rw [create, hname, if_pos rfl]

/-- **A round robin serves each group in turn, and evenly.**  A group's call number `i` gets the
replica at `i`, modulo their number; in `k` rounds of calls with the same replicas each of them is
chosen `k` times; and every call gets one of its own replicas. -/
theorem inTurn_and_count_serve (props : Properties) (source : RandomSource)
    (calls : List ReplicaCall) (hfew : calls.length < 2 ^ 64) :
    ∃ balancer served, create "ROUND_ROBIN" props = .ok balancer ∧
      balancer.serve source calls = served ∧ served.map (·.1) = calls ∧
      (∀ s ∈ served, s.2 ∈ s.1.replicas) ∧
      ∀ group,
        (∀ (i : Nat) (c : ReplicaCall) (replica : String), (ofGroup group served)[i]? =
            some (c, replica) → c.replicas[i % c.replicas.length]? = some replica) ∧
        ∀ window replicas k, window <:+: ofGroup group served → replicas.Nodup →
          window.length = k * replicas.length → (∀ s ∈ window, s.1.replicas = replicas) →
          ∀ replica ∈ replicas, (window.map (·.2)).count replica = k := by
  have hturn (group : String) : InTurn 0 (ofGroup group ((roundRobin []).serve source calls)) :=
    @inTurn_ofGroup [] source calls group (by simpa [turnsOf] using hfew)
  refine ⟨roundRobin [], _, create_roundRobin props, rfl, map_fst_serve _ source calls,
    forall_serve_mem_replicas _ source calls, fun group => ⟨fun i c replica hi => ?_, ?_⟩⟩
  · have hreplica := (hturn group).getElem?_eq hi
    rwa [Nat.zero_add] at hreplica
  · rintro window replicas k ⟨before, after, hwindow⟩ hnodup hlength hsame replica hreplica
    have hall := hturn group
    rw [← hwindow, inTurn_append, inTurn_append] at hall
    exact hall.1.2.count_map_snd hsame hnodup hlength hreplica

/-- Reads of two groups among each other; the third of `us` is without the second replica. -/
def interleavedCalls : List ReplicaCall :=
  [⟨"us", "u0", ["u1", "u2"]⟩, ⟨"eu", "e0", ["e1"]⟩, ⟨"us", "u0", ["u1", "u2"]⟩,
    ⟨"us", "u0", ["u2"]⟩, ⟨"eu", "e0", ["e1"]⟩, ⟨"us", "u0", ["u1", "u2"]⟩,
    ⟨"us", "u0", ["u1", "u2"]⟩, ⟨"eu", "e0", ["e1"]⟩, ⟨"us", "u0", ["u1", "u2"]⟩]

/-- With two replicas the third call of `us` is the first one's turn again, and so is the fourth
with three of them; from there on the calls make a round. -/
theorem inTurn_and_count_serve_interleaved : interleavedCalls.length < 2 ^ 64 ∧
    ∃ balancer served, create "ROUND_ROBIN" [] = .ok balancer ∧
      balancer.serve ⟨7⟩ interleavedCalls = served ∧
      served.map (·.2) = ["u0", "e0", "u1", "u0", "e1", "u0", "u1", "e0", "u2"] ∧
      ∀ replica ∈ ["u0", "u1", "u2"],
        (((ofGroup "us" served).drop 3).map (·.2)).count replica = 1 := by
  have hfew : interleavedCalls.length < 2 ^ 64 := by decide
  obtain ⟨balancer, served, hcreate, hserve, -, -, hgroups⟩ :=
    inTurn_and_count_serve [] ⟨7⟩ interleavedCalls hfew
  obtain rfl : roundRobin [] = balancer :=
    Except.ok.inj ((create_roundRobin []).symm.trans hcreate)
  subst hserve
  exact ⟨hfew, _, _, hcreate, rfl, by decide +kernel,
    (hgroups "us").2 _ _ 1 (List.drop_suffix 3 _).isInfix (by decide) (by decide +kernel)
      (by decide +kernel)⟩

end Balancer

end ScatterGather
