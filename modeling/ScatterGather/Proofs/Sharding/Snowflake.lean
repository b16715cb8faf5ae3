import Mathlib.Data.Int.Bitwise
import ScatterGather.Proofs.Outcome
import ScatterGather.Sharding.KeyGenerator

/-!
# Proofs/Sharding/Snowflake — keys that never repeat

A snowflake generator packs a **stamp** into each key: a millisecond and a number within it.
Whatever its clock shows, every stamp comes after the one before (`Snowflake.next_eq_ok`): a later
reading starts a new millisecond, any other reading takes the next number in the last one, and where
the numbers are used up only a later reading is waited for.  While the milliseconds lie within
2⁴¹ of the epoch, a key keeps its stamp and its worker in separate bits (`toInt_keyOf`).  So keys
increase from call to call, and generators of different workers share none
(`Snowflake.keys_differ`).
-/

namespace ScatterGather

/-- The instants that a clock may show from now on. -/
def Clock.Reads (c : Clock) (now : Moment) : Prop :=
  now = c.final ∨ ∃ more, (now, more + 1) ∈ c.runs

/-- The milliseconds that a clock may show from now on. -/
def Clock.Shows (c : Clock) (millis : Int) : Prop := ∃ now, c.Reads now ∧ now.millis = millis

namespace Clock

variable {c d : Clock} {now final : Moment} {last : Int} {runs : List (Moment × Nat)}

/-- A clock shows the first of its readings and those after it. -/
theorem reads_cons {first : Moment} {more : Nat} (h : Reads ⟨runs, final⟩ now) :
    Reads ⟨(first, more) :: runs, final⟩ now :=
  h.imp_right fun ⟨n, hn⟩ => ⟨n, List.mem_cons_of_mem _ hn⟩

/-- A run from which one reading was taken shows nothing new. -/
theorem reads_of_reads_cons {first : Moment} {more : Nat}
    (h : Reads ⟨(first, more) :: runs, final⟩ now) :
    Reads ⟨(first, more + 1) :: runs, final⟩ now := by
  obtain h | ⟨n, hn⟩ := h
  · exact .inl h
  · obtain heq | hn := List.mem_cons.1 hn
    · obtain ⟨rfl, rfl⟩ := Prod.mk.inj heq
      exact .inr ⟨_, List.mem_cons_self⟩
    · exact .inr ⟨n, List.mem_cons_of_mem _ hn⟩

/-- **A reading is one that the clock shows**, and the clock shows nothing new after it. -/
theorem reads_now (c : Clock) : c.Reads c.now.1 ∧ ∀ now, c.now.2.Reads now → c.Reads now := by
  obtain ⟨runs, final⟩ := c
  change Reads _ (readRuns final runs).1 ∧ ∀ now, Reads (readRuns final runs).2 now → _
  induction runs with
  | nil => exact ⟨.inl rfl, fun _ => id⟩
  | cons run rest ih =>
    obtain ⟨first, _ | more⟩ := run
    · exact ⟨reads_cons ih.1, fun now h => reads_cons (ih.2 now h)⟩
    · exact ⟨.inr ⟨more, List.mem_cons_self⟩, fun _ => reads_of_reads_cons⟩

/-- **Waiting ends at a later reading** that the clock shows. -/
theorem reads_readAfter? (h : readAfter? last final runs = some (now, d)) :
    last < now.millis ∧ Reads ⟨runs, final⟩ now ∧ ∀ m, d.Reads m → Reads ⟨runs, final⟩ m := by
  induction runs with
  | nil =>
    rw [readAfter?] at h
    split at h
    · next hlt =>
      obtain ⟨rfl, rfl⟩ := Prod.mk.inj (Option.some.inj h)
      exact ⟨hlt, .inl rfl, fun _ => id⟩
    · cases h
  | cons run rest ih =>
    have hrest : readAfter? last final rest = some (now, d) →
        last < now.millis ∧ Reads ⟨run :: rest, final⟩ now ∧
          ∀ m, d.Reads m → Reads ⟨run :: rest, final⟩ m := fun h =>
      ⟨(ih h).1, reads_cons (ih h).2.1, fun m hm => reads_cons ((ih h).2.2 m hm)⟩
    obtain ⟨first, _ | more⟩ := run
    · exact hrest h
    · rw [readAfter?] at h
      split at h
      · next hlt =>
        obtain ⟨rfl, rfl⟩ := Prod.mk.inj (Option.some.inj h)
        exact ⟨hlt, .inr ⟨more, List.mem_cons_self⟩, fun _ => reads_of_reads_cons⟩
      · exact hrest h

/-- A clock that shows no new instants shows no new milliseconds. -/
theorem Shows.of_reads {millis : Int} (hlater : ∀ m, d.Reads m → c.Reads m)
    (h : d.Shows millis) : c.Shows millis :=
  h.imp fun _ hm => hm.imp_left (hlater _)

end Clock

namespace Sharding

/-! ## Bits of a key

A key has three fields, and shifting and masking get each of them back.  Both are stated as
arithmetic on integers, where the bounds of the fields can be added up. -/

/-- The milliseconds since the epoch that a key shows. -/
def timestampOf (id : Int64) : Int64 := id >>> 22

/-- The worker that a key shows. -/
def workerOf (id : Int64) : Int64 := (id >>> 12) &&& 1023

/-- The number within its millisecond that a key shows. -/
def sequenceOf (id : Int64) : Int64 := id &&& 4095

/-- Shifting to the right divides. -/
theorem toInt_shiftRight (id : Int64) {n : Nat} (hn : n < 64) :
    (id >>> Int64.ofNat n).toInt = id.toInt / 2 ^ n := by
  have hnat : (BitVec.ofNat 64 n).toNat = n := Nat.mod_eq_of_lt (by omega)
  have hint : (BitVec.ofNat 64 n).toInt = n := by
    rw [BitVec.toInt_eq_toNat_of_lt (by omega), hnat]
  have hshift : (BitVec.ofNat 64 n).smod 64 = BitVec.ofNat 64 n := by
    refine BitVec.eq_of_toInt_eq ?_
    rw [BitVec.toInt_smod, hint]
    change Int.fmod n 64 = n
    rw [Int.fmod_eq_emod_of_nonneg _ (by decide), Int.emod_eq_of_lt (by omega) (by omega)]
  rw [← Int64.toInt_toBitVec, Int64.toBitVec_shiftRight]
  change (id.toBitVec.sshiftRight' ((BitVec.ofNat 64 n).smod 64)).toInt = _
  rw [hshift, BitVec.sshiftRight', hnat, BitVec.toInt_sshiftRight, Int.shiftRight_eq_div_pow,
    Int64.toInt_toBitVec]
  norm_cast

/-- The lowest bits are the remainder. -/
theorem toInt_and_mask (id : Int64) {n : Nat} (hn : n ≤ 62) :
    (id &&& Int64.ofNat (2 ^ n - 1)).toInt = id.toInt % 2 ^ n := by
  have hpow : 2 ^ n ≤ 2 ^ 62 := Nat.pow_le_pow_right (by decide) hn
  have hmask : (Int64.ofNat (2 ^ n - 1)).toBitVec.toNat = 2 ^ n - 1 :=
    Nat.mod_eq_of_lt (by omega)
  have hlow : (id.toBitVec &&& (Int64.ofNat (2 ^ n - 1)).toBitVec).toNat =
      id.toBitVec.toNat % 2 ^ n := by
    rw [BitVec.toNat_and, hmask, Nat.and_two_pow_sub_one_eq_mod]
  have hlt : id.toBitVec.toNat % 2 ^ n < 2 ^ n := Nat.mod_lt _ (Nat.two_pow_pos n)
  have hdvd : ((2 ^ n : Nat) : Int) ∣ ((2 ^ 64 : Nat) : Int) :=
    Int.natCast_dvd_natCast.2 (Nat.pow_dvd_pow 2 (by omega))
  have hsame : id.toBitVec.toInt % (2 ^ n : Nat) = id.toBitVec.toNat % (2 ^ n : Nat) := by
    rw [BitVec.toInt_eq_toNat_bmod, ← Int.emod_emod_of_dvd _ hdvd, Int.bmod_emod,
      Int.emod_emod_of_dvd _ hdvd]
  rw [← Int64.toInt_toBitVec, Int64.toBitVec_and, BitVec.toInt_eq_toNat_of_lt (by omega), hlow,
    ← Int64.toInt_toBitVec]
  push_cast at hsame ⊢
  exact hsame.symm

/-- The time is what is left after dividing by the fields below it. -/
@[simp] theorem toInt_timestampOf (id : Int64) :
    (timestampOf id).toInt = id.toInt / 2 ^ 22 :=
  toInt_shiftRight id (n := 22) (by decide)

/-- The worker is a remainder of that. -/
@[simp] theorem toInt_workerOf (id : Int64) :
    (workerOf id).toInt = id.toInt / 2 ^ 12 % 2 ^ 10 := by
  rw [← toInt_shiftRight id (n := 12) (by decide)]
  exact toInt_and_mask (id >>> 12) (n := 10) (by decide)

/-- The number is the lowest field. -/
@[simp] theorem toInt_sequenceOf (id : Int64) : (sequenceOf id).toInt = id.toInt % 2 ^ 12 :=
  toInt_and_mask id (n := 12) (by decide)

/-! ## Stamps

What a generator does is described without bits: its stamps come one after another.  The key of a
stamp keeps the order as long as the parts fit. -/

/-- What a generator packs into a key beside its worker. -/
structure Stamp where
  millis : Int
  sequence : Nat
  deriving DecidableEq

/-- A later millisecond, or a greater number within the same one. -/
def Stamp.Before (a b : Stamp) : Prop :=
  a.millis < b.millis ∨ a.millis = b.millis ∧ a.sequence < b.sequence

/-- Stamps come one after another in any number of steps. -/
theorem Stamp.Before.trans {a b c : Stamp} (hab : a.Before b) (hbc : b.Before c) : a.Before c := by
  simp only [Before] at hab hbc ⊢
  omega

/-- The number in a key, as wide as it is written. -/
def keyOf (worker : Nat) (t : Stamp) : Int64 :=
  Int64.ofInt (Snowflake.pack worker t.millis t.sequence)

/-- The stamp fits into a key: its millisecond into 41 bits, its number into 12. -/
structure Stamp.Fits (t : Stamp) : Prop where
  epoch_le : snowflakeEpoch ≤ t.millis
  lt_end : t.millis < snowflakeEpoch + 2 ^ 41
  sequence_lt : t.sequence < 4096

section Key

variable {worker : Nat} {t u : Stamp}

/-- **A key is not wrapped** while its parts fit. -/
theorem toInt_keyOf (hworker : worker < 1024) (ht : t.Fits) :
    (keyOf worker t).toInt =
      (t.millis - snowflakeEpoch) * 2 ^ 22 + worker * 2 ^ 12 + t.sequence := by
  obtain ⟨hle, hlt, hsequence⟩ := ht
  have hpack : Snowflake.pack worker t.millis t.sequence =
      (t.millis - snowflakeEpoch) * 2 ^ 22 + worker * 2 ^ 12 + t.sequence := by
    rw [Snowflake.pack]
    push_cast
    omega
  rw [keyOf, hpack, Int64.toInt_ofInt_of_le] <;> omega

/-- Keys are not negative. -/
theorem keyOf_nonneg (hworker : worker < 1024) (ht : t.Fits) : 0 ≤ keyOf worker t := by
  have hle := ht.epoch_le
  rw [Int64.le_iff_toInt_le, toInt_keyOf hworker ht]
  change (0 : Int) ≤ _
  omega

/-- **A key shows when it was made.** -/
theorem toInt_timestampOf_keyOf (hworker : worker < 1024) (ht : t.Fits) :
    (timestampOf (keyOf worker t)).toInt = t.millis - snowflakeEpoch := by
  have hsequence := ht.sequence_lt
  rw [toInt_timestampOf, toInt_keyOf hworker ht]
  omega

/-- **A key shows its worker.** -/
theorem toInt_workerOf_keyOf (hworker : worker < 1024) (ht : t.Fits) :
    (workerOf (keyOf worker t)).toInt = worker := by
  have hsequence := ht.sequence_lt
  rw [toInt_workerOf, toInt_keyOf hworker ht]
  omega

/-- **Later stamps make greater keys.** -/
theorem keyOf_lt_keyOf (hworker : worker < 1024) (ht : t.Fits) (hu : u.Fits) (h : t.Before u) :
    keyOf worker t < keyOf worker u := by
  have hsequence := ht.sequence_lt
  rw [Int64.lt_iff_toInt_lt, toInt_keyOf hworker ht, toInt_keyOf hworker hu]
  obtain h | ⟨h, h'⟩ := h <;> omega

end Key

namespace Snowflake

/-- A generator before its first key. -/
def new (worker : Fin 1024) (clock : Clock) : Snowflake := ⟨worker, clock, 0, 0, worker.isLt⟩

/-- The stamp of the last key. -/
def stamp (s : Snowflake) : Stamp := ⟨s.lastMillis, s.sequence⟩

section Next

variable {s t : Snowflake} {key : Value}

/-- **How a generator moves on**: to the first number of a later reading, or to the next number of
the last millisecond, where the clock shows no later one. -/
theorem advance_cases {millis : Int} {sequence : Nat} {clock : Clock}
    (h : s.advance = some (millis, sequence, clock)) :
    (∀ m, clock.Shows m → s.clock.Shows m) ∧
      ((s.lastMillis < millis ∧ sequence = 0 ∧ s.clock.Shows millis) ∨
        millis = s.lastMillis ∧ sequence = (s.sequence + 1) % 2 ^ 12 ∧ sequence ≠ 0 ∧
          ∃ m, s.clock.Shows m ∧ m ≤ s.lastMillis) := by
  obtain ⟨hread, hlater⟩ := s.clock.reads_now
  have hshown : ∀ m, s.clock.now.2.Shows m → s.clock.Shows m := fun m => .of_reads hlater
  rw [advance] at h
  dsimp only at h
  split at h
  · next hnow =>
    have hle : s.clock.now.1.millis ≤ s.lastMillis := by omega
    split at h
    · obtain ⟨⟨now, clock'⟩, hafter, hpair⟩ := Option.map_eq_some_iff.1 h
      obtain ⟨hm, hpair⟩ := Prod.mk.inj hpair
      obtain ⟨rfl, rfl⟩ := Prod.mk.inj hpair
      obtain rfl : now.millis = millis := hm
      obtain ⟨hlt, hreads, hrest⟩ := Clock.reads_readAfter? hafter
      exact ⟨fun m hm => hshown m (.of_reads hrest hm),
        .inl ⟨hlt, rfl, now, hlater _ hreads, rfl⟩⟩
    · next hne =>
      obtain ⟨rfl, hpair⟩ := Prod.mk.inj (Option.some.inj h)
      obtain ⟨rfl, rfl⟩ := Prod.mk.inj hpair
      exact ⟨hshown, .inr ⟨hnow, rfl, hne, _, ⟨_, hread, rfl⟩, hle⟩⟩
  · next hnow =>
    obtain ⟨rfl, hpair⟩ := Prod.mk.inj (Option.some.inj h)
    obtain ⟨rfl, rfl⟩ := Prod.mk.inj hpair
    refine ⟨hshown, .inl ⟨by omega, rfl, _, hread, ?_⟩⟩
    omega

/-- **A call** packs a stamp that comes after the last one, and its number fits.  The stamp's
millisecond is a reading, unless the clock shows one that is not later than the last. -/
theorem next_eq_ok (hsequence : s.sequence < 4096) (h : s.next = .ok (key, t)) :
    key = .integer (keyOf s.worker t.stamp) ∧ t.worker = s.worker ∧ s.stamp.Before t.stamp ∧
      t.sequence < 4096 ∧ (∀ m, t.clock.Shows m → s.clock.Shows m) ∧
      (s.clock.Shows t.lastMillis ∨
        t.lastMillis = s.lastMillis ∧ ∃ m, s.clock.Shows m ∧ m ≤ s.lastMillis) := by
  rw [next] at h
  split at h
  · next millis sequence clock hadvance =>
    obtain ⟨rfl, rfl⟩ := Prod.mk.inj (Except.ok.inj h)
    obtain ⟨hlater, ⟨hlt, rfl, hshows⟩ | ⟨rfl, hnext, hne, hstays⟩⟩ := advance_cases hadvance
    · exact ⟨rfl, rfl, .inl hlt, Nat.zero_lt_succ _, hlater, .inl hshows⟩
    · exact ⟨rfl, rfl, .inr ⟨rfl, by dsimp only [stamp]; omega⟩, by dsimp only; omega, hlater,
        .inr ⟨rfl, hstays⟩⟩
  · cases h

end Next

/-- **The stamps of a run of calls** come one after another, after the last one before them.  Their
milliseconds are readings of the clock, if the last one before them is a reading, or earlier than
all that the clock shows. -/
theorem exists_stamps {s : Snowflake} {P : Int → Prop} {count : Nat} {keys : List Value}
    {g : KeyGenerator} (hsequence : s.sequence < 4096) (hshows : ∀ m, s.clock.Shows m → P m)
    (hlast : P s.lastMillis ∨ ∀ m, s.clock.Shows m → s.lastMillis < m)
    (h : (KeyGenerator.snowflake s).take count = .ok (keys, g)) :
    ∃ stamps : List Stamp, keys = stamps.map (fun t => .integer (keyOf s.worker t)) ∧
      stamps.length = count ∧ (s.stamp :: stamps).Pairwise Stamp.Before ∧
      ∀ t ∈ stamps, P t.millis ∧ t.sequence < 4096 := by
  induction count generalizing s keys g with
  | zero =>
    obtain ⟨rfl, -⟩ := Prod.mk.inj (Except.ok.inj h)
    exact ⟨[], rfl, rfl, List.pairwise_singleton _ _, by simp⟩
  | succ count ih =>
    obtain ⟨⟨key, g'⟩, hkey, h⟩ := bind_eq_ok.1 h
    obtain ⟨⟨rest, g''⟩, hrest, h⟩ := bind_eq_ok.1 h
    obtain ⟨rfl, -⟩ := Prod.mk.inj (Except.ok.inj h)
    obtain ⟨⟨key', t⟩, hnext, hpair⟩ := map_eq_ok.1 hkey
    obtain ⟨rfl, rfl⟩ := Prod.mk.inj hpair
    obtain ⟨rfl, hworker, hbefore, hsequence', hlater, hreading⟩ := next_eq_ok hsequence hnext
    have hP : P t.lastMillis := by
      obtain hshown | ⟨heq, m, hm, hle⟩ := hreading
      · exact hshows _ hshown
      · exact heq ▸ hlast.resolve_right fun hfirst => absurd (hfirst m hm) (Int.not_lt.2 hle)
    obtain ⟨stamps, rfl, hlength, hpairwise, hstamps⟩ :=
      ih hsequence' (fun m hm => hshows m (hlater m hm)) (.inl hP) hrest
    refine ⟨t.stamp :: stamps, ?_, congrArg (· + 1) hlength, ?_, ?_⟩
    · rw [List.map_cons, hworker]
    · refine List.pairwise_cons.2 ⟨List.forall_mem_cons.2 ⟨hbefore, fun u hu => ?_⟩, hpairwise⟩
      exact hbefore.trans ((List.pairwise_cons.1 hpairwise).1 u hu)
    · exact List.forall_mem_cons.2 ⟨⟨hP, hsequence'⟩, hstamps⟩

/-- **What the keys of one generator are like.** -/
structure AreKeys (worker : Nat) (clock : Clock) (ids : List Int64) : Prop where
  increasing : ids.Pairwise (· < ·)
  /-- No timestamp is below an earlier one. -/
  timestamps : ids.Pairwise fun a b => timestampOf a ≤ timestampOf b
  nonneg : ∀ id ∈ ids, 0 ≤ id
  worker : ∀ id ∈ ids, (workerOf id).toInt = worker
  /-- A key is its parts put together, and nothing else. -/
  parts : ∀ id ∈ ids, id.toInt =
    (timestampOf id).toInt * 2 ^ 22 + (workerOf id).toInt * 2 ^ 12 + (sequenceOf id).toInt
  /-- Timestamps are readings. -/
  shown : ∀ id ∈ ids, clock.Shows (snowflakeEpoch + (timestampOf id).toInt)

/-- Keys of stamps that fit and come one after another. -/
theorem areKeys_map_keyOf {worker : Nat} {clock : Clock} {stamps : List Stamp}
    (hworker : worker < 1024) (hbefore : stamps.Pairwise Stamp.Before)
    (hfits : ∀ t ∈ stamps, t.Fits) (hshown : ∀ t ∈ stamps, clock.Shows t.millis) :
    AreKeys worker clock (stamps.map (keyOf worker)) where
  increasing := List.pairwise_map.2 (hbefore.imp_of_mem fun ht hu =>
    keyOf_lt_keyOf hworker (hfits _ ht) (hfits _ hu))
  timestamps := by
    refine List.pairwise_map.2 (hbefore.imp_of_mem fun ht hu h => ?_)
    rw [Int64.le_iff_toInt_le, toInt_timestampOf_keyOf hworker (hfits _ ht),
      toInt_timestampOf_keyOf hworker (hfits _ hu)]
    obtain h | ⟨h, -⟩ := h <;> omega
  nonneg := List.forall_mem_map.2 fun t ht => keyOf_nonneg hworker (hfits t ht)
  worker := List.forall_mem_map.2 fun t ht => toInt_workerOf_keyOf hworker (hfits t ht)
  parts := List.forall_mem_map.2 fun t ht => by
    rw [toInt_timestampOf, toInt_workerOf, toInt_sequenceOf]
    omega
  shown := List.forall_mem_map.2 fun t ht => by
    rw [toInt_timestampOf_keyOf hworker (hfits t ht),
      show snowflakeEpoch + (t.millis - snowflakeEpoch) = t.millis by omega]
    exact hshown t ht

/-- **The keys of a new generator**, whatever its clock shows within the span of the keys. -/
theorem exists_areKeys_of_take {worker : Fin 1024} {clock : Clock} {count : Nat}
    {keys : List Value} {g : KeyGenerator}
    (hspan : ∀ m, clock.Shows m → snowflakeEpoch ≤ m ∧ m < snowflakeEpoch + 2 ^ 41)
    (h : (KeyGenerator.snowflake (new worker clock)).take count = .ok (keys, g)) :
    ∃ ids, keys = ids.map Value.integer ∧ ids.length = count ∧ AreKeys worker clock ids := by
  have hfirst : ∀ m, clock.Shows m → (0 : Int) < m := fun m hm =>
    Int.lt_of_lt_of_le (by decide) (hspan m hm).1
  obtain ⟨stamps, rfl, hlength, hbefore, hstamps⟩ :=
    exists_stamps (s := new worker clock) (P := clock.Shows) (Nat.zero_lt_succ _) (fun _ => id)
      (.inr hfirst) h
  refine ⟨stamps.map (keyOf worker), by rw [List.map_map]; rfl, by rw [List.length_map, hlength],
    areKeys_map_keyOf worker.isLt (List.pairwise_cons.1 hbefore).2 (fun t ht => ?_)
      fun t ht => (hstamps t ht).1⟩
  obtain ⟨hshown, hsequence⟩ := hstamps t ht
  exact ⟨(hspan _ hshown).1, (hspan _ hshown).2, hsequence⟩

/-- **Snowflake keys are unique and increasing under any clock.**  Generators of different workers
each make any number of keys, their clocks showing instants within the span of the keys in any
order.  Then the keys of each generator increase, show its worker and timestamps that never go
back, and no two generators make the same key. -/
theorem keys_differ {ι : Type} {workers : ι → Fin 1024} {clocks : ι → Clock} {counts : ι → Nat}
    {keys : ι → List Value} {after : ι → KeyGenerator} (hworkers : Function.Injective workers)
    (hspan : ∀ i m, (clocks i).Shows m → snowflakeEpoch ≤ m ∧ m < snowflakeEpoch + 2 ^ 41)
    (h : ∀ i, (KeyGenerator.snowflake (new (workers i) (clocks i))).take (counts i) =
      .ok (keys i, after i)) :
    (∀ i, ∃ ids, keys i = ids.map Value.integer ∧ ids.length = counts i ∧
      AreKeys (workers i) (clocks i) ids) ∧
    ∀ i j, i ≠ j → ∀ key ∈ keys i, key ∉ keys j := by
  have hkeys := fun i => exists_areKeys_of_take (hspan i) (h i)
  refine ⟨hkeys, fun i j hne key hi hj => hne (hworkers ?_)⟩
  obtain ⟨ids, heq, -, hids⟩ := hkeys i
  obtain ⟨ids', heq', -, hids'⟩ := hkeys j
  rw [heq] at hi
  rw [heq'] at hj
  obtain ⟨id, hid, rfl⟩ := List.mem_map.1 hi
  obtain ⟨id', hid', hsame⟩ := List.mem_map.1 hj
  obtain rfl := Value.integer.inj hsame
  have hworker := (hids.worker id' hid).symm.trans (hids'.worker id' hid')
  exact Fin.ext (Int.ofNat.inj hworker)

/-- The numbers of two workers. -/
def twoWorkers (b : Bool) : Fin 1024 := if b then 7 else 3

/-- So many microseconds after the epoch. -/
def microsPastEpoch (micros : Int) : Moment := ⟨snowflakeEpoch * 1000000 + micros * 1000⟩

/-- A clock that repeats a millisecond, goes back and jumps ahead, and one that goes back. -/
def twoClocks (b : Bool) : Clock :=
  if b then ⟨[(microsPastEpoch 5999, 1)], microsPastEpoch 0⟩
  else ⟨[(microsPastEpoch 5000, 2), (microsPastEpoch 4001, 1)], microsPastEpoch 9500⟩

/-- Two workers make four keys each, in part at the same milliseconds. -/
theorem keys_differ_of_twoWorkers : ∃ (keys : Bool → List Value) (after : Bool → KeyGenerator),
    (∀ b, (KeyGenerator.snowflake (new (twoWorkers b) (twoClocks b))).take 4 =
      .ok (keys b, after b)) ∧
    (∀ b, ∃ ids, keys b = ids.map Value.integer ∧ ids.length = 4 ∧
      AreKeys (twoWorkers b) (twoClocks b) ids) ∧
    ∀ key ∈ keys false, key ∉ keys true := by
  have hworkers : Function.Injective twoWorkers := by
    have hne : twoWorkers false ≠ twoWorkers true := by decide
    rintro (_ | _) (_ | _) h
    exacts [rfl, absurd h hne, absurd h.symm hne, rfl]
  have hspan : ∀ b m, (twoClocks b).Shows m → snowflakeEpoch ≤ m ∧ m < snowflakeEpoch + 2 ^ 41 := by
    rintro (_ | _) _ ⟨now, rfl | ⟨n, hn⟩, rfl⟩
    · decide
    · simp only [twoClocks, Bool.false_eq_true, if_false, List.mem_cons, Prod.mk.injEq,
        List.not_mem_nil, or_false] at hn
      obtain ⟨rfl, -⟩ | ⟨rfl, -⟩ := hn <;> decide
    · decide
    · simp only [twoClocks, if_true, List.mem_singleton, Prod.mk.injEq] at hn
      obtain ⟨rfl, -⟩ := hn
      decide
  have hreturns : ∀ b, ∃ made, (KeyGenerator.snowflake (new (twoWorkers b) (twoClocks b))).take 4 =
      .ok made := by
    rintro (_ | _)
    exacts [⟨_, rfl⟩, ⟨_, rfl⟩]
  choose made htake using hreturns
  obtain ⟨hkeys, hdiffer⟩ := keys_differ hworkers hspan htake
  exact ⟨fun b => (made b).1, fun b => (made b).2, htake, hkeys,
    hdiffer false true Bool.noConfusion⟩

end Snowflake

end Sharding

end ScatterGather
