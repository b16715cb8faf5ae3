import ScatterGather.Binary64.Round

/-!
# RandomSource — a stream of random words

A `RandomSource` is the state of a generator of 64-bit words.  The seed comes from outside; all
draws are functions of the state.
-/

namespace ScatterGather

/-- The state of a generator of random words. -/
structure RandomSource where
  state : UInt64
  deriving DecidableEq

namespace RandomSource

/-- The next word: the state moves by a fixed odd step and is mixed. -/
def next (r : RandomSource) : UInt64 × RandomSource :=
  let state := r.state + 0x9e3779b97f4a7c15
  let mixed := (state ^^^ (state >>> 30)) * 0xbf58476d1ce4e5b9
  let mixed := (mixed ^^^ (mixed >>> 27)) * 0x94d049bb133111eb
  (mixed ^^^ (mixed >>> 31), ⟨state⟩)

/-- A number below `bound`, which is positive. -/
def below (r : RandomSource) (bound : Nat) : Nat × RandomSource :=
  (r.next.1.toNat % bound, r.next.2)

/-- A number from zero up to but not including one, on the grid of 53 bits. -/
def unit (r : RandomSource) : Binary64 × RandomSource :=
  (Binary64.ofQuotient false (r.next.1.toNat / 2 ^ 11) (2 ^ 53), r.next.2)

/-- A random 128-bit identifier of version 4. -/
def uuid (r : RandomSource) : BitVec 128 × RandomSource :=
  let (high, r) := r.next
  let (low, r) := r.next
  let high := (high &&& 0xffffffffffff0fff) ||| 0x4000
  let low := (low &&& 0x3fffffffffffffff) ||| 0x8000000000000000
  (BitVec.ofNat 128 (high.toNat * 2 ^ 64 + low.toNat), r)

end RandomSource

end ScatterGather
