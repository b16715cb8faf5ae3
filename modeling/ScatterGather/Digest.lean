import ScatterGather.Power

/-!
# Digest — the SHA-256 hash

`sha256` is the standard hash of a list of bytes, as its eight 32-bit words: the message is padded
to blocks of sixteen words, each block is expanded to a schedule of 64 words and folded into the
running state.
-/

namespace ScatterGather.Digest

/-- The fractional parts of the cube roots of the first 64 primes. -/
def roundConstants : List UInt32 := [
  0x428a2f98, 0x71374491, 0xb5c0fbcf, 0xe9b5dba5, 0x3956c25b, 0x59f111f1, 0x923f82a4, 0xab1c5ed5,
  0xd807aa98, 0x12835b01, 0x243185be, 0x550c7dc3, 0x72be5d74, 0x80deb1fe, 0x9bdc06a7, 0xc19bf174,
  0xe49b69c1, 0xefbe4786, 0x0fc19dc6, 0x240ca1cc, 0x2de92c6f, 0x4a7484aa, 0x5cb0a9dc, 0x76f988da,
  0x983e5152, 0xa831c66d, 0xb00327c8, 0xbf597fc7, 0xc6e00bf3, 0xd5a79147, 0x06ca6351, 0x14292967,
  0x27b70a85, 0x2e1b2138, 0x4d2c6dfc, 0x53380d13, 0x650a7354, 0x766a0abb, 0x81c2c92e, 0x92722c85,
  0xa2bfe8a1, 0xa81a664b, 0xc24b8b70, 0xc76c51a3, 0xd192e819, 0xd6990624, 0xf40e3585, 0x106aa070,
  0x19a4c116, 0x1e376c08, 0x2748774c, 0x34b0bcb5, 0x391c0cb3, 0x4ed8aa4a, 0x5b9cca4f, 0x682e6ff3,
  0x748f82ee, 0x78a5636f, 0x84c87814, 0x8cc70208, 0x90befffa, 0xa4506ceb, 0xbef9a3f7, 0xc67178f2]

/-- The eight words of the running hash. -/
structure State where
  a : UInt32
  b : UInt32
  c : UInt32
  d : UInt32
  e : UInt32
  f : UInt32
  g : UInt32
  h : UInt32
  deriving DecidableEq

/-- The fractional parts of the square roots of the first eight primes. -/
def State.initial : State :=
  ⟨0x6a09e667, 0xbb67ae85, 0x3c6ef372, 0xa54ff53a, 0x510e527f, 0x9b05688c, 0x1f83d9ab, 0x5be0cd19⟩

/-- Rotation to the right by `n` bits, `0 < n < 32`. -/
def rotate (n : UInt32) (x : UInt32) : UInt32 := (x >>> n) ||| (x <<< (32 - n))

/-- One round with its constant and schedule word. -/
def State.round (s : State) (constant word : UInt32) : State :=
  let choice := (s.e &&& s.f) ^^^ (~~~s.e &&& s.g)
  let majority := (s.a &&& s.b) ^^^ (s.a &&& s.c) ^^^ (s.b &&& s.c)
  let mixE := rotate 6 s.e ^^^ rotate 11 s.e ^^^ rotate 25 s.e
  let mixA := rotate 2 s.a ^^^ rotate 13 s.a ^^^ rotate 22 s.a
  let t := s.h + mixE + choice + constant + word
  ⟨t + mixA + majority, s.a, s.b, s.c, s.d + t, s.e, s.f, s.g⟩

/-- Word by word sum of two states. -/
def State.plus (s t : State) : State :=
  ⟨s.a + t.a, s.b + t.b, s.c + t.c, s.d + t.d, s.e + t.e, s.f + t.f, s.g + t.g, s.h + t.h⟩

/-- The schedule from the words so far, last first: `more` further words, each from those 2, 7, 15
and 16 places before it. -/
def expand : Nat → List UInt32 → List UInt32
  | 0, words => words
  | more + 1, words =>
    let at' (i : Nat) : UInt32 := (words[i]?).getD 0
    let low := at' 14
    let high := at' 1
    let mixLow := rotate 7 low ^^^ rotate 18 low ^^^ (low >>> 3)
    let mixHigh := rotate 17 high ^^^ rotate 19 high ^^^ (high >>> 10)
    expand more ((at' 15 + mixLow + at' 6 + mixHigh) :: words)

/-- Folds one block of sixteen words into the state. -/
def State.absorb (s : State) (block : List UInt32) : State :=
  let schedule := (expand 48 block.reverse).reverse
  s.plus ((roundConstants.zip schedule).foldl (fun t cw => t.round cw.1 cw.2) s)

/-- The message followed by a one bit, zeros and its length in bits, in whole blocks. -/
def padMessage (bytes : List UInt8) : List UInt8 :=
  let n := bytes.length
  let zeros := (119 - n % 64) % 64
  let lengthBytes := (List.range 8).map fun i => UInt8.ofNat (8 * n / 256 ^ (7 - i))
  bytes ++ 0x80 :: List.replicate zeros 0 ++ lengthBytes

/-- Four bytes a word, the highest first. -/
def words : List UInt8 → List UInt32
  | a :: b :: c :: d :: rest =>
    UInt32.ofNat (((a.toNat * 256 + b.toNat) * 256 + c.toNat) * 256 + d.toNat) :: words rest
  | _ => []

/-- Folds the words block by block; `fuel` bounds the number of blocks. -/
def absorbAll : Nat → State → List UInt32 → State
  | 0, s, _ => s
  | fuel + 1, s, ws => if ws.isEmpty then s else absorbAll fuel (s.absorb (ws.take 16)) (ws.drop 16)

/-- The hash of a list of bytes. -/
def sha256 (bytes : List UInt8) : State :=
  let ws := words (padMessage bytes)
  absorbAll ws.length State.initial ws

/-- The first eight bytes of the hash as one number, the highest byte first. -/
def lead64 (bytes : List UInt8) : Nat :=
  let s := sha256 bytes
  s.a.toNat * 2 ^ 32 + s.b.toNat

end ScatterGather.Digest
