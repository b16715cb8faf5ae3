import ScatterGather.Text.Numeral

/-!
# Decimal/Basic — scaled decimal numbers of 96 bits

A `Decimal` is a sign, a coefficient below 2⁹⁶ and a scale of at most 28: the number
`± coefficient / 10 ^ scale`.  The scale is kept, so `1.0` and `1.00` are written differently, but
they are the same number: `order` compares values and `normalize` is the form all equal decimals
share.
-/

namespace ScatterGather

/-- The number `± coefficient / 10 ^ scale`. -/
structure Decimal where
  negative : Bool
  coefficient : Nat
  scale : Nat
  coefficient_lt : coefficient < 2 ^ 96
  scale_le : scale ≤ 28
  deriving DecidableEq

namespace Decimal

/-- The coefficients that fit: those below this bound. -/
def bound : Nat := 2 ^ 96

/-- The decimal of these parts, zero keeping its sign; nothing when a part does not fit. -/
def ofParts? (negative : Bool) (coefficient scale : Nat) : Option Decimal :=
  if h : coefficient < 2 ^ 96 ∧ scale ≤ 28 then
    some ⟨negative, coefficient, scale, h.1, h.2⟩
  else none

/-- The decimal of these parts, zero without a sign; nothing when a part does not fit. -/
def make? (negative : Bool) (coefficient scale : Nat) : Option Decimal :=
  ofParts? (negative && coefficient ≠ 0) coefficient scale

/-- Zero without places. -/
def zero : Decimal := ⟨false, 0, 0, by decide, by decide⟩

instance : Inhabited Decimal := ⟨zero⟩

/-- Whether the number is zero, whatever its sign and scale. -/
def isZero (d : Decimal) : Bool := d.coefficient = 0

/-- The coefficient with the sign. -/
def signedCoefficient (d : Decimal) : Int :=
  if d.negative then -(d.coefficient : Int) else d.coefficient

/-- The coefficient the number would have at the greatest scale. -/
def atMaxScale (d : Decimal) : Int := d.signedCoefficient * 10 ^ (28 - d.scale)

/-- The order of the numbers, scales aside. -/
def order (a b : Decimal) : Ordering := compare a.atMaxScale b.atMaxScale

/-- Equality of the numbers, scales aside. -/
def equals (a b : Decimal) : Bool := a.order b == .eq

/-- Drops trailing zeros of the places, at most `scale` of them. -/
def stripZeros (coefficient : Nat) : Nat → Nat × Nat
  | 0 => (coefficient, 0)
  | scale + 1 =>
    if coefficient % 10 = 0 then stripZeros (coefficient / 10) scale else (coefficient, scale + 1)

theorem stripZeros_le (coefficient scale : Nat) :
    (stripZeros coefficient scale).1 ≤ coefficient ∧ (stripZeros coefficient scale).2 ≤ scale := by
  induction scale generalizing coefficient with
  | zero => simp [stripZeros]
  | succ scale ih =>
    rw [stripZeros]
    split
    · have := ih (coefficient / 10)
      have := Nat.div_le_self coefficient 10
      omega
    · simp

/-- The same number without trailing zeros; zero has neither sign nor places. -/
def normalize (d : Decimal) : Decimal :=
  if d.coefficient = 0 then zero
  else
    ⟨d.negative, (stripZeros d.coefficient d.scale).1, (stripZeros d.coefficient d.scale).2,
      Nat.lt_of_le_of_lt (stripZeros_le _ _).1 d.coefficient_lt,
      Nat.le_trans (stripZeros_le _ _).2 d.scale_le⟩

/-- The decimal of a 64-bit integer. -/
def ofInt64 (n : Int64) : Decimal :=
  (make? (n.toInt < 0) n.toInt.natAbs 0).getD zero

/-- The decimal of a natural number below 2⁹⁶. -/
def ofNat? (n : Nat) : Option Decimal := make? false n 0

/-- All digits, a point before the last `scale` of them. -/
def render (d : Decimal) : String :=
  let digits := Text.paddedDigits (d.scale + 1) d.coefficient
  let whole := digits.take (digits.length - d.scale)
  let places := digits.drop (digits.length - d.scale)
  String.ofList ((if d.negative then ['-'] else []) ++ whole ++
    if d.scale = 0 then [] else '.' :: places)

/-- The decimal that a text of digits with an optional sign and point denotes; as many places as the
text has. -/
def parse? (s : String) : Option Decimal :=
  let (negative, cs) := match s.toList with
    | '-' :: rest => (true, rest)
    | '+' :: rest => (false, rest)
    | cs => (false, cs)
  let whole := cs.takeWhile (· ≠ '.')
  let places := (cs.dropWhile (· ≠ '.')).drop 1
  (Text.natural? (whole ++ places)).bind fun n => make? negative n places.length

end Decimal

end ScatterGather
