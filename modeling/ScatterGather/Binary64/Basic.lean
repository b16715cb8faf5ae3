import ScatterGather.Power

/-!
# Binary64/Basic — IEEE 754 double precision numbers as bit patterns

A `Binary64` is its 64 bits.  Every finite magnitude is a whole number of units of 2⁻¹⁰⁷⁴
(`units`), so exact arithmetic happens in `Nat` and `Int`, and `order?` compares by an integer key.
Equality of numbers (`equals`) differs from equality of bits at the zeros and at NaN.
-/

namespace ScatterGather

/-- A double precision number, given by its bits: sign, eleven exponent bits, fraction. -/
structure Binary64 where
  bits : UInt64
  deriving DecidableEq

namespace Binary64

/-- The sign bit. -/
def negative (x : Binary64) : Bool := x.bits.toNat / 2 ^ 63 = 1

/-- The bits below the sign bit: larger bits, larger magnitude. -/
def magnitudeBits (x : Binary64) : Nat := x.bits.toNat % 2 ^ 63

/-- The biased exponent. -/
def exponentField (x : Binary64) : Nat := x.magnitudeBits / 2 ^ 52

/-- The bits of the fraction. -/
def fractionField (x : Binary64) : Nat := x.magnitudeBits % 2 ^ 52

/-- The magnitude bits of infinity; those above them are NaNs. -/
def infinityBits : Nat := 2047 * 2 ^ 52

/-- Not a number. -/
def isNaN (x : Binary64) : Bool := infinityBits < x.magnitudeBits

/-- Plus or minus infinity. -/
def isInfinite (x : Binary64) : Bool := x.magnitudeBits = infinityBits

/-- Neither infinite nor NaN. -/
def isFinite (x : Binary64) : Bool := x.magnitudeBits < infinityBits

/-- Plus or minus zero. -/
def isZero (x : Binary64) : Bool := x.magnitudeBits = 0

/-- The number with a sign and magnitude bits below 2⁶³. -/
def ofSignMagnitude (negative : Bool) (magnitude : Nat) : Binary64 :=
  ⟨UInt64.ofNat ((if negative then 2 ^ 63 else 0) + magnitude % 2 ^ 63)⟩

/-- Zero of either sign. -/
def zero (negative : Bool) : Binary64 := ofSignMagnitude negative 0

/-- Infinity of either sign. -/
def infinity (negative : Bool) : Binary64 := ofSignMagnitude negative infinityBits

/-- The quiet NaN that stands for all of them. -/
def nan : Binary64 := ofSignMagnitude false (infinityBits + 2 ^ 51)

/-- The opposite number. -/
def neg (x : Binary64) : Binary64 := ofSignMagnitude (!x.negative) x.magnitudeBits

/-- The significand of a finite number, hidden bit included. -/
def significand (x : Binary64) : Nat :=
  if x.exponentField = 0 then x.fractionField else 2 ^ 52 + x.fractionField

/-- The power of two that multiplies the significand, counted from 2⁻¹⁰⁷⁴. -/
def exponent (x : Binary64) : Nat := x.exponentField - 1

/-- The magnitude of a finite number in units of 2⁻¹⁰⁷⁴. -/
def units (x : Binary64) : Nat := x.significand * 2 ^ x.exponent

/-- The value of a finite number in units of 2⁻¹⁰⁷⁴. -/
def signedUnits (x : Binary64) : Int := if x.negative then -(x.units : Int) else x.units

/-- An integer that grows with the number; both zeros have the key 0. -/
def key (x : Binary64) : Int := if x.negative then -(x.magnitudeBits : Int) else x.magnitudeBits

/-- The order of two numbers; NaN has none. -/
def order? (x y : Binary64) : Option Ordering :=
  if x.isNaN || y.isNaN then none else some (compare x.key y.key)

/-- Equality of numbers: the zeros are equal, NaN equals nothing. -/
def equals (x y : Binary64) : Bool := x.order? y == some .eq

/-- Strictly below. -/
def below (x y : Binary64) : Bool := x.order? y == some .lt

end Binary64

end ScatterGather
