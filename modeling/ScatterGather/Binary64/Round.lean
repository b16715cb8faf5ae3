import ScatterGather.Binary64.Basic

/-!
# Binary64/Round — the nearest double to an exact quotient

`ofQuotient` rounds a quotient of natural numbers to the nearest double, a tie to the even
significand.  All arithmetic is exact arithmetic followed by this one rounding.
-/

namespace ScatterGather.Binary64

/-- The quotient rounded to the nearest natural number, a tie to the even one. -/
def divideEven (n d : Nat) : Nat :=
  let q := n / d
  let twice := 2 * (n % d)
  if d < twice || (twice == d && q % 2 == 1) then q + 1 else q

/-- The double nearest to `n / d` units of 2⁻¹⁰⁷⁴.  The significand has 53 bits where the number
is normal; a carry out of it lands in the exponent field, which is the value it should have. -/
def ofUnits (negative : Bool) (n d : Nat) : Binary64 :=
  let exponent := Nat.log2 (n / d) - 52
  let magnitude := exponent * 2 ^ 52 + divideEven n (d * 2 ^ exponent)
  if infinityBits ≤ magnitude then infinity negative else ofSignMagnitude negative magnitude

/-- The double nearest to `n / d`. -/
def ofQuotient (negative : Bool) (n d : Nat) : Binary64 := ofUnits negative (n * 2 ^ 1074) d

/-- The double nearest to a natural number. -/
def ofNat (n : Nat) : Binary64 := ofQuotient false n 1

/-- The double nearest to an integer. -/
def ofInt (n : Int) : Binary64 := ofQuotient (n < 0) n.natAbs 1

/-- The sum, rounded once; an exact zero is negative only when both terms are. -/
def add (x y : Binary64) : Binary64 :=
  if x.isNaN || y.isNaN then nan
  else if x.isInfinite then if y.isInfinite && x.negative != y.negative then nan else x
  else if y.isInfinite then y
  else
    let sum := x.signedUnits + y.signedUnits
    if sum = 0 then zero (x.negative && y.negative) else ofUnits (sum < 0) sum.natAbs 1

/-- The product, rounded once. -/
def mul (x y : Binary64) : Binary64 :=
  let negative := x.negative != y.negative
  if x.isNaN || y.isNaN then nan
  else if x.isInfinite || y.isInfinite then
    if x.isZero || y.isZero then nan else infinity negative
  else ofUnits negative (x.units * y.units) (2 ^ 1074)

/-- The quotient, rounded once. -/
def div (x y : Binary64) : Binary64 :=
  let negative := x.negative != y.negative
  if x.isNaN || y.isNaN then nan
  else if x.isInfinite then if y.isInfinite then nan else infinity negative
  else if y.isInfinite then zero negative
  else if y.isZero then if x.isZero then nan else infinity negative
  else ofUnits negative (x.units * 2 ^ 1074) y.units

/-- The nearest whole number, a half away from zero. -/
def roundHalfUp (x : Binary64) : Binary64 :=
  if x.isFinite then ofQuotient x.negative ((x.units + 2 ^ 1073) / 2 ^ 1074) 1 else x

/-- Repeated squaring: `acc` times `base` to the power `n`, `fuel` bounding the bits of `n`. -/
def powFrom : Nat → Binary64 → Binary64 → Nat → Binary64
  | 0, acc, _, _ => acc
  | fuel + 1, acc, base, n =>
    let acc := if n % 2 = 1 then acc.mul base else acc
    if n / 2 = 0 then acc else powFrom fuel acc (base.mul base) (n / 2)

/-- A power with a natural exponent, each multiplication rounded. -/
def pow (base : Binary64) (n : Nat) : Binary64 := powFrom (Nat.log2 n + 1) (ofNat 1) base n

end ScatterGather.Binary64
