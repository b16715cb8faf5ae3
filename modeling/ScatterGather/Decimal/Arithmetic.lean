import ScatterGather.Decimal.Basic

/-!
# Decimal/Arithmetic — sums, quotients and rounding

`fit?` brings an exact number into 96 bits by dropping as few places as needed, rounding half to
even; `add?` is the exact sum brought to fit.  `div?` develops the quotient nine places at a time
until it is exact or no further place fits, then rounds half to even.  `roundPlaces` rounds half
away from zero.
-/

namespace ScatterGather.Decimal

/-- Division by a power of ten, rounded half to even. -/
def dropPlaces (n places : Nat) : Nat :=
  let d := 10 ^ places
  let q := n / d
  let twice := 2 * (n % d)
  if d < twice || (twice == d && q % 2 == 1) then q + 1 else q

/-- The least number of places, from `places` on, whose removal leaves less than 2⁹⁶. -/
def excessPlaces (n : Nat) : Nat → Nat → Option Nat
  | 0, places => if n / 10 ^ places < 2 ^ 96 then some places else none
  | more + 1, places =>
    if n / 10 ^ places < 2 ^ 96 then some places else excessPlaces n more (places + 1)

/-- The number `n / 10 ^ scale` with as many of its places as fit; a carry past the last bit costs
one place more. -/
def fit? (negative : Bool) (n scale : Nat) : Option Decimal :=
  (excessPlaces n scale 0).bind fun places =>
    let rounded := dropPlaces n places
    if rounded < 2 ^ 96 then make? negative rounded (scale - places)
    else if scale = places then none
    else make? negative (dropPlaces rounded 1) (scale - places - 1)

/-- The sum at the greater of the two scales, in as many places as fit; nothing when the whole part
does not fit.  Adding zero leaves the other number as it is. -/
def add? (a b : Decimal) : Option Decimal :=
  if a.isZero then some b
  else if b.isZero then some a
  else
    let scale := max a.scale b.scale
    let sum := a.signedCoefficient * 10 ^ (scale - a.scale) +
      b.signedCoefficient * 10 ^ (scale - b.scale)
    fit? (sum < 0) sum.natAbs scale

/-- The greatest power of ten, `limit` at most, that keeps `q` below 2⁹⁶. -/
def headroom (q : Nat) : Nat → Nat
  | 0 => 0
  | limit + 1 => if q * 10 ^ (limit + 1) < 2 ^ 96 then limit + 1 else headroom q limit

/-- A quotient being developed: `(quotient + remainder / divisor) / 10 ^ scale`. -/
structure Quotient where
  quotient : Nat
  remainder : Nat
  scale : Int

/-- One place removed, half to even, anything below the remainder counting as more than a half. -/
def Quotient.dropLast (q : Quotient) : Quotient :=
  let r := q.quotient % 10
  let up := 5 < r || (r == 5 && (q.remainder != 0 || q.quotient / 10 % 2 == 1))
  ⟨q.quotient / 10 + if up then 1 else 0, 0, q.scale - 1⟩

/-- The quotient rounded half to even at its last place. -/
def Quotient.round (divisor : Nat) (q : Quotient) : Option Quotient :=
  let twice := 2 * q.remainder
  let up := divisor < twice || (twice == divisor && q.quotient % 2 == 1)
  let rounded : Quotient := ⟨q.quotient + (if up then 1 else 0), 0, q.scale⟩
  if rounded.quotient < 2 ^ 96 then some rounded
  else if rounded.scale < 1 then none
  else some { rounded with remainder := 1 }.dropLast

/-- Develops the quotient further: while something remains and places are left, up to nine at a
time; a negative scale is always worked off.  Each round adds a place, so the greatest distance
between two scales bounds the rounds. -/
def Quotient.develop (divisor : Nat) : Nat → Quotient → Option Quotient
  | 0, q => some q
  | rounds + 1, q =>
    if q.remainder = 0 && 0 ≤ q.scale then some q
    else
      let free := headroom q.quotient (min 9 (28 - q.scale).toNat)
      let power := if q.remainder = 0 then min 9 (-q.scale).toNat else free
      if q.remainder ≠ 0 && power = 0 then
        if q.scale < 0 then none else q.round divisor
      else if q.remainder ≠ 0 && q.scale + power < 0 && free < 9 then none
      else
        let scaled := q.remainder * 10 ^ power
        let grown := q.quotient * 10 ^ power
        let next : Quotient := ⟨grown + scaled / divisor, scaled % divisor, q.scale + power⟩
        if 2 ^ 96 ≤ grown then none
        else if 2 ^ 96 ≤ next.quotient then if next.scale < 1 then none else some next.dropLast
        else next.develop divisor rounds

/-- Divides a coefficient by ten to the `places` if that is exact. -/
def unscaleBy (places : Nat) (q : Nat × Nat) : Nat × Nat :=
  if places ≤ q.2 && q.1 % 10 ^ places = 0 then (q.1 / 10 ^ places, q.2 - places) else q

/-- Takes eight places at a time while the lowest 32 bits are zero. -/
def unscaleEights : Nat → Nat × Nat → Nat × Nat
  | 0, q => q
  | fuel + 1, q =>
    if q.1 % 2 ^ 32 = 0 && 8 ≤ q.2 && q.1 % 10 ^ 8 = 0 then
      unscaleEights fuel (q.1 / 10 ^ 8, q.2 - 8)
    else q

/-- Removes trailing zeros of an inexact development: eight, four, two and one at a time, each only
where the low bits show a matching power of two. -/
def unscale (coefficient scale : Nat) : Nat × Nat :=
  let q := unscaleEights 4 (coefficient, scale)
  let q := if q.1 % 16 = 0 then unscaleBy 4 q else q
  let q := if q.1 % 4 = 0 then unscaleBy 2 q else q
  if q.1 % 2 = 0 then unscaleBy 1 q else q

/-- The quotient: exact where its development ends, otherwise rounded at the last place that fits;
nothing when the divisor is zero or the whole part does not fit. -/
def div? (a b : Decimal) : Option Decimal :=
  if b.isZero then none
  else if a.isZero then some zero
  else
    let scale : Int := (a.scale : Int) - b.scale
    let start : Quotient := ⟨a.coefficient / b.coefficient, a.coefficient % b.coefficient, scale⟩
    (start.develop b.coefficient 60).bind fun q =>
      let (coefficient, scale) :=
        if start.remainder = 0 then (q.quotient, q.scale.toNat)
        else unscale q.quotient q.scale.toNat
      make? (a.negative != b.negative) coefficient scale

/-- The number rounded to at most `places` places, a half away from zero. -/
def roundPlaces (places : Nat) (d : Decimal) : Decimal :=
  if d.scale ≤ places then d
  else
    let step := 10 ^ (d.scale - places)
    let q := d.coefficient / step
    let rounded := if step ≤ 2 * (d.coefficient % step) then q + 1 else q
    (make? d.negative rounded places).getD d

end ScatterGather.Decimal
