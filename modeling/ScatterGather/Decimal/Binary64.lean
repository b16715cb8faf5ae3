import ScatterGather.Binary64.Round
import ScatterGather.Decimal.Basic

/-!
# Decimal/Binary64 — decimals of doubles and doubles of decimals

A double of 2⁵² or more is a whole number, which `ofBinary64?` keeps as it is if it fits.  Of a
smaller one it keeps the digits a double guarantees: it turns the power of two into a power of ten
inside 96 bits, then rounds to fewer than 53 bits and drops trailing zeros.  `toBinary64` converts
whole part and places apart and mends the sum by rounding it at the last place.
-/

namespace ScatterGather.Decimal

/-- A number `m / 10 ^ places` whose halvings are still to be worked in. -/
structure Rebasing where
  m : Nat
  places : Nat
  deriving DecidableEq

/-- Works in `n` halvings: an odd number is multiplied by five and moved one place, as long as that
fits; otherwise its last bit is lost. -/
def Rebasing.halve : Nat → Rebasing → Rebasing
  | 0, r => r
  | n + 1, r =>
    if r.m % 2 = 1 && r.m * 5 < 2 ^ 96 then halve n ⟨r.m * 5, r.places + 1⟩
    else halve n ⟨r.m / 2, r.places⟩

/-- One place dropped, a half rounded up. -/
def dropHalfUp (m : Nat) : Nat := m / 10 + if 5 ≤ m % 10 then 1 else 0

/-- Drops `n` places beyond the greatest scale; a number that vanishes stays zero. -/
def lowerPlaces (m : Nat) : Nat → Nat
  | 0 => m
  | n + 1 => if m / 10 = 0 then 0 else lowerPlaces (dropHalfUp m) n

/-- Drops places, `scale` at most, until fewer than 53 bits are left. -/
def trimPrecision (m : Nat) : Nat → Nat × Nat
  | 0 => (m, 0)
  | scale + 1 => if 2 ^ 52 ≤ m then trimPrecision (dropHalfUp m) scale else (m, scale + 1)

/-- The decimal of a finite double, to the digits that the double guarantees; nothing when its whole
part does not fit.  The sign of zero is kept. -/
def ofBinary64? (x : Binary64) : Option Decimal :=
  if !x.isFinite then none
  else
    let power : Int := (x.exponent : Int) - 1074
    if 0 ≤ power then ofParts? x.negative (x.significand * 2 ^ power.toNat) 0
    else
      let r := Rebasing.halve (-power).toNat ⟨x.significand, 0⟩
      let m := lowerPlaces r.m (r.places - 28)
      let places := if m = 0 then 0 else min r.places 28
      let (m, scale) := trimPrecision m places
      let (m, scale) := stripZeros m scale
      ofParts? x.negative m scale

/-- The double of a decimal: nearest for a whole number; otherwise whole part plus fraction, mended
by rounding at the last place. -/
def toBinary64 (d : Decimal) : Binary64 :=
  let unit := 10 ^ d.scale
  let whole := Binary64.ofNat (d.coefficient / unit)
  let fraction := (Binary64.ofNat (d.coefficient % unit)).div (Binary64.ofNat unit)
  let magnitude :=
    if d.coefficient % unit = 0 then whole
    else
      let shift := (Binary64.ofNat 10).pow d.scale
      (((whole.add fraction).mul shift).roundHalfUp).div shift
  if d.negative then magnitude.neg else magnitude

end ScatterGather.Decimal
