import ScatterGather.Binary64.Round
import ScatterGather.Text.Numeral

/-!
# Binary64/Text — doubles as decimal text

`shortest` finds the decimal with the fewest digits that reads back as the number, and of those the
nearest; `render` writes it positionally, whatever its size.  `parse?` reads decimal text to the
nearest double.
-/

namespace ScatterGather.Binary64

/-- A decimal number `digits · 10 ^ (power - 400)`. -/
structure DecimalPoint where
  digits : Nat
  power : Nat
  deriving DecidableEq

/-- Half the distance to the neighbours of a positive number, below and above, in quarters of a
unit: the lower neighbour of a power of two is nearer than the upper one. -/
def halfGaps (x : Binary64) : Nat × Nat :=
  let above := 2 * 2 ^ x.exponent
  (if x.fractionField = 0 && 1 < x.exponentField then above / 2 else above, above)

/-- Whether the decimal `n · 10 ^ (power - 400)` rounds to the positive number `x`: it lies between
the midpoints to the neighbours, which themselves count where the significand is even. -/
def readsBack (x : Binary64) (n power : Nat) : Bool :=
  let (below, above) := x.halfGaps
  let candidate := n * 10 ^ power * 2 ^ 1076
  let low := (4 * x.units - below) * 10 ^ 400
  let high := (4 * x.units + above) * 10 ^ 400
  if x.significand % 2 = 0 then low ≤ candidate && candidate ≤ high
  else low < candidate && candidate < high

/-- Of the two neighbours of a positive number on the grid of `10 ^ (power - 400)`, the one that
reads back, the nearer one if both do, the upper one in a tie. -/
def gridPoint? (x : Binary64) (power : Nat) : Option Nat :=
  let scaled := x.units * 10 ^ 400
  let step := 10 ^ power * 2 ^ 1074
  let floor := scaled / step
  let remainder := scaled % step
  let low := readsBack x floor power
  let high := readsBack x (floor + 1) power
  if low && high then some (if 2 * remainder < step then floor else floor + 1)
  else if low then some floor
  else if high then some (floor + 1)
  else none

/-- The first grid that holds a decimal reading back, from coarse to fine. -/
def shortestFrom (x : Binary64) : Nat → DecimalPoint
  | 0 => ⟨x.units * 10 ^ 400 / 2 ^ 1074, 0⟩
  | power + 1 =>
    match gridPoint? x power with
    | some digits => ⟨digits, power⟩
    | none => shortestFrom x power

/-- The number of decimal places of the number above 10⁻⁴⁰⁰. -/
def magnitudePower (x : Binary64) : Nat :=
  (Nat.toDigits 10 (x.units * 10 ^ 400 / 2 ^ 1074)).length

/-- The shortest decimal that reads back as a positive number, and the nearest of its length.  The
search starts one place above the leading digit, where a number just below a power of ten may find
that power. -/
def shortest (x : Binary64) : DecimalPoint := shortestFrom x (x.magnitudePower + 1)

/-- The decimal written positionally: no exponent, no point after a whole number. -/
def DecimalPoint.render (d : DecimalPoint) : String :=
  if 400 ≤ d.power then
    String.ofList (Nat.toDigits 10 d.digits ++ List.replicate (d.power - 400) '0')
  else
    let places := 400 - d.power
    let text := Text.paddedDigits (places + 1) d.digits
    String.ofList (text.take (text.length - places) ++ '.' :: text.drop (text.length - places))

/-- The number as text: shortest digits, always positional. -/
def render (x : Binary64) : String :=
  if x.isNaN then "NaN"
  else (if x.negative then "-" else "") ++
    if x.isInfinite then "inf" else if x.isZero then "0" else x.shortest.render

/-- The double nearest to `digits · 10 ^ exponent`.  Beyond a thousand places from the digits only
zero and infinity are left. -/
def ofDecimal (negative : Bool) (digits : Nat) (exponent : Int) : Binary64 :=
  let places := (Nat.toDigits 10 digits).length
  if digits = 0 then zero negative
  else if 1000 < exponent then infinity negative
  else if exponent < -(1000 + places : Int) then zero negative
  else if 0 ≤ exponent then ofQuotient negative (digits * 10 ^ exponent.toNat) 1
  else ofQuotient negative digits (10 ^ (-exponent).toNat)

/-- The exponent part of a decimal text. -/
def exponentPart? : List Char → Option Int
  | [] => some 0
  | c :: rest => if c = 'e' || c = 'E' then Text.integer? rest else none

/-- A decimal text without a sign: digits with at most one point, then an exponent. -/
def unsigned? (negative : Bool) (cs : List Char) : Option Binary64 :=
  let word := cs.map Char.toLower
  if word = ['n', 'a', 'n'] then some nan
  else if word = ['i', 'n', 'f'] || word = ['i', 'n', 'f', 'i', 'n', 'i', 't', 'y'] then
    some (infinity negative)
  else
    let whole := cs.takeWhile Char.isDigit
    let rest := cs.dropWhile Char.isDigit
    let (fraction, rest) := match rest with
      | '.' :: more => (more.takeWhile Char.isDigit, more.dropWhile Char.isDigit)
      | _ => ([], rest)
    (Text.natural? (whole ++ fraction)).bind fun digits =>
      (exponentPart? rest).map fun exponent =>
        ofDecimal negative digits (exponent - fraction.length)

/-- The double that a decimal text denotes; infinity and NaN have names in any case. -/
def parse? (s : String) : Option Binary64 :=
  match s.toList with
  | '-' :: rest => unsigned? true rest
  | '+' :: rest => unsigned? false rest
  | cs => unsigned? false cs

end ScatterGather.Binary64
