import ScatterGather.Text.Numeral
import ScatterGather.Value.Order

/-!
# ValueRange — intervals of values

A `ValueRange` has a bound at either end, or none.  `contains` is membership; `intersect` keeps the
tighter bound at each end; `integerBounds?` are the least and the greatest integer of a range that
integers bound at both ends.
-/

namespace ScatterGather

/-- One end of a range. -/
structure Bound where
  value : Value
  inclusive : Bool
  deriving DecidableEq

/-- The values above `lower` and below `upper`; a missing end is unbounded. -/
structure ValueRange where
  lower : Option Bound
  upper : Option Bound
  deriving DecidableEq

/-- Whether a value lies on the side `side` of the bound, or on the bound if that belongs to the
range. -/
def Bound.admits (b : Bound) (side : Ordering) (v : Value) : Bool :=
  match v.order? b.value with
  | some .eq => b.inclusive
  | some o => o == side
  | none => false

/-- Of two bounds the one further towards `prefer`; where they have the same value it belongs to
the range only if it does for both. -/
def Bound.tighter (prefer : Ordering) (a b : Bound) : Bound :=
  match a.value.order? b.value with
  | some .eq => ⟨a.value, a.inclusive && b.inclusive⟩
  | some o => if o == prefer then a else b
  | none => b

namespace ValueRange

/-- From `low` to `high`, both included. -/
def closed (low high : Value) : ValueRange := ⟨some ⟨low, true⟩, some ⟨high, true⟩⟩

/-- From `low` on. -/
def atLeast (low : Value) (inclusive : Bool) : ValueRange := ⟨some ⟨low, inclusive⟩, none⟩

/-- Up to `high`. -/
def atMost (high : Value) (inclusive : Bool) : ValueRange := ⟨none, some ⟨high, inclusive⟩⟩

/-- Whether a value lies in the range. -/
def contains (r : ValueRange) (v : Value) : Bool :=
  r.lower.all (·.admits .gt v) && r.upper.all (·.admits .lt v)

/-- The tighter of two optional bounds. -/
def tighter? (prefer : Ordering) : Option Bound → Option Bound → Option Bound
  | none, b => b
  | a, none => a
  | some a, some b => some (a.tighter prefer b)

/-- The range with the tighter bound of both at each end. -/
def intersect (r s : ValueRange) : ValueRange :=
  ⟨tighter? .gt r.lower s.lower, tighter? .lt r.upper s.upper⟩

/-- The least and the greatest 64-bit integer of a range bounded by integers; nothing where a bound
that is not included has no neighbour. -/
def integerBounds? (r : ValueRange) : Option (Int64 × Int64) :=
  r.lower.bind fun lower => r.upper.bind fun upper =>
    lower.value.int?.bind fun a =>
      (Text.toInt64? (a.toInt + if lower.inclusive then 0 else 1)).bind fun low =>
        upper.value.int?.bind fun b =>
          (Text.toInt64? (b.toInt - if upper.inclusive then 0 else 1)).map fun high => (low, high)

end ValueRange

end ScatterGather
