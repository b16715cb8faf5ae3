import ScatterGather.Power
import ScatterGather.Text.Blank

/-!
# Text/Numeral — whole numbers in decimal digits

A numeral is one or more ASCII digits with an optional sign; `natural?` and `integer?` read one
that fills the whole text, `int64?` and `word?` also check the width.
-/

namespace ScatterGather.Text

/-- The value of one decimal digit. -/
def digit? (c : Char) : Option Nat := if c.isDigit then some (c.toNat - 48) else none

/-- The number whose digits follow those of `value`. -/
def naturalFrom? (value : Nat) : List Char → Option Nat
  | [] => some value
  | c :: rest => (digit? c).bind fun d => naturalFrom? (10 * value + d) rest

/-- A natural number: digits only, at least one. -/
def natural? (cs : List Char) : Option Nat := if cs.isEmpty then none else naturalFrom? 0 cs

/-- An integer: digits after an optional plus or minus sign. -/
def integer? : List Char → Option Int
  | '-' :: rest => (natural? rest).map fun n => -(n : Int)
  | '+' :: rest => (natural? rest).map fun n => (n : Int)
  | cs => (natural? cs).map fun n => (n : Int)

/-- The 64-bit integer equal to `n`, if there is one. -/
def toInt64? (n : Int) : Option Int64 :=
  if -2 ^ 63 ≤ n ∧ n < 2 ^ 63 then some (Int64.ofInt n) else none

/-- A numeral within the signed 64-bit range. -/
def int64? (cs : List Char) : Option Int64 := (integer? cs).bind toInt64?

/-- A numeral within the unsigned 64-bit range; a minus sign is refused even before zero. -/
def word? : List Char → Option Nat
  | '+' :: rest => (natural? rest).filter (· < 2 ^ 64)
  | cs => (natural? cs).filter (· < 2 ^ 64)

/-- The number in decimal digits. -/
def ofNat (n : Nat) : String := String.ofList (Nat.toDigits 10 n)

/-- The integer in decimal digits, a minus sign before a negative one. -/
def ofInt (n : Int) : String := if n < 0 then "-" ++ ofNat n.natAbs else ofNat n.natAbs

/-- The last `width` digits of a number, with leading zeros. -/
def paddedDigits (width n : Nat) : List Char :=
  let digits := Nat.toDigits 10 n
  List.replicate (width - digits.length) '0' ++ digits

/-- A number with leading zeros up to a least width. -/
def padded (width n : Nat) : String := String.ofList (paddedDigits width n)

end ScatterGather.Text
