import ScatterGather.Decimal.Arithmetic
import ScatterGather.Error

/-!
# Value/Sum — adding cells

Integers add exactly, growing into decimals where 64 bits end; a double makes the sum a double;
other numbers add as decimals.
-/

namespace ScatterGather.Value

/-- The sum of two integers: a 64-bit integer, or a decimal beyond that. -/
def sumIntegers (x y : Int64) : Value :=
  let sum := x.toInt + y.toInt
  match Text.toInt64? sum with
  | some n => integer n
  | none => numeric ((Decimal.make? (sum < 0) sum.natAbs 0).getD .zero)

/-- The sum of two decimals, in as many places as fit. -/
def sumDecimals (a b : Value) : Except Error Value :=
  match a.decimal?, b.decimal? with
  | some x, some y =>
    match x.add? y with
    | some d => .ok (numeric d)
    | none => .error (.notComparable (.sumOverflow a b))
  | _, _ => .error (.notComparable (.notAddable a b))

/-- The sum of two numbers. -/
def add (a b : Value) : Except Error Value :=
  match a.int?, b.int? with
  | some x, some y => .ok (sumIntegers x y)
  | _, _ =>
    if a.isReal || b.isReal then
      match a.binary64?, b.binary64? with
      | some x, some y => .ok (real (x.add y))
      | _, _ => sumDecimals a b
    else sumDecimals a b

end ScatterGather.Value
