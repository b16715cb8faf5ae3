import ScatterGather.Text.Case

/-!
# Statement/OrderItem — the items of ORDER BY and GROUP BY

An item names a column by label or by its position, counted from one.
-/

namespace ScatterGather

/-- Ascending or descending. -/
inductive Direction where
  | asc
  | desc
  deriving DecidableEq

/-- Where NULLs stand before the direction is applied. -/
inductive NullsOrder where
  | low
  | high
  deriving DecidableEq

/-- The column an item names. -/
inductive OrderTarget where
  | label (name : String)
  | position (number : Nat)
  deriving DecidableEq

/-- One item of ORDER BY or GROUP BY. -/
structure OrderItem where
  target : OrderTarget
  direction : Direction
  nulls : NullsOrder
  /-- The column's place counted from zero, where it is already known. -/
  index : Option Nat
  deriving DecidableEq

/-- Whether two items name the same column, labels up to the case of ASCII letters. -/
def OrderTarget.same : OrderTarget → OrderTarget → Bool
  | label a, label b => Text.sameName a b
  | a, b => a == b

namespace OrderItem

/-- The item that names a column by its position, ascending, NULLs low. -/
def ofPosition (number : Nat) : OrderItem := ⟨.position number, .asc, .low, none⟩

/-- Whether two items order rows alike, their places aside. -/
def same (a b : OrderItem) : Bool :=
  a.target.same b.target && a.direction == b.direction && a.nulls == b.nulls

/-- Whether two lists order rows alike, item by item, and are not empty. -/
def sameAll (as bs : List OrderItem) : Bool :=
  !as.isEmpty && as.length == bs.length && (as.zip bs).all fun p => p.1.same p.2

end OrderItem

end ScatterGather
