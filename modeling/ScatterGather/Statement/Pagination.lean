import ScatterGather.Error

/-!
# Statement/Pagination — windows of rows

A window has an offset and a row count, each a literal or a parameter.  A row-number predicate
bounds it inclusively or exclusively; `offsetRows` and `rowLimit` are the numbers that count.
-/

namespace ScatterGather

/-- How a number bounds the window. -/
inductive BoundKind where
  /-- LIMIT, OFFSET, TOP. -/
  | exact
  /-- Row numbers above or below the number. -/
  | exclusive
  /-- Row numbers from or up to the number. -/
  | inclusive
  deriving DecidableEq

/-- Where a number of the window comes from. -/
inductive PageNumber where
  | literal (n : Nat)
  | parameter (index : Nat)
  deriving DecidableEq

/-- One number of the window, its meaning and, for a literal, its bytes in the SQL text. -/
structure PageSegment where
  number : PageNumber
  bound : BoundKind
  position : Option (Nat × Nat)
  deriving DecidableEq

/-- The number that a segment denotes under the bound parameters. -/
def PageSegment.resolve (s : PageSegment) (parameters : List Value) : Except Error Nat :=
  match s.number with
  | .literal n => .ok n
  | .parameter index =>
    match parameters[index]? with
    | none => .error (.parameterOutOfRange index)
    | some v =>
      match v.int? with
      | some n =>
        if 0 ≤ n.toInt then .ok n.toInt.toNat
        else .error (.invalidExpression (.paginationParameter index v))
      | none => .error (.invalidExpression (.paginationParameter index v))

/-- A window of rows. -/
structure Pagination where
  offset : Option PageSegment
  rowCount : Option PageSegment
  deriving DecidableEq

namespace Pagination

/-- Whether the window limits anything. -/
def isPresent (p : Pagination) : Bool := p.offset.isSome || p.rowCount.isSome

/-- The number of rows to skip: one less than the first row number to keep. -/
def offsetRows (p : Pagination) (parameters : List Value) : Except Error Nat :=
  match p.offset with
  | none => .ok 0
  | some s => do
    let n ← s.resolve parameters
    return if s.bound = .inclusive then n - 1 else n

/-- The row count, or the greatest row number to keep. -/
def rowLimit (p : Pagination) (parameters : List Value) : Except Error (Option Nat) :=
  match p.rowCount with
  | none => .ok none
  | some s => do
    let n ← s.resolve parameters
    return some (if s.bound = .exclusive then n - 1 else n)

end Pagination

end ScatterGather
