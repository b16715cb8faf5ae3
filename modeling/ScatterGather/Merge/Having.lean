import ScatterGather.Merge.Pattern
import ScatterGather.Merge.SortKey

/-!
# Merge/Having — groups that stay

A node has seen only its part of a group, so HAVING is decided again on the merged rows.  A
comparison with NULL does not hold; there is no third truth value.
-/

namespace ScatterGather

/-- A HAVING clause with what it needs to be decided. -/
structure Having where
  condition : Condition
  labels : List String
  parameters : List Value
  deriving DecidableEq

namespace Having

/-- The cell of a column, `value` being the cells of the row. -/
def cell (h : Having) (value : Nat → Except Error Value) (label : String) : Except Error Value :=
  match labelIndex? h.labels label with
  | some index => value index
  | none => .error (.columnNotFound (.label label))

/-- The value of an operand, which has to have one. -/
def operand (h : Having) (e : Expression) : Except Error Value := do
  match ← e.resolve h.parameters with
  | some v => return v
  | none => throw (.unsupported (.havingOperand e))

/-- Whether a comparison of a column holds. -/
def comparison (h : Having) (value : Nat → Except Error Value) (op : Comparison) (column : String)
    (e : Expression) : Except Error Bool := do
  let v ← h.cell value column
  let w ← h.operand e
  if v.isNull || w.isNull then return false
  match v.order? w with
  | some o => return op.holds o
  | none => throw (.notComparable (.operands v w))

/-- Whether one of the operands equals a value; those after it are not looked at. -/
def isAmong (h : Having) (v : Value) : List Expression → Except Error Bool
  | [] => .ok false
  | e :: rest => do
    let w ← h.operand e
    if v.order? w = some .eq then return true else h.isAmong v rest

/-- Whether a predicate holds of a row. -/
def predicate (h : Having) (value : Nat → Except Error Value) : Predicate → Except Error Bool
  | .compare op column e => h.comparison value op column e
  | .between column low high => do
    if ← h.comparison value .greaterOrEqual column low then
      h.comparison value .lessOrEqual column high
    else return false
  | .like column pattern => do
    match ← h.cell value column with
    | .text t | .char t => return likeMatches t pattern
    | .null => return false
    | v => throw (.notComparable (.patternOnNonText v))
  | .among column operands => do
    let v ← h.cell value column
    if v.isNull then return false else h.isAmong v operands
  | .isNull column => return (← h.cell value column).isNull
  | .isNotNull column => return !(← h.cell value column).isNull

/-- Whether a condition holds of a row; the right side is decided only where the left leaves it
open. -/
def decide (h : Having) (value : Nat → Except Error Value) : Condition → Except Error Bool
  | .test p => h.predicate value p
  | .and left right => do
    if ← h.decide value left then h.decide value right else return false
  | .or left right => do
    if ← h.decide value left then return true else h.decide value right

/-- Whether a row stays. -/
def keeps (h : Having) (value : Nat → Except Error Value) : Except Error Bool :=
  h.decide value h.condition

end Having

end ScatterGather
