import ScatterGather.Schema
import ScatterGather.Statement.Condition
import ScatterGather.Statement.OrderItem
import ScatterGather.Value.Order

/-!
# Merge/SortKey — the order of merged rows

A `SortKey` is an item of ORDER BY or GROUP BY bound to a column.  `compareRows` is the order of
rows under a list of keys, and `groupKey` the cells that rows of one group have in common.  A cell
beyond the end of a row counts as NULL.
-/

namespace ScatterGather

/-- The cells of a row. -/
abbrev Row := List Value

/-- The cell of a row at a position; NULL beyond its end. -/
def cellAt (row : Row) (index : Nat) : Value := row.getD index .null

/-- A column to sort or group by. -/
structure SortKey where
  index : Nat
  direction : Direction
  nulls : NullsOrder
  caseSensitive : Bool
  deriving DecidableEq

namespace SortKey

/-- Whether NULLs come before other cells: low ones ascending, high ones descending. -/
def nullsFirst (k : SortKey) : Bool :=
  match k.nulls, k.direction with
  | .low, .asc | .high, .desc => true
  | .low, .desc | .high, .asc => false

/-- The order of two cells that are not NULL; cells without an order are taken as equal. -/
def compareCells (k : SortKey) (a b : Value) : Ordering :=
  let ordering := ((if k.caseSensitive then a.order? b else a.orderFolded? b)).getD .eq
  match k.direction with
  | .asc => ordering
  | .desc => ordering.swap

/-- The order of two cells. -/
def compare (k : SortKey) (a b : Value) : Ordering :=
  match a.isNull, b.isNull with
  | true, true => .eq
  | true, false => if k.nullsFirst then .lt else .gt
  | false, true => if k.nullsFirst then .gt else .lt
  | false, false => k.compareCells a b

end SortKey

/-- The cells of a row in the columns of the keys. -/
def keyCells (keys : List SortKey) (row : Row) : List Value := keys.map fun k => cellAt row k.index

/-- The order of the cells of two rows, the first difference deciding. -/
def compareKeys : List SortKey → List Value → List Value → Ordering
  | k :: keys, a :: as, b :: bs => (k.compare a b).then (compareKeys keys as bs)
  | _, _, _ => .eq

/-- The order of two rows. -/
def compareRows (keys : List SortKey) (a b : Row) : Ordering :=
  compareKeys keys (keyCells keys a) (keyCells keys b)

/-- What the rows of one group have in common: texts in lower case where case does not count. -/
def groupKey (keys : List SortKey) (row : Row) : List Value :=
  keys.map fun k =>
    if k.caseSensitive then cellAt row k.index else (cellAt row k.index).foldCase

/-- The column of a label, up to the case of ASCII letters, or of the bare column it names. -/
def labelIndex? (labels : List String) (name : String) : Option Nat :=
  (labels.findIdx? fun l => Text.sameName l name).or
    (labels.findIdx? fun l => Text.sameName l (bareColumn name))

/-- Whether case counts in the column of a label: it is a case-sensitive text column of the first
table that has it. -/
def isCaseSensitive (tables : List String) (schema : Schema) (label : String) : Bool :=
  let name := bareColumn label
  let column := tables.findSome? fun t => (schema.find? t).bind fun t => t.column? name
  column.any fun c => c.caseSensitive && c.type.isTextual

/-- Whether case counts, for each label. -/
def caseSensitivity (labels tables : List String) (schema : Schema) : List Bool :=
  labels.map (isCaseSensitive tables schema)

/-- The column that an item names. -/
def OrderItem.column (labels : List String) (item : OrderItem) : Except Error Nat :=
  match item.index, item.target with
  | some index, _ => .ok index
  | none, .position number =>
    if 0 < number ∧ number ≤ labels.length then .ok (number - 1)
    else .error (.columnNotFound (.position number))
  | none, .label name =>
    match labelIndex? labels name with
    | some index => .ok index
    | none => .error (.columnNotFound (.label name))

/-- Binds items to columns. -/
def sortKeys (items : List OrderItem) (labels : List String) (caseSensitive : List Bool) :
    Except Error (List SortKey) :=
  items.mapM fun item => (item.column labels).map fun index =>
    ⟨index, item.direction, item.nulls, caseSensitive.getD index false⟩

/-- Puts a row into rows in descending place, after all that it does not precede: `before a b` says
that `a` precedes `b`. -/
def insertLast (before : α → α → Bool) (a : α) : List α → List α
  | [] => [a]
  | b :: rest => if before a b then b :: insertLast before a rest else a :: b :: rest

/-- The rows in order, rows of the same place in the order they came. -/
def sortRows (keys : List SortKey) (rows : List Row) : List Row :=
  (rows.foldl (fun sorted row => insertLast (fun a b => compareRows keys a b == .lt) row sorted)
    []).reverse

end ScatterGather
