import ScatterGather.Text.Case
import ScatterGather.Text.Numeral

/-!
# Statement/SelectList — what a SELECT returns

The columns of a partial result are the visible items of the select list, in order, and after them a
COUNT and a SUM column for every AVG.  `SelectList.aggregates` gives each aggregate its places.
-/

namespace ScatterGather

/-- An aggregate function. -/
inductive Aggregate where
  | count
  | sum
  | avg
  | min
  | max
  deriving DecidableEq

/-- The name of an aggregate function. -/
def Aggregate.name : Aggregate → String
  | count => "COUNT"
  | sum => "SUM"
  | avg => "AVG"
  | min => "MIN"
  | max => "MAX"

/-- An item of the select list. -/
inductive SelectItem where
  | column (name : String) (label : Option String)
  | expression (text : String) (label : Option String)
  /-- An aggregate without an argument counts rows. -/
  | aggregate (function : Aggregate) (distinct : Bool) (argument label : Option String)
  deriving DecidableEq

/-- The label of an item: the one given to it, or its text. -/
def SelectItem.label : SelectItem → String
  | column text given | expression text given => given.getD text
  | aggregate function distinct argument given =>
    given.getD (function.name ++ "(" ++ (if distinct then "DISTINCT " else "") ++
      argument.getD "*" ++ ")")

/-- A column added to every partial result for the sake of an AVG. -/
structure DerivedColumn where
  function : Aggregate
  distinct : Bool
  label : String
  index : Nat
  deriving DecidableEq

/-- An aggregate with its place in the partial results. -/
structure PlacedAggregate where
  function : Aggregate
  distinct : Bool
  label : String
  index : Nat
  derived : List DerivedColumn
  deriving DecidableEq

/-- The columns that an aggregate reads: its own, or those derived for it. -/
def PlacedAggregate.inputs (a : PlacedAggregate) : List Nat :=
  if a.derived.isEmpty then [a.index] else a.derived.map (·.index)

/-- A select list. -/
structure SelectList where
  items : List SelectItem
  /-- SELECT DISTINCT. -/
  distinct : Bool
  deriving DecidableEq

namespace SelectList

/-- The COUNT and SUM columns of the AVG with that ordinal, the first of them at `index`. -/
def derivedColumns (distinct : Bool) (ordinal index : Nat) : List DerivedColumn :=
  [⟨.count, distinct, "AVG_DERIVED_COUNT_" ++ Text.ofNat ordinal, index⟩,
    ⟨.sum, distinct, "AVG_DERIVED_SUM_" ++ Text.ofNat ordinal, index + 1⟩]

/-- The aggregates among the items from position `index` on, `averages` of them being before that;
derived columns start at `width`. -/
def placeFrom (width : Nat) : Nat → Nat → List SelectItem → List PlacedAggregate
  | _, _, [] => []
  | index, averages, item@(.aggregate .avg distinct _ _) :: rest =>
    ⟨.avg, distinct, item.label, index, derivedColumns distinct averages (width + 2 * averages)⟩ ::
      placeFrom width (index + 1) (averages + 1) rest
  | index, averages, item@(.aggregate function distinct _ _) :: rest =>
    ⟨function, distinct, item.label, index, []⟩ :: placeFrom width (index + 1) averages rest
  | index, averages, _ :: rest => placeFrom width (index + 1) averages rest

/-- The aggregates with their places. -/
def aggregates (l : SelectList) : List PlacedAggregate := placeFrom l.items.length 0 0 l.items

/-- Visible and derived columns together. -/
def columnCount (l : SelectList) : Nat :=
  l.items.length + (l.aggregates.flatMap fun a => a.derived).length

/-- Whether there is an aggregate. -/
def hasAggregate (l : SelectList) : Bool := !l.aggregates.isEmpty

/-- The labels of the visible columns. -/
def labels (l : SelectList) : List String := l.items.map SelectItem.label

end SelectList

end ScatterGather
