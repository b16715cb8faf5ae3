import ScatterGather.Merge.Accumulator
import ScatterGather.Merge.PartialResult

/-!
# Merge/Group — rows folded into one row per group

`foldRows` folds the rows of all results into groups, each with the cells of its first row and an
accumulator per aggregate; `groupAll` shows the groups in order.  Without any row there is still one
row to show: counts of zero, other columns NULL.
-/

namespace ScatterGather

/-- Takes one row into the accumulators of a group. -/
def feedRow (row : Row) : List PlacedAggregate → List Accumulator →
    Except Error (List Accumulator)
  | a :: aggregates, acc :: accs =>
    match acc.feed (a.inputs.map (cellAt row)) with
    | (.error e, _) => .error e
    | (.ok (), acc) => (feedRow row aggregates accs).map fun accs => acc :: accs
  | _, _ => .ok []

/-- Accumulators that have taken in nothing. -/
def freshAccumulators (aggregates : List PlacedAggregate) : List Accumulator :=
  aggregates.map fun a => .fresh a.function a.distinct

/-- The row with one more cell set; NULLs fill the row up to it. -/
def setCell (row : Row) (index : Nat) (v : Value) : Row :=
  (row ++ List.replicate (index + 1 - row.length) Value.null).set index v

/-- The row with the aggregates in their places. -/
def withResults (row : Row) : List PlacedAggregate → List Accumulator → Except Error Row
  | a :: aggregates, acc :: accs => do
    let v ← acc.result
    withResults (setCell row a.index v) aggregates accs
  | _, _ => .ok row

/-- A group: its key, the cells of its first row and its accumulators. -/
structure Group where
  key : List Value
  first : Row
  accumulators : List Accumulator
  deriving DecidableEq

/-- Folds a row into its group, or into a new one at the end. -/
def foldRow (aggregates : List PlacedAggregate) (key : List Value) (row : Row) :
    List Group → Except Error (List Group)
  | [] => (feedRow row aggregates (freshAccumulators aggregates)).map fun accs => [⟨key, row, accs⟩]
  | g :: rest =>
    if Value.sameKeys g.key key then
      (feedRow row aggregates g.accumulators).map fun accumulators =>
        { g with accumulators } :: rest
    else (foldRow aggregates key row rest).map fun rest => g :: rest

/-- Folds the rows of a result in turn. -/
def foldResult (aggregates : List PlacedAggregate) (keys : List SortKey) (labels : List String)
    (failure : Option Error) (groups : List Group) : List Row → Except Error (List Group)
  | [] => match failure with
    | some e => .error e
    | none => .ok groups
  | row :: rest => do
    let row ← PartialResult.cells ⟨labels, some row, [], none⟩
    let groups ← foldRow aggregates (groupKey keys row) row groups
    foldResult aggregates keys labels failure groups rest

/-- Folds the rows of all results. -/
def foldRows (aggregates : List PlacedAggregate) (keys : List SortKey)
    (results : List PartialResult) : Except Error (List Group) :=
  results.foldlM (fun groups r => foldResult aggregates keys r.labels r.failure groups r.rows) []

/-- The row of no rows at all. -/
def emptyRow (list : SelectList) : Row :=
  list.aggregates.foldl (fun row a => if a.function = .count then setCell row a.index (.integer 0)
    else row) (List.replicate list.columnCount .null)

/-- One row per group, ordered by the sort keys, or by the group keys if there are none. -/
def groupAll (list : SelectList) (groupKeys orderKeys : List SortKey)
    (results : List PartialResult) : Except Error (List Row) := do
  let groups ← foldRows list.aggregates groupKeys results
  if groups.isEmpty then return [emptyRow list]
  let rows ← groups.mapM fun g => withResults g.first list.aggregates g.accumulators
  return sortRows (if orderKeys.isEmpty then groupKeys else orderKeys) rows

end ScatterGather
