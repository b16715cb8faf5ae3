import ScatterGather.Dialect
import ScatterGather.Merge.Cursor
import ScatterGather.Statement.Basic

/-!
# Merge/Result — one result out of many

`merge` picks the cursor of a statement.  A single result and statements other than SELECT pass
through; otherwise groups, an order or neither decide how rows are merged, and HAVING and the window
apply to the merged rows.
-/

namespace ScatterGather

/-- A merged result, its columns found by position or label. -/
structure MergedResult where
  labels : List String
  cursor : MergedCursor

namespace MergedResult

/-- Moves to the next row, and says whether there is one. -/
def next (r : MergedResult) : Except Error Bool × MergedResult :=
  let (outcome, cursor) := r.cursor.next
  (outcome, { r with cursor })

/-- The cell of the row that is shown, by position. -/
def get (r : MergedResult) (index : Nat) : Except Error Value :=
  if index < r.labels.length then r.cursor.value index
  else .error (.columnNotFound (.position index))

/-- The cell of the row that is shown, by label. -/
def getLabel (r : MergedResult) (label : String) : Except Error Value :=
  match labelIndex? r.labels label with
  | some index => r.cursor.value index
  | none => .error (.columnNotFound (.label label))

/-- The rows to come, and the failure that ended the reading. -/
def readAll (r : MergedResult) : List Row × Option Error := r.cursor.readAll r.labels.length

/-- The rows to come, or the failure that ended the reading. -/
def rows (r : MergedResult) : Except Error (List Row) :=
  match r.readAll with
  | (rows, none) => .ok rows
  | (_, some e) => .error e

end MergedResult

/-- A cursor over groups: a stream where rows arrive in group order, groups in memory otherwise. -/
def groupCursor (s : Select) (groupBy : List OrderItem) (labels : List String)
    (caseSensitive : List Bool) (results : List PartialResult) : Except Error BaseCursor := do
  let groupKeys ← sortKeys groupBy labels caseSensitive
  if OrderItem.sameAll groupBy s.orderBy then
    return .grouped (← GroupedStream.ofResults s.list groupKeys results)
  let orderKeys ← sortKeys s.orderBy labels caseSensitive
  return .buffered (← groupAll s.list groupKeys orderKeys results) none

/-- All visible columns as group items, which is what DISTINCT asks for. -/
def everyColumn (list : SelectList) : List OrderItem :=
  (List.range list.items.length).map fun i => .ofPosition (i + 1)

/-- The cursor that merges the rows of a SELECT. -/
def baseCursor (s : Select) (labels : List String) (caseSensitive : List Bool)
    (results : List PartialResult) : Except Error BaseCursor :=
  if !s.groupBy.isEmpty || s.list.hasAggregate then
    groupCursor s s.groupBy labels caseSensitive results
  else if s.list.distinct then
    groupCursor s (everyColumn s.list) labels caseSensitive results
  else if !s.orderBy.isEmpty then do
    let keys ← sortKeys s.orderBy labels caseSensitive
    return .ordered (← OrderedStream.ofResults keys results)
  else .ok (.chained results)

/-- The cursor with a window that skips `offset` rows; the last row is counted from the first shown
one, or from the first of all. -/
def openWindow (rows : FilteredCursor) (offset : Nat) (last : Option Nat)
    (fromFirst : Bool) : Except Error MergedCursor := do
  let (enough, rows) ← rows.skip offset
  return ⟨rows, some ⟨if fromFirst then offset else 0, last, !enough⟩⟩

/-- The cursor with the window of a SELECT. -/
def windowed (dialect : Dialect) (s : Select) (parameters : List Value) (rows : FilteredCursor) :
    Except Error MergedCursor :=
  match s.window? with
  | none => .ok ⟨rows, none⟩
  | some window => do
    let offset ← window.offsetRows parameters
    let last ← window.rowLimit parameters
    match dialect.paging with
    | .limit => openWindow rows offset last false
    | .rowNumber | .top => openWindow rows offset last true
    | .none => return ⟨rows, none⟩

/-- The cursor of a SELECT over several results. -/
def selectCursor (dialect : Dialect) (schema : Schema) (s : Select) (tables labels : List String)
    (parameters : List Value) (results : List PartialResult) : Except Error MergedCursor := do
  let base ← baseCursor s labels (caseSensitivity labels tables schema) results
  windowed dialect s parameters
    ⟨base, s.having.map fun condition => ⟨condition, labels, parameters⟩⟩

/-- Merges the results of the nodes. -/
def merge (dialect : Dialect) (schema : Schema) (statement : Statement) (parameters : List Value)
    (results : List PartialResult) : Except Error MergedResult :=
  let labels := (results.head?.map (·.labels)).getD []
  match statement with
  | .select s =>
    if 1 < results.length then
      (selectCursor dialect schema s statement.tables labels parameters results).map fun cursor =>
        ⟨labels, cursor⟩
    else .ok ⟨labels, ⟨⟨.chained results, none⟩, none⟩⟩
  | _ => .ok ⟨labels, ⟨⟨.chained results, none⟩, none⟩⟩

end ScatterGather
