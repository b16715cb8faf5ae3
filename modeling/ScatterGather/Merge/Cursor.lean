import ScatterGather.Merge.GroupedStream
import ScatterGather.Merge.Having

/-!
# Merge/Cursor — merged rows, read forward

A cursor has three layers: a `BaseCursor` merges the rows of the results, a `FilteredCursor` leaves
out those that HAVING refuses, and a `MergedCursor` shows the window.  Each layer moves with `next`
and shows cells with `value`; `remaining` bounds the rows to come.
-/

namespace ScatterGather

/-- The ways to merge results. -/
inductive BaseCursor where
  /-- One result after another; the head is being read. -/
  | chained (results : List PartialResult)
  | ordered (stream : OrderedStream)
  | grouped (stream : GroupedStream)
  /-- Rows that were computed at once, and the one that is shown. -/
  | buffered (rows : List Row) (current : Option Row)

namespace BaseCursor

/-- Reads the next row of results in a chain. -/
def nextChained : List PartialResult → Except Error Bool × List PartialResult
  | [] => (.ok false, [])
  | r :: rest =>
    match r.next with
    | (.ok false, _) => nextChained rest
    | (outcome, r) => (outcome, r :: rest)

/-- Moves to the next row, and says whether there is one. -/
def next : BaseCursor → Except Error Bool × BaseCursor
  | chained results => (nextChained results).map id chained
  | ordered stream => stream.next.map id ordered
  | grouped stream => stream.next.map id grouped
  | buffered (row :: rows) _ => (.ok true, buffered rows (some row))
  | buffered [] _ => (.ok false, buffered [] none)

/-- The cell of a row; NULL beyond its end, a failure without a row. -/
def shownCell (row : Option Row) (index : Nat) : Except Error Value :=
  match row with
  | none => .error (.invalidExpression .exhausted)
  | some row => .ok (cellAt row index)

/-- The cell of the row that is shown. -/
def value (c : BaseCursor) (index : Nat) : Except Error Value :=
  match c with
  | chained [] => .error (.invalidExpression .exhausted)
  | chained (r :: _) => r.value index
  | ordered stream => stream.value index
  | grouped stream => shownCell stream.current index
  | buffered _ current => shownCell current index

/-- The rows still to be shown, at most. -/
def remaining : BaseCursor → Nat
  | chained results => (results.flatMap fun r => r.rows).length
  | ordered stream => stream.remaining
  | grouped stream => stream.remaining
  | buffered rows _ => rows.length

end BaseCursor

/-- Merged rows without those that HAVING refuses. -/
structure FilteredCursor where
  base : BaseCursor
  having : Option Having

namespace FilteredCursor

/-- Moves to the next row that HAVING keeps, over `fuel` rows at most. -/
def nextKept (h : Having) : Nat → BaseCursor → Except Error Bool × BaseCursor
  | 0, base => (.ok false, base)
  | fuel + 1, base =>
    match base.next with
    | (.ok true, base) =>
      match h.keeps base.value with
      | .ok false => nextKept h fuel base
      | outcome => (outcome, base)
    | (outcome, base) => (outcome, base)

/-- Moves to the next row. -/
def next (c : FilteredCursor) : Except Error Bool × FilteredCursor :=
  let (outcome, base) := match c.having with
    | none => c.base.next
    | some h => nextKept h (c.base.remaining + 1) c.base
  (outcome, { c with base })

/-- Moves over `count` rows, and says whether there were as many. -/
def skip : Nat → FilteredCursor → Except Error (Bool × FilteredCursor)
  | 0, c => .ok (true, c)
  | count + 1, c =>
    match c.next with
    | (.error e, _) => .error e
    | (.ok false, c) => .ok (false, c)
    | (.ok true, c) => skip count c

end FilteredCursor

/-- A window over merged rows. -/
structure Window where
  /-- The number of the row that was asked for last. -/
  position : Nat
  /-- The number of the last row to show. -/
  last : Option Nat
  /-- There are not even the rows to be skipped. -/
  dry : Bool
  deriving DecidableEq

/-- The cursor of a merged statement. -/
structure MergedCursor where
  rows : FilteredCursor
  window : Option Window

namespace MergedCursor

/-- Moves the rows below a window. -/
def nextRow (c : MergedCursor) : Except Error Bool × MergedCursor :=
  let (outcome, rows) := c.rows.next
  (outcome, { c with rows })

/-- Moves to the next row. -/
def next (c : MergedCursor) : Except Error Bool × MergedCursor :=
  match c.window with
  | none => c.nextRow
  | some w =>
    if w.dry then (.ok false, c)
    else
      match w.last with
      | none => c.nextRow
      | some last =>
        let c := { c with window := some { w with position := w.position + 1 } }
        if last ≤ w.position then (.ok false, c) else c.nextRow

/-- The cell of the row that is shown. -/
def value (c : MergedCursor) (index : Nat) : Except Error Value := c.rows.base.value index

/-- The cells of the row that is shown. -/
def cells (c : MergedCursor) (width : Nat) : Except Error Row := (List.range width).mapM c.value

/-- The rows to come, `fuel` at most, and the failure that ended the reading. -/
def readRows (width : Nat) : Nat → MergedCursor → List Row × Option Error
  | 0, _ => ([], none)
  | fuel + 1, c =>
    match c.next with
    | (.error e, _) => ([], some e)
    | (.ok false, _) => ([], none)
    | (.ok true, c) =>
      match c.cells width with
      | .error e => ([], some e)
      | .ok row =>
        let (rows, failure) := readRows width fuel c
        (row :: rows, failure)

/-- All rows to come, and the failure that ended the reading. -/
def readAll (c : MergedCursor) (width : Nat) : List Row × Option Error :=
  readRows width (c.rows.base.remaining + 1) c

end MergedCursor

end ScatterGather
