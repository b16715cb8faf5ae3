import ScatterGather.Merge.PartialResult
import ScatterGather.Merge.Queue

/-!
# Merge/OrderedStream — sorted results merged into one

Every node has sorted its rows.  The results stand in a queue by the row each has read last, so the
next row is always that of the first result.
-/

namespace ScatterGather

/-- A result that has read a row, with that row's cells in the columns of the keys. -/
structure Positioned where
  result : PartialResult
  cells : List Value

namespace Positioned

/-- Reads a result's next row; nothing at its end. -/
def read (keys : List SortKey) (r : PartialResult) : Except Error (Option Positioned) :=
  match r.next with
  | (.error e, _) => .error e
  | (.ok false, _) => .ok none
  | (.ok true, r) => (keys.mapM fun k => r.value k.index).map fun cells => some ⟨r, cells⟩

/-- Whether the row of `a` precedes the row of `b`. -/
def precedes (keys : List SortKey) (a b : Positioned) : Bool :=
  compareKeys keys a.cells b.cells == .lt

end Positioned

/-- A merge of sorted results. -/
structure OrderedStream where
  keys : List SortKey
  queue : Queue Positioned
  /-- The result whose row is shown. -/
  current : Option Positioned

namespace OrderedStream

/-- Reads the first row of every result. -/
def enqueueAll (keys : List SortKey) (queue : Queue Positioned) :
    List PartialResult → Except Error (Queue Positioned)
  | [] => .ok queue
  | r :: rest => do
    match ← Positioned.read keys r with
    | none => enqueueAll keys queue rest
    | some p => enqueueAll keys (queue.push (Positioned.precedes keys) p) rest

/-- The merge of these results, before its first row. -/
def ofResults (keys : List SortKey) (results : List PartialResult) : Except Error OrderedStream :=
  (enqueueAll keys .empty results).map fun queue => ⟨keys, queue, none⟩

/-- Shows the first row of the queue. -/
def advance (s : OrderedStream) : Except Error Bool × OrderedStream :=
  match s.queue.pop? (Positioned.precedes s.keys) with
  | some (first, queue) => (.ok true, { s with queue, current := some first })
  | none => (.ok false, { s with current := none })

/-- Moves to the next row.  A result that fails to give one is left out from then on. -/
def next (s : OrderedStream) : Except Error Bool × OrderedStream :=
  match s.current with
  | none => s.advance
  | some current =>
    match Positioned.read s.keys current.result with
    | .error e => (.error e, { s with current := none })
    | .ok none => advance { s with current := none }
    | .ok (some p) =>
      advance { s with queue := s.queue.push (Positioned.precedes s.keys) p, current := none }

/-- The cell of the row that is shown. -/
def value (s : OrderedStream) (index : Nat) : Except Error Value :=
  match s.current with
  | none => .error (.invalidExpression .exhausted)
  | some p => p.result.value index

/-- The rows still to be shown. -/
def remaining (s : OrderedStream) : Nat :=
  s.queue.toList.foldl (fun n p => n + p.result.rows.length + 1) 0 +
    (s.current.map fun p => p.result.rows.length).getD 0

end OrderedStream

end ScatterGather
