import ScatterGather.Merge.SortKey

/-!
# Merge/PartialResult — the rows that one node returned

A `PartialResult` is read forward.  Where the connection breaks, reading fails after the last row
instead of coming to an end, and goes on failing.
-/

namespace ScatterGather

/-- A forward reading of one node's rows. -/
structure PartialResult where
  labels : List String
  /-- The row that was read last. -/
  current : Option Row
  /-- The rows that are still to be read. -/
  rows : List Row
  /-- What happens after the last row, if not the end. -/
  failure : Option Error
  deriving DecidableEq

namespace PartialResult

/-- A result of which nothing has been read, and which comes to an end. -/
def ofRows (labels : List String) (rows : List Row) : PartialResult := ⟨labels, none, rows, none⟩

/-- The result whose reading fails after `count` rows, if it does not end before. -/
def failingAfter (r : PartialResult) (count : Nat) (e : Error) : PartialResult :=
  if count ≤ r.rows.length then { r with rows := r.rows.take count, failure := some e } else r

/-- Reads a row, and says whether there was one. -/
def next (r : PartialResult) : Except Error Bool × PartialResult :=
  match r.rows, r.failure with
  | row :: rows, _ => (.ok true, { r with current := some row, rows })
  | [], some e => (.error e, r)
  | [], none => (.ok false, { r with current := none })

/-- The cell of the row that was read last. -/
def value (r : PartialResult) (index : Nat) : Except Error Value :=
  match r.current with
  | none => .error (.invalidExpression .unpositioned)
  | some row =>
    match row[index]? with
    | some v => .ok v
    | none => .error (.columnNotFound (.position index))

/-- The cells of the row that was read last in as many columns as there are labels. -/
def cells (r : PartialResult) : Except Error Row :=
  (List.range r.labels.length).mapM r.value

end PartialResult

end ScatterGather
