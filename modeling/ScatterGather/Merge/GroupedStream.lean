import ScatterGather.Merge.Group
import ScatterGather.Merge.OrderedStream

/-!
# Merge/GroupedStream — groups that arrive as runs of rows

When every node returns its rows in group order, merging them in that order brings the rows of a
group one after another, and a group is complete when a row of another one shows up.
-/

namespace ScatterGather

/-- A merge of results in group order. -/
structure GroupedStream where
  stream : OrderedStream
  aggregates : List PlacedAggregate
  /-- The number of columns of a row. -/
  width : Nat
  /-- The row that is shown. -/
  current : Option Row
  /-- The stream stands on a row that belongs to no group yet. -/
  pending : Bool

namespace GroupedStream

/-- The merge of these results, before its first group. -/
def ofResults (list : SelectList) (keys : List SortKey) (results : List PartialResult) :
    Except Error GroupedStream := do
  let stream ← OrderedStream.ofResults keys results
  match stream.next with
  | (.error e, _) => throw e
  | (.ok pending, stream) =>
    return ⟨stream, list.aggregates, (results.head?.map fun r => r.labels.length).getD 0, none,
      pending⟩

/-- The row that the stream stands on. -/
def streamRow (width : Nat) (stream : OrderedStream) : Except Error Row :=
  (List.range width).mapM stream.value

/-- What gathering the rest of a group yields: its accumulators or a failure, whether the stream
stands on a row of the next group, and the stream. -/
structure Gathered where
  result : Except Error (List Accumulator)
  pending : Bool
  stream : OrderedStream

/-- Takes in rows while they have the group's key, `fuel` rows at most. -/
def gather (aggregates : List PlacedAggregate) (width : Nat) (key : List Value) :
    Nat → List Accumulator → OrderedStream → Gathered
  | 0, accs, stream => ⟨.ok accs, true, stream⟩
  | fuel + 1, accs, stream =>
    match stream.next with
    | (.error e, stream) => ⟨.error e, true, stream⟩
    | (.ok false, stream) => ⟨.ok accs, false, stream⟩
    | (.ok true, stream) =>
      match streamRow width stream with
      | .error e => ⟨.error e, true, stream⟩
      | .ok row =>
        if Value.equalsAll (groupKey stream.keys row) key then
          match feedRow row aggregates accs with
          | .error e => ⟨.error e, true, stream⟩
          | .ok accs => gather aggregates width key fuel accs stream
        else ⟨.ok accs, true, stream⟩

/-- The first row of the next group with its fresh accumulators fed. -/
def beginGroup (g : GroupedStream) : Except Error (Row × List Accumulator) := do
  let row ← streamRow g.width g.stream
  let accs ← feedRow row g.aggregates (freshAccumulators g.aggregates)
  return (row, accs)

/-- Moves to the next group.  After a failure the group that was shown stays. -/
def next (g : GroupedStream) : Except Error Bool × GroupedStream :=
  if !g.pending then (.ok false, { g with current := none })
  else
    match g.beginGroup with
    | .error e => (.error e, g)
    | .ok (row, accs) =>
      let gathered := gather g.aggregates g.width (groupKey g.stream.keys row)
        (g.stream.remaining + 1) accs g.stream
      match gathered.result.bind (withResults row g.aggregates) with
      | .error e => (.error e, { g with stream := gathered.stream })
      | .ok row =>
        (.ok true, { g with stream := gathered.stream, pending := gathered.pending
                            current := some row })

/-- The groups still to be shown, at most. -/
def remaining (g : GroupedStream) : Nat := if g.pending then g.stream.remaining + 1 else 0

end GroupedStream

end ScatterGather
