import ScatterGather.Merge.GroupedStream

/-!
# Proofs/Merge/Gathering — the ways a stream of groups can go

Gathering the rest of a group takes in rows one by one (`Gathers`), until the stream ends, stands on
a row of another group or fails, or until no more rows may be taken in.  Moving on begins a group,
gathers it and shows it, or fails in one of these steps (`Moves`).

Both relations have one constructor per way, with all that is known there; `gathers_gather` and
`moves_of_next` read them off the definitions, and what a stream of groups keeps is shown on them.
-/

namespace ScatterGather.GroupedStream

section Gather

variable {aggregates : List PlacedAggregate} {width : Nat} {key : List Value}

/-- How the rest of a group is gathered, up to so many rows. -/
inductive Gathers (aggregates : List PlacedAggregate) (width : Nat) (key : List Value) :
    Nat → List Accumulator → OrderedStream → Gathered → Prop where
  | full {accs : List Accumulator} {stream : OrderedStream} :
    Gathers aggregates width key 0 accs stream ⟨.ok accs, true, stream⟩
  | finish {fuel : Nat} {accs : List Accumulator} {stream t : OrderedStream}
      (hnext : stream.next = (.ok false, t)) :
    Gathers aggregates width key (fuel + 1) accs stream ⟨.ok accs, false, t⟩
  | other {fuel : Nat} {accs : List Accumulator} {stream t : OrderedStream} {row : Row}
      (hnext : stream.next = (.ok true, t)) (hrow : streamRow width t = .ok row)
      (hother : Value.equalsAll (groupKey t.keys row) key = false) :
    Gathers aggregates width key (fuel + 1) accs stream ⟨.ok accs, true, t⟩
  | take {fuel : Nat} {accs accs' : List Accumulator} {stream t : OrderedStream} {row : Row}
      {gathered : Gathered} (hnext : stream.next = (.ok true, t))
      (hrow : streamRow width t = .ok row)
      (hsame : Value.equalsAll (groupKey t.keys row) key = true)
      (hfeed : feedRow row aggregates accs = .ok accs')
      (hrest : Gathers aggregates width key fuel accs' t gathered) :
    Gathers aggregates width key (fuel + 1) accs stream gathered
  | fail {fuel : Nat} {accs : List Accumulator} {stream t : OrderedStream} {e : Error}
      (hnext : stream.next = (.error e, t)) :
    Gathers aggregates width key (fuel + 1) accs stream ⟨.error e, true, t⟩
  | unreadable {fuel : Nat} {accs : List Accumulator} {stream t : OrderedStream} {e : Error}
      (hnext : stream.next = (.ok true, t)) (hrow : streamRow width t = .error e) :
    Gathers aggregates width key (fuel + 1) accs stream ⟨.error e, true, t⟩
  | refused {fuel : Nat} {accs : List Accumulator} {stream t : OrderedStream} {row : Row}
      {e : Error} (hnext : stream.next = (.ok true, t)) (hrow : streamRow width t = .ok row)
      (hsame : Value.equalsAll (groupKey t.keys row) key = true)
      (hfeed : feedRow row aggregates accs = .error e) :
    Gathers aggregates width key (fuel + 1) accs stream ⟨.error e, true, t⟩

/-- **Gathering goes in one of these ways.** -/
theorem gathers_gather (fuel : Nat) (accs : List Accumulator) (stream : OrderedStream) :
    Gathers aggregates width key fuel accs stream
      (gather aggregates width key fuel accs stream) := by
  induction fuel generalizing accs stream with
  | zero => exact .full
  | succ fuel ih =>
    rw [gather]
    rcases hnext : stream.next with ⟨e | _ | _, t⟩
    · exact .fail hnext
    · exact .finish hnext
    · dsimp only
      cases hrow : streamRow width t with
      | error e => exact .unreadable hnext hrow
      | ok row =>
        dsimp only
        cases hsame : Value.equalsAll (groupKey t.keys row) key with
        | false => exact .other hnext hrow hsame
        | true =>
          cases hfeed : feedRow row aggregates accs with
          | error e => exact .refused hnext hrow hsame hfeed
          | ok accs' => exact .take hnext hrow hsame hfeed (ih accs' t)

end Gather

/-- The rest of a group after its first row. -/
abbrev GathersAfter (g : GroupedStream) (row : Row) (accs : List Accumulator)
    (gathered : Gathered) : Prop :=
  Gathers g.aggregates g.width (groupKey g.stream.keys row) (g.stream.remaining + 1) accs g.stream
    gathered

/-- How a stream of groups moves on. -/
inductive Moves (g : GroupedStream) : Except Error Bool → GroupedStream → Prop where
  | finish (hpending : g.pending = false) : Moves g (.ok false) { g with current := none }
  | unbegun {e : Error} (hpending : g.pending = true) (hbegin : g.beginGroup = .error e) :
    Moves g (.error e) g
  | unshown {row : Row} {accs : List Accumulator} {gathered : Gathered} {e : Error}
      (hpending : g.pending = true) (hbegin : g.beginGroup = .ok (row, accs))
      (hgathers : g.GathersAfter row accs gathered)
      (hresult : gathered.result.bind (withResults row g.aggregates) = .error e) :
    Moves g (.error e) { g with stream := gathered.stream }
  | shown {row shown : Row} {accs : List Accumulator} {gathered : Gathered}
      (hpending : g.pending = true) (hbegin : g.beginGroup = .ok (row, accs))
      (hgathers : g.GathersAfter row accs gathered)
      (hresult : gathered.result.bind (withResults row g.aggregates) = .ok shown) :
    Moves g (.ok true) { g with stream := gathered.stream, pending := gathered.pending
                                current := some shown }

theorem moves_next (g : GroupedStream) : g.Moves g.next.1 g.next.2 := by
  obtain ⟨stream, aggregates, width, current, pending⟩ := g
  cases pending with
  | false => exact .finish rfl
  | true =>
    rw [next]
    cases hbegin : beginGroup ⟨stream, aggregates, width, current, true⟩ with
    | error e => exact .unbegun rfl hbegin
    | ok begun =>
      obtain ⟨row, accs⟩ := begun
      have hgathers : GathersAfter ⟨stream, aggregates, width, current, true⟩ row accs _ :=
        gathers_gather _ accs stream
      simp only [Bool.not_true, Bool.false_eq_true, if_false]
      split
      · next hresult => exact .unshown rfl hbegin hgathers hresult
      · next hresult => exact .shown rfl hbegin hgathers hresult

/-- **A stream of groups moves on in one of these ways.** -/
theorem moves_of_next {g g' : GroupedStream} {outcome : Except Error Bool}
    (h : g.next = (outcome, g')) : g.Moves outcome g' := by
  have hmoves := g.moves_next
  rwa [h] at hmoves

end ScatterGather.GroupedStream
