import ScatterGather.Calendar

/-!
# Clock — the instants that successive readings show

A `Clock` is the list of its future readings, in runs, and the instant it stops at.  A clock that
never moves has no runs.  `readAfter?` reads until the millisecond passes another one; a stopped
clock may never do that.
-/

namespace ScatterGather

/-- A clock: `runs` of equal readings, then `final` for ever. -/
structure Clock where
  runs : List (Moment × Nat)
  final : Moment
  deriving DecidableEq

namespace Clock

/-- A clock that always shows one instant. -/
def fixed (now : Moment) : Clock := ⟨[], now⟩

/-- One reading of a clock with these runs, and the clock after it. -/
def readRuns (final : Moment) : List (Moment × Nat) → Moment × Clock
  | [] => (final, ⟨[], final⟩)
  | (_, 0) :: rest => readRuns final rest
  | (now, more + 1) :: rest => (now, ⟨(now, more) :: rest, final⟩)

/-- One reading, and the clock after it. -/
def now (c : Clock) : Moment × Clock := readRuns c.final c.runs

@[simp] theorem now_fixed (now : Moment) : (fixed now).now = (now, fixed now) := rfl

/-- The first reading past the millisecond `last`, dropping whole runs before it; nothing if the
clock stops first. -/
def readAfter? (last : Int) (final : Moment) : List (Moment × Nat) → Option (Moment × Clock)
  | [] => if last < final.millis then some (final, ⟨[], final⟩) else none
  | (_, 0) :: rest => readAfter? last final rest
  | (now, more + 1) :: rest =>
    if last < now.millis then some (now, ⟨(now, more) :: rest, final⟩)
    else readAfter? last final rest

end Clock

end ScatterGather
