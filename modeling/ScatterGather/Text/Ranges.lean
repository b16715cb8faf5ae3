/-!
# Text/Ranges — sets and maps of characters by code point

A set of characters is a list of closed ranges of code points (`inRanges`).  A map is a list of
`CaseRun`s: runs of evenly spaced characters whose images are shifted by one amount
(`imageInRuns?`).
-/

namespace ScatterGather.Text

/-- Membership in a list of closed ranges. -/
def inRanges (ranges : List (Nat × Nat)) (n : Nat) : Bool :=
  ranges.any fun r => r.1 ≤ n && n ≤ r.2

/-- A run of mapped characters: first, last, step, image of the first. -/
abbrev CaseRun := Nat × Nat × Nat × Nat

/-- The image of a code point under one run, if the run holds it. -/
def CaseRun.image? (run : CaseRun) (n : Nat) : Option Nat :=
  let (first, last, step, image) := run
  if first ≤ n && n ≤ last && (n - first) % step == 0 then some (image + (n - first)) else none

/-- The image of a code point under the first run that holds it. -/
def imageInRuns? (runs : List CaseRun) (n : Nat) : Option Nat :=
  runs.findSome? fun run => run.image? n

end ScatterGather.Text
