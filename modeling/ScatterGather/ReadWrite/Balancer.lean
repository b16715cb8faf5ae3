import ScatterGather.Binary64.Text
import ScatterGather.RandomSource
import ScatterGather.Sharding.Algorithm

/-!
# ReadWrite/Balancer — choosing among replicas

Replicas take turns, or are drawn at random with equal or given weights.  A choice is made from a
first replica and more, so that there is always one to choose, and returns the balancer's and the
random source's next states.
-/

namespace ScatterGather

/-- A way to choose a replica. -/
inductive Balancer where
  /-- In turn, with one count of turns per group. -/
  | roundRobin (turns : List (String × UInt64))
  | random
  /-- At random by weight; a replica that is not listed weighs one. -/
  | weight (weights : List (String × Binary64))
  deriving DecidableEq

namespace Balancer

/-- The name of the balancer's type. -/
def typeName : Balancer → String
  | roundRobin _ => "ROUND_ROBIN"
  | random => "RANDOM"
  | weight _ => "WEIGHT"

/-- The weight that a setting gives to a replica: a number that is neither negative nor
infinite. -/
def weightOf (replica raw : String) : Except Error (String × Binary64) :=
  match Binary64.parse? (Text.trim raw) with
  | none => .error (.invalidConfig (.weightNumeral replica raw))
  | some w =>
    if w.isNaN || w.isInfinite || w.negative && !w.isZero then
      .error (.invalidConfig (.weightRange replica raw))
    else .ok (replica, w)

/-- The balancer of a type's name, in any case, and its properties. -/
def create (typeName : String) (props : Properties) : Except Error Balancer :=
  let name := Text.upper typeName
  if name = "ROUND_ROBIN" then .ok (roundRobin [])
  else if name = "RANDOM" then .ok random
  else if name = "WEIGHT" then (props.mapM fun p => weightOf p.1 p.2).map weight
  else .error (.invalidConfig (.loadBalancerType name))

/-- The number of turns that a group has taken. -/
def turnsOf (turns : List (String × UInt64)) (group : String) : UInt64 :=
  (turns.lookup group).getD 0

/-- Counts one more turn of a group. -/
def countTurn (group : String) : List (String × UInt64) → List (String × UInt64)
  | [] => [(group, 1)]
  | (name, turns) :: rest =>
    if name = group then (name, turns + 1) :: rest else (name, turns) :: countTurn group rest

theorem turnsOf_countTurn (turns : List (String × UInt64)) (group other : String) :
    turnsOf (countTurn group turns) other =
      if other = group then turnsOf turns group + 1 else turnsOf turns other := by
  induction turns with
  | nil => grind [countTurn, turnsOf]
  | cons entry rest ih =>
    obtain ⟨name, count⟩ := entry
    grind [countTurn, turnsOf]

/-- The weight of a replica. -/
def weightIn (weights : List (String × Binary64)) (replica : String) : Binary64 :=
  (weights.lookup replica).getD (Binary64.ofNat 1)

/-- The first replica whose weight, added to the weights before it, passes the point; the last one
if none does. -/
def pickAt (weights : List (String × Binary64)) (point passed : Binary64) (first : String) :
    List String → String
  | [] => first
  | second :: more =>
    let passed := passed.add (weightIn weights first)
    if point.below passed then first else pickAt weights point passed second more

/-- The replica for a group's next read, of a first one and more. -/
def pick (balancer : Balancer) (source : RandomSource) (group first : String)
    (more : List String) : String × Balancer × RandomSource :=
  match balancer with
  | roundRobin turns =>
    let turn := (turnsOf turns group).toNat % (more.length + 1)
    ((first :: more).getD turn first, roundRobin (countTurn group turns), source)
  | random =>
    let (n, source) := source.below (more.length + 1)
    ((first :: more).getD n first, random, source)
  | weight weights =>
    let zero := Binary64.zero false
    let total := (first :: more).foldl (fun sum r => sum.add (weightIn weights r)) zero
    if zero.below total then
      let (part, source) := source.unit
      let point := part.mul total
      let point := if point.below total then point else zero
      (pickAt weights point zero first more, balancer, source)
    else (first, balancer, source)

end Balancer

end ScatterGather
