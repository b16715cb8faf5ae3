import ScatterGather.Sharding.Rule
import ScatterGather.ValueRange

/-!
# Sharding/Condition — what a statement says about sharding columns

A `ShardingCondition` restricts sharding columns, each to a list or a range of values.  A statement
has one condition per inserted row or per alternative of its WHERE clause; a row has to satisfy one
of them, and without any condition nothing is known.
-/

namespace ScatterGather

/-- The values that a column may have. -/
inductive Allowed where
  | values (vs : List Value)
  | range (r : ValueRange)
  deriving DecidableEq

namespace Allowed

/-- Whether a value is allowed. -/
def admits (v : Value) : Allowed → Bool
  | values vs => vs.any fun w => w.equals v
  | range r => r.contains v

/-- The values allowed by both: where one is a list, its members that the other allows. -/
def meet : Allowed → Allowed → Allowed
  | values vs, other => values (vs.filter fun v => other.admits v)
  | range r, values vs => values (vs.filter r.contains)
  | range r, range s => range (r.intersect s)

/-- Whether no value is allowed. -/
def isEmpty : Allowed → Bool
  | values vs => vs.isEmpty
  | range _ => false

end Allowed

/-- The values that one column of one logical table may have. -/
structure Restriction where
  table : String
  column : String
  allowed : Allowed
  deriving DecidableEq

/-- Restrictions that hold together. -/
structure ShardingCondition where
  restrictions : List Restriction
  deriving DecidableEq

namespace ShardingCondition

/-- What is allowed for a column of a table, names up to the case of ASCII letters. -/
def allowedFor (c : ShardingCondition) (table column : String) : List Allowed :=
  (c.restrictions.filter fun r => Text.sameName r.table table && Text.sameName r.column column).map
    (·.allowed)

/-- Whether no row can satisfy the condition. -/
def isNever (c : ShardingCondition) : Bool := c.restrictions.any fun r => r.allowed.isEmpty

/-- Narrows what is allowed for a column, or begins to restrict it. -/
def restrictList (added : Restriction) : List Restriction → List Restriction
  | [] => [added]
  | r :: rest =>
    if r.table = added.table ∧ r.column = added.column then
      { r with allowed := r.allowed.meet added.allowed } :: rest
    else r :: restrictList added rest

end ShardingCondition

/-- Keys generated for the rows of an INSERT. -/
structure GeneratedKeys where
  column : String
  values : List Value
  deriving DecidableEq

/-- The conditions of a statement. -/
structure ShardingConditions where
  conditions : List ShardingCondition
  keys : Option GeneratedKeys
  deriving DecidableEq

namespace ShardingConditions

/-- Nothing known. -/
def none : ShardingConditions := ⟨[], .none⟩

/-- Whether there are conditions and no row can satisfy any of them. -/
def areNever (c : ShardingConditions) : Bool :=
  !c.conditions.isEmpty && c.conditions.all ShardingCondition.isNever

/-- Only the last condition. -/
def keepLast (c : ShardingConditions) : ShardingConditions :=
  { c with conditions := c.conditions.getLast?.toList }

end ShardingConditions

end ScatterGather
