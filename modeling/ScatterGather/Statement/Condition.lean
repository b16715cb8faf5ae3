import ScatterGather.Error

/-!
# Statement/Condition — predicates of WHERE and HAVING

A `Condition` is a tree of AND and OR over `Predicate`s.  `andGroups` is its disjunctive normal
form: groups of predicates, one of which has to hold as a whole.  `Expression.resolve` finds the
value of an operand.
-/

namespace ScatterGather

/-- Splits `t.c` into the owner `t` and the column `c`. -/
def splitColumn (name : String) : Option String × String :=
  match Text.splitLast? '.' name.toList with
  | some (owner, column) => (some (String.ofList owner), String.ofList column)
  | none => (none, name)

/-- The column without its owner. -/
def bareColumn (name : String) : String := (splitColumn name).2

/-- The value of a literal or a bound parameter; nothing for operands that need a clock or the
database. -/
def Expression.resolve (parameters : List Value) : Expression → Except Error (Option Value)
  | .literal v => .ok (some v)
  | .parameter index =>
    match parameters[index]? with
    | some v => .ok (some v)
    | none => .error (.parameterOutOfRange index)
  | .now | .complex _ => .ok none

/-- A comparison operator. -/
inductive Comparison where
  | equal
  | notEqual
  | greater
  | less
  | greaterOrEqual
  | lessOrEqual
  deriving DecidableEq

/-- Whether a comparison holds of two values in this order. -/
def Comparison.holds : Comparison → Ordering → Bool
  | equal, o => o == .eq
  | notEqual, o => o != .eq
  | greater, o => o == .gt
  | less, o => o == .lt
  | greaterOrEqual, o => o != .lt
  | lessOrEqual, o => o != .gt

/-- One test of one column. -/
inductive Predicate where
  | compare (op : Comparison) (column : String) (operand : Expression)
  | between (column : String) (low high : Expression)
  | like (column pattern : String)
  | among (column : String) (operands : List Expression)
  | isNull (column : String)
  | isNotNull (column : String)
  deriving DecidableEq

/-- The column a predicate tests. -/
def Predicate.column : Predicate → String
  | compare _ c _ | between c _ _ | like c _ | among c _ | isNull c | isNotNull c => c

/-- A tree of predicates. -/
inductive Condition where
  | test (p : Predicate)
  | and (left right : Condition)
  | or (left right : Condition)
  deriving DecidableEq

namespace Condition

/-- Groups of predicates joined by AND, the groups joined by OR. -/
def andGroups : Condition → List (List Predicate)
  | test p => [[p]]
  | and left right =>
    left.andGroups.flatMap fun l => right.andGroups.map fun r => l ++ r
  | or left right => left.andGroups ++ right.andGroups

end Condition

end ScatterGather
