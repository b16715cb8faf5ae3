import ScatterGather.Text.Quoted
import ScatterGather.Value.Basic

/-!
# Expression — operands of predicates and inserted cells

An operand is a literal, a bound parameter, the clock's present instant, or text that only the
database can evaluate.
-/

namespace ScatterGather

/-- The right-hand side of a predicate, or an inserted cell. -/
inductive Expression where
  | literal (value : Value)
  | parameter (index : Nat)
  | now
  | complex (text : String)
  deriving DecidableEq

/-- An operand that has no value after merging, as diagnostics show it. -/
def Expression.inspect : Expression → String
  | literal value => value.render
  | parameter index => Text.ofNat index
  | now => "Now"
  | complex text => "Complex(" ++ Text.quoted text ++ ")"

end ScatterGather
