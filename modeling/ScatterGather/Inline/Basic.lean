import ScatterGather.Error

/-!
# Inline/Basic — texts with placeholders

A `Template` is literal text with placeholders in it: a range of integers, a list of texts, or a
column with optional arithmetic.  Templates without columns expand into all their texts (`expand`);
templates without ranges and lists evaluate against the value of one column (`evaluate`).
-/

namespace ScatterGather.Inline

/-- Arithmetic on the value of a column. -/
inductive Operator where
  | modulo
  | plus
  | minus
  | times
  | dividedBy
  deriving DecidableEq

/-- What stands between the braces. -/
inductive Placeholder where
  | range (first last : Int64)
  | items (texts : List String)
  | column (name : String) (operation : Option (Operator × Int64))
  deriving DecidableEq

/-- A piece of a template. -/
inductive Segment where
  | literal (text : String)
  | placeholder (p : Placeholder)
  deriving DecidableEq

/-- A parsed template and the text it was parsed from. -/
structure Template where
  source : String
  segments : List Segment
  deriving DecidableEq

/-- The integers from `first` to `last`. -/
def between (first last : Int) : List Int :=
  (List.range (last - first + 1).toNat).map fun (i : Nat) => first + (i : Int)

/-- The texts a segment may stand for. -/
def Segment.alternatives (source : String) : Segment → Except Malformed (List String)
  | .literal text => .ok [text]
  | .placeholder (.range first last) =>
    if last.toInt < first.toInt then .error (.emptyRange source first.toInt last.toInt)
    else .ok ((between first.toInt last.toInt).map Text.ofInt)
  | .placeholder (.items texts) => .ok texts
  | .placeholder (.column name _) => .error (.unexpandable source name)

/-- Every beginning followed by every ending, the beginnings varying slowest. -/
def product (beginnings endings : List String) : List String :=
  beginnings.flatMap fun b => endings.map fun e => b ++ e

/-- Appends every choice of the segments to the texts so far. -/
def expandFrom (source : String) (texts : List String) :
    List Segment → Except Malformed (List String)
  | [] => .ok texts
  | s :: rest => do expandFrom source (product texts (← s.alternatives source)) rest

/-- All texts of a template, the leftmost placeholder varying slowest. -/
def Template.expand (t : Template) : Except Malformed (List String) :=
  expandFrom t.source [""] t.segments

/-- The columns of a template, in order. -/
def Template.columns (t : Template) : List String :=
  t.segments.filterMap fun
    | .placeholder (.column name _) => some name
    | _ => none

/-- The result of arithmetic, if it is a 64-bit integer; the remainder is never negative. -/
def Operator.apply? (op : Operator) (value operand : Int) : Option Int64 :=
  match op with
  | .modulo =>
    if operand = 0 ∨ (value = -2 ^ 63 ∧ operand = -1) then none
    else Text.toInt64? (value % operand)
  | .plus => Text.toInt64? (value + operand)
  | .minus => Text.toInt64? (value - operand)
  | .times => Text.toInt64? (value * operand)
  | .dividedBy => if operand = 0 then none else Text.toInt64? (value.tdiv operand)

/-- The text of a column placeholder for a value of its column. -/
def columnText (source : String) (value : Value) :
    Option (Operator × Int64) → Except Malformed String
  | none => .ok value.render
  | some (op, operand) =>
    match value.int? with
    | none => .error (.nonIntegerOperand source value)
    | some v =>
      match op.apply? v.toInt operand.toInt with
      | some n => .ok (Text.ofInt n.toInt)
      | none => .error (.arithmetic source)

/-- The text of a segment for a value of `column`. -/
def Segment.evaluate (source column : String) (value : Value) : Segment → Except Malformed String
  | .literal text => .ok text
  | .placeholder (.column name operation) =>
    if Text.sameName name column then columnText source value operation
    else .error (.unknownColumn source name column)
  | .placeholder _ => .error (.notEvaluable source)

/-- The text of a template for a value of `column`, its only column. -/
def Template.evaluate (t : Template) (column : String) (value : Value) : Except Malformed String :=
  (t.segments.mapM (Segment.evaluate t.source column value)).map String.join

end ScatterGather.Inline
