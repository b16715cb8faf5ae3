import ScatterGather.Decimal.Binary64
import ScatterGather.Merge.SortKey
import ScatterGather.Statement.SelectList
import ScatterGather.Value.Sum

/-!
# Merge/Accumulator — aggregates of aggregates

Every node has aggregated its own rows.  An `Accumulator` takes in those partial aggregates, or for
DISTINCT the bare values, and shows the aggregate of all.  NULLs are passed over.
-/

namespace ScatterGather

/-- The state of one aggregate of one group. -/
inductive Accumulator where
  /-- The least or the greatest value so far. -/
  | extreme (least : Bool) (best : Option Value)
  /-- The sum of sums or of counts. -/
  | total (sum : Option Value)
  /-- Counts and sums added up on their own; `real` once a sum was a double. -/
  | mean (count sum : Option Decimal) (real : Bool)
  /-- The different values so far, to be counted. -/
  | distinctCount (seen : List Value)
  /-- The different values so far, to be added up. -/
  | distinctSum (seen : List Value)
  /-- The different values so far, to be averaged. -/
  | distinctMean (seen : List Value)
  deriving DecidableEq

namespace Accumulator

/-- An accumulator that has taken in nothing. -/
def fresh : Aggregate → Bool → Accumulator
  | .max, _ => extreme false none
  | .min, _ => extreme true none
  | .sum, false | .count, false => total none
  | .avg, false => mean none none false
  | .count, true => distinctCount []
  | .sum, true => distinctSum []
  | .avg, true => distinctMean []

/-- The first input, unless it is NULL. -/
def firstInput? (inputs : List Value) : Option Value := inputs.head?.filter fun v => !v.isNull

/-- The last input, unless it is NULL. -/
def lastInput? (inputs : List Value) : Option Value := inputs.getLast?.filter fun v => !v.isNull

/-- A number as a decimal. -/
def number (v : Value) : Except Error Decimal :=
  match v.decimal? with
  | some d => .ok d
  | none => .error (.notComparable (.notNumeric v))

/-- The values with one more, unless it is there already. -/
def addNew (v : Value) (seen : List Value) : List Value :=
  if seen.any fun w => w.sameKey v then seen else seen ++ [v]

/-- The better of the best value so far and a new one. -/
def better (least : Bool) (best : Option Value) (v : Value) : Except Error Value :=
  if !v.isComparable then .error (.notComparable (.aggregated v))
  else
    match best with
    | none => .ok v
    | some current =>
      match v.order? current with
      | none => .error (.notComparable (.aggregatedPair v current))
      | some o => .ok (if o = (if least then .lt else .gt) then v else current)

/-- The sum so far and one more summand; the first one is checked to be a number. -/
def plus (sum : Option Value) (v : Value) : Except Error Value :=
  match sum with
  | none => v.add (.integer 0)
  | some current => current.add v

/-- The sum of two decimals, which has to fit: this is plain addition, which aborts where it does
not, unlike `Value.add`, which fails. -/
def addExact (a b : Decimal) : Except Error Decimal :=
  match a.add? b with
  | some d => .ok d
  | none => .error .additionOverflow

/-- Takes a count and a sum into a mean.  The count stays taken in when the sum turns out not to be
a number. -/
def feedMean (count sum : Option Decimal) (real : Bool) (c s : Value) :
    Except Error Unit × Accumulator :=
  if c.isNull || s.isNull then (.ok (), mean count sum real)
  else
    let real := real || s.isReal
    match (number c).bind (addExact (count.getD .zero)) with
    | .error e => (.error e, mean count sum real)
    | .ok count =>
      match (number s).bind (addExact (sum.getD .zero)) with
      | .error e => (.error e, mean (some count) sum real)
      | .ok sum => (.ok (), mean (some count) (some sum) real)

/-- Takes in one row's inputs: one cell, or the count and the sum of a mean. -/
def feed (inputs : List Value) : Accumulator → Except Error Unit × Accumulator
  | extreme least best =>
    match firstInput? inputs with
    | none => (.ok (), extreme least best)
    | some v =>
      match better least best v with
      | .error e => (.error e, extreme least best)
      | .ok v => (.ok (), extreme least (some v))
  | total sum =>
    match firstInput? inputs with
    | none => (.ok (), total sum)
    | some v =>
      match plus sum v with
      | .error e => (.error e, total sum)
      | .ok v => (.ok (), total (some v))
  | mean count sum real =>
    match inputs with
    | c :: s :: _ => feedMean count sum real c s
    | _ => (.error (.invalidExpression .averageInputs), mean count sum real)
  | distinctCount seen =>
    match firstInput? inputs with
    | none => (.ok (), distinctCount seen)
    | some v => (.ok (), distinctCount (addNew v seen))
  | distinctSum seen =>
    match firstInput? inputs with
    | none => (.ok (), distinctSum seen)
    | some v =>
      match number v with
      | .error e => (.error e, distinctSum seen)
      | .ok _ => (.ok (), distinctSum (addNew v seen))
  | distinctMean seen =>
    match lastInput? inputs with
    | none => (.ok (), distinctMean seen)
    | some v =>
      match number v with
      | .error e => (.error e, distinctMean seen)
      | .ok _ => (.ok (), distinctMean (addNew v seen))

/-- The number of places of a mean. -/
def meanPlaces : Nat := 4

/-- The mean in four places, a half going away from zero, as a double if a summand was one; NULL
without anything to average or where the quotient does not fit. -/
def average (sum count : Decimal) (real : Bool) : Value :=
  if count.isZero then .null
  else
    match (sum.div? count).map (Decimal.roundPlaces meanPlaces) with
    | none => .null
    | some d => if real then (((Value.numeric d).binary64?).map .real).getD .null else .numeric d

/-- The sum of values; NULL without any or where it does not fit. -/
def sumOf : List Value → Value
  | [] => .null
  | v :: rest => match rest.foldlM Value.add v with
    | .ok sum => sum
    | .error _ => .null

/-- The sum of decimals, which has to fit. -/
def addAll (ds : List Decimal) : Except Error Decimal := ds.foldlM addExact .zero

/-- The mean of values. -/
def meanOf (values : List Value) : Except Error Value :=
  match values.mapM Value.decimal? with
  | none => .ok .null
  | some ds => (addAll ds).map fun sum =>
    average sum ((Decimal.ofNat? values.length).getD .zero) (values.any Value.isReal)

/-- The aggregate of all that was taken in. -/
def result : Accumulator → Except Error Value
  | extreme _ best => .ok (best.getD .null)
  | total sum => .ok (sum.getD .null)
  | mean (some count) (some sum) real => .ok (average sum count real)
  | mean _ _ _ => .ok .null
  | distinctCount seen => .ok (.integer (Int64.ofNat seen.length))
  | distinctSum seen => .ok (sumOf seen)
  | distinctMean seen => meanOf seen

end Accumulator

end ScatterGather
