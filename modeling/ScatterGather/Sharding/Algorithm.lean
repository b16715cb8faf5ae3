import ScatterGather.Digest
import ScatterGather.Inline.Parser
import ScatterGather.Text.Split
import ScatterGather.ValueRange

/-!
# Sharding/Algorithm — from sharding values to targets

Targets are names of data sources or of tables; most algorithms compute a number and pick the first
target whose name ends in it.  `Algorithm.target` maps one value to its target and
`Algorithm.rangeTargets` a range of values to all targets that may hold one of them.
-/

namespace ScatterGather

/-- Settings by name. -/
abbrev Properties := List (String × String)

namespace Sharding

/-- A way to map sharding values to targets.  The count of `modulo` and `hashModulo` is positive;
the limits of `boundaries` are strictly ascending. -/
inductive Algorithm where
  | modulo (count : Nat)
  | hashModulo (count : Nat)
  | inline (template : Inline.Template)
  | boundaries (limits : List Int64)
  deriving DecidableEq

/-- The number that the digits at the end of a target's name denote: `t_order_12` has 12. -/
def suffixNumber? (target : String) : Option Int64 :=
  Text.int64? (target.toList.reverse.takeWhile Char.isDigit).reverse

/-- The first target with the number `suffix`. -/
def targetWithSuffix (targets : List String) (suffix : Int) (value : Value) :
    Except Error String :=
  match targets.find? fun t => (suffixNumber? t).map Int64.toInt == some suffix with
  | some target => .ok target
  | none => .error (.noDataNode (.shard value suffix))

/-- The integer a value is or spells. -/
def integerValue (value : Value) : Except Error Int64 :=
  match value.int? with
  | some n => .ok n
  | none =>
    match Text.int64? (Text.trimChars value.render.toList) with
    | some n => .ok n
    | none => .error (.notComparable (.notAnInteger value))

/-- The hash of a value's text. -/
def hash (value : Value) : Nat := Digest.lead64 value.render.toUTF8.data.toList

/-- The number of the part that holds `v`: how many limits are at most `v`. -/
def partition (limits : List Int64) (v : Int64) : Nat :=
  (limits.takeWhile fun limit => limit.toInt ≤ v.toInt).length

/-- The least and the greatest integer of a part.  No integer is below the least one as a limit:
there the subtraction wraps around, or stops the program where overflow is checked. -/
def partitionBounds (limits : List Int64) (part : Nat) : Int × Int :=
  let low := match part with
    | 0 => -2 ^ 63
    | before + 1 => ((limits[before]?).map Int64.toInt).getD (-2 ^ 63)
  let high := ((limits[part]?).map fun limit => (limit - 1).toInt).getD (2 ^ 63 - 1)
  (low, high)

/-- The least integer above a lower bound; nothing when the bound is not an integer. -/
def lowerEnd? : Option Bound → Option Int
  | none => some (-2 ^ 63)
  | some b => b.value.int?.map fun v =>
    if b.inclusive then v.toInt else min (v.toInt + 1) (2 ^ 63 - 1)

/-- The greatest integer below an upper bound; nothing when the bound is not an integer. -/
def upperEnd? : Option Bound → Option Int
  | none => some (2 ^ 63 - 1)
  | some b => b.value.int?.map fun v =>
    if b.inclusive then v.toInt else max (v.toInt - 1) (-2 ^ 63)

/-- The items without later repetitions. -/
def distinct [DecidableEq α] (items : List α) : List α :=
  items.foldl (fun seen a => if a ∈ seen then seen else seen ++ [a]) []

namespace Algorithm

/-- The name of the algorithm's type. -/
def typeName : Algorithm → String
  | modulo _ => "MOD"
  | hashModulo _ => "HASH_MOD"
  | inline _ => "INLINE"
  | boundaries _ => "BOUNDARY_RANGE"

/-- The target of one value of `column`. -/
def target (algorithm : Algorithm) (targets : List String) (column : String) (value : Value) :
    Except Error String :=
  match algorithm with
  | modulo count => do targetWithSuffix targets ((← integerValue value).toInt % count) value
  | hashModulo count => targetWithSuffix targets ((hash value % count : Nat) : Int) value
  | inline template =>
    match template.evaluate column value with
    | .error why => .error (.invalidExpression why)
    | .ok name =>
      match targets.find? fun t => Text.sameName t name with
      | some target => .ok target
      | none => .error (.noDataNode (.name name))
  | boundaries limits => do
    targetWithSuffix targets ((partition limits (← integerValue value) : Nat) : Int) value

/-- Whether a target's part meets the integers from `low` to `high`. -/
def partMeets (limits : List Int64) (low high : Int) (target : String) : Bool :=
  match suffixNumber? target with
  | none => false
  | some suffix =>
    if suffix.toInt < 0 ∨ (limits.length : Int) < suffix.toInt then false
    else
      let bounds := partitionBounds limits suffix.toInt.toNat
      low ≤ bounds.2 && bounds.1 ≤ high

/-- The targets of the integers from `low` to `high`, each once; all targets where the integers
take every remainder. -/
def moduloTargets (count : Nat) (targets : List String) (low high : Int64) :
    Except Error (List String) :=
  if high.toInt < low.toInt then .ok []
  else if (count : Int) ≤ min (high.toInt - low.toInt) (2 ^ 63 - 1) then .ok targets
  else
    (((Inline.between low.toInt high.toInt).mapM fun v =>
      targetWithSuffix targets (v % count) (.integer (Int64.ofInt v))).map distinct)

/-- The targets that may hold a value of the range; all of them where the algorithm cannot tell. -/
def rangeTargets (algorithm : Algorithm) (targets : List String) (range : ValueRange) :
    Except Error (List String) :=
  match algorithm with
  | modulo count =>
    match range.integerBounds? with
    | none => .ok targets
    | some (low, high) => moduloTargets count targets low high
  | boundaries limits =>
    match lowerEnd? range.lower, upperEnd? range.upper with
    | some low, some high => .ok (targets.filter (partMeets limits low high))
    | _, _ => .ok targets
  | hashModulo _ | inline _ => .ok targets

/-- A property that the algorithm cannot do without. -/
def required (props : Properties) (key typeName : String) : Except Error String :=
  match props.lookup key with
  | some raw => .ok raw
  | none => .error (.invalidConfig (.missingProperty typeName key))

/-- The number of shards: a positive integer. -/
def shardingCount (props : Properties) (typeName : String) : Except Error Nat := do
  let raw ← required props "sharding-count" typeName
  match (Text.int64? (Text.trimChars raw.toList)).filter (0 < ·.toInt) with
  | some n => .ok n.toInt.toNat
  | none => .error (.invalidConfig (.shardingCount typeName raw))

/-- The template of an inline algorithm, which must name a column. -/
def inlineTemplate (props : Properties) : Except Error Inline.Template := do
  let raw ← required props "algorithm-expression" "INLINE"
  match Inline.Template.parse raw with
  | .error why => .error (.invalidConfig (.inlineExpression why))
  | .ok template =>
    if template.columns.isEmpty then .error (.invalidConfig (.inlineWithoutColumn raw))
    else .ok template

/-- One limit between parts. -/
def limit (piece : List Char) : Except Error Int64 :=
  match Text.int64? (Text.trimChars piece) with
  | some n => .ok n
  | none => .error (.invalidConfig (.boundary (String.ofList piece)))

/-- Whether every item is below the next one. -/
def ascending : List Int64 → Bool
  | a :: b :: rest => a.toInt < b.toInt && ascending (b :: rest)
  | _ => true

/-- The limits between parts: integers separated by commas, strictly ascending. -/
def limits (props : Properties) : Except Error (List Int64) := do
  let raw ← required props "sharding-ranges" "BOUNDARY_RANGE"
  let found ← (Text.splitAll ',' raw.toList).mapM limit
  if ascending found then .ok found else .error (.invalidConfig (.unorderedBoundaries raw))

/-- The algorithm of a type's name, in any case, and its properties. -/
def create (typeName : String) (props : Properties) : Except Error Algorithm :=
  let name := Text.upper typeName
  if name = "MOD" then (shardingCount props "MOD").map modulo
  else if name = "HASH_MOD" then (shardingCount props "HASH_MOD").map hashModulo
  else if name = "INLINE" then (inlineTemplate props).map inline
  else if name = "BOUNDARY_RANGE" then (limits props).map boundaries
  else .error (.invalidConfig (.shardingAlgorithmType name))

end Algorithm

end Sharding

end ScatterGather
