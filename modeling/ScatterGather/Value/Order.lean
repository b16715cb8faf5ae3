import ScatterGather.Value.Basic

/-!
# Value/Order — equality, order and keys of cells

Three relations, from fine to coarse.  `key` is what a hash table sees: the type and its payload,
decimals without trailing zeros.  `equals` is equality of one type's values.  `order?` compares
across types: numbers of every width, both text types, days with instants; it has no answer for
NULL against a value, for JSON and for NaN.
-/

namespace ScatterGather.Value

/-- Equality within one type: decimals by number, doubles as IEEE 754 has it. -/
def equals : Value → Value → Bool
  | real x, real y => x.equals y
  | numeric d, numeric e => d.equals e
  | a, b => a == b

/-- What a hash table hashes: the type, and the payload with decimals normalized. -/
def key : Value → Value
  | numeric d => numeric d.normalize
  | v => v

/-- Whether a hash table takes two values for one key. -/
def sameKey (a b : Value) : Bool := a.key == b.key && a.equals b

/-- Whether a hash table takes two lists of values for one key. -/
def sameKeys : List Value → List Value → Bool
  | [], [] => true
  | a :: as, b :: bs => a.sameKey b && sameKeys as bs
  | _, _ => false

/-- Equality cell by cell. -/
def equalsAll : List Value → List Value → Bool
  | [], [] => true
  | a :: as, b :: bs => a.equals b && equalsAll as bs
  | _, _ => false

/-- The order of two numbers: integers exactly, as doubles when one is a double, as decimals
otherwise. -/
def orderNumbers? (a b : Value) : Option Ordering :=
  match a.int?, b.int? with
  | some x, some y => some (compare x.toInt y.toInt)
  | _, _ =>
    if a.isReal || b.isReal then
      a.binary64?.bind fun x => b.binary64?.bind fun y => x.order? y
    else a.decimal?.bind fun x => b.decimal?.map fun y => x.order y

/-- The order of two texts by code point. -/
def orderTexts (a b : String) : Ordering := compare a b

/-- The order of two values, if their types have one. -/
def order? (a b : Value) : Option Ordering :=
  match a, b with
  | null, null => some .eq
  | null, _ => none
  | _, null => none
  | boolean x, boolean y => some (compare x.toNat y.toNat)
  | date x, date y => some (compare x.days y.days)
  | timestamp x, timestamp y => some (compare x.nanos y.nanos)
  | timestampTz x, timestampTz y => some (compare x.nanos y.nanos)
  | date x, timestamp y => some (compare x.midnight.nanos y.nanos)
  | timestamp x, date y => some (compare x.nanos y.midnight.nanos)
  | uuid x, uuid y => some (compare x.toNat y.toNat)
  | bytea x, bytea y => some (compare (x.map UInt8.toNat) (y.map UInt8.toNat))
  | a, b =>
    match a.text?, b.text? with
    | some x, some y => some (orderTexts x y)
    | _, _ => if a.isNumeric && b.isNumeric then orderNumbers? a b else none

/-- The order of two values, texts in lower case. -/
def orderFolded? (a b : Value) : Option Ordering :=
  match a.text?, b.text? with
  | some x, some y => some (orderTexts (Text.lower x) (Text.lower y))
  | _, _ => a.order? b

end ScatterGather.Value
