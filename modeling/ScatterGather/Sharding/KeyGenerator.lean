import ScatterGather.Clock
import ScatterGather.RandomSource
import ScatterGather.Sharding.Algorithm

/-!
# Sharding/KeyGenerator — primary keys without a central counter

A snowflake key packs the milliseconds since the end of October 2016, the worker's number and a
sequence number within the millisecond; when the sequence is used up the generator waits for the
clock.  A random key is a version 4 identifier in hexadecimal digits.  Keys come from
`KeyGenerator.next`, which returns the generator's next state beside the key.
-/

namespace ScatterGather.Sharding

/-- The instant from which snowflake keys count, 2016-11-01, in milliseconds. -/
def snowflakeEpoch : Int := 1477958400000

/-- A snowflake generator: what it packs and where it stands. -/
structure Snowflake where
  worker : Nat
  clock : Clock
  lastMillis : Int
  sequence : Nat
  worker_lt : worker < 1024
  deriving DecidableEq

/-- A source of keys. -/
inductive KeyGenerator where
  | snowflake (s : Snowflake)
  | random (source : RandomSource)
  deriving DecidableEq

namespace Snowflake

/-- The key of a millisecond and a sequence number: 22 low bits for worker and sequence. -/
def pack (worker : Nat) (millis : Int) (sequence : Nat) : Int :=
  (millis - snowflakeEpoch) * 2 ^ 22 + ((worker * 2 ^ 12 + sequence : Nat) : Int)

/-- The millisecond and sequence number of the next key, and the clock after it.  A clock that went
back is taken to show the last millisecond; a used up sequence waits for the next one. -/
def advance (s : Snowflake) : Option (Int × Nat × Clock) :=
  let (reading, clock) := s.clock.now
  let now := max reading.millis s.lastMillis
  if now = s.lastMillis then
    let sequence := (s.sequence + 1) % 2 ^ 12
    if sequence = 0 then
      (Clock.readAfter? s.lastMillis clock.final clock.runs).map fun (reading, clock) =>
        (reading.millis, 0, clock)
    else some (now, sequence, clock)
  else some (now, 0, clock)

/-- The next key, wrapped to 64 bits, and the generator after it. -/
def next (s : Snowflake) : Except Error (Value × Snowflake) :=
  match s.advance with
  | some (millis, sequence, clock) =>
    .ok (.integer (Int64.ofInt (pack s.worker millis sequence)),
      { s with clock, lastMillis := millis, sequence })
  | none => .error .clockStopped

end Snowflake

namespace KeyGenerator

/-- The name of the generator's type. -/
def typeName : KeyGenerator → String
  | snowflake _ => "SNOWFLAKE"
  | random _ => "UUID"

/-- The next key and the generator after it. -/
def next : KeyGenerator → Except Error (Value × KeyGenerator)
  | snowflake s => s.next.map fun (key, s) => (key, snowflake s)
  | random source =>
    let (u, source) := source.uuid
    .ok (.text (String.ofList (Text.hexDigits 32 u.toNat)), random source)

/-- The next `count` keys and the generator after them. -/
def take (g : KeyGenerator) : Nat → Except Error (List Value × KeyGenerator)
  | 0 => .ok ([], g)
  | count + 1 => do
    let (key, g) ← g.next
    let (keys, g) ← g.take count
    return (key :: keys, g)

/-- The number of a worker: zero where none is given. -/
def worker (props : Properties) : Except Error Int :=
  match props.lookup "worker-id" with
  | none => .ok 0
  | some raw =>
    match Text.int64? (Text.trimChars raw.toList) with
    | some n => .ok n.toInt
    | none => .error (.invalidConfig (.workerNumeral raw))

/-- The generator of a type's name, in any case, and its properties. -/
def create (typeName : String) (props : Properties) (clock : Clock) (source : RandomSource) :
    Except Error KeyGenerator :=
  let name := Text.upper typeName
  if name = "SNOWFLAKE" then do
    let id ← worker props
    if h : 0 ≤ id ∧ id < 1024 then
      return snowflake ⟨id.toNat, clock, 0, 0, by omega⟩
    else throw (.invalidConfig (.workerRange id))
  else if name = "UUID" then .ok (random source)
  else .error (.invalidConfig (.keyGeneratorType name))

end KeyGenerator

end ScatterGather.Sharding
