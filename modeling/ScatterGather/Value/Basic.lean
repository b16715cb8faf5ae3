import ScatterGather.Binary64.Text
import ScatterGather.Calendar
import ScatterGather.Decimal.Binary64
import ScatterGather.Text.Case
import ScatterGather.Text.Hex

/-!
# Value/Basic — cells of rows, parameters and sharding operands

A `Value` is one cell with its SQL type.  Its views as an integer, a text, a decimal and a double
are partial (`int?`, `text?`, `decimal?`, `binary64?`), and `render` is its text: the text that
hashing algorithms hash and error messages show.
-/

namespace ScatterGather

/-- One cell. -/
inductive Value where
  | null
  | smallInt (n : Int16)
  | integer (n : Int64)
  | real (x : Binary64)
  | numeric (d : Decimal)
  | text (s : String)
  | char (s : String)
  | boolean (b : Bool)
  | date (d : Date)
  | timestamp (m : Moment)
  | timestampTz (m : Moment)
  | uuid (u : BitVec 128)
  | json (s : String)
  | bytea (bytes : List UInt8)
  deriving DecidableEq

namespace Value

instance : Inhabited Value := ⟨null⟩

/-- Whether the value is NULL. -/
def isNull : Value → Bool
  | null => true
  | _ => false

/-- Whether the value can be sharded by and aggregated: anything but NULL and JSON. -/
def isComparable : Value → Bool
  | null | json _ => false
  | _ => true

/-- The integer, for both integer types. -/
def int? : Value → Option Int64
  | smallInt n => some n.toInt64
  | integer n => some n
  | _ => none

/-- The text, for both text types. -/
def text? : Value → Option String
  | text s | char s => some s
  | _ => none

/-- Whether the value is a number of any type. -/
def isNumeric : Value → Bool
  | smallInt _ | integer _ | real _ | numeric _ => true
  | _ => false

/-- Whether the value is a double. -/
def isReal : Value → Bool
  | real _ => true
  | _ => false

/-- The number as a decimal, if it is one and fits. -/
def decimal? : Value → Option Decimal
  | smallInt n => some (.ofInt64 n.toInt64)
  | integer n => some (.ofInt64 n)
  | real x => Decimal.ofBinary64? x
  | numeric d => some d
  | _ => none

/-- The number as a double. -/
def binary64? : Value → Option Binary64
  | smallInt n => some (.ofInt n.toInt)
  | integer n => some (.ofInt n.toInt)
  | real x => some x
  | numeric d => some d.toBinary64
  | _ => none

/-- The value with text in lower case, so that case-insensitive columns group together. -/
def foldCase : Value → Value
  | text s => text (Text.lower s)
  | char s => char (Text.lower s)
  | v => v

/-- Groups of 8, 4, 4, 4 and 12 hexadecimal digits. -/
def uuidText (u : BitVec 128) : String :=
  let digits := Text.hexDigits 32 u.toNat
  let group (start length : Nat) := (digits.drop start).take length
  String.ofList (group 0 8 ++ '-' :: group 8 4 ++ '-' :: group 12 4 ++ '-' :: group 16 4 ++
    '-' :: group 20 12)

/-- The text of a value. -/
def render : Value → String
  | null => "NULL"
  | smallInt n => Text.ofInt n.toInt
  | integer n => Text.ofInt n.toInt
  | real x => x.render
  | numeric d => d.render
  | text s | char s | json s => s
  | boolean b => if b then "true" else "false"
  | date d => d.render
  | timestamp m => m.render
  | timestampTz m => m.render ++ " UTC"
  | uuid u => uuidText u
  | bytea bytes => "\\x" ++ Text.ofBytes bytes

end Value

end ScatterGather
