import ScatterGather.Json.Reader
import ScatterGather.Value.Basic

/-!
# Value/Serial — cells as JSON documents

A cell is an object whose one member is named for its type, NULL the plain text of its name.
`ofJson?` reads back what `toJson` writes, a double as near to it as number literals are read.
-/

namespace ScatterGather.Value

/-- The cell as a document. -/
def toJson : Value → Json
  | null => .string "Null"
  | smallInt n => .object [("SmallInt", .ofInt n.toInt)]
  | integer n => .object [("Integer", .ofInt n.toInt)]
  | real x => .object [("Real", if x.isFinite then .number (Json.realLiteral x) else .null)]
  | numeric d => .object [("Numeric", .string d.render)]
  | text s => .object [("Text", .string s)]
  | char s => .object [("Char", .string s)]
  | boolean b => .object [("Boolean", .bool b)]
  | date d => .object [("Date", .string d.render)]
  | timestamp m => .object [("Timestamp", .string (m.renderExact "T"))]
  | timestampTz m => .object [("TimestampTz", .string (m.renderExact "T" ++ "Z"))]
  | uuid u => .object [("Uuid", .string (uuidText u))]
  | json s => .object [("Json", .string s)]
  | bytea bytes => .object [("Bytea", .array (bytes.map fun b => .ofNat b.toNat))]

/-- The 16-bit integer equal to `n`, if there is one. -/
def toInt16? (n : Int) : Option Int16 :=
  if -2 ^ 15 ≤ n ∧ n < 2 ^ 15 then some (Int16.ofInt n) else none

/-- The 128 bits of a text of hexadecimal groups. -/
def uuid? (s : String) : Option (BitVec 128) :=
  let digits := s.toList.filter (· ≠ '-')
  if digits.length = 32 then (Text.hexFrom? 0 digits).map (BitVec.ofNat 128) else none

/-- The byte that a document holds. -/
def byte? (j : Json) : Option UInt8 :=
  j.int?.bind fun n => if 0 ≤ n ∧ n < 256 then some (UInt8.ofNat n.toNat) else none

/-- The cell of a type's name and its document. -/
def ofMember? : String → Json → Option Value
  | "SmallInt", j => (j.int?.bind toInt16?).map smallInt
  | "Integer", j => (j.int?.bind Text.toInt64?).map integer
  | "Real", .number literal => (Json.real? literal).map real
  | "Numeric", .string s => (Decimal.parse? s).map numeric
  | "Text", .string s => some (text s)
  | "Char", .string s => some (char s)
  | "Boolean", .bool b => some (boolean b)
  | "Date", .string s => (Date.parse? s.toList).map date
  | "Timestamp", .string s => (Moment.parse? 'T' s.toList).map timestamp
  | "TimestampTz", .string s => (Moment.parse? 'T' s.toList.dropLast).map timestampTz
  | "Uuid", .string s => (uuid? s).map uuid
  | "Json", .string s => some (json s)
  | "Bytea", .array items => (items.mapM byte?).map bytea
  | _, _ => none

/-- The cell that a document holds. -/
def ofJson? : Json → Option Value
  | .string s => if s = "Null" then some null else none
  | .object [(name, j)] => ofMember? name j
  | _ => none

end ScatterGather.Value
