import ScatterGather.Text.Hex
import ScatterGather.Text.Numeral
import ScatterGather.Text.Split

/-!
# Json/Basic — documents of nested values and their written form

A number keeps the text it was written with, so nothing is lost between reading and use.  `render`
writes a document on one line, `renderIndented` over several, two spaces a level.
-/

namespace ScatterGather

/-- A JSON document. -/
inductive Json where
  | null
  | bool (b : Bool)
  | number (literal : String)
  | string (s : String)
  | array (items : List Json)
  | object (members : List (String × Json))
  deriving Inhabited

namespace Json

/-- An integer as a document. -/
def ofInt (n : Int) : Json := .number (Text.ofInt n)

/-- A natural number as a document. -/
def ofNat (n : Nat) : Json := .number (Text.ofNat n)

/-- The texts as a document. -/
def ofTexts (texts : List String) : Json := .array (texts.map .string)

/-- The document, or null in its absence. -/
def ofOption (f : α → Json) : Option α → Json
  | some a => f a
  | none => .null

/-- The last member of an object with that name. -/
def member? (name : String) : Json → Option Json
  | .object members => (members.reverse.find? fun m => m.1 = name).map (·.2)
  | _ => none

/-- The integer a number denotes, if it is written as one. -/
def int? : Json → Option Int
  | .number literal => Text.integer? literal.toList
  | _ => none

/-- One character inside a quoted string. -/
def escapeChar (c : Char) : List Char :=
  if c = '"' then ['\\', '"']
  else if c = '\\' then ['\\', '\\']
  else if c = '\n' then ['\\', 'n']
  else if c = '\r' then ['\\', 'r']
  else if c = '\t' then ['\\', 't']
  else if c.toNat = 8 then ['\\', 'b']
  else if c.toNat = 12 then ['\\', 'f']
  else if c.toNat < 0x20 then ['\\', 'u'] ++ Text.hexDigits 4 c.toNat
  else [c]

/-- A string between quotes. -/
def quote (s : String) : String := String.ofList ('"' :: s.toList.flatMap escapeChar ++ ['"'])

/-- The texts between an opening and a closing mark, separated by commas. -/
def enclose (opening closing : String) (texts : List String) : String :=
  opening ++ Text.join "," texts ++ closing

/-- The texts over several lines, `depth` levels deep. -/
def encloseLines (opening closing : String) (depth : Nat) (texts : List String) : String :=
  let indent (n : Nat) := String.ofList (List.replicate (2 * n) ' ')
  if texts.isEmpty then opening ++ closing
  else
    let lines := texts.map fun t => "\n" ++ indent (depth + 1) ++ t
    opening ++ Text.join "," lines ++ "\n" ++ indent depth ++ closing

mutual

/-- The document on one line. -/
def render : Json → String
  | .null => "null"
  | .bool b => if b then "true" else "false"
  | .number literal => literal
  | .string s => quote s
  | .array items => enclose "[" "]" (renderItems items)
  | .object members => enclose "\x7b" "\x7d" (renderMembers members)

/-- Each item on one line. -/
def renderItems : List Json → List String
  | [] => []
  | item :: rest => item.render :: renderItems rest

/-- Each member with its name. -/
def renderMembers : List (String × Json) → List String
  | [] => []
  | (name, value) :: rest => (quote name ++ ":" ++ value.render) :: renderMembers rest

end

mutual

/-- The document over several lines, starting `depth` levels deep. -/
def renderIndented (depth : Nat) : Json → String
  | .null => "null"
  | .bool b => if b then "true" else "false"
  | .number literal => literal
  | .string s => quote s
  | .array items => encloseLines "[" "]" depth (indentedItems (depth + 1) items)
  | .object members => encloseLines "\x7b" "\x7d" depth (indentedMembers (depth + 1) members)

/-- Each item, `depth` levels deep. -/
def indentedItems (depth : Nat) : List Json → List String
  | [] => []
  | item :: rest => item.renderIndented depth :: indentedItems depth rest

/-- Each member with its name, `depth` levels deep. -/
def indentedMembers (depth : Nat) : List (String × Json) → List String
  | [] => []
  | (name, value) :: rest =>
    (quote name ++ ": " ++ value.renderIndented depth) :: indentedMembers depth rest

end

end Json

end ScatterGather
