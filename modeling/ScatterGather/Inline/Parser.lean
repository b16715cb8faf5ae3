import ScatterGather.Inline.Basic
import ScatterGather.Text.Alphanumeric

/-!
# Inline/Parser — reading templates

A placeholder opens with a dollar sign and a brace, an arrow optionally between them, and closes
with a brace; blanks may stand just inside the braces, around operators and list items.
`Template.parse` fails exactly where an opener does not start a placeholder, and reports the text
from there on.
-/

namespace ScatterGather.Inline

/-- Reads something at the head of a text and returns the rest. -/
abbrev Reader (α : Type) := List Char → Option (α × List Char)

/-- The blanks that may stand inside a placeholder. -/
def isSpace (c : Char) : Bool := c = ' ' || c = '\t' || c = '\r' || c = '\n'

/-- The text without leading blanks. -/
def skipSpace (cs : List Char) : List Char := cs.dropWhile isSpace

/-- The rest after one expected character. -/
def expect? (c : Char) : List Char → Option (List Char)
  | [] => none
  | d :: rest => if d = c then some rest else none

/-- The rest after an opener. -/
def opener? : List Char → Option (List Char)
  | '$' :: '\x7b' :: rest => some rest
  | '$' :: '-' :: '>' :: '\x7b' :: rest => some rest
  | _ => none

/-- The characters of an integer: digits after an optional minus sign. -/
def numeralText? : Reader (List Char) := fun cs =>
  let (sign, rest) := match cs with
    | '-' :: rest => (['-'], rest)
    | _ => ([], cs)
  let digits := rest.takeWhile Char.isDigit
  if digits.isEmpty then none else some (sign ++ digits, rest.dropWhile Char.isDigit)

/-- An integer of 64 bits. -/
def integer? : Reader Int64 := fun cs =>
  (numeralText? cs).bind fun (text, rest) => (Text.int64? text).map fun n => (n, rest)

/-- A range: two integers with two points between them. -/
def range? : Reader Placeholder := fun cs =>
  (integer? cs).bind fun (first, rest) =>
    match rest with
    | '.' :: '.' :: rest => (integer? rest).map fun (last, rest) => (.range first last, rest)
    | _ => none

/-- The characters up to a closing quote. -/
def quoted? (quote : Char) : Reader (List Char) := fun cs =>
  match cs.dropWhile (· ≠ quote) with
  | [] => none
  | _ :: rest => some (cs.takeWhile (· ≠ quote), rest)

/-- An item of a list: a text in single or double quotes, or an integer as it is written. -/
def item? : Reader String := fun cs =>
  match cs with
  | '\'' :: rest => (quoted? '\'' rest).map fun (text, rest) => (String.ofList text, rest)
  | '"' :: rest => (quoted? '"' rest).map fun (text, rest) => (String.ofList text, rest)
  | _ => (numeralText? cs).bind fun (text, rest) =>
    (Text.int64? text).map fun _ => (String.ofList text, rest)

/-- Items separated by commas, blanks around each of them; `fuel` bounds their number. -/
def items? : Nat → Reader (List String)
  | 0, _ => none
  | fuel + 1, cs =>
    (item? (skipSpace cs)).bind fun (text, rest) =>
      match skipSpace rest with
      | ',' :: more => (items? fuel more).map fun (texts, rest) => (text :: texts, rest)
      | rest => some ([text], rest)

/-- A list: items between brackets. -/
def list? : Reader Placeholder := fun cs =>
  (expect? '[' cs).bind fun rest =>
    (items? (rest.length + 1) rest).bind fun (texts, rest) =>
      (expect? ']' rest).map fun rest => (.items texts, rest)

/-- The operator that a character stands for. -/
def operator? (c : Char) : Option Operator :=
  if c = '%' then some .modulo
  else if c = '+' then some .plus
  else if c = '-' then some .minus
  else if c = '*' then some .times
  else if c = '/' then some .dividedBy
  else none

/-- An operator between blanks, then an integer. -/
def operation? : Reader (Operator × Int64) := fun cs =>
  match skipSpace cs with
  | [] => none
  | c :: rest => (operator? c).bind fun op =>
    (integer? (skipSpace rest)).map fun (n, rest) => ((op, n), rest)

/-- Whether a character may continue a column name. -/
def isNameChar (c : Char) : Bool := Text.isAlphanumeric c || c = '_'

/-- A column name, with arithmetic if an operator and an integer follow. -/
def column? : Reader Placeholder := fun cs =>
  match cs with
  | [] => none
  | c :: rest =>
    if Text.isAsciiLetter c || c = '_' then
      let name := String.ofList (c :: rest.takeWhile isNameChar)
      let rest := rest.dropWhile isNameChar
      match operation? rest with
      | some (operation, rest) => some (.column name (some operation), rest)
      | none => some (.column name none, rest)
    else none

/-- What stands between the braces. -/
def body? : Reader Placeholder := fun cs =>
  match range? cs with
  | some found => some found
  | none =>
    match list? cs with
    | some found => some found
    | none => column? cs

/-- A whole placeholder. -/
def placeholder? : Reader Placeholder := fun cs =>
  (opener? cs).bind fun rest =>
    (body? (skipSpace rest)).bind fun (p, rest) =>
      (expect? '\x7d' (skipSpace rest)).map fun rest => (p, rest)

/-- The literal whose characters, last first, are `cs`, before the segments; an empty one is
none. -/
def consLiteral (cs : List Char) (segments : List Segment) : List Segment :=
  if cs.isEmpty then segments else .literal (String.ofList cs.reverse) :: segments

/-- The segments of a text, `literal` being the characters since the last placeholder, last first;
or the text from the first opener that starts no placeholder.  Every step takes a character, so the
length of the text bounds them. -/
def readSegments : Nat → List Char → List Char → Except (List Char) (List Segment)
  | 0, literal, _ => .ok (consLiteral literal [])
  | _ + 1, literal, [] => .ok (consLiteral literal [])
  | fuel + 1, literal, c :: rest =>
    if (opener? (c :: rest)).isSome then
      match placeholder? (c :: rest) with
      | some (p, rest) =>
        (readSegments fuel [] rest).map fun found => consLiteral literal (.placeholder p :: found)
      | none => .error (c :: rest)
    else readSegments fuel (c :: literal) rest

/-- The template of a text, blanks at either end aside. -/
def Template.parse (text : String) : Except Malformed Template :=
  let cs := Text.trimChars text.toList
  match readSegments (cs.length + 1) [] cs with
  | .ok found => .ok ⟨String.ofList cs, found⟩
  | .error rest => .error (.placeholder (String.ofList cs) (String.ofList rest))

end ScatterGather.Inline
