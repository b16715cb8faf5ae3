import ScatterGather.Json.Number

/-!
# Json/Reader — documents read from text

`Json.parse?` reads one document that fills the text; a number too large for a double is refused.
The nesting of a document is bounded by the length of its text, which bounds the recursion.
-/

namespace ScatterGather.Json

/-- The four blanks of the format. -/
def isSpace (c : Char) : Bool := c = ' ' || c = '\t' || c = '\n' || c = '\r'

/-- The text without leading blanks. -/
def skipSpace (cs : List Char) : List Char := cs.dropWhile isSpace

/-- The number of four hexadecimal digits, and the rest. -/
def hex4? : List Char → Option (Nat × List Char)
  | a :: b :: c :: d :: rest => (Text.hexFrom? 0 [a, b, c, d]).map fun n => (n, rest)
  | _ => none

/-- The character of an escape that starts with `u`; two surrogates make one. -/
def unicode? (cs : List Char) : Option (Char × List Char) :=
  (hex4? cs).bind fun (n, rest) =>
    if 0xd800 ≤ n ∧ n < 0xdc00 then
      match rest with
      | '\\' :: 'u' :: more => (hex4? more).bind fun (low, rest) =>
        if 0xdc00 ≤ low ∧ low < 0xe000 then
          some (Char.ofNat (0x10000 + (n - 0xd800) * 0x400 + (low - 0xdc00)), rest)
        else none
      | _ => none
    else if 0xdc00 ≤ n ∧ n < 0xe000 then none
    else some (Char.ofNat n, rest)

/-- The character of a one-letter escape. -/
def simpleEscape? (c : Char) : Option Char :=
  if c = '"' || c = '\\' || c = '/' then some c
  else if c = 'n' then some '\n'
  else if c = 'r' then some '\r'
  else if c = 't' then some '\t'
  else if c = 'b' then some (Char.ofNat 8)
  else if c = 'f' then some (Char.ofNat 12)
  else none

/-- The string up to its closing quote, `acc` being the characters so far, last first. -/
def stringFrom? : Nat → List Char → List Char → Option (String × List Char)
  | 0, _, _ => none
  | fuel + 1, acc, cs =>
    match cs with
    | [] => none
    | '"' :: rest => some (String.ofList acc.reverse, rest)
    | '\\' :: 'u' :: rest => (unicode? rest).bind fun (c, rest) => stringFrom? fuel (c :: acc) rest
    | '\\' :: e :: rest => (simpleEscape? e).bind fun c => stringFrom? fuel (c :: acc) rest
    | '\\' :: [] => none
    | c :: rest => if c.toNat < 0x20 then none else stringFrom? fuel (c :: acc) rest

/-- The characters of numbers. -/
def isNumeral (c : Char) : Bool := c.isDigit || c = '-' || c = '+' || c = '.' || c = 'e' || c = 'E'

/-- The word at the head of the text, and the rest. -/
def word? (word cs : List Char) : Option (List Char) :=
  if word.isPrefixOf cs then some (cs.drop word.length) else none

mutual

/-- One document at the head of the text. -/
def value? : Nat → List Char → Option (Json × List Char)
  | 0, _ => none
  | fuel + 1, cs =>
    match skipSpace cs with
    | [] => none
    | '"' :: rest => (stringFrom? (rest.length + 1) [] rest).map fun (s, rest) => (.string s, rest)
    | '[' :: rest =>
      match skipSpace rest with
      | ']' :: rest => some (.array [], rest)
      | _ => (items? fuel rest).map fun (items, rest) => (.array items, rest)
    | '\x7b' :: rest =>
      match skipSpace rest with
      | '\x7d' :: rest => some (.object [], rest)
      | _ => (members? fuel rest).map fun (members, rest) => (.object members, rest)
    | c :: rest =>
      if c.isDigit || c = '-' then
        let literal := String.ofList ((c :: rest).takeWhile isNumeral)
        (real? literal).map fun _ => (.number literal, (c :: rest).dropWhile isNumeral)
      else if c = 't' then (word? ['r', 'u', 'e'] rest).map fun rest => (.bool true, rest)
      else if c = 'f' then (word? ['a', 'l', 's', 'e'] rest).map fun rest => (.bool false, rest)
      else if c = 'n' then (word? ['u', 'l', 'l'] rest).map fun rest => (.null, rest)
      else none

/-- The items of an array up to its closing bracket. -/
def items? : Nat → List Char → Option (List Json × List Char)
  | 0, _ => none
  | fuel + 1, cs =>
    (value? fuel cs).bind fun (item, rest) =>
      match skipSpace rest with
      | ',' :: rest => (items? fuel rest).map fun (items, rest) => (item :: items, rest)
      | ']' :: rest => some ([item], rest)
      | _ => none

/-- The members of an object up to its closing brace. -/
def members? : Nat → List Char → Option (List (String × Json) × List Char)
  | 0, _ => none
  | fuel + 1, cs =>
    match skipSpace cs with
    | '"' :: rest => (stringFrom? (rest.length + 1) [] rest).bind fun (name, rest) =>
      match skipSpace rest with
      | ':' :: rest => (value? fuel rest).bind fun (value, rest) =>
        match skipSpace rest with
        | ',' :: rest => (members? fuel rest).map fun (members, rest) =>
          ((name, value) :: members, rest)
        | '\x7d' :: rest => some ([(name, value)], rest)
        | _ => none
      | _ => none
    | _ => none

end

/-- The document that a text holds. -/
def parse? (s : String) : Option Json :=
  let cs := s.toList
  (value? (cs.length + 1) cs).bind fun (json, rest) =>
    if (skipSpace rest).isEmpty then some json else none

end ScatterGather.Json
