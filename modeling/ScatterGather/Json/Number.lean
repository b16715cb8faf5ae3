import ScatterGather.Binary64.Text
import ScatterGather.Json.Basic

/-!
# Json/Number — the doubles of number literals

`real?` keeps as many leading digits of a literal as fit a 64-bit word, counts the others, and
scales the word once by a power of ten.  The word and the power are rounded to doubles before that,
so the result lies near the literal and is not always the nearest double.  `realLiteral` writes the
shortest digits of a double; `canonical` is a document as it is written again after being read.
-/

namespace ScatterGather.Json

/-- The number `word · 10 ^ exponent`. -/
structure Scaled where
  word : Nat
  exponent : Int
  deriving DecidableEq

namespace Scaled

/-- The word with one more digit, if 64 bits hold it. -/
def append? (s : Scaled) (c : Char) : Option Nat :=
  (Text.digit? c).bind fun d =>
    if s.word * 10 + d < 2 ^ 64 then some (s.word * 10 + d) else none

/-- Takes in the digits of a whole number; those after the first that does not fit are counted. -/
def whole (s : Scaled) : List Char → Scaled
  | [] => s
  | c :: rest =>
    match if s.exponent = 0 then s.append? c else none with
    | some word => whole ⟨word, 0⟩ rest
    | none => whole ⟨s.word, s.exponent + 1⟩ rest

/-- Takes in the digits after the point, up to the first that does not fit. -/
def fraction (s : Scaled) : List Char → Scaled
  | [] => s
  | c :: rest =>
    match s.append? c with
    | some word => fraction ⟨word, s.exponent - 1⟩ rest
    | none => s

/-- The power of ten, rounded to a double. -/
def powerOfTen (n : Nat) : Binary64 := .ofNat (10 ^ n)

/-- The double of the number: the word times or over a power of ten, in two steps below the smallest
power.  Nothing when it is too large for a double. -/
def toReal? (s : Scaled) : Option Binary64 :=
  let x := Binary64.ofNat s.word
  if 308 < s.exponent then if s.word = 0 then some x else none
  else if 0 ≤ s.exponent then
    let product := x.mul (powerOfTen s.exponent.toNat)
    if product.isInfinite then none else some product
  else if -308 ≤ s.exponent then some (x.div (powerOfTen (-s.exponent).toNat))
  else if -616 ≤ s.exponent then
    some ((x.div (powerOfTen 308)).div (powerOfTen (-s.exponent - 308).toNat))
  else some (.ofNat 0)

end Scaled

/-- The digits at the head of a text, at least one, and the rest. -/
def digits? (cs : List Char) : Option (List Char × List Char) :=
  let digits := cs.takeWhile Char.isDigit
  if digits.isEmpty then none else some (digits, cs.dropWhile Char.isDigit)

/-- The exponent that ends a literal: zero if there is none. -/
def exponent? : List Char → Option Int
  | [] => some 0
  | c :: rest => if c = 'e' || c = 'E' then Text.integer? rest else none

/-- The number of a literal without its sign. -/
def scaled? (cs : List Char) : Option Scaled :=
  (digits? cs).bind fun (digits, rest) =>
    if digits.head? = some '0' && digits.length ≠ 1 then none
    else
      let s := Scaled.whole ⟨0, 0⟩ digits
      let found : Option (Scaled × List Char) := match rest with
        | '.' :: rest => (digits? rest).map fun (places, rest) => (s.fraction places, rest)
        | _ => some (s, rest)
      found.bind fun (s, rest) =>
        (exponent? rest).map fun e => { s with exponent := s.exponent + e }

/-- The double of a literal; nothing when it is no literal or too large. -/
def real? (literal : String) : Option Binary64 :=
  match literal.toList with
  | '-' :: rest => ((scaled? rest).bind Scaled.toReal?).map Binary64.neg
  | cs => (scaled? cs).bind Scaled.toReal?

/-- The decimal `digits · 10 ^ power` written with a point, or with an exponent where more than
sixteen digits would stand before the point or more than four zeros after it. -/
def layout (digits : List Char) (power : Int) : List Char :=
  let point := digits.length + power
  let zeros (n : Int) : List Char := List.replicate n.toNat '0'
  if 0 < point ∧ point ≤ 16 then
    digits.take point.toNat ++ zeros power ++ '.' ::
      if 0 ≤ power then ['0'] else digits.drop point.toNat
  else if -5 < point ∧ point ≤ 0 then '0' :: '.' :: zeros (-point) ++ digits
  else
    let places := digits.drop 1
    digits.take 1 ++ (if places.isEmpty then [] else '.' :: places) ++
      'e' :: (Text.ofInt (point - 1)).toList

/-- The literal of a finite double: its shortest digits, always with a point or an exponent. -/
def realLiteral (x : Binary64) : String :=
  let sign := if x.negative then "-" else ""
  if x.isZero then sign ++ "0.0"
  else
    let d := x.shortest
    sign ++ String.ofList (layout (Nat.toDigits 10 d.digits) (d.power - 400))

/-- Whether a literal is an integer that 64 bits hold, with or without a sign. -/
def isWord (literal : String) : Bool :=
  literal ≠ "-0" &&
    match Text.integer? literal.toList with
    | some n => -2 ^ 63 ≤ n && n < 2 ^ 64
    | none => false

/-- The literal that is written for a literal that was read. -/
def canonicalLiteral (literal : String) : String :=
  if isWord literal then literal else ((real? literal).map realLiteral).getD literal

mutual

/-- The document as it is written again after being read. -/
def canonical : Json → Json
  | .null => .null
  | .bool b => .bool b
  | .number literal => .number (canonicalLiteral literal)
  | .string s => .string s
  | .array items => .array (canonicalItems items)
  | .object members => .object (canonicalMembers members)

/-- Each item as it is written again. -/
def canonicalItems : List Json → List Json
  | [] => []
  | item :: rest => canonical item :: canonicalItems rest

/-- Each member as it is written again. -/
def canonicalMembers : List (String × Json) → List (String × Json)
  | [] => []
  | (name, item) :: rest => (name, canonical item) :: canonicalMembers rest

end

end ScatterGather.Json
