import ScatterGather.Json.Number
import ScatterGather.Text.Case

/-!
# Settings/Document — settings before they are understood

A `Setting` is a scalar, a list or a table.  A document's names are read in lower case (`ofJson`).
`overlay` lets one setting override another, table by table, and `assign` does so at a path, making
the tables and lists on the way; the scalars convert where another kind of scalar is asked for.
-/

namespace ScatterGather

/-- A setting, or a table of settings. -/
inductive Setting where
  | null
  | bool (b : Bool)
  | integer (n : Int64)
  | real (x : Binary64)
  | text (s : String)
  | list (items : List Setting)
  | table (entries : List (String × Setting))

namespace Setting

/-- The entries of a table. -/
def entries : Setting → List (String × Setting)
  | table entries => entries
  | _ => []

/-- The items of a list. -/
def items : Setting → List Setting
  | list items => items
  | _ => []

/-! ## Documents -/

/-- The number that a literal denotes: an integer if it is written as one and fits 64 bits. -/
def ofLiteral (literal : String) : Setting :=
  match Text.int64? literal.toList with
  | some n => if literal = "-0" then real (.zero true) else integer n
  | none => real ((Json.real? literal).getD .nan)

/-- Sets the entry of a name. -/
def put (name : String) (s : Setting) : List (String × Setting) → List (String × Setting)
  | [] => [(name, s)]
  | entry :: rest => if entry.1 = name then (name, s) :: rest else entry :: put name s rest

/-- The entries with their names in lower case; of those whose names become one, the entry whose
name was the greatest is left. -/
def lowerNames (entries : List (String × Setting)) : List (String × Setting) :=
  let sorted := entries.mergeSort fun a b => decide (a.1 ≤ b.1)
  sorted.foldl (fun found e => put (Text.lower e.1) e.2 found) []

mutual

/-- The setting that a document holds. -/
def ofJson : Json → Setting
  | .null => null
  | .bool b => bool b
  | .number literal => ofLiteral literal
  | .string s => text s
  | .array items => list (ofItems items)
  | .object members => table (lowerNames (ofMembers members))

/-- The settings of a list. -/
def ofItems : List Json → List Setting
  | [] => []
  | item :: rest => ofJson item :: ofItems rest

/-- The settings of members under their names. -/
def ofMembers : List (String × Json) → List (String × Setting)
  | [] => []
  | (name, item) :: rest => (name, ofJson item) :: ofMembers rest

end

/-! ## Overriding -/

mutual

/-- The setting with another one laid over it: tables entry by entry, anything else as a whole. -/
def overlay (base : Option Setting) : Setting → Setting
  | .table entries => overlayAll (base.getD (table [])) entries
  | .null => null
  | .bool b => bool b
  | .integer n => integer n
  | .real x => real x
  | .text s => text s
  | .list items => list items

/-- The setting with entries laid over it.  What is not a table gives way to the first entry. -/
def overlayAll (base : Setting) : List (String × Setting) → Setting
  | [] => base
  | (name, s) :: rest =>
    overlayAll (table (put name (overlay (base.entries.lookup name) s) base.entries)) rest

end

/-- A step of a path: an entry of a table, or a place in a list, which counts from the end of the
list if it is negative. -/
inductive Step where
  | entry (name : String)
  | place (n : Int)
  deriving DecidableEq

/-- The characters of a name in a path. -/
def isNameChar (c : Char) : Bool := c.isAlphanum || c == ' ' || c == '_' || c == '-'

/-- The number between brackets: a numeral without a plus sign, blanks or tabs around it. -/
def place? (cs : List Char) : Option Int :=
  let blank (c : Char) : Bool := c == ' ' || c == '\t'
  let numeral := ((cs.dropWhile blank).reverse.dropWhile blank).reverse
  if numeral.head? = some '+' then none else (Text.int64? numeral).map Int64.toInt

/-- The steps that a text spells, each name after a point and each place between brackets. -/
def steps? : Nat → List Char → Option (List Step)
  | _, [] => some []
  | 0, _ => none
  | fuel + 1, '.' :: rest =>
    let name := rest.takeWhile isNameChar
    if name.isEmpty then none
    else (steps? fuel (rest.dropWhile isNameChar)).map (.entry (String.ofList name) :: ·)
  | fuel + 1, '[' :: rest =>
    match rest.dropWhile (· ≠ ']') with
    | _ :: more => (place? (rest.takeWhile (· ≠ ']'))).bind fun n =>
      (steps? fuel more).map (.place n :: ·)
    | [] => none
  | _, _ => none

/-- The steps of a name that is written as a path; any other name is one step. -/
def steps (name : String) : List Step :=
  (steps? (name.length + 1) ('.' :: name.toList)).getD [.entry name]

/-- The index that a place means in a list. -/
def indexOf (n : Int) (length : Nat) : Nat := if 0 ≤ n then n.toNat else (length + n).toNat

/-- The list with an item at an index, nulls filling it up to there. -/
def setItem (items : List Setting) (i : Nat) (s : Setting) : List Setting :=
  (items ++ List.replicate (i + 1 - items.length) null).set i s

/-- Lays a setting over the one at the end of a path.  What stands in the way and is not the table
or the list that the path asks for gives way to one. -/
def assign (s : Setting) : List Step → Setting → Setting
  | [], _ => s
  | [.entry name], base => table (put name (overlay (base.entries.lookup name) s) base.entries)
  | .entry name :: rest, base =>
    table (put name (assign s rest ((base.entries.lookup name).getD null)) base.entries)
  | .place n :: rest, base =>
    let i := indexOf n base.items.length
    list (setItem base.items i (assign s rest (base.items.getD i null)))

/-- Lays settings by name over a document, the names being paths. -/
def overlayPaths (base : Setting) (named : List (String × Setting)) : Setting :=
  named.foldl (fun found e => assign e.2 (steps e.1) found) base

/-! ## Scalars -/

/-- A scalar as text. -/
def text? : Setting → Option String
  | text s => some s
  | bool b => some (if b then "true" else "false")
  | integer n => some (Text.ofInt n.toInt)
  | real x => some x.render
  | _ => none

/-- What a word says about true and false. -/
def flagWord? (word : String) : Option Bool :=
  if word ∈ ["true", "on", "yes"] then some true
  else if word ∈ ["false", "off", "no"] then some false
  else none

/-- A scalar as true or false; numbers are false only at zero. -/
def flag? : Setting → Option Bool
  | bool b => some b
  | integer n => some (n ≠ 0)
  | real x => some (!x.isZero)
  | text s =>
    let word := Text.lower s
    if word = "1" then some true else if word = "0" then some false else flagWord? word
  | _ => none

/-- A double as a 64-bit count: the nearest one. -/
def wordOfReal (x : Binary64) : Nat :=
  if x.isNaN || x.negative then 0
  else if x.isInfinite then 2 ^ 64 - 1
  else min (x.roundHalfUp.units / 2 ^ 1074) (2 ^ 64 - 1)

/-- A scalar as a 64-bit count. -/
def word? : Setting → Option Nat
  | bool b => some b.toNat
  | integer n => if 0 ≤ n.toInt then some n.toInt.toNat else none
  | real x => some (wordOfReal x)
  | text s =>
    match flagWord? (Text.lower s) with
    | some b => some b.toNat
    | none => Text.word? s.toList
  | _ => none

end Setting

end ScatterGather
