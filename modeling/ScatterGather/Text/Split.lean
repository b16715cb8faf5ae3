/-!
# Text/Split — cutting texts at a character

`splitAll` cuts at every occurrence, `splitFirst?` at the first and `splitLast?` at the last.
-/

namespace ScatterGather.Text

/-- The pieces between the occurrences of `sep`; a text without any is its own only piece. -/
def splitAll (sep : Char) : List Char → List (List Char)
  | [] => [[]]
  | c :: rest =>
    match splitAll sep rest with
    | [] => [[c]]
    | piece :: pieces => if c = sep then [] :: piece :: pieces else (c :: piece) :: pieces

/-- The texts before and after the first occurrence of `sep`. -/
def splitFirst? (sep : Char) : List Char → Option (List Char × List Char)
  | [] => none
  | c :: rest =>
    if c = sep then some ([], rest)
    else (splitFirst? sep rest).map fun halves => (c :: halves.1, halves.2)

/-- The texts before and after the last occurrence of `sep`. -/
def splitLast? (sep : Char) (cs : List Char) : Option (List Char × List Char) :=
  (splitFirst? sep cs.reverse).map fun halves => (halves.2.reverse, halves.1.reverse)

/-- The texts joined by `sep`. -/
def join (sep : String) (texts : List String) : String := String.intercalate sep texts

end ScatterGather.Text
