import ScatterGather.Inline.Parser

/-!
# Inline/Expand — lists of templates

`expandAll` expands a comma-separated list of templates.  Commas inside braces and brackets belong
to a template; blank parts are skipped.
-/

namespace ScatterGather.Inline

/-- The parts between the commas outside braces and brackets, `depth` of which are open. -/
def parts (depth : Nat) : List Char → List (List Char)
  | [] => [[]]
  | c :: rest =>
    if c = ',' && depth = 0 then [] :: parts depth rest
    else
      let depth :=
        if c = '\x7b' || c = '[' then depth + 1
        else if c = '\x7d' || c = ']' then depth - 1
        else depth
      match parts depth rest with
      | [] => [[c]]
      | part :: more => (c :: part) :: more

/-- The texts of one template. -/
def expandText (cs : List Char) : Except Malformed (List String) := do
  (← Template.parse (String.ofList cs)).expand

/-- The texts of a comma-separated list of templates, in order. -/
def expandAll (text : String) : Except Malformed (List String) :=
  let used := (parts 0 text.toList).filter fun part => !(Text.trimChars part).isEmpty
  (used.mapM expandText).map List.flatten

end ScatterGather.Inline
