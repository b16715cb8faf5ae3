import ScatterGather.Settings.Document

/-!
# Settings/Environment — settings from environment variables

A variable overrides a setting when its name begins with a given word and an underscore; two
underscores further on separate the steps of the path.  What looks like a truth value or a number
is one, and the list of data sources is separated by commas.
-/

namespace ScatterGather

namespace Setting

/-- The name with a point for every two underscores. -/
def pointed : List Char → List Char
  | '_' :: '_' :: rest => '.' :: pointed rest
  | c :: rest => c :: pointed rest
  | [] => []

/-- The path that a variable's name means under a leading word, both in any case. -/
def variablePath? (lead name : String) : Option String :=
  let key := (Text.lower name).toList
  let start := (Text.lower (lead ++ "_")).toList
  if start.isPrefixOf key then some (String.ofList (pointed (key.drop start.length))) else none

/-- The setting that a variable's text means at a path. -/
def ofVariable (path value : String) : Setting :=
  let word := Text.lower value
  if word = "true" then bool true
  else if word = "false" then bool false
  else
    match Text.int64? value.toList, Binary64.parse? value with
    | some n, _ => integer n
    | none, some x => real x
    | none, none =>
      if path = "data_sources" then
        list ((Text.splitAll ',' value.toList).map fun part => text (String.ofList part))
      else text value

/-- The settings of the variables that begin with a word. -/
def ofVariables (lead : String) (overrides : List (String × String)) : List (String × Setting) :=
  overrides.filterMap fun v => (variablePath? lead v.1).map fun path => (path, ofVariable path v.2)

end Setting

end ScatterGather
