/-!
# Console/Command — the arguments of the command line

`Command.parse?` reads `check`, or `route` with a table, a column and a value.  An option is written
`--name value`, `--name=value`, `-n value`, `-n=value` or `-nvalue`, and at most once; the settings
file may be named before and after the command, the later one counting.
-/

namespace ScatterGather

/-- What to do. -/
inductive Command where
  /-- Check the settings and show the rules. -/
  | check
  /-- Show where `SELECT * FROM table WHERE column = value` goes. -/
  | route (table column value : String) (json : Bool)
  deriving DecidableEq

/-- A command and the settings file it reads. -/
structure Request where
  settings : Option String
  command : Command
  deriving DecidableEq

namespace Request

/-- An option as it is written: its long name, its letter, and whether it takes a value. -/
structure OptionForm where
  name : String
  letter : Option Char
  takesValue : Bool
  deriving DecidableEq

/-- The option that names the settings file. -/
def settingsForm : OptionForm := ⟨"config", some 'c', true⟩

/-- The options of a route. -/
def routeForms : List OptionForm :=
  [settingsForm, ⟨"table", some 't', true⟩, ⟨"column", some 'C', true⟩, ⟨"value", some 'v', true⟩,
    ⟨"json", none, false⟩]

/-- The options before a command and of `check`. -/
def checkForms : List OptionForm := [settingsForm]

/-- An argument taken apart. -/
inductive Argument where
  /-- A word that is no option. -/
  | word (text : String)
  /-- An option with the value that is attached to it. -/
  | option (form : OptionForm) (attached : Option String)
  /-- The end of the options. -/
  | endOfOptions
  | unknown
  deriving DecidableEq

/-- The value after an equals sign, or what is attached without one. -/
def attachedValue : List Char → Option String
  | [] => none
  | '=' :: rest => some (String.ofList rest)
  | rest => some (String.ofList rest)

/-- The option of a long name, which an equals sign ends. -/
def longOption (forms : List OptionForm) (cs : List Char) : Argument :=
  let name := String.ofList (cs.takeWhile (· ≠ '='))
  match forms.find? fun f => f.name = name with
  | some form => .option form (attachedValue (cs.dropWhile (· ≠ '=')))
  | none => .unknown

/-- The option of a letter, with what follows it. -/
def shortOption (forms : List OptionForm) (letter : Char) (rest : List Char) : Argument :=
  match forms.find? fun f => f.letter = some letter with
  | some form => .option form (attachedValue rest)
  | none => .unknown

/-- Takes an argument apart. -/
def argument (forms : List OptionForm) (text : String) : Argument :=
  match text.toList with
  | ['-', '-'] => .endOfOptions
  | '-' :: '-' :: rest => longOption forms rest
  | ['-'] => .word text
  | '-' :: letter :: rest => shortOption forms letter rest
  | _ => .word text

/-- The options found so far, by long name. -/
abbrev Found := List (String × String)

/-- Adds an option that is not there yet. -/
def addOption (found : Found) (form : OptionForm) (value : String) : Option Found :=
  if (found.lookup form.name).isSome then none else some (found ++ [(form.name, value)])

/-- Whether an argument can be the value of the option before it. -/
def isValue (text : String) : Bool := text = "-" || text.toList.head? ≠ some '-'

/-- Reads options up to the first word, which is returned with the arguments after it. -/
def options (forms : List OptionForm) (found : Found) :
    List String → Option (Found × Option (String × List String))
  | [] => some (found, none)
  | text :: rest =>
    match argument forms text with
    | .word w => some (found, some (w, rest))
    | .endOfOptions => match rest with
      | [] => some (found, none)
      | _ => none
    | .unknown => none
    | .option form attached =>
      match form.takesValue, attached with
      | true, some value =>
        (addOption found form value).bind fun found => options forms found rest
      | true, none =>
        match rest with
        | [] => none
        | value :: more =>
          if isValue value then
            (addOption found form value).bind fun found => options forms found more
          else none
      | false, some _ => none
      | false, none => (addOption found form "").bind fun found => options forms found rest

/-- The settings file: the one named after the command, or else before it.  An empty name is none
at all. -/
def settingsFile? (before after : Found) : Option (Option String) :=
  let named := (before.lookup "config").toList ++ (after.lookup "config").toList
  if "" ∈ named then none else some named.getLast?

/-- The command of a name with its options. -/
def command? (name : String) (found : Found) : Option Command :=
  if name = "check" then some .check
  else
    (found.lookup "table").bind fun table => (found.lookup "column").bind fun column =>
      (found.lookup "value").map fun value =>
        .route table column value (found.lookup "json").isSome

/-- The request that the arguments make. -/
def parse? (args : List String) : Option Request := do
  let (before, rest) ← options checkForms [] args
  let (name, rest) ← rest
  let forms ← if name = "check" then some checkForms
    else if name = "route" then some routeForms else none
  let (after, more) ← options forms [] rest
  if more.isSome then none
  let command ← command? name after
  let settings ← settingsFile? before after
  return ⟨settings, command⟩

end Request

end ScatterGather
