import ScatterGather.Console.Report

/-!
# Main — the command line

Reads the arguments, the settings file and the environment, and prints what the request answers.
-/

namespace ScatterGather

/-- The word that begins the names of environment variables. -/
def variableLead : String := "SHARDGATE"

/-- The variables that override settings. -/
def variableNames : List String :=
  ["DATA_SOURCES", "PROPS__MAX_CONNECTIONS_SIZE_PER_QUERY", "PROPS__SQL_SHOW",
    "PROPS__DATABASE_TYPE"].map fun name => variableLead ++ "_" ++ name

/-- The variables that are set, with their texts. -/
def readVariables : IO (List (String × String)) := do
  let found ← variableNames.mapM fun name => do
    return (← IO.getEnv name).map fun value => (name, value)
  return found.filterMap id

/-- The text of the settings file, where there is one. -/
def readSettings (request : Request) : IO (Option String) := do
  match request.settings with
  | none => return none
  | some path =>
    try return some (← IO.FS.readFile path) catch _ => return none

/-- How to call the program. -/
def usage : String :=
  "Usage: sgctl [--config FILE] check\n" ++
    "       sgctl [--config FILE] route --table T --column C --value V [--json]\n"

end ScatterGather

open ScatterGather

/-- Answers the request of the arguments; arguments that make none end the program with code 2.  No
request of the command line reads the clock. -/
def main (args : List String) : IO UInt32 := do
  match Request.parse? args with
  | none =>
    IO.eprint usage
    return 2
  | some request =>
    let seed ← IO.monoNanosNow
    let outcome := request.run (← readSettings request) variableLead (← readVariables) (.fixed 0)
      ⟨UInt64.ofNat seed⟩
    IO.print outcome.output
    IO.eprint outcome.diagnostics
    return UInt32.ofNat outcome.exit
