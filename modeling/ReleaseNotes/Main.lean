import ReleaseNotes.CommandLine.Run

/-! The program itself: reads the environment, follows the plan and reports how it went. -/
namespace ReleaseNotes

def watchedVariables : List Text :=
  filterVariable :: Field.all.flatMap Field.fallbacks

def readEnvironment : IO Environment := do
  let values ← watchedVariables.mapM fun name => do
    return (name, (← IO.getEnv (String.ofList name)).map String.toList)
  return fun name => (values.find? (·.1 == name)).bind (·.2)

def printAll (text : Text) : IO Unit := do
  let out ← IO.getStdout
  out.putStr (String.ofList text)
  out.flush

def follow : Plan → IO UInt32
  | .refuse => do
    IO.eprintln HelpForm.usageLine
    return 2
  | .abort => return 101
  | .help form => do
    try printAll form.text catch _ => pure ()
    return 0
  | .publish log text => do
    log.forM fun line => IO.eprintln (String.ofList line)
    try
      printAll text
      return 0
    catch error =>
      IO.eprintln s!"Error: Failed to write changelog JSON: {error}"
      return 1

end ReleaseNotes

def main (arguments : List String) : IO UInt32 := do
  let env ← ReleaseNotes.readEnvironment
  ReleaseNotes.follow (ReleaseNotes.Plan.make (arguments.map fun a => { text := a.toList }) env)
