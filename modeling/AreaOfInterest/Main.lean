import AreaOfInterest.CommandLine.Run

/-!
# The program

Runs the command line on the computer. There is no network behind it, so nobody answers a search.
-/

open AreaOfInterest

namespace AreaOfInterest.CommandLine

/-- The directory that an environment variable names. -/
def directoryOf (name : String) : IO (Option String) := do
  return (← IO.getEnv name).filter (· ≠ "")

/-- The computer as the environment of a run. -/
def computer : Environment IO where
  isPresent path := do
    try
      let _ ← IO.FS.Handle.mk path .read
      return true
    catch _ => return false
  read path := do
    try return some (← IO.FS.readFile path)
    catch _ => return none
  write path text := do
    try
      IO.FS.writeFile path text
      return true
    catch _ => return false
  fetch _ := return none
  print text := do (← IO.getStdout).putStr text
  note text := do (← IO.getStderr).putStr text
  configHome := do
    match (← directoryOf "XDG_CONFIG_HOME").filter (·.startsWith "/") with
    | some directory => return some directory
    | none => return (← directoryOf "HOME").map (· ++ "/.config")
  home := directoryOf "HOME"

end AreaOfInterest.CommandLine

/-- Runs the arguments, tells a fault, and ends with the code of the outcome. -/
def main (arguments : List String) : IO UInt32 := do
  let outcome ← CommandLine.run CommandLine.computer arguments
  match outcome with
  | .success => pure ()
  | .misuse => IO.eprint CommandLine.Topic.program.text
  | .failed fault => IO.eprintln ("Error: " ++ fault.message)
  return outcome.code
