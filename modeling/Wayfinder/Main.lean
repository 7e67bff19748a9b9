import Wayfinder.Cli.Run

/-!
# The program

Reads files and prints what a run gives.
-/

namespace Wayfinder

/-- The text of a file, if it can be read. -/
def readFile (path : String) : IO (Option String) :=
  try return some (← IO.FS.readFile path)
  catch _ => return none

end Wayfinder

/-- Carries out the command line. -/
def main (args : List String) : IO UInt32 := do
  let outcome ← Wayfinder.Cli.run Wayfinder.readFile args
  (← IO.getStdout).putStr outcome.output
  if let some failure := outcome.failure then
    (← IO.getStderr).putStrLn ("Error: " ++ failure)
  else if outcome.code = 2 then
    (← IO.getStderr).putStr ("error: the arguments are refused\n\n" ++ Wayfinder.Cli.helpText)
  return .ofNat outcome.code
