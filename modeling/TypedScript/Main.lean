import TypedScript.CommandLine

/-!
The program.
-/

open TypedScript

def readText (path : String) : IO (Option String) := do
  try return some (← IO.FS.readFile path) catch _ => return none

def main (arguments : List String) : IO UInt32 := do
  let outcome ← CommandLine.run readText arguments
  IO.print outcome.output
  IO.eprint outcome.errors
  return outcome.status.toUInt32
