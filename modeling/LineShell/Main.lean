import LineShell.Repl
import LineShell.Userland.Installation

/-!
# The command

The command reads its input, lets the shell work on it in a fresh installed system, and writes what
the shell has written.  The search path, the home directory and the filter of the log come from the
environment; the shell starts in the root directory.
-/

namespace LineShell

/-- The variables of the environment that the shell or its programs look at. -/
def passedVariables : List String :=
  ["PATH", "HOME", logVariable]

end LineShell

open LineShell in
/-- Reads the whole input, lets the shell work on it, and writes what the shell has written. -/
def main : IO UInt32 := do
  let stdin ← IO.getStdin
  let input ← stdin.readBinToEnd
  let mut environment := []
  for name in passedVariables do
    if let some value ← IO.getEnv name then
      environment := environment ++ [(name, value)]
  let world := World.installed installedFiles [] input.toList environment
  match Repl.run programs (Repl.turnLimit world) (Repl.start world) with
  | none => return 1
  | some (ending, repl) =>
    (← IO.getStdout).write (repl.world.written .output).toByteArray
    (← IO.getStderr).write (repl.world.written .error).toByteArray
    return ending.status.toUInt32
