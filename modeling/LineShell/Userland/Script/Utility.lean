import LineShell.Userland.Script.Running

/-!
# Commands of the language

A command of the language is carried out by the script itself.  It gets its arguments, changes the
script, and reports a status and what it prints, which is written once it has come to its end.

## Main definitions

* `Report`, `Utility` — what such a command reports, and the commands.
* `Act.options` — the options in front of the arguments of a command.
* `Act.perform` — carries out a command, and writes what it prints.
-/

namespace LineShell.Script

/-- What a command of the language reports at its end. -/
structure Report where
  status : Nat := 0
  output : Octets := []

/-- A command of the language, for its arguments. -/
abbrev Utility := List Octets → Act Report

/-- The command that has success and does nothing. -/
def Utility.succeed : Utility := fun _ => return {}

/-- The command that has no success and does nothing. -/
def Utility.refuse : Utility := fun _ => return { status := 1 }

/-- A line that a command prints. -/
def printedLine (text : Octets) : Octets :=
  text ++ ['\n']

namespace Act

/-- What an argument with options is cut into: the letters, each with the text that belongs to it.
`valued` tells which letters need a text, which is the rest of the argument or the next one. -/
def cutOptions (known : List Char) (valued : Char → Bool) :
    Octets → List Octets → Act (List (Char × Octets) × List Octets)
  | [], arguments => return ([], arguments)
  | letter :: rest, arguments => do
    if !known.contains letter then fail ("Illegal option -".toList ++ [letter])
    if !valued letter then
      let (options, arguments) ← cutOptions known valued rest arguments
      return ((letter, []) :: options, arguments)
    else if !rest.isEmpty then return ([(letter, rest)], arguments)
    else
      match arguments with
      | text :: arguments => return ([(letter, text)], arguments)
      | [] => fail ("No arg for -".toList ++ letter :: " option".toList)

/-- The options in front of some arguments, and the arguments behind them.  Two dashes end the
options; each argument takes one of `fuel` steps. -/
def optionsWithin (known : List Char) (valued : Char → Bool) :
    (fuel : Nat) → List Octets → Act (List (Char × Octets) × List Octets)
  | 0, arguments => return ([], arguments)
  | fuel + 1, arguments => do
    match arguments with
    | ['-', '-'] :: rest => return ([], rest)
    | ('-' :: letter :: letters) :: rest =>
      let (first, rest) ← cutOptions known valued (letter :: letters) rest
      let (more, rest) ← optionsWithin known valued fuel rest
      return (first ++ more, rest)
    | arguments => return ([], arguments)

/-- The options in front of some arguments, and the arguments behind them. -/
def options (known : List Char) (valued : Char → Bool) (arguments : List Octets) :
    Act (List (Char × Octets) × List Octets) :=
  optionsWithin known valued (arguments.length + 1) arguments

/-- The arguments of a command without options. -/
def withoutOptions (arguments : List Octets) : Act (List Octets) := do
  return (← options [] (fun _ => false) arguments).2

/-- Carries out a command of the language under a name, and writes what it prints. -/
def perform (name : Octets) (utility : Utility) (arguments : List Octets) : Act Unit :=
  onBehalfOf (some name) do
    let report ← utility arguments
    if ← tryWrite World.standardOutput report.output then
      modify fun r => { r with status := report.status }
    else
      warn (name ++ ": I/O error".toList)
      modify fun r => { r with status := report.status ||| 1 }

end Act

end LineShell.Script
