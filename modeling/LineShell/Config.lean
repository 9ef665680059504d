import LineShell.Text.Blank

/-!
# Settings of the shell

The settings have fixed values; only the filter of the log can be set from outside.

## Main definitions

* `Config` — the settings and their defaults.
* `messagePrefix` — how the shell's messages begin.
* `Config.ofLogVariable` — the settings for a value of the variable that sets the filter.
-/

namespace LineShell

/-- The settings of the shell. -/
structure Config where
  /-- What is shown in front of every line. -/
  prompt : String := "$ "
  /-- How many characters a line may have; what is typed beyond them is dropped. -/
  lineLimit : Nat := 99
  /-- Which events are logged. -/
  logFilter : String := "warn"
  deriving DecidableEq, Repr

/-- What the shell's own messages begin with. -/
def messagePrefix : String := "tish: "

/-- The variable that sets the filter of the log. -/
def logVariable : String := "TISH_LOG"

/-- The settings for a value of the variable.  A value of blanks alone counts as none. -/
def Config.ofLogVariable (value : Option String) : Config :=
  match value with
  | some filter => if filter.toList.all isBlank then {} else { logFilter := filter }
  | none => {}

end LineShell
