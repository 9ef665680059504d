import LineShell.Userland.Script.Octets

/-!
# Scripts

Programs may be written as scripts: commands that start programs, joined by operators and put under
the control of others.  The words of a command have parts that stand for something else.

## Main definitions

* `Parameter`, `Trim`, `Use`, `Part`, `Word` — what a word is made of.
* `FileUse`, `Redirection` — what a command does to its descriptors.
* `Command` — commands.
-/

namespace LineShell.Script

/-- What a dollar sign can stand for. -/
inductive Parameter
  /-- An argument, or with number 0 the name of the script. -/
  | positional (number : Nat)
  /-- How many arguments there are. -/
  | count
  /-- All arguments, each one by itself or all joined. -/
  | arguments (joined : Bool)
  /-- The number of the process. -/
  | process
  /-- The status of the last command. -/
  | status
  /-- The letters of the options that are set. -/
  | options
  /-- The number of the last process in the background. -/
  | background
  /-- The value of a name. -/
  | named (name : Octets)
  deriving DecidableEq, Repr

/-- Which part of a value is cut off by a pattern. -/
inductive Trim
  | shortestStart
  | longestStart
  | shortestEnd
  | longestEnd
  deriving DecidableEq, Repr

/-- How a redirection uses the file that it names. -/
inductive FileUse
  | read
  | write
  /-- Also over a file that is protected from being written over. -/
  | overwrite
  | append
  | update
  deriving DecidableEq, Repr

mutual

/-- A part of a word. -/
inductive Part
  /-- Text outside quotes. -/
  | bare (octets : Octets)
  /-- Text that stands for itself. -/
  | kept (octets : Octets)
  /-- Text between single quotes. -/
  | single (octets : Octets)
  /-- What stands between double quotes. -/
  | double (parts : List Part)
  | parameter (which : Parameter) (use : Use)
  /-- What commands print. -/
  | substitution (body : Option Command)
  /-- The value of an expression. -/
  | arithmetic (parts : List Part)

/-- What becomes of the value of a parameter.  A use with `orEmpty` treats a parameter without text
like one that is not set. -/
inductive Use
  | value
  | length
  /-- The word takes the place of a value that is missing. -/
  | fallback (orEmpty : Bool) (word : List Part)
  /-- The word becomes the value if that is missing. -/
  | assign (orEmpty : Bool) (word : List Part)
  /-- The word tells what is wrong if the value is missing. -/
  | demand (orEmpty : Bool) (word : List Part)
  /-- The word takes the place of a value that is there. -/
  | replace (orEmpty : Bool) (word : List Part)
  | trim (which : Trim) (pattern : List Part)
  /-- A use that there is not. -/
  | unknown

/-- A change of a descriptor. -/
inductive Redirection
  | file (fd : Nat) (use : FileUse) (target : List Part)
  /-- The descriptor becomes that which the word names, or is closed. -/
  | duplicate (fd : Nat) (source : List Part)
  /-- The descriptor reads a text that is part of the script, which has a number. -/
  | document (fd number : Nat)

/-- A command, some with the line on which they stand. -/
inductive Command
  /-- Values for names, words of which the first one names the command, and redirections. -/
  | simple (line : Nat) (values : List (Octets × List Part)) (words : List (List Part))
      (redirections : List Redirection)
  /-- Commands of which each reads what the one before it prints. -/
  | pipeline (commands : List Command)
  /-- A command that is not waited for. -/
  | background (command : Command)
  | negated (command : Command)
  /-- The second command runs if the first one has success. -/
  | andThen (first second : Command)
  /-- The second command runs if the first one has no success. -/
  | orElse (first second : Command)
  | sequence (first second : Command)
  /-- A command that runs in a process of its own. -/
  | subshell (line : Nat) (body : Command) (redirections : List Redirection)
  | redirected (line : Nat) (body : Command) (redirections : List Redirection)
  | choice (condition success : Command) (failure : Option Command)
  /-- A loop that goes on while the condition has, or has no, success. -/
  | loop (success : Bool) (condition body : Command)
  /-- A loop over words. -/
  | forEach (line : Nat) (name : Octets) (items : List (List Part)) (body : Command)
  /-- The first arm with a pattern that the word matches. -/
  | case (line : Nat) (word : List Part) (arms : List (List (List Part) × Option Command))
  | function (line : Nat) (name : Octets) (body : Command)

end

/-- A word, before the parts of it have been replaced. -/
abbrev Word := List Part

end LineShell.Script
