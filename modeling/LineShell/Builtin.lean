import LineShell.Config
import LineShell.Redirect
import LineShell.SearchPath.Lookup
import LineShell.Tilde

/-!
# Builtin commands

Some commands are carried out by the shell itself.  A builtin first does what it has to do and then
reports in lines; if a line cannot be written, the rest of them is not, and the status says so.  The
warning that the log gets then, which may go to standard error, is left out.

## Main definitions

* `Shell` — what the shell remembers from line to line.
* `Builtin` — the builtin commands, and their names.
* `Report`, `Builtin.run` — what a builtin does, and what it has to say.
* `deliver` — writes the lines of a report until one cannot be written.
* `parseStatus?` — the number that an argument of `exit` spells.

## Main results

* `parseStatus?_bounds` — a number that is accepted fits in 32 bits.
-/

namespace LineShell

/-- What the shell remembers from line to line. -/
structure Shell where
  /-- The status of the last command. -/
  lastStatus : Int := 0
  /-- Whether the shell is to end. -/
  exiting : Bool := false
  config : Config := {}
  deriving DecidableEq, Repr

/-- The commands that the shell carries out itself. -/
inductive Builtin
  | cd
  | echo
  | exit
  | pwd
  | type
  deriving DecidableEq, Repr

namespace Builtin

/-- The builtins by their names. -/
def table : List (String × Builtin) :=
  [("cd", .cd), ("echo", .echo), ("exit", .exit), ("pwd", .pwd), ("type", .type)]

/-- The builtin of a name. -/
def ofName? (name : String) : Option Builtin :=
  table.lookup name

end Builtin

/-- Whether a name is that of a builtin. -/
def isBuiltin (name : String) : Bool :=
  (Builtin.ofName? name).isSome

/-- What a builtin has done and has to say. -/
structure Report where
  status : Int
  /-- The lines to write, without their line feeds, and the streams they go to. -/
  lines : List (OutputStream × List Char)
  shell : Shell
  world : World

/-- The value of a list of decimal digits, if there are any and nothing else. -/
def digitsValue? (digits : List Char) : Option Nat :=
  if digits.isEmpty ∨ !digits.all Char.isDigit then none
  else some (digits.foldl (fun value c => 10 * value + (c.toNat - '0'.toNat)) 0)

/-- The least and the greatest status that can be asked for. -/
def statusRange : Int × Int := (-2147483648, 2147483647)

/-- The number that a text spells: digits with at most one sign in front, in a range of 32 bits. -/
def parseStatus? (text : List Char) : Option Int :=
  let value? : Option Int :=
    match text with
    | '+' :: digits => (digitsValue? digits).map Int.ofNat
    | '-' :: digits => (digitsValue? digits).map fun value => -(value : Int)
    | digits => (digitsValue? digits).map Int.ofNat
  value?.filter fun value => statusRange.1 ≤ value ∧ value ≤ statusRange.2

/-- A number that is accepted fits in 32 bits. -/
theorem parseStatus?_bounds {text : List Char} {value : Int} (h : parseStatus? text = some value) :
    -2147483648 ≤ value ∧ value ≤ 2147483647 := by
  simp only [parseStatus?, Option.filter_eq_some_iff, statusRange] at h
  exact of_decide_eq_true h.2

namespace Builtin

/-- Ends the shell with the status that is asked for, or with that of the last command. -/
def runExit (arguments : List String) (shell : Shell) (world : World) : Report :=
  let shell := { shell with exiting := true }
  match arguments with
  | [] => ⟨shell.lastStatus, [], shell, world⟩
  | code :: _ =>
    match parseStatus? code.toList with
    | some status => ⟨status, [], shell, world⟩
    | none =>
      ⟨2, [(.error, ("exit: " ++ code ++ ": numeric argument required").toList)], shell, world⟩

/-- The line that tells what a name stands for, and whether it stands for anything. -/
def describe (path : SearchPath) (world : World) (name : String) : String × Bool :=
  if isBuiltin name then (name ++ " is a shell builtin", true)
  else
    match path.resolve world name with
    | some file => (name ++ " is " ++ file, true)
    | none => (name ++ ": not found", false)

/-- Tells what each name stands for. -/
def runType (arguments : List String) (path : SearchPath) (shell : Shell) (world : World) :
    Report :=
  let found := arguments.map (describe path world)
  ⟨if found.all (·.2) then 0 else 1, found.map fun line => (.output, line.1.toList), shell, world⟩

/-- Tells the path of the current directory. -/
def runPwd (shell : Shell) (world : World) : Report :=
  match world.currentPath with
  | .ok path => ⟨0, [(.output, Utf8.lossy path)], shell, world⟩
  | .error errno => ⟨1, [(.error, ("pwd: " ++ (Fault.os errno).text).toList)], shell, world⟩

/-- The directory that `cd` is to enter, unless that is a home directory that is not set. -/
def cdTarget? (home : Option String) : List String → Option String
  | [] => home
  | word :: _ => if word = "~" then home else some (expandTilde home word)

/-- Enters a directory: the one that the first argument names, or the home directory.  A message
names the directory as it was typed. -/
def runCd (arguments : List String) (shell : Shell) (world : World) : Report :=
  match cdTarget? world.home arguments with
  | none => ⟨1, [(.error, "cd: HOME not set".toList)], shell, world⟩
  | some target =>
    match world.changeDirectory target with
    | .ok world => ⟨0, [], shell, world⟩
    | .error fault =>
      let shown := arguments.head?.getD target
      ⟨1, [(.error, ("cd: " ++ shown ++ ": " ++ fault.reason).toList)], shell, world⟩

/-- What a builtin does with its arguments. -/
def run (builtin : Builtin) (arguments : List String) (path : SearchPath) (shell : Shell)
    (world : World) : Report :=
  match builtin with
  | .cd => runCd arguments shell world
  | .echo => ⟨0, [(.output, (" ".intercalate arguments).toList)], shell, world⟩
  | .exit => runExit arguments shell world
  | .pwd => runPwd shell world
  | .type => runType arguments path shell world

end Builtin

/-- Writes lines in order until one cannot be written, and tells whether all were. -/
def deliver {σ : Type} (write : σ → OutputStream → Bytes → Option σ) :
    σ → List (OutputStream × List Char) → σ × Bool
  | s, [] => (s, true)
  | s, (stream, line) :: rest =>
    match write s stream (Bytes.ofText (line ++ ['\n'])) with
    | some s => deliver write s rest
    | none => (s, false)

/-- The status of a builtin: that of its report, or 1 if a line could not be written. -/
def Report.finalStatus (report : Report) (delivered : Bool) : Int :=
  if delivered then report.status else 1

end LineShell
