import LineShell.Builtin
import LineShell.Spawn
import LineShell.Words

/-!
# Running a command line

A line is cut into words, a redirection is taken out of them, and what remains is a builtin or a
program.  The target of the redirection is opened before anything is known about the command, so it
is made or emptied even if there is no such command.

## Main definitions

* `CommandError`, `LineError` — why a command, or a line, failed; status, text and message.
* `Execution` — the outcome of a command: its status, and the shell and the world after it.
* `execute` — carries out a command given by its arguments.
* `Shell.runLine` — carries out a line, and remembers its status.
-/

namespace LineShell

/-- Why a command could not be carried out. -/
inductive CommandError
  /-- The name is neither that of a builtin nor of a file in the search path. -/
  | notFound (name : String)
  | missingTarget (operator : String)
  /-- The target of a redirection could not be opened. -/
  | redirect (target : String) (fault : Fault)
  | process (e : SpawnError)
  deriving DecidableEq, Repr

namespace CommandError

/-- What has gone wrong, in words. -/
def text : CommandError → String
  | .notFound name => name ++ ": command not found"
  | .missingTarget operator =>
    "syntax error: missing redirect target after `" ++ operator ++ "`"
  | .redirect target fault => target ++ ": " ++ fault.reason
  | .process e => e.text

/-- The status of a command that failed so. -/
def status : CommandError → Int
  | .notFound _ => 127
  | .missingTarget _ => 2
  | .redirect _ _ => 1
  | .process e => e.status

/-- Whether no further command could be carried out either. -/
def isFatal : CommandError → Bool
  | .process e => e.isFatal
  | _ => false

end CommandError

/-- Why a line could not be carried out. -/
inductive LineError
  | quote (e : UnclosedQuote)
  | command (e : CommandError)
  deriving DecidableEq, Repr

namespace LineError

/-- What has gone wrong, in words. -/
def text : LineError → String
  | .quote e => e.text
  | .command e => e.text

/-- The status of a line that failed so. -/
def status : LineError → Int
  | .quote _ => 2
  | .command e => e.status

/-- Whether no further line could be carried out either. -/
def isFatal : LineError → Bool
  | .quote _ => false
  | .command e => e.isFatal

/-- What the user is told.  The shell names itself, except where a command does not exist. -/
def message (e : LineError) : String :=
  match e with
  | .command (.notFound _) => e.text
  | _ => messagePrefix ++ e.text

end LineError

/-- The outcome of a command: its status or what went wrong, and shell and world after it. -/
structure Execution where
  result : Except CommandError Int
  shell : Shell
  world : World

/-- A stream that goes to a descriptor of the shell instead of its own. -/
abbrev Diversion := Option (OutputStream × Nat)

/-- Writes data to a stream, or to the descriptor to which it goes instead. -/
def Diversion.write (diversion : Diversion) (world : World) (stream : OutputStream)
    (data : Bytes) : Except Errno World :=
  match diversion with
  | some (diverted, fd) =>
    if diverted = stream then world.write fd data
    else world.writeStandard stream.descriptor data
  | none => world.writeStandard stream.descriptor data

/-- The descriptor that takes the place of a stream's own, if there is one. -/
def Diversion.replacement? (diversion : Diversion) (stream : OutputStream) : Option Int :=
  match diversion with
  | some (diverted, fd) => if diverted = stream then some fd else none
  | none => none

/-- Opens the target of a redirection. -/
def Redirect.open (redirect : Redirect) (world : World) :
    Except CommandError (Diversion × World) :=
  match world.openForWriting redirect.mode redirect.target with
  | .ok (fd, world) => .ok (some (redirect.stream, fd), world)
  | .error fault => .error (.redirect redirect.target fault)

/-- Closes the target of a redirection. -/
def Diversion.close (diversion : Diversion) (world : World) : World :=
  match diversion with
  | some (_, fd) => world.close fd
  | none => world

/-- Carries out a builtin, and writes what it has to say. -/
def Builtin.execute (builtin : Builtin) (arguments : List String) (path : SearchPath)
    (diversion : Diversion) (shell : Shell) (world : World) : Execution :=
  let report := builtin.run arguments path shell world
  let write := fun world stream data => (diversion.write world stream data).toOption
  let (world, delivered) := deliver write report.world report.lines
  ⟨.ok (report.finalStatus delivered), report.shell, world⟩

/-- Starts the program that a name stands for, and waits for its end. -/
def executeProgram (programs : Programs) (path : SearchPath) (name : String)
    (arguments : List String) (diversion : Diversion) (shell : Shell) (world : World) :
    Execution :=
  match path.resolve world name with
  | none => ⟨.error (.notFound name), shell, world⟩
  | some program =>
    let started := world.spawn programs program (name :: arguments)
      (diversion.replacement? .output) (diversion.replacement? .error)
    match started with
    | .error e => ⟨.error (.process e), shell, world⟩
    | .ok (id, world) =>
      let (ended, world) := world.wait id
      ⟨ended.mapError .process, shell, world⟩

/-- Carries out what remains of a command once its redirection has been taken out. -/
def executeArguments (programs : Programs) (path : SearchPath) (arguments : List String)
    (diversion : Diversion) (shell : Shell) (world : World) : Execution :=
  match arguments with
  | [] => ⟨.ok 0, shell, world⟩
  | name :: arguments =>
    match Builtin.ofName? name with
    | some builtin => builtin.execute arguments path diversion shell world
    | none => executeProgram programs path name arguments diversion shell world

/-- Carries out a command given by its arguments. -/
def execute (programs : Programs) (path : SearchPath) (arguments : List String) (shell : Shell)
    (world : World) : Execution :=
  match takeRedirect arguments with
  | .error e => ⟨.error (.missingTarget e.operator), shell, world⟩
  | .ok (none, arguments) => executeArguments programs path arguments none shell world
  | .ok (some redirect, arguments) =>
    match redirect.open world with
    | .error e => ⟨.error e, shell, world⟩
    | .ok (diversion, world) =>
      let done := executeArguments programs path arguments diversion shell world
      { done with world := diversion.close done.world }

/-- The outcome of a line: what went wrong, if anything, and the shell and the world after it. -/
structure LineRun where
  failure : Option LineError
  shell : Shell
  world : World

namespace Shell

/-- Remembers the status of a line. -/
def remember (shell : Shell) (status : Int) : Shell :=
  { shell with lastStatus := status }

/-- Carries out a line, and remembers its status.  A line without words changes nothing. -/
def runLine (programs : Programs) (path : SearchPath) (line : List Char) (shell : Shell)
    (world : World) : LineRun :=
  match splitWords line with
  | .error e => ⟨some (.quote e), shell.remember (LineError.quote e).status, world⟩
  | .ok [] => ⟨none, shell, world⟩
  | .ok arguments =>
    let done := execute programs path arguments shell world
    match done.result with
    | .ok status => ⟨none, done.shell.remember status, done.world⟩
    | .error e => ⟨some (.command e), done.shell.remember e.status, done.world⟩

end Shell

end LineShell
