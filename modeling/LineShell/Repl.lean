import LineShell.CommandLine
import LineShell.Editing.LineReader

/-!
# The interactive loop

The shell prompts for a line, reads it, carries it out, and starts over, until the input ends or a
command ends the shell.  It reads no further than the line, so the programs that it starts find the
input behind it.

## Main definitions

* `World.readLine` — prompts for a line and reads it from standard input.
* `Repl` — the shell in its world.
* `Repl.turn` — one line, from the prompt to its end.
* `Repl.run` — as many turns as it takes.
* `exitCode` — the code with which a process ends for a status.
* `ShellEnd` — how the shell comes to its end.
-/

namespace LineShell

/-- The code with which a process ends for a status: its lowest eight bits. -/
def exitCode (status : Int) : Nat :=
  (status % 256).toNat

namespace World

/-- What can still be read from a descriptor. -/
def feed (w : World) (fd : Nat) : Feed :=
  match w.process.descriptors.get? fd with
  | some handle => { bytes := w.system.remaining handle }
  | none => { bytes := [] }

/-- Takes bytes from a descriptor, so that only the rest can still be read. -/
def consume (w : World) (fd : Nat) (rest : Feed) : World :=
  match w.process.descriptors.get? fd with
  | some handle =>
    let taken := (w.feed fd).bytes.length - rest.bytes.length
    { w with system := w.system.skip handle taken }
  | none => w

/-- Prompts for a line and reads it from standard input.  A terminal is in raw mode meanwhile; what
is no terminal is read as it is. -/
def readLine (w : World) (prompt : List Char) (limit : Nat) (source : CandidateSource) :
    Option (List Char) × World :=
  let held := w.console.acquire (w.device standardInput)
  let reading := LineShell.readLine prompt limit source (w.feed standardInput)
  let w := { w with console := held.2 }
  let w := (w.consume standardInput reading.rest).display standardOutput reading.shown
  let console := match held.1 with
    | .ok g => w.console.restore g
    | .error _ => w.console
  (reading.line, { w with console })

end World

/-- The shell in its world. -/
structure Repl where
  shell : Shell
  world : World

/-- How the shell comes to its end. -/
inductive ShellEnd
  /-- By itself, with a code. -/
  | code (code : Nat)
  /-- By a signal that one of its programs sends to it. -/
  | signal (signal : Signal)
  deriving DecidableEq, Repr

/-- The status that stands for the end of the shell: its code, or 128 more than the signal's
number. -/
def ShellEnd.status : ShellEnd → Nat
  | .code number => number
  | .signal which => 128 + which.val

/-- What a turn comes to. -/
inductive Turn
  /-- Another turn follows. -/
  | next (repl : Repl)
  /-- The shell has come to its end. -/
  | done (ending : ShellEnd) (repl : Repl)

namespace Repl

/-- The causes of an error that is fatal, the outermost first. -/
def causes : LineError → List String
  | .command (.process (.start command fault)) =>
    [(SpawnError.start command fault).text, fault.text]
  | .command (.process (.wait fault)) => [(SpawnError.wait fault).text, fault.text]
  | .command (.redirect target fault) => [(CommandError.redirect target fault).text, fault.text]
  | e => [e.text]

/-- Tells the user something, on a line of its own.  There is no world after that if standard error
takes nothing. -/
def tell (world : World) (message : String) : Option World :=
  (world.writeStandard World.standardError (Bytes.ofText (message.toList ++ ['\n']))).toOption

/-- The code with which the shell ends if the user cannot be told what has gone wrong. -/
def untoldCode : Nat := 101

/-- What follows a line that was carried out: its failure is told, a fatal one ends the shell with
code 1, and otherwise the shell goes on unless the line has ended it.  If a signal has ended the
shell meanwhile, nothing follows; and a failure that cannot be told ends the shell as well. -/
def conclude (ran : LineRun) : Turn :=
  let goOn (world : World) : Turn :=
    if ran.shell.exiting then .done (.code (exitCode ran.shell.lastStatus)) ⟨ran.shell, world⟩
    else .next ⟨ran.shell, world⟩
  let thenTell (message : String) (follow : World → Turn) : Turn :=
    match tell ran.world message with
    | some world => follow world
    | none => .done (.code untoldCode) ⟨ran.shell, ran.world⟩
  match ran.world.endingSignal?, ran.failure with
  | some signal, _ => .done (.signal signal) ⟨ran.shell, ran.world⟩
  | none, none => goOn ran.world
  | none, some e =>
    if e.isFatal then
      let message := messagePrefix ++ ": ".intercalate ("cannot create processes" :: causes e)
      thenTell message fun world => .done (.code 1) ⟨ran.shell, world⟩
    else thenTell e.message goOn

/-- One line, from the prompt to its end.  The search path is read anew from the environment each
time, and serves both completion and the line. -/
def turn (programs : Programs) (repl : Repl) : Turn :=
  let config := repl.shell.config
  let path := SearchPath.ofVariable (repl.world.valueOf? "PATH")
  let (line?, world) := repl.world.readLine config.prompt.toList config.lineLimit
    (path.candidates repl.world)
  match line? with
  | none => .done (.code (exitCode repl.shell.lastStatus)) { repl with world }
  | some line => conclude (repl.shell.runLine programs path line world)

/-- At most a number of turns: how the shell ends and what it leaves, or `none` if it has not ended
by then. -/
def run (programs : Programs) : (turns : Nat) → Repl → Option (ShellEnd × Repl)
  | 0, _ => none
  | turns + 1, repl =>
    match repl.turn programs with
    | .next repl => run programs turns repl
    | .done ending repl => some (ending, repl)

/-- The shell at its start, in a world whose environment may set the filter of the log. -/
def start (world : World) : Repl :=
  ⟨{ config := Config.ofLogVariable (world.valueOf? logVariable) }, world⟩

/-- How many turns the input allows for: each line takes at least one byte, and the end one turn. -/
def turnLimit (world : World) : Nat :=
  (world.feed World.standardInput).bytes.length + 1

end Repl

end LineShell
