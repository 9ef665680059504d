import LineShell.Userland.Script.Grammar
import LineShell.Userland.Script.Running

/-!
# Carrying out the text of a script

A script is read command by command, and each command is carried out before the next one is read.
The text of a file is taken from it in blocks, as far as it is needed, so what a script writes to
its own file can be read later on.

## Main definitions

* `Circumstances` — what a command has to know about those around it.
* `Act.readBlock` — the next block of a file.
* `Reading.Outcome`, `nextCommandFrom` — the next command of a text that may go on.
* `Origin` — where a text comes from, and the dialogue with a user who is asked for it.
* `runCommands`, `runText`, `runFile` — carries out all commands of a text or a file.
-/

namespace LineShell.Script

/-- What a command has to know about those around it. -/
structure Circumstances where
  /-- Whether its status is looked at, so that no success is no reason to end the script. -/
  isTested : Bool := false
  /-- Whether nothing comes after it in its process, so that a program may take its place. -/
  isLast : Bool := false
  deriving DecidableEq, Repr

/-- What carries out commands. -/
abbrev Evaluator := Circumstances → Command → Act Unit

/-- How often something may be done again at most. -/
def roundLimit : Nat := 0x10000000000

/-- How many bytes are taken from a file at a time. -/
def blockLength : Nat := 8192

/-- The next block of a file without NUL bytes; nothing at its end. -/
def Act.readBlock (handle : Handle) : Act Octets := do
  let r ← get
  match r.system.read handle with
  | .error _ => return []
  | .ok bytes =>
    let block := bytes.take blockLength
    set { r with system := r.system.skip handle block.length }
    return (Octets.ofBytes block).filter (· ≠ '\x00')

/-- A command that has been read from a text, or what is wrong with it. -/
structure Reading.Outcome where
  result : Except SyntaxError (Option Command)
  /-- The text from which it was read. -/
  before : Reader
  /-- The text behind it. -/
  after : Reader
  /-- Whether the end of the text has been seen. -/
  sawEnd : Bool

/-- The next command of a text.  As long as the end of that has not been seen, `more` gives what
follows in the text. -/
def nextCommandFrom (more : Act Octets) : (fuel : Nat) → (sawEnd : Bool) → Reader →
    Act Reading.Outcome
  | 0, sawEnd, reader => return ⟨reader.nextCommand.1, reader, reader, sawEnd⟩
  | fuel + 1, sawEnd, reader => do
    let (result, after) := reader.nextCommand
    if after.atEnd && !sawEnd then
      let block ← more
      if block.isEmpty then return ⟨result, reader, after, true⟩
      else nextCommandFrom more fuel sawEnd { reader with rest := reader.rest ++ block }
    else return ⟨result, reader, after, sawEnd⟩

/-- Shows the text that has been read, if the script asks for that. -/
def showRead (before after : Octets) : Act Unit := do
  if (← get).hasOption 'v' then Act.tell (before.take (before.length - after.length))

/-- Where a text comes from that is carried out. -/
inductive Origin
  /-- It is a value that the script has. -/
  | value
  /-- It stands in a file that the script has named. -/
  | file
  /-- It is the script itself, which the user may be asked for, with a text in which `expand`
  replaces what stands for something else. -/
  | script (expand : Octets → Act Octets)

namespace Origin

/-- Whether a text is read from a file, so that it may be shown as it is read. -/
def isFile : Origin → Bool
  | .value => false
  | .file | .script _ => true

/-- Asks the user for a line, with the text that a name stands for, if there is a dialogue. -/
def ask (origin : Origin) (name : String) : Act Unit := do
  let r ← get
  match origin with
  | .script expand =>
    if r.hasOption 'i' then Act.tell (← expand ((r.valueOf? name.toList).getD []))
  | _ => return ()

/-- Asks for a command. -/
def askForCommand (origin : Origin) : Act Unit :=
  origin.ask "PS1"

/-- Asks for the lines of a command behind the first one, which have been read.  The end of the last
line is no reason to ask for more, if the command ends there. -/
def askForRest (origin : Origin) (before after : Reader) : Act Unit := do
  let lines := after.line - before.line
  let count := if after.last.isMark .newline then lines - 1 else lines
  (List.range count).forM fun _ => origin.ask "PS2"

/-- How often the end of the script is ignored, if that is asked for. -/
def ignoredEnds : Nat := 50

/-- What is said if the end of the script is ignored. -/
def leavingAdvice : Octets :=
  "\nUse \"exit\" to leave shell.\n".toList

/-- Ends the dialogue at the end of a text; the user has perhaps been asked for a command there. -/
def close (origin : Origin) (hasAsked : Bool) : Act Unit := do
  if let .script _ := origin then
    if !hasAsked then origin.askForCommand
    let r ← get
    if r.hasOption 'I' then
      (List.range ignoredEnds).forM fun _ => do
        Act.tell leavingAdvice
        origin.askForCommand
    else if r.hasOption 'i' then Act.tell ['\n']

end Origin

/-- Carries out all commands of a text, and gives the status of the last one. -/
def runCommands (run : Evaluator) (circumstances : Circumstances) (origin : Origin)
    (more : Act Octets) :
    (fuel : Nat) → (sawEnd : Bool) → Reader → (status : Nat) → Act Nat
  | 0, _, _, status => return status
  | fuel + 1, sawEnd, reader, status => do
    origin.askForCommand
    let r ← get
    let reader :=
      { reader with aliases := r.aliases, documents := r.documents, pending := [], atEnd := false }
    let ⟨result, before, after, sawEnd⟩ ← nextCommandFrom more roundLimit sawEnd reader
    origin.askForRest before after
    match result with
    | .error e =>
      modify fun r => { r with line := e.line }
      Act.fail ("Syntax error: " ++ e.message).toList
    | .ok command? =>
      modify fun r => { r with documents := after.documents }
      if origin.isFile then showRead before.rest after.rest
      let isOver := sawEnd && after.atEnd && after.rest.isEmpty
      let status ← match command? with
        | none => pure status
        | some command => do
          run { circumstances with isLast := circumstances.isLast && isOver } command
          pure (← get).status
      if isOver then
        origin.close command?.isNone
        return status
      else runCommands run circumstances origin more fuel sawEnd after status

/-- Carries out a text on its own, and gives its status. -/
def runText (run : Evaluator) (circumstances : Circumstances) (text : Octets) : Act Nat :=
  runCommands run circumstances .value (return []) roundLimit false { rest := text } 0

/-- Carries out the text of a file, as far as it has not been read, and gives its status. -/
def runFile (run : Evaluator) (origin : Origin) (line : Nat) (handle : Handle) : Act Nat :=
  runCommands run {} origin (Act.readBlock handle) roundLimit false { rest := [], line } 0

end LineShell.Script
