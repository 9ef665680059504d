import LineShell.System.Process
import LineShell.Userland.Script.Fields

/-!
# Running scripts

A script that runs has values for names, arguments, functions, options and traps, and a process of
its own in the system.  An act changes all of that, and may instead of going on jump out of the
commands that it is part of.

## Main definitions

* `Variable`, `Knowledge` — what a process of a script knows.
* `Job`, `Running` — a process in the background, and a script at a point of its run.
* `Jump`, `Act` — acts, and how they leave the commands around them.
* `Act.write`, `Act.warn`, `Act.fail` — output, and what the user is told.
* `Act.assign`, `Act.unset`, `Act.keepLocal` — values of names.
* `Running.environment` — what programs find in their environment.
-/

namespace LineShell.Script

/-- What is known about a name. -/
structure Variable where
  value : Option Octets := none
  /-- Whether programs find it in their environment. -/
  exported : Bool := false
  /-- Whether it cannot be given another value. -/
  constant : Bool := false
  deriving DecidableEq, Repr

/-- A program that has been looked up. -/
structure Tracked where
  name : Octets
  path : Octets
  /-- Whether the script has gone to another directory since. -/
  isStale : Bool := false
  deriving DecidableEq, Repr

/-- What has been changed inside of a function and is put back at its end: a name with what was
known about it, or the options. -/
inductive Saved
  | name (name : Octets) (known? : Option Variable)
  | options (letters : List Char)
  deriving DecidableEq, Repr

/-- What a process of a script knows.  Each further process of the script begins with a copy. -/
structure Knowledge where
  process : Process
  /-- The processes that wait for this one. -/
  ancestors : List Process
  /-- The number of the process that runs the script as a whole. -/
  scriptId : Nat
  /-- The name of the script. -/
  name : Octets
  arguments : List Octets
  bindings : List (Octets × Variable) := []
  functions : List (Octets × Command) := []
  /-- The texts that are part of the script, by their numbers. -/
  documents : Array Word := #[]
  aliases : List (Octets × Octets) := []
  /-- The letters of the options that are set. -/
  options : List Char := []
  /-- What is to be done about a signal, or with the number 0 at the end. -/
  traps : List (Signal × Octets) := []
  /-- The signals that have come in and not been dealt with. -/
  caught : List Signal := []
  /-- The status of the last command. -/
  status : Nat := 0
  /-- The status of the last commands that a word has been replaced by. -/
  wordStatus : Nat := 0
  /-- The status to end with, while a trap is being carried out. -/
  trapStatus : Option Nat := none
  /-- The line of the current command. -/
  line : Nat := 0
  /-- The command that messages are about. -/
  command : Option Octets := none
  /-- How many loops there are around the current command. -/
  loops : Nat := 0
  /-- How many functions are being carried out. -/
  functionDepth : Nat := 0
  /-- The descriptors that are put back at the end of the command, each with the number under which
  it is kept if it was open. -/
  kept : List (Nat × Option Nat) := []
  /-- What is put back at the end of each function that is carried out, the inner one first. -/
  saved : List (List Saved) := []
  /-- The number of the last process in the background. -/
  lastJob : Option Nat := none
  /-- How the script calls the current directory. -/
  directoryName : Octets := []
  /-- The path of the current directory without links on the way, if it has been looked up. -/
  physicalName : Octets := []
  /-- The number of the next argument to be looked at for options. -/
  optionIndex : Nat := 1
  /-- How much of an argument with several options has been used up. -/
  optionOffset : Nat := 0
  /-- The programs that have been looked up, in the order in which they were at first. -/
  programs : List Tracked := []

/-- How a process in the background stands. -/
inductive Job.State
  /-- It has not come to its turn: what it knows, and the command that it is to carry out. -/
  | waiting (start : Knowledge) (command : Command)
  | ended (ending : Ending)

/-- A process in the background. -/
structure Job where
  /-- The number by which the script calls it. -/
  number : Nat
  /-- The number of the process. -/
  id : Nat
  /-- How many commands it hands data through. -/
  width : Nat
  state : Job.State
  /-- Whether the script has found out about its end. -/
  isKnown : Bool := false
  /-- Whether the script has waited for its end. -/
  isAwaited : Bool := false

/-- A script at a point of its run. -/
structure Running extends Knowledge where
  system : System
  /-- The number of the next process. -/
  nextId : Nat
  /-- The processes in the background, the latest one first. -/
  jobs : List Job := []

/-- How an act leaves the commands around it. -/
inductive Jump
  /-- It ends so many loops. -/
  | leaveLoops (count : Nat)
  /-- It ends all but the last of so many loops, and goes on with the next round of that one. -/
  | nextRound (count : Nat)
  /-- It ends the function. -/
  | leaveFunction
  /-- It ends the script, or the command of the language that it is part of, because of an error. -/
  | fail
  /-- It ends the script. -/
  | finish
  /-- The process has come to its end. -/
  | ended (ending : Ending)
  deriving DecidableEq, Repr

/-- An act of a running script. -/
abbrev Act := EStateM Jump Running

namespace Running

/-- Whether an option is set. -/
def hasOption (r : Running) (letter : Char) : Bool :=
  r.options.contains letter

/-- The value of a name. -/
def valueOf? (r : Running) (name : Octets) : Option Octets :=
  (r.bindings.lookup name).bind (·.value)

/-- What is known about a name replaced by something else, or by nothing. -/
def bind (r : Running) (name : Octets) (known? : Option Variable) : Running :=
  { r with
    bindings := (known?.map (name, ·)).toList ++ r.bindings.filter (·.1 != name) }

/-- The name whose value is the list of directories in which programs are looked up. -/
def searchName : Octets := "PATH".toList

/-- The script with all programs forgotten that have been looked up, if a name is the one on which
that depends. -/
def forgetting (r : Running) (name : Octets) : Running :=
  if name = searchName then { r with programs := [] } else r

/-- The descriptors from this number on are the script's own: programs do not get them. -/
def ownDescriptors : Nat := 10

/-- The names and values that programs find in their environment. -/
def environment (r : Running) : List (Bytes × Bytes) :=
  r.bindings.filterMap fun (name, v) =>
    match v.exported, v.value with
    | true, some value => some (Octets.toBytes name, Octets.toBytes value)
    | _, _ => none

/-- The process of a program that the script starts, but for its number. -/
def programProcess (r : Running) : Process :=
  { r.process with
    environment := r.environment
    ignored := r.process.ignored ++ (r.traps.filter (·.2.isEmpty)).map (·.1)
    descriptors := ⟨r.process.descriptors.entries.filter (·.1 < ownDescriptors)⟩ }

/-- The separators at which values are cut. -/
def separators (r : Running) : Octets :=
  (r.valueOf? "IFS".toList).getD standardSeparators

/-- What stands in front of messages about a line. -/
def messageStart (r : Running) : Octets :=
  let about := match r.command with
    | some command => command ++ ": ".toList
    | none => []
  r.name ++ ": ".toList ++ decimal r.line ++ ": ".toList ++ about

end Running

/-- Whether the script is one that the user is asked for, in the process that asks. -/
def Running.isDialogue (r : Running) : Bool :=
  r.hasOption 'i' && r.process.id = r.scriptId

/-- The signals that do not end a script which the user is asked for. -/
def ignoredInDialogue : List Signal := [.quit, .terminate]

namespace Act

/-- Takes one signal that has been sent to the process. -/
def takeSignal (signal : Signal) : Act Unit := do
  let r ← get
  let end_ : Act Unit := throw (.ended (.signaled signal))
  if signal = .kill then end_
  else if !r.process.ignored.contains signal then
    match r.traps.lookup signal with
    | some [] => return ()
    | some _ => set { r with caught := signal :: r.caught.filter (· ≠ signal) }
    | none =>
      if signal.endsProcess && !(r.isDialogue && ignoredInDialogue.contains signal) then end_

/-- Takes note of what writing has come to, and tells whether it was possible. -/
def noteWritten (written : System × Option Errno) : Act Bool := do
  modify fun r => { r with system := written.1 }
  if written.2 = some .fileTooLarge then takeSignal .fileSize
  return written.2.isNone

/-- Writes octets to a descriptor, and tells whether that was possible. -/
def tryWrite (fd : Nat) (octets : Octets) : Act Bool := do
  if octets.isEmpty then return true
  let r ← get
  noteWritten (r.process.write r.system fd octets.toBytes)

/-- Tells the user something, without a word about where it comes from. -/
def tell (text : Octets) : Act Unit := do
  discard (tryWrite World.standardError text)

/-- Tells the user that something is wrong on the current line. -/
def warn (message : Octets) : Act Unit := do
  tell ((← get).messageStart ++ message ++ ['\n'])

/-- The status after an error. -/
def errorStatus : Nat := 2

/-- Tells the user that something is wrong, and ends the command or the script. -/
def fail {α : Type} (message : Octets) : Act α := do
  warn message
  modify fun r => { r with status := errorStatus }
  throw .fail

/-- The whole number of 64 bits that a text spells in decimal digits, with blanks around it. -/
def integer (text : Octets) : Act Int := do
  let trimmed := ((text.dropWhile isSpace).reverse.dropWhile isSpace).reverse
  let (isNegative, digits) := match trimmed with
    | '-' :: digits => (true, digits)
    | '+' :: digits => (false, digits)
    | digits => (false, digits)
  match digitsIn? 10 digits with
  | some value =>
    let greatest := if isNegative then 0x8000000000000000 else 0x7FFFFFFFFFFFFFFF
    if greatest < value then fail ("Illegal number: ".toList ++ text)
    else return if isNegative then -value else value
  | none => fail ("Illegal number: ".toList ++ text)

/-- The whole number of 31 bits that a text spells, which is not negative. -/
def number (text : Octets) : Act Nat := do
  let value ← integer text
  if value < 0 || 0x80000000 ≤ value then fail ("Illegal number: ".toList ++ text)
  else return value.toNat

/-- What a new value changes besides: those that count options start over with it, and programs
have to be looked up again in other directories. -/
def noteValue (name value : Octets) : Act Unit := do
  if name = "OPTIND".toList then
    let index ← number value
    modify fun r => { r with optionIndex := max index 1, optionOffset := 0 }
  else modify (·.forgetting name)

/-- Gives a name a value. -/
def assign (name : Octets) (value : Octets) : Act Unit := do
  let r ← get
  if !isName name then fail (name ++ ": bad variable name".toList)
  let old := (r.bindings.lookup name).getD {}
  if old.constant then fail (name ++ ": is read only".toList)
  noteValue name value
  let exported := old.exported || r.hasOption 'a'
  modify fun r => r.bind name (some { old with value := some value, exported })

/-- Marks a name as one that programs find in their environment. -/
def markExported (name : Octets) : Act Unit := do
  if !isName name then fail (name ++ ": bad variable name".toList)
  modify fun r => r.bind name (some { (r.bindings.lookup name).getD {} with exported := true })

/-- Marks a name as one that cannot be given another value. -/
def markConstant (name : Octets) : Act Unit := do
  if !isName name then fail (name ++ ": bad variable name".toList)
  modify fun r => r.bind name (some { (r.bindings.lookup name).getD {} with constant := true })

/-- The names of which something stays known when their values are taken away. -/
def lastingNames : List String :=
  ["IFS", "MAIL", "MAILPATH", "OPTIND", "PATH", "PS1", "PS2", "PS4"]

/-- Takes the value of a name away. -/
def unset (name : Octets) : Act Unit := do
  let r ← get
  if !isName name then fail (name ++ ": bad variable name".toList)
  let old := (r.bindings.lookup name).getD {}
  if old.constant then fail (name ++ ": is read only".toList)
  let isLasting := lastingNames.contains (String.ofList name) && old.exported
  let known? := if isLasting then some { old with value := none } else none
  set ((r.bind name known?).forgetting name)

/-- Remembers what is to be put back at the end of the function. -/
def save (saved : Saved) : Act Unit :=
  modify fun r =>
    match r.saved with
    | inner :: outer => { r with saved := (saved :: inner) :: outer }
    | [] => r

/-- Remembers what is known about a name, to put it back at the end of the function. -/
def keepLocal (name : Octets) : Act Unit := do
  save (.name name ((← get).bindings.lookup name))

/-- Puts one thing back. -/
def putBack (r : Running) : Saved → Running
  | .name name known? => (r.bind name known?).forgetting name
  | .options options => { r with options }

/-- Carries out an act, and puts back what it has saved, however it ends. -/
def withSaved {α : Type} (act : Act α) : Act α := do
  modify fun r => { r with saved := [] :: r.saved }
  try act
  finally
    modify fun r =>
      match r.saved with
      | inner :: outer => inner.foldl putBack { r with saved := outer }
      | [] => r

/-- Makes a descriptor stand for an open file, or closes it. -/
def setDescriptor (fd : Nat) (handle? : Option Handle) : Act Unit :=
  modify fun r =>
    let descriptors := match handle? with
      | some handle => r.process.descriptors.set fd handle
      | none => r.process.descriptors.close fd
    { r with process := { r.process with descriptors } }

/-- Fails because of an error with a descriptor. -/
def failAbout {α : Type} (fd : Nat) (errno : Errno) : Act α :=
  fail (decimal fd ++ (": " ++ errno.describe).toList)

/-- Makes sure that there is room for the two ends of a pipe. -/
def requirePipe : Act Unit := do
  let process := (← get).process
  let second := process.nextDescriptor 0 >>= fun fd =>
    { process with descriptors := process.descriptors.set fd 0 }.nextDescriptor 0
  if second.toOption.isNone then fail "Pipe call failed".toList

/-- Carries out an act on behalf of a command, which messages name meanwhile. -/
def onBehalfOf {α : Type} (command : Option Octets) (act : Act α) : Act α := do
  let outer := (← get).command
  modify fun r => { r with command }
  try act
  finally modify fun r => { r with command := outer }

end Act

end LineShell.Script
