import LineShell.Userland.Script.Searching
import LineShell.Userland.Script.Signals
import LineShell.Userland.Script.Redirecting
import LineShell.Userland.Script.Text

/-!
# Processes of scripts

Some commands run in a process of their own, which begins as a copy of the script: what they change
is not seen by the script, except for the system that all processes share.

## Main definitions

* `Act.runTraps` — does what has been chosen about the signals that have come in.
* `conclude` — carries out the last act of a process, and its end.
* `inProcess`, `inChild` — carry out an act in a process of its own.
* `runJobs`, `giveTurn` — let processes in the background come to their turn.
* `substitute` — what a command prints.
* `runPipeline`, `runInBackground` — several processes.
* `Utility.wait` — waits for processes in the background.
-/

namespace LineShell.Script

/-- Does what has been chosen about one signal; the status stays as it is. -/
def runTrap (run : Evaluator) (status : Nat) (signal : Signal) : Act Unit := do
  if let some action := (← get).traps.lookup signal then
    discard (runText run {} action)
    modify fun r => { r with status }

/-- Does what has been chosen about the signals that have come in, in the order of their numbers. -/
def runTraps (run : Evaluator) : Act Unit := do
  Act.takeSignals
  let r ← get
  if !r.caught.isEmpty then
    let outer := r.trapStatus
    set { r with caught := [], trapStatus := some (outer.getD r.status) }
    try (r.caught.mergeSort fun a b => a ≤ b).forM (runTrap run r.status)
    finally modify fun r => { r with trapStatus := outer }

/-- What a script does at its end, if something has been chosen about that.  The status stays as it
is unless the action ends with another one. -/
def runExitTrap (run : Evaluator) : Act Unit := do
  let r ← get
  if let some action := r.traps.lookup Signal.absent then
    let status := r.status
    set { r with
      traps := r.traps.filter (·.1 != Signal.absent), trapStatus := some status, command := none }
    try
      discard (runText run {} action)
      modify fun r => { r with status }
    catch
      | .finish | .fail => return ()
      | .ended ending => throw (.ended ending)
      | _ => modify fun r => { r with status }

/-- Carries out the last act of a process, and what has been chosen about the end, and gives the
ending. -/
def conclude (run : Evaluator) (act : Act Unit) : Act Ending := do
  try
    try act
    catch
      | .ended ending => throw (.ended ending)
      | _ => pure ()
    runExitTrap run
    return .exited (UInt8.ofNat (← get).status)
  catch
    | .ended ending => return ending
    | _ => return .exited (UInt8.ofNat (← get).status)

/-- What a new process begins with.  What has been chosen about signals is forgotten, except that
some are ignored. -/
def Act.fork : Act Knowledge := do
  let r ← get
  let id ← takeId
  return { r.toKnowledge with
    process := { r.process with id }
    ancestors := r.process :: r.ancestors
    traps := r.traps.filter (·.2.isEmpty)
    caught := [] }

/-- Carries out an act in a process of its own that begins with some knowledge, and what is left to
be done after its end, and gives the ending of the process. -/
def inProcess (run : Evaluator) (afterwards : Act Unit) (start : Knowledge) (act : Act Unit) :
    Act Ending := do
  let outer ← get
  set { outer with toKnowledge := start, jobs := [] }
  let ending ← conclude run act
  try afterwards
  catch _ => pure ()
  let inner ← get
  set { outer with system := inner.system, nextId := inner.nextId }
  return ending

/-- The last command of a process. -/
def lastCommand : Circumstances where
  isLast := true

/-- The device from which processes in the background read. -/
def nullDevice : Octets := "/dev/null".toList

/-- Carries out the processes in the background that are due and have not come to their turn, in the
order in which they have begun.  Each takes one of `fuel` steps. -/
def runJobs (run : Evaluator) : (fuel : Nat) → (isDue : Job → Bool) → Act Unit
  | 0, _ => return ()
  | fuel + 1, isDue => do
    let next? := (← get).jobs.reverse.findSome? fun job =>
      if isDue job then job.start?.map (job.id, ·) else none
    if let some (id, start, command) := next? then
      let ending ← inProcess run (runJobs run fuel fun _ => true) start do
        Act.applyChange (.file World.standardInput .read nullDevice)
        run lastCommand command
      modify (·.withJob id fun job => { job with state := .ended ending })
      Act.takeSignal .childEnded
      runJobs run fuel isDue

/-- Carries out what is left to be done in the background. -/
def finishJobs (run : Evaluator) : Act Unit :=
  runJobs run roundLimit fun _ => true

/-- Lets the processes in the background come to their turn, as they do when the script waits for
one more process, and finds out about their ends. -/
def giveTurn (run : Evaluator) : Act Unit := do
  modify fun r => { r with jobs := r.vacate.2 }
  finishJobs run
  modify (·.withJobs Job.noted)

/-- Carries out an act in a process of its own, for which the script waits. -/
def inChild (run : Evaluator) (act : Act Unit) : Act Ending := do
  inProcess run (finishJobs run) (← Act.fork) act

/-- What a command prints, without the line feeds at its end. -/
def substitute (run : Evaluator) (body? : Option Command) : Act Octets := do
  match body? with
  | none => return []
  | some body =>
    Act.requirePipe
    giveTurn run
    let handle ← Act.addOpened { target := .unnamed [], writable := true }
    let ending ← inChild run do
      Act.setDescriptor World.standardOutput (some handle)
      run lastCommand body
    let wordStatus ← Act.noteEnding ending
    modify fun r => { r with wordStatus }
    let file? := (← get).system.opened[handle]?
    let printed := (file?.map (← get).system.content).getD []
    let text := (Octets.ofBytes printed).filter (· ≠ '\x00')
    return (text.reverse.dropWhile (· = '\n')).reverse

/-- A text with what stands in it replaced, as it is shown to the user: nothing else changes, and a
text with a mistake in it stands for itself. -/
def expandShown (run : Evaluator) (text : Octets) : Act Octets := do
  let outer ← get
  set (outer.withOption 'x' false)
  let shown ←
    try Act.textOfWord (substitute run) .document (documentOf text)
    catch
      | .fail => pure text
      | jump => throw jump
  modify fun r =>
    { r with options := outer.options, status := outer.status, wordStatus := outer.wordStatus }
  return shown

/-- Lets a process read what another one has written to an open file. -/
def readable (written : Handle) : Act Handle := do
  let system := (← get).system
  let target := (system.opened[written]?.map (·.target)).getD (.unnamed [])
  Act.addOpened { target, readable := true }

/-- Carries out commands each in a process of its own, of which each reads what the one before it
prints, and gives the status of the last one. -/
def runPipeline (run : Evaluator) (circumstances : Circumstances) :
    (input? : Option Handle) → List Command → Act Nat
  | _, [] => return 0
  | input?, command :: rest => do
    let output? ←
      if rest.isEmpty then pure none
      else
        Act.requirePipe
        some <$> Act.addOpened { target := .unnamed [], writable := true }
    let ending ← inChild run do
      if input?.isSome then Act.setDescriptor World.standardInput input?
      if output?.isSome then Act.setDescriptor World.standardOutput output?
      run { circumstances with isLast := true } command
    let status ← Act.noteEnding ending
    match output? with
    | none => return status
    | some output => runPipeline run circumstances (some (← readable output)) rest

/-- How many commands hand data to one another in a command. -/
def Command.width : Command → Nat
  | .pipeline commands => commands.length
  | _ => 1

/-- The signals that processes in the background ignore. -/
def ignoredInBackground : List Signal := [.interrupt, .quit]

/-- Begins to carry out a command in a process that is not waited for. -/
def runInBackground (command : Command) : Act Unit := do
  let start ← Act.fork
  let process :=
    { start.process with ignored := ignoredInBackground ++ start.process.ignored }
  modify fun r =>
    let (number, others) := r.vacate
    let job : Job :=
      { number, id := process.id, width := command.width
        state := .waiting { start with process } command }
    { r with jobs := job :: others, lastJob := some process.id, status := 0 }

/-- The signal about which something has been chosen that has come in while the script waited; the
end of a process that it has waited for is none. -/
def interruption? : Act (Option Signal) := do
  Act.takeSignals
  return (← get).caught.find? (· ≠ .childEnded)

/-- The status of a wait that a signal has interrupted. -/
def interruptedStatus (signal : Signal) : Nat :=
  (Ending.signaled signal).status.toNat

/-- Waits for all processes in the background. -/
def waitForAll (run : Evaluator) : Act Nat := do
  finishJobs run
  if let some signal ← interruption? then return interruptedStatus signal
  modify (·.withJobs Job.awaited)
  return 0

/-- Waits for a process in the background that a text calls or numbers. -/
def waitFor (run : Evaluator) (target : Octets) : Act Nat := do
  let job? ←
    if target.head? = some '%' then some <$> Act.findJob (some target) false
    else do
      let id ← Act.number target
      pure ((← get).jobs.find? (·.id = id))
  let some job := job? | return 127
  runJobs run roundLimit fun other => other.id ≤ job.id
  if let some signal ← interruption? then return interruptedStatus signal
  let ending? := ((← get).jobs.find? (·.id = job.id)).bind Job.ending?
  let ending := ending?.getD (.exited 0)
  modify (·.withJob job.id Job.awaited)
  if job.isKnown then return ending.status.toNat else Act.noteEnding ending

/-- Waits for processes in the background: for all of them, or for those that are called. -/
def Utility.wait (run : Evaluator) : Utility := fun arguments => do
  match ← Act.withoutOptions arguments with
  | [] => return { status := ← waitForAll run }
  | targets => return { status := (← targets.mapM (waitFor run)).getLast?.getD 0 }

end LineShell.Script
