import LineShell.Userland.Script.Utility

/-!
# Processes in the background

A script does not wait for a process in the background, which comes to its turn when the script has
to wait for another one, or ends.  Such a process has a small number, which is free again once the
script has both found out about its end and waited for it.

## Main definitions

* `Job.isOver`, `Running.vacate` — which processes are not known any more, and the next number.
* `Act.findJob` — the process that a text calls.
* `Act.signalJob` — sends a signal to a process.
* `Utility.jobs`, `Utility.resume` — the commands that show such processes, and would move them.
-/

namespace LineShell.Script

namespace Job

/-- Whether nothing is left to be known about a process. -/
def isOver (job : Job) : Bool :=
  job.isKnown && job.isAwaited

/-- How a process has ended, if it has. -/
def ending? (job : Job) : Option Ending :=
  match job.state with
  | .waiting _ _ => none
  | .ended ending => some ending

/-- What a process begins with, if it has not come to its turn. -/
def start? (job : Job) : Option (Knowledge × Command) :=
  match job.state with
  | .waiting start command => some (start, command)
  | .ended _ => none

/-- A process about whose end, if it has come, the script has found out. -/
def noted (job : Job) : Job :=
  { job with isKnown := job.isKnown || job.ending?.isSome }

/-- A process for whose end, if it has come, the script has waited. -/
def awaited (job : Job) : Job :=
  { job.noted with isAwaited := job.isAwaited || job.ending?.isSome }

/-- What is said about how a process stands. -/
def condition (job : Job) : String :=
  match job.ending? with
  | none => "Running"
  | some (.exited code) =>
    if code = 0 then "Done" else "Done(" ++ toString code.toNat ++ ")"
  | some (.signaled signal) => signal.description

end Job

namespace Running

/-- The processes in the background, with one of them changed. -/
def withJob (r : Running) (id : Nat) (change : Job → Job) : Running :=
  { r with jobs := r.jobs.map fun job => if job.id = id then change job else job }

/-- The processes in the background, all of them changed. -/
def withJobs (r : Running) (change : Job → Job) : Running :=
  { r with jobs := r.jobs.map change }

/-- The number of the next process in the background, and the others.  The least number is taken
that is free, or that of a process that is over, which is forgotten. -/
def vacate (r : Running) : Nat × List Job :=
  let isFree (number : Nat) : Bool := r.jobs.all fun job => job.number != number || job.isOver
  let number := ((List.range (r.jobs.length + 1)).map (· + 1)).find? isFree
  let number := number.getD (r.jobs.length + 1)
  (number, r.jobs.filter (·.number != number))

end Running

namespace Act

/-- The process in the background that a text calls, or the latest one.  Scripts have no control of
their terminal, so there is none that they can move. -/
def findJob (text? : Option Octets) (isMoved : Bool) : Act Job := do
  let jobs := (← get).jobs
  let text := text?.getD "(null)".toList
  let missing (about : String) : Act Job := fail about.toList
  let job ← match text? with
    | none | some ['%'] | some ['%', '%'] | some ['%', '+'] =>
      (jobs.head?.map pure).getD (missing "No current job")
    | some ['%', '-'] => (jobs[1]?.map pure).getD (missing "No previous job")
    | some text =>
      let number? := if text.head? = some '%' then digitsIn? 10 text.tail else none
      let job? := jobs.find? fun job => number? = some job.number
      (job?.map pure).getD (fail ("No such job: ".toList ++ text))
  if isMoved then fail ("job ".toList ++ text ++ " not created under job control".toList)
  return job

/-- Sends a signal to a process in the background, and tells whether there is one. -/
def signalJob (signal : Signal) (id : Nat) : Act Bool := do
  match (← get).jobs.find? (·.id = id) with
  | none => return false
  | some job =>
    match job.start? with
    | none => return !job.isKnown
    | some (start, _) =>
      let isIgnored := start.process.ignored.contains signal || (start.traps.lookup signal).isSome
      if signal = .kill || (signal.endsProcess && !isIgnored) then
        modify (·.withJob id fun job => { job with state := .ended (.signaled signal) })
      return true

end Act

/-- What is shown about a process in the background. -/
inductive Job.View
  | plain
  /-- The number of the process is shown as well. -/
  | withId
  /-- Only the number of the process is shown. -/
  | onlyId
  deriving DecidableEq, Repr

/-- A line that shows a process in the background, with a sign for the latest two. -/
def Job.shown (job : Job) (view : Job.View) (sign : Char) : Octets :=
  let id := decimal job.id
  if view = .onlyId then printedLine id
  else
    let front := '[' :: decimal job.number ++ [']', ' ', sign, ' ']
    let about := front ++ (if view = .withId then id ++ [' '] else []) ++ job.condition.toList
    let gap := List.replicate (max 1 (33 - about.length)) ' '
    printedLine (about ++ gap ++ (List.replicate (job.width - 1) " | ".toList).flatten)

/-- Shows a process in the background.  One that has ended is forgotten then. -/
def showJob (view : Job.View) (id : Nat) : Act Octets := do
  let r ← get
  match r.jobs.find? (·.id = id) with
  | none => return []
  | some job =>
    let isAt (place : Nat) : Bool := (r.jobs[place]?.map (·.id)) = some id
    if view ≠ .onlyId && job.ending?.isSome then
      set { r with jobs := r.jobs.filter (·.id != id) }
    return job.shown view (if isAt 0 then '+' else if isAt 1 then '-' else ' ')

/-- Shows processes in the background: all of them, or those that are called. -/
def Utility.jobs : Utility := fun arguments => do
  let (options, texts) ← Act.options ['l', 'p'] (fun _ => false) arguments
  let view : Job.View := match options.getLast? with
    | some ('l', _) => .withId
    | some _ => .onlyId
    | none => .plain
  modify (·.withJobs Job.noted)
  if texts.isEmpty then
    let shown ← (← get).jobs.mapM fun job => showJob view job.id
    return { output := shown.flatten }
  else
    let shown ← texts.mapM fun text => do
      showJob view (← Act.findJob (some text) false).id
    return { output := shown.flatten }

/-- Would go on with a process in the background, which scripts cannot move. -/
def Utility.resume : Utility := fun arguments => do
  discard (Act.findJob (← Act.withoutOptions arguments).head? true)
  return {}

end LineShell.Script
