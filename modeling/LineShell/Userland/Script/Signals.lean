import LineShell.Userland.Script.Jobs

/-!
# Signals in scripts

A script may choose what to do about a signal, and about its own end.  A signal that comes in is
remembered until the command is over; one about which nothing has been chosen ends the process.

## Main definitions

* `signalOf?` — the signal that a text names or numbers.
* `Act.takeSignals` — takes the signals that have been sent to the process.
* `Utility.trap` — chooses what to do about signals.
* `Utility.kill` — sends a signal.
-/

namespace LineShell.Script

/-- The signal of a number. -/
def signalOfNumber? (text : Octets) : Option Signal :=
  match digitsIn? 10 text with
  | some number => if number < Signal.count then some (Signal.ofNumber number) else none
  | none => none

/-- The signal that a text names or numbers. -/
def signalOf? (text : Octets) : Option Signal :=
  (signalOfNumber? text).orElse fun _ => Signal.ofName? (String.ofList text)

namespace Act

/-- Takes the signals that have been sent to the process. -/
def takeSignals : Act Unit := do
  let r ← get
  let (own, others) := r.system.signals.partition (·.1 = r.process.id)
  set { r with system := { r.system with signals := others } }
  own.forM fun sent => takeSignal sent.2

/-- Whether a process is known to a script: itself, those that wait for it, and the first of all. -/
def knows (r : Running) (id : Nat) : Bool :=
  id = 1 || id = r.process.id || r.ancestors.any (·.id = id)

/-- Sends a signal to a process, and tells whether there is one. -/
def sendSignal (signal : Signal) (id : Nat) : Act Bool := do
  let r ← get
  let id := if id = 0 then r.process.id else id
  if knows r id then
    set { r with system := { r.system with signals := r.system.signals ++ [(id, signal)] } }
    takeSignals
    return true
  else signalJob signal id

end Act

/-- The line that shows what is to be done about a signal. -/
def shownTrap (signal : Signal) (action : Octets) : Octets :=
  printedLine ("trap -- ".toList ++ singleQuoted action ++ ' ' :: signal.name.toList)

/-- Chooses what to do about the signals that some texts name; without an action, what is done by
default. -/
def chooseAction (action? : Option Octets) : List Octets → Act Report
  | [] => return {}
  | text :: rest => do
    match signalOf? text with
    | none =>
      Act.tell ("trap: ".toList ++ text ++ ": bad trap\n".toList)
      return { status := 1 }
    | some signal =>
      modify fun r =>
        { r with
          traps := (action?.map (signal, ·)).toList ++ r.traps.filter (·.1 != signal) }
      chooseAction action? rest

/-- Chooses what to do about signals, or shows what has been chosen. -/
def Utility.trap : Utility := fun arguments => do
  match ← Act.withoutOptions arguments with
  | [] =>
    let r ← get
    let shown := Signal.all.filterMap fun signal =>
      (r.traps.lookup signal).map (shownTrap signal)
    return { output := shown.flatten }
  | first :: rest =>
    if rest.isEmpty || (signalOfNumber? first).isSome then chooseAction none (first :: rest)
    else chooseAction (if first = ['-'] then none else some first) rest

/-- How the command that sends signals is called. -/
def killUsage : Octets :=
  ("Usage: kill [-s sigspec | -signum | -sigspec] [pid | job]... or\n"
    ++ "kill -l [exitstatus]").toList

/-- Sends a signal to the processes that some texts number. -/
def sendToAll (signal : Signal) (targets : List Octets) : Act Report := do
  targets.foldlM (fun (report : Report) target => do
    let isJob := target.head? = some '%'
    let isGroup := isJob || target.head? = some '-'
    let id ←
      if isJob then (·.id) <$> Act.findJob (some target) false
      else Act.number (if isGroup then target.tail else target)
    if !isGroup && (← Act.sendSignal signal id) then return report
    else
      Act.warn (printedLine Errno.noProcess.describe.toList)
      return { status := 1 }) {}

/-- Shows the names of all signals, or of that which a status stands for. -/
def showSignals : List Octets → Act Report
  | [] =>
    let names := (Signal.all.drop 1).map fun signal => printedLine signal.name.toList
    return { output := printedLine ['0'] ++ names.flatten }
  | text :: _ => do
    let status ← Act.number text
    let number := if 128 < status then status - 128 else status
    if 0 < number && number < Signal.count then
      return { output := printedLine (Signal.ofNumber number).name.toList }
    else Act.fail ("invalid signal number or exit status: ".toList ++ text)

/-- The signal that a text names or numbers, where the end of the script has no name. -/
def sendableSignal? (text : Octets) : Option Signal :=
  (signalOf? text).filter fun signal => signal ≠ Signal.absent || (signalOfNumber? text).isSome

/-- The signal that the option of a command names. -/
def signalOfOption (text : Octets) : Act Signal := do
  match sendableSignal? text with
  | some signal => return signal
  | none => Act.fail ("invalid signal number or name: ".toList ++ text)

/-- Sends a signal, or shows the names of signals. -/
def Utility.kill : Utility := fun arguments => do
  let direct? := match arguments.head? with
    | some ('-' :: text) => sendableSignal? text
    | _ => none
  match direct? with
  | some signal =>
    if arguments.tail.isEmpty then Act.fail killUsage
    sendToAll signal arguments.tail
  | none =>
    let isDashed := (arguments.head?.bind List.head?) = some '-'
    let (options, rest) ←
      if isDashed then Act.options ['l', 's'] (· = 's') arguments else pure ([], arguments)
    let named := options.filter (·.1 = 's')
    let signals ← named.mapM fun option => signalOfOption option.2
    let lists := options.any (·.1 = 'l')
    if lists && signals.isEmpty then showSignals rest
    else if lists || rest.isEmpty then Act.fail killUsage
    else sendToAll (signals.getLast?.getD .terminate) rest

end LineShell.Script
