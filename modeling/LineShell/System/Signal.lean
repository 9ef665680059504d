/-!
# Signals

A process may be sent a signal, which ends it unless it ignores the signal or has something to do
instead.  Signals have numbers and most of them names.

## Main definitions

* `Signal` — a signal, by its number; 0 stands for none.
* `Signal.name`, `Signal.ofName?` — the name of a signal.
* `Signal.endsProcess` — whether a signal ends a process that makes no provision for it.
* `Signal.firstFatal?` — which of some signals ends a process.
* `Signal.description` — what is said about a process that a signal has ended.
-/

namespace LineShell

/-- A signal, by its number.  The number 0 stands for no signal at all. -/
abbrev Signal := Fin 128

namespace Signal

/-- The signal of a number. -/
def ofNumber (number : Nat) : Signal :=
  Fin.ofNat 128 number

/-- What stands for no signal. -/
def absent : Signal := 0

/-- The signal that a terminal sends to interrupt a process. -/
def interrupt : Signal := 2

/-- The signal that a terminal sends to make a process leave an image of itself behind. -/
def quit : Signal := 3

/-- The signal that tells a process about the end of one that it has started. -/
def childEnded : Signal := 17

/-- The signal of a process whose calculation has no result. -/
def badResult : Signal := 8

/-- The signal of a process that uses memory in a way that is not possible. -/
def badAccess : Signal := 7

/-- The signal that cannot be ignored. -/
def kill : Signal := 9

/-- The signal of a process that has used memory that it does not have. -/
def segmentation : Signal := 11

/-- The signal of a process that writes to a pipe that nobody reads. -/
def brokenPipe : Signal := 13

/-- The signal that asks a process to end. -/
def terminate : Signal := 15

/-- The signal of a process that writes more to a file than it may. -/
def fileSize : Signal := 25

/-- How many signals there are, with the number 0 among them. -/
def count : Nat := 65

/-- The first and the last of the signals without a meaning of their own. -/
def realTime : Nat × Nat := (34, 64)

/-- The signals from the first one on: the name, and what is said about a process that has been
ended by it. -/
def table : List (String × String) :=
  [("HUP", "Hangup"), ("INT", "Interrupt"), ("QUIT", "Quit"), ("ILL", "Illegal instruction"),
    ("TRAP", "Trace/breakpoint trap"), ("ABRT", "Aborted"), ("BUS", "Bus error"),
    ("FPE", "Floating point exception"), ("KILL", "Killed"), ("USR1", "User defined signal 1"),
    ("SEGV", "Segmentation fault"), ("USR2", "User defined signal 2"), ("PIPE", "Broken pipe"),
    ("ALRM", "Alarm clock"), ("TERM", "Terminated"), ("STKFLT", "Stack fault"),
    ("CHLD", "Child exited"), ("CONT", "Continued"), ("STOP", "Stopped (signal)"),
    ("TSTP", "Stopped"), ("TTIN", "Stopped (tty input)"), ("TTOU", "Stopped (tty output)"),
    ("URG", "Urgent I/O condition"), ("XCPU", "CPU time limit exceeded"),
    ("XFSZ", "File size limit exceeded"), ("VTALRM", "Virtual timer expired"),
    ("PROF", "Profiling timer expired"), ("WINCH", "Window changed"), ("IO", "I/O possible"),
    ("PWR", "Power failure"), ("SYS", "Bad system call")]

/-- The name of a signal among those without a meaning of their own, counted from the nearer end. -/
def realTimeName (number : Nat) : String :=
  let above := number - realTime.1
  let below := realTime.2 - number
  if above = 0 then "RTMIN"
  else if below = 0 then "RTMAX"
  else if above ≤ below then "RTMIN+" ++ toString above
  else "RTMAX-" ++ toString below

/-- The name of a signal; a signal without one is called by its number. -/
def name (signal : Signal) : String :=
  if signal.val = 0 then "EXIT"
  else
    match table[signal.val - 1]? with
    | some entry => entry.1
    | none =>
      if realTime.1 ≤ signal.val then realTimeName signal.val else toString signal.val

/-- The signals, from the number 0 on. -/
def all : List Signal :=
  (List.range count).map ofNumber

/-- The signal of a name, in letters of either case. -/
def ofName? (name : String) : Option Signal :=
  all.find? fun signal => signal.name.toUpper = name.toUpper

/-- The signals that by default are ignored, or only stop a process or let it go on. -/
def harmless : List Signal :=
  [0, 17, 18, 19, 20, 21, 22, 23, 28]

/-- Whether a signal ends a process that makes no provision for it. -/
def endsProcess (signal : Signal) : Bool :=
  !harmless.contains signal

/-- The signals that a process keeps for the management of its threads.  They are ignored where one
process starts another. -/
def aboutThreads : List Signal :=
  [32, 33]

/-- The signals that the shell ignores, and with it the programs that it starts. -/
def ignoredByShell : List Signal :=
  brokenPipe :: aboutThreads

/-- The signals about memory, of which the shell survives one of each kind: it finds that its stack
has not run out, and makes no provision for another one. -/
def survivedOnce : List Signal :=
  [badAccess, segmentation]

/-- The first signal of some that ends a process.  It ignores some signals, and survives one of each
of some others. -/
def firstFatal? (ignored : List Signal) : (survived : List Signal) → List Signal → Option Signal
  | _, [] => none
  | survived, signal :: rest =>
    if survived.contains signal then firstFatal? ignored (survived.filter (· ≠ signal)) rest
    else if signal.endsProcess && !ignored.contains signal then some signal
    else firstFatal? ignored survived rest

/-- What is said about a process that a signal has ended. -/
def description (signal : Signal) : String :=
  match table[signal.val - 1]? with
  | some entry => if signal.val = 0 then "Unknown signal 0" else entry.2
  | none =>
    if realTime.1 ≤ signal.val then "Real-time signal " ++ toString (signal.val - realTime.1)
    else "Unknown signal " ++ toString signal.val

end Signal

end LineShell
