import LineShell.System.Limits
import LineShell.System.OpenFile
import LineShell.Terminal.RawMode

/-!
# Processes and the world of the shell

A process has a number, a current directory, descriptors for open files, and an environment; it
hands copies of all but the number to its children.  The world of the shell is the shared system,
the shell's own process, the terminals, and the children that it has not waited for.

## Main definitions

* `Descriptors`, `Process` — what a process has of its own.
* `Process.nextDescriptor`, `Process.write` — one more descriptor, and writing to a descriptor,
  within the limits of a process.
* `Ending` — how a process ends, and the status that stands for it.
* `Child`, `Programs` — a process about to start, and what starting it does.
* `World` — all that a command line can see and change outside the shell.

## Main results

* `Descriptors.get?_set`, `Descriptors.get?_close` — a change of one descriptor is seen there and
  nowhere else.
-/

namespace LineShell

/-- The descriptors of a process: numbers for open files. -/
structure Descriptors where
  entries : List (Nat × Handle)
  deriving DecidableEq, Repr

namespace Descriptors

/-- The open file that a descriptor stands for. -/
def get? (t : Descriptors) (fd : Nat) : Option Handle :=
  t.entries.lookup fd

/-- Closes a descriptor. -/
def close (t : Descriptors) (fd : Nat) : Descriptors :=
  ⟨t.entries.filter (·.1 != fd)⟩

/-- Makes a descriptor stand for an open file. -/
def set (t : Descriptors) (fd : Nat) (handle : Handle) : Descriptors :=
  ⟨(fd, handle) :: (t.close fd).entries⟩

/-- A number that is no descriptor. -/
def unused (t : Descriptors) : Nat :=
  t.entries.foldr (fun entry bound => max (entry.1 + 1) bound) 0

/-- The least number from another one on that is no descriptor. -/
def vacantFrom (t : Descriptors) (least : Nat) : Nat :=
  let candidates := (List.range t.entries.length).map (least + ·)
  (candidates.find? fun fd => (t.get? fd).isNone).getD (least + t.entries.length)

/-- The open files that descriptors stand for. -/
def handles (t : Descriptors) : List Handle :=
  t.entries.map (·.2)

/-- Closing a descriptor is seen there and nowhere else. -/
theorem get?_close (t : Descriptors) (a b : Nat) :
    (t.close b).get? a = if a = b then none else t.get? a := by
  obtain ⟨entries⟩ := t
  simp only [get?, close]
  induction entries with
  | nil => simp
  | cons e rest ih =>
    obtain ⟨k, v⟩ := e
    by_cases hk : k = b
    · rw [List.filter_cons_of_neg (by simp [hk]), ih]
      by_cases hab : a = b
      · simp [hab]
      · have hak : (a == k) = false := beq_false_of_ne (hk ▸ hab)
        simp [hab, List.lookup_cons, hak]
    · rw [List.filter_cons_of_pos (by simpa using hk), List.lookup_cons, List.lookup_cons, ih]
      by_cases hab : a = b
      · have hak : (a == k) = false := beq_false_of_ne (hab ▸ Ne.symm hk)
        simp [hab ▸ hak, hab]
      · simp [hab]

/-- Setting a descriptor is seen there and nowhere else. -/
theorem get?_set (t : Descriptors) (a b : Nat) (handle : Handle) :
    (t.set b handle).get? a = if a = b then some handle else t.get? a := by
  have h := t.get?_close a b
  simp only [get?] at h
  simp only [get?, set, List.lookup_cons]
  by_cases hab : a = b
  · simp [hab]
  · have hne : (a == b) = false := beq_false_of_ne hab
    simp [hne, h, hab]

/-- No descriptor has the number that is called unused. -/
theorem get?_unused (t : Descriptors) : t.get? t.unused = none := by
  obtain ⟨entries⟩ := t
  suffices h : ∀ n, entries.foldr (fun entry bound => max (entry.1 + 1) bound) 0 ≤ n →
      entries.lookup n = none from h _ (Nat.le_refl _)
  induction entries with
  | nil => intros; rfl
  | cons e rest ih =>
    obtain ⟨k, v⟩ := e
    intro n hn
    simp only [List.foldr_cons] at hn
    have hne : (n == k) = false := beq_false_of_ne (by omega)
    rw [List.lookup_cons, hne]
    exact ih n (by omega)

end Descriptors

/-- What a process has of its own. -/
structure Process where
  /-- The number by which it is known. -/
  id : Nat := 1
  /-- The current directory. -/
  directory : Location := []
  descriptors : Descriptors := ⟨[]⟩
  /-- The names and values of its variables. -/
  environment : List (Bytes × Bytes) := []
  /-- The permissions that files which it makes do not get. -/
  mask : Nat := 0
  /-- The signals that it ignores. -/
  ignored : List Signal := Signal.ignoredByShell
  limits : Limits := .standard
  deriving DecidableEq, Repr

/-- The number, not less than another one, of the next descriptor of a process, if its limits allow
one more. -/
def Process.nextDescriptor (process : Process) (least : Nat) : Except Errno Nat :=
  let fd := process.descriptors.vacantFrom least
  match (process.limits.of .descriptors).current with
  | none => .ok fd
  | some bound =>
    if fd < bound then .ok fd
    else if 0 < least && bound ≤ least then .error .invalidArgument
    else .error .tooManyDescriptors

/-- Writes data to a descriptor of a process, as far as its limits allow, and gives the error that
keeps the data, or the rest of it, from being written. -/
def Process.write (process : Process) (system : System) (fd : Nat) (data : Bytes) :
    System × Option Errno :=
  match process.descriptors.get? fd with
  | none => (system, some .badDescriptor)
  | some handle => system.writeWithin (process.limits.of .fileSize).current handle data

/-- How a process ends. -/
inductive Ending
  /-- By itself, with a code. -/
  | exited (code : UInt8)
  /-- By a signal. -/
  | signaled (signal : Signal)
  deriving DecidableEq, Repr

/-- The status of a command that ended so: its code, or 128 more than the signal's number. -/
def Ending.status : Ending → Int
  | .exited code => code.toNat
  | .signaled signal => 128 + signal.val

/-- A status that stands for an ending is at least 0 and at most 255. -/
theorem Ending.status_bounds (e : Ending) : 0 ≤ e.status ∧ e.status ≤ 255 := by
  cases e with
  | exited code =>
    have := code.toNat_lt
    simp only [status]
    omega
  | signaled signal =>
    simp only [status]
    omega

/-- A process about to start. -/
structure Child where
  process : Process
  /-- The processes that wait for its end: its parent, the parent's parent, and so on. -/
  ancestors : List Process := []
  /-- The path of the program. -/
  program : Bytes
  /-- The arguments, the name under which the program is called first. -/
  arguments : List Bytes
  deriving DecidableEq, Repr

/-- The open files that are held by a child or by a process that waits for it. -/
def Child.held (child : Child) : List Handle :=
  (child.process :: child.ancestors).flatMap (·.descriptors.handles)

/-- What starting a process does: an error, in which case there is no process, or the system as the
process leaves it and what waiting for its end reports. -/
abbrev Programs := System → Child → Except Errno (System × Except Errno Ending)

/-- Everything outside the shell that a command line can see and change. -/
structure World where
  system : System
  /-- The process of the shell itself. -/
  process : Process
  console : Console := {}
  /-- The children that have not been waited for. -/
  children : List (Nat × Except Errno Ending) := []
  /-- The number of the next child. -/
  nextChild : Nat := process.id + 1

namespace World

/-- The descriptor from which a program reads. -/
def standardInput : Nat := 0

/-- The descriptor to which a program writes. -/
def standardOutput : Nat := 1

/-- The descriptor to which a program writes what has gone wrong. -/
def standardError : Nat := 2

/-- The value of a variable of the environment, if it is set to a text. -/
def valueOf? (w : World) (name : String) : Option String :=
  (w.process.environment.lookup (Bytes.ofString name)).bind Bytes.toString?

/-- The home directory. -/
def home (w : World) : Option String :=
  w.valueOf? "HOME"

/-- Writes data to a descriptor. -/
def write (w : World) (fd : Nat) (data : Bytes) : Except Errno World :=
  match w.process.descriptors.get? fd with
  | none => .error .badDescriptor
  | some handle => (w.system.write handle data).map fun system => { w with system }

/-- Writes data to one of the standard streams of the shell itself.  A stream that is not open for
writing is passed over. -/
def writeStandard (w : World) (fd : Nat) (data : Bytes) : Except Errno World :=
  match w.write fd data with
  | .ok w => .ok w
  | .error errno => if errno = .badDescriptor then .ok w else .error errno

/-- Writes text to a descriptor, as far as that is possible. -/
def display (w : World) (fd : Nat) (text : List Char) : World :=
  (w.write fd (Bytes.ofText text)).toOption.getD w

/-- Makes the directory to which a path leads the current one. -/
def changeDirectory (w : World) (path : String) : Except Fault World :=
  (withPath path (w.system.enterDirectory w.process.directory)).map fun directory =>
    { w with process := { w.process with directory } }

/-- The path of the current directory. -/
def currentPath (w : World) : Except Errno Bytes :=
  w.system.pathOf w.process.directory

/-- The permissions of a file that the shell makes. -/
def newFileMode : Nat := 0o644

/-- Opens a file to write to it, and gives it an unused descriptor. -/
def openForWriting (w : World) (mode : WriteMode) (path : String) : Except Fault (Nat × World) :=
  let opened := withPath path (w.system.openForWriting w.process.directory newFileMode mode)
  opened.map fun (handle, system) =>
    let fd := w.process.descriptors.unused
    let descriptors := w.process.descriptors.set fd handle
    (fd, { w with system, process := { w.process with descriptors } })

/-- Closes a descriptor. -/
def close (w : World) (fd : Nat) : World :=
  { w with process := { w.process with descriptors := w.process.descriptors.close fd } }

/-- Whether a path leads to a file that may be executed. -/
def isExecutable (w : World) (path : String) : Bool :=
  match withPath path fun path => .ok (w.system.isExecutable w.process.directory path) with
  | .ok answer => answer
  | .error _ => false

/-- The names in the directory to which a path leads. -/
def listDirectory (w : World) (path : String) : Except Fault (List Name) :=
  withPath path (w.system.listDirectory w.process.directory)

/-- The first signal sent to the shell that ends it.  The others pass without effect. -/
def endingSignal? (w : World) : Option Signal :=
  let sent := w.system.signals.filterMap fun (id, signal) =>
    if id = w.process.id then some signal else none
  Signal.firstFatal? w.process.ignored Signal.survivedOnce sent

/-- What stands behind a descriptor, for the purpose of raw mode. -/
def device (w : World) (fd : Nat) : Device :=
  match w.process.descriptors.get? fd with
  | none => .closed
  | some handle =>
    match w.system.opened[handle]? with
    | none => .closed
    | some file =>
      match file.terminal with
      | some index => .terminal index
      | none => .other

end World

end LineShell
