import LineShell.System.Process

/-!
# Starting programs

A program is started with copies of the shell's descriptors, in which the output streams may have
been replaced.  The replacements are made one after the other in the child before the program runs,
so what the first one changes the second one finds changed.

## Main definitions

* `SpawnError` — why a program could not be started or waited for.
* `FileAction`, `redirectActions`, `Descriptors.apply` — the replacements in the child.
* `World.spawn`, `World.wait` — starts a program, and waits for its end.
-/

namespace LineShell

/-- Why a program could not be started, or not be waited for. -/
inductive SpawnError
  | start (command : String) (fault : Fault)
  /-- The program or one of the arguments holds a NUL byte. -/
  | nulByte (command : String)
  | wait (fault : Fault)
  deriving DecidableEq, Repr

namespace SpawnError

/-- What the user is told. -/
def text : SpawnError → String
  | .start command fault => command ++ ": " ++ fault.reason
  | .nulByte command => command ++ ": argument contains a NUL byte"
  | .wait fault => "waitpid: " ++ fault.reason

/-- The error number, if starting the program failed with one. -/
def errno? : SpawnError → Option Errno
  | .start _ fault => fault.errno?
  | _ => none

/-- The status of a command that failed so: 127 if the program is missing, 126 if it may not be
executed. -/
def status (e : SpawnError) : Int :=
  if e.errno? = some .noEntry then 127
  else if e.errno? = some .accessDenied then 126
  else 1

/-- Whether no program can be started any more, because processes or memory have run out. -/
def isFatal (e : SpawnError) : Bool :=
  e.errno? = some .tryAgain ∨ e.errno? = some .noMemory

end SpawnError

/-- A change that the child makes to its descriptors before the program runs. -/
inductive FileAction
  /-- Makes the second descriptor stand for what the first one stands for. -/
  | duplicate (source target : Nat)
  | close (fd : Nat)
  deriving DecidableEq, Repr

/-- The changes that move a descriptor to another number.  A number that no descriptor can have is
passed over, and nothing is changed for it. -/
def redirectActions (source : Int) (target : Nat) : List FileAction :=
  match source with
  | .ofNat source =>
    if source = target ∨ Limits.mostDescriptors ≤ source then []
    else [.duplicate source target, .close source]
  | .negSucc _ => []

namespace Descriptors

/-- Makes one change.  A descriptor that is not open cannot be duplicated, but it may be closed. -/
def applyAction (t : Descriptors) : FileAction → Except Errno Descriptors
  | .duplicate source target =>
    match t.get? source with
    | some handle => .ok (t.set target handle)
    | none => .error .badDescriptor
  | .close fd => .ok (t.close fd)

/-- Makes several changes in order, and fails with the first one that fails. -/
def apply (t : Descriptors) (actions : List FileAction) : Except Errno Descriptors :=
  actions.foldlM applyAction t

end Descriptors

/-- Whether text holds a NUL byte, where it would end for the system. -/
def hasNul (text : String) : Bool :=
  text.toList.contains '\x00'

namespace World

/-- The descriptors of a child whose output streams are replaced by these descriptors, if given. -/
def childDescriptors (w : World) (output error : Option Int) : Except Errno Descriptors :=
  w.process.descriptors.apply
    ((output.map (redirectActions · standardOutput)).getD []
      ++ (error.map (redirectActions · standardError)).getD [])

/-- Starts a program under the number of the next child. -/
def start (programs : Programs) (w : World) (program : String) (arguments : List String)
    (output error : Option Int) : Except Errno (Nat × World) := do
  let descriptors ← w.childDescriptors output error
  let id := w.nextChild
  let child : Child :=
    { process := { w.process with id, descriptors }, ancestors := [w.process],
      program := Bytes.ofString program, arguments := arguments.map Bytes.ofString }
  let (system, ending) ← programs w.system child
  return (id, { w with system, children := (id, ending) :: w.children, nextChild := id + 1 })

/-- Starts a program.  Errors name the command as it was called. -/
def spawn (programs : Programs) (w : World) (program : String) (arguments : List String)
    (output error : Option Int) : Except SpawnError (Nat × World) :=
  let command := arguments.head?.getD program
  if hasNul program || arguments.any hasNul then .error (.nulByte command)
  else (w.start programs program arguments output error).mapError (.start command <| .os ·)

/-- The least number of a process. -/
def leastProcess : Int := -2147483648

/-- What waiting for a process reports if it is no child. -/
def notChild (id : Int) : Errno :=
  if id = leastProcess then .noProcess else .noChild

/-- The answer of the system to a request that has failed, in place of the number of a process. -/
def failedRequest : Int := -1

/-- Waits for the end of a child and gives the status that stands for it.  What the system answers
to a failed request is taken for the end of a process if it is the number asked for, and then for
one that has ended well. -/
def wait (w : World) (id : Int) : Except SpawnError Int × World :=
  match w.children.find? fun child => (child.1 : Int) = id with
  | none => (if id = failedRequest then .ok 0 else .error (.wait (.os (notChild id))), w)
  | some child =>
    let w := { w with children := w.children.filter (·.1 != child.1) }
    match child.2 with
    | .ok ending => (.ok ending.status, w)
    | .error errno => (.error (.wait (.os errno)), w)

end World

end LineShell
