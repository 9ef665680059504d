import LineShell.System.Errno

/-!
# Limits of processes

A process may use only so much of what the system has to give.  It may lower its limits, and raise
those that hold at the moment up to the greatest ones that it is allowed.

## Main definitions

* `Resource` — what is limited.
* `Limit`, `Limits` — how much a process may use.
* `Limits.change` — sets a limit, if that is allowed.
-/

namespace LineShell

/-- What a process may use only so much of. -/
inductive Resource
  /-- Seconds of calculation. -/
  | time
  /-- The bytes of a file that the process writes to. -/
  | fileSize
  | data
  | stack
  /-- The bytes that are kept of the memory of a process that has ended. -/
  | memoryImage
  | residentMemory
  | lockedMemory
  | processes
  /-- The number that is greater than those of all descriptors. -/
  | descriptors
  | addresses
  | fileLocks
  /-- The precedence over other processes. -/
  | precedence
  deriving DecidableEq, Repr

/-- How much of something a process may use.  A bound that is missing stands for any amount. -/
structure Limit where
  /-- The bound that holds. -/
  current : Option Nat := none
  /-- The greatest bound that the process may set. -/
  greatest : Option Nat := none
  deriving DecidableEq, Repr

/-- Whether a bound allows more than another one. -/
def Limit.exceeds (bound other : Option Nat) : Bool :=
  match bound, other with
  | _, none => false
  | none, some _ => true
  | some bound, some other => other < bound

/-- The limits of a process.  What is not listed is not limited. -/
structure Limits where
  entries : List (Resource × Limit)
  deriving DecidableEq, Repr

namespace Limits

/-- The limit of one resource. -/
def of (limits : Limits) (resource : Resource) : Limit :=
  (limits.entries.lookup resource).getD {}

/-- How many descriptors a process can have.  Their numbers are less than this. -/
def mostDescriptors : Nat := 1048576

/-- The limits with which the system starts a process. -/
def standard : Limits where
  entries :=
    [(.stack, ⟨some 0x800000, none⟩), (.memoryImage, ⟨some 0, none⟩),
      (.lockedMemory, ⟨some 0x800000, some 0x800000⟩),
      (.descriptors, ⟨some mostDescriptors, some mostDescriptors⟩),
      (.precedence, ⟨some 0, some 0⟩)]

/-- The limits with one of them set.  No process may hold itself to more than the greatest bound, or
raise that. -/
def change (limits : Limits) (resource : Resource) (limit : Limit) : Except Errno Limits :=
  if Limit.exceeds limit.current limit.greatest then .error .invalidArgument
  else if Limit.exceeds limit.greatest (limits.of resource).greatest then .error .notPermitted
  else .ok ⟨(resource, limit) :: limits.entries⟩

end Limits

end LineShell
