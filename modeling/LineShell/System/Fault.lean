import LineShell.System.Errno

/-!
# Faults of the operating system

The text of a fault is the system's description of the error number followed by the number itself
in parentheses.  A path with a NUL byte is refused before any call is made.

## Main definitions

* `Fault` — why an operation failed.
* `Fault.text` — the full text.
* `Fault.reason` — the text without the number at its end.
-/

namespace LineShell

/-- Why an operation on the system failed. -/
inductive Fault
  /-- The system refused it with an error number. -/
  | os (errno : Errno)
  /-- The path holds a NUL byte, which ends a name for the system. -/
  | nulInPath
  /-- Some other cause, known by its text alone. -/
  | custom (text : String)
  deriving DecidableEq, Repr

/-- What precedes the error number in the text of a fault. -/
def errnoMarker : String := " (os error "

/-- The part of a text before the last place where the marker stands, if it stands anywhere. -/
def beforeLast? (marker : List Char) : List Char → Option (List Char)
  | [] => if marker.isEmpty then some [] else none
  | c :: rest =>
    match beforeLast? marker rest with
    | some before => some (c :: before)
    | none => if marker.isPrefixOf (c :: rest) then some [] else none

/-- A fault's text without the error number: the part before the last marker. -/
def withoutErrno (text : String) : String :=
  match beforeLast? errnoMarker.toList text.toList with
  | some before => String.ofList before
  | none => text

namespace Fault

/-- The full text of a fault. -/
def text : Fault → String
  | .os errno => errno.describe ++ errnoMarker ++ toString errno.code ++ ")"
  | .nulInPath => "file name contained an unexpected NUL byte"
  | .custom text => text

/-- The text of a fault as the shell's own messages give it, without the error number. -/
def reason (fault : Fault) : String :=
  withoutErrno fault.text

/-- The error number, for a fault that has one. -/
def errno? : Fault → Option Errno
  | .os errno => some errno
  | _ => none

end Fault

end LineShell
