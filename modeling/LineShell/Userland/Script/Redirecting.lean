import LineShell.Userland.Script.Expansion

/-!
# Redirections

A redirection makes a descriptor stand for another open file.  What it stood for before is kept
under a number of the script's own, and put back when the command is over.

## Main definitions

* `Change`, `Act.changeOf` — a redirection whose words have been replaced.
* `Act.applyChange` — makes one change.
* `Act.withChanges` — carries out an act while some changes hold.
-/

namespace LineShell.Script

/-- A redirection whose words have been replaced. -/
inductive Change
  | file (fd : Nat) (use : FileUse) (path : Octets)
  | duplicate (fd source : Nat)
  | close (fd : Nat)
  | document (fd : Nat) (text : Octets)
  deriving DecidableEq, Repr

/-- The descriptor that is changed. -/
def Change.target : Change → Nat
  | .file fd _ _ | .duplicate fd _ | .close fd | .document fd _ => fd

/-- The permissions of a file that a script makes, but for those that its mask takes away. -/
def newFileMode : Nat := 0o666

namespace Act

/-- The change that a redirection asks for. -/
def changeOf (substitute : Option Command → Act Octets) : Redirection → Act Change
  | .file fd use target => return .file fd use (← textOfWord substitute .single target)
  | .document fd number => do
    let text := ((← get).documents[number]?).getD []
    return .document fd (← textOfWord substitute .document text)
  | .duplicate fd source => do
    match ← textOfWord substitute .single source with
    | ['-'] => return .close fd
    | [digit] =>
      if digit.isDigit then return .duplicate fd (digitValue digit)
      else fail "Syntax error: Bad fd number".toList
    | _ => fail "Syntax error: Bad fd number".toList

/-- Makes an open file known to the system, and gives its number. -/
def addOpened (file : OpenFile) : Act Handle := do
  let r ← get
  let (handle, system) := r.system.addOpened file
  set { r with system }
  return handle

/-- Opens a file for a use, as the system does. -/
def openAs (r : Running) (use : FileUse) (path : Octets) : Except Errno (Handle × System) :=
  let here := r.process.directory
  let mode := newFileMode &&& (0o777 ^^^ r.process.mask)
  let exists_ := match r.system.files.find here path.toBytes with
    | .ok (_, .file _ _) => true
    | _ => false
  match use with
  | .read => r.system.openForReading here path.toBytes
  | .append => r.system.openForWriting here mode .append path.toBytes
  | .update => r.system.openForUpdate here mode path.toBytes
  | .overwrite => r.system.openForWriting here mode .truncate path.toBytes
  | .write =>
    if r.hasOption 'C' && exists_ then .error .fileExists
    else r.system.openForWriting here mode .truncate path.toBytes

/-- What is said about a file that cannot be opened. -/
def openComplaint (use : FileUse) (path : Octets) (errno : Errno) : Octets :=
  let isAbsent := errno = .noEntry || errno = .notDirectory
  let (verb, missing) :=
    if use = .read then ("open", "No such file") else ("create", "Directory nonexistent")
  let reason := if isAbsent then missing else errno.describe
  ("cannot " ++ verb ++ " ").toList ++ path ++ (": " ++ reason).toList

/-- Opens a file for a use, and gives the number that the next descriptor has and the open file. -/
def openNext (use : FileUse) (path : Octets) : Act (Nat × Handle) := do
  let r ← get
  match r.process.nextDescriptor 0 >>= fun fd => (fd, ·) <$> openAs r use path with
  | .ok (fd, handle, system) =>
    set { r with system }
    return (fd, handle)
  | .error errno => fail (openComplaint use path errno)

/-- Makes one change.  Before that, what the descriptor stands for is handed to an act, together
with what the next descriptor would stand for. -/
def makeChange (keep : Nat → Option (Nat × Handle) → Act Unit) (change : Change) : Act Unit := do
  match change with
  | .close fd =>
    keep fd none
    setDescriptor fd none
  | .document fd text =>
    requirePipe
    let handle ← addOpened { target := .unnamed text.toBytes, readable := true }
    keep fd (some ((← get).process.descriptors.vacantFrom 0, handle))
    setDescriptor fd (some handle)
  | .duplicate fd source =>
    if fd ≠ source then
      keep fd none
      match (← get).process.descriptors.get? source with
      | some handle => setDescriptor fd (some handle)
      | none => failAbout source .badDescriptor
  | .file fd use path =>
    let (next, handle) ← openNext use path
    keep fd (some (next, handle))
    setDescriptor fd (some handle)

/-- Makes one change for good. -/
def applyChange (change : Change) : Act Unit :=
  makeChange (fun _ _ => return ()) change

/-- Keeps what a descriptor stands for under a number of the script's own, if it is open, to put it
back later.  Without room for that it is lost, and what was to take its place stays open. -/
def keepDescriptor (fd : Nat) (opened? : Option (Nat × Handle)) : Act Unit := do
  let r ← get
  if !r.kept.any (·.1 = fd) then
    match r.process.descriptors.get? fd with
    | none => set { r with kept := (fd, none) :: r.kept }
    | some handle =>
      match r.process.nextDescriptor Running.ownDescriptors with
      | .ok place =>
        setDescriptor place (some handle)
        modify fun r => { r with kept := (fd, some place) :: r.kept }
      | .error errno =>
        if let some (next, handle) := opened? then setDescriptor next (some handle)
        setDescriptor fd none
        failAbout fd errno

/-- Puts a descriptor back, or forgets what it stood for. -/
def putDescriptorBack (isLasting : Bool) (fd : Nat) (place? : Option Nat) : Act Unit := do
  if !isLasting then
    setDescriptor fd (place?.bind (← get).process.descriptors.get?)
  if let some place := place? then setDescriptor place none

/-- Makes some changes in order, and carries out an act, or another one if a change cannot be made.
The changes are taken back then, unless they are lasting. -/
def withChanges (isLasting : Bool) (changes : List Change) (act : Act Unit)
    (otherwise : Act Unit) : Act Unit := do
  let outer := (← get).kept
  modify fun r => { r with kept := [] }
  let putBack (isLasting : Bool) : Act Unit := do
    let kept := (← get).kept
    modify fun r => { r with kept := outer }
    kept.forM fun (fd, place?) => putDescriptorBack isLasting fd place?
  let isDone ← try
      changes.forM (makeChange keepDescriptor)
      pure true
    catch
      | .fail => pure false
      | jump => throw jump
  let kept := (← get).kept
  try
    if isDone then act else otherwise
  finally
    modify fun r => { r with kept }
    putBack (isLasting && isDone)

end Act

end LineShell.Script
