import LineShell.Userland.Script.Utility

/-!
# The current directory of a script

A script knows its directory by a path that may lead over links.  To go up from there drops the last
name of the path, whatever the directory is that holds the current one.

## Main definitions

* `logicalPath` — the path to which another one leads name by name.
* `Act.setDirectoryName` — what is known about the current directory.
* `Utility.changeDirectory`, `Utility.showDirectory` — enters a directory, and shows it.
-/

namespace LineShell.Script

/-- The names of a path, in which two dots drop the name before them. -/
def keptNames (names : List Octets) : List Octets :=
  (names.foldl (fun kept name =>
    if name = [] || name = ['.'] then kept
    else if name = ['.', '.'] then kept.tail
    else name :: kept) []).reverse

/-- The slashes with which a path begins: two of them are kept, more or less are one. -/
def rootOf (path : Octets) : Octets :=
  if (path.takeWhile (· = '/')).length = 2 then ['/', '/'] else ['/']

/-- The path to which another one leads from a directory, name by name. -/
def logicalPath (current path : Octets) : Octets :=
  let isAbsolute := path.head? = some '/'
  let names := if isAbsolute then path.splitOn '/' else current.splitOn '/' ++ path.splitOn '/'
  rootOf (if isAbsolute then path else current) ++ ['/'].intercalate (keptNames names)

namespace Act

/-- Gives a name a value that programs find in their environment. -/
def assignExported (name value : Octets) : Act Unit := do
  assign name value
  markExported name

/-- The path of the current directory, which is empty once the user has been told that there is
none. -/
def lookUpDirectory : Act Octets := do
  let r ← get
  match r.system.pathOf r.process.directory with
  | .ok path => return Octets.ofBytes path
  | .error errno =>
    warn ("getcwd() failed: " ++ errno.describe).toList
    return []

/-- Calls the current directory by a path, or by the one that is looked up. -/
def setDirectoryName (path? : Option Octets) : Act Unit := do
  modify fun r => { r with physicalName := [] }
  let path ← match path? with
    | some path => pure path
    | none => do
      let path ← lookUpDirectory
      modify fun r => { r with physicalName := path }
      pure path
  modify fun r => { r with directoryName := path }
  assignExported "PWD".toList path

/-- Whether the last of some options asks for paths without links. -/
def asksForPhysical (options : List (Char × Octets)) : Bool :=
  options.getLast?.map (·.1) = some 'P'

/-- Enters the directory to which a path leads, and tells whether that was possible. -/
def enterDirectory (isPhysical : Bool) (path : Octets) : Act Bool := do
  let r ← get
  let name? :=
    if isPhysical || r.directoryName.isEmpty then none
    else some (logicalPath r.directoryName path)
  match r.system.enterDirectory r.process.directory (name?.getD path).toBytes with
  | .error _ => return false
  | .ok directory =>
    let programs := r.programs.map fun tracked => { tracked with isStale := true }
    set { r with process := { r.process with directory }, programs }
    assignExported "OLDPWD".toList r.directoryName
    setDirectoryName name?
    return true

end Act

/-- Whether a path starts at the root, here, or in the directory above. -/
def isAnchored (path : Octets) : Bool :=
  let first := path.takeWhile (· ≠ '/')
  path.head? = some '/' || first = ['.'] || first = ['.', '.']

/-- The directories in which a directory is looked for by its name. -/
def directoryCandidates (r : Running) (path : Octets) : List (Octets × Bool) :=
  let places := ((r.valueOf? "CDPATH".toList).map (·.splitOn ':')).getD []
  places.map fun place => (if place.isEmpty then path else place ++ '/' :: path, !place.isEmpty)

/-- Enters a directory.  Its path is shown if it has not been spelled out. -/
def Utility.changeDirectory : Utility := fun arguments => do
  let (options, rest) ← Act.options ['L', 'P'] (fun _ => false) arguments
  let isPhysical := Act.asksForPhysical options
  let r ← get
  let (target, isBack) := match rest.head? with
    | none => ((r.valueOf? "HOME".toList).getD [], false)
    | some ['-'] => ((r.valueOf? "OLDPWD".toList).getD [], true)
    | some path => (path, false)
  let path := if target.isEmpty then ['.'] else target
  let found := if isAnchored target then none else
    (directoryCandidates r path).find? fun candidate =>
      (r.system.enterDirectory r.process.directory (Octets.toBytes candidate.1)).toOption.isSome
  let (path, isFound) := found.getD (if isAnchored target then target else path, false)
  if !(← Act.enterDirectory isPhysical path) then Act.fail ("can't cd to ".toList ++ target)
  let name := (← get).directoryName
  return { output := if isBack || isFound then printedLine name else [] }

/-- Shows the path of the current directory. -/
def Utility.showDirectory : Utility := fun arguments => do
  let (options, _) ← Act.options ['L', 'P'] (fun _ => false) arguments
  let r ← get
  if !Act.asksForPhysical options then return { output := printedLine r.directoryName }
  else
    if r.physicalName.isEmpty then
      let path ← Act.lookUpDirectory
      modify fun r => { r with physicalName := path }
    return { output := printedLine (← get).physicalName }

end LineShell.Script
