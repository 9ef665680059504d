import LineShell.Userland.Work

/-!
# Programs for directories

One program removes directories that are empty, another one tells the current directory.

## Main definitions

* `removable` — the directory that a path names, if it can be removed.
* `Work.removeDirectories` — removes the directories that the arguments name.
* `Work.showDirectory` — tells the current directory.
-/

namespace LineShell

/-- The options of the program that removes directories. -/
def removalTable : OptionTable where
  long :=
    [("ignore-fail-on-non-empty", 'i'), ("path", 'p'), ("parents", 'p'), ("verbose", 'v')]

/-- The name of a directory in itself. -/
def dot : Name := [0x2E]

/-- The location of the empty directory that a path names, or what keeps it from being removed.  The
directory above another one is never empty, even if that other one has been removed. -/
def removable (here : Location) (system : System) (path : Bytes) : Except Errno Location := do
  match ← system.files.locate .findLink here path with
  | .vacant _ _ => .error .noEntry
  | .entry loc .directory =>
    let last? := (Route.ofPath path).names.getLast?
    if last? = some dot then .error .invalidArgument
    else if last? = some (dot ++ dot) then .error .notEmpty
    else if loc.isEmpty then .error .busy
    else if !(system.files.namesIn loc).isEmpty then .error .notEmpty
    else .ok loc
  | .entry _ _ => .error .notDirectory

/-- Whether a path names a link with a slash behind it, and the link does not lead to a file. -/
def isUnfollowed (here : Location) (system : System) (path : Bytes) : Bool :=
  let isLink : Bool := match system.files.locate .findLink here path with
    | .ok (.entry _ (.link _)) => true
    | _ => false
  let leads : Bool := match system.files.find here path with
    | .ok (_, node) => node = .directory
    | .error errno => errno ≠ .notDirectory
  (Route.ofPath path).ending && isLink && leads

/-- The options that were chosen for removing directories. -/
structure Removal where
  ignoresContent : Bool
  withParents : Bool
  isVerbose : Bool
  deriving DecidableEq, Repr

namespace Removal

/-- Says that a directory is about to be removed, if that is asked for. -/
def announce (removal : Removal) (w : Work) (path : Bytes) : Work :=
  if removal.isVerbose then
    let text := w.calledAs ++ Bytes.ofString ": removing directory, " ++ Quoting.quoted path
    w.hold (text ++ Bytes.ofString "\n")
  else w

/-- Tells the user that a directory could not be removed. -/
def complain (w : Work) (verb : String) (path : Bytes) (reason : String) : Work :=
  w.complain (Bytes.ofString verb ++ Quoting.quoted path ++ Bytes.ofString (": " ++ reason))

/-- Removes one directory, or gives the error. -/
def attempt (w : Work) (path : Bytes) : Except Errno Work :=
  (removable w.process.directory w.system path).map fun loc =>
    { w with system := { w.system with files := w.system.files.remove loc } }

/-- The path of the directory in which a path names an entry, if it has more than one name. -/
def parent? (path : Bytes) : Option Bytes :=
  let isSlash (b : UInt8) : Bool := b = slash
  let trimmed := (path.reverse.dropWhile isSlash).dropWhile (!isSlash ·)
  if trimmed.isEmpty then none
  else
    let parent := (trimmed.dropWhile isSlash).reverse
    some (if parent.isEmpty then [slash] else parent)

/-- Removes the directories above one that has been removed, as far as they are empty.  Each of them
takes one of `fuel` steps. -/
def removeParents (removal : Removal) : (fuel : Nat) → Work → Bytes → Work
  | 0, w, _ => w
  | fuel + 1, w, path =>
    match parent? path with
    | none => w
    | some parent =>
      let w := removal.announce w parent
      match attempt w parent with
      | .ok w => removeParents removal fuel w parent
      | .error errno =>
        if removal.ignoresContent && errno = .notEmpty then w
        else
          let verb :=
            if errno = .notDirectory then "failed to remove " else "failed to remove directory "
          complain w verb parent errno.describe

/-- Removes the directory that a path names. -/
def remove (removal : Removal) (w : Work) (path : Bytes) : Work :=
  let w := removal.announce w path
  match attempt w path with
  | .ok w => if removal.withParents then removal.removeParents path.length w path else w
  | .error errno =>
    if removal.ignoresContent && errno = .notEmpty then w
    else
      let isLink := errno = .notDirectory && isUnfollowed w.process.directory w.system path
      complain w "failed to remove " path
        (if isLink then "Symbolic link not followed" else errno.describe)

end Removal

/-- Removes the empty directories that the arguments name. -/
def Work.removeDirectories (w : Work) (arguments : List Bytes) : Work :=
  w.withOptions removalTable arguments fun letters names =>
    let removal : Removal :=
      { ignoresContent := letters.contains 'i', withParents := letters.contains 'p',
        isVerbose := letters.contains 'v' }
    if names.isEmpty then w.refuse (Bytes.ofString "missing operand")
    else w.forAll removal.remove names

/-- The options of the program that tells the current directory. -/
def directoryTable : OptionTable where
  long := [("logical", 'L'), ("physical", 'P')]

/-- The path of the current directory that the environment gives, if it leads there and has only
names in it. -/
def logicalDirectory? (w : Work) : Option Bytes :=
  let given? := w.process.environment.lookup (Bytes.ofString "PWD")
  given?.filter fun path =>
    let route := Route.ofPath path
    route.absolute && !route.names.any (fun name => name = dot || name = dot ++ dot)
      && (match w.system.enterDirectory w.process.directory path with
        | .ok directory => directory = w.process.directory
        | .error _ => false)

/-- Tells the path of the current directory. -/
def Work.showDirectory (w : Work) (arguments : List Bytes) : Work :=
  w.withOptions directoryTable arguments fun letters others =>
    let w := if others.isEmpty then w
      else w.warn (Bytes.ofString "ignoring non-option arguments")
    let given? := if letters.getLast? = some 'L' then logicalDirectory? w else none
    match given?, w.system.pathOf w.process.directory with
    | some path, _ | none, .ok path => (w.emit (path ++ Bytes.ofString "\n")).1
    | none, .error _ =>
      w.complain (Bytes.ofString "couldn't find directory entry in ‘..’ with matching i-node")

end LineShell
