import LineShell.System.Errno
import LineShell.System.FileSystem

/-!
# Following a path

A path is followed name by name, from the root or from a directory that is held.  Links on the way
are followed too, up to a limit; a name that nothing stands for is an error, except that the last
one may be what is about to be made.

## Main definitions

* `Route` — a path, cut into its names.
* `Place` — where a path leads: to an entry, or to a name that is free.
* `FileSystem.follow` — follows a route.
* `FileSystem.locate` — follows the text of a path.
-/

namespace LineShell

/-- The byte that separates the names of a path. -/
def slash : UInt8 := 0x2F

/-- A path, cut into its names. -/
structure Route where
  /-- Whether the path starts at the root. -/
  absolute : Bool
  /-- The names in order, without the empty ones. -/
  names : List Name
  /-- Whether the path ends in a slash, and so can only mean a directory. -/
  ending : Bool
  deriving DecidableEq, Repr

/-- The route that a path describes. -/
def Route.ofPath (path : Bytes) : Route where
  absolute := path.head? = some slash
  names := (path.splitOn slash).filter (!·.isEmpty)
  ending := path.getLast? = some slash

/-- Where a path leads. -/
inductive Place
  /-- To an entry. -/
  | entry (loc : Location) (node : Node)
  /-- To a name in a directory for which nothing stands. -/
  | vacant (directory : Location) (name : Name)
  deriving DecidableEq, Repr

/-- What a path is followed for. -/
inductive Purpose
  /-- For an entry that exists. -/
  | find
  /-- For an entry that exists, be it a link itself. -/
  | findLink
  /-- For a file that may have to be made. -/
  | create
  deriving DecidableEq, Repr

/-- How many bytes a name may have. -/
def nameLimit : Nat := 255

/-- How many bytes a path may have. -/
def pathLimit : Nat := 4095

/-- How many links may be followed on the way. -/
def linkLimit : Nat := 40

/-- How far a route can be followed without following a link. -/
inductive Reach
  | arrived (place : Place)
  | failed (errno : Errno)
  /-- To a link in a directory, with the names that come behind it. -/
  | atLink (directory : Location) (target : Bytes) (names : List Name)

namespace FileSystem

/-- Follows names from a directory up to the end or the first link to follow.  A directory that has
been removed holds no entries, whatever their names. -/
def advance (fs : FileSystem) (purpose : Purpose) (ending : Bool) :
    Location → List Name → Reach
  | here, [] => .arrived (.entry here .directory)
  | here, name :: rest =>
    if name = [0x2E] then fs.advance purpose ending here rest
    else if name = [0x2E, 0x2E] then fs.advance purpose ending here.tail rest
    else if rest.isEmpty ∧ ending ∧ purpose = .create then .failed .isDirectory
    else if nameLimit < name.length then
      .failed (if fs.isDirectory here then .nameTooLong else .noEntry)
    else
      match fs.node? (name :: here) with
      | none => if rest.isEmpty then .arrived (.vacant here name) else .failed .noEntry
      | some .directory => fs.advance purpose ending (name :: here) rest
      | some (.link target) =>
        if rest.isEmpty ∧ purpose = .findLink then
          .arrived (.entry (name :: here) (.link target))
        else .atLink here target rest
      | some node =>
        if rest.isEmpty ∧ ¬ending then .arrived (.entry (name :: here) node)
        else .failed .notDirectory

/-- Follows names from a directory, and at most `links` links on the way. -/
def follow (fs : FileSystem) (purpose : Purpose) :
    (links : Nat) → (ending : Bool) → Location → List Name → Except Errno Place
  | links, ending, here, names =>
    match fs.advance purpose ending here names with
    | .arrived place => .ok place
    | .failed errno => .error errno
    | .atLink directory target rest =>
      match links with
      | 0 => .error .tooManyLinks
      | links + 1 =>
        if target.isEmpty then .error .noEntry
        else
          let route := Route.ofPath target
          fs.follow purpose links (if rest.isEmpty then ending || route.ending else ending)
            (if route.absolute then [] else directory) (route.names ++ rest)

/-- Follows the text of a path from the root or, unless it starts there, from a directory. -/
def locate (fs : FileSystem) (purpose : Purpose) (here : Location) (path : Bytes) :
    Except Errno Place :=
  if path.isEmpty then .error .noEntry
  else if pathLimit < path.length then .error .nameTooLong
  else
    let route := Route.ofPath path
    fs.follow purpose linkLimit route.ending (if route.absolute then [] else here) route.names

/-- The entry that a path leads to. -/
def find (fs : FileSystem) (here : Location) (path : Bytes) : Except Errno (Location × Node) := do
  match ← fs.locate .find here path with
  | .entry loc node => .ok (loc, node)
  | .vacant _ _ => .error .noEntry

end FileSystem

end LineShell
