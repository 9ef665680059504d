import LineShell.System.Fault
import LineShell.System.Lookup
import LineShell.System.Signal

/-!
# Open files

An open file is an entry of the file system, or a file without a name, together with the place up to
which it has been read or written.  Everyone who holds the same open file shares that place.

The shell and what it starts have all privileges.  So the permissions of a file say whether it may
be executed, and are otherwise only handed on: they keep nobody from reading and writing files, or
from listing and entering directories.

## Main definitions

* `OpenFile`, `System` — an open file, and the files and open files that all processes share.
* `System.remaining`, `System.read`, `System.skip` — reading.
* `System.write`, `System.writeWithin` — writing, perhaps only as far as a file may grow.
* `System.openForWriting` — opens a file to write to it, and makes it if need be.
* `System.openForReading`, `System.openForUpdate` — opens a file for the other purposes.
* `System.isHeldForWriting` — whether a file is being written to.
* `System.listDirectory`, `System.isExecutable` — questions about paths.
-/

namespace LineShell

/-- What an open file refers to. -/
inductive Target
  /-- The entry at a location. -/
  | entry (loc : Location)
  /-- A file that has no name and whose content is known here only. -/
  | unnamed (content : Bytes)
  deriving DecidableEq, Repr

/-- An open file. -/
structure OpenFile where
  target : Target
  /-- Where the next byte is read or written. -/
  offset : Nat := 0
  readable : Bool := false
  writable : Bool := false
  /-- Whether every write goes to the end. -/
  appending : Bool := false
  /-- The terminal that the file is, if it is one. -/
  terminal : Option Nat := none
  deriving DecidableEq, Repr

/-- The number of an open file. -/
abbrev Handle := Nat

/-- What all processes share: the file system, the open files, and the signals that were sent. -/
structure System where
  files : FileSystem
  opened : List OpenFile
  /-- The signals that have not been taken, with the numbers of the processes they are sent to. -/
  signals : List (Nat × Signal) := []
  deriving DecidableEq, Repr

/-- How a file that exists is opened for writing. -/
inductive WriteMode
  /-- Its content is discarded. -/
  | truncate
  /-- Its content is kept and what is written goes behind it. -/
  | append
  deriving DecidableEq, Repr

/-- A content with data written over it from an offset on.  A gap is filled with zero bytes. -/
def overwrite (content : Bytes) (offset : Nat) (data : Bytes) : Bytes :=
  content.take offset ++ List.replicate (offset - content.length) 0 ++ data
    ++ content.drop (offset + data.length)

/-- Writing at the end of a content puts the data behind it. -/
@[simp] theorem overwrite_length (content data : Bytes) :
    overwrite content content.length data = content ++ data := by
  simp [overwrite]

/-- Follows the text of a path that must not hold a NUL byte. -/
def withPath {α : Type} (path : String) (act : Bytes → Except Errno α) : Except Fault α :=
  if path.toList.contains '\x00' then .error .nulInPath
  else (act (Bytes.ofString path)).mapError .os

namespace System

/-- The system with one more open file, and its number. -/
def addOpened (s : System) (file : OpenFile) : Handle × System :=
  (s.opened.length, { s with opened := s.opened ++ [file] })

/-- What is read from the device that nothing can be written to: as many zero bytes as a program
takes at a time, for which all of them are alike. -/
def zeros : Bytes :=
  List.replicate 131072 0

/-- The content of what an open file refers to. -/
def content (s : System) (file : OpenFile) : Bytes :=
  match file.target with
  | .unnamed content => content
  | .entry loc =>
    match s.files.node? loc with
    | some (.file _ content) => content
    | some .full => zeros
    | _ => []

/-- The bytes of an open file that have not been read. -/
def remaining (s : System) (handle : Handle) : Bytes :=
  match s.opened[handle]? with
  | some file => if file.readable then (s.content file).drop file.offset else []
  | none => []

/-- The bytes of an open file that have not been read, if the file can be read at all. -/
def read (s : System) (handle : Handle) : Except Errno Bytes :=
  match s.opened[handle]? with
  | none => .error .badDescriptor
  | some file =>
    if !file.readable then .error .badDescriptor
    else
      match file.target with
      | .unnamed _ => .ok (s.remaining handle)
      | .entry loc =>
        if s.files.isDirectory loc then .error .isDirectory else .ok (s.remaining handle)

/-- The system after some bytes of an open file have been read. -/
def skip (s : System) (handle : Handle) (count : Nat) : System :=
  { s with opened := s.opened.modify handle fun file =>
      { file with offset := file.offset + count } }

/-- Writes data to an open file. -/
def write (s : System) (handle : Handle) (data : Bytes) : Except Errno System :=
  match s.opened[handle]? with
  | none => .error .badDescriptor
  | some file =>
    if !file.writable then .error .badDescriptor
    else
      let start := if file.appending then (s.content file).length else file.offset
      let changed := overwrite (s.content file) start data
      let moved := { file with offset := start + data.length }
      match file.target with
      | .unnamed _ =>
        .ok { s with opened := s.opened.set handle { moved with target := .unnamed changed } }
      | .entry loc =>
        match s.files.node? loc with
        | some (.file mode _) =>
          .ok { s with
            files := s.files.put loc (.file mode changed), opened := s.opened.set handle moved }
        | some .full => if data.isEmpty then .ok s else .error .noSpace
        | _ => .ok s

/-- How much data can be written to an open file that may not grow beyond a bound; `none` stands for
any amount.  Only files with a place in the file system are bounded. -/
def roomIn (s : System) (bound? : Option Nat) (handle : Handle) : Option Nat := do
  let bound ← bound?
  let file ← s.opened[handle]?
  match file.target with
  | .unnamed _ => none
  | .entry loc =>
    match s.files.node? loc with
    | some (.file _ content) =>
      some (bound - if file.appending then content.length else file.offset)
    | _ => none

/-- Writes data to an open file that may not grow beyond a bound, and gives the error that keeps the
data, or the rest of it, from being written. -/
def writeWithin (s : System) (bound? : Option Nat) (handle : Handle) (data : Bytes) :
    System × Option Errno :=
  let room := ((s.roomIn bound? handle).getD data.length)
  match s.write handle (data.take room) with
  | .ok s => (s, if room < data.length then some .fileTooLarge else none)
  | .error errno => (s, some errno)

/-- Opens a file to write to it, from a directory that is held.  A file that does not exist is made
with the given permissions; a link without a target makes its target. -/
def openForWriting (s : System) (here : Location) (permissions : Nat) (mode : WriteMode)
    (path : Bytes) : Except Errno (Handle × System) := do
  let (loc, files) ← match ← s.files.locate .create here path with
    | .entry _ .directory => .error .isDirectory
    | .entry _ (.link _) => .error .tooManyLinks
    | .entry loc (.file kept _) =>
      match mode with
      | .truncate => .ok (loc, s.files.put loc (.file kept []))
      | .append => .ok (loc, s.files)
    | .entry loc _ => .ok (loc, s.files)
    | .vacant directory name =>
      if s.files.isDirectory directory then
        .ok (name :: directory, s.files.put (name :: directory) (.file permissions []))
      else .error .noEntry
  let file : OpenFile := { target := .entry loc, writable := true, appending := mode = .append }
  return { s with files }.addOpened file

/-- Opens a file, or a directory, to read it. -/
def openForReading (s : System) (here : Location) (path : Bytes) :
    Except Errno (Handle × System) := do
  let (loc, _) ← s.files.find here path
  return s.addOpened { target := .entry loc, readable := true }

/-- Opens a file both to read it and to write over it, and makes it if need be. -/
def openForUpdate (s : System) (here : Location) (permissions : Nat) (path : Bytes) :
    Except Errno (Handle × System) := do
  let (handle, s) ← s.openForWriting here permissions .append path
  let update (file : OpenFile) : OpenFile := { file with readable := true, appending := false }
  return (handle, { s with opened := s.opened.modify handle update })

/-- Whether one of some open files is the file at a location, opened to be written to. -/
def isHeldForWriting (s : System) (held : List Handle) (loc : Location) : Bool :=
  held.any fun handle =>
    match s.opened[handle]? with
    | some file => file.writable && file.target = .entry loc
    | none => false

/-- Whether a path leads to a file that may be executed. -/
def isExecutable (s : System) (here : Location) (path : Bytes) : Bool :=
  match s.files.find here path with
  | .ok (_, node) => node.isExecutable
  | .error _ => false

/-- The names in the directory to which a path leads. -/
def listDirectory (s : System) (here : Location) (path : Bytes) : Except Errno (List Name) := do
  match ← s.files.find here path with
  | (loc, .directory) => .ok (s.files.namesIn loc)
  | _ => .error .notDirectory

/-- The directory to which a path leads, to be held from now on. -/
def enterDirectory (s : System) (here : Location) (path : Bytes) : Except Errno Location := do
  match ← s.files.find here path with
  | (loc, .directory) => .ok loc
  | _ => .error .notDirectory

/-- The path of a directory that is held, unless it has been removed. -/
def pathOf (s : System) (here : Location) : Except Errno Bytes :=
  if s.files.isDirectory here then
    .ok (if here.isEmpty then [slash] else here.reverse.flatMap (slash :: ·))
  else .error .noEntry

end System

end LineShell
