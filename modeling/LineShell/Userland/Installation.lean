import LineShell.Redirect
import LineShell.Userland.Loader

/-!
# An installed system

A system as the shell finds it: the directories of the system, the installed programs in one of
them, and the devices.  The programs are no part of the shell.  They stand for those that it is used
with, so that it can be run; what is proved about it holds for any programs, and depends on none of
these.

## Main definitions

* `locationOf` — the location that an absolute path spells.
* `FileSystem.reach`, `FileSystem.place` — puts a node at a path that may lead over links.
* `installedFiles` — the file system with everything installed.
* `Descriptors.standard`, `World.installed` — a world in which the shell can be started.
-/

namespace LineShell

/-- The location that an absolute path spells, name by name. -/
def locationOf (path : Bytes) : Location :=
  (Route.ofPath path).names.reverse

namespace FileSystem

/-- The directory to which names lead from another one.  Directories are made for the names that
stand for nothing. -/
def reach (fs : FileSystem) : Location → List Name → FileSystem × Location
  | here, [] => (fs, here)
  | here, name :: rest =>
    match fs.find here name with
    | .ok (loc, .directory) => fs.reach loc rest
    | _ => (fs.put (name :: here) .directory).reach (name :: here) rest

/-- The file system with a node put at a path, and directories on the way to it.  A file is put
where a link at the path leads. -/
def place (fs : FileSystem) (here : Location) (path : Bytes) (node : Node) : FileSystem :=
  let names := (Route.ofPath path).names
  match names.getLast?, node with
  | none, _ => fs
  | _, .directory => (fs.reach here names).1
  | some name, node =>
    let (fs, directory) := fs.reach here names.dropLast
    match node, fs.locate .create directory name with
    | .file _ _, .ok (.entry loc _) => fs.put loc node
    | .file _ _, .ok (.vacant directory name) => fs.put (name :: directory) node
    | _, _ => fs.put (name :: directory) node

end FileSystem

/-- The directory of the programs. -/
def programDirectory : Bytes := Bytes.ofString "/usr/bin"

/-- The other directories of the system. -/
def otherDirectories : List String :=
  ["/boot", "/dev", "/etc", "/home", "/media", "/mnt", "/opt", "/proc", "/root", "/run", "/srv",
    "/sys", "/tmp", "/usr/games", "/usr/include", "/usr/lib", "/usr/lib64", "/usr/local/bin",
    "/usr/local/lib", "/usr/local/sbin", "/usr/sbin", "/usr/share", "/usr/src", "/var/log",
    "/var/tmp"]

/-- The links at the root to directories of the system. -/
def directoryLinks : List (String × String) :=
  [("/bin", "usr/bin"), ("/lib", "usr/lib"), ("/lib64", "usr/lib64"), ("/sbin", "usr/sbin")]

/-- The file system with the directories, the programs and the devices of the system. -/
def installedFiles : FileSystem :=
  let withTools := Tool.all.foldl (fun fs tool =>
    fs.install (Bytes.ofString tool.name :: locationOf programDirectory)
      (.program tool.name)) FileSystem.empty
  let withDirectories := otherDirectories.foldl (fun fs path =>
    fs.makeDirectories (locationOf (Bytes.ofString path))) withTools
  let withLinks := directoryLinks.foldl (fun fs (path, target) =>
    fs.install (locationOf (Bytes.ofString path)) (.link (Bytes.ofString target))) withDirectories
  (withLinks.install (locationOf (Bytes.ofString "/dev/null")) .null).install
    (locationOf (Bytes.ofString "/dev/full")) .full

/-- The descriptors of a process whose input, output and error output are the first three open
files. -/
def Descriptors.standard : Descriptors :=
  ⟨[(World.standardInput, 0), (World.standardOutput, 1), (World.standardError, 2)]⟩

/-- The number of the shell's process.  Those before it belong to the system. -/
def shellId : Nat := 4000

/-- A world with some files, in which the shell starts in a directory with an input and an
environment.  What it writes is kept in files without names. -/
def World.installed (files : FileSystem) (directory : Location) (input : Bytes)
    (environment : List (String × String)) : World where
  system :=
    { files,
      opened :=
        [{ target := .unnamed input, readable := true },
          { target := .unnamed [], writable := true, appending := true },
          { target := .unnamed [], writable := true, appending := true }] }
  process :=
    { id := shellId, directory, descriptors := .standard
      environment := environment.map fun (name, value) =>
        (Bytes.ofString name, Bytes.ofString value) }

/-- What has been written to the output that a world was started with. -/
def World.written (w : World) (stream : OutputStream) : Bytes :=
  match w.system.opened[stream.descriptor]? with
  | some file => w.system.content file
  | none => []

end LineShell
