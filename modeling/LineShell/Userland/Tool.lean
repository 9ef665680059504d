import LineShell.Userland.Archiver
import LineShell.Userland.Copying
import LineShell.Userland.Directories
import LineShell.Userland.Script.Start

/-!
# Installed programs

A few programs are installed on the system.  Each has a file of its own, which tells by a name which
program it is, and does its work through the descriptors that it is started with.

## Main definitions

* `Tool`, `Tool.name`, `Tool.ofName?` — the programs and their names.
* `Tool.run` — what a program does.
-/

namespace LineShell

/-- A program that is installed on the system. -/
inductive Tool
  /-- Runs scripts. -/
  | interpreter
  /-- Copies files, or its input, to its output. -/
  | copy
  /-- Tells the current directory. -/
  | showDirectory
  /-- Removes empty directories. -/
  | removeDirectory
  /-- Does nothing, with success. -/
  | succeed
  /-- Shows files page by page. -/
  | showPages
  /-- Packs files into archives. -/
  | archiver
  deriving DecidableEq, Repr

namespace Tool

/-- The names of the programs. -/
def names : List (Tool × String) :=
  [(.interpreter, "sh"), (.copy, "cat"), (.showDirectory, "pwd"), (.removeDirectory, "rmdir"),
    (.succeed, "true"), (.showPages, "more"), (.archiver, "ar")]

/-- The programs. -/
def all : List Tool :=
  names.map (·.1)

/-- The name of a program. -/
def name (tool : Tool) : String :=
  (names.lookup tool).getD ""

/-- The program of a name. -/
def ofName? (name : String) : Option Tool :=
  all.find? (·.name = name)

/-- Tells how the archiver is called. -/
def showArchiverUsage (w : Work) : Work :=
  { w.tell (Bytes.ofString (String.join (archiverUsage.map (· ++ "\n")))) with success := false }

/-- What a program says that may not open the library which all of them need. -/
def libraryComplaint : String :=
  "error while loading shared libraries: libc.so.6: cannot open shared object file: Error 24"

/-- What a program does, started as a child, when scripts start their programs with `launch`. -/
def run (launch : Programs) (tool : Tool) (system : System) (child : Child) : System × Ending :=
  let w := Work.ofChild system child
  let arguments := child.arguments.tail
  if (child.process.nextDescriptor 0).toOption.isNone then
    ((w.warn (Bytes.ofString libraryComplaint)).system, .exited 127)
  else match tool with
  | .interpreter => Script.runInterpreter launch system child
  | .copy => (w.copyFiles arguments).finish
  | .showDirectory => (w.showDirectory arguments).finish
  | .removeDirectory => (w.removeDirectories arguments).finish
  | .succeed => w.finish
  | .showPages => (w.showPages arguments).finish
  | .archiver => (showArchiverUsage w).finish

end Tool

end LineShell
