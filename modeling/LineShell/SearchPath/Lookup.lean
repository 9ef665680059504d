import LineShell.Completion
import LineShell.SearchPath
import LineShell.System.Process

/-!
# Looking up commands

A command is looked up in the directories of the search path.  A name with a slash is a path already
and is not looked up.  Completion lists the same directories, but for those of the system.  The
warning that the log gets of one that cannot be listed, which may go to standard error, is left out.

## Main definitions

* `SearchPath.resolve` — the file that a command name stands for.
* `SearchPath.candidates` — the names that could complete a text.
-/

namespace LineShell

namespace SearchPath

/-- The path of the file that a name stands for: the name itself, if it has a slash in it, and else
its path in the first directory in which it is a file that may be executed. -/
def resolve (path : SearchPath) (world : World) (name : String) : Option String :=
  if name.isEmpty then none
  else if name.toList.contains '/' then
    if world.isExecutable name then some name else none
  else (path.directories.map (joinPath · name)).find? world.isExecutable

/-- The names in the searchable directories that start with a text.  Names that are not valid text
are left out, and one directory that cannot be listed spoils the whole answer. -/
def candidates (path : SearchPath) (world : World) : CandidateSource := fun text => do
  let listings ← path.searchable.directories.mapM fun directory =>
    (world.listDirectory directory).mapError (⟨directory, ·⟩)
  let names := listings.flatten.filter ((Bytes.ofString text).isPrefixOf ·)
  return sortNames (names.filterMap Bytes.toString?)

end SearchPath

end LineShell
