/-!
# Search paths

A search path is a list of directories in which commands are looked up; the first one that has the
command wins.  Completion leaves out the directories of the system itself, however they are spelled.

## Main definitions

* `SearchPath`, `SearchPath.parse` — the directories, and how a text lists them.
* `PathComponents` — what a directory is called when spelling is disregarded.
* `SearchPath.searchable` — the search path without the directories of the system.
* `joinPath` — the path of a name in a directory.
-/

namespace LineShell

/-- The directories in which commands are looked up, in the order of precedence. -/
structure SearchPath where
  directories : List String
  deriving DecidableEq, Repr

/-- How the text of a path reads when its spelling is disregarded. -/
structure PathComponents where
  /-- Whether the path starts at the root. -/
  absolute : Bool
  /-- The names along the path. -/
  names : List (List Char)
  deriving DecidableEq, Repr

/-- The components of a path.  Repeated slashes, slashes at the end and, but for one in front, parts
that are a single dot do not count; a part of two dots does. -/
def PathComponents.ofText (text : List Char) : PathComponents :=
  let parts := (text.splitOn '/').filter (!·.isEmpty)
  let absolute := text.head? = some '/'
  let leadingDot := if !absolute && parts.head? == some ['.'] then [['.']] else []
  { absolute, names := leadingDot ++ parts.filter (· ≠ ['.']) }

/-- The directories of the system, which completion does not search. -/
def systemDirectories : List String :=
  ["/usr/local/sbin", "/usr/sbin", "/usr/bin", "/sbin", "/bin", "/usr/local/bin"]

/-- Whether a directory is one of the system, in whatever spelling. -/
def isSystemDirectory (directory : String) : Bool :=
  systemDirectories.any fun d =>
    PathComponents.ofText d.toList = PathComponents.ofText directory.toList

namespace SearchPath

/-- The search path that a text lists: directories with colons between them, where empty ones do
not count. -/
def parse (text : String) : SearchPath :=
  ⟨((text.toList.splitOn ':').filter (!·.isEmpty)).map String.ofList⟩

/-- The search path without directories. -/
def empty : SearchPath := ⟨[]⟩

/-- The search path for the value of a variable that may be unset. -/
def ofVariable (value : Option String) : SearchPath :=
  (value.map parse).getD empty

/-- Whether there is no directory to search. -/
def isEmpty (path : SearchPath) : Bool :=
  path.directories.isEmpty

/-- The search path without the directories of the system, in which candidates are sought. -/
def searchable (path : SearchPath) : SearchPath :=
  ⟨path.directories.filter (!isSystemDirectory ·)⟩

end SearchPath

/-- The path of a name in a directory: a slash stands between them, unless the directory brings one
along at its end. -/
def joinPath (directory name : String) : String :=
  if directory.toList.getLast? = some '/' ∨ directory.isEmpty then directory ++ name
  else directory ++ "/" ++ name

end LineShell
