import LineShell.Text.Bytes

/-!
# A file system

A file system says what stands at each location.  Locations are the names on the way from the root,
with the innermost first, so the directory that holds an entry is the tail of the entry's location.

## Main definitions

* `Name`, `Location`, `Node` — names, places and what may stand there.
* `Location.IsNamed` — where an entry may stand.
* `FileSystem`, `FileSystem.node?` — what stands where.
* `FileSystem.put`, `FileSystem.remove` — changes at one location.
* `FileSystem.namesIn` — the names in a directory.

## Main results

* `FileSystem.node?_put` — a node that is put somewhere is seen there and nowhere else.
* `FileSystem.isNamed_of_node?` — what stands somewhere has a name.
-/

namespace LineShell

/-- The name of an entry: the bytes between two slashes of a path. -/
abbrev Name := Bytes

/-- Where an entry stands: the names on the way from the root, the innermost first. -/
abbrev Location := List Name

/-- An entry may stand at a location if there is a name for it: the location is not the root, and
the innermost of its names is not empty. -/
def Location.IsNamed (loc : Location) : Prop :=
  loc.headD [] ≠ []

instance (loc : Location) : Decidable loc.IsNamed :=
  inferInstanceAs (Decidable (_ ≠ _))

/-- What stands at a location. -/
inductive Node
  /-- A file with its permissions and its content. -/
  | file (mode : Nat) (content : Bytes)
  | directory
  /-- A symbolic link with the path it stands for. -/
  | link (target : Bytes)
  /-- A program of the system, by its name. -/
  | program (name : String)
  /-- The device that takes everything and keeps nothing. -/
  | null
  /-- The device that never has room. -/
  | full
  deriving DecidableEq, Repr

/-- Whether some permission to execute is set on a file.  It is set on every program. -/
def Node.isExecutable : Node → Bool
  | .file mode _ => mode &&& 0o111 ≠ 0
  | .program _ => true
  | _ => false

/-- What stands where.  The root is a directory and is not listed. -/
structure FileSystem where
  entries : List (Location × Node)
  named : ∀ entry ∈ entries, entry.1.IsNamed := by decide
  deriving DecidableEq, Repr

namespace FileSystem

/-- The file system in which there is only the root. -/
def empty : FileSystem where
  entries := []

/-- What stands at a location. -/
def node? (fs : FileSystem) (loc : Location) : Option Node :=
  if loc = [] then some .directory else fs.entries.lookup loc

/-- Whether a directory stands at a location. -/
def isDirectory (fs : FileSystem) (loc : Location) : Bool :=
  fs.node? loc = some .directory

/-- The file system with the entry at a location removed. -/
def remove (fs : FileSystem) (loc : Location) : FileSystem :=
  ⟨fs.entries.filter (·.1 != loc), fun _ h => fs.named _ (List.mem_filter.1 h).1⟩

/-- The file system with a node put at a location, in place of what stood there.  Nothing can be put
where there is no name for it. -/
def put (fs : FileSystem) (loc : Location) (node : Node) : FileSystem :=
  if h : loc.IsNamed then
    ⟨(loc, node) :: (fs.remove loc).entries, List.forall_mem_cons.2 ⟨h, (fs.remove loc).named⟩⟩
  else fs

/-- The names in the directory at a location. -/
def namesIn (fs : FileSystem) (loc : Location) : List Name :=
  fs.entries.filterMap fun entry =>
    match entry.1 with
    | name :: parent => if parent = loc then some name else none
    | [] => none

/-- The file system with directories at a location and on the way to it, where nothing stands. -/
def makeDirectories (fs : FileSystem) : Location → FileSystem
  | [] => fs
  | name :: parent =>
    let fs := fs.makeDirectories parent
    if (fs.node? (name :: parent)).isSome then fs else fs.put (name :: parent) .directory

/-- The file system with a node put at a location, and directories on the way to it. -/
def install (fs : FileSystem) (loc : Location) (node : Node) : FileSystem :=
  (fs.makeDirectories loc.tail).put loc node

/-- Entries that are dropped at one location do not matter at another. -/
private theorem lookup_filter_of_ne {entries : List (Location × Node)} {a b : Location}
    (h : a ≠ b) : (entries.filter (·.1 != b)).lookup a = entries.lookup a := by
  induction entries with
  | nil => rfl
  | cons e rest ih =>
    obtain ⟨k, v⟩ := e
    by_cases hk : k = b
    · subst hk
      have hak : (a == k) = false := beq_false_of_ne h
      rw [List.filter_cons_of_neg (by simp), List.lookup_cons, hak, ih]
    · rw [List.filter_cons_of_pos (by simpa using hk), List.lookup_cons, List.lookup_cons, ih]

/-- Putting a node is seen nowhere else. -/
theorem node?_put_of_ne (fs : FileSystem) {a b : Location} (hab : a ≠ b) (node : Node) :
    (fs.put b node).node? a = fs.node? a := by
  unfold put
  split
  · have hne : (a == b) = false := beq_false_of_ne hab
    simp only [node?, remove, List.lookup_cons, hne, lookup_filter_of_ne hab]
  · rfl

/-- Where there is a name for it, a node that is put is found, and nothing else is seen of it. -/
theorem node?_put (fs : FileSystem) {a b : Location} (hb : b.IsNamed) (node : Node) :
    (fs.put b node).node? a = if a = b then some node else fs.node? a := by
  by_cases hab : a = b
  · subst hab
    have hroot : a ≠ [] := by
      rintro rfl
      exact hb rfl
    rw [if_pos rfl, put, dif_pos hb, node?, if_neg hroot, List.lookup_cons_self]
  · rw [if_neg hab, node?_put_of_ne fs hab]

/-- Whatever stands somewhere, and is not the root, has a name. -/
theorem isNamed_of_node? {fs : FileSystem} {loc : Location} {node : Node}
    (h : fs.node? loc = some node) (hroot : loc ≠ []) : loc.IsNamed := by
  rw [node?, if_neg hroot] at h
  obtain ⟨before, after, hentries, -⟩ := List.lookup_eq_some_iff.1 h
  exact fs.named (loc, node) (by simp [hentries])

/-- A plain file is never the root, so it has a name. -/
theorem isNamed_of_file {fs : FileSystem} {loc : Location} {mode : Nat} {content : Bytes}
    (h : fs.node? loc = some (.file mode content)) : loc.IsNamed := by
  refine isNamed_of_node? h ?_
  rintro rfl
  cases h

end FileSystem

end LineShell
