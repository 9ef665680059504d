import LineShell.SearchPath.Lookup

/-!
# Opening a file to write to it

A file that is opened for writing is made if there is none, emptied if that is asked for, and
otherwise left as it is.  Nothing else in the file system changes, and no command is found or lost
by it: a file that is made cannot be executed, and one that is emptied keeps its permissions.

## Main definitions

* `Place.location` — where the entry of a place stands, or would stand.
* `FileSystem.MadeReady` — how one entry is made ready for writing.
* `FileSystem.Alike` — file systems that differ only in plain files, as executable in both.
* `World.OnlyTarget` — a world that changes at most at the target of a redirection.

## Main results

* `FileSystem.isTrue_of_locate` — what stands at the place that a path leads to.
* `System.exists_of_openForWriting_eq_ok` — **all that opening a file for writing does.**
* `FileSystem.Alike.locate` — alike file systems have the same executable files.
* `World.onlyTarget_close` — what is left once the target has been opened and closed.
* `World.resolve_openForWriting` — **no command is found or lost by opening a file.**
-/

namespace LineShell

/-- Where the entry of a place stands, or would stand if it were made. -/
def Place.location : Place → Location
  | .entry loc _ => loc
  | .vacant directory name => name :: directory

namespace FileSystem

/-! ### What stands at the end of a path -/

/-- What a place says about its location is true.  Only a directory that is held may have been
removed meanwhile, and where nothing stands there is a name for something. -/
def IsTrue (fs : FileSystem) : Place → Prop
  | .entry loc node => node = .directory ∨ fs.node? loc = some node
  | .vacant directory name =>
    Location.IsNamed (name :: directory) ∧ fs.node? (name :: directory) = none

/-- The names of a route are not empty. -/
theorem ne_nil_of_mem_ofPath {path : Bytes} {name : Name} (h : name ∈ (Route.ofPath path).names) :
    name ≠ [] := by
  simpa using (List.mem_filter.1 h).2

variable {fs : FileSystem} {purpose : Purpose} {ending : Bool} {here : Location} {place : Place}

theorem isTrue_of_advance {names : List Name} (hnames : ∀ name ∈ names, name ≠ []) :
    ∀ {here : Location}, fs.advance purpose ending here names = .arrived place →
      fs.IsTrue place := by
  induction names with
  | nil =>
    intro here h
    cases h
    exact .inl rfl
  | cons name rest ih =>
    obtain ⟨hname, hrest⟩ := List.forall_mem_cons.1 hnames
    intro here h
    rw [advance] at h
    split at h
    · exact ih hrest h
    split at h
    · exact ih hrest h
    split at h
    · cases h
    split at h
    · cases h
    split at h
    · next hnode =>
      split at h
      · cases h
        exact ⟨hname, hnode⟩
      · cases h
    · exact ih hrest h
    · next target hnode =>
      split at h
      · cases h
        exact .inr hnode
      · cases h
    · next node hnode =>
      split at h
      · cases h
        exact .inr hnode
      · cases h

/-- The names behind a link are some of those that are followed. -/
theorem mem_of_advance_atLink {directory : Location} {target : Bytes} {names rest : List Name} :
    ∀ {here : Location}, fs.advance purpose ending here names = .atLink directory target rest →
      ∀ name ∈ rest, name ∈ names := by
  induction names with
  | nil =>
    intro here h
    cases h
  | cons first others ih =>
    intro here h
    rw [advance] at h
    split at h
    · exact fun name hname => List.mem_cons_of_mem first (ih h name hname)
    split at h
    · exact fun name hname => List.mem_cons_of_mem first (ih h name hname)
    split at h
    · cases h
    split at h
    · cases h
    split at h
    · split at h <;> cases h
    · exact fun name hname => List.mem_cons_of_mem first (ih h name hname)
    · split at h
      · cases h
      · cases h
        exact fun name hname => List.mem_cons_of_mem first hname
    · split at h <;> cases h

theorem isTrue_of_follow {links : Nat} {names : List Name} (hnames : ∀ name ∈ names, name ≠ [])
    (h : fs.follow purpose links ending here names = .ok place) : fs.IsTrue place := by
  fun_induction FileSystem.follow fs purpose links ending here names with
  | case1 links ending here names arrival hreach =>
    cases h
    exact isTrue_of_advance hnames hreach
  | case2 => cases h
  | case3 => cases h
  | case4 => cases h
  | case5 ending here names via target rest hreach links hempty route ih =>
    -- the names of the link come in front of those that are left
    refine ih (fun name hname => ?_) h
    rcases List.mem_append.1 hname with hroute | hrest
    · exact ne_nil_of_mem_ofPath hroute
    · exact hnames name (mem_of_advance_atLink hreach name hrest)

/-- What stands at the place that a path leads to. -/
theorem isTrue_of_locate {path : Bytes} (h : fs.locate purpose here path = .ok place) :
    fs.IsTrue place := by
  unfold locate at h
  split at h
  · cases h
  split at h
  · cases h
  · exact isTrue_of_follow (fun _ => ne_nil_of_mem_ofPath) h

/-! ### Making an entry ready -/

/-- How an entry is made ready for writing: it is made, or emptied, or left as it is. -/
inductive MadeReady (fs : FileSystem) (loc : Location) (permissions : Nat) (mode : WriteMode) :
    FileSystem → Prop
  | created (hnamed : loc.IsNamed) (h : fs.node? loc = none) :
      MadeReady fs loc permissions mode (fs.put loc (.file permissions []))
  | emptied {kept : Nat} {content : Bytes} (hmode : mode = .truncate)
      (h : fs.node? loc = some (.file kept content)) :
      MadeReady fs loc permissions mode (fs.put loc (.file kept []))
  /-- A file is left as it is only to be appended to; a device has no content to discard. -/
  | left {node : Node} (h : fs.node? loc = some node)
      (hmode : ∀ kept content, node = .file kept content → mode = .append) :
      MadeReady fs loc permissions mode fs

/-- Making an entry ready is seen nowhere else. -/
theorem MadeReady.node?_of_ne {fs fs' : FileSystem} {loc : Location} {permissions : Nat}
    {mode : WriteMode} (h : fs.MadeReady loc permissions mode fs') {other : Location}
    (hne : other ≠ loc) : fs'.node? other = fs.node? other := by
  cases h with
  | created hnamed h => exact node?_put_of_ne fs hne _
  | emptied hmode h => exact node?_put_of_ne fs hne _
  | left h hmode => rfl

end FileSystem

namespace System

/-- **All that opening a file for writing does**: the entry that the path leads to is made ready,
and there is one more open file. -/
theorem exists_of_openForWriting_eq_ok {s s' : System} {here : Location} {permissions : Nat}
    {mode : WriteMode} {path : Bytes} {handle : Handle}
    (h : s.openForWriting here permissions mode path = .ok (handle, s')) :
    ∃ place, s.files.locate .create here path = .ok place ∧ handle = s.opened.length ∧
      s.files.MadeReady place.location permissions mode s'.files ∧
      s'.opened = s.opened ++
        [{ target := .entry place.location, writable := true, appending := mode = .append }] ∧
      s'.signals = s.signals := by
  unfold openForWriting at h
  cases hplace : s.files.locate .create here path with
  | error errno =>
    rw [hplace] at h
    cases h
  | ok place =>
    have htrue := FileSystem.isTrue_of_locate hplace
    rw [hplace] at h
    refine ⟨place, rfl, ?_⟩
    cases place with
    | vacant directory name =>
      simp only [bind, Except.bind] at h
      cases hdirectory : s.files.isDirectory directory with
      | false =>
        rw [hdirectory] at h
        cases h
      | true =>
        rw [hdirectory] at h
        cases h
        exact ⟨rfl, .created htrue.1 htrue.2, rfl, rfl⟩
    | entry loc node =>
      simp only [bind, Except.bind] at h
      rcases htrue with rfl | hnode
      · cases h
      -- what is made ready depends on what stands there
      cases node with
      | directory => cases h
      | link target => cases h
      | file kept content =>
        cases mode with
        | truncate =>
          cases h
          exact ⟨rfl, .emptied rfl hnode, rfl, rfl⟩
        | append =>
          cases h
          exact ⟨rfl, .left hnode fun _ _ _ => rfl, rfl, rfl⟩
      | _ =>
        cases h
        refine ⟨rfl, .left hnode fun kept content heq => ?_, rfl, rfl⟩
        cases heq

end System

/-! ### What can be executed -/

/-- Whether a file may be executed where a plain file or nothing stands. -/
def plainExecutable? : Option Node → Option Bool
  | none => some false
  | some (.file mode content) => some (Node.file mode content).isExecutable
  | _ => none

/-- Whether a route ends at something that may be executed, if it ends without a link. -/
def Reach.executable? : Reach → Option Bool
  | .arrived (.entry _ node) => some node.isExecutable
  | .arrived (.vacant _ _) => some false
  | .failed _ => some false
  | .atLink _ _ _ => none

/-- Whether a path leads to something that may be executed. -/
def leadsToExecutable : Except Errno Place → Bool
  | .ok (.entry _ node) => node.isExecutable
  | _ => false

namespace FileSystem

/-- Two file systems differ only in plain files, and not in whether these may be executed. -/
def Alike (fs fs' : FileSystem) : Prop :=
  ∀ loc, fs'.node? loc = fs.node? loc ∨
    ∃ answer, plainExecutable? (fs.node? loc) = some answer ∧
      plainExecutable? (fs'.node? loc) = some answer

/-- An entry that is made ready for writing stays as executable as it was, unless its permissions
make it so from the start. -/
theorem MadeReady.alike {fs fs' : FileSystem} {loc : Location} {permissions : Nat}
    {mode : WriteMode} (h : fs.MadeReady loc permissions mode fs')
    (hpermissions : permissions &&& 0o111 = 0) : fs.Alike fs' := by
  intro other
  by_cases hother : other = loc
  · subst hother
    cases h with
    | created hnamed h =>
      refine .inr ⟨false, by rw [h]; rfl, ?_⟩
      rw [node?_put _ hnamed, if_pos rfl]
      simp [plainExecutable?, Node.isExecutable, hpermissions]
    | emptied hmode h =>
      refine .inr ⟨_, congrArg plainExecutable? h, ?_⟩
      rw [node?_put _ (isNamed_of_file h), if_pos rfl]
      rfl
    | left h hmode => exact .inl rfl
  · exact .inl (h.node?_of_ne hother)

/-- Nothing and a plain file both end a route, if need be with an error. -/
theorem executable?_of_plain (found : Option Node) (here : Location) (name : Name) (last : Prop)
    [Decidable last] (ending : Bool) (enter : Reach) (atLink : Bytes → Reach) {answer : Bool} :
    plainExecutable? found = some answer → (match found with
      | none => if last then .arrived (.vacant here name) else .failed .noEntry
      | some .directory => enter
      | some (.link target) => atLink target
      | some node =>
        if last ∧ ¬ending then .arrived (.entry (name :: here) node)
        else .failed .notDirectory : Reach).executable? =
      some (if last ∧ ¬ending then answer else false) := by
  intro h
  cases found with
  | none =>
    cases h
    simp only [ite_self]
    split <;> rfl
  | some node =>
    cases node with
    | file mode content =>
      cases h
      simp only
      split <;> rfl
    | _ => cases h

/-- Alike file systems are followed alike, up to where only an error can differ. -/
theorem Alike.advance {fs fs' : FileSystem} (h : fs.Alike fs') {ending : Bool} {names : List Name} :
    ∀ here : Location,
      fs'.advance .find ending here names = fs.advance .find ending here names ∨
        ∃ answer, (fs.advance .find ending here names).executable? = some answer ∧
          (fs'.advance .find ending here names).executable? = some answer := by
  induction names with
  | nil => exact fun _ => .inl rfl
  | cons name rest ih =>
    intro here
    rw [FileSystem.advance, FileSystem.advance]
    split
    · exact ih _
    split
    · exact ih _
    split
    · exact .inl rfl
    split
    · exact .inr ⟨false, rfl, rfl⟩
    rcases h (name :: here) with heq | ⟨answer, hthere, hthere'⟩
    · rw [heq]
      split
      · exact .inl rfl
      · exact ih _
      · exact .inl rfl
      · exact .inl rfl
    · right
      exact ⟨_, executable?_of_plain _ here name _ ending _ _ hthere,
        executable?_of_plain _ here name _ ending _ _ hthere'⟩

theorem leadsToExecutable_follow {fs : FileSystem} {links : Nat} {ending : Bool} {here : Location}
    {names : List Name} {answer : Bool}
    (h : (fs.advance .find ending here names).executable? = some answer) :
    leadsToExecutable (fs.follow .find links ending here names) = answer := by
  unfold follow
  cases hreach : fs.advance .find ending here names with
  | arrived place =>
    rw [hreach] at h
    cases place <;> exact Option.some.inj h
  | failed errno =>
    rw [hreach] at h
    exact Option.some.inj h
  | atLink directory target names =>
    rw [hreach] at h
    cases h

/-- A path leads to something that may be executed in both of two alike file systems or in none. -/
theorem Alike.follow {fs fs' : FileSystem} (h : fs.Alike fs') {links : Nat} :
    ∀ (ending : Bool) (here : Location) (names : List Name),
      leadsToExecutable (fs'.follow .find links ending here names) =
        leadsToExecutable (fs.follow .find links ending here names) := by
  induction links with
  | zero =>
    intro ending here names
    rcases h.advance here with heq | ⟨answer, hanswer, hanswer'⟩
    · rw [FileSystem.follow, FileSystem.follow, heq]
    · rw [leadsToExecutable_follow hanswer, leadsToExecutable_follow hanswer']
  | succ links ih =>
    intro ending here names
    rcases h.advance here with heq | ⟨answer, hanswer, hanswer'⟩
    · rw [FileSystem.follow, FileSystem.follow, heq]
      cases fs.advance .find ending here names with
      | arrived place => rfl
      | failed errno => rfl
      | atLink directory target rest =>
        simp only
        split
        · rfl
        · exact ih _ _ _
    · rw [leadsToExecutable_follow hanswer, leadsToExecutable_follow hanswer']

theorem Alike.locate {fs fs' : FileSystem} (h : fs.Alike fs') (here : Location) (path : Bytes) :
    leadsToExecutable (fs'.locate .find here path) =
      leadsToExecutable (fs.locate .find here path) := by
  unfold FileSystem.locate
  split
  · rfl
  split
  · rfl
  · exact h.follow _ _ _

end FileSystem

theorem System.isExecutable_eq (s : System) (here : Location) (path : Bytes) :
    s.isExecutable here path = leadsToExecutable (s.files.locate .find here path) := by
  unfold isExecutable FileSystem.find
  cases s.files.locate .find here path with
  | error errno => rfl
  | ok place => cases place <;> rfl

/-- In worlds with alike file systems a name stands for the same command. -/
theorem SearchPath.resolve_eq_of_alike {w w' : World}
    (hdirectory : w'.process.directory = w.process.directory)
    (hfiles : w.system.files.Alike w'.system.files) (path : SearchPath) (name : String) :
    path.resolve w' name = path.resolve w name := by
  have hexecutable : w'.isExecutable = w.isExecutable := by
    funext file
    simp only [World.isExecutable, System.isExecutable_eq, hdirectory, hfiles.locate]
  unfold resolve
  rw [hexecutable]

/-! ### A descriptor for a while -/

namespace Descriptors

/-- Every descriptor is less than the number that is called unused. -/
theorem lt_unused {t : Descriptors} {fd : Nat} {handle : Handle} (h : (fd, handle) ∈ t.entries) :
    fd < t.unused := by
  obtain ⟨entries⟩ := t
  simp only [unused] at h ⊢
  induction entries with
  | nil => cases h
  | cons entry entries ih =>
    rw [List.foldr_cons]
    rcases List.mem_cons.1 h with rfl | h
    · exact Nat.lt_of_lt_of_le (Nat.lt_succ_self fd) (Nat.le_max_left _ _)
    · exact Nat.lt_of_lt_of_le (ih h) (Nat.le_max_right _ _)

theorem close_unused (t : Descriptors) : t.close t.unused = t := by
  have hentries : t.entries.filter (·.1 != t.unused) = t.entries := by
    rw [List.filter_eq_self]
    intro entry hentry
    exact bne_iff_ne.2 (Nat.ne_of_lt (lt_unused hentry))
  exact congrArg Descriptors.mk hentries

/-- A descriptor that was unused is gone once it is closed. -/
theorem close_set_unused (t : Descriptors) (handle : Handle) :
    (t.set t.unused handle).close t.unused = t := by
  have hset : t.set t.unused handle = ⟨(t.unused, handle) :: t.entries⟩ := by
    rw [set, close_unused]
  rw [hset, close, List.filter_cons_of_neg (by simp)]
  exact t.close_unused

end Descriptors

namespace World

/-- A world changes at most where a path leads to, and that is made ready for writing there. -/
structure OnlyTarget (w : World) (mode : WriteMode) (target : String) (w' : World) : Prop where
  process : w'.process = w.process
  console : w'.console = w.console
  children : w'.children = w.children
  nextChild : w'.nextChild = w.nextChild
  signals : w'.system.signals = w.system.signals
  /-- The open files are the same, and one that nobody holds any more. -/
  opened : ∃ file, w'.system.opened = w.system.opened ++ [file]
  files : ∃ place,
    w.system.files.locate .create w.process.directory (Bytes.ofString target) = .ok place ∧
    w.system.files.MadeReady place.location newFileMode mode w'.system.files

/-- Opening a file for writing opens it in the system and takes an unused descriptor. -/
theorem exists_of_openForWriting_eq_ok {w w' : World} {mode : WriteMode} {target : String}
    {fd : Nat} (h : w.openForWriting mode target = .ok (fd, w')) :
    ∃ handle system,
      w.system.openForWriting w.process.directory newFileMode mode (Bytes.ofString target) =
        .ok (handle, system) ∧
      fd = w.process.descriptors.unused ∧
      w' = { w with
        system
        process := { w.process with descriptors := w.process.descriptors.set fd handle } } := by
  unfold openForWriting withPath at h
  split at h
  · cases h
  · cases hopened : w.system.openForWriting w.process.directory newFileMode mode
        (Bytes.ofString target) with
    | error errno =>
      rw [hopened] at h
      cases h
    | ok opened =>
      obtain ⟨handle, system⟩ := opened
      rw [hopened] at h
      cases h
      exact ⟨handle, system, rfl, rfl, rfl⟩

/-- All that opening the target of a redirection does, once the descriptor is closed again. -/
theorem onlyTarget_close {w w' : World} {mode : WriteMode} {target : String} {fd : Nat}
    (h : w.openForWriting mode target = .ok (fd, w')) : w.OnlyTarget mode target (w'.close fd) := by
  obtain ⟨handle, system, hopen, rfl, rfl⟩ := exists_of_openForWriting_eq_ok h
  obtain ⟨place, hplace, -, hready, hopened, hsignals⟩ :=
    System.exists_of_openForWriting_eq_ok hopen
  have hprocess : ({ w.process with
      descriptors := (w.process.descriptors.set w.process.descriptors.unused handle).close
        w.process.descriptors.unused } : Process) = w.process := by
    rw [Descriptors.close_set_unused]
  exact {
    process := hprocess
    console := rfl
    children := rfl
    nextChild := rfl
    signals := hsignals
    opened := ⟨_, hopened⟩
    files := ⟨place, hplace, hready⟩ }

/-- Opening the target of a redirection does not change what a name stands for. -/
theorem resolve_openForWriting {w w' : World} {mode : WriteMode} {target : String} {fd : Nat}
    (h : w.openForWriting mode target = .ok (fd, w')) (path : SearchPath) (name : String) :
    path.resolve w' name = path.resolve w name := by
  obtain ⟨handle, system, hopen, rfl, rfl⟩ := exists_of_openForWriting_eq_ok h
  obtain ⟨place, -, -, hready, -, -⟩ := System.exists_of_openForWriting_eq_ok hopen
  refine SearchPath.resolve_eq_of_alike ?_ ?_ path name
  · rfl
  · exact hready.alike (by decide)

end World

end LineShell
