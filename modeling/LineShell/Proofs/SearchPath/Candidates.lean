import LineShell.Proofs.Completion.SortedNames
import LineShell.Proofs.Text.ByteOrder
import LineShell.SearchPath.Lookup
import LineShell.Spawn

/-!
# The candidates of a search path

The candidates for a text are the names in the searchable directories that begin with it, in the
order of their bytes and each once.  The first directory that cannot be listed spoils them, whatever
the others hold.  So they are told by the set of entries: how the directories are ordered, how often
one is named, and which directories of the system stand between them does not matter.

## Main definitions

* `World.LeadsToDirectory`, `World.IsListable`, `World.HasEntry` — a directory and its entries, said
  without listing it.
* `SearchPath.SameListings` — two search paths that list the same directories.

## Main results

* `FileSystem.mem_namesIn` — a directory lists the names for which something stands in it.
* `SearchPath.candidates_eq_error_iff` — when candidates cannot be had, and why.
* `SearchPath.mem_candidates_iff` — what the candidates are.
* `SearchPath.candidates_exact` — **the candidates are exactly the right names.**
-/

namespace LineShell

/-! ### Directories and their entries -/

/-- A directory lists the names for which something stands in it. -/
theorem FileSystem.mem_namesIn {fs : FileSystem} {loc : Location} {name : Name} :
    name ∈ fs.namesIn loc ↔ fs.node? (name :: loc) ≠ none := by
  have hentry : name ∈ fs.namesIn loc ↔ ∃ node, (name :: loc, node) ∈ fs.entries := by
    simp only [namesIn, List.mem_filterMap, Prod.exists]
    constructor
    · rintro ⟨_ | ⟨found, parent⟩, node, hmem, hname⟩
      · cases hname
      · simp only at hname
        split at hname
        · next hparent =>
          rw [hparent, Option.some.inj hname] at hmem
          exact ⟨node, hmem⟩
        · cases hname
    · rintro ⟨node, hmem⟩
      exact ⟨name :: loc, node, hmem, by simp⟩
  rw [hentry]
  simp [node?]

namespace World

variable {w : World} {directory : String} {names : List Name} {name : Name}

/-- A path leads to a directory. -/
def LeadsToDirectory (w : World) (path : String) (loc : Location) : Prop :=
  hasNul path = false ∧
    w.system.files.find w.process.directory (Bytes.ofString path) = .ok (loc, .directory)

/-- A directory of a search path can be listed if its path leads to one. -/
def IsListable (w : World) (directory : String) : Prop :=
  ∃ loc, w.LeadsToDirectory directory loc

/-- Something stands for a name in the directory to which a path leads. -/
def HasEntry (w : World) (directory : String) (name : Name) : Prop :=
  ∃ loc, w.LeadsToDirectory directory loc ∧ w.system.files.node? (name :: loc) ≠ none

theorem listDirectory_eq_ok_iff :
    w.listDirectory directory = .ok names ↔
      ∃ loc, w.LeadsToDirectory directory loc ∧ w.system.files.namesIn loc = names := by
  unfold listDirectory withPath LeadsToDirectory hasNul
  cases directory.toList.contains '\x00' with
  | true => simp
  | false =>
    change (w.system.listDirectory w.process.directory (Bytes.ofString directory)).mapError _ =
      _ ↔ _
    unfold System.listDirectory
    cases hfind : w.system.files.find w.process.directory (Bytes.ofString directory) with
    | error errno => simp [bind, Except.bind, Except.mapError]
    | ok found =>
      obtain ⟨loc, node⟩ := found
      cases node <;> simp [bind, Except.bind, Except.mapError]

/-- A directory can be listed exactly if listing it succeeds. -/
theorem isListable_iff :
    w.IsListable directory ↔ ∃ names, w.listDirectory directory = .ok names := by
  simp [listDirectory_eq_ok_iff, IsListable]

instance : DecidablePred w.IsListable := fun directory =>
  decidable_of_iff ((w.listDirectory directory).isOk = true) <| by
    rw [isListable_iff]
    cases w.listDirectory directory <;> simp [Except.isOk, Except.toBool]

theorem not_isListable_of_eq_error {fault : Fault} (h : w.listDirectory directory = .error fault) :
    ¬w.IsListable directory := by
  rw [isListable_iff, h]
  rintro ⟨names, hnames⟩
  cases hnames

theorem exists_eq_error_of_not_isListable (h : ¬w.IsListable directory) :
    ∃ fault, w.listDirectory directory = .error fault := by
  rw [isListable_iff] at h
  cases hlist : w.listDirectory directory with
  | error fault => exact ⟨fault, rfl⟩
  | ok names => exact absurd ⟨names, hlist⟩ h

/-- What is listed are the entries. -/
theorem mem_listDirectory_iff (h : w.listDirectory directory = .ok names) :
    name ∈ names ↔ w.HasEntry directory name := by
  obtain ⟨loc, hloc, rfl⟩ := listDirectory_eq_ok_iff.1 h
  rw [FileSystem.mem_namesIn]
  constructor
  · exact fun hnode => ⟨loc, hloc, hnode⟩
  · rintro ⟨loc', hloc', hnode⟩
    -- a path leads to one place only
    have hsame := hloc.2.symm.trans hloc'.2
    cases hsame
    exact hnode

end World

/-! ### Listing several directories -/

section Listings

variable {ε α β : Type} {f : α → Except ε β} {items : List α}

/-- Going through a list fails as its first member that fails. -/
theorem mapM_eq_error_iff {e : ε} :
    items.mapM f = .error e ↔
      ∃ before item after, items = before ++ item :: after ∧
        (∀ earlier ∈ before, ∃ value, f earlier = .ok value) ∧ f item = .error e := by
  induction items with
  | nil => simp [pure, Except.pure]
  | cons item items ih =>
    rw [List.mapM_cons]
    cases hitem : f item with
    | error e' =>
      simp only [bind, Except.bind, Except.error.injEq]
      constructor
      · rintro rfl
        exact ⟨[], item, items, rfl, fun _ h => absurd h List.not_mem_nil, hitem⟩
      · rintro ⟨_ | ⟨first, before⟩, failing, after, heq, hbefore, hfailing⟩
        · obtain ⟨rfl, -⟩ := List.cons.inj heq
          exact Except.error.inj (hitem.symm.trans hfailing)
        · obtain ⟨rfl, -⟩ := List.cons.inj heq
          obtain ⟨value, hvalue⟩ := hbefore item List.mem_cons_self
          cases hitem.symm.trans hvalue
    | ok value =>
      have hrest : (do let values ← items.mapM f; pure (value :: values)) = .error e ↔
          items.mapM f = .error e := by
        cases items.mapM f <;> simp [bind, Except.bind, pure, Except.pure]
      refine hrest.trans (ih.trans ⟨?_, ?_⟩)
      · rintro ⟨before, failing, after, rfl, hbefore, hfailing⟩
        exact ⟨item :: before, failing, after, rfl,
          List.forall_mem_cons.2 ⟨⟨value, hitem⟩, hbefore⟩, hfailing⟩
      · rintro ⟨_ | ⟨first, before⟩, failing, after, heq, hbefore, hfailing⟩
        · obtain ⟨rfl, -⟩ := List.cons.inj heq
          cases hitem.symm.trans hfailing
        · obtain ⟨-, rfl⟩ := List.cons.inj heq
          exact ⟨before, failing, after, rfl, (List.forall_mem_cons.1 hbefore).2, hfailing⟩

/-- What going through a list gives comes from its members. -/
theorem mem_of_mapM_eq_ok {values : List β} (h : items.mapM f = .ok values) {value : β} :
    value ∈ values ↔ ∃ item ∈ items, f item = .ok value := by
  induction items generalizing values with
  | nil =>
    cases h
    simp
  | cons item items ih =>
    rw [List.mapM_cons] at h
    cases hitem : f item with
    | error e =>
      rw [hitem] at h
      cases h
    | ok first =>
      rw [hitem] at h
      cases hrest : items.mapM f with
      | error e =>
        rw [hrest] at h
        cases h
      | ok rest =>
        rw [hrest] at h
        cases h
        simp only [List.mem_cons, ih hrest, exists_eq_or_imp, hitem, Except.ok.injEq,
          @eq_comm _ first value]

end Listings

namespace SearchPath

variable {path other : SearchPath} {w : World} {text : String} {names : List String}

/-- The names in a directory, or a report of the directory. -/
def listing (w : World) (directory : String) : Except UnlistedDirectory (List Name) :=
  (w.listDirectory directory).mapError (⟨directory, ·⟩)

/-- The names of listings that begin with a text, put in order. -/
def namesFor (text : String) (listings : List (List Name)) : List String :=
  sortNames ((listings.flatten.filter ((Bytes.ofString text).isPrefixOf ·)).filterMap
    Bytes.toString?)

theorem candidates_eq (path : SearchPath) (w : World) (text : String) :
    path.candidates w text =
      (path.searchable.directories.mapM (listing w)).map (namesFor text) := by
  unfold candidates
  change (path.searchable.directories.mapM (listing w)).bind _ = _
  cases path.searchable.directories.mapM (listing w) <;> rfl

theorem listing_eq_ok_iff {directory : String} {found : List Name} :
    listing w directory = .ok found ↔ w.listDirectory directory = .ok found := by
  unfold listing
  cases w.listDirectory directory <;> simp [Except.mapError]

theorem listing_eq_error_iff {directory : String} {e : UnlistedDirectory} :
    listing w directory = .error e ↔
      e.directory = directory ∧ w.listDirectory directory = .error e.fault := by
  obtain ⟨failing, fault⟩ := e
  unfold listing
  cases w.listDirectory directory <;> simp [Except.mapError, eq_comm]

/-- **Candidates cannot be had because of the first directory that cannot be listed.** -/
theorem candidates_eq_error_iff {e : UnlistedDirectory} :
    path.candidates w text = .error e ↔
      path.searchable.directories.find? (¬w.IsListable ·) = some e.directory ∧
        w.listDirectory e.directory = .error e.fault := by
  rw [candidates_eq]
  have hmap : (path.searchable.directories.mapM (listing w)).map (namesFor text) = .error e ↔
      path.searchable.directories.mapM (listing w) = .error e := by
    cases path.searchable.directories.mapM (listing w) <;> simp [Except.map]
  rw [hmap, mapM_eq_error_iff, List.find?_eq_some_iff_append]
  simp only [listing_eq_ok_iff, ← World.isListable_iff, listing_eq_error_iff, decide_not,
    Bool.not_not, decide_eq_true_eq, Bool.not_eq_true', decide_eq_false_iff_not]
  constructor
  · rintro ⟨before, failing, after, hpath, hbefore, rfl, hfault⟩
    exact ⟨⟨World.not_isListable_of_eq_error hfault, before, after, hpath, hbefore⟩, hfault⟩
  · rintro ⟨⟨-, before, after, hpath, hbefore⟩, hfault⟩
    exact ⟨before, e.directory, after, hpath, hbefore, rfl, hfault⟩

theorem exists_listings (h : path.candidates w text = .ok names) :
    ∃ listings, path.searchable.directories.mapM (listing w) = .ok listings ∧
      namesFor text listings = names := by
  rw [candidates_eq] at h
  cases hlistings : path.searchable.directories.mapM (listing w) with
  | error e =>
    rw [hlistings] at h
    cases h
  | ok listings =>
    rw [hlistings] at h
    exact ⟨listings, rfl, Except.ok.inj h⟩

/-- The candidates are in order. -/
theorem pairwise_of_candidates (h : path.candidates w text = .ok names) :
    names.Pairwise (· < ·) := by
  obtain ⟨listings, -, rfl⟩ := exists_listings h
  exact pairwise_sortNames _

/-- **The candidates are the names of entries that begin with the text.** -/
theorem mem_candidates_iff (h : path.candidates w text = .ok names) {name : String} :
    name ∈ names ↔
      (∃ directory ∈ path.searchable.directories, w.HasEntry directory (Bytes.ofString name)) ∧
        Bytes.ofString text <+: Bytes.ofString name := by
  obtain ⟨listings, hlistings, rfl⟩ := exists_listings h
  simp only [namesFor, mem_sortNames, List.mem_filterMap, List.mem_filter, List.mem_flatten,
    mem_of_mapM_eq_ok hlistings, List.isPrefixOf_iff_prefix, Bytes.toString?_eq_some_iff,
    listing_eq_ok_iff]
  constructor
  · rintro ⟨_, ⟨⟨found, ⟨directory, hdirectory, hfound⟩, hmem⟩, hprefix⟩, rfl⟩
    exact ⟨⟨directory, hdirectory, (World.mem_listDirectory_iff hfound).1 hmem⟩, hprefix⟩
  · rintro ⟨⟨directory, hdirectory, hentry⟩, hprefix⟩
    obtain ⟨found, hfound⟩ := World.isListable_iff.1 (hentry.imp fun _ h => h.1)
    exact ⟨_, ⟨⟨found, ⟨directory, hdirectory, hfound⟩,
      (World.mem_listDirectory_iff hfound).2 hentry⟩, hprefix⟩, rfl⟩

/-- Candidates can be had exactly if every searchable directory can be listed. -/
theorem exists_candidates_iff :
    (∃ names, path.candidates w text = .ok names) ↔
      ∀ directory ∈ path.searchable.directories, w.IsListable directory := by
  have hnone : path.searchable.directories.find? (¬w.IsListable ·) = none ↔
      ∀ directory ∈ path.searchable.directories, w.IsListable directory := by
    simp [List.find?_eq_none]
  rw [← hnone]
  constructor
  · rintro ⟨names, hnames⟩
    by_contra hsome
    obtain ⟨first, hfirst⟩ := Option.ne_none_iff_exists'.1 hsome
    have hunlistable : ¬w.IsListable first := by simpa using List.find?_some hfirst
    obtain ⟨fault, hfault⟩ := World.exists_eq_error_of_not_isListable hunlistable
    have herror : path.candidates w text = .error ⟨first, fault⟩ :=
      candidates_eq_error_iff.2 ⟨hfirst, hfault⟩
    cases hnames.symm.trans herror
  · intro hfind
    cases hcandidates : path.candidates w text with
    | ok names => exact ⟨names, rfl⟩
    | error e => cases hfind.symm.trans (candidates_eq_error_iff.1 hcandidates).1

/-! ### What the candidates do not depend on -/

/-- Two search paths list the same directories: of those that can be listed both have the same ones,
in any order and number, and of the others both have the same ones in the same order. -/
structure SameListings (w : World) (path other : SearchPath) : Prop where
  listable : ∀ directory, w.IsListable directory →
    (directory ∈ path.searchable.directories ↔ directory ∈ other.searchable.directories)
  unlistable : path.searchable.directories.filter (¬w.IsListable ·) =
    other.searchable.directories.filter (¬w.IsListable ·)

/-- Search paths that list the same directories have the same candidates. -/
theorem SameListings.candidates_eq (h : SameListings w path other) :
    path.candidates w text = other.candidates w text := by
  have hfirst : path.searchable.directories.find? (¬w.IsListable ·) =
      other.searchable.directories.find? (¬w.IsListable ·) := by
    rw [← List.head?_filter, ← List.head?_filter, h.unlistable]
  have herror : ∀ e, path.candidates w text = .error e ↔ other.candidates w text = .error e := by
    intro e
    rw [candidates_eq_error_iff, candidates_eq_error_iff, hfirst]
  cases hpath : path.candidates w text with
  | error e => exact ((herror e).1 hpath).symm
  | ok names =>
    cases hother : other.candidates w text with
    | error e => exact absurd ((herror e).2 hother) (by rw [hpath]; exact nofun)
    | ok names' =>
      refine congrArg _ (List.Pairwise.eq_of_mem_iff (pairwise_of_candidates hpath)
        (pairwise_of_candidates hother) fun name => ?_)
      rw [mem_candidates_iff hpath, mem_candidates_iff hother]
      have hentries : (∃ directory ∈ path.searchable.directories,
          w.HasEntry directory (Bytes.ofString name)) ↔
          ∃ directory ∈ other.searchable.directories,
            w.HasEntry directory (Bytes.ofString name) := by
        refine exists_congr fun directory => and_congr_left fun hentry => ?_
        exact h.listable directory (hentry.imp fun _ h => h.1)
      rw [hentries]

/-- The candidates for a text are those among all names that begin with it. -/
theorem candidates_eq_map_filter (path : SearchPath) (w : World) (text : String) :
    path.candidates w text =
      (path.candidates w "").map
        (·.filter fun name => (Bytes.ofString text).isPrefixOf (Bytes.ofString name)) := by
  cases hall : path.candidates w "" with
  | error e =>
    exact candidates_eq_error_iff.2 (candidates_eq_error_iff.1 hall)
  | ok all =>
    obtain ⟨names, hnames⟩ := exists_candidates_iff.2 (exists_candidates_iff.1 ⟨all, hall⟩)
    rw [hnames]
    refine congrArg _ (List.Pairwise.eq_of_mem_iff (pairwise_of_candidates hnames)
      ((pairwise_of_candidates hall).filter _) fun name => ?_)
    rw [List.mem_filter, mem_candidates_iff hnames, mem_candidates_iff hall,
      List.isPrefixOf_iff_prefix]
    have hempty : Bytes.ofString "" <+: Bytes.ofString name := List.nil_prefix
    rw [and_iff_left hempty]

/-- On a file system that does not change, a search path offers a fixed collection of names. -/
theorem candidates_eq_fixedNames (h : path.candidates w "" = .ok names) :
    path.candidates w = fixedNames names := by
  funext text
  rw [candidates_eq_map_filter, h, fixedNames]
  refine congrArg Except.ok (sortNames_eq_iff.2 ⟨(pairwise_of_candidates h).filter _, ?_⟩).symm
  intro name
  simp only [List.mem_filter, List.isPrefixOf_iff_prefix, Bytes.ofString_prefix_ofString]

/-- A directory of the system makes no difference. -/
theorem searchable_of_isSystemDirectory {before after : List String} {directory : String}
    (h : isSystemDirectory directory = true) :
    searchable ⟨before ++ directory :: after⟩ = searchable ⟨before ++ after⟩ := by
  simp [searchable, h]

/-- **The candidates are exactly the right names.**  They cannot be had exactly because of the first
directory, in the order of the search path, that cannot be listed, and that is the one reported.
Otherwise they stand in the order of their bytes, each once, and are the names of the entries of all
the searchable directories that are text and begin with the given text.  Directories of the system
make no difference, nor do the order and the repetition of directories that can be listed; and the
candidates for a text are those among the candidates for no text that begin with it. -/
theorem candidates_exact (path : SearchPath) (w : World) (text : String) :
    (∀ directory, (∃ fault, path.candidates w text = .error ⟨directory, fault⟩) ↔
      ∃ before after, path.searchable.directories = before ++ directory :: after ∧
        (∀ earlier ∈ before, w.IsListable earlier) ∧ ¬w.IsListable directory) ∧
    ((∃ names, path.candidates w text = .ok names) ↔
      ∀ directory ∈ path.searchable.directories, w.IsListable directory) ∧
    (∀ names, path.candidates w text = .ok names →
      (names.Pairwise fun a b => Bytes.ofString a < Bytes.ofString b) ∧
      ∀ name : Name, name ∈ names.map Bytes.ofString ↔
        (∃ directory ∈ path.searchable.directories, w.HasEntry directory name) ∧
          (∃ string, Bytes.ofString string = name) ∧ Bytes.ofString text <+: name) ∧
    (∀ before directory after, path.directories = before ++ directory :: after →
      isSystemDirectory directory = true →
        path.candidates w text = SearchPath.candidates ⟨before ++ after⟩ w text) ∧
    (∀ other, SameListings w path other → path.candidates w text = other.candidates w text) ∧
    path.candidates w text =
      (path.candidates w "").map
        (·.filter fun name => (Bytes.ofString text).isPrefixOf (Bytes.ofString name)) := by
  refine ⟨fun directory => ?_, exists_candidates_iff, fun names hnames => ⟨?_, fun name => ?_⟩,
    fun before directory after hpath hsystem => ?_, fun other h => h.candidates_eq,
    candidates_eq_map_filter path w text⟩
  · simp only [candidates_eq_error_iff, List.find?_eq_some_iff_append, decide_not, Bool.not_not,
      decide_eq_true_eq, Bool.not_eq_true', decide_eq_false_iff_not]
    constructor
    · rintro ⟨fault, ⟨hnot, before, after, hpath, hbefore⟩, -⟩
      exact ⟨before, after, hpath, hbefore, hnot⟩
    · rintro ⟨before, after, hpath, hbefore, hnot⟩
      obtain ⟨fault, hfault⟩ := World.exists_eq_error_of_not_isListable hnot
      exact ⟨fault, ⟨hnot, before, after, hpath, hbefore⟩, hfault⟩
  · exact (pairwise_of_candidates hnames).imp Bytes.ofString_lt_ofString.2
  · simp only [List.mem_map, mem_candidates_iff hnames]
    constructor
    · rintro ⟨string, ⟨hentry, hprefix⟩, rfl⟩
      exact ⟨hentry, ⟨string, rfl⟩, hprefix⟩
    · rintro ⟨hentry, ⟨string, rfl⟩, hprefix⟩
      exact ⟨string, ⟨hentry, hprefix⟩, rfl⟩
  · obtain ⟨directories⟩ := path
    simp only at hpath
    subst hpath
    unfold candidates
    rw [searchable_of_isSystemDirectory hsystem]

/-- Two directories that share a name, one of them with a name that is not text. -/
private def sharedNames : World where
  system :=
    { files := { entries := [([Bytes.ofString "a"], .directory),
        ([Bytes.ofString "b"], .directory),
        ([Bytes.ofString "xb", Bytes.ofString "a"], .file 0o755 []),
        ([Bytes.ofString "xa", Bytes.ofString "a"], .directory),
        ([[0x78, 0xFF], Bytes.ofString "a"], .file 0o755 []),
        ([Bytes.ofString "xa", Bytes.ofString "b"], .file 0o644 []),
        ([Bytes.ofString "ya", Bytes.ofString "b"], .file 0o755 [])] }
      opened := [] }
  process := {}

/-- There are the same two candidates with a directory of the system between the others, without
it, and in another order without the repetition. -/
theorem candidates_exact_sharedNames :
    SearchPath.candidates ⟨["/b", "/bin", "/a/", "/b"]⟩ sharedNames "x" = .ok ["xa", "xb"] ∧
      (["xa", "xb"].Pairwise fun a b => Bytes.ofString a < Bytes.ofString b) ∧
      isSystemDirectory "/bin" = true ∧
      SearchPath.candidates ⟨["/b", "/a/", "/b"]⟩ sharedNames "x" = .ok ["xa", "xb"] ∧
      SameListings sharedNames ⟨["/b", "/bin", "/a/", "/b"]⟩ ⟨["/a/", "/b"]⟩ ∧
      SearchPath.candidates ⟨["/a/", "/b"]⟩ sharedNames "x" = .ok ["xa", "xb"] := by
  have hsorted : sortNames ["xa", "xb", "xa", "xa"] = ["xa", "xb"] :=
    sortNames_eq_iff.2 ⟨by decide, fun name => by simp [or_comm]⟩
  have hnames : SearchPath.candidates ⟨["/b", "/bin", "/a/", "/b"]⟩ sharedNames "x" =
      .ok ["xa", "xb"] := by
    rw [← hsorted]
    rfl
  obtain ⟨-, -, hok, hsystem, hsame, -⟩ :=
    candidates_exact ⟨["/b", "/bin", "/a/", "/b"]⟩ sharedNames "x"
  have hsearchable : searchable ⟨["/b", "/bin", "/a/", "/b"]⟩ = ⟨["/b", "/a/", "/b"]⟩ := by decide
  have hother : searchable ⟨["/a/", "/b"]⟩ = ⟨["/a/", "/b"]⟩ := by decide
  have hlistings : SameListings sharedNames ⟨["/b", "/bin", "/a/", "/b"]⟩ ⟨["/a/", "/b"]⟩ := by
    refine ⟨fun directory _ => ?_, by decide⟩
    rw [hsearchable, hother]
    simp +contextual [or_comm]
  have hbin : isSystemDirectory "/bin" = true := by decide
  exact ⟨hnames, (hok _ hnames).1, hbin, (hsystem ["/b"] "/bin" ["/a/", "/b"] rfl hbin) ▸ hnames,
    hlistings, (hsame _ hlistings) ▸ hnames⟩

end SearchPath

end LineShell
