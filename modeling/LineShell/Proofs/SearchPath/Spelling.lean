import LineShell.Proofs.SearchPath.Found
import Mathlib.Logic.Relation

/-!
# Search paths as texts, and directories as they are spelled

A search path is written with colons between its directories, so that texts joined by a colon list
the directories of both.  The directories of the system are left out of a search in whatever
spelling they occur.  A spelling is described in two ways: by the names that stand along an absolute
path, and by the steps that lead from one spelling to another, each of which takes out a slash or a
dot that means nothing.

## Main definitions

* `pathNames` — the names along a path, among which empty parts and single dots do not count.
* `Spells` — an absolute path has the names of another path.
* `Respelling` — one slash or one dot fewer.
* `slashed` — names with a slash in front of each.

## Main results

* `SearchPath.directories_parse_append`, `SearchPath.directories_parse_intercalate` — what joined
  texts list.
* `isSystemDirectory_iff` — a directory of the system is one that spells such a directory.
* `eqvGen_respelling_iff` — **absolute paths with the same names are respellings of each other.**
* `SearchPath.parse_and_searchable` — **how search paths are joined and searched.**
-/

namespace LineShell

/-! ### Colons -/

namespace SearchPath

/-- Texts with a colon between them list the directories of the one and then those of the other. -/
theorem directories_parse_append (a b : String) :
    (parse (a ++ ":" ++ b)).directories = (parse a).directories ++ (parse b).directories := by
  have hsplit : (a ++ ":" ++ b).toList.splitOn ':' =
      a.toList.splitOn ':' ++ b.toList.splitOn ':' := by
    rw [String.toList_append, String.toList_append, List.append_assoc]
    exact List.splitOn_append_cons_self a.toList b.toList
  simp only [parse, hsplit, List.filter_append, List.map_append]

/-- Directories with colons between them are listed as they are, if none is empty or has a colon. -/
theorem directories_parse_intercalate {directories : List String}
    (h : ∀ directory ∈ directories, directory ≠ "" ∧ ':' ∉ directory.toList) :
    (parse (":".intercalate directories)).directories = directories := by
  by_cases hnil : directories = []
  · rw [hnil]
    rfl
  have hsplit : (":".intercalate directories).toList.splitOn ':' =
      directories.map String.toList := by
    rw [String.toList_intercalate]
    refine List.splitOn_intercalate ':' ?_ (by simpa using hnil)
    intro text htext
    obtain ⟨directory, hdirectory, rfl⟩ := List.mem_map.1 htext
    exact (h directory hdirectory).2
  have hkept : (directories.map String.toList).filter (!·.isEmpty) =
      directories.map String.toList := by
    rw [List.filter_eq_self]
    intro text htext
    obtain ⟨directory, hdirectory, rfl⟩ := List.mem_map.1 htext
    have hne : directory.toList ≠ [] := mt String.toList_eq_nil_iff.1 (h directory hdirectory).1
    simpa using hne
  have hback : directories.map (String.ofList ∘ String.toList) = directories :=
    (List.map_congr_left fun _ _ => String.ofList_toList).trans (List.map_id _)
  simp only [parse, hsplit, hkept, List.map_map]
  exact hback

end SearchPath

/-! ### The names along a path -/

/-- Whether a part between slashes is a name.  Empty parts and single dots are not. -/
def isPathName (part : List Char) : Bool :=
  !part.isEmpty && part ≠ ['.']

/-- The names along a path, in order.  Two dots count as a name. -/
def pathNames (text : List Char) : List (List Char) :=
  (text.splitOn '/').filter isPathName

@[simp] theorem pathNames_nil : pathNames [] = [] := rfl

@[simp] theorem pathNames_dot : pathNames ['.'] = [] := by decide

/-- A slash divides the names along a path. -/
theorem pathNames_append_slash (before after : List Char) :
    pathNames (before ++ '/' :: after) = pathNames before ++ pathNames after := by
  rw [pathNames, List.splitOn_append_cons_self, List.filter_append, pathNames, pathNames]

/-- A slash in front does not change the names. -/
theorem pathNames_slash (after : List Char) : pathNames ('/' :: after) = pathNames after :=
  pathNames_append_slash [] after

/-- An absolute path consists of its names. -/
theorem PathComponents.ofText_of_absolute {text : List Char} (h : text.head? = some '/') :
    PathComponents.ofText text = ⟨true, pathNames text⟩ := by
  have hnames : ((text.splitOn '/').filter (!·.isEmpty)).filter (· ≠ ['.']) = pathNames text := by
    rw [List.filter_filter, pathNames]
    refine List.filter_congr fun part _ => ?_
    rw [isPathName, Bool.and_comm]
  simp only [ofText, h, decide_true, Bool.not_true, Bool.false_and, Bool.false_eq_true, if_false,
    List.nil_append, hnames]

/-- A path is absolute if a slash stands in front. -/
theorem PathComponents.absolute_ofText (text : List Char) :
    (PathComponents.ofText text).absolute = true ↔ text.head? = some '/' := by
  simp only [ofText, decide_eq_true_eq]

/-- An absolute path spells another one if it has the same names. -/
def Spells (directory other : String) : Prop :=
  directory.toList.head? = some '/' ∧ pathNames directory.toList = pathNames other.toList

instance (directory other : String) : Decidable (Spells directory other) :=
  inferInstanceAs (Decidable (_ ∧ _))

/-- The directories of the system are absolute. -/
theorem head?_of_mem_systemDirectories :
    ∀ directory ∈ systemDirectories, directory.toList.head? = some '/' := by
  decide

/-- **A directory of the system** is one that spells such a directory. -/
theorem isSystemDirectory_iff (directory : String) :
    isSystemDirectory directory = true ↔ ∃ system ∈ systemDirectories, Spells directory system := by
  simp only [isSystemDirectory, List.any_eq_true, decide_eq_true_eq]
  refine exists_congr fun system => and_congr_right fun hsystem => ?_
  have habsolute := head?_of_mem_systemDirectories system hsystem
  constructor
  · intro heq
    have hhead : directory.toList.head? = some '/' := by
      rw [← PathComponents.absolute_ofText, ← heq, PathComponents.absolute_ofText]
      exact habsolute
    rw [PathComponents.ofText_of_absolute habsolute, PathComponents.ofText_of_absolute hhead] at heq
    exact ⟨hhead, (congrArg PathComponents.names heq).symm⟩
  · rintro ⟨hhead, hnames⟩
    rw [PathComponents.ofText_of_absolute habsolute, PathComponents.ofText_of_absolute hhead,
      hnames]

/-! ### Spelling step by step -/

/-- One slash or one dot is taken out of a path, at a place where it means nothing.  What stands in
front of the whole path is kept. -/
inductive Respelling : List Char → List Char → Prop
  /-- Of two slashes one is enough. -/
  | repeated (before after : List Char) :
      Respelling (before ++ '/' :: '/' :: after) (before ++ '/' :: after)
  /-- A slash stands at the end. -/
  | trailing {before : List Char} (h : before ≠ []) : Respelling (before ++ ['/']) before
  /-- A single dot stands between slashes. -/
  | dot (before after : List Char) :
      Respelling (before ++ '/' :: '.' :: '/' :: after) (before ++ '/' :: after)

/-- A step changes neither whether a path is absolute nor its names. -/
theorem Respelling.frame {text text' : List Char} (h : Respelling text text') :
    text.head? = text'.head? ∧ pathNames text = pathNames text' := by
  cases h with
  | repeated before after =>
    refine ⟨?_, ?_⟩
    · rw [List.head?_append, List.head?_append]
      rfl
    · rw [pathNames_append_slash, pathNames_append_slash, pathNames_slash]
  | trailing h =>
    refine ⟨?_, ?_⟩
    · cases text' with
      | nil => exact absurd rfl h
      | cons c rest => rfl
    · rw [pathNames_append_slash, pathNames_nil, List.append_nil]
  | dot before after =>
    refine ⟨?_, ?_⟩
    · rw [List.head?_append, List.head?_append]
      rfl
    · have hdot := pathNames_append_slash ['.'] after
      rw [pathNames_dot, List.nil_append] at hdot
      rw [pathNames_append_slash, pathNames_append_slash]
      exact congrArg (pathNames before ++ ·) hdot

/-- So do any number of steps, back and forth. -/
theorem frame_of_eqvGen {text text' : List Char} (h : Relation.EqvGen Respelling text text') :
    text.head? = text'.head? ∧ pathNames text = pathNames text' := by
  induction h with
  | rel _ _ hstep => exact hstep.frame
  | refl _ => exact ⟨rfl, rfl⟩
  | symm _ _ _ ih => exact ⟨ih.1.symm, ih.2.symm⟩
  | trans _ _ _ _ _ ih ih' => exact ⟨ih.1.trans ih'.1, ih.2.trans ih'.2⟩

/-- Names with a slash in front of each. -/
def slashed (names : List (List Char)) : List Char :=
  names.flatMap ('/' :: ·)

theorem slashed_cons (name : List Char) (names : List (List Char)) :
    slashed (name :: names) = '/' :: (name ++ slashed names) := by
  rw [slashed, List.flatMap_cons]
  rfl

/-- With a slash in front of each part there is one more slash than between them. -/
theorem slashed_eq_intercalate {parts : List (List Char)} (h : parts ≠ []) :
    slashed parts = '/' :: ['/'].intercalate parts := by
  induction parts with
  | nil => exact absurd rfl h
  | cons part parts ih =>
    rw [slashed_cons]
    cases parts with
    | nil => rw [List.intercalate_singleton, slashed, List.flatMap_nil, List.append_nil]
    | cons next parts =>
      rw [ih (List.cons_ne_nil _ _), List.intercalate_cons_cons, List.append_assoc]
      rfl

/-- The parts of a path between slashes, with a slash in front of each, are the path with a slash in
front. -/
theorem slashed_splitOn (text : List Char) : slashed (text.splitOn '/') = '/' :: text := by
  rw [slashed_eq_intercalate (List.splitOn_ne_nil '/' text), List.intercalate_splitOn]

/-- Of parts with slashes around them only the names need to be written. -/
theorem eqvGen_slashed (parts : List (List Char)) : ∀ before : List Char,
    Relation.EqvGen Respelling (before ++ (slashed parts ++ ['/']))
      (before ++ (slashed (parts.filter isPathName) ++ ['/'])) := by
  induction parts with
  | nil => exact fun before => .refl _
  | cons part parts ih =>
    intro before
    -- what follows a part begins with a slash, also at the end of the path
    obtain ⟨rest, hrest⟩ : ∃ rest, slashed parts ++ ['/'] = '/' :: rest := by
      cases parts with
      | nil => exact ⟨[], rfl⟩
      | cons next parts => exact ⟨_, by rw [slashed_cons, List.cons_append]⟩
    have hcons : before ++ (slashed (part :: parts) ++ ['/']) =
        before ++ '/' :: (part ++ (slashed parts ++ ['/'])) := by
      rw [slashed_cons, List.cons_append, List.append_assoc]
    cases hname : isPathName part with
    | true =>
      have hnext := ih (before ++ '/' :: part)
      rw [List.append_assoc, List.append_assoc] at hnext
      rw [List.filter_cons_of_pos hname, hcons, slashed_cons, List.cons_append, List.append_assoc]
      exact hnext
    | false =>
      have hnext := ih before
      rw [hrest] at hnext
      rw [List.filter_cons_of_neg (by simp [hname]), hcons, hrest]
      have hempty : part = [] ∨ part = ['.'] := by
        simpa [isPathName, Classical.or_iff_not_imp_left] using hname
      rcases hempty with rfl | rfl
      · exact .trans _ _ _ (.rel _ _ (.repeated before rest)) hnext
      · exact .trans _ _ _ (.rel _ _ (.dot before rest)) hnext

/-- An absolute path is a respelling of its names with slashes around them. -/
theorem eqvGen_slashed_pathNames {text : List Char} (h : text.head? = some '/') :
    Relation.EqvGen Respelling text (slashed (pathNames text) ++ ['/']) := by
  obtain ⟨rest, rfl⟩ : ∃ rest, text = '/' :: rest := by
    cases text with
    | nil => cases h
    | cons c rest => exact ⟨rest, by cases h; rfl⟩
  have hslash : Relation.EqvGen Respelling ('/' :: rest) ('/' :: rest ++ ['/']) :=
    .symm _ _ (.rel _ _ (.trailing (List.cons_ne_nil _ _)))
  have hnames := eqvGen_slashed (rest.splitOn '/') []
  rw [slashed_splitOn] at hnames
  rw [pathNames_slash]
  exact .trans _ _ _ hslash hnames

/-- **Absolute paths with the same names are respellings of each other**, and no others are. -/
theorem eqvGen_respelling_iff {text text' : List Char} (h : text.head? = some '/') :
    Relation.EqvGen Respelling text text' ↔
      text'.head? = some '/' ∧ pathNames text = pathNames text' := by
  constructor
  · intro heqv
    obtain ⟨hhead, hnames⟩ := frame_of_eqvGen heqv
    exact ⟨hhead ▸ h, hnames⟩
  · rintro ⟨h', hnames⟩
    have hback := eqvGen_slashed_pathNames h'
    rw [← hnames] at hback
    exact .trans _ _ _ (eqvGen_slashed_pathNames h) (.symm _ _ hback)

/-! ### What is searched -/

/-- Respelling a directory does not make it one of the system, or cease to be one. -/
theorem isSystemDirectory_of_eqvGen {directory other : String}
    (h : Relation.EqvGen Respelling directory.toList other.toList) :
    isSystemDirectory directory = isSystemDirectory other := by
  obtain ⟨hhead, hnames⟩ := frame_of_eqvGen h
  rw [Bool.eq_iff_iff, isSystemDirectory_iff, isSystemDirectory_iff]
  simp only [Spells, hhead, hnames]

namespace SearchPath

/-- A directory is left out of the search exactly if it is one of the system. -/
theorem searchable_cons_eq_iff (before after : List String) (directory : String) :
    searchable ⟨before ++ directory :: after⟩ = searchable ⟨before ++ after⟩ ↔
      isSystemDirectory directory = true := by
  simp only [searchable, List.filter_append, List.filter_cons, SearchPath.mk.injEq]
  cases isSystemDirectory directory <;> simp

/-- **How search paths are joined and searched.**  Texts with a colon between them list the
directories of both, and so do their searchable parts; directories that are not empty and have no
colon are listed as they are, in order and as often as they occur.  The searchable part of a path
has all its directories but the absolute ones that have the names of a directory of the system,
empty parts and single dots not counted; nothing changes when it is taken again.  Slashes and dots
that are put in or taken out behind the slash in front have no influence on whether a directory is
left out.  What a name stands for is looked for in the whole path, in directories of the system
too. -/
theorem parse_and_searchable :
    (∀ a b : String,
      (parse (a ++ ":" ++ b)).directories = (parse a).directories ++ (parse b).directories ∧
      (parse (a ++ ":" ++ b)).searchable.directories =
        (parse a).searchable.directories ++ (parse b).searchable.directories) ∧
    (∀ directories : List String,
      (∀ directory ∈ directories, directory ≠ "" ∧ ':' ∉ directory.toList) →
        (parse (":".intercalate directories)).directories = directories) ∧
    (∀ path : SearchPath,
      path.searchable.directories = path.directories.filter
        (fun directory => ∀ system ∈ systemDirectories, ¬Spells directory system) ∧
      path.searchable.searchable = path.searchable ∧
      ∀ (w : World) (name file : String),
        path.resolve w name = some file ↔ path.Finds w name file) ∧
    ∀ directory other : String, Relation.EqvGen Respelling directory.toList other.toList →
      ∀ before after : List String,
        searchable ⟨before ++ directory :: after⟩ = searchable ⟨before ++ after⟩ ↔
          searchable ⟨before ++ other :: after⟩ = searchable ⟨before ++ after⟩ := by
  refine ⟨fun a b => ⟨directories_parse_append a b, ?_⟩, fun _ => directories_parse_intercalate,
    fun path => ⟨?_, ?_, fun _ _ _ => resolve_eq_some_iff⟩,
    fun directory other h before after => ?_⟩
  · simp only [searchable, directories_parse_append, List.filter_append]
  · refine List.filter_congr fun directory _ => ?_
    have hsystem := isSystemDirectory_iff directory
    rw [Bool.eq_iff_iff, Bool.not_eq_true', ← Bool.not_eq_true, hsystem, decide_eq_true_iff]
    simp only [not_exists, not_and]
  · simp only [searchable, List.filter_filter, Bool.and_self]
  · rw [searchable_cons_eq_iff, searchable_cons_eq_iff, isSystemDirectory_of_eqvGen h]

/-- A world with one program, in a directory of the system. -/
private def withSystemTool : World where
  system :=
    { files := { entries := [([Bytes.ofString "usr"], .directory),
        ([Bytes.ofString "bin", Bytes.ofString "usr"], .directory),
        ([Bytes.ofString "x", Bytes.ofString "bin", Bytes.ofString "usr"], .program "x")] }
      opened := [] }
  process := {}

/-- A directory that occurs twice is listed twice.  One of the system is left out although it is
oddly spelled, but not one that is not absolute or leads back on its way; a command is found there
all the same. -/
theorem parse_and_searchable_oddSpelling :
    let path := parse (":".intercalate ["//usr/./bin/", "usr/bin", "/usr/x/../bin", "usr/bin"])
    path.directories = ["//usr/./bin/", "usr/bin", "/usr/x/../bin", "usr/bin"] ∧
      path.searchable.directories = ["usr/bin", "/usr/x/../bin", "usr/bin"] ∧
      ((⟨["//usr/./bin/"]⟩ : SearchPath).searchable = ⟨[]⟩ ↔
        (⟨["/usr/bin"]⟩ : SearchPath).searchable = ⟨[]⟩) ∧
      path.resolve withSystemTool "x" = some "//usr/./bin/x" := by
  intro path
  obtain ⟨-, hlisted, hpath, hrespelled⟩ := parse_and_searchable
  have hdirectories : path.directories = ["//usr/./bin/", "usr/bin", "/usr/x/../bin", "usr/bin"] :=
    hlisted _ (by decide)
  obtain ⟨hsearchable, -, hresolve⟩ := hpath path
  have hsteps : Relation.EqvGen Respelling "//usr/./bin/".toList "/usr/bin".toList :=
    (eqvGen_respelling_iff rfl).2 ⟨rfl, by decide⟩
  have hfile : withSystemTool.LeadsToExecutable (joinPath "//usr/./bin/" "x") :=
    (World.isExecutable_iff _ _).1 (by decide)
  have hbefore : ∀ earlier ∈ ([] : List String),
      ¬withSystemTool.LeadsToExecutable (joinPath earlier "x") :=
    fun _ hearlier => absurd hearlier List.not_mem_nil
  have hfinds : path.Finds withSystemTool "x" "//usr/./bin/x" :=
    .inDirectory (by decide) hdirectories hbefore hfile
  refine ⟨hdirectories, ?_, hrespelled _ _ hsteps [] [], (hresolve _ _ _).2 hfinds⟩
  rw [hsearchable, hdirectories]
  decide

end SearchPath

end LineShell
