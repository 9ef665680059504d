import LineShell.Proofs.CommandLine.Runs

/-!
# The file that a name stands for

A name with a slash stands for the file to which it leads, and another one for the file in the first
directory that has it; in both cases the file is a regular one that may be executed.  Files of other
kinds, and those that may not be executed, are passed over, and a later directory may have the name.

## Main definitions

* `World.LeadsToExecutable` — a path leads to a regular file that may be executed.
* `SearchPath.Finds` — the file that a name stands for, said without a search.

## Main results

* `FileSystem.find_of_ending` — a path with a slash at its end leads to no file.
* `SearchPath.resolve_eq_some_iff` — **the search finds the file that the name stands for.**
* `SearchPath.slash_mem_of_finds` — there is a slash in the path of a file that is found.
-/

namespace LineShell

/-! ### Paths with a slash at their end -/

namespace FileSystem

variable {fs : FileSystem} {here : Location} {names : List Name} {place : Place}

/-- Where a route leads that can only mean a directory: to one, or to a name that is free. -/
def IsDirectoryPlace : Place → Prop
  | .entry _ node => node = .directory
  | .vacant _ _ => True

theorem isDirectoryPlace_of_advance : ∀ {here : Location},
    fs.advance .find true here names = .arrived place → IsDirectoryPlace place := by
  induction names with
  | nil =>
    intro here h
    cases h
    rfl
  | cons name rest ih =>
    intro here h
    rw [advance] at h
    split at h
    · exact ih h
    split at h
    · exact ih h
    split at h
    · cases h
    split at h
    · cases h
    split at h
    · split at h
      · cases h
        trivial
      · cases h
    · exact ih h
    · -- a link is not where the route ends, for it is followed
      split at h
      · next hlast => cases hlast.2
      · cases h
    · split at h
      · next hlast => exact absurd rfl hlast.2
      · cases h

theorem isDirectoryPlace_of_follow {links : Nat} {ending : Bool} (hending : ending = true)
    (h : fs.follow .find links ending here names = .ok place) : IsDirectoryPlace place := by
  fun_induction FileSystem.follow fs .find links ending here names with
  | case1 links ending here names arrival hreach =>
    cases h
    subst hending
    exact isDirectoryPlace_of_advance hreach
  | case2 => cases h
  | case3 => cases h
  | case4 => cases h
  | case5 ending here names directory target rest hreach links hempty route ih =>
    exact ih (by rw [hending, Bool.true_or, ite_self]) h

/-- A path with a slash at its end leads to no file. -/
theorem find_of_ending {path : Bytes} (hending : path.getLast? = some slash) {loc : Location}
    {node : Node} (h : fs.find here path = .ok (loc, node)) : node = .directory := by
  have hplace : fs.locate .find here path = .ok (.entry loc node) := by
    unfold find at h
    cases hlocate : fs.locate .find here path with
    | error errno =>
      rw [hlocate] at h
      cases h
    | ok place =>
      rw [hlocate] at h
      cases place with
      | entry found there =>
        cases h
        rfl
      | vacant directory name => cases h
  unfold locate at hplace
  split at hplace
  · cases hplace
  split at hplace
  · cases hplace
  · simp only [Route.ofPath, hending, decide_true] at hplace
    exact isDirectoryPlace_of_follow rfl hplace

end FileSystem

/-! ### Files that may be executed -/

/-- A path leads to a regular file that may be executed: to one with a permission for that, or to a
program of the system. -/
def World.LeadsToExecutable (w : World) (path : String) : Prop :=
  hasNul path = false ∧ ∃ loc node,
    w.system.files.find w.process.directory (Bytes.ofString path) = .ok (loc, node) ∧
      ((∃ permissions content, node = .file permissions content ∧ permissions &&& 0o111 ≠ 0) ∨
        ∃ program, node = .program program)

theorem Node.isExecutable_iff (node : Node) :
    node.isExecutable = true ↔
      (∃ permissions content, node = .file permissions content ∧ permissions &&& 0o111 ≠ 0) ∨
        ∃ program, node = .program program := by
  cases node <;> simp [isExecutable]

theorem World.isExecutable_iff (w : World) (path : String) :
    w.isExecutable path = true ↔ w.LeadsToExecutable path := by
  unfold isExecutable withPath LeadsToExecutable hasNul
  cases path.toList.contains '\x00' with
  | true => simp
  | false =>
    change w.system.isExecutable w.process.directory (Bytes.ofString path) = true ↔ _
    unfold System.isExecutable
    cases hfind : w.system.files.find w.process.directory (Bytes.ofString path) with
    | error errno => simp
    | ok found =>
      obtain ⟨loc, node⟩ := found
      simp only [Node.isExecutable_iff, Except.ok.injEq, Prod.mk.injEq, true_and]
      constructor
      · exact fun h => ⟨loc, node, ⟨rfl, rfl⟩, h⟩
      · rintro ⟨loc', node', ⟨rfl, rfl⟩, h⟩
        exact h

/-- The path of a directory leads to no file. -/
theorem World.not_leadsToExecutable_joinPath_empty (w : World) (directory : String) :
    ¬w.LeadsToExecutable (joinPath directory "") := by
  rintro ⟨-, loc, node, hfind, hnode⟩
  have hpath : joinPath directory "" = "" ∨
      (Bytes.ofString (joinPath directory "")).getLast? = some slash := by
    unfold joinPath
    split
    · next hdirectory =>
      rw [String.append_empty]
      rcases hdirectory with hlast | hempty
      · obtain ⟨before, hbefore⟩ := List.getLast?_eq_some_iff.1 hlast
        rw [Bytes.ofString, hbefore, Bytes.ofText_append]
        exact .inr List.getLast?_concat
      · exact .inl (String.isEmpty_iff.1 hempty)
    · rw [String.append_empty, Bytes.ofString, String.toList_append, Bytes.ofText_append]
      exact .inr List.getLast?_concat
  rcases hpath with hempty | hending
  · rw [hempty] at hfind
    cases hfind
  · rw [FileSystem.find_of_ending hending hfind] at hnode
    rcases hnode with ⟨_, _, h, -⟩ | ⟨_, h⟩ <;> cases h

/-! ### What a name stands for -/

namespace SearchPath

/-- The file that a name stands for.  A name with a slash stands for the file to which it leads;
another one for the file of this name in the first directory that has one. -/
inductive Finds (path : SearchPath) (w : World) (name : String) : String → Prop
  | itself (hslash : '/' ∈ name.toList) (hfile : w.LeadsToExecutable name) :
      Finds path w name name
  | inDirectory {before after : List String} {directory : String} (hslash : '/' ∉ name.toList)
      (hpath : path.directories = before ++ directory :: after)
      (hbefore : ∀ earlier ∈ before, ¬w.LeadsToExecutable (joinPath earlier name))
      (hfile : w.LeadsToExecutable (joinPath directory name)) :
      Finds path w name (joinPath directory name)

variable {path : SearchPath} {w : World} {name file : String}

/-- **The search finds the file that the name stands for**, and nothing if there is none. -/
theorem resolve_eq_some_iff : path.resolve w name = some file ↔ path.Finds w name file := by
  unfold resolve
  by_cases hempty : name = ""
  · -- no directory has a file without a name
    rw [if_pos (String.isEmpty_iff.2 hempty)]
    subst hempty
    constructor
    · exact fun h => nomatch h
    · rintro (⟨hslash, -⟩ | ⟨-, -, -, hfile⟩)
      · cases hslash
      · exact absurd hfile (w.not_leadsToExecutable_joinPath_empty _)
  rw [if_neg (mt String.isEmpty_iff.1 hempty)]
  by_cases hslash : '/' ∈ name.toList
  · rw [if_pos (List.contains_iff_mem.2 hslash)]
    constructor
    · intro h
      split at h
      · next hexecutable =>
        cases h
        exact .itself hslash ((w.isExecutable_iff name).1 hexecutable)
      · cases h
    · rintro (⟨-, hfile⟩ | ⟨hnone, -, -, -⟩)
      · rw [if_pos ((w.isExecutable_iff name).2 hfile)]
      · exact absurd hslash hnone
  · rw [if_neg (mt List.contains_iff_mem.1 hslash), List.find?_map]
    constructor
    · intro h
      obtain ⟨directory, hfound, rfl⟩ := Option.map_eq_some_iff.1 h
      obtain ⟨hfile, before, after, hpath, hbefore⟩ := List.find?_eq_some_iff_append.1 hfound
      refine .inDirectory hslash hpath (fun earlier hearlier h => ?_)
        ((w.isExecutable_iff _).1 hfile)
      have hnot := hbefore earlier hearlier
      rw [Function.comp_apply, (w.isExecutable_iff _).2 h] at hnot
      cases hnot
    · rintro (⟨hmem, -⟩ | ⟨-, hpath, hbefore, hfile⟩)
      · exact absurd hmem hslash
      · refine Option.map_eq_some_iff.2 ⟨_, List.find?_eq_some_iff_append.2
          ⟨(w.isExecutable_iff _).2 hfile, _, _, hpath, fun earlier hearlier => ?_⟩, rfl⟩
        rw [Bool.not_eq_true', ← Bool.not_eq_true, Function.comp_apply, w.isExecutable_iff]
        exact hbefore earlier hearlier

/-- There is a slash in the path of a file that is found, if no directory has an empty path. -/
theorem slash_mem_of_finds (hpath : "" ∉ path.directories) (h : path.Finds w name file) :
    '/' ∈ file.toList := by
  cases h with
  | itself hslash hfile => exact hslash
  | @inDirectory before after directory hslash hdirectories hbefore hfile =>
    unfold joinPath
    split
    · next hdirectory =>
      rcases hdirectory with hlast | hempty
      · rw [String.toList_append]
        exact List.mem_append_left _ (List.mem_of_getLast? hlast)
      · rw [String.isEmpty_iff.1 hempty] at hdirectories
        rw [hdirectories] at hpath
        exact absurd (List.mem_append_right _ List.mem_cons_self) hpath
    · rw [String.toList_append, String.toList_append]
      exact List.mem_append_left _ (List.mem_append_right _ (by decide))

/-- No directory that a text lists has an empty path. -/
theorem empty_not_mem_parse (text : String) : "" ∉ (parse text).directories := by
  intro hmem
  obtain ⟨directory, hdirectory, hempty⟩ := List.mem_map.1 hmem
  have hnonempty := (List.mem_filter.1 hdirectory).2
  rw [String.ofList_eq_empty_iff.1 hempty] at hnonempty
  cases hnonempty

end SearchPath

end LineShell
