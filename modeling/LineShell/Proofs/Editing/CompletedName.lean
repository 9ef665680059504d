import LineShell.Proofs.Editing.SettledTab
import LineShell.Proofs.Words.Unquoted

/-!
# A name that is completed and submitted

The Tab key puts the name of the one candidate into the line as it is, with a space behind it, and
the line is cut into words when it is submitted.  The name comes out again unless there are
characters in it that mean something on a command line.

## Main definitions

* `Session.Completes` — the Tab key puts in the one candidate of a search path.

## Main results

* `SearchPath.ne_empty_of_candidates` — a candidate is not the empty name.
* `Session.submit_completed` — **when a completed name is the one word of the line.**
-/

namespace LineShell

/-- No candidate is empty, as every entry of a file system has a name. -/
theorem SearchPath.ne_empty_of_candidates {path : SearchPath} {w : World} {text name : String}
    {names : List String} (h : path.candidates w text = .ok names) (hname : name ∈ names) :
    name ≠ "" := by
  rintro rfl
  obtain ⟨⟨directory, -, loc, -, hentry⟩, -⟩ := (mem_candidates_iff h).1 hname
  obtain ⟨node, hnode⟩ := Option.ne_none_iff_exists'.1 hentry
  exact FileSystem.isNamed_of_node? hnode (List.cons_ne_nil _ _) rfl

namespace Session

/-- The Tab key puts in a name that is the one candidate of a search path: the line is none of the
abbreviations, and there is room for the name and a space. -/
structure Completes (s : Session) (path : SearchPath) (w : World) (name : String) : Prop where
  unabbreviated : abbreviations.lookup (String.ofList s.buffer) = none
  offered : complete (path.candidates w) (String.ofList s.buffer) = .ok (.unique name)
  fits : name.toList.length + 1 ≤ s.limit

variable {s : Session} {path : SearchPath} {w : World} {name : String}

/-- The name is the one candidate. -/
theorem Completes.candidates_eq (h : s.Completes path w name) :
    path.candidates w (String.ofList s.buffer) = .ok [name] := by
  have hoffered := h.offered
  rw [complete, h.unabbreviated] at hoffered
  cases hnames : path.candidates w (String.ofList s.buffer) with
  | error e =>
    rw [hnames] at hoffered
    cases hoffered
  | ok names =>
    rw [hnames] at hoffered
    rw [Completion.ofCandidates_eq_unique_iff.1 (Except.ok.inj hoffered)]

/-- The line is then the name and a space. -/
theorem Completes.buffer_press (h : s.Completes path w name) :
    (s.press (path.candidates w) .tab).session.buffer = name.toList ++ [' '] := by
  rw [press_tab_of_unique h.offered h.fits]

/-- **A completed name is the one word of the line exactly if it has no blanks, quotes and
backslashes.**  Whatever the line was, and whatever room there is for it: if the Tab key puts in the
one candidate of a search path, the Enter key submits the name with a space behind it, and its words
are that name alone if there is nothing to quote in it, and something else or an error if there
is. -/
theorem submit_completed (s : Session) (path : SearchPath) (w : World) (name : String)
    (source : CandidateSource) (h : s.Completes path w name) :
    ∃ line, ((s.press (path.candidates w) .tab).session.press source .enter).step = .line line ∧
      line = name.toList ++ [' '] ∧
      (splitWords line = .ok [name] ↔
        ∀ c ∈ name.toList, isBlank c = false ∧ c ≠ '\'' ∧ c ≠ '"' ∧ c ≠ '\\') := by
  refine ⟨name.toList ++ [' '], ?_, rfl, splitWords_concat_blank_iff ?_⟩
  · rw [← h.buffer_press]
    simp [press, submit]
  · exact SearchPath.ne_empty_of_candidates h.candidates_eq List.mem_cons_self

/-- A directory with two entries, one of them with a space in its name. -/
private def spacedName : World where
  system :=
    { files := { entries := [([Bytes.ofString "t"], .directory),
        ([Bytes.ofString "a b", Bytes.ofString "t"], .file 0o755 []),
        ([Bytes.ofString "c", Bytes.ofString "t"], .file 0o755 [])] }
      opened := [] }
  process := {}

/-- The name with a space is completed and does not come out again. -/
theorem submit_completed_spacedName :
    let s : Session := { prompt := ['$', ' '], limit := 20, buffer := ['a'] }
    let path : SearchPath := ⟨["/bin", "/t"]⟩
    s.Completes path spacedName "a b" ∧
      ((s.press (path.candidates spacedName) .tab).session.press (fixedNames []) .enter).step =
        .line "a b ".toList ∧
      splitWords "a b ".toList ≠ .ok ["a b"] := by
  intro s path
  have hcompletes : s.Completes path spacedName "a b" := ⟨by decide, by decide +kernel, by decide⟩
  obtain ⟨line, hstep, hline, hwords⟩ :=
    submit_completed s path spacedName "a b" (fixedNames []) hcompletes
  have hspelling : line = "a b ".toList := by rw [hline]; decide
  rw [hspelling] at hstep hwords
  refine ⟨hcompletes, hstep, fun hok => ?_⟩
  exact absurd ((hwords.1 hok) ' ' (by decide)).1 (by decide)

end Session

end LineShell
