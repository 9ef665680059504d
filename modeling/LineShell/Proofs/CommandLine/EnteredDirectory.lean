import LineShell.Proofs.CommandLine.FailingStreams
import LineShell.Proofs.SearchPath.Candidates
import LineShell.Proofs.Text.ByteOrder

/-!
# Entering a directory

`cd` enters the directory that its first argument names, or the home directory, and says nothing; or
it does nothing and says why.  What comes of it depends on the path that is named and not on how it
is spelled, with a tilde or without, apart from the words that the message repeats.

## Main definitions

* `NamesTarget` — the path that words name for `cd`.
* `DirectoryRun` — a directory has been entered, or not.
* `Performance.effect` — what comes of a command apart from what is written.
* `Builtin.performCd` — `cd` with streams that do not fail.

## Main results

* `Builtin.cdTarget?_eq_some_iff`, `Builtin.cdTarget?_eq_none_iff` — which words name a path.
* `World.changeDirectory_eq_ok_iff` — which directories can be entered.
* `Builtin.effect_performCd` — what comes of `cd` depends on the path that is named.
* `Builtin.performCd_enters_or_refuses` — **`cd` enters a directory or does nothing, and its
  spellings agree.**
-/

namespace LineShell

/-! ### Tildes -/

/-- The path that words name for `cd`.  Only the first of them counts. -/
inductive NamesTarget (home : Option String) : List String → String → Prop
  /-- Without a word it is the home directory. -/
  | home {directory : String} (h : home = some directory) : NamesTarget home [] directory
  /-- So it is with a tilde. -/
  | tilde {directory : String} {rest : List String} (h : home = some directory) :
      NamesTarget home ("~" :: rest) directory
  /-- A path that begins with a tilde and a slash is one below the home directory. -/
  | below {directory path : String} {rest : List String} (h : home = some directory)
      (hpath : path.toList.head? = some '/') :
      NamesTarget home (("~" ++ path) :: rest) (directory ++ path)
  /-- Any other word is the path itself. -/
  | itself {word : String} {rest : List String} (hword : word ≠ "~")
      (hhome : home = none ∨ ∀ path : String, path.toList.head? = some '/' → word ≠ "~" ++ path) :
      NamesTarget home (word :: rest) word

/-- A text with a tilde in front is nothing but a tilde only if it is empty. -/
theorem tilde_append_eq_iff {path : String} : "~" ++ path = "~" ↔ path = "" := by
  rw [← String.toList_inj, String.toList_append, ← String.toList_inj]
  exact List.append_right_eq_self

/-- A tilde in front of a slash stands for the home directory. -/
theorem expandTilde_below (home : String) {path : String} (h : path.toList.head? = some '/') :
    expandTilde (some home) ("~" ++ path) = home ++ path := by
  obtain ⟨rest, hrest⟩ := List.head?_eq_some_iff.1 h
  have hword : ("~" ++ path).toList = '~' :: '/' :: rest := by
    rw [String.toList_append, hrest]
    rfl
  unfold expandTilde
  rw [hword]
  simp only
  rw [← hrest, String.ofList_toList]

/-- Every other word stays as it is. -/
theorem expandTilde_itself (home : Option String) {word : String} (hword : word ≠ "~")
    (h : ∀ path : String, path.toList.head? = some '/' → word ≠ "~" ++ path) :
    expandTilde home word = word := by
  unfold expandTilde
  split
  · next htilde =>
    exact absurd (String.toList_inj.1 htilde) hword
  · next rest _ hslash =>
    have hword' : word = "~" ++ String.ofList ('/' :: rest) := by
      simp [← String.toList_inj, hslash]
    exact absurd hword' (h _ (by simp))
  · rfl

namespace Builtin

/-- **The path that words name** is the one that is to be entered. -/
theorem cdTarget?_eq_some_iff {home : Option String} {arguments : List String} {target : String} :
    cdTarget? home arguments = some target ↔ NamesTarget home arguments target := by
  constructor
  · intro h
    cases arguments with
    | nil => exact .home h
    | cons word rest =>
      rw [cdTarget?] at h
      split at h
      · next hword =>
        rw [hword]
        exact .tilde h
      · next hword =>
        rw [Option.some.injEq] at h
        -- a path below the home directory is the path itself where there is no such directory
        by_cases hbelow : ∃ path : String, path.toList.head? = some '/' ∧ word = "~" ++ path
        · obtain ⟨path, hpath, rfl⟩ := hbelow
          cases home with
          | none =>
            rw [expandTilde_none] at h
            rw [← h]
            exact .itself hword (.inl rfl)
          | some directory =>
            rw [expandTilde_below directory hpath] at h
            rw [← h]
            exact .below rfl hpath
        · have hother : ∀ path : String, path.toList.head? = some '/' → word ≠ "~" ++ path :=
            fun path hpath heq => hbelow ⟨path, hpath, heq⟩
          rw [expandTilde_itself home hword hother] at h
          rw [← h]
          exact .itself hword (.inr hother)
  · intro h
    cases h with
    | home h => exact h
    | tilde h => exact h
    | @below directory path rest h hpath =>
      have hword : "~" ++ path ≠ "~" := by
        rw [ne_eq, tilde_append_eq_iff]
        rintro rfl
        cases hpath
      rw [cdTarget?, if_neg hword, h, expandTilde_below directory hpath]
    | itself hword hhome =>
      rw [cdTarget?, if_neg hword]
      rcases hhome with rfl | hother
      · rw [expandTilde_none]
      · rw [expandTilde_itself home hword hother]

/-- Words name no path if they name the home directory and it is not set. -/
theorem cdTarget?_eq_none_iff {home : Option String} {arguments : List String} :
    cdTarget? home arguments = none ↔
      home = none ∧ (arguments = [] ∨ arguments.head? = some "~") := by
  cases arguments with
  | nil => simp [cdTarget?]
  | cons word rest => by_cases hword : word = "~" <;> simp [cdTarget?, hword]

/-- Only the first word counts. -/
theorem cdTarget?_cons (home : Option String) (word : String) (rest : List String) :
    cdTarget? home (word :: rest) = cdTarget? home [word] := rfl

end Builtin

/-! ### Directories -/

/-- **A directory can be entered** if the path leads to one. -/
theorem World.changeDirectory_eq_ok_iff {w after : World} {target : String} :
    w.changeDirectory target = .ok after ↔
      ∃ directory, w.LeadsToDirectory target directory ∧ w.inDirectory directory = after := by
  rw [changeDirectory_eq]
  unfold withPath LeadsToDirectory hasNul
  cases target.toList.contains '\x00' with
  | true => simp [Except.map]
  | false =>
    simp only [Bool.false_eq_true, if_false, true_and]
    unfold System.enterDirectory
    cases hfind : w.system.files.find w.process.directory (Bytes.ofString target) with
    | error errno => simp [bind, Except.bind, Except.mapError, Except.map]
    | ok found =>
      obtain ⟨loc, node⟩ := found
      cases node <;> simp [bind, Except.bind, Except.mapError, Except.map]

/-! ### What comes of it -/

/-- One line has been written, and nothing else. -/
def Received.line (stream : OutputStream) (text : String) : Received :=
  Function.update (fun _ => []) stream (Bytes.ofText (text.toList ++ ['\n']))

/-- What comes of a command apart from what is written: its status, and what it leaves. -/
def Performance.effect (performance : Performance) : Int × Shell × World :=
  (performance.status, performance.shell, performance.world)

/-- A directory has been entered without a word, or nothing has been done and a message says why. -/
inductive DirectoryRun (shell : Shell) (w : World) (shown target : String) : Performance → Prop
  | entered {directory : Location} (h : w.LeadsToDirectory target directory) :
      DirectoryRun shell w shown target ⟨0, shell, w.inDirectory directory, fun _ => []⟩
  | refused {fault : Fault} (h : ∀ directory, ¬w.LeadsToDirectory target directory)
      (hfault : w.changeDirectory target = .error fault) :
      DirectoryRun shell w shown target
        ⟨1, shell, w, .line .error ("cd: " ++ shown ++ ": " ++ fault.reason)⟩

/-- A line for a stream is all that it receives. -/
theorem bytesOn_lineWrites_singleton (stream : OutputStream) (text : String) :
    (fun other => bytesOn other (lineWrites [(stream, text.toList)])) =
      Received.line stream text := by
  funext other
  rw [Received.line, lineWrites, List.map_singleton]
  by_cases hother : stream = other
  · subst hother
    rw [bytesOn_cons_self, Function.update_self]
    exact List.append_nil _
  · rw [bytesOn_cons_of_ne hother, Function.update_of_ne (Ne.symm hother)]
    rfl

/-- Of two lines on one stream the same is received only if they have the same text. -/
theorem Received.line_inj {stream : OutputStream} {text text' : String} :
    Received.line stream text = .line stream text' ↔ text = text' := by
  refine ⟨fun h => ?_, fun h => h ▸ rfl⟩
  have hbytes := congrFun h stream
  rw [line, line, Function.update_self, Function.update_self] at hbytes
  have hprefix : text.toList ++ ['\n'] <+: text'.toList ++ ['\n'] :=
    Bytes.ofText_prefix_ofText.1 (hbytes ▸ List.prefix_rfl)
  have hprefix' : text'.toList ++ ['\n'] <+: text.toList ++ ['\n'] :=
    Bytes.ofText_prefix_ofText.1 (hbytes ▸ List.prefix_rfl)
  have hlines := hprefix.eq_of_length_le hprefix'.length_le
  exact String.toList_inj.1 (List.append_cancel_right hlines)

/-- A message about a directory is not the one about the home directory: it has another colon. -/
theorem DirectoryRun.received_ne {shell : Shell} {w : World} {shown target : String}
    {ran : Performance} (h : DirectoryRun shell w shown target ran) :
    ran.received ≠ .line .error "cd: HOME not set" := by
  cases h with
  | entered h =>
    intro heq
    have hbytes := congrFun heq .error
    rw [Received.line, Function.update_self, eq_comm, Bytes.ofText_eq_nil_iff] at hbytes
    exact absurd hbytes (by simp)
  | @refused fault h hfault =>
    rw [ne_eq, Received.line_inj]
    intro heq
    -- whatever is shown and whatever the reason, there are two colons at least
    have hcount := congrArg (fun text => text.toList.count ':') heq
    simp at hcount

namespace Builtin

variable (path : SearchPath) (shell : Shell) (w : World) {arguments : List String}

/-- Carries out `cd` with streams that do not fail. -/
def performCd (arguments : List String) : Option Performance :=
  perform (fun _ => false) path ("cd" :: arguments) shell w

/-- What comes of `cd` is what it reports. -/
theorem performCd_eq (arguments : List String) :
    performCd path shell w arguments = some (runCd arguments shell w).performance := by
  have hname : ofName? "cd" = some .cd := rfl
  exact perform_healthy path shell w arguments hname

section Report

variable {path shell w} {target : String}

theorem runCd_of_eq_none (h : cdTarget? w.home arguments = none) :
    runCd arguments shell w = ⟨1, [(.error, "cd: HOME not set".toList)], shell, w⟩ := by
  rw [runCd, h]

theorem runCd_of_ok {after : World} (h : cdTarget? w.home arguments = some target)
    (henter : w.changeDirectory target = .ok after) :
    runCd arguments shell w = ⟨0, [], shell, after⟩ := by
  simp only [runCd, h, henter]

theorem runCd_of_error {fault : Fault} (h : cdTarget? w.home arguments = some target)
    (henter : w.changeDirectory target = .error fault) :
    runCd arguments shell w =
      ⟨1, [(.error, ("cd: " ++ arguments.head?.getD target ++ ": " ++ fault.reason).toList)],
        shell, w⟩ := by
  simp only [runCd, h, henter]

/-- A report of one line is heard as this line. -/
theorem performance_line (status : Int) (stream : OutputStream) (text : String) (shell : Shell)
    (w : World) :
    Report.performance ⟨status, [(stream, text.toList)], shell, w⟩ =
      ⟨status, shell, w, .line stream text⟩ := by
  rw [Report.performance, bytesOn_lineWrites_singleton]

variable (path shell) in
/-- Where a path is named, `cd` enters the directory or does nothing. -/
theorem exists_directoryRun (h : cdTarget? w.home arguments = some target) :
    ∃ ran, performCd path shell w arguments = some ran ∧
      DirectoryRun shell w (arguments.head?.getD target) target ran := by
  refine ⟨_, performCd_eq path shell w arguments, ?_⟩
  cases henter : w.changeDirectory target with
  | ok after =>
    obtain ⟨directory, hdirectory, rfl⟩ := World.changeDirectory_eq_ok_iff.1 henter
    rw [runCd_of_ok h henter]
    exact .entered hdirectory
  | error fault =>
    have hnot : ∀ directory, ¬w.LeadsToDirectory target directory := by
      intro directory hdirectory
      have hok := World.changeDirectory_eq_ok_iff.2 ⟨directory, hdirectory, rfl⟩
      rw [henter] at hok
      cases hok
    rw [runCd_of_error h henter, performance_line]
    exact .refused hnot henter

/-- What comes of `cd`, apart from its message, depends on the path that is named. -/
theorem effect_performCd {others : List String}
    (h : cdTarget? w.home arguments = cdTarget? w.home others) :
    (performCd path shell w arguments).map Performance.effect =
      (performCd path shell w others).map Performance.effect := by
  rw [performCd_eq, performCd_eq]
  cases htarget : cdTarget? w.home others with
  | none => rw [runCd_of_eq_none (h.trans htarget), runCd_of_eq_none htarget]
  | some target =>
    cases henter : w.changeDirectory target with
    | ok after => rw [runCd_of_ok (h.trans htarget) henter, runCd_of_ok htarget henter]
    | error fault =>
      rw [runCd_of_error (h.trans htarget) henter, runCd_of_error htarget henter]
      rfl

end Report

/-- A home directory under which there is something that looks like a path below the home directory
is one that is named `~`, unless it looks like such a path itself. -/
theorem home_eq_tilde {home path below : String} (hhome : ¬['~', '/'] <+: home.toList)
    (hpath : path = "" ∨ path.toList.head? = some '/') (hbelow : below.toList.head? = some '/')
    (heq : home ++ path = "~" ++ below) : home = "~" := by
  obtain ⟨rest, hrest⟩ := List.head?_eq_some_iff.1 hbelow
  have hlist : home.toList ++ path.toList = '~' :: '/' :: rest := by
    rw [← String.toList_append, heq, String.toList_append, hrest]
    rfl
  -- the tilde is not in the path, and a slash behind it would be the home directory's own
  cases hlead : home.toList with
  | nil =>
    rw [hlead, List.nil_append] at hlist
    rcases hpath with rfl | hpath
    · cases hlist
    · rw [hlist] at hpath
      cases hpath
  | cons c more =>
    rw [hlead, List.cons_append, List.cons.injEq] at hlist
    obtain ⟨rfl, hmore⟩ := hlist
    cases more with
    | nil => exact String.toList_inj.1 hlead
    | cons d more =>
      rw [List.cons_append, List.cons.injEq] at hmore
      obtain ⟨rfl, -⟩ := hmore
      rw [hlead] at hhome
      exact absurd ⟨more, rfl⟩ hhome

/-- A home directory can be written out, unless it looks like a path below the home directory. -/
theorem cdTarget?_writtenOut {home path : String} (hhome : ¬['~', '/'] <+: home.toList)
    (hpath : path = "" ∨ path.toList.head? = some '/') :
    cdTarget? (some home) [home ++ path] = some (home ++ path) := by
  by_cases hword : home ++ path = "~"
  · have hempty : path = "" := by
      rcases hpath with hempty | hslash
      · exact hempty
      · have hmem : '/' ∈ "~".toList := by
          rw [← hword, String.toList_append]
          exact List.mem_append_right _ (List.mem_of_head? hslash)
        exact absurd hmem (by decide)
    rw [cdTarget?, if_pos hword, hempty, String.append_empty]
  · rw [cdTarget?, if_neg hword, Option.some.injEq]
    by_cases hbelow : ∃ below : String, below.toList.head? = some '/' ∧ home ++ path = "~" ++ below
    · obtain ⟨below, hslash, heq⟩ := hbelow
      rw [heq, expandTilde_below home hslash, home_eq_tilde hhome hpath hslash heq]
    · have hother : ∀ below : String, below.toList.head? = some '/' →
          home ++ path ≠ "~" ++ below := fun below hslash heq => hbelow ⟨below, hslash, heq⟩
      exact expandTilde_itself _ hword hother

/-- **`cd` enters a directory or does nothing, and its spellings agree.**  Without a home directory
to enter (one that is no text counts as none) it says so, and only then; otherwise the path that its
first argument names is entered without a word, or nothing is done and a message repeats the
argument as it was typed.  Further arguments do not matter.  The home directory can be left out,
abbreviated by a tilde or written out, also in front of a path below it, unless it begins like such
a path itself.  Without a home directory what begins with a tilde is a path like any other. -/
theorem performCd_enters_or_refuses :
    (∀ arguments : List String,
      (performCd path shell w arguments = some ⟨1, shell, w, .line .error "cd: HOME not set"⟩ ↔
        w.home = none ∧ (arguments = [] ∨ arguments.head? = some "~")) ∧
      (performCd path shell w arguments = some ⟨1, shell, w, .line .error "cd: HOME not set"⟩ ∨
        ∃ target ran, NamesTarget w.home arguments target ∧
          performCd path shell w arguments = some ran ∧
          DirectoryRun shell w (arguments.head?.getD target) target ran)) ∧
    (∀ (word : String) (rest : List String),
      performCd path shell w (word :: rest) = performCd path shell w [word]) ∧
    (∀ home : String, w.home = some home → ¬['~', '/'] <+: home.toList →
      let effect := fun arguments => (performCd path shell w arguments).map Performance.effect
      effect [] = effect [home] ∧ effect ["~"] = effect [home] ∧
        ∀ below : String, below.toList.head? = some '/' →
          effect ["~" ++ below] = effect [home ++ below]) ∧
    (w.home = none → ∀ name : String, name ≠ "" →
      ∃ ran, performCd path shell w ["~" ++ name] = some ran ∧
        DirectoryRun shell w ("~" ++ name) ("~" ++ name) ran) := by
  refine ⟨fun arguments => ?_, fun word rest => ?_, fun home hhome hplain => ?_,
    fun hhome name hname => ?_⟩
  · rw [← cdTarget?_eq_none_iff]
    cases htarget : cdTarget? w.home arguments with
    | none =>
      have hmessage : performCd path shell w arguments =
          some ⟨1, shell, w, .line .error "cd: HOME not set"⟩ := by
        rw [performCd_eq, runCd_of_eq_none htarget, performance_line]
      exact ⟨iff_of_true hmessage rfl, .inl hmessage⟩
    | some target =>
      obtain ⟨ran, hran, hrun⟩ := exists_directoryRun path shell htarget
      refine ⟨iff_of_false (fun hmessage => ?_) (by simp),
        .inr ⟨target, ran, cdTarget?_eq_some_iff.1 htarget, hran, hrun⟩⟩
      rw [hran, Option.some.injEq] at hmessage
      exact hrun.received_ne (hmessage ▸ rfl)
  · rw [performCd_eq, performCd_eq, runCd, runCd, cdTarget?_cons]
    rfl
  · intro effect
    have hout : cdTarget? w.home [home] = some home := by
      have hempty := cdTarget?_writtenOut hplain (.inl rfl)
      rw [String.append_empty] at hempty
      rw [hhome, hempty]
    refine ⟨effect_performCd (hhome.trans hout.symm), effect_performCd (hhome.trans hout.symm),
      fun below hbelow => effect_performCd ?_⟩
    rw [hhome, cdTarget?_writtenOut hplain (.inr hbelow)]
    exact cdTarget?_eq_some_iff.2 (.below rfl hbelow)
  · have hword : "~" ++ name ≠ "~" := mt tilde_append_eq_iff.1 hname
    exact exists_directoryRun path shell (cdTarget?_eq_some_iff.2 (.itself hword (.inl hhome)))

/-- A world with a directory `/h` and one in it, which may be known as home. -/
private def withDirectories (environment : List (Bytes × Bytes)) : World where
  system :=
    { files := { entries := [([Bytes.ofString "h"], .directory),
        ([Bytes.ofString "x", Bytes.ofString "h"], .directory)] }
      opened := [] }
  process := { environment }

/-- With a home directory it can be left out, or abbreviated in front of a path; without one there
is no directory that is named like that. -/
theorem performCd_enters_or_refuses_tilde :
    let homed := withDirectories [(Bytes.ofString "HOME", Bytes.ofString "/h")]
    let cd := fun world arguments => performCd .empty {} world arguments
    (cd homed []).map Performance.effect = (cd homed ["/h"]).map Performance.effect ∧
      (cd homed ["~/x"]).map Performance.effect = (cd homed ["/h/x"]).map Performance.effect ∧
      (∃ ran, cd homed ["/h/x"] = some ran ∧ ran.status = 0) ∧
      ∃ ran, cd (withDirectories []) ["~/x"] = some ran ∧ ran.status = 1 := by
  intro homed cd
  obtain ⟨-, -, hagree, -⟩ := performCd_enters_or_refuses .empty {} homed
  obtain ⟨-, -, -, hbare⟩ := performCd_enters_or_refuses .empty {} (withDirectories [])
  have hvalue : Bytes.toString? (Bytes.ofString "/h") = some "/h" :=
    Bytes.toString?_eq_some_iff.2 rfl
  have hhome : homed.home = some "/h" := hvalue
  obtain ⟨hleft, -, hbelow⟩ := hagree "/h" hhome (by decide)
  obtain ⟨ran, hran, hrun⟩ := hbare rfl "/x" (by decide)
  refine ⟨hleft, hbelow "/x" (by decide), ⟨_, rfl, by decide⟩, ran, hran, ?_⟩
  cases hrun with
  | entered h => cases h.2
  | refused h hfault => rfl

end Builtin

end LineShell
