import LineShell.Proofs.CommandLine.FirstFailure

/-!
# What a line that fails leaves behind

A line that fails before the target of its redirection is open leaves everything as it was.  One
that fails later has made the target ready for writing, and nothing else; and the programs have a
part in it only if one of them was to be started.

## Main definitions

* `Stage`, `LineError.stage` — how far a line has come when it fails.
* `World.Untouched` — a world in which at most the target of a redirection has changed.

## Main results

* `frame_commandRun` — what a command that fails leaves behind.
* `Shell.runLine_failure` — **a line fails with its first error, and changes only the target of its
  redirection.**
-/

namespace LineShell

/-! ### What is left behind -/

/-- How far a line has come when it fails. -/
inductive Stage
  /-- Nothing has been done. -/
  | reading
  /-- The target of the redirection is open, and the program is looked up. -/
  | calling
  /-- The program was to be started. -/
  | starting
  /-- The program has been started. -/
  | waiting
  deriving DecidableEq, Repr

/-- How far a line has come that fails so. -/
def LineError.stage : LineError → Stage
  | .quote _ => .reading
  | .command (.missingTarget _) => .reading
  | .command (.redirect _ _) => .reading
  | .command (.notFound _) => .calling
  | .command (.process (.nulByte _)) => .calling
  | .command (.process (.start _ _)) => .starting
  | .command (.process (.wait _)) => .waiting

/-- No error has the status of success. -/
theorem LineError.status_ne_zero (e : LineError) : e.status ≠ 0 := by
  cases e with
  | quote e => exact (by decide : (2 : Int) ≠ 0)
  | command e =>
    cases e with
    | notFound name => exact (by decide : (127 : Int) ≠ 0)
    | missingTarget operator => exact (by decide : (2 : Int) ≠ 0)
    | redirect target fault => exact (by decide : (1 : Int) ≠ 0)
    | process e =>
      simp only [status, CommandError.status, SpawnError.status]
      split
      · decide
      split <;> decide

/-- A world in which at most the target of a redirection has changed, if there is one. -/
def World.Untouched (w : World) : Option Redirect → World → Prop
  | none, w' => w' = w
  | some redirect, w' => w.OnlyTarget redirect.mode redirect.target w'

theorem untouched_close {redirect : Option Redirect} {w opened : World} {diversion : Diversion}
    (h : openTarget redirect w = .ok (diversion, opened)) :
    w.Untouched redirect (diversion.close opened) := by
  cases redirect with
  | none =>
    cases h
    rfl
  | some redirect =>
    simp only [openTarget, Redirect.open] at h
    split at h
    · next fd opened' hopen =>
      cases h
      exact World.onlyTarget_close hopen
    · cases h

theorem World.Untouched.process {redirect : Option Redirect} {w w' : World}
    (h : w.Untouched redirect w') : w'.process = w.process := by
  cases redirect with
  | none => exact congrArg World.process h
  | some redirect => exact OnlyTarget.process h

/-- Only an error of the redirection itself keeps its target from being opened. -/
theorem stage_of_openTarget {redirect : Option Redirect} {w : World} {e : CommandError}
    (h : openTarget redirect w = .error e) : (LineError.command e).stage = .reading := by
  cases redirect with
  | none => cases h
  | some redirect =>
    simp only [openTarget, Redirect.open] at h
    split at h
    · cases h
    · cases h
      rfl

theorem process_close_congr (diversion : Diversion) {w w' : World} (h : w'.process = w.process) :
    (diversion.close w').process = (diversion.close w).process := by
  cases diversion with
  | none => exact h
  | some diverted =>
    obtain ⟨stream, fd⟩ := diverted
    simp only [Diversion.close, World.close, h]

section Started

variable {programs : Programs} {w started : World} {program : String} {arguments : List String}
  {output error : Option Int} {id : Nat}

theorem process_start (h : w.start programs program arguments output error = .ok (id, started)) :
    started.process = w.process := by
  simp only [World.start, bind, Except.bind] at h
  split at h
  · cases h
  split at h
  · cases h
  · cases h
    rfl

theorem process_wait (id : Int) : (started.wait id).2.process = started.process := by
  unfold World.wait
  split
  · rfl
  · split <;> rfl

/-- Waiting for a program fails with an error of its own. -/
theorem exists_of_wait_eq_error {id : Int} {e : CommandError}
    (h : (started.wait id).1.mapError .process = .error e) :
    ∃ fault, e = .process (.wait fault) := by
  unfold World.wait at h
  split at h
  · simp only at h
    split at h <;> cases h
    exact ⟨_, rfl⟩
  · simp only at h
    split at h <;> cases h
    exact ⟨_, rfl⟩

end Started

/-- What a command that fails leaves behind. -/
theorem frame_commandRun {programs : Programs} {path : SearchPath} {shell : Shell}
    {words : List String} {w : World} {done : Execution} {e : CommandError}
    (h : CommandRun programs path shell words w done) (he : done.result = .error e) :
    let stage := (LineError.command e).stage
    done.shell = shell ∧ done.world.process = w.process ∧
      (stage = .reading → done.world = w) ∧
      (stage ≠ .reading → ∃ name arguments, programCall? words = some (name, arguments)) ∧
      (stage = .calling ∨ stage = .starting → w.Untouched (honoured words).1 done.world) := by
  cases h with
  | missingTarget htake =>
    cases he
    refine ⟨rfl, rfl, fun _ => rfl, fun h => absurd rfl h, fun h => ?_⟩
    rcases h with h | h <;> cases h
  | notOpened htake hopen =>
    cases he
    have hstage := stage_of_openTarget hopen
    refine ⟨rfl, rfl, fun _ => rfl, fun h => absurd hstage h, fun h => ?_⟩
    rw [hstage] at h
    rcases h with h | h <;> cases h
  | empty htake hopen => cases he
  | builtin htake hopen hbuiltin hdone =>
    subst hdone
    cases he
  | called htake hopen hbuiltin hrun =>
    have hcall := programCall?_of_program htake hbuiltin
    replace hopen := openTarget_honoured htake hopen
    have huntouched := untouched_close hopen
    cases hrun with
    | notFound hnone =>
      cases he
      refine ⟨rfl, huntouched.process, fun h => ?_, fun _ => ⟨_, _, hcall⟩, fun _ => huntouched⟩
      cases h
    | nulByte hprogram hnul =>
      cases he
      refine ⟨rfl, huntouched.process, fun h => ?_, fun _ => ⟨_, _, hcall⟩, fun _ => huntouched⟩
      cases h
    | notStarted hprogram hnul hstart =>
      cases he
      refine ⟨rfl, huntouched.process, fun h => ?_, fun _ => ⟨_, _, hcall⟩, fun _ => huntouched⟩
      cases h
    | @waited program id started hprogram hnul hstart =>
      -- the program may have changed anything but the process of the shell
      obtain ⟨fault, rfl⟩ := exists_of_wait_eq_error he
      have hprocess := (process_wait (id : Int)).trans (process_start hstart)
      refine ⟨rfl, ?_, fun h => ?_, fun _ => ⟨_, _, hcall⟩, fun h => ?_⟩
      · exact (process_close_congr _ hprocess).trans huntouched.process
      · cases h
      · rcases h with h | h <;> cases h

/-- The programs have no part in a failure before one of them is to be started. -/
theorem execute_congr {programs : Programs} {path : SearchPath} {shell : Shell}
    {words : List String} {w : World} {done : Execution} {e : CommandError}
    (h : CommandRun programs path shell words w done) (he : done.result = .error e)
    (hstage : (LineError.command e).stage = .reading ∨ (LineError.command e).stage = .calling)
    (programs' : Programs) : execute programs' path words shell w = done := by
  rw [execute_eq]
  cases h with
  | missingTarget htake => rw [htake]
  | notOpened htake hopen =>
    rw [htake]
    simp only [hopen]
  | empty htake hopen => cases he
  | builtin htake hopen hbuiltin hdone =>
    subst hdone
    cases he
  | called htake hopen hbuiltin hrun =>
    rw [htake]
    simp only [hopen, executeArguments, hbuiltin]
    -- where a program is to be started the stage is a later one
    cases hrun with
    | notFound hnone => simp only [executeProgram, hnone]
    | nulByte hprogram hnul =>
      simp only [executeProgram, hprogram, World.spawn, List.any_cons, hnul, Bool.or_true, if_true,
        List.head?_cons, Option.getD_some]
    | notStarted hprogram hnul hstart =>
      cases he
      rcases hstage with h | h <;> cases h
    | waited hprogram hnul hstart =>
      obtain ⟨fault, rfl⟩ := exists_of_wait_eq_error he
      rcases hstage with h | h <;> cases h

/-! ### The line -/

/-- **A line fails with its first error, and changes only what it is allowed to change.**  The shell
remembers the status of the error, which is never that of success, and nothing else; its process,
the current directory included, is as before, and no builtin has run.  Up to the opening of the
redirection nothing has happened.  Up to the start of a program at most the target of the
redirection has been made ready, and no process is made, whatever the programs are. -/
theorem Shell.runLine_failure (programs : Programs) (path : SearchPath) (line : List Char)
    (shell : Shell) (w : World) :
    let ran := shell.runLine programs path line w
    let words := lineWords line
    ran.failure = firstFailure programs path line w ∧
    ∀ e, ran.failure = some e →
      ran.shell = { shell with lastStatus := e.status } ∧ e.status ≠ 0 ∧
      ran.world.process = w.process ∧
      (e.stage = .reading → ran.world = w) ∧
      (e.stage ≠ .reading → ∃ name arguments, programCall? words = some (name, arguments)) ∧
      (e.stage = .calling ∨ e.stage = .starting → w.Untouched (honoured words).1 ran.world) ∧
      (e.stage = .reading ∨ e.stage = .calling →
        ∀ programs' : Programs, shell.runLine programs' path line w = ran) := by
  intro ran words
  cases hsplit : splitWords line with
  | error e =>
    have hran : ∀ programs' : Programs, shell.runLine programs' path line w =
        ⟨some (.quote e), shell.remember (LineError.quote e).status, w⟩ := by
      intro programs'
      rw [Shell.runLine, hsplit]
    have hfirst : firstFailure programs path line w = some (.quote e) := by
      rw [firstFailure, quoteFailure, hsplit]
      rfl
    have hthis : ran = _ := hran programs
    rw [hthis, hfirst]
    refine ⟨rfl, fun e' he' => ?_⟩
    cases he'
    refine ⟨rfl, LineError.status_ne_zero _, rfl, fun _ => rfl, fun h => absurd rfl h, fun h => ?_,
      fun _ programs' => hran programs'⟩
    rcases h with h | h <;> cases h
  | ok split =>
    have hwords : words = split := by simp only [words, lineWords, hsplit]
    have hfirst : firstFailure programs path line w =
        (execute programs path split shell w).failure? := firstFailure_of_splitWords hsplit shell
    rw [hfirst, hwords, Execution.failure?]
    cases split with
    | nil =>
      have hran : ran = ⟨none, shell, w⟩ := by simp only [ran, Shell.runLine, hsplit]
      rw [hran]
      refine ⟨rfl, fun e he => ?_⟩
      cases he
    | cons word split =>
      cases hresult : (execute programs path (word :: split) shell w).result with
      | ok status =>
        have hran : ran.failure = none := by simp only [ran, Shell.runLine, hsplit, hresult]
        rw [hran]
        refine ⟨rfl, fun e he => ?_⟩
        cases he
      | error e =>
        have hcommand := commandRun programs path shell (word :: split) w
        obtain ⟨hshell, hprocess, hreading, hcall, huntouched⟩ :=
          frame_commandRun hcommand hresult
        have hran : ran = ⟨some (.command e), shell.remember e.status,
            (execute programs path (word :: split) shell w).world⟩ := by
          simp only [ran, Shell.runLine, hsplit, hresult, hshell]
        rw [hran]
        refine ⟨rfl, fun e' he' => ?_⟩
        cases he'
        refine ⟨rfl, LineError.status_ne_zero _, hprocess, hreading, hcall, huntouched, ?_⟩
        intro hstage programs'
        have hsame := execute_congr hcommand hresult hstage programs'
        simp only [Shell.runLine, hsplit, hsame, hresult, hshell]

/-- A world in which there is only the root. -/
def World.bare : World where
  system := { files := .empty, opened := [] }
  process := {}

/-- A command that does not exist fails although its output goes to a new file, which is made. -/
theorem runLine_unknownCommand :
    let ran := ({} : Shell).runLine (fun _ _ => .error .noEntry) ⟨["/b"]⟩ "x > o".toList .bare
    ran.failure = some (.command (.notFound "x")) ∧ ran.shell = { lastStatus := 127 } ∧
      World.bare.OnlyTarget .truncate "o" ran.world := by
  intro ran
  have hfailure : ran.failure = some (.command (.notFound "x")) := by decide
  have hhonoured : (honoured (lineWords "x > o".toList)).1 = some ⟨.output, .truncate, "o"⟩ := by
    decide
  obtain ⟨-, hframe⟩ := Shell.runLine_failure (fun _ _ => .error .noEntry) ⟨["/b"]⟩
    "x > o".toList {} .bare
  obtain ⟨hshell, -, -, -, -, huntouched, -⟩ := hframe _ hfailure
  have htarget := huntouched (.inl rfl)
  rw [hhonoured] at htarget
  exact ⟨hfailure, hshell, htarget⟩

end LineShell
