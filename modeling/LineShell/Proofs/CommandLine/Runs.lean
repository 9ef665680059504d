import LineShell.CommandLine
import LineShell.Proofs.System.OpenTarget

/-!
# All that a command can do

A command is refused because of its redirection, or it is done by the shell itself, or it calls a
program; and a program that is called is not found, or refused, or not started, or waited for.

## Main definitions

* `openTarget` — opens the target of a redirection, if there is one.
* `ProgramRun`, `CommandRun` — all that calling a program, and carrying out a command, can do.

## Main results

* `SearchPath.resolve_of_hasNul` — a name with a NUL byte stands for no program.
* `programRun`, `commandRun` — **a program and a command do nothing else.**
-/

namespace LineShell

/-! ### The runs -/

/-- Opens the target of a redirection, if there is one. -/
def openTarget : Option Redirect → World → Except CommandError (Diversion × World)
  | none, w => .ok (none, w)
  | some redirect, w => redirect.open w

section Runs

variable (programs : Programs) (path : SearchPath) (shell : Shell)

/-- All that can come of calling a program by a name. -/
inductive ProgramRun (name : String) (arguments : List String) (diversion : Diversion)
    (w : World) : Execution → Prop
  | notFound (hnone : path.resolve w name = none) :
      ProgramRun name arguments diversion w ⟨.error (.notFound name), shell, w⟩
  | nulByte {program : String} (hprogram : path.resolve w name = some program)
      (hnul : arguments.any hasNul = true) :
      ProgramRun name arguments diversion w ⟨.error (.process (.nulByte name)), shell, w⟩
  | notStarted {program : String} {errno : Errno} (hprogram : path.resolve w name = some program)
      (hnul : arguments.any hasNul = false)
      (hstart : w.start programs program (name :: arguments) (diversion.replacement? .output)
        (diversion.replacement? .error) = .error errno) :
      ProgramRun name arguments diversion w
        ⟨.error (.process (.start name (.os errno))), shell, w⟩
  | waited {program : String} {id : Nat} {started : World}
      (hprogram : path.resolve w name = some program) (hnul : arguments.any hasNul = false)
      (hstart : w.start programs program (name :: arguments) (diversion.replacement? .output)
        (diversion.replacement? .error) = .ok (id, started)) :
      ProgramRun name arguments diversion w
        ⟨(started.wait id).1.mapError .process, shell, (started.wait id).2⟩

/-- All that can come of a command. -/
inductive CommandRun (words : List String) (w : World) : Execution → Prop
  | missingTarget {e : MissingTarget} (htake : takeRedirect words = .error e) :
      CommandRun words w ⟨.error (.missingTarget e.operator), shell, w⟩
  | notOpened {redirect : Option Redirect} {arguments : List String} {e : CommandError}
      (htake : takeRedirect words = .ok (redirect, arguments))
      (hopen : openTarget redirect w = .error e) :
      CommandRun words w ⟨.error e, shell, w⟩
  /-- There is nothing but a redirection, or nothing at all. -/
  | empty {redirect : Option Redirect} {diversion : Diversion} {opened : World}
      (htake : takeRedirect words = .ok (redirect, []))
      (hopen : openTarget redirect w = .ok (diversion, opened)) :
      CommandRun words w ⟨.ok 0, shell, diversion.close opened⟩
  | builtin {redirect : Option Redirect} {name : String} {arguments : List String}
      {diversion : Diversion} {opened : World} {builtin : Builtin} {done : Execution}
      (htake : takeRedirect words = .ok (redirect, name :: arguments))
      (hopen : openTarget redirect w = .ok (diversion, opened))
      (hbuiltin : Builtin.ofName? name = some builtin)
      (hdone : builtin.execute arguments path diversion shell opened = done) :
      CommandRun words w { done with world := diversion.close done.world }
  | called {redirect : Option Redirect} {name : String} {arguments : List String}
      {diversion : Diversion} {opened : World} {done : Execution}
      (htake : takeRedirect words = .ok (redirect, name :: arguments))
      (hopen : openTarget redirect w = .ok (diversion, opened))
      (hbuiltin : Builtin.ofName? name = none)
      (hrun : ProgramRun programs path shell name arguments diversion opened done) :
      CommandRun words w { done with world := diversion.close done.world }

end Runs

/-! ### NUL bytes -/

theorem hasNul_append (a b : String) : hasNul (a ++ b) = (hasNul a || hasNul b) := by
  simp [hasNul]

theorem hasNul_joinPath {directory name : String} (h : hasNul name = true) :
    hasNul (joinPath directory name) = true := by
  unfold joinPath
  split
  · rw [hasNul_append, h, Bool.or_true]
  · rw [hasNul_append, h, Bool.or_true]

/-- No path with a NUL byte leads to a file that may be executed. -/
theorem World.isExecutable_of_hasNul (w : World) {file : String} (h : hasNul file = true) :
    w.isExecutable file = false := by
  unfold hasNul at h
  simp only [isExecutable, withPath, h, if_true]

/-- A program that is found has no NUL byte in its path. -/
theorem SearchPath.hasNul_of_resolve {path : SearchPath} {w : World} {name program : String}
    (h : path.resolve w name = some program) : hasNul program = false := by
  have hexecutable : w.isExecutable program = true := by
    unfold resolve at h
    split at h
    · cases h
    split at h
    · split at h
      · cases h
        assumption
      · cases h
    · exact List.find?_some h
  rw [← Bool.not_eq_true]
  intro hnul
  rw [w.isExecutable_of_hasNul hnul] at hexecutable
  cases hexecutable

/-- A name with a NUL byte stands for no program. -/
theorem SearchPath.resolve_of_hasNul (path : SearchPath) (w : World) {name : String}
    (h : hasNul name = true) : path.resolve w name = none := by
  unfold resolve
  split
  · rfl
  split
  · rw [w.isExecutable_of_hasNul h]
    rfl
  · rw [List.find?_eq_none]
    intro file hfile
    obtain ⟨directory, -, rfl⟩ := List.mem_map.1 hfile
    rw [w.isExecutable_of_hasNul (hasNul_joinPath h)]
    exact Bool.false_ne_true

/-- The name of a program that is found has no NUL byte. -/
theorem SearchPath.hasNul_name_of_resolve {path : SearchPath} {w : World} {name program : String}
    (h : path.resolve w name = some program) : hasNul name = false := by
  rw [← Bool.not_eq_true]
  intro hnul
  rw [path.resolve_of_hasNul w hnul] at h
  cases h

/-! ### Nothing else can happen -/

section Runs

variable (programs : Programs) (path : SearchPath) (shell : Shell)

/-- **Calling a program does nothing else.** -/
theorem programRun (name : String) (arguments : List String) (diversion : Diversion) (w : World) :
    ProgramRun programs path shell name arguments diversion w
      (executeProgram programs path name arguments diversion shell w) := by
  unfold executeProgram
  cases hprogram : path.resolve w name with
  | none => exact .notFound hprogram
  | some program =>
    -- what is found has no NUL byte, so only the other arguments can be refused
    simp only [World.spawn, SearchPath.hasNul_of_resolve hprogram,
      SearchPath.hasNul_name_of_resolve hprogram, List.any_cons, Bool.false_or, List.head?_cons,
      Option.getD_some]
    cases hnul : arguments.any hasNul with
    | true => exact .nulByte hprogram hnul
    | false =>
      cases hstart : w.start programs program (name :: arguments) (diversion.replacement? .output)
        (diversion.replacement? .error) with
      | error errno => exact .notStarted hprogram hnul hstart
      | ok started => exact .waited hprogram hnul hstart

/-- A command whose redirection, if any, has been opened is carried out in the same way with it as
without it. -/
theorem execute_eq (words : List String) (w : World) :
    execute programs path words shell w =
      match takeRedirect words with
      | .error e => ⟨.error (.missingTarget e.operator), shell, w⟩
      | .ok (redirect, arguments) =>
        match openTarget redirect w with
        | .error e => ⟨.error e, shell, w⟩
        | .ok (diversion, opened) =>
          let done := executeArguments programs path arguments diversion shell opened
          { done with world := diversion.close done.world } := by
  unfold execute
  cases takeRedirect words with
  | error e => rfl
  | ok taken =>
    obtain ⟨redirect, arguments⟩ := taken
    cases redirect with
    | none => rfl
    | some redirect => rfl

/-- **Carrying out a command does nothing else.** -/
theorem commandRun (words : List String) (w : World) :
    CommandRun programs path shell words w (execute programs path words shell w) := by
  rw [execute_eq]
  cases htake : takeRedirect words with
  | error e => exact .missingTarget htake
  | ok taken =>
    obtain ⟨redirect, arguments⟩ := taken
    simp only
    cases hopen : openTarget redirect w with
    | error e => exact .notOpened htake hopen
    | ok opening =>
      obtain ⟨diversion, opened⟩ := opening
      simp only
      cases arguments with
      | nil => exact .empty htake hopen
      | cons name arguments =>
        simp only [executeArguments]
        cases hbuiltin : Builtin.ofName? name with
        | none => exact .called htake hopen hbuiltin (programRun ..)
        | some builtin => exact .builtin htake hopen hbuiltin rfl

end Runs

end LineShell
