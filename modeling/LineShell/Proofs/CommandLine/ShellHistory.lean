import LineShell.Proofs.CommandLine.BuiltinReports
import LineShell.Proofs.CommandLine.FailedLine
import Mathlib.Data.List.Induction

/-!
# What the shell remembers over a whole history

A shell is given lines one after the other.  Nothing is known about what happens meanwhile: each
line meets a search path, programs and a world of its own, which need have nothing to do with those
of the line before.  Of the shell itself little changes: its settings never do, the mark that it is
to end is set by a call of `exit` and stays, and up to then the last status is one that a process
can end with.

## Main definitions

* `Occasion`, `Occasion.ran` — a line with all that it meets, and what comes of it.
* `Occasion.CallsExit`, `Occasion.IsEmpty` — the lines that end the shell, and those without words.
* `Occasion.status?` — the status that a line has of its own.
* `Shell.afterAll`, `Shell.statuses` — the shell after a history, and the statuses of its lines.

## Main results

* `shell_commandRun` — **what a command does to the shell**, by the kinds of runs.
* `Occasion.shell_ran` — what a line does to it.
* `Shell.lastStatus_afterAll` — the last status is that of the last line which has one.
* `Shell.state_over_histories` — **the shell over a whole history.**
-/

namespace LineShell

/-! ### One command -/

/-- A status that a process can end with. -/
def IsProcessStatus (status : Int) : Prop :=
  0 ≤ status ∧ status ≤ 255

instance (status : Int) : Decidable (IsProcessStatus status) :=
  inferInstanceAs (Decidable (0 ≤ status ∧ status ≤ 255))

/-- A command calls `exit`: its redirection is complete and can be opened, and the first of the
words that remain is the name of the builtin. -/
def CallsExit (words : List String) (w : World) : Prop :=
  ∃ redirect arguments opening, takeRedirect words = .ok (redirect, "exit" :: arguments) ∧
    openTarget redirect w = .ok opening

theorem SpawnError.isProcessStatus_status (e : SpawnError) : IsProcessStatus e.status := by
  unfold status
  split
  · decide
  · split <;> decide

/-- Every error has a status that a process can end with. -/
theorem LineError.isProcessStatus_status (e : LineError) : IsProcessStatus e.status := by
  cases e with
  | quote e => exact (by decide : IsProcessStatus 2)
  | command e =>
    cases e with
    | notFound name => exact (by decide : IsProcessStatus 127)
    | missingTarget operator => exact (by decide : IsProcessStatus 2)
    | redirect target fault => exact (by decide : IsProcessStatus 1)
    | process e => exact e.isProcessStatus_status

/-- So has every builtin but `exit`, whether its lines could be written or not. -/
theorem Builtin.isProcessStatus_finalStatus {builtin : Builtin} (h : builtin ≠ .exit)
    (arguments : List String) (path : SearchPath) (shell : Shell) (w : World) (delivered : Bool) :
    IsProcessStatus ((builtin.run arguments path shell w).finalStatus delivered) := by
  unfold Report.finalStatus
  cases delivered with
  | false => exact (by decide : IsProcessStatus 1)
  | true =>
    rw [if_pos rfl]
    rcases Builtin.status_run arguments path shell w h with hstatus | hstatus
    · rw [hstatus]
      exact (by decide : IsProcessStatus 0)
    · rw [hstatus]
      exact (by decide : IsProcessStatus 1)

/-- And so has whatever has been waited for. -/
theorem World.isProcessStatus_wait {w : World} {id : Int} {status : Int}
    (h : (w.wait id).1 = .ok status) : IsProcessStatus status := by
  unfold wait at h
  split at h
  · simp only at h
    split at h
    · cases h
      exact (by decide : IsProcessStatus 0)
    · cases h
  · simp only at h
    split at h
    · next ending hending =>
      cases h
      exact ending.status_bounds
    · cases h

/-- What a command may do to the shell: it marks it as ending exactly if it calls `exit`; otherwise
it leaves it alone and has a status that a process can end with. -/
theorem shell_commandRun {programs : Programs} {path : SearchPath} {shell : Shell}
    {words : List String} {w : World} {done : Execution}
    (h : CommandRun programs path shell words w done) :
    (CallsExit words w ∧ done.shell = { shell with exiting := true } ∧
      ∃ status, done.result = .ok status) ∨
    (¬CallsExit words w ∧ done.shell = shell ∧
      ∀ status, done.result = .ok status → IsProcessStatus status) := by
  cases h with
  | missingTarget htake =>
    refine .inr ⟨?_, rfl, fun status hstatus => by cases hstatus⟩
    rintro ⟨redirect, arguments, opening, hexit, -⟩
    rw [htake] at hexit
    cases hexit
  | notOpened htake hopen =>
    refine .inr ⟨?_, rfl, fun status hstatus => by cases hstatus⟩
    rintro ⟨redirect, arguments, opening, hexit, hopens⟩
    rw [htake] at hexit
    cases hexit
    rw [hopen] at hopens
    cases hopens
  | empty htake hopen =>
    refine .inr ⟨?_, rfl, fun status hstatus => ?_⟩
    · rintro ⟨redirect, arguments, opening, hexit, -⟩
      rw [htake] at hexit
      cases hexit
    · cases hstatus
      exact (by decide : IsProcessStatus 0)
  | @builtin redirect name arguments diversion opened builtin done htake hopen hbuiltin hdone =>
    obtain ⟨delivered, after, hexecute⟩ :=
      Builtin.exists_execute_eq arguments path shell opened builtin diversion
    obtain rfl := hdone.symm.trans hexecute
    have hshell := Builtin.shell_run arguments path shell opened builtin
    by_cases hexit : builtin = .exit
    · subst hexit
      have hname : name = "exit" := by
        simpa [Builtin.table] using Builtin.ofName?_eq_some_iff.1 hbuiltin
      subst hname
      rw [if_pos rfl] at hshell
      exact .inl ⟨⟨redirect, arguments, _, htake, hopen⟩, hshell, _, rfl⟩
    · rw [if_neg hexit] at hshell
      refine .inr ⟨?_, hshell, fun status hstatus => ?_⟩
      · rintro ⟨redirect', arguments', opening, hcall, -⟩
        rw [htake] at hcall
        cases hcall
        exact hexit (Option.some.inj hbuiltin.symm)
      · cases hstatus
        exact Builtin.isProcessStatus_finalStatus hexit arguments path shell opened delivered
  | @called redirect name arguments diversion opened done htake hopen hbuiltin hrun =>
    have hno : ¬CallsExit words w := by
      rintro ⟨redirect', arguments', opening, hcall, -⟩
      rw [htake] at hcall
      cases hcall
      cases hbuiltin
    cases hrun with
    | notFound hnone => exact .inr ⟨hno, rfl, fun status hstatus => by cases hstatus⟩
    | nulByte hprogram hnul => exact .inr ⟨hno, rfl, fun status hstatus => by cases hstatus⟩
    | notStarted hprogram hnul hstart =>
      exact .inr ⟨hno, rfl, fun status hstatus => by cases hstatus⟩
    | @waited program id started hprogram hnul hstart =>
      refine .inr ⟨hno, rfl, fun status hstatus => ?_⟩
      cases hwait : (started.wait (id : Int)).1 with
      | error e =>
        simp only [hwait] at hstatus
        cases hstatus
      | ok waited =>
        simp only [hwait] at hstatus
        cases hstatus
        exact World.isProcessStatus_wait hwait

/-! ### One line -/

/-- A line, and all that it meets when the shell is given it. -/
structure Occasion where
  line : List Char
  path : SearchPath
  programs : Programs
  world : World

namespace Occasion

/-- What comes of the line. -/
def ran (o : Occasion) (shell : Shell) : LineRun :=
  shell.runLine o.programs o.path o.line o.world

/-- The line has no words. -/
def IsEmpty (o : Occasion) : Prop :=
  splitWords o.line = .ok []

/-- The line has words, and as a command they call `exit`. -/
def CallsExit (o : Occasion) : Prop :=
  ∃ words, splitWords o.line = .ok words ∧ LineShell.CallsExit words o.world

/-- The status of the line, unless it has no words: that of its error if it fails, and otherwise
that with which the command comes to its end. -/
def status? (o : Occasion) (shell : Shell) : Option Int :=
  match splitWords o.line with
  | .error e => some (LineError.quote e).status
  | .ok [] => none
  | .ok words =>
    match (execute o.programs o.path words shell o.world).result with
    | .ok status => some status
    | .error e => some e.status

variable {o : Occasion} {shell : Shell}

/-- A line without words does nothing at all. -/
theorem ran_of_isEmpty (h : o.IsEmpty) : o.ran shell = ⟨none, shell, o.world⟩ := by
  rw [IsEmpty] at h
  simp only [ran, Shell.runLine, h]

/-- A line that has words is a command, of which the shell remembers the status. -/
theorem ran_of_words (o : Occasion) (shell : Shell) {word : String} {words : List String}
    (h : splitWords o.line = .ok (word :: words)) :
    let done := execute o.programs o.path (word :: words) shell o.world
    (∀ status, done.result = .ok status →
      o.ran shell = ⟨none, done.shell.remember status, done.world⟩) ∧
    (∀ e, done.result = .error e →
      o.ran shell = ⟨some (.command e), done.shell.remember e.status, done.world⟩) := by
  intro done
  refine ⟨fun status hresult => ?_, fun e hresult => ?_⟩
  · simp only [done] at hresult
    simp only [ran, Shell.runLine, h, hresult, done]
  · simp only [done] at hresult
    simp only [ran, Shell.runLine, h, hresult, done]

/-- The shell remembers the status of the line, if it has one. -/
theorem lastStatus_ran (o : Occasion) (shell : Shell) :
    (o.ran shell).shell.lastStatus = (o.status? shell).getD shell.lastStatus := by
  unfold ran status? Shell.runLine
  cases splitWords o.line with
  | error e => rfl
  | ok words =>
    cases words with
    | nil => rfl
    | cons word words =>
      simp only
      cases (execute o.programs o.path (word :: words) shell o.world).result <;> rfl

/-- What a line does to the shell: a call of `exit` marks it as ending and does not fail; otherwise
only the last status can change, and only to one that a process can end with. -/
theorem shell_ran (o : Occasion) (shell : Shell) :
    (o.CallsExit ∧ (o.ran shell).failure = none ∧
      ∃ status, (o.ran shell).shell = { shell with lastStatus := status, exiting := true }) ∨
    (¬o.CallsExit ∧ ((o.ran shell).shell = shell ∨
      ∃ status, IsProcessStatus status ∧
        (o.ran shell).shell = { shell with lastStatus := status })) := by
  have hcalls {words : List String} (hsplit : splitWords o.line = .ok words) :
      o.CallsExit ↔ LineShell.CallsExit words o.world := by
    simp only [CallsExit, hsplit, Except.ok.injEq, exists_eq_left']
  cases hsplit : splitWords o.line with
  | error e =>
    refine .inr ⟨?_, .inr ⟨_, LineError.isProcessStatus_status (.quote e), ?_⟩⟩
    · rintro ⟨words, hwords, -⟩
      rw [hsplit] at hwords
      cases hwords
    · simp only [ran, Shell.runLine, hsplit]
      rfl
  | ok words =>
    rw [hcalls hsplit]
    cases words with
    | nil =>
      refine .inr ⟨?_, .inl ?_⟩
      · rintro ⟨redirect, arguments, opening, htake, -⟩
        cases htake
      · rw [ran_of_isEmpty hsplit]
    | cons word words =>
      obtain ⟨hok, herror⟩ := o.ran_of_words shell hsplit
      rcases shell_commandRun (commandRun o.programs o.path shell (word :: words) o.world) with
        ⟨hexit, hshell, status, hresult⟩ | ⟨hno, hshell, hstatus⟩
      · rw [hok status hresult, hshell]
        exact .inl ⟨hexit, rfl, status, rfl⟩
      · cases hresult : (execute o.programs o.path (word :: words) shell o.world).result with
        | ok status =>
          rw [hok status hresult, hshell]
          exact .inr ⟨hno, .inr ⟨status, hstatus status hresult, rfl⟩⟩
        | error e =>
          rw [herror e hresult, hshell]
          exact .inr ⟨hno, .inr ⟨_, LineError.isProcessStatus_status (.command e), rfl⟩⟩

/-- A line changes no setting. -/
theorem config_ran (o : Occasion) (shell : Shell) :
    (o.ran shell).shell.config = shell.config := by
  rcases o.shell_ran shell with ⟨-, -, status, h⟩ | ⟨-, h | ⟨status, -, h⟩⟩ <;> rw [h]

/-- The shell is marked as ending if it has been so before, or if the line calls `exit`. -/
theorem exiting_ran_iff (o : Occasion) (shell : Shell) :
    (o.ran shell).shell.exiting = true ↔ shell.exiting = true ∨ o.CallsExit := by
  rcases o.shell_ran shell with ⟨hexit, -, status, h⟩ | ⟨hno, h | ⟨status, -, h⟩⟩
  · simp [h, hexit]
  · simp [h, hno]
  · simp [h, hno]

end Occasion

/-! ### A history -/

namespace Shell

/-- The shell once it has been given lines one after the other. -/
def afterAll (shell : Shell) (history : List Occasion) : Shell :=
  history.foldl (fun shell o => (o.ran shell).shell) shell

/-- The statuses of the lines of a history that have one, in order. -/
def statuses : Shell → List Occasion → List Int
  | _, [] => []
  | shell, o :: history => (o.status? shell).toList ++ (o.ran shell).shell.statuses history

@[simp] theorem afterAll_nil (shell : Shell) : shell.afterAll [] = shell := rfl

@[simp] theorem afterAll_cons (shell : Shell) (o : Occasion) (history : List Occasion) :
    shell.afterAll (o :: history) = (o.ran shell).shell.afterAll history := rfl

theorem afterAll_concat (shell : Shell) (history : List Occasion) (o : Occasion) :
    shell.afterAll (history ++ [o]) = (o.ran (shell.afterAll history)).shell := by
  rw [afterAll, List.foldl_append]
  rfl

/-- The last status is that of the last line which has one. -/
theorem lastStatus_afterAll (history : List Occasion) : ∀ shell : Shell,
    (shell.afterAll history).lastStatus =
      (shell.statuses history).getLast?.getD shell.lastStatus := by
  induction history with
  | nil => exact fun _ => rfl
  | cons o history ih =>
    intro shell
    rw [afterAll_cons, ih, o.lastStatus_ran, statuses, List.getLast?_append]
    cases o.status? shell <;> cases ((o.ran shell).shell.statuses history).getLast? <;> rfl

/-- What holds of the shell at any time: it is marked as ending exactly if a line has called `exit`,
and as long as it is not, its last status is one that a process can end with. -/
structure Sound (config : Config) (history : List Occasion) (shell : Shell) : Prop where
  config : shell.config = config
  exiting : shell.exiting = true ↔ ∃ o ∈ history, o.CallsExit
  status : shell.exiting = false → IsProcessStatus shell.lastStatus

/-- A line keeps that. -/
theorem Sound.concat {config : Config} {history : List Occasion} {shell : Shell}
    (h : Sound config history shell) (o : Occasion) :
    Sound config (history ++ [o]) (o.ran shell).shell where
  config := (o.config_ran shell).trans h.config
  exiting := by
    rw [o.exiting_ran_iff, h.exiting]
    simp only [List.mem_append, List.mem_singleton]
    constructor
    · rintro (⟨earlier, hmem, hcalls⟩ | hcalls)
      · exact ⟨earlier, .inl hmem, hcalls⟩
      · exact ⟨o, .inr rfl, hcalls⟩
    · rintro ⟨other, hmem | rfl, hcalls⟩
      · exact .inl ⟨other, hmem, hcalls⟩
      · exact .inr hcalls
  status := by
    intro hexiting
    rcases o.shell_ran shell with ⟨-, -, status, hshell⟩ | ⟨-, hshell | ⟨status, hstatus, hshell⟩⟩
    · rw [hshell] at hexiting
      cases hexiting
    · rw [hshell] at hexiting ⊢
      exact h.status hexiting
    · rw [hshell]
      exact hstatus

/-- It holds after every history of a shell that was new. -/
theorem sound_afterAll (config : Config) (history : List Occasion) :
    Sound config history (afterAll { config } history) := by
  induction history using List.reverseRecOn with
  | nil =>
    refine ⟨rfl, ?_, fun _ => (by decide : IsProcessStatus 0)⟩
    simp
  | append_singleton history o ih =>
    rw [afterAll_concat]
    exact ih.concat o

/-- **The shell over a whole history.**  A new shell is given lines, whatever happens to the files
and whatever comes of the programs meanwhile.  Then its settings are those that it was made with,
and unless it is marked as ending, its last status is at least 0 and at most 255.  Whatever line
comes next, a mark that is there stays; one that is not there is set exactly by a line that has
words, whose redirection is complete and can be opened, and whose first remaining word is `exit`;
and a line without words changes nothing at all. -/
theorem state_over_histories (config : Config) (history : List Occasion) :
    let shell := afterAll { config } history
    shell.config = config ∧
    (shell.exiting = false → 0 ≤ shell.lastStatus ∧ shell.lastStatus ≤ 255) ∧
    ∀ o : Occasion,
      (shell.exiting = true → (o.ran shell).shell.exiting = true) ∧
      (shell.exiting = false → ((o.ran shell).shell.exiting = true ↔
        ∃ words redirect arguments opening, splitWords o.line = .ok words ∧
          takeRedirect words = .ok (redirect, "exit" :: arguments) ∧
          openTarget redirect o.world = .ok opening)) ∧
      (splitWords o.line = .ok [] → o.ran shell = ⟨none, shell, o.world⟩) := by
  intro shell
  have hsound : Sound config history shell := sound_afterAll config history
  refine ⟨hsound.config, hsound.status, fun o => ⟨fun hexiting => ?_, fun hexiting => ?_,
    Occasion.ran_of_isEmpty⟩⟩
  · exact (o.exiting_ran_iff shell).2 (.inl hexiting)
  · rw [o.exiting_ran_iff shell, hexiting]
    constructor
    · rintro (h | ⟨words, hsplit, redirect, arguments, opening, htake, hopen⟩)
      · cases h
      · exact ⟨words, redirect, arguments, opening, hsplit, htake, hopen⟩
    · rintro ⟨words, redirect, arguments, opening, hsplit, htake, hopen⟩
      exact .inr ⟨words, hsplit, redirect, arguments, opening, htake, hopen⟩

/-- A line that fails, with another one behind it: a command that does not exist leaves a status
that a process can end with, and a call of `exit` with any number sets the mark. -/
theorem state_behind_unknownCommand :
    let unknown : Occasion :=
      { line := "x".toList, path := ⟨["/b"]⟩, programs := fun _ _ => .error .noEntry,
        world := .bare }
    let leaving : Occasion := { unknown with line := "exit 300".toList }
    let shell := afterAll {} [unknown]
    shell.exiting = false ∧ (0 ≤ shell.lastStatus ∧ shell.lastStatus ≤ 255) ∧
      (leaving.ran shell).shell.exiting = true := by
  intro unknown leaving shell
  have hexiting : shell.exiting = false := by decide
  obtain ⟨-, hstatus, hnext⟩ := state_over_histories {} [unknown]
  refine ⟨hexiting, hstatus hexiting, ?_⟩
  have hcalls := ((hnext leaving).2.1 hexiting).2
  exact hcalls ⟨["exit", "300"], none, ["300"], (none, .bare), by decide, by rfl, rfl⟩

end Shell

end LineShell
