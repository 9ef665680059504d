import LineShell.CommandLine
import LineShell.Proofs.System.FaultReason

/-!
# What is said of errors

The error of a program becomes the error of a command, and that the error of a line.  On the way
nothing is added and nothing is lost: the status, the words, and whether the shell can go on are
those of the error inside.  A fault is told by its reason alone, and a name as it is, also if it
looks like the text of a fault.  What the user is told begins with the shell's name, unless a
command does not exist.

## Main definitions

* `Verdict` — what is known of an error of any kind.
* `SpawnError.Exhausted` — no process can be made any more.
* `LineError.TellsOf` — an error tells of a fault, and of what the fault befell.

## Main results

* `SpawnError.isFatal_eq_true_iff`, `CommandError.isFatal_eq_true_iff`,
  `LineError.isFatal_eq_true_iff` — which errors are fatal.
* `LineError.message_eq_text_iff`, `LineError.message_eq_prefixed_iff` — what the user is told.
* `LineError.text_of_tellsOf` — a name is told in full, and a fault by its reason.
* `LineError.text_and_severity` — **errors lose the number of the system and nothing else.**
-/

namespace LineShell

/-! ### Errors inside others -/

/-- What is known of an error of any kind: the status of a command that failed so, whether the shell
can go on, and what has gone wrong, in words. -/
structure Verdict where
  status : Int
  fatal : Bool
  text : String
  deriving DecidableEq, Repr

/-- The verdict on an error of starting a program. -/
def SpawnError.verdict (e : SpawnError) : Verdict :=
  ⟨e.status, e.isFatal, e.text⟩

/-- The verdict on an error of a command. -/
def CommandError.verdict (e : CommandError) : Verdict :=
  ⟨e.status, e.isFatal, e.text⟩

/-- The verdict on an error of a line. -/
def LineError.verdict (e : LineError) : Verdict :=
  ⟨e.status, e.isFatal, e.text⟩

theorem CommandError.verdict_process (e : SpawnError) : (process e).verdict = e.verdict := rfl

theorem LineError.verdict_command (e : CommandError) : (command e).verdict = e.verdict := rfl

/-! ### Fatal errors -/

/-- A program could not be started because the system has run out of something. -/
inductive SpawnError.Exhausted : SpawnError → Prop
  /-- There can be no more processes. -/
  | processes (command : String) : Exhausted (.start command (.os .tryAgain))
  /-- There is no memory left. -/
  | memory (command : String) : Exhausted (.start command (.os .noMemory))

namespace SpawnError

/-- Only an error of starting a program has a number, that of its fault. -/
theorem errno?_eq_some_iff {e : SpawnError} {errno : Errno} :
    e.errno? = some errno ↔ ∃ command, e = start command (.os errno) := by
  constructor
  · intro h
    cases e with
    | start command fault =>
      cases fault with
      | os number => exact ⟨command, by rw [Option.some.inj h]⟩
      | nulInPath => cases h
      | custom text => cases h
    | nulByte command => cases h
    | wait fault => cases h
  · rintro ⟨command, rfl⟩
    rfl

/-- The error of a program is fatal exactly if processes or memory have run out. -/
theorem isFatal_eq_true_iff {e : SpawnError} : e.isFatal = true ↔ e.Exhausted := by
  rw [isFatal, decide_eq_true_iff, errno?_eq_some_iff, errno?_eq_some_iff]
  constructor
  · rintro (⟨command, rfl⟩ | ⟨command, rfl⟩)
    · exact .processes command
    · exact .memory command
  · rintro (command | command)
    · exact .inl ⟨command, rfl⟩
    · exact .inr ⟨command, rfl⟩

/-- The status is neither that of a missing program then, nor that of one that may not be
executed. -/
theorem Exhausted.status_eq {e : SpawnError} (h : e.Exhausted) : e.status = 1 := by
  cases h <;> rfl

end SpawnError

namespace CommandError

/-- The error of a command is fatal exactly if it is that of a program, and that one is. -/
theorem isFatal_eq_true_iff {e : CommandError} :
    e.isFatal = true ↔ ∃ inner : SpawnError, e = process inner ∧ inner.Exhausted := by
  constructor
  · intro h
    cases e with
    | process inner => exact ⟨inner, rfl, SpawnError.isFatal_eq_true_iff.1 h⟩
    | notFound name => cases h
    | missingTarget operator => cases h
    | redirect target fault => cases h
  · rintro ⟨inner, rfl, hinner⟩
    exact SpawnError.isFatal_eq_true_iff.2 hinner

/-- A command that failed with a fatal error has status 1. -/
theorem status_of_isFatal {e : CommandError} (h : e.isFatal = true) : e.status = 1 := by
  obtain ⟨inner, rfl, hinner⟩ := isFatal_eq_true_iff.1 h
  exact hinner.status_eq

end CommandError

namespace LineError

/-- The error of a line is fatal exactly if it is that of a program, and that one is. -/
theorem isFatal_eq_true_iff {e : LineError} :
    e.isFatal = true ↔ ∃ inner : SpawnError, e = command (.process inner) ∧ inner.Exhausted := by
  constructor
  · intro h
    cases e with
    | quote e => cases h
    | command e =>
      obtain ⟨inner, rfl, hinner⟩ := CommandError.isFatal_eq_true_iff.1 h
      exact ⟨inner, rfl, hinner⟩
  · rintro ⟨inner, rfl, hinner⟩
    exact CommandError.isFatal_eq_true_iff.2 ⟨inner, rfl, hinner⟩

/-- A line that failed with a fatal error has status 1. -/
theorem status_of_isFatal {e : LineError} (h : e.isFatal = true) : e.status = 1 := by
  obtain ⟨inner, rfl, hinner⟩ := isFatal_eq_true_iff.1 h
  exact hinner.status_eq

/-! ### Texts and messages -/

/-- An error tells of a fault, behind the name of what the fault befell. -/
inductive TellsOf : LineError → String → Fault → Prop
  | start (name : String) (fault : Fault) :
      TellsOf (command (.process (.start name fault))) name fault
  | wait (fault : Fault) : TellsOf (command (.process (.wait fault))) "waitpid" fault
  | redirect (target : String) (fault : Fault) :
      TellsOf (command (.redirect target fault)) target fault

/-- A name is told in full, whatever it is, and of a fault its reason. -/
theorem text_of_tellsOf {e : LineError} {name : String} {fault : Fault} (h : e.TellsOf name fault) :
    e.text = name ++ ": " ++ fault.reason := by
  cases h <;> rfl

/-- A text with the shell's name in front is another text. -/
theorem messagePrefix_append_ne (text : String) : messagePrefix ++ text ≠ text := by
  intro h
  have hlength := congrArg String.length h
  rw [String.length_append] at hlength
  have hprefix : messagePrefix.length = 6 := rfl
  omega

/-- What the user is told of a command that does not exist, and of any other error. -/
theorem message_cases (e : LineError) :
    (∃ name, e = command (.notFound name)) ∧ e.message = e.text ∨
      (∀ name, e ≠ command (.notFound name)) ∧ e.message = messagePrefix ++ e.text := by
  cases e with
  | quote e => exact .inr ⟨nofun, rfl⟩
  | command e =>
    cases e with
    | notFound name => exact .inl ⟨⟨name, rfl⟩, rfl⟩
    | missingTarget operator => exact .inr ⟨nofun, rfl⟩
    | redirect target fault => exact .inr ⟨nofun, rfl⟩
    | process e => exact .inr ⟨nofun, rfl⟩

/-- The user is told the text alone exactly if a command does not exist. -/
theorem message_eq_text_iff {e : LineError} :
    e.message = e.text ↔ ∃ name, e = command (.notFound name) := by
  rcases e.message_cases with ⟨hname, hmessage⟩ | ⟨hother, hmessage⟩
  · exact iff_of_true hmessage hname
  · rw [hmessage]
    exact iff_of_false (messagePrefix_append_ne _) fun ⟨name, hname⟩ => hother name hname

/-- The shell names itself in front of the text exactly if it is about anything else. -/
theorem message_eq_prefixed_iff {e : LineError} :
    e.message = messagePrefix ++ e.text ↔ ∀ name, e ≠ command (.notFound name) := by
  rcases e.message_cases with ⟨⟨name, hname⟩, hmessage⟩ | ⟨hother, hmessage⟩
  · rw [hmessage]
    exact iff_of_false (messagePrefix_append_ne _).symm fun h => h name hname
  · exact iff_of_true hmessage hother

/-- **Errors lose the number of the system and nothing else.**  A number at the end of a fault's
text is taken off, whatever the text in front of it is, so that of a fault of the system its
description is left; a text without a marker is left as it is, and any other is cut at its last
marker.  An error inside another one keeps its status, its severity and its text, which tells a name
in full and of a fault the reason.  The user is told the shell's name and the text, or the text
alone if a command does not exist.  An error is fatal exactly if a program could not be started
because processes or memory have run out; the status is 1 then. -/
theorem text_and_severity :
    (∀ (fault : Fault) (text : String) (number : Int),
      fault.text = text ++ " (os error " ++ toString number ++ ")" → fault.reason = text) ∧
    (∀ errno : Errno, (Fault.os errno).reason = errno.describe) ∧
    (∀ fault : Fault,
      (¬" (os error ".toList <:+: fault.text.toList → fault.reason = fault.text) ∧
      (" (os error ".toList <:+: fault.text.toList →
        LastBehind " (os error ".toList fault.reason.toList fault.text.toList)) ∧
    (∀ e : SpawnError, (CommandError.process e).verdict = e.verdict ∧
      (command (.process e)).verdict = e.verdict ∧
      (e.isFatal = true ↔ e.Exhausted) ∧ (e.Exhausted → e.status = 1)) ∧
    (∀ e : CommandError, (command e).verdict = e.verdict ∧
      (e.isFatal = true ↔ ∃ inner : SpawnError, e = .process inner ∧ inner.Exhausted) ∧
      (e.isFatal = true → e.status = 1)) ∧
    ∀ e : LineError,
      (e.isFatal = true ↔ ∃ inner : SpawnError, e = command (.process inner) ∧ inner.Exhausted) ∧
      (e.isFatal = true → e.status = 1) ∧
      (e.message = e.text ↔ ∃ name, e = command (.notFound name)) ∧
      (e.message = "tish: " ++ e.text ↔ ∀ name, e ≠ command (.notFound name)) ∧
      ∀ (name : String) (fault : Fault), e.TellsOf name fault →
        e.text = name ++ ": " ++ fault.reason := by
  refine ⟨fun fault text number => Fault.reason_of_text_eq, Fault.reason_os,
    fun fault => ⟨withoutErrno_of_not_isInfix, lastBehind_withoutErrno⟩,
    fun e => ⟨CommandError.verdict_process e, ?_, SpawnError.isFatal_eq_true_iff,
      SpawnError.Exhausted.status_eq⟩,
    fun e => ⟨verdict_command e, CommandError.isFatal_eq_true_iff, CommandError.status_of_isFatal⟩,
    fun e => ⟨isFatal_eq_true_iff, status_of_isFatal, message_eq_text_iff, message_eq_prefixed_iff,
      fun name fault => text_of_tellsOf⟩⟩
  rw [verdict_command, CommandError.verdict_process]

/-- A fault that speaks of numbers itself loses the last one, and a name that looks like one is
kept.  That processes have run out is fatal for a line too. -/
theorem text_and_severity_nestedNumbers :
    let fault := Fault.custom "copy (os error 2) (os error -1)"
    let redirected := command (.redirect "a (os error 5)" fault)
    let inner := SpawnError.start "cat" (.os .tryAgain)
    let started := command (.process inner)
    fault.reason = "copy (os error 2)" ∧
      LastBehind " (os error ".toList fault.reason.toList fault.text.toList ∧
      Fault.nulInPath.reason = Fault.nulInPath.text ∧
      redirected.text = "a (os error 5): copy (os error 2)" ∧
      started.message = "tish: cat: Resource temporarily unavailable" ∧
      inner.status = 1 ∧ started.isFatal = true ∧ started.status = 1 := by
  intro fault redirected inner started
  obtain ⟨hnumbered, hdescribed, hcut, hprocess, -, hline⟩ := text_and_severity
  have hreason : fault.reason = "copy (os error 2)" := hnumbered fault _ (-1) rfl
  have hmarker : " (os error ".toList <:+: fault.text.toList :=
    ⟨"copy (os error 2)".toList, "-1)".toList, by decide⟩
  have hplain : ¬" (os error ".toList <:+: Fault.nulInPath.text.toList :=
    beforeLast?_eq_none_iff.1 (by decide)
  have htext : redirected.text = "a (os error 5): copy (os error 2)" := by
    obtain ⟨-, -, -, -, htells⟩ := hline redirected
    rw [htells _ _ (.redirect _ _), hreason]
    rfl
  have hexhausted : inner.Exhausted := .processes "cat"
  obtain ⟨-, -, -, hstatus⟩ := hprocess inner
  obtain ⟨hfatal, hone, -, hmessage, htells⟩ := hline started
  have hstarted : started.isFatal = true := hfatal.2 ⟨inner, rfl, hexhausted⟩
  refine ⟨hreason, (hcut _).2 hmarker, (hcut _).1 hplain, htext, ?_, hstatus hexhausted, hstarted,
    hone hstarted⟩
  have hother (name : String) : command (.process inner) ≠ command (.notFound name) := nofun
  rw [hmessage.2 hother, htells _ _ (.start _ _), hdescribed]
  rfl

end LineError

end LineShell
