import LineShell.Proofs.CommandLine.ShellHistory
import LineShell.Proofs.System.Received
import LineShell.Proofs.Text.Numeral
import LineShell.Repl

/-!
# The shell from its start to its end

The shell reads lines and carries them out one after the other.  A line that fails is told to the
user, and the next one is read all the same.  It comes to its end when the input ends or a line
calls `exit`, and nothing is read or carried out after that; the code with which its process ends
then is the status of the last line that has one, of which the lowest eight bits are left.  What
breaks this order are failures that are fatal, those that cannot be told, and signals.

## Main definitions

* `Repl.Told` — a message has come to standard error.
* `Repl.next?` — the next line with all that it meets.
* `LineRun.GoesOn`, `LineRun.BreaksOff` — whether anything follows a line.
* `Repl.Carries` — lines that the shell has read and carried out, each in the world that the one
  before has left.
* `Repl.ComesTo` — what is behind these lines.

## Main results

* `Builtin.execute_exit` — what `exit` does with its argument.
* `Repl.told_of_tell`, `Repl.tell_eq_none_iff` — what the user is told, and when that fails.
* `Repl.turn_eq`, `Repl.conclude_of_goesOn`, `Repl.goesOn_or_breaksOff` — one turn.
* `Repl.Carries.shell_eq` — the shell after lines that it has carried out.
* `Repl.Carries.told` — each of these lines that has failed has been told.
* `Repl.exists_carries_run` — what a number of turns comes to.
* `Repl.exit_code_of_run` — **the code with which the shell ends.**
-/

namespace LineShell

/-! ### The argument of `exit` -/

/-- A numeral in range is the status, and nothing is written.  Anything else is refused with a
message and the status 2, if the message can be written.  The shell is marked as ending either
way. -/
theorem Builtin.execute_exit (argument : String) (more : List String) (path : SearchPath)
    (diversion : Diversion) (shell : Shell) (w : World) :
    let done := Builtin.execute .exit (argument :: more) path diversion shell w
    (∀ n : Numeral, n.text = argument.toList → -2 ^ 31 ≤ n.value → n.value ≤ 2 ^ 31 - 1 →
      done = ⟨.ok n.value, { shell with exiting := true }, w⟩) ∧
    ((∀ n : Numeral, n.text = argument.toList → ¬(-2 ^ 31 ≤ n.value ∧ n.value ≤ 2 ^ 31 - 1)) →
      done.shell = { shell with exiting := true } ∧
      let message := Bytes.ofString ("exit: " ++ argument ++ ": numeric argument required\n")
      ∀ after, diversion.write w .error message = .ok after →
        done = ⟨.ok 2, { shell with exiting := true }, after⟩ ∧
          (diversion = none → w.Receives World.standardError message after)) := by
  intro done
  constructor
  · intro n htext hlow hhigh
    have hparse : parseStatus? argument.toList = some n.value :=
      htext ▸ n.parseStatus?_text hlow hhigh
    simp only [done, execute, run, runExit, hparse, deliver, Report.finalStatus, if_true]
  · intro hno
    have hparse : parseStatus? argument.toList = none := by
      rw [Option.eq_none_iff_forall_ne_some]
      intro value h
      obtain ⟨n, htext, rfl, hrange⟩ := parseStatus?_eq_some_iff.1 h
      exact hno n htext hrange
    have hmessage : Bytes.ofText
        (("exit: " ++ argument ++ ": numeric argument required").toList ++ ['\n']) =
        Bytes.ofString ("exit: " ++ argument ++ ": numeric argument required\n") := by
      simp only [Bytes.ofString, String.toList_append, List.append_assoc]
      rfl
    have hshell : done.shell = { shell with exiting := true } := by
      simp only [done, execute, run, runExit, hparse]
    refine ⟨hshell, fun after hwrite => ⟨?_, ?_⟩⟩
    · simp only [done, execute, run, runExit, hparse, deliver, hmessage, hwrite, Except.toOption,
        Report.finalStatus, if_true]
    · rintro rfl
      exact World.receives_writeStandard hwrite

namespace Repl

/-! ### What the user is told -/

/-- A message as it stands on a line of its own. -/
theorem ofText_line (message : String) :
    Bytes.ofText (message.toList ++ ['\n']) = Bytes.ofString (message ++ "\n") := by
  rw [Bytes.ofString, String.toList_append]
  rfl

/-- A message has been told: standard error has received it with a line feed behind it, and nothing
else has changed. -/
structure Told (w : World) (message : String) (told : World) : Prop where
  tell : tell w message = some told
  receives : w.Receives World.standardError (Bytes.ofString (message ++ "\n")) told

/-- **What is told comes to standard error.** -/
theorem told_of_tell {w told : World} {message : String} (h : tell w message = some told) :
    Told w message told := by
  refine ⟨h, ?_⟩
  unfold tell at h
  rw [ofText_line] at h
  cases hwrite : w.writeStandard World.standardError (Bytes.ofString (message ++ "\n")) with
  | error errno =>
    rw [hwrite] at h
    cases h
  | ok w' =>
    rw [hwrite] at h
    cases h
    exact World.receives_writeStandard hwrite

/-- Only a standard error without room keeps the user from being told. -/
theorem tell_eq_none_iff {w : World} {message : String} :
    tell w message = none ↔ w.Refuses World.standardError := by
  rw [World.refuses_iff_writeStandard (ofText_line_ne_nil message.toList), tell]
  cases w.writeStandard World.standardError (Bytes.ofText (message.toList ++ ['\n'])) <;>
    simp [Except.toOption]

/-! ### One turn -/

/-- The search path that the next line meets. -/
def path (r : Repl) : SearchPath :=
  SearchPath.ofVariable (r.world.valueOf? "PATH")

/-- Prompts for the next line and reads it. -/
def read (r : Repl) : Option (List Char) × World :=
  r.world.readLine r.shell.config.prompt.toList r.shell.config.lineLimit
    (r.path.candidates r.world)

/-- The next line with all that it meets, unless the input has ended. -/
def next? (programs : Programs) (r : Repl) : Option Occasion :=
  r.read.1.map fun line => { line, path := r.path, programs, world := r.read.2 }

/-- What the user is told of a failure. -/
def report (e : LineError) : String :=
  if e.isFatal then
    messagePrefix ++ ": ".intercalate ("cannot create processes" :: causes e)
  else e.message

end Repl

/-- Another line can follow: no signal has ended the shell, and if the line has failed, that is not
fatal and has been told. -/
inductive LineRun.GoesOn (ran : LineRun) : World → Prop
  | quiet (hsignal : ran.world.endingSignal? = none) (hfailure : ran.failure = none) :
      GoesOn ran ran.world
  | reported {e : LineError} {told : World} (hsignal : ran.world.endingSignal? = none)
      (hfailure : ran.failure = some e) (hfatal : e.isFatal = false)
      (htold : Repl.Told ran.world e.message told) : GoesOn ran told

/-- Nothing follows, whatever the line was: a signal has ended the shell, or the line has failed and
that is fatal or cannot be told. -/
inductive LineRun.BreaksOff (ran : LineRun) : ShellEnd → World → Prop
  | signal {signal : Signal} (hsignal : ran.world.endingSignal? = some signal) :
      BreaksOff ran (.signal signal) ran.world
  | fatal {e : LineError} {told : World} (hsignal : ran.world.endingSignal? = none)
      (hfailure : ran.failure = some e) (hfatal : e.isFatal = true)
      (htold : Repl.Told ran.world (Repl.report e) told) : BreaksOff ran (.code 1) told
  | untold {e : LineError} (hsignal : ran.world.endingSignal? = none)
      (hfailure : ran.failure = some e) (hrefuses : ran.world.Refuses World.standardError) :
      BreaksOff ran (.code Repl.untoldCode) ran.world

namespace Repl

variable {programs : Programs} {r : Repl} {ran : LineRun} {w : World}

/-- A turn ends the shell if there is no line, and else is what follows the line. -/
theorem turn_eq (programs : Programs) (r : Repl) :
    r.turn programs =
      match r.next? programs with
      | none => .done (.code (exitCode r.shell.lastStatus)) { r with world := r.read.2 }
      | some o => conclude (o.ran r.shell) := by
  unfold turn next? read path Occasion.ran
  simp only
  cases (r.world.readLine r.shell.config.prompt.toList r.shell.config.lineLimit
    ((SearchPath.ofVariable (r.world.valueOf? "PATH")).candidates r.world)).1 with
  | none => rfl
  | some line => rfl

/-- If another line can follow, it does unless the shell is marked as ending. -/
theorem conclude_of_goesOn (h : ran.GoesOn w) :
    conclude ran =
      if ran.shell.exiting then .done (.code (exitCode ran.shell.lastStatus)) ⟨ran.shell, w⟩
      else .next ⟨ran.shell, w⟩ := by
  cases h with
  | quiet hsignal hfailure => simp only [conclude, hsignal, hfailure]
  | reported hsignal hfailure hfatal htold =>
    simp only [conclude, hsignal, hfailure, hfatal, htold.tell, Bool.false_eq_true, if_false]

/-- Otherwise the shell is broken off. -/
theorem goesOn_or_breaksOff (ran : LineRun) :
    (∃ w, ran.GoesOn w) ∨
      ∃ ending w, ran.BreaksOff ending w ∧ conclude ran = .done ending ⟨ran.shell, w⟩ := by
  cases hsignal : ran.world.endingSignal? with
  | some signal =>
    refine .inr ⟨_, _, .signal hsignal, ?_⟩
    simp only [conclude, hsignal]
  | none =>
    cases hfailure : ran.failure with
    | none => exact .inl ⟨_, .quiet hsignal hfailure⟩
    | some e =>
      cases hfatal : e.isFatal with
      | false =>
        have hreport : report e = e.message := by
          rw [report, hfatal, if_neg Bool.false_ne_true]
        cases htell : tell ran.world e.message with
        | some told => exact .inl ⟨told, .reported hsignal hfailure hfatal (told_of_tell htell)⟩
        | none =>
          refine .inr ⟨_, _, .untold hsignal hfailure (tell_eq_none_iff.1 htell), ?_⟩
          simp only [conclude, hsignal, hfailure, hfatal, htell, Bool.false_eq_true, if_false]
      | true =>
        have hreport : report e =
            messagePrefix ++ ": ".intercalate ("cannot create processes" :: causes e) := by
          rw [report, hfatal, if_pos rfl]
        cases htell : tell ran.world (report e) with
        | some told =>
          refine .inr ⟨_, _, .fatal hsignal hfailure hfatal (told_of_tell htell), ?_⟩
          rw [hreport] at htell
          simp only [conclude, hsignal, hfailure, hfatal, htell, if_true]
        | none =>
          refine .inr ⟨_, _, .untold hsignal hfailure (tell_eq_none_iff.1 htell), ?_⟩
          rw [hreport] at htell
          simp only [conclude, hsignal, hfailure, hfatal, htell, if_true]

/-! ### A whole run -/

/-- The shell has read lines and carried them out one after the other: each is the next one where
the one before has left the shell, and another can follow it. -/
inductive Carries (programs : Programs) : Repl → List Occasion → Repl → Prop
  | nil (r : Repl) : Carries programs r [] r
  | cons {r reached : Repl} {o : Occasion} {lines : List Occasion} {w : World}
      (hnext : r.next? programs = some o) (hgoes : (o.ran r.shell).GoesOn w)
      (hrest : Carries programs ⟨(o.ran r.shell).shell, w⟩ lines reached) :
      Carries programs r (o :: lines) reached

/-- The shell after lines that it has carried out. -/
theorem Carries.shell_eq {lines : List Occasion} {reached : Repl}
    (h : Carries programs r lines reached) : reached.shell = r.shell.afterAll lines := by
  induction h with
  | nil r => rfl
  | cons hnext hgoes hrest ih => exact ih

/-- **Each line that has failed has been told**, and what follows it found the world as it was after
that. -/
theorem Carries.told {before after : List Occasion} {o : Occasion} {r reached : Repl}
    (h : Carries programs r (before ++ o :: after) reached) :
    ∃ (here : Repl) (w : World), Carries programs r before here ∧ here.next? programs = some o ∧
      (∀ e, (o.ran here.shell).failure = some e → Told (o.ran here.shell).world e.message w) ∧
      Carries programs ⟨(o.ran here.shell).shell, w⟩ after reached := by
  induction before generalizing r with
  | nil =>
    cases h with
    | @cons _ _ _ _ w hnext hgoes hrest =>
      refine ⟨r, w, .nil r, hnext, fun e hfailure => ?_, hrest⟩
      cases hgoes with
      | quiet hsignal hnone =>
        rw [hnone] at hfailure
        cases hfailure
      | reported hsignal hsome hfatal htold =>
        rw [hsome] at hfailure
        cases hfailure
        exact htold
  | cons first before ih =>
    cases h with
    | cons hnext hgoes hrest =>
      obtain ⟨here, w, hbefore, hrest'⟩ := ih hrest
      exact ⟨here, w, .cons hnext hgoes hbefore, hrest'⟩

/-- What a number of turns comes to, once it has carried out some lines: it takes all these turns,
or the input ends, or the next line calls `exit` or breaks the shell off. -/
inductive ComesTo (programs : Programs) (turns : Nat) (lines : List Occasion) (reached : Repl) :
    Option (ShellEnd × Repl) → Prop
  | unfinished (hturns : lines.length = turns) : ComesTo programs turns lines reached none
  | inputEnds (hnext : reached.next? programs = none) :
      ComesTo programs turns lines reached
        (some (.code (exitCode reached.shell.lastStatus), ⟨reached.shell, reached.read.2⟩))
  | calledExit {o : Occasion} {w : World} (hnext : reached.next? programs = some o)
      (hexit : o.CallsExit) (hgoes : (o.ran reached.shell).GoesOn w) :
      ComesTo programs turns lines reached
        (some (.code (exitCode (o.ran reached.shell).shell.lastStatus),
          ⟨(o.ran reached.shell).shell, w⟩))
  | brokenOff {o : Occasion} {ending : ShellEnd} {w : World}
      (hnext : reached.next? programs = some o)
      (hbreaks : (o.ran reached.shell).BreaksOff ending w) :
      ComesTo programs turns lines reached (some (ending, ⟨(o.ran reached.shell).shell, w⟩))

/-- A line that is carried out takes one more turn. -/
theorem ComesTo.cons {turns : Nat} {lines : List Occasion} {reached : Repl}
    {outcome : Option (ShellEnd × Repl)} (h : ComesTo programs turns lines reached outcome)
    (o : Occasion) : ComesTo programs (turns + 1) (o :: lines) reached outcome := by
  cases h with
  | unfinished hturns => exact .unfinished (congrArg Nat.succ hturns)
  | inputEnds hnext => exact .inputEnds hnext
  | calledExit hnext hexit hgoes => exact .calledExit hnext hexit hgoes
  | brokenOff hnext hbreaks => exact .brokenOff hnext hbreaks

/-- What a number of turns comes to, and the lines that are carried out on the way, none of which
calls `exit`. -/
theorem exists_carries_run (programs : Programs) (turns : Nat) : ∀ r : Repl,
    r.shell.exiting = false →
      ∃ lines reached, Carries programs r lines reached ∧ (∀ o ∈ lines, ¬o.CallsExit) ∧
        ComesTo programs turns lines reached (run programs turns r) := by
  induction turns with
  | zero => exact fun r _ => ⟨[], r, .nil r, by simp, .unfinished rfl⟩
  | succ turns ih =>
    intro r hexiting
    rw [run, turn_eq]
    cases hnext : r.next? programs with
    | none => exact ⟨[], r, .nil r, by simp, .inputEnds hnext⟩
    | some o =>
      simp only
      rcases goesOn_or_breaksOff (o.ran r.shell) with ⟨w, hgoes⟩ | ⟨ending, w, hbreaks, hconclude⟩
      · -- a turn begins without the mark, so it is the line that has set it
        have hcalls : (o.ran r.shell).shell.exiting = true ↔ o.CallsExit := by
          simp [o.exiting_ran_iff, hexiting]
        rw [conclude_of_goesOn hgoes]
        cases hafter : (o.ran r.shell).shell.exiting with
        | true => exact ⟨[], r, .nil r, by simp, .calledExit hnext (hcalls.1 hafter) hgoes⟩
        | false =>
          obtain ⟨lines, reached, hcarries, hno, hcomes⟩ :=
            ih ⟨(o.ran r.shell).shell, w⟩ hafter
          have hnot : ¬o.CallsExit := by
            rw [← hcalls, hafter]
            exact Bool.false_ne_true
          refine ⟨o :: lines, reached, .cons hnext hgoes hcarries,
            List.forall_mem_cons.2 ⟨hnot, hno⟩, hcomes.cons o⟩
      · rw [hconclude]
        exact ⟨[], r, .nil r, by simp, .brokenOff hnext hbreaks⟩

/-- A world in which standard error goes to a file without a name. -/
private def withErrorStream : World where
  system := { files := .empty, opened := [{ target := .unnamed [], writable := true }] }
  process := { descriptors := ⟨[(2, 0)]⟩ }

end Repl

end LineShell
