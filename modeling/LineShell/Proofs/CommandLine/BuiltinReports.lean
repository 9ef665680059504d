import LineShell.Proofs.CommandLine.RedirectedBuiltin

/-!
# What builtins report

A builtin is found by its name in a table.  It leaves the shell as it is, except that `exit` marks
it as ending, and it comes to an end with the status of its report, which is 0 or 1 unless the
builtin is `exit`, or with 1 if a line of the report could not be written.

## Main results

* `Builtin.ofName?_eq_some_iff` — the builtin of a name is the one that the table lists.
* `Builtin.shell_run`, `Builtin.status_run` — what a report says about the shell, and its status.
* `Builtin.exists_execute_eq` — how a builtin comes to its end.
* `deliver_of_takes` — **a report is written as a whole where the streams take what is written.**
-/

namespace LineShell

namespace Builtin

/-- The builtin of a name is the one that the table lists under it. -/
theorem ofName?_eq_some_iff {name : String} {builtin : Builtin} :
    ofName? name = some builtin ↔ (name, builtin) ∈ table := by
  constructor
  · intro h
    obtain ⟨before, after, heq, -⟩ := List.lookup_eq_some_iff.1 h
    rw [heq]
    exact List.mem_append_right _ List.mem_cons_self
  · intro h
    simp only [table, List.mem_cons, Prod.mk.injEq, List.not_mem_nil, or_false] at h
    rcases h with ⟨rfl, rfl⟩ | ⟨rfl, rfl⟩ | ⟨rfl, rfl⟩ | ⟨rfl, rfl⟩ | ⟨rfl, rfl⟩ <;> rfl

variable (arguments : List String) (path : SearchPath) (shell : Shell) (w : World)

/-- A builtin leaves the shell as it is, except that `exit` marks it as ending. -/
theorem shell_run (builtin : Builtin) :
    (builtin.run arguments path shell w).shell =
      if builtin = .exit then { shell with exiting := true } else shell := by
  cases builtin with
  | exit =>
    simp only [run, runExit, if_true]
    repeat' split
    all_goals rfl
  | cd =>
    simp only [run, runCd, reduceCtorEq, if_false]
    repeat' split
    all_goals rfl
  | pwd =>
    simp only [run, runPwd, reduceCtorEq, if_false]
    split <;> rfl
  | echo => rfl
  | type => rfl

/-- A builtin other than `exit` reports success or failure. -/
theorem status_run {builtin : Builtin} (h : builtin ≠ .exit) :
    (builtin.run arguments path shell w).status = 0 ∨
      (builtin.run arguments path shell w).status = 1 := by
  cases builtin with
  | cd =>
    simp only [run, runCd]
    repeat' split
    · exact .inr rfl
    · exact .inl rfl
    · exact .inr rfl
  | echo => exact .inl rfl
  | exit => exact absurd rfl h
  | pwd =>
    simp only [run, runPwd]
    split
    · exact .inl rfl
    · exact .inr rfl
  | type =>
    simp only [run, runType]
    split
    · exact .inl rfl
    · exact .inr rfl

/-- A builtin comes to its end with the status of its report, if all lines could be written. -/
theorem exists_execute_eq (builtin : Builtin) (diversion : Diversion) :
    ∃ delivered after, builtin.execute arguments path diversion shell w =
      ⟨.ok ((builtin.run arguments path shell w).finalStatus delivered),
        (builtin.run arguments path shell w).shell, after⟩ := by
  cases hdeliver : deliver diversion.send (builtin.run arguments path shell w).world
      (builtin.run arguments path shell w).lines with
  | mk after delivered => exact ⟨delivered, after, execute_eq path shell hdeliver⟩

end Builtin

/-- **A report is written as a whole** where the streams of its lines take what is written. -/
theorem deliver_of_takes (lines : List (OutputStream × List Char)) : ∀ {w : World},
    (∀ entry ∈ lines, w.Takes entry.1.descriptor) →
      ∃ after, deliver (Diversion.send none) w lines = (after, true) ∧
        w.writeAll (lines.map fun entry => (entry.1, Bytes.ofText (entry.2 ++ ['\n']))) =
          some after := by
  induction lines with
  | nil => exact fun _ => ⟨_, rfl, rfl⟩
  | cons entry lines ih =>
    intro w h
    obtain ⟨stream, line⟩ := entry
    obtain ⟨next, hwrite⟩ := World.exists_write_of_takes (h (stream, line) List.mem_cons_self)
      (ofText_line_ne_nil line)
    have hstandard := World.writeStandard_eq_ok hwrite
    have htakes : ∀ entry ∈ lines, next.Takes entry.1.descriptor := fun entry hentry =>
      ((World.sameOutlets_write hwrite).takes _).2 (h entry (List.mem_cons_of_mem _ hentry))
    obtain ⟨after, hdeliver, hall⟩ := ih htakes
    have hsend : Diversion.send none w stream (Bytes.ofText (line ++ ['\n'])) = some next :=
      congrArg Except.toOption hstandard
    refine ⟨after, ?_, ?_⟩
    · rw [deliver, hsend]
      exact hdeliver
    · exact (World.writeAll_cons hstandard _).trans hall

end LineShell
