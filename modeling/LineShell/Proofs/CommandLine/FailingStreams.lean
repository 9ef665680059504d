import LineShell.Proofs.CommandLine.BuiltinReports
import Mathlib.Data.List.TakeWhile
import Mathlib.Logic.Function.Basic

/-!
# Builtins whose output cannot be written

A builtin is carried out twice, with streams that take whatever is written to them and with streams
of which some fail at every write.  What it does is the same in both runs, and so is what a stream
receives that does not fail; the status is 1 if something could not be written.  The reason is that
a builtin has its lines ready when it starts to write, and that all of them are for one stream.

## Main definitions

* `Received`, `Received.send` — what the streams have received, and writing to one of them.
* `Performance`, `Builtin.perform` — a builtin carried out with streams of which some may fail.
* `Report.performance` — what comes of it if all of its lines are written.

## Main results

* `deliver_send` — which lines are written before one cannot be.
* `Builtin.exists_stream_run` — a report is for one stream.
* `Builtin.exists_execute_eq_perform` — with its own descriptors the shell does the same.
* `Builtin.perform_failing` — **a builtin that cannot write says so and does nothing else.**
-/

namespace LineShell

/-! ### Streams that may fail -/

/-- The bytes that each stream has received. -/
abbrev Received := OutputStream → Bytes

/-- Writes to a stream, unless that is one that fails. -/
def Received.send (fails : OutputStream → Bool) (received : Received) (stream : OutputStream)
    (data : Bytes) : Option Received :=
  if fails stream then none
  else some (Function.update received stream (received stream ++ data))

/-- The writes that lines stand for. -/
def lineWrites (lines : List (OutputStream × List Char)) : List (OutputStream × Bytes) :=
  lines.map fun entry => (entry.1, Bytes.ofText (entry.2 ++ ['\n']))

/-- Lines are written up to the first one for a stream that fails. -/
theorem deliver_send (fails : OutputStream → Bool) (lines : List (OutputStream × List Char)) :
    ∀ received : Received, deliver (Received.send fails) received lines =
      (fun stream => received stream ++
          bytesOn stream (lineWrites (lines.takeWhile fun entry => !fails entry.1)),
        lines.all fun entry => !fails entry.1) := by
  induction lines with
  | nil =>
    intro received
    simp [deliver, lineWrites]
  | cons entry lines ih =>
    intro received
    obtain ⟨stream, line⟩ := entry
    cases hfails : fails stream with
    | true => simp [deliver, Received.send, lineWrites, hfails]
    | false =>
      have hsend : Received.send fails received stream (Bytes.ofText (line ++ ['\n'])) =
          some (Function.update received stream
            (received stream ++ Bytes.ofText (line ++ ['\n']))) := by
        rw [Received.send, hfails]
        rfl
      simp only [deliver, hsend, ih, hfails, List.takeWhile_cons, List.all_cons, Bool.not_false,
        if_true, Bool.true_and, lineWrites, List.map_cons, Prod.mk.injEq, and_true]
      funext other
      by_cases hother : stream = other
      · subst hother
        rw [Function.update_self, bytesOn_cons_self, List.append_assoc]
      · rw [Function.update_of_ne (Ne.symm hother), bytesOn_cons_of_ne hother]

/-- Where lines are for one stream, the others receive nothing. -/
theorem bytesOn_lineWrites_of_ne {lines : List (OutputStream × List Char)} {stream : OutputStream}
    (h : ∀ entry ∈ lines, entry.1 = stream) {other : OutputStream} (hother : other ≠ stream) :
    bytesOn other (lineWrites lines) = [] := by
  have hnone : (lineWrites lines).filter (·.1 = other) = [] := by
    rw [List.filter_eq_nil_iff]
    intro write hwrite
    obtain ⟨entry, hentry, rfl⟩ := List.mem_map.1 hwrite
    simpa [h entry hentry] using Ne.symm hother
  rw [bytesOn, hnone, List.flatMap_nil]

/-- Every line has at least a line feed. -/
theorem bytesOn_lineWrites_eq_nil_iff {lines : List (OutputStream × List Char)}
    {stream : OutputStream} (h : ∀ entry ∈ lines, entry.1 = stream) :
    bytesOn stream (lineWrites lines) = [] ↔ lines = [] := by
  cases lines with
  | nil => simp [lineWrites]
  | cons entry lines =>
    obtain ⟨other, line⟩ := entry
    obtain rfl : other = stream := h _ List.mem_cons_self
    rw [lineWrites, List.map_cons, bytesOn_cons_self]
    refine iff_of_false (fun hnil => ?_) (List.cons_ne_nil _ _)
    exact ofText_line_ne_nil line (List.append_eq_nil_iff.1 hnil).1

/-! ### Builtins -/

/-- What comes of a builtin. -/
structure Performance where
  status : Int
  shell : Shell
  world : World
  /-- What has been written to each stream. -/
  received : Received

/-- What comes of a builtin all of whose lines are written. -/
def Report.performance (report : Report) : Performance :=
  ⟨report.status, report.shell, report.world,
    fun stream => bytesOn stream (lineWrites report.lines)⟩

namespace Builtin

/-- Carries out a command given by its words, if it calls a builtin, with streams of which some fail
whenever something is written to them. -/
def perform (fails : OutputStream → Bool) (path : SearchPath) (words : List String) (shell : Shell)
    (world : World) : Option Performance :=
  match words with
  | [] => none
  | name :: arguments =>
    (ofName? name).map fun builtin =>
      let report := builtin.run arguments path shell world
      let (received, delivered) := deliver (Received.send fails) (fun _ => []) report.lines
      ⟨report.finalStatus delivered, report.shell, report.world, received⟩

variable (path : SearchPath) (shell : Shell) (w : World) (arguments : List String)

/-- **A report is for one stream.** -/
theorem exists_stream_run (builtin : Builtin) :
    ∃ stream, ∀ entry ∈ (builtin.run arguments path shell w).lines, entry.1 = stream := by
  cases builtin with
  | cd =>
    refine ⟨.error, ?_⟩
    simp only [run, runCd]
    repeat' split
    all_goals simp
  | echo => exact ⟨.output, by simp [run]⟩
  | exit =>
    refine ⟨.error, ?_⟩
    simp only [run, runExit]
    repeat' split
    all_goals simp
  | pwd =>
    -- the stream is chosen by whether the directory has a path
    cases hpath : w.currentPath with
    | ok directory => exact ⟨.output, by simp [run, runPwd, hpath]⟩
    | error errno => exact ⟨.error, by simp [run, runPwd, hpath]⟩
  | type => exact ⟨.output, by simp [run, runType]⟩

variable {name : String} {builtin : Builtin}

/-- A builtin writes up to the first line for a stream that fails. -/
theorem perform_eq (hname : ofName? name = some builtin) (fails : OutputStream → Bool) :
    perform fails path (name :: arguments) shell w =
      let report := builtin.run arguments path shell w
      some ⟨report.finalStatus (report.lines.all fun entry => !fails entry.1), report.shell,
        report.world, fun stream =>
          bytesOn stream (lineWrites (report.lines.takeWhile fun entry => !fails entry.1))⟩ := by
  simp only [perform, hname, Option.map_some, deliver_send, List.nil_append]

section OneStream

variable {stream : OutputStream} (hname : ofName? name = some builtin)
  (hstream : ∀ entry ∈ (builtin.run arguments path shell w).lines, entry.1 = stream)
  {fails : OutputStream → Bool}

include hname hstream

/-- A builtin that has something to say on a stream that fails comes to an end with status 1 and has
written nothing. -/
theorem perform_of_lost (hfails : fails stream = true)
    (hlines : (builtin.run arguments path shell w).lines ≠ []) :
    perform fails path (name :: arguments) shell w =
      some ⟨1, (builtin.run arguments path shell w).shell,
        (builtin.run arguments path shell w).world, fun _ => []⟩ := by
  rw [perform_eq path shell w arguments hname]
  cases hreport : (builtin.run arguments path shell w).lines with
  | nil => exact absurd hreport hlines
  | cons entry lines =>
    -- the first line is lost, and with it all the others
    have hbad : fails entry.1 = true := by
      rw [hstream entry (hreport ▸ List.mem_cons_self)]
      exact hfails
    simp only [hreport, List.takeWhile_cons, List.all_cons, hbad, Bool.not_true, Bool.false_and,
      Bool.false_eq_true, if_false, Report.finalStatus, lineWrites, List.map_nil]
    rfl

/-- A builtin that has nothing to say on a stream that fails comes to an end as its report says and
has written all of it. -/
theorem perform_of_kept
    (hkept : fails stream = false ∨ (builtin.run arguments path shell w).lines = []) :
    perform fails path (name :: arguments) shell w =
      some (builtin.run arguments path shell w).performance := by
  have hgood : ∀ entry ∈ (builtin.run arguments path shell w).lines, !fails entry.1 := by
    intro entry hentry
    rcases hkept with hfails | hnil
    · rw [hstream entry hentry, hfails]
      rfl
    · rw [hnil] at hentry
      cases hentry
  rw [perform_eq path shell w arguments hname]
  simp only [List.takeWhile_eq_self_iff.2 hgood, List.all_eq_true.2 hgood, Report.finalStatus,
    Report.performance, if_true]

end OneStream

/-- With streams that do not fail a builtin does what its report says and writes all of it. -/
theorem perform_healthy (hname : ofName? name = some builtin) :
    perform (fun _ => false) path (name :: arguments) shell w =
      some (builtin.run arguments path shell w).performance := by
  obtain ⟨stream, hstream⟩ := exists_stream_run path shell w arguments builtin
  exact perform_of_kept path shell w arguments hname hstream (.inl rfl)

/-! ### The streams of the shell -/

/-- A builtin changes nothing outside the shell but the current directory. -/
theorem exists_world_run (builtin : Builtin) :
    ∃ directory, (builtin.run arguments path shell w).world = w.inDirectory directory := by
  cases builtin with
  | cd =>
    simp only [run, runCd, World.changeDirectory_eq]
    cases cdTarget? w.home arguments with
    | none => exact ⟨w.process.directory, rfl⟩
    | some target =>
      simp only
      cases withPath target (w.system.enterDirectory w.process.directory) with
      | error fault => exact ⟨w.process.directory, rfl⟩
      | ok directory => exact ⟨directory, rfl⟩
  | echo => exact ⟨w.process.directory, rfl⟩
  | exit =>
    refine ⟨w.process.directory, ?_⟩
    simp only [run, runExit]
    repeat' split
    all_goals rfl
  | pwd =>
    refine ⟨w.process.directory, ?_⟩
    simp only [run, runPwd]
    split <;> rfl
  | type => exact ⟨w.process.directory, rfl⟩

end Builtin

/-- Lines that are written to descriptors come as far as on streams that fail where what is written
is not taken. -/
theorem deliver_descriptors (diversion : Diversion) (fails : OutputStream → Bool)
    (lines : List (OutputStream × List Char)) : ∀ {w : World},
    (∀ stream, fails stream = false ↔ diversion.Takes w stream) →
      written diversion.send w lines =
          lineWrites (lines.takeWhile fun entry => !fails entry.1) ∧
        (deliver diversion.send w lines).2 = lines.all fun entry => !fails entry.1 := by
  induction lines with
  | nil => exact fun _ => ⟨rfl, rfl⟩
  | cons entry lines ih =>
    intro w hfails
    obtain ⟨stream, line⟩ := entry
    have hsend := (hfails stream).trans (Diversion.takes_iff_send (ofText_line_ne_nil line))
    cases hstream : fails stream with
    | true =>
      have hnone : diversion.send w stream (Bytes.ofText (line ++ ['\n'])) = none := by
        rw [Option.eq_none_iff_forall_ne_some]
        intro next hnext
        rw [hsend.2 ⟨next, hnext⟩] at hstream
        cases hstream
      simp only [written, deliver, hnone, List.takeWhile_cons, List.all_cons, hstream,
        Bool.not_true, Bool.false_eq_true, if_false, Bool.false_and]
      exact ⟨rfl, trivial⟩
    | false =>
      obtain ⟨next, hsome⟩ := hsend.1 hstream
      have hnext : ∀ other, fails other = false ↔ diversion.Takes next other := fun other =>
        (hfails other).trans
          (Diversion.takes_of_sameOutlets (Diversion.sameOutlets_send hsome) diversion other).symm
      obtain ⟨hwritten, hall⟩ := ih hnext
      simp only [written, deliver, hsome, List.takeWhile_cons, List.all_cons, hstream,
        Bool.not_false, if_true, Bool.true_and]
      exact ⟨congrArg (List.cons _) hwritten, hall⟩

namespace Builtin

variable (path : SearchPath) (shell : Shell) (w : World) (arguments : List String) {name : String}
  {builtin : Builtin}

/-- With its own streams, or a descriptor that one of them is diverted to, the shell does the same:
a stream fails if what is written to it is not taken. -/
theorem exists_execute_eq_perform (hname : ofName? name = some builtin) (diversion : Diversion)
    {fails : OutputStream → Bool}
    (hfails : ∀ stream, fails stream = false ↔ diversion.Takes w stream) :
    ∃ performance after,
      perform fails path (name :: arguments) shell w = some performance ∧
      builtin.execute arguments path diversion shell w =
        ⟨.ok performance.status, performance.shell, after⟩ ∧
      ∀ stream, bytesOn stream (builtin.writes arguments path diversion shell w) =
        performance.received stream := by
  obtain ⟨directory, hworld⟩ := exists_world_run path shell w arguments builtin
  have hthere : ∀ stream, fails stream = false ↔
      diversion.Takes (builtin.run arguments path shell w).world stream := by
    rw [hworld]
    exact hfails
  obtain ⟨hwritten, hall⟩ := deliver_descriptors diversion fails
    (builtin.run arguments path shell w).lines hthere
  cases hdeliver : deliver diversion.send (builtin.run arguments path shell w).world
      (builtin.run arguments path shell w).lines with
  | mk after delivered =>
    rw [hdeliver] at hall
    refine ⟨_, after, perform_eq path shell w arguments hname fails, ?_, fun stream => ?_⟩
    · rw [execute_eq path shell hdeliver, ← hall]
    · rw [writes, hwritten]

/-! ### Both runs -/

/-- **A builtin that cannot write says so and does nothing else.**  Whichever streams fail at every
write, a builtin is carried out as it is with streams that do not fail: it leaves the same shell and
the same world, with its current directory and its files, and a stream that does not fail receives
the same bytes.  If it has something to say on a stream that fails, the status is 1, and otherwise
it is the same too. -/
theorem perform_failing (fails : OutputStream → Bool) (hname : isBuiltin name = true) :
    ∃ healthy failing,
      perform (fun _ => false) path (name :: arguments) shell w = some healthy ∧
      perform fails path (name :: arguments) shell w = some failing ∧
      (∀ stream, fails stream = true → healthy.received stream ≠ [] → failing.status = 1) ∧
      ((∀ stream, fails stream = true → healthy.received stream = []) →
        failing.status = healthy.status) ∧
      failing.shell = healthy.shell ∧ failing.world = healthy.world ∧
      ∀ stream, fails stream = false → failing.received stream = healthy.received stream := by
  obtain ⟨builtin, hbuiltin⟩ := Option.isSome_iff_exists.1 hname
  obtain ⟨stream, hstream⟩ := exists_stream_run path shell w arguments builtin
  have hhealthy := perform_healthy path shell w arguments hbuiltin
  -- either there is something to say on a stream that fails, or nothing is lost
  by_cases hlost : fails stream = true ∧ (builtin.run arguments path shell w).lines ≠ []
  · have hfailing := perform_of_lost path shell w arguments hbuiltin hstream hlost.1 hlost.2
    refine ⟨_, _, hhealthy, hfailing, fun _ _ _ => rfl, fun hnothing => ?_, rfl, rfl, ?_⟩
    · have hnil := hnothing stream hlost.1
      exact absurd ((bytesOn_lineWrites_eq_nil_iff hstream).1 hnil) hlost.2
    · intro other hother
      have hne : other ≠ stream := by
        rintro rfl
        rw [hlost.1] at hother
        cases hother
      exact (bytesOn_lineWrites_of_ne hstream hne).symm
  · rw [not_and_or, Bool.not_eq_true, not_not] at hlost
    have hfailing := perform_of_kept path shell w arguments hbuiltin hstream hlost
    refine ⟨_, _, hhealthy, hfailing, ?_, fun _ => rfl, rfl, rfl, fun _ _ => rfl⟩
    intro other hother hsaid
    -- what is said is for the one stream of the report, which does not fail
    have hsame : other = stream := by
      by_contra hne
      exact hsaid (bytesOn_lineWrites_of_ne hstream hne)
    subst hsame
    rcases hlost with hfails | hnil
    · rw [hfails] at hother
      cases hother
    · exact absurd ((bytesOn_lineWrites_eq_nil_iff hstream).2 hnil) hsaid

/-- The shell ends although it cannot say what is wrong with the status that is asked for. -/
theorem perform_failing_exit :
    let perform := fun fails =>
      perform fails .empty ["exit", "x"] {} ⟨⟨.empty, [], []⟩, {}, {}, [], 2⟩
    ∃ healthy failing, perform (fun _ => false) = some healthy ∧
      perform (fun stream => stream = .error) = some failing ∧
      healthy.status = 2 ∧ failing.status = 1 ∧
      failing.shell.exiting = true ∧ failing.world = healthy.world := by
  intro perform
  have hname : isBuiltin "exit" = true := by decide
  obtain ⟨healthy, failing, hhealthy, hfailing, hlost, -, hshell, hworld, -⟩ :=
    perform_failing .empty {} ⟨⟨.empty, [], []⟩, {}, {}, [], 2⟩ ["x"]
      (fun stream => stream = .error) hname
  have hreport : healthy.status = 2 ∧ healthy.shell.exiting = true ∧
      healthy.received .error ≠ [] := by
    cases hhealthy
    decide
  exact ⟨healthy, failing, hhealthy, hfailing, hreport.1,
    hlost .error (by decide) hreport.2.2, hshell ▸ hreport.2.1, hworld⟩

end Builtin

end LineShell
