import LineShell.Proofs.CommandLine.Runs

/-!
# The first failure of a line

A line can fail in seven ways.  Each of them is a check that can be made on its own, most of them
before anything is done; the line fails with the error of the first check that fails.

## Main definitions

* `honoured`, `programCall?` — the redirection of a command, and the program it calls.
* `quoteFailure`, `targetFailure`, `openFailure`, `nameFailure`, `nulFailure`, `startFailure`,
  `waitFailure` — the checks.
* `firstFailure` — the error of the first check that fails.

## Main results

* `failure?_commandRun` — a command fails with its first failure.
* `firstFailure_of_splitWords` — **so does a line that has words.**
-/

namespace LineShell

/-! ### The checks -/

/-- The redirection of a command that is honoured, and the words that remain. -/
def honoured (words : List String) : Option Redirect × List String :=
  match takeRedirect words with
  | .ok taken => taken
  | .error _ => (none, [])

/-- The program that a command calls, if it calls one, and the arguments it is given. -/
def programCall? (words : List String) : Option (String × List String) :=
  match (honoured words).2 with
  | name :: arguments => if (Builtin.ofName? name).isNone then some (name, arguments) else none
  | [] => none

/-- The words of a line, or none if it has no words because of a quote. -/
def lineWords (line : List Char) : List String :=
  match splitWords line with
  | .ok words => words
  | .error _ => []

/-- A quote is left open. -/
def quoteFailure (line : List Char) : Option LineError :=
  match splitWords line with
  | .error e => some (.quote e)
  | .ok _ => none

/-- A redirection has no target. -/
def targetFailure (words : List String) : Option LineError :=
  match takeRedirect words with
  | .error e => some (.command (.missingTarget e.operator))
  | .ok _ => none

/-- The target of the redirection cannot be opened. -/
def openFailure (w : World) (words : List String) : Option LineError :=
  match openTarget (honoured words).1 w with
  | .error e => some (.command e)
  | .ok _ => none

/-- The name is that of no program, or cannot be one because of a NUL byte. -/
def nameFailure (path : SearchPath) (w : World) (words : List String) : Option LineError :=
  (programCall? words).bind fun (name, _) =>
    if hasNul name || (path.resolve w name).isNone then some (.command (.notFound name)) else none

/-- One of the arguments has a NUL byte. -/
def nulFailure (words : List String) : Option LineError :=
  (programCall? words).bind fun (name, arguments) =>
    if arguments.any hasNul then some (.command (.process (.nulByte name))) else none

/-- What comes of starting the program that the name stands for, once the target of the redirection
is open. -/
def starting? (programs : Programs) (path : SearchPath) (w : World) (words : List String) :
    Option (String × Except Errno (Nat × World)) := do
  let (name, arguments) ← programCall? words
  let program ← path.resolve w name
  let (diversion, opened) ← (openTarget (honoured words).1 w).toOption
  return (name, opened.start programs program (name :: arguments)
    (diversion.replacement? .output) (diversion.replacement? .error))

/-- The program cannot be started. -/
def startFailure (programs : Programs) (path : SearchPath) (w : World) (words : List String) :
    Option LineError :=
  match starting? programs path w words with
  | some (name, .error errno) => some (.command (.process (.start name (.os errno))))
  | _ => none

/-- The program cannot be waited for. -/
def waitFailure (programs : Programs) (path : SearchPath) (w : World) (words : List String) :
    Option LineError :=
  match starting? programs path w words with
  | some (_, .ok (id, started)) =>
    match (started.wait id).1 with
    | .error e => some (.command (.process e))
    | .ok _ => none
  | _ => none

/-- The error of the first check that fails, in the order in which the shell comes across them. -/
def firstFailure (programs : Programs) (path : SearchPath) (line : List Char) (w : World) :
    Option LineError :=
  let words := lineWords line
  [quoteFailure line, targetFailure words, openFailure w words, nameFailure path w words,
    nulFailure words, startFailure programs path w words,
    waitFailure programs path w words].findSome? id

/-! ### The first failure -/

/-- What goes wrong in a command, if anything. -/
def Execution.failure? (done : Execution) : Option LineError :=
  match done.result with
  | .error e => some (.command e)
  | .ok _ => none

theorem honoured_of_takeRedirect {words : List String} {taken : Option Redirect × List String}
    (h : takeRedirect words = .ok taken) : honoured words = taken := by
  rw [honoured, h]

/-- The target that is opened is that of the redirection that is honoured. -/
theorem openTarget_honoured {words arguments : List String} {redirect : Option Redirect} {w : World}
    {result : Except CommandError (Diversion × World)}
    (htake : takeRedirect words = .ok (redirect, arguments))
    (hopen : openTarget redirect w = result) : openTarget (honoured words).1 w = result := by
  rw [honoured_of_takeRedirect htake]
  exact hopen

theorem programCall?_of_nil {words : List String} {redirect : Option Redirect}
    (htake : takeRedirect words = .ok (redirect, [])) : programCall? words = none := by
  rw [programCall?, honoured_of_takeRedirect htake]

theorem programCall?_of_builtin {words : List String} {redirect : Option Redirect} {name : String}
    {arguments : List String} {builtin : Builtin}
    (htake : takeRedirect words = .ok (redirect, name :: arguments))
    (hbuiltin : Builtin.ofName? name = some builtin) : programCall? words = none := by
  rw [programCall?, honoured_of_takeRedirect htake]
  simp only [hbuiltin, Option.isNone_some, Bool.false_eq_true, if_false]

theorem programCall?_of_program {words : List String} {redirect : Option Redirect} {name : String}
    {arguments : List String} (htake : takeRedirect words = .ok (redirect, name :: arguments))
    (hbuiltin : Builtin.ofName? name = none) : programCall? words = some (name, arguments) := by
  rw [programCall?, honoured_of_takeRedirect htake]
  exact if_pos (Option.isNone_iff_eq_none.2 hbuiltin)

/-- The target of a redirection that is open does not change what a name stands for. -/
theorem resolve_openTarget {redirect : Option Redirect} {w opened : World} {diversion : Diversion}
    (h : openTarget redirect w = .ok (diversion, opened)) (path : SearchPath) (name : String) :
    path.resolve opened name = path.resolve w name := by
  cases redirect with
  | none =>
    cases h
    rfl
  | some redirect =>
    simp only [openTarget, Redirect.open] at h
    split at h
    · next fd opened' hopen =>
      cases h
      exact World.resolve_openForWriting hopen path name
    · cases h

section Called

variable {path : SearchPath} {w : World} {words : List String} {name program : String}
  {arguments : List String}

theorem nameFailure_of_resolve_eq_none (hcall : programCall? words = some (name, arguments))
    (hnone : path.resolve w name = none) :
    nameFailure path w words = some (.command (.notFound name)) := by
  rw [nameFailure, hcall]
  simp only [Option.bind_some, hnone, Option.isNone_none, Bool.or_true, if_true]

theorem nameFailure_of_resolve_eq_some (hcall : programCall? words = some (name, arguments))
    (hprogram : path.resolve w name = some program) : nameFailure path w words = none := by
  have hname := SearchPath.hasNul_name_of_resolve hprogram
  rw [nameFailure, hcall]
  simp only [Option.bind_some, hprogram, hname, Option.isNone_some, Bool.or_false,
    Bool.false_eq_true, if_false]

theorem nulFailure_of_programCall? (hcall : programCall? words = some (name, arguments)) :
    nulFailure words =
      if arguments.any hasNul then some (.command (.process (.nulByte name))) else none := by
  rw [nulFailure, hcall]
  rfl

theorem starting?_of_openTarget {programs : Programs} {diversion : Diversion} {opened : World}
    (hcall : programCall? words = some (name, arguments))
    (hprogram : path.resolve w name = some program)
    (hopen : openTarget (honoured words).1 w = .ok (diversion, opened)) :
    starting? programs path w words =
      some (name, opened.start programs program (name :: arguments)
        (diversion.replacement? .output) (diversion.replacement? .error)) := by
  rw [starting?, hcall, hopen]
  simp only [bind, Option.bind_some, hprogram]
  rfl

end Called

/-- The checks that follow the one for quotes. -/
theorem failure?_commandRun {programs : Programs} {path : SearchPath} {shell : Shell}
    {words : List String} {w : World} {done : Execution}
    (h : CommandRun programs path shell words w done) :
    done.failure? =
      [targetFailure words, openFailure w words, nameFailure path w words, nulFailure words,
        startFailure programs path w words, waitFailure programs path w words].findSome? id := by
  -- no check fails once the target is open and no program is called
  have hquiet {redirect : Option Redirect} {arguments : List String}
      {opening : Diversion × World} (htake : takeRedirect words = .ok (redirect, arguments))
      (hopen : openTarget redirect w = .ok opening) (hcall : programCall? words = none) :
      [targetFailure words, openFailure w words, nameFailure path w words, nulFailure words,
        startFailure programs path w words,
        waitFailure programs path w words].findSome? id = none := by
    simp [targetFailure, openFailure, nameFailure, nulFailure, startFailure, waitFailure, starting?,
      honoured_of_takeRedirect htake, htake, hopen, hcall]
  cases h with
  | missingTarget htake => simp [targetFailure, htake, Execution.failure?]
  | notOpened htake hopen =>
    simp [targetFailure, openFailure, honoured_of_takeRedirect htake, htake, hopen,
      Execution.failure?]
  | empty htake hopen => exact (hquiet htake hopen (programCall?_of_nil htake)).symm
  | builtin htake hopen hbuiltin hdone =>
    subst hdone
    exact (hquiet htake hopen (programCall?_of_builtin htake hbuiltin)).symm
  | called htake hopen hbuiltin hrun =>
    have hcall := programCall?_of_program htake hbuiltin
    have htarget : targetFailure words = none := by rw [targetFailure, htake]
    replace hopen := openTarget_honoured htake hopen
    have hopened : openFailure w words = none := by rw [openFailure, hopen]
    simp only [List.findSome?_cons, id, htarget, hopened]
    -- the name is looked up with the target open, and stands for the same as before
    cases hrun with
    | notFound hnone =>
      rw [resolve_openTarget hopen] at hnone
      rw [nameFailure_of_resolve_eq_none hcall hnone]
      rfl
    | nulByte hprogram hnul =>
      rw [resolve_openTarget hopen] at hprogram
      rw [nameFailure_of_resolve_eq_some hcall hprogram, nulFailure_of_programCall? hcall,
        if_pos hnul]
      rfl
    | notStarted hprogram hnul hstart =>
      rw [resolve_openTarget hopen] at hprogram
      rw [nameFailure_of_resolve_eq_some hcall hprogram, nulFailure_of_programCall? hcall, hnul,
        startFailure, starting?_of_openTarget hcall hprogram hopen, hstart]
      rfl
    | @waited program id started hprogram hnul hstart =>
      rw [resolve_openTarget hopen] at hprogram
      rw [nameFailure_of_resolve_eq_some hcall hprogram, nulFailure_of_programCall? hcall, hnul,
        startFailure, waitFailure, starting?_of_openTarget hcall hprogram hopen, hstart]
      simp only [Execution.failure?, Bool.false_eq_true, if_false]
      cases (started.wait id).1 <;> rfl

/-- **A line that has words fails with its first failure**, whatever the shell remembers. -/
theorem firstFailure_of_splitWords {programs : Programs} {path : SearchPath} {line : List Char}
    {w : World} {words : List String} (h : splitWords line = .ok words) (shell : Shell) :
    firstFailure programs path line w = (execute programs path words shell w).failure? := by
  have hwords : lineWords line = words := by rw [lineWords, h]
  have hquote : quoteFailure line = none := by rw [quoteFailure, h]
  rw [failure?_commandRun (commandRun programs path shell words w), firstFailure, hwords,
    List.findSome?_cons, hquote]
  rfl

end LineShell
