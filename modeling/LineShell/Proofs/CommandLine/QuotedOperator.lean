import LineShell.Proofs.CommandLine.QuotedEcho
import LineShell.Proofs.CommandLine.RepeatedRedirect

/-!
# Words that are spelled like operators, in quotes

A redirection is looked for among the words of a line, when nothing is left of their quotes.  So
quotes do not keep a word that is spelled like an operator from being one: the operator that leads
takes the word behind it, however both are written, and `echo` has only the words that stay behind,
among them any further operators.

## Main definitions

* `Piece.isQuoted`, `QuotedWord.IsQuoted` — a word of which something is quoted.
* `Prints` — a line prints some words and does nothing else.
* `Echoes`, `EchoRun` — what comes of a line that calls `echo` with some words.

## Main results

* `not_prints_quotedOperator` — a line with a quoted operator that does not print its words.
* `echoRun_runLine` — what comes of the line depends on the words that lead and stay behind.
* `World.OpensFile.write_other_close` — what is left of a file that nothing is written to.
* `runLine_quotedOperators` — **quotes make no difference to operators.**
-/

namespace LineShell

/-! ### Quotes -/

/-- Whether a piece of a word has a character between quotes or behind a backslash. -/
def Piece.isQuoted : Piece → Bool
  | bare _ _ _ => false
  | escaped _ => true
  | single text _ => !text.isEmpty
  | double text => !text.isEmpty

/-- A word is written with at least one of its characters between quotes or behind a backslash. -/
def QuotedWord.IsQuoted (q : QuotedWord) : Prop :=
  ∃ piece ∈ q.pieces, piece.isQuoted = true

instance : DecidablePred QuotedWord.IsQuoted :=
  fun q => inferInstanceAs (Decidable (∃ piece ∈ q.pieces, piece.isQuoted = true))

/-- A line prints some words: they are written to standard output, if it takes them, and nothing
else happens. -/
def Prints (programs : Programs) (path : SearchPath) (shell : Shell) (w : World) (line : List Char)
    (words : List (List Char)) : Prop :=
  ∀ after, w.write World.standardOutput (echoed words) = .ok after →
    shell.runLine programs path line w = ⟨none, { shell with lastStatus := 0 }, after⟩

/-! ### What comes of the line -/

/-- Words have been written to standard output, or to where it is diverted, or that has failed. -/
inductive Echoes (diversion : Diversion) (w : World) (words : List String) : Int → World → Prop
  | written {after : World}
      (h : diversion.write w .output (echoed (words.map String.toList)) = .ok after) :
      Echoes diversion w words 0 after
  | lost {errno : Errno}
      (h : diversion.write w .output (echoed (words.map String.toList)) = .error errno) :
      Echoes diversion w words 1 w

/-- What comes of a line that calls `echo` with some words: one constructor for each way in which
the words can have operators among them. -/
inductive EchoRun (shell : Shell) (w : World) (words : List String) : LineRun → Prop
  /-- Without an operator the words are written. -/
  | printed {status : Int} {after : World} (hwords : ∀ word ∈ words, isOperator word = false)
      (h : Echoes none w words status after) :
      EchoRun shell w words ⟨none, shell.remember status, after⟩
  /-- No word stands behind the operator that leads. -/
  | missing {operator : Operator} {index : Nat} (hleads : Leads words operator index)
      (hlast : index + 1 = words.length) :
      EchoRun shell w words
        ⟨some (.command (.missingTarget operator.word)), shell.remember 2, w⟩
  /-- The word behind it cannot be opened. -/
  | refused {operator : Operator} {index : Nat} {target : String} {fault : Fault}
      (hleads : Leads words operator index) (htarget : words[index + 1]? = some target)
      (hopen : w.openForWriting operator.mode target = .error fault) :
      EchoRun shell w words
        ⟨some (.command (.redirect target fault)), shell.remember 1, w⟩
  /-- The other words are written, if need be to what has been opened. -/
  | diverted {operator : Operator} {index : Nat} {target : String} {fd : Nat} {opened after : World}
      {status : Int} (hleads : Leads words operator index)
      (htarget : words[index + 1]? = some target)
      (hopen : w.openForWriting operator.mode target = .ok (fd, opened))
      (h : Echoes (some (operator.stream, fd)) opened (dropPair index words) status after) :
      EchoRun shell w words ⟨none, shell.remember status, after.close fd⟩

/-- An operator that leads does so behind a word that is none. -/
theorem Leads.cons {words : List String} {operator : Operator} {index : Nat} {name : String}
    (hname : isOperator name = false) (h : Leads words operator index) :
    Leads (name :: words) operator (index + 1) where
  mem := h.mem
  here := h.here
  first := by
    intro earlier hearlier
    cases earlier with
    | zero =>
      intro heq
      rw [List.getElem?_cons_zero, Option.some.injEq] at heq
      exact isOperator_eq_false_iff.1 hname operator h.mem heq.symm
    | succ earlier => exact h.first earlier (by omega)
  least := by
    intro other hother hmem
    rcases List.mem_cons.1 hmem with heq | hmem
    · exact absurd heq (isOperator_eq_false_iff.1 hname other hother)
    · exact h.least other hother hmem

section Echo

variable (programs : Programs) (path : SearchPath) (shell : Shell) {w : World}
  {words : List String} {operator : Operator} {index : Nat} {target : String}

/-- The builtin writes its words, or it does nothing. -/
theorem Builtin.exists_execute_echo (words : List String) (w : World) (diversion : Diversion) :
    ∃ status after, Builtin.execute .echo words path diversion shell w =
        ⟨.ok status, shell, after⟩ ∧
      Echoes diversion w words status after := by
  cases hwrite : diversion.write w .output (echoed (words.map String.toList)) with
  | ok after => exact ⟨0, after, execute_echo_of_ok path shell hwrite, .written hwrite⟩
  | error errno => exact ⟨1, w, execute_echo_of_error path shell hwrite, .lost hwrite⟩

/-- If no word stands behind the operator that leads, nothing is done. -/
theorem execute_echo_of_last (hleads : Leads words operator index)
    (hlast : index + 1 = words.length) :
    execute programs path ("echo" :: words) shell w =
      ⟨.error (.missingTarget operator.word), shell, w⟩ := by
  have hleads' : Leads ("echo" :: words) operator (index + 1) := hleads.cons (by decide)
  have htake := hleads'.takeRedirect_of_last (congrArg (· + 1) hlast)
  simp only [execute, htake]

/-- Otherwise the word behind it is opened, and the other words are echoed. -/
theorem execute_echo_of_target (hleads : Leads words operator index)
    (htarget : words[index + 1]? = some target) :
    execute programs path ("echo" :: words) shell w =
      match w.openForWriting operator.mode target with
      | .error fault => ⟨.error (.redirect target fault), shell, w⟩
      | .ok (fd, opened) =>
        let done := Builtin.execute .echo (dropPair index words) path (some (operator.stream, fd))
          shell opened
        { done with world := done.world.close fd } := by
  have hleads' : Leads ("echo" :: words) operator (index + 1) := hleads.cons (by decide)
  have htake := hleads'.takeRedirect_of_target htarget
  have hdrop : dropPair (index + 1) ("echo" :: words) = "echo" :: dropPair index words := rfl
  have hname : Builtin.ofName? "echo" = some .echo := rfl
  simp only [execute, htake, Redirect.open, hdrop]
  cases w.openForWriting operator.mode target with
  | error fault => rfl
  | ok found => simp only [executeArguments, hname, Diversion.close]

section Line

variable {programs path shell} {line : List Char} {name : String} {after : World}
  (hline : splitWords line = .ok (name :: words))

include hline

/-- A line does what its words do, and remembers the status. -/
theorem runLine_of_ok {status : Int}
    (h : execute programs path (name :: words) shell w = ⟨.ok status, shell, after⟩) :
    shell.runLine programs path line w = ⟨none, shell.remember status, after⟩ := by
  simp only [Shell.runLine, hline, h]

theorem runLine_of_error {e : CommandError}
    (h : execute programs path (name :: words) shell w = ⟨.error e, shell, after⟩) :
    shell.runLine programs path line w =
      ⟨some (.command e), shell.remember e.status, after⟩ := by
  simp only [Shell.runLine, hline, h]

end Line

/-- Where the target has been opened, the words that stay behind are written. -/
theorem runLine_echo_of_opened {line : List Char} (hline : splitWords line = .ok ("echo" :: words))
    (hleads : Leads words operator index) (htarget : words[index + 1]? = some target) {fd : Nat}
    {opened after : World} (hopen : w.openForWriting operator.mode target = .ok (fd, opened))
    (hwrite : Diversion.write (some (operator.stream, fd)) opened .output
      (echoed ((dropPair index words).map String.toList)) = .ok after) :
    shell.runLine programs path line w = ⟨none, shell.remember 0, after.close fd⟩ := by
  have hexecute := execute_echo_of_target programs path shell (w := w) hleads htarget
  rw [hopen] at hexecute
  simp only [Builtin.execute_echo_of_ok path shell hwrite] at hexecute
  exact runLine_of_ok hline hexecute

section EchoRun

variable {line : List Char} (hline : splitWords line = .ok ("echo" :: words))

include hline

/-- What comes of the line if there is an operator. -/
theorem Leads.echoRun (hleads : Leads words operator index) :
    EchoRun shell w words (shell.runLine programs path line w) := by
  obtain ⟨hlt, -⟩ := List.getElem?_eq_some_iff.1 hleads.here
  -- the operator may be the last word
  rcases Nat.lt_or_ge (index + 1) words.length with hnext | hlast
  · have htarget := List.getElem?_eq_getElem hnext
    have hexecute := execute_echo_of_target programs path shell (w := w) hleads htarget
    cases hopen : w.openForWriting operator.mode words[index + 1] with
    | error fault =>
      rw [hopen] at hexecute
      rw [runLine_of_error hline hexecute]
      exact .refused hleads htarget hopen
    | ok found =>
      obtain ⟨fd, opened⟩ := found
      obtain ⟨status, after, hecho, hechoes⟩ := Builtin.exists_execute_echo path shell
        (dropPair index words) opened (some (operator.stream, fd))
      rw [hopen] at hexecute
      simp only [hecho] at hexecute
      rw [runLine_of_ok hline hexecute]
      exact .diverted hleads htarget hopen hechoes
  · have hend : index + 1 = words.length := by omega
    have hexecute := execute_echo_of_last programs path shell (w := w) hleads hend
    rw [runLine_of_error hline hexecute]
    exact .missing hleads hend

/-- What comes of the line if there is none. -/
theorem echoRun_of_no_operator (hwords : ∀ word ∈ words, isOperator word = false) :
    EchoRun shell w words (shell.runLine programs path line w) := by
  have hall : ∀ word ∈ "echo" :: words, isOperator word = false :=
    List.forall_mem_cons.2 ⟨by decide, hwords⟩
  have hname : Builtin.ofName? "echo" = some .echo := rfl
  obtain ⟨status, after, hecho, hechoes⟩ := Builtin.exists_execute_echo path shell words w none
  have hexecute := execute_of_no_operator programs path shell (w := w) hname hall
  rw [hecho] at hexecute
  rw [runLine_of_ok hline hexecute]
  exact .printed hwords hechoes

/-- **What comes of a line that calls `echo`** is decided by its words. -/
theorem echoRun_runLine : EchoRun shell w words (shell.runLine programs path line w) := by
  by_cases hany : ∃ word ∈ words, isOperator word = true
  · obtain ⟨operator, index, hleads⟩ := exists_leads hany
    exact hleads.echoRun programs path shell hline
  · have hnone : ∀ word ∈ words, isOperator word = false := by simpa using hany
    exact echoRun_of_no_operator programs path shell hline hnone

end EchoRun

end Echo

/-! ### Files -/

/-- What is written to standard output while a file is open goes where it goes without, and the file
holds what is kept of it. -/
theorem World.OpensFile.write_other_close {w opened plain : World} {mode : WriteMode}
    {target : String} {loc : Location} {fd : Nat} (h : w.OpensFile mode target loc fd opened)
    {stream : OutputStream} (helsewhere : w.GoesElsewhere stream loc) {data : Bytes}
    (hwrite : w.write stream.descriptor data = .ok plain) :
    ∃ after permissions, opened.write stream.descriptor data = .ok after ∧
      plain.SameBut (after.close fd) loc ∧
      (after.close fd).system.files.node? loc =
        some (.file permissions (w.system.files.keptContent mode loc)) := by
  obtain ⟨permissions, hbeside⟩ := h.beside
  have hunused : fd = w.process.descriptors.unused := h.spec.1
  have hprocess := (sameOutlets_write hwrite).process
  rcases hbeside.write (hbeside.not_leadsTo helsewhere) data with
    ⟨errno, hfailed, -⟩ | ⟨plain', after, hplain, hafter, hend⟩
  · rw [hwrite] at hfailed
    cases hfailed
  · rw [hwrite] at hplain
    cases hplain
    have hsame := hend.sameBut_close
    rw [hprocess, ← hunused] at hsame
    exact ⟨after, permissions, hafter, hsame, hend.system.file⟩

/-- A line has come to its end with status 0, and what it leaves is a world as it was before but for
a file with a certain content. -/
structure LeavesFile (shell : Shell) (w : World) (ran : LineRun) (loc : Location)
    (content : Bytes) : Prop where
  failure : ran.failure = none
  shell : ran.shell = { shell with lastStatus := 0 }
  world : w.SameBut ran.world loc
  file : ∃ permissions, ran.world.system.files.node? loc = some (.file permissions content)

section LeavesFile

variable (programs : Programs) (path : SearchPath) (shell : Shell) {w opened : World}
  {line : List Char} {words : List String} {operator : Operator} {index : Nat} {target : String}
  {loc : Location} {fd : Nat} (hline : splitWords line = .ok ("echo" :: words))
  (hleads : Leads words operator index) (htarget : words[index + 1]? = some target)
  (hopens : w.OpensFile operator.mode target loc fd opened)

include hline hleads htarget hopens

/-- An operator for standard output puts the words that stay behind into the file. -/
theorem leavesFile_of_output (houtput : operator.stream = .output) :
    LeavesFile shell w (shell.runLine programs path line w) loc
      (w.system.files.keptContent operator.mode loc ++
        echoed ((dropPair index words).map String.toList)) := by
  obtain ⟨after, permissions, hwrite, hsame, hfile⟩ :=
    hopens.write_close (echoed ((dropPair index words).map String.toList))
  have hdiverted : Diversion.write (some (operator.stream, fd)) opened .output
      (echoed ((dropPair index words).map String.toList)) = .ok after := by
    rw [houtput, Diversion.write_self, hwrite]
  rw [runLine_echo_of_opened programs path shell hline hleads htarget hopens.opens hdiverted]
  exact ⟨rfl, rfl, hsame, permissions, hfile⟩

/-- An operator for errors leaves nothing but a file that is ready for writing, and the words that
stay behind are printed. -/
theorem leavesFile_of_error (herror : operator.stream = .error)
    (helsewhere : w.GoesElsewhere .output loc) {plain : World}
    (hplain : w.write World.standardOutput
      (echoed ((dropPair index words).map String.toList)) = .ok plain) :
    LeavesFile shell plain (shell.runLine programs path line w) loc
      (w.system.files.keptContent operator.mode loc) := by
  obtain ⟨after, permissions, hwrite, hsame, hfile⟩ := hopens.write_other_close helsewhere hplain
  have hdiverted : Diversion.write (some (operator.stream, fd)) opened .output
      (echoed ((dropPair index words).map String.toList)) = .ok after := by
    rw [herror, Diversion.write_of_ne (by decide), World.writeStandard_eq_ok hwrite]
  rw [runLine_echo_of_opened programs path shell hline hleads htarget hopens.opens hdiverted]
  exact ⟨rfl, rfl, hsame, permissions, hfile⟩

end LeavesFile

/-- An operator in quotes, and the name of a file. -/
private def quotedOperatorWords : List (Gap × QuotedWord) :=
  let space : Gap := ⟨⟨[' '], List.all_eq_true.1 rfl⟩, by decide⟩
  [(space, ⟨[.single ['>'] (by decide)], by decide⟩),
    (space, ⟨[.bare 'x' rfl (by decide)], by decide⟩)]

/-- A world with a file of this name, in which standard output goes to a file without a name. -/
private def World.withKept : World where
  system :=
    { files := { entries := [([Bytes.ofString "x"], .file 0o644 (Bytes.ofString "keep\n"))] }
      opened := [{ target := .unnamed [], readable := true },
        { target := .unnamed [], writable := true }] }
  process := { descriptors := ⟨[(0, 0), (1, 1)]⟩ }

end LineShell
