import LineShell.Proofs.CommandLine.RedirectedBuiltin
import LineShell.Proofs.Words.Quoted

/-!
# Words that are written and echoed

Words are written in some quoting or other on a line that calls `echo`, perhaps with a redirection
behind them.  What is written by the builtin are the words themselves with single spaces between
them, whatever characters they have; with a redirection it stands in the file, and nothing else has
happened.

## Main definitions

* `echoed` — the bytes that `echo` has for some words.

## Main results

* `Builtin.execute_echo_of_ok`, `Builtin.execute_echo_of_error` — what the builtin writes.
* `World.OpensFile.write_close` — what is left of a file that has been opened and written to.
* `execute_echo_redirected` — the builtin with its output redirected.
* `runLine_quotedEcho` — **quoted words come out as they are.**
-/

namespace LineShell

/-- The bytes that `echo` has for some words: the words with single spaces between them, and a line
feed. -/
def echoed (words : List (List Char)) : Bytes :=
  Bytes.ofText ([' '].intercalate words ++ ['\n'])

/-- What the builtin reports is what is echoed. -/
theorem ofText_intercalate (words : List String) :
    Bytes.ofText ((" ".intercalate words).toList ++ ['\n']) =
      echoed (words.map String.toList) := by
  rw [echoed, String.toList_intercalate]
  rfl

/-- The characters of words that are written in quotes. -/
theorem map_toList_word (words : List (Gap × QuotedWord)) :
    (words.map (·.2.word)).map String.toList = words.map (·.2.text) := by
  rw [List.map_map]
  exact List.map_congr_left fun entry _ => String.toList_ofList

/-! ### The line -/

/-- No character of the operators has to be quoted. -/
theorem plain_operator {operator : Operator} (h : operator ∈ operators) :
    operator.word.toList ≠ [] ∧ ∀ c ∈ operator.word.toList,
      isBlank c = false ∧ c ≠ '\'' ∧ c ≠ '"' ∧ c ≠ '\\' := by
  have hall : ∀ operator ∈ operators,
      operator.word.toList ≠ [] ∧ operator.word.toList.all isPlain = true := by
    decide
  obtain ⟨hne, hplain⟩ := hall operator h
  exact ⟨hne, plain_of_all hplain⟩

/-- The words of a line that calls `echo`. -/
theorem splitWords_echo (lead trail : Blanks) (words : List (Gap × QuotedWord)) :
    splitWords (lead.text ++ "echo".toList ++ separated words ++ trail.text) =
      .ok ("echo" :: words.map (·.2.word)) := by
  have h := splitWords_separated lead
    (.plain "echo".toList (by decide) (plain_of_all (by decide))) words trail
  rw [QuotedWord.spelling_plain, QuotedWord.word, QuotedWord.text_plain,
    String.ofList_toList] at h
  rw [List.append_assoc, List.append_assoc]
  exact h

/-- The words of such a line with a redirection. -/
theorem splitWords_echo_redirected (lead trail : Blanks) (words : List (Gap × QuotedWord))
    {operator : Operator} (hoperator : operator ∈ operators) (gap gap' : Gap)
    (target : QuotedWord) :
    splitWords (lead.text ++ "echo".toList ++ separated words ++ gap.text ++
        operator.word.toList ++ gap'.text ++ target.spelling ++ trail.text) =
      .ok ("echo" :: words.map (·.2.word) ++ [operator.word, target.word]) := by
  obtain ⟨hne, hplain⟩ := plain_operator hoperator
  have h := splitWords_echo lead trail
    (words ++ [(gap, .plain operator.word.toList hne hplain), (gap', target)])
  rw [separated_append, separated_cons, separated_cons, QuotedWord.spelling_plain, separated_nil,
    List.append_nil, List.map_append, List.map_cons, List.map_cons] at h
  simp only [QuotedWord.word, QuotedWord.text_plain, String.ofList_toList] at h ⊢
  simp only [List.append_assoc] at h ⊢
  exact h

/-! ### The builtin -/

/-- **What is written to a file that has been opened** stands behind what is kept of it, and nothing
else is left once the file is closed. -/
theorem World.OpensFile.write_close {w opened : World} {mode : WriteMode} {target : String}
    {loc : Location} {fd : Nat} (h : w.OpensFile mode target loc fd opened) (data : Bytes) :
    ∃ written permissions, opened.write fd data = .ok written ∧ w.SameBut (written.close fd) loc ∧
      (written.close fd).system.files.node? loc =
        some (.file permissions (w.system.files.keptContent mode loc ++ data)) := by
  obtain ⟨permissions, hbeside⟩ := h.beside
  obtain ⟨written, hwrite, hend⟩ := hbeside.write_file data
  have hunused : fd = w.process.descriptors.unused := h.spec.1
  rw [← hunused] at hwrite
  have hsame := hend.sameBut_close
  rw [← hunused] at hsame
  exact ⟨written, permissions, hwrite, hsame, hend.system.file⟩

section Echo

variable (programs : Programs) (path : SearchPath) (shell : Shell) {w : World}
  {words : List String}

/-- The builtin writes its words to where its output goes. -/
theorem Builtin.execute_echo_of_ok {diversion : Diversion} {after : World}
    (hwrite : diversion.write w .output (echoed (words.map String.toList)) = .ok after) :
    Builtin.execute .echo words path diversion shell w = ⟨.ok 0, shell, after⟩ := by
  have hdeliver : deliver diversion.send (Builtin.run .echo words path shell w).world
      (Builtin.run .echo words path shell w).lines = (after, true) := by
    have hsend : diversion.send w .output
        (Bytes.ofText ((" ".intercalate words).toList ++ ['\n'])) = some after := by
      rw [ofText_intercalate]
      exact congrArg Except.toOption hwrite
    simp only [Builtin.run, deliver, hsend]
  rw [Builtin.execute_eq path shell hdeliver]
  rfl

/-- If they cannot be written, the status is 1. -/
theorem Builtin.execute_echo_of_error {diversion : Diversion} {errno : Errno}
    (hwrite : diversion.write w .output (echoed (words.map String.toList)) = .error errno) :
    Builtin.execute .echo words path diversion shell w = ⟨.ok 1, shell, w⟩ := by
  have hdeliver : deliver diversion.send (Builtin.run .echo words path shell w).world
      (Builtin.run .echo words path shell w).lines = (w, false) := by
    have hsend : diversion.send w .output
        (Bytes.ofText ((" ".intercalate words).toList ++ ['\n'])) = none := by
      rw [ofText_intercalate]
      exact congrArg Except.toOption hwrite
    simp only [Builtin.run, deliver, hsend]
  rw [Builtin.execute_eq path shell hdeliver]
  rfl

/-- Without a redirection the words are written to standard output. -/
theorem execute_echo (hwords : ∀ word ∈ words, isOperator word = false) {after : World}
    (hwrite : w.write World.standardOutput (echoed (words.map String.toList)) = .ok after) :
    execute programs path ("echo" :: words) shell w = ⟨.ok 0, shell, after⟩ := by
  have hall : ∀ word ∈ "echo" :: words, isOperator word = false :=
    List.forall_mem_cons.2 ⟨by decide, hwords⟩
  have hname : Builtin.ofName? "echo" = some .echo := rfl
  rw [execute_of_no_operator programs path shell hname hall]
  exact Builtin.execute_echo_of_ok path shell (World.writeStandard_eq_ok hwrite)

/-- With its output redirected, the builtin puts the words into the file and does nothing else. -/
theorem execute_echo_redirected (hwords : ∀ word ∈ words, isOperator word = false)
    {operator : Operator} (hoperator : operator ∈ operators) (houtput : operator.stream = .output)
    {target : String} (htarget : isOperator target = false) {loc : Location} {fd : Nat}
    {opened : World} (hopens : w.OpensFile operator.mode target loc fd opened) :
    ∃ after permissions,
      execute programs path ("echo" :: words ++ [operator.word, target]) shell w =
        ⟨.ok 0, shell, after⟩ ∧
      w.SameBut after loc ∧
      after.system.files.node? loc = some (.file permissions
        (w.system.files.keptContent operator.mode loc ++ echoed (words.map String.toList))) := by
  have hall : ∀ word ∈ "echo" :: words, isOperator word = false :=
    List.forall_mem_cons.2 ⟨by decide, hwords⟩
  obtain ⟨written, permissions, hwrite, hsame, hfile⟩ :=
    hopens.write_close (echoed (words.map String.toList))
  have hdiverted : Diversion.write (some (operator.stream, fd)) opened .output
      (echoed (words.map String.toList)) = .ok written := by
    rw [houtput, Diversion.write_self, hwrite]
  -- the redirection stands behind all other words
  have hname : Builtin.ofName? "echo" = some .echo := rfl
  have hexecute := execute_of_operator programs path shell hname hall hoperator
    htarget ("echo" :: words).length hopens.opens
  rw [List.take_length, List.drop_length] at hexecute
  refine ⟨written.close fd, permissions, ?_, hsame, hfile⟩
  rw [hexecute, Builtin.execute_echo_of_ok path shell hdiverted]

end Echo

/-- **Quoted words come out as they are.**  Words that are not spelled like operators are written in
any quoting on a line that calls `echo`, with any blanks between and around them.  With an operator
for standard output and a quoted target behind them, of which the latter opens as a plain file, the
line does not fail, its status is 0, and the file holds what the operator keeps of it and then the
words with single spaces between them and a line feed; nothing else in the world is other than
before, so that nothing has been written to a stream.  Without them the same bytes are written to
standard output, if it takes them. -/
theorem runLine_quotedEcho (programs : Programs) (path : SearchPath) (shell : Shell) (w : World)
    (lead trail : Blanks) (words : List (Gap × QuotedWord))
    (hwords : ∀ entry ∈ words, isOperator entry.2.word = false) :
    let data := echoed (words.map (·.2.text))
    (∀ operator ∈ operators, operator.stream = .output →
      ∀ (gap gap' : Gap) (target : QuotedWord), isOperator target.word = false →
      ∀ (loc : Location) (fd : Nat) (opened : World),
        w.OpensFile operator.mode target.word loc fd opened →
        let ran := shell.runLine programs path
          (lead.text ++ "echo".toList ++ separated words ++ gap.text ++ operator.word.toList ++
            gap'.text ++ target.spelling ++ trail.text) w
        ran.failure = none ∧ ran.shell = { shell with lastStatus := 0 } ∧
          w.SameBut ran.world loc ∧
          ∃ permissions, ran.world.system.files.node? loc = some (.file permissions
            (w.system.files.keptContent operator.mode loc ++ data))) ∧
    (∀ after, w.write World.standardOutput data = .ok after →
      shell.runLine programs path
          (lead.text ++ "echo".toList ++ separated words ++ trail.text) w =
        ⟨none, { shell with lastStatus := 0 }, after⟩) := by
  intro data
  have hnames : ∀ word ∈ words.map (·.2.word), isOperator word = false := by
    intro word hword
    obtain ⟨entry, hentry, rfl⟩ := List.mem_map.1 hword
    exact hwords entry hentry
  have hdata : echoed ((words.map (·.2.word)).map String.toList) = data :=
    congrArg echoed (map_toList_word words)
  constructor
  · intro operator hoperator houtput gap gap' target htarget loc fd opened hopens ran
    obtain ⟨after, permissions, hexecute, hsame, hfile⟩ := execute_echo_redirected programs path
      shell hnames hoperator houtput htarget hopens
    rw [hdata] at hfile
    have hran : ran = ⟨none, shell.remember 0, after⟩ := by
      simp only [ran, Shell.runLine, splitWords_echo_redirected lead trail words hoperator gap gap'
        target]
      simp only [List.cons_append] at hexecute ⊢
      rw [hexecute]
    rw [hran]
    exact ⟨rfl, rfl, hsame, permissions, hfile⟩
  · intro after hwrite
    rw [← hdata] at hwrite
    have hexecute := execute_echo programs path shell hnames hwrite
    simp only [Shell.runLine, splitWords_echo, hexecute]
    rfl

/-- A world with one file, in which standard output goes to a file without a name. -/
private def World.withLog : World where
  system :=
    { files := { entries := [([Bytes.ofString "log"], .file 0o600 (Bytes.ofString "old\n"))] }
      opened := [{ target := .unnamed [], readable := true },
        { target := .unnamed [], writable := true }] }
  process := { descriptors := ⟨[(0, 0), (1, 1)]⟩ }

/-- Words and a target in quotes, of which one holds a blank and another one a double quote. -/
theorem runLine_quotedEcho_log :
    let ran := ({} : Shell).runLine (fun _ _ => .error .noEntry) .empty
      "echo 'a b'c  \"\\\"\"\\d >> l''og\n".toList .withLog
    ran.failure = none ∧ ∃ permissions, ran.world.system.files.node? [Bytes.ofString "log"] =
      some (.file permissions (Bytes.ofString "old\na bc \"d\n")) := by
  intro ran
  have hopens : World.withLog.OpensFile .append "log" [Bytes.ofString "log"] 2
      { World.withLog with
        system := { World.withLog.system with
          opened := World.withLog.system.opened ++
            [{ target := .entry [Bytes.ofString "log"], writable := true, appending := true }] }
        process := { descriptors := World.withLog.process.descriptors.set 2 2 } } :=
    ⟨rfl, ⟨_, rfl, rfl⟩, ⟨_, _, rfl⟩⟩
  let space : Gap := ⟨⟨[' '], List.all_eq_true.1 rfl⟩, by decide⟩
  let spaces : Gap := ⟨⟨[' ', ' '], List.all_eq_true.1 rfl⟩, by decide⟩
  let first : QuotedWord := ⟨[.single ['a', ' ', 'b'] (by decide), .bare 'c' rfl (by decide)],
    by decide⟩
  let second : QuotedWord := ⟨[.double ['"'], .escaped 'd'], by decide⟩
  let target : QuotedWord := ⟨[.bare 'l' rfl (by decide), .single [] (by decide),
    .bare 'o' rfl (by decide), .bare 'g' rfl (by decide)], by decide⟩
  have hwords : ∀ entry ∈ [(space, first), (spaces, second)],
      isOperator entry.2.word = false := by
    decide
  obtain ⟨hdiverted, -⟩ := runLine_quotedEcho (fun _ _ => .error .noEntry) .empty {} .withLog
    ⟨[], nofun⟩ ⟨['\n'], List.all_eq_true.1 rfl⟩ [(space, first), (spaces, second)] hwords
  obtain ⟨hfailure, -, -, permissions, hfile⟩ := hdiverted ⟨">>", .output, .append⟩ (by decide) rfl
    space space target (by decide) _ _ _ hopens
  exact ⟨hfailure, permissions, hfile⟩

end LineShell
