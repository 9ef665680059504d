import LineShell.Proofs.CommandLine.Runs
import LineShell.Proofs.System.Outlets

/-!
# A builtin with a redirection

A builtin is carried out twice, without a redirection and with one.  It does the same and reports
the same, although the target of the redirection is open by then; and what it writes to the stream
that is redirected goes to the file, while the other stream gets what it gets without.  For this the
stream that is redirected must have room, and the other one must not go to the file already.

## Main definitions

* `World.inDirectory` — a world with another current directory, all that a builtin changes itself.
* `Diversion.send`, `Diversion.Takes` — how a stream is written to, and when that can be done.
* `written`, `Builtin.writes` — the writes that a builtin makes, and the streams they are for.
* `Builtin.Uses` — the streams on which a builtin has something to say.
* `SideBySide` — the invariant of the two runs while they write.
* `World.SameBut` — a world that is another one, but for a file and what it was opened for.
* `MovesOutput` — what a redirection is to do, and nothing else.

## Main results

* `takeRedirect_insert` — the redirection that was inserted is taken out again.
* `Builtin.run_of_opensFile` — a builtin does the same with the file open.
* `deliver_of_takes_iff` — lines are written alike where the same streams take them.
* `deliver_sideBySide` — **the lines of a report in both runs.**
* `execute_insert_redirect` — **a redirection moves what is written, and changes nothing else.**
* `not_movesOutput` — it does not if the stream is full or the other one goes to the file already,
  nor if a link counts as the file.
-/

namespace LineShell

/-! ### The words -/

theorem eq_of_word_eq {a b : Operator} (ha : a ∈ operators) (hb : b ∈ operators)
    (h : a.word = b.word) : a = b := by
  have hall : ∀ a ∈ operators, ∀ b ∈ operators, a.word = b.word → a = b := by decide
  exact hall a ha b hb h

theorem isOperator_eq_false_iff {word : String} :
    isOperator word = false ↔ ∀ operator ∈ operators, operator.word ≠ word := by
  simp [isOperator]

/-- Words without an operator are left alone. -/
theorem takeRedirect_of_no_operator {words : List String}
    (h : ∀ word ∈ words, isOperator word = false) : takeRedirect words = .ok (none, words) := by
  have hnone : (operators.find? fun operator => words.contains operator.word) = none := by
    rw [List.find?_eq_none]
    intro operator hoperator hcontains
    have hmem : operator.word ∈ words := by simpa using hcontains
    exact isOperator_eq_false_iff.1 (h _ hmem) operator hoperator rfl
  rw [takeRedirect, hnone]

/-- An operator and a target that stand between other words are taken out of them. -/
theorem takeRedirect_insert {before after : List String} {operator : Operator} {target : String}
    (hoperator : operator ∈ operators) (htarget : isOperator target = false)
    (hbefore : ∀ word ∈ before, isOperator word = false)
    (hafter : ∀ word ∈ after, isOperator word = false) :
    takeRedirect (before ++ operator.word :: target :: after) =
      .ok (some ⟨operator.stream, operator.mode, target⟩, before ++ after) := by
  have hnot : operator.word ∉ before := by
    intro hmem
    exact isOperator_eq_false_iff.1 (hbefore _ hmem) operator hoperator rfl
  -- the search meets no other operator first, for no other one is there
  have hfind : (operators.find? fun found =>
      (before ++ operator.word :: target :: after).contains found.word) = some operator := by
    cases hfound : operators.find? fun found =>
        (before ++ operator.word :: target :: after).contains found.word with
    | none =>
      have habsent := List.find?_eq_none.1 hfound operator hoperator
      simp at habsent
    | some found =>
      have hmem : found.word ∈ before ++ operator.word :: target :: after := by
        simpa using List.find?_some hfound
      have hin : found ∈ operators := List.mem_of_find?_eq_some hfound
      have hplain : ∀ word, isOperator word = false → found.word ≠ word :=
        fun word hword => isOperator_eq_false_iff.1 hword found hin
      have hsame : found.word = operator.word := by
        rcases List.mem_append.1 hmem with hmem | hmem
        · exact absurd rfl (hplain _ (hbefore _ hmem))
        rcases List.mem_cons.1 hmem with heq | hmem
        · exact heq
        rcases List.mem_cons.1 hmem with heq | hmem
        · exact absurd heq (hplain _ htarget)
        · exact absurd rfl (hplain _ (hafter _ hmem))
      rw [eq_of_word_eq hin hoperator hsame]
  have hindex : (before ++ operator.word :: target :: after).idxOf operator.word =
      before.length := by
    rw [List.idxOf_append, if_neg hnot, List.idxOf_cons_self, Nat.zero_add]
  rw [takeRedirect, hfind]
  simp only [hindex, dropPair]
  simp

/-! ### What a builtin does -/

/-- A world with another current directory. -/
def World.inDirectory (w : World) (directory : Location) : World :=
  { w with process := { w.process with directory } }

theorem World.changeDirectory_eq (w : World) (path : String) :
    w.changeDirectory path =
      (withPath path (w.system.enterDirectory w.process.directory)).map w.inDirectory := rfl

variable {w opened : World} {mode : WriteMode} {target : String} {loc : Location} {fd : Nat}

section Opened

variable (h : w.OpensFile mode target loc fd opened)

include h

/-- Names stand for the same commands as before. -/
theorem describe_of_opensFile (path : SearchPath) :
    Builtin.describe path opened = Builtin.describe path w := by
  funext name
  unfold Builtin.describe
  rw [World.resolve_openForWriting h.opens]

/-- The current directory has the same path as before. -/
theorem currentPath_of_opensFile : opened.currentPath = w.currentPath := by
  obtain ⟨permissions, content, hfile⟩ := h.plain
  obtain ⟨-, system, hready, -, -, rfl⟩ := h.spec
  simp only [World.currentPath, System.pathOf, hready.isDirectory hfile]

/-- The directory that a path leads to can be entered as before, if the file was there before. -/
theorem changeDirectory_of_opensFile (hthere : w.system.files.node? loc ≠ none) (path : String) :
    opened.changeDirectory path =
      (withPath path (w.system.enterDirectory w.process.directory)).map opened.inDirectory := by
  obtain ⟨-, system, hready, -, -, rfl⟩ := h.spec
  have hrewritten : w.system.files.Rewritten system.files := hready.rewritten hthere
  have henter : ∀ path, system.enterDirectory w.process.directory path =
      w.system.enterDirectory w.process.directory path :=
    System.enterDirectory_of_rewritten hrewritten w.process.directory
  unfold World.changeDirectory
  rw [funext henter]
  rfl

/-- A builtin does the same and reports the same with the file open as without, and changes nothing
but the current directory. -/
theorem Builtin.run_of_opensFile {builtin : Builtin}
    (hcd : builtin = .cd → w.system.files.node? loc ≠ none) (arguments : List String)
    (path : SearchPath) (shell : Shell) :
    ∃ directory, (builtin.run arguments path shell w).world = w.inDirectory directory ∧
      builtin.run arguments path shell opened =
        { builtin.run arguments path shell w with world := opened.inDirectory directory } := by
  have hhere : opened.inDirectory w.process.directory = opened := by
    obtain ⟨-, system, -, -, -, rfl⟩ := h.spec
    rfl
  cases builtin with
  | echo =>
    refine ⟨w.process.directory, rfl, ?_⟩
    simp only [run, hhere]
  | exit =>
    refine ⟨w.process.directory, ?_, ?_⟩
    · simp only [run, runExit]
      repeat' split
      all_goals rfl
    · simp only [run, runExit, hhere]
      repeat' split
      all_goals rfl
  | type =>
    refine ⟨w.process.directory, rfl, ?_⟩
    simp only [run, runType, describe_of_opensFile h, hhere]
  | pwd =>
    refine ⟨w.process.directory, ?_, ?_⟩
    · simp only [run, runPwd]
      split <;> rfl
    · simp only [run, runPwd, currentPath_of_opensFile h, hhere]
      split <;> rfl
  | cd =>
    have hhome : opened.home = w.home := by
      obtain ⟨-, system, -, -, -, rfl⟩ := h.spec
      rfl
    simp only [run, runCd, hhome, changeDirectory_of_opensFile h (hcd rfl),
      World.changeDirectory_eq w]
    cases cdTarget? w.home arguments with
    | none => exact ⟨w.process.directory, rfl, by simp only [hhere]⟩
    | some entered =>
      simp only
      cases withPath entered (w.system.enterDirectory w.process.directory) with
      | error fault =>
        refine ⟨w.process.directory, rfl, ?_⟩
        simp only [Except.map, hhere]
      | ok directory => exact ⟨directory, rfl, rfl⟩

end Opened

/-! ### What both runs write -/

namespace Diversion

/-- Writes to a stream, or to where it is diverted. -/
def send (diversion : Diversion) (w : World) (stream : OutputStream) (data : Bytes) :
    Option World :=
  (diversion.write w stream data).toOption

variable {stream diverted : OutputStream} {data : Bytes}

/-- What is written to a stream that is diverted goes to the descriptor. -/
theorem write_self (w : World) (stream : OutputStream) (fd : Nat) (data : Bytes) :
    write (some (stream, fd)) w stream data = w.write fd data :=
  if_pos rfl

/-- The other stream is a standard stream as ever. -/
theorem write_of_ne (h : diverted ≠ stream) (w : World) (fd : Nat) (data : Bytes) :
    write (some (diverted, fd)) w stream data = w.writeStandard stream.descriptor data :=
  if_neg h

/-- A stream takes what is written to it: the descriptor to which it is diverted takes it, or the
stream itself does not refuse it. -/
def Takes (diversion : Diversion) (w : World) (stream : OutputStream) : Prop :=
  match diversion with
  | some (diverted, fd) =>
    if diverted = stream then w.Takes fd else ¬w.Refuses stream.descriptor
  | none => ¬w.Refuses stream.descriptor

variable {diversion : Diversion} {w w' : World}

/-- Something can be written exactly if it is taken. -/
theorem takes_iff_send (hdata : data ≠ []) :
    diversion.Takes w stream ↔ ∃ w', diversion.send w stream data = some w' := by
  have hstandard : ¬w.Refuses stream.descriptor ↔
      ∃ w', (w.writeStandard stream.descriptor data).toOption = some w' := by
    rw [World.refuses_iff_writeStandard hdata]
    cases w.writeStandard stream.descriptor data <;> simp [Except.toOption]
  unfold Takes send Diversion.write
  cases diversion with
  | none => exact hstandard
  | some diverted =>
    simp only
    split
    · rw [← World.isSome_write_iff hdata, Option.isSome_iff_exists]
    · exact hstandard

/-- Writing changes nothing about where to write. -/
theorem sameOutlets_send (h : diversion.send w stream data = some w') : w.SameOutlets w' := by
  unfold send Diversion.write at h
  have hok : ∀ {attempt : Except Errno World}, attempt.toOption = some w' → attempt = .ok w' := by
    rintro (errno | next) heq
    · cases heq
    · exact congrArg Except.ok (Option.some.inj heq)
  split at h
  · split at h
    · exact World.sameOutlets_write (hok h)
    · exact World.sameOutlets_writeStandard (hok h)
  · exact World.sameOutlets_writeStandard (hok h)

/-- So the streams take what they have taken. -/
theorem takes_of_sameOutlets (h : w.SameOutlets w') (diversion : Diversion)
    (stream : OutputStream) : diversion.Takes w' stream ↔ diversion.Takes w stream := by
  unfold Takes
  cases diversion with
  | none => exact not_congr (h.refuses _)
  | some diverted =>
    simp only
    split
    · exact h.takes _
    · exact not_congr (h.refuses _)

end Diversion

/-- The writes that `deliver` makes, each with the stream that it is for. -/
def written {σ : Type} (write : σ → OutputStream → Bytes → Option σ) :
    σ → List (OutputStream × List Char) → List (OutputStream × Bytes)
  | _, [] => []
  | s, (stream, line) :: rest =>
    let data := Bytes.ofText (line ++ ['\n'])
    match write s stream data with
    | some s => (stream, data) :: written write s rest
    | none => []

/-- What a builtin writes, and for which stream. -/
def Builtin.writes (builtin : Builtin) (arguments : List String) (path : SearchPath)
    (diversion : Diversion) (shell : Shell) (world : World) : List (OutputStream × Bytes) :=
  let report := builtin.run arguments path shell world
  written diversion.send report.world report.lines

/-- A line ends, so it is not empty. -/
theorem ofText_line_ne_nil (line : List Char) : Bytes.ofText (line ++ ['\n']) ≠ [] := by
  rw [Bytes.ofText_append]
  exact fun h => absurd (List.append_eq_nil_iff.1 h).2 (by decide)

/-- Lines are written alike in two runs in which the same of their streams take what is written. -/
theorem deliver_of_takes_iff {diversion diversion' : Diversion}
    (lines : List (OutputStream × List Char)) : ∀ {w w' : World},
    (∀ entry ∈ lines, diversion.Takes w entry.1 ↔ diversion'.Takes w' entry.1) →
      written diversion.send w lines = written diversion'.send w' lines ∧
        (deliver diversion.send w lines).2 = (deliver diversion'.send w' lines).2 := by
  induction lines with
  | nil => exact fun _ => ⟨rfl, rfl⟩
  | cons entry lines ih =>
    intro w w' h
    obtain ⟨stream, line⟩ := entry
    have hhere := h _ List.mem_cons_self
    simp only [Diversion.takes_iff_send (ofText_line_ne_nil line)] at hhere
    cases hsend : diversion.send w stream (Bytes.ofText (line ++ ['\n'])) with
    | none =>
      have hsend' : diversion'.send w' stream (Bytes.ofText (line ++ ['\n'])) = none := by
        rw [hsend] at hhere
        simpa [Option.eq_none_iff_forall_ne_some] using hhere
      simp only [written, deliver, hsend, hsend', and_self]
    | some next =>
      obtain ⟨next', hsend'⟩ := hhere.1 ⟨next, hsend⟩
      have hnext := Diversion.takes_of_sameOutlets (Diversion.sameOutlets_send hsend)
      have hnext' := Diversion.takes_of_sameOutlets (Diversion.sameOutlets_send hsend')
      obtain ⟨hwritten, hdelivered⟩ := ih fun entry hentry =>
        (hnext diversion _).trans
          ((h entry (List.mem_cons_of_mem _ hentry)).trans (hnext' diversion' _).symm)
      simp only [written, deliver, hsend, hsend']
      exact ⟨congrArg (List.cons _) hwritten, hdelivered⟩

/-- Writing lines does not change the process. -/
theorem process_deliver (diversion : Diversion) (lines : List (OutputStream × List Char)) :
    ∀ w : World, (deliver diversion.send w lines).1.process = w.process := by
  induction lines with
  | nil => exact fun _ => rfl
  | cons entry lines ih =>
    intro w
    obtain ⟨stream, line⟩ := entry
    cases hsend : diversion.send w stream (Bytes.ofText (line ++ ['\n'])) with
    | none => simp only [deliver, hsend]
    | some next =>
      simp only [deliver, hsend]
      exact (ih next).trans (Diversion.sameOutlets_send hsend).process

/-- How the worlds of the two runs stand to each other while they write: the plain one, the one in
which nothing is written to the stream that is redirected, and the one in which that goes to the
file.  Some streams are written to, and only these need to be fit for it. -/
structure SideBySide (used : OutputStream → Prop) (redirected : OutputStream) (fd : Nat)
    (loc : Location) (permissions : Nat) (content : Bytes) (plain without diverted : World) :
    Prop where
  room : used redirected → ¬plain.Refuses redirected.descriptor
  apart : ∀ stream, used stream → stream ≠ redirected → ¬diverted.LeadsTo stream.descriptor loc
  same : ∀ other, plain.Refuses other ↔ without.Refuses other
  unused : fd = without.process.descriptors.unused
  beside : without.Beside diverted loc permissions content

section Lines

variable {used : OutputStream → Prop} {redirected : OutputStream} {permissions : Nat}
  {content data : Bytes} {plain without diverted : World}

/-- What is written to the stream that is redirected goes to the file instead. -/
theorem SideBySide.write_redirected
    (h : SideBySide used redirected fd loc permissions content plain without diverted)
    (hused : used redirected) (hdata : data ≠ []) :
    ∃ plain' diverted', plain.writeStandard redirected.descriptor data = .ok plain' ∧
      Diversion.write (some (redirected, fd)) diverted redirected data = .ok diverted' ∧
      SideBySide used redirected fd loc permissions (content ++ data) plain' without diverted' := by
  obtain ⟨plain', hplain⟩ := World.exists_writeStandard_of_not_refuses (h.room hused) hdata
  obtain ⟨diverted', hfile, hbeside⟩ := h.beside.write_file data
  rw [← h.unused] at hfile
  have hplainSame := World.sameOutlets_writeStandard hplain
  have hdivertedSame := World.sameOutlets_write hfile
  refine ⟨plain', diverted', hplain, (Diversion.write_self ..).trans hfile, ?_⟩
  exact {
    room := fun hused => mt (hplainSame.refuses _).1 (h.room hused)
    apart := fun stream hused hne => mt (hdivertedSame.leadsTo _ _).1 (h.apart stream hused hne)
    same := fun other => (hplainSame.refuses other).trans (h.same other)
    unused := h.unused
    beside := hbeside }

/-- What is written to the other stream is written to it in both runs, or in none. -/
theorem SideBySide.write_other
    (h : SideBySide used redirected fd loc permissions content plain without diverted)
    {stream : OutputStream} (hused : used stream) (hstream : stream ≠ redirected)
    (hdata : data ≠ []) :
    (∃ errno errno', plain.writeStandard stream.descriptor data = .error errno ∧
      Diversion.write (some (redirected, fd)) diverted stream data = .error errno') ∨
    ∃ plain' without' diverted', plain.writeStandard stream.descriptor data = .ok plain' ∧
      without.writeStandard stream.descriptor data = .ok without' ∧
      Diversion.write (some (redirected, fd)) diverted stream data = .ok diverted' ∧
      SideBySide used redirected fd loc permissions content plain' without' diverted' := by
  have hdiverted := Diversion.write_of_ne hstream.symm diverted fd data
  rcases h.beside.writeStandard (h.apart stream hused hstream) data with
    ⟨errno', hwithout, hbeside⟩ | ⟨without', diverted', hwithout, hbeside, hnext⟩
  · have hrefuses : plain.Refuses stream.descriptor :=
      (h.same _).2 ((World.refuses_iff_writeStandard hdata).2 ⟨errno', hwithout⟩)
    obtain ⟨errno, hplain⟩ := (World.refuses_iff_writeStandard hdata).1 hrefuses
    exact .inl ⟨errno, errno', hplain, hdiverted.trans hbeside⟩
  · have hroom : ¬plain.Refuses stream.descriptor := by
      rw [h.same, World.refuses_iff_writeStandard hdata, hwithout]
      rintro ⟨_, herror⟩
      cases herror
    obtain ⟨plain', hplain⟩ := World.exists_writeStandard_of_not_refuses hroom hdata
    have hplainSame := World.sameOutlets_writeStandard hplain
    have hwithoutSame := World.sameOutlets_writeStandard hwithout
    have hdivertedSame := World.sameOutlets_writeStandard hbeside
    refine .inr ⟨plain', without', diverted', hplain, hwithout, hdiverted.trans hbeside, ?_⟩
    exact {
      room := fun hused => mt (hplainSame.refuses _).1 (h.room hused)
      apart := fun other hused hne => mt (hdivertedSame.leadsTo _ _).1 (h.apart other hused hne)
      same := fun other =>
        (hplainSame.refuses other).trans ((h.same other).trans (hwithoutSame.refuses other).symm)
      unused := hwithoutSame.process ▸ h.unused
      beside := hnext }

/-- **The lines of a report in both runs.**  What is written to the stream that is redirected stands
in the file, and without it the diverted run is like the plain one. -/
theorem deliver_sideBySide (lines : List (OutputStream × List Char)) :
    ∀ {content : Bytes} {plain without diverted : World}, (∀ entry ∈ lines, used entry.1) →
      SideBySide used redirected fd loc permissions content plain without diverted →
      let writes := written (Diversion.send none) plain lines
      let plain' := (deliver (Diversion.send none) plain lines).1
      ∃ without', plain.writeAll writes = some plain' ∧
        without.writeAll (writes.filter (·.1 ≠ redirected)) = some without' ∧
        SideBySide used redirected fd loc permissions (content ++ bytesOn redirected writes) plain'
          without' (deliver (Diversion.send (some (redirected, fd))) diverted lines).1 := by
  induction lines with
  | nil =>
    intro content plain without diverted hlines h writes plain'
    refine ⟨without, rfl, rfl, ?_⟩
    have hcontent : content ++ bytesOn redirected writes = content := List.append_nil content
    rw [hcontent]
    exact h
  | cons entry lines ih =>
    intro content plain without diverted hlines h
    obtain ⟨stream, line⟩ := entry
    obtain ⟨hused, hlines⟩ := List.forall_mem_cons.1 hlines
    have hdata := ofText_line_ne_nil line
    by_cases hstream : stream = redirected
    · subst hstream
      obtain ⟨plain₁, diverted₁, hplain, hdiverted, hnext⟩ := h.write_redirected hused hdata
      obtain ⟨without', hwrites, hothers, hend⟩ := ih hlines hnext
      have hsend : Diversion.send none plain stream _ = some plain₁ :=
        congrArg Except.toOption hplain
      have hsend' : Diversion.send (some (stream, fd)) diverted stream _ = some diverted₁ :=
        congrArg Except.toOption hdiverted
      simp only [deliver, written, hsend, hsend']
      refine ⟨without', (World.writeAll_cons hplain _).trans hwrites, ?_, ?_⟩
      · rw [List.filter_cons_of_neg (by simp)]
        exact hothers
      · rw [bytesOn_cons_self, ← List.append_assoc]
        exact hend
    · rcases h.write_other hused hstream hdata with ⟨errno, errno', hplain, hdiverted⟩ |
        ⟨plain₁, without₁, diverted₁, hplain, hwithout, hdiverted, hnext⟩
      · -- the stream has no room, so both runs stop here
        have hsend : Diversion.send none plain stream _ = none := congrArg Except.toOption hplain
        have hsend' : Diversion.send (some (redirected, fd)) diverted stream _ = none :=
          congrArg Except.toOption hdiverted
        simp only [deliver, written, hsend, hsend']
        refine ⟨without, rfl, rfl, ?_⟩
        rw [bytesOn_nil, List.append_nil]
        exact h
      · obtain ⟨without', hwrites, hothers, hend⟩ := ih hlines hnext
        have hsend : Diversion.send none plain stream _ = some plain₁ :=
          congrArg Except.toOption hplain
        have hsend' : Diversion.send (some (redirected, fd)) diverted stream _ = some diverted₁ :=
          congrArg Except.toOption hdiverted
        simp only [deliver, written, hsend, hsend']
        refine ⟨without', (World.writeAll_cons hplain _).trans hwrites, ?_, ?_⟩
        · rw [List.filter_cons_of_pos (by simpa using hstream)]
          exact (World.writeAll_cons hwithout _).trans hothers
        · rw [bytesOn_cons_of_ne hstream]
          exact hend

end Lines

/-! ### Both runs -/

/-- Two worlds differ at most in the file at a location, and in an open file that nobody holds any
more. -/
structure World.SameBut (w w' : World) (loc : Location) : Prop where
  process : w'.process = w.process
  console : w'.console = w.console
  children : w'.children = w.children
  nextChild : w'.nextChild = w.nextChild
  signals : w'.system.signals = w.system.signals
  opened : ∃ file, w'.system.opened = w.system.opened ++ [file]
  others : ∀ other, other ≠ loc → w'.system.files.node? other = w.system.files.node? other

/-- Once the file is closed again, nothing else is left of it. -/
theorem World.Beside.sameBut_close {w w' : World} {permissions : Nat} {content : Bytes}
    (h : w.Beside w' loc permissions content) :
    w.SameBut (w'.close w.process.descriptors.unused) loc where
  process := by
    simp only [close, h.process, Descriptors.close_set_unused]
  console := h.console
  children := h.children
  nextChild := h.nextChild
  signals := h.system.signals
  opened := by
    obtain ⟨file, hopened, -⟩ := h.system.opened
    exact ⟨file, hopened⟩
  others := h.system.others

section Runs

variable (programs : Programs) (path : SearchPath) (shell : Shell) {name : String}
  {arguments : List String} {builtin : Builtin}

/-- A builtin has something to say on a stream. -/
def Builtin.Uses (builtin : Builtin) (arguments : List String) (path : SearchPath) (shell : Shell)
    (w : World) (stream : OutputStream) : Prop :=
  ∃ line, (stream, line) ∈ (builtin.run arguments path shell w).lines

/-- A builtin comes to its end with the status of its report, if all lines could be written. -/
theorem Builtin.execute_eq {diversion : Diversion} {after : World} {delivered : Bool}
    (h : deliver diversion.send (builtin.run arguments path shell w).world
      (builtin.run arguments path shell w).lines = (after, delivered)) :
    builtin.execute arguments path diversion shell w =
      let report := builtin.run arguments path shell w
      ⟨.ok (report.finalStatus delivered), report.shell, after⟩ := by
  have hsend : (fun world stream data => (diversion.write world stream data).toOption) =
      diversion.send := rfl
  simp only [execute, hsend, h]

/-- The streams on which something is said take it with the file open as without, if the one that is
redirected has room. -/
theorem World.OpensFile.takes_iff (h : w.OpensFile mode target loc fd opened)
    (directory : Location) {redirected : OutputStream} {lines : List (OutputStream × List Char)}
    (hroom : (∃ line, (redirected, line) ∈ lines) → ¬w.Refuses redirected.descriptor) :
    ∀ entry ∈ lines, Diversion.Takes none (w.inDirectory directory) entry.1 ↔
      Diversion.Takes (some (redirected, fd)) (opened.inDirectory directory) entry.1 := by
  rintro ⟨stream, line⟩ hentry
  by_cases hstream : redirected = stream
  · subst hstream
    refine iff_of_true (hroom ⟨line, hentry⟩) ?_
    simp only [Diversion.Takes, if_pos]
    exact h.takes
  · simp only [Diversion.Takes, if_neg hstream]
    exact not_congr (h.refuses_iff _).symm

/-- A builtin is called without a redirection. -/
theorem execute_of_no_operator (hbuiltin : Builtin.ofName? name = some builtin)
    (hwords : ∀ word ∈ name :: arguments, isOperator word = false) :
    execute programs path (name :: arguments) shell w =
      builtin.execute arguments path none shell w := by
  simp only [execute, takeRedirect_of_no_operator hwords, executeArguments, hbuiltin]

/-- A builtin is called with a redirection put somewhere among its words. -/
theorem execute_of_operator (hbuiltin : Builtin.ofName? name = some builtin)
    (hwords : ∀ word ∈ name :: arguments, isOperator word = false) {operator : Operator}
    (hoperator : operator ∈ operators) (htarget : isOperator target = false) (position : Nat)
    (hopen : w.openForWriting operator.mode target = .ok (fd, opened)) :
    execute programs path ((name :: arguments).take position ++
        operator.word :: target :: (name :: arguments).drop position) shell w =
      let done := builtin.execute arguments path (some (operator.stream, fd)) shell opened
      { done with world := done.world.close fd } := by
  have htake := takeRedirect_insert hoperator htarget
    (fun word hword => hwords word (List.mem_of_mem_take (i := position) hword))
    (fun word hword => hwords word (List.mem_of_mem_drop (i := position) hword))
  rw [List.take_append_drop] at htake
  simp only [execute, htake, Redirect.open, hopen, executeArguments, hbuiltin, Diversion.close]

/-- Both runs come to their ends in the same directory, and with the same report to write. -/
theorem exists_execute_eq_deliver (hbuiltin : Builtin.ofName? name = some builtin)
    (hwords : ∀ word ∈ name :: arguments, isOperator word = false) {operator : Operator}
    (hoperator : operator ∈ operators) (htarget : isOperator target = false) (position : Nat)
    (hopens : w.OpensFile operator.mode target loc fd opened)
    (hcd : builtin = .cd → w.system.files.node? loc ≠ none) :
    let words := name :: arguments
    let report := builtin.run arguments path shell w
    let diversion : Diversion := some (operator.stream, fd)
    ∃ directory,
      let plain := deliver (Diversion.send none) (w.inDirectory directory) report.lines
      let diverted := deliver diversion.send (opened.inDirectory directory) report.lines
      execute programs path words shell w =
        ⟨.ok (report.finalStatus plain.2), report.shell, plain.1⟩ ∧
      execute programs path
          (words.take position ++ operator.word :: target :: words.drop position) shell w =
        ⟨.ok (report.finalStatus diverted.2), report.shell, diverted.1.close fd⟩ ∧
      builtin.writes arguments path none shell w =
        written (Diversion.send none) (w.inDirectory directory) report.lines ∧
      builtin.writes arguments path diversion shell opened =
        written diversion.send (opened.inDirectory directory) report.lines := by
  intro words report diversion
  obtain ⟨directory, hworld, hrun⟩ := Builtin.run_of_opensFile hopens hcd arguments path shell
  refine ⟨directory, ?_, ?_, by rw [Builtin.writes, hworld], by rw [Builtin.writes, hrun]⟩
  · rw [execute_of_no_operator programs path shell hbuiltin hwords]
    refine Builtin.execute_eq path shell ?_
    rw [hworld]
  · have hlines : deliver diversion.send (builtin.run arguments path shell opened).world
        (builtin.run arguments path shell opened).lines =
          deliver diversion.send (opened.inDirectory directory) report.lines := by
      rw [hrun]
    rw [execute_of_operator programs path shell hbuiltin hwords hoperator htarget position
      hopens.opens, Builtin.execute_eq path shell hlines, hrun]
    rfl

end Runs

/-- Of two runs of a builtin, the second does what the first one does, and what is for the stream of
an operator goes to the file at a location.  Both have the same status and leave the same shell and
the same process, with its current directory.  All that the first run has done, after the builtin
may have changed the directory, is its writes.  Without those to the stream of the operator they are
all that the other run has done as well, but for the file: it holds what the operator keeps of it
and then the bytes that were for the stream. -/
structure MovesOutput (operator : Operator) (loc : Location) (w : World)
    (writes : List (OutputStream × Bytes)) (plain diverted : Execution) : Prop where
  status : ∃ status, plain.result = .ok status ∧ diverted.result = .ok status
  shell : diverted.shell = plain.shell
  process : diverted.world.process = plain.world.process
  world : ∃ directory without permissions,
    (w.inDirectory directory).writeAll writes = some plain.world ∧
    (w.inDirectory directory).writeAll (writes.filter (·.1 ≠ operator.stream)) = some without ∧
    without.SameBut diverted.world loc ∧
    diverted.world.system.files.node? loc = some (.file permissions
      (w.system.files.keptContent operator.mode loc ++ bytesOn operator.stream writes))

/-- **A redirection moves what is written, and changes nothing else.**  A builtin is called without
an operator among its words, and it is called with one and a target put anywhere among them.  The
target opens as a plain file, which has been there before if the builtin is `cd`.

Then both runs leave the same shell and the same process, with its current directory.  If the
builtin says nothing on the stream of the operator, or that has room for it, both have the same
status and make the same writes.  If, moreover, the builtin says nothing on the other stream, or
that does not lead to the file, the redirection moves what is for the stream into the file, and
nothing else in the world is other than without it. -/
theorem execute_insert_redirect (programs : Programs) (path : SearchPath) (shell : Shell)
    {name : String} {arguments : List String} {builtin : Builtin}
    (hbuiltin : Builtin.ofName? name = some builtin)
    (hwords : ∀ word ∈ name :: arguments, isOperator word = false) {operator : Operator}
    (hoperator : operator ∈ operators) (htarget : isOperator target = false) (position : Nat)
    (hopens : w.OpensFile operator.mode target loc fd opened)
    (hcd : builtin = .cd → w.system.files.node? loc ≠ none) :
    let words := name :: arguments
    let plain := execute programs path words shell w
    let diverted := execute programs path
      (words.take position ++ operator.word :: target :: words.drop position) shell w
    let writes := builtin.writes arguments path none shell w
    let uses := builtin.Uses arguments path shell w
    (diverted.shell = plain.shell ∧ diverted.world.process = plain.world.process) ∧
    ((uses operator.stream → ¬w.Refuses operator.stream.descriptor) →
      (builtin.writes arguments path (some (operator.stream, fd)) shell opened = writes ∧
        ∃ status, plain.result = .ok status ∧ diverted.result = .ok status) ∧
      ((∀ stream, uses stream → stream ≠ operator.stream →
          ¬opened.LeadsTo stream.descriptor loc) →
        MovesOutput operator loc w writes plain diverted)) := by
  intro words plain diverted writes uses
  let report := builtin.run arguments path shell w
  obtain ⟨directory, hplain, hdiverted, hwrites, hwrites'⟩ := exists_execute_eq_deliver programs
    path shell hbuiltin hwords hoperator htarget position hopens hcd
  replace hplain : plain = _ := hplain
  replace hdiverted : diverted = _ := hdiverted
  replace hwrites : writes = _ := hwrites
  obtain ⟨permissions, hbeside⟩ := hopens.beside
  have hunused : fd = w.process.descriptors.unused := hopens.spec.1
  have hshell : diverted.shell = plain.shell := by rw [hdiverted, hplain]
  have hprocess : diverted.world.process = plain.world.process := by
    rw [hdiverted, hplain]
    simp only [World.close, process_deliver, World.inDirectory, hbeside.process, hunused,
      Descriptors.close_set_unused]
  refine ⟨⟨hshell, hprocess⟩, fun hroom => ?_⟩
  -- the same streams take what is written in both runs
  have htakes : ∀ entry ∈ report.lines, Diversion.Takes none (w.inDirectory directory) entry.1 ↔
      Diversion.Takes (some (operator.stream, fd)) (opened.inDirectory directory) entry.1 :=
    hopens.takes_iff directory hroom
  obtain ⟨hsame, hdelivered⟩ := deliver_of_takes_iff report.lines htakes
  have hstatus : ∃ status, plain.result = .ok status ∧ diverted.result = .ok status := by
    refine ⟨_, congrArg Execution.result hplain, (congrArg Execution.result hdiverted).trans ?_⟩
    rw [hdelivered]
  refine ⟨⟨hwrites'.trans (hsame.symm.trans hwrites.symm), hstatus⟩, fun hapart => ?_⟩
  have hstart : SideBySide uses operator.stream fd loc permissions
      (w.system.files.keptContent operator.mode loc) (w.inDirectory directory)
      (w.inDirectory directory) (opened.inDirectory directory) := by
    refine ⟨hroom, hapart, fun _ => Iff.rfl, hunused, ?_, hbeside.console, hbeside.children,
      hbeside.nextChild, hbeside.system⟩
    simp only [World.inDirectory, hbeside.process]
  have hused : ∀ entry ∈ report.lines, uses entry.1 := fun entry hentry => ⟨entry.2, hentry⟩
  obtain ⟨without, hall, hothers, hend⟩ := deliver_sideBySide report.lines hused hstart
  have hclose := hend.beside.sameBut_close
  rw [← hend.unused] at hclose
  refine ⟨hstatus, hshell, hprocess, directory, without, permissions, ?_⟩
  rw [hdiverted, hplain, hwrites]
  exact ⟨hall, hothers, hclose, hend.beside.system.file⟩

/-- A world with some files, whose streams have the first three descriptors. -/
private def World.withStreams (files : FileSystem) (output error : Target) : World where
  system :=
    { files
      opened := [{ target := .unnamed [], readable := true },
        { target := output, writable := true }, { target := error, writable := true }] }
  process := { descriptors := ⟨[(0, 0), (1, 1), (2, 2)]⟩ }

/-- A world with one file, in which the streams go to files without a name. -/
private def World.withNotes : World :=
  .withStreams { entries := [([Bytes.ofString "notes"], .file 0o600 (Bytes.ofString "a\n"))] }
    (.unnamed []) (.unnamed [])

/-- What is written goes behind what the file holds, although the redirection stands in front of the
command. -/
theorem execute_insert_redirect_notes :
    let plain := execute (fun _ _ => .error .noEntry) .empty ["echo", "b"] {} .withNotes
    let diverted :=
      execute (fun _ _ => .error .noEntry) .empty [">>", "notes", "echo", "b"] {} .withNotes
    ∃ status permissions, plain.result = .ok status ∧ diverted.result = .ok status ∧
      diverted.world.system.files.node? [Bytes.ofString "notes"] =
        some (.file permissions (Bytes.ofString "a\nb\n")) := by
  intro plain diverted
  have hopens : World.withNotes.OpensFile .append "notes" [Bytes.ofString "notes"] 3
      { World.withNotes with
        system := { World.withNotes.system with
          opened := World.withNotes.system.opened ++
            [{ target := .entry [Bytes.ofString "notes"], writable := true, appending := true }] }
        process := { descriptors := World.withNotes.process.descriptors.set 3 3 } } :=
    ⟨rfl, ⟨_, rfl, rfl⟩, ⟨_, _, rfl⟩⟩
  have hecho : Builtin.ofName? "echo" = some .echo := rfl
  have hwords : ∀ word ∈ ["echo", "b"], isOperator word = false := by decide
  have hoperator : (⟨">>", .output, .append⟩ : Operator) ∈ operators := by decide
  have htarget : isOperator "notes" = false := by decide
  have hcd : Builtin.echo = .cd →
      World.withNotes.system.files.node? [Bytes.ofString "notes"] ≠ none := by
    intro h
    cases h
  have hroom : ¬World.withNotes.Refuses 1 := by
    rintro ⟨handle, hhandle, file, loc, hfile, -, htarget, -⟩
    cases hhandle
    cases hfile
    cases htarget
  obtain ⟨-, hmoves⟩ := execute_insert_redirect (fun _ _ => .error .noEntry) .empty {} hecho hwords
    hoperator htarget 0 hopens hcd
  -- all that is said is for the stream of the operator
  have hused : ∀ stream, Builtin.echo.Uses ["b"] .empty {} .withNotes stream →
      stream = .output := by
    rintro stream ⟨line, hline⟩
    exact congrArg Prod.fst (List.mem_singleton.1 hline)
  obtain ⟨⟨status, hplain, hdiverted⟩, -, -, -, -, permissions, -, -, -, hfile⟩ :=
    (hmoves fun _ => hroom).2 fun stream hstream hother => absurd (hused stream hstream) hother
  exact ⟨status, permissions, hplain, hdiverted, hfile⟩

/-! ### Where a redirection changes more -/

/-- A world in which standard output goes to a device without room. -/
private def World.withFullOutput : World :=
  .withStreams { entries := [([Bytes.ofString "full"], .full)] } (.entry [Bytes.ofString "full"])
    (.unnamed [])

/-- A world with one file, to which errors go already. -/
private def World.withErrorFile : World :=
  .withStreams { entries := [([Bytes.ofString "t"], .file 0o644 [])] } (.unnamed [])
    (.entry [Bytes.ofString "t"])

/-- A world with a link to a file. -/
private def World.withLink : World :=
  .withStreams { entries := [([Bytes.ofString "u"], .file 0o644 (Bytes.ofString "keep\n")),
    ([Bytes.ofString "l"], .link (Bytes.ofString "u"))] } (.unnamed []) (.unnamed [])

/-- A redirection of standard output does not always move what is written and change nothing else,
although the target opens as a plain file.  If standard output is full, the redirection makes a
failure a success; if errors go to the target already, it holds more than the output; and if the
target is a link, it is another file than the one of that name which is written to. -/
theorem not_movesOutput :
    let moves := fun (w : World) builtin name argument target =>
      MovesOutput ⟨">", .output, .truncate⟩ [Bytes.ofString target] w
        (Builtin.writes builtin [argument] .empty none {} w)
        (execute (fun _ _ => .error .noEntry) .empty [name, argument] {} w)
        (execute (fun _ _ => .error .noEntry) .empty [name, argument, ">", target] {} w)
    ((∃ loc fd opened, World.withFullOutput.OpensFile .truncate "t" loc fd opened) ∧
      ¬moves .withFullOutput .echo "echo" "b" "t") ∧
    ((∃ loc fd opened, World.withErrorFile.OpensFile .truncate "t" loc fd opened) ∧
      ¬moves .withErrorFile .cd "cd" "nope" "t") ∧
    (∃ loc fd opened, World.withLink.OpensFile .truncate "l" loc fd opened) ∧
      ¬moves .withLink .echo "echo" "b" "l" := by
  intro moves
  refine ⟨⟨⟨_, _, _, rfl, ⟨_, rfl, rfl⟩, _, _, rfl⟩, fun h => ?_⟩,
    ⟨⟨_, _, _, rfl, ⟨_, rfl, rfl⟩, _, _, rfl⟩, fun h => ?_⟩,
    ⟨_, _, _, rfl, ⟨_, rfl, rfl⟩, _, _, rfl⟩, fun h => ?_⟩
  · obtain ⟨status, hplain, hdiverted⟩ := h.status
    have hfails : (.ok 1 : Except CommandError Int) = .ok status := hplain
    have hsucceeds : (.ok 0 : Except CommandError Int) = .ok status := hdiverted
    cases hfails
    cases hsucceeds
  · obtain ⟨directory, without, permissions, -, -, -, hfile⟩ := h.world
    let message := Bytes.ofString "cd: nope: No such file or directory\n"
    have hmessage : some (Node.file 0o644 message) = some (.file permissions []) := hfile
    have hempty : message = [] := by
      injection hmessage with hnode
      injection hnode
    exact absurd hempty (by decide)
  · obtain ⟨directory, without, permissions, -, hothers, hsame, -⟩ := h.world
    cases hothers
    have hfile : some (Node.file 0o644 (Bytes.ofString "b\n")) =
        some (.file 0o644 (Bytes.ofString "keep\n")) :=
      hsame.others [Bytes.ofString "u"] (by decide)
    exact absurd hfile (by decide)

end LineShell
