import LineShell.Proofs.CommandLine.BuiltinReports
import LineShell.Proofs.SearchPath.Found

/-!
# What `type` says, and what a command does

The builtin `type` tells of each name what it stands for, without calling it.  What it says agrees
with what is done when the name is called: a builtin is carried out by the shell, the file that is
named is started as a program, and a name that is not found is refused.

To tell which program is started, commands are carried out with any way of starting programs; the
way of the shell is one of them.

## Main definitions

* `Builtin.attempt` — carries out a builtin whose name is found by comparing, not in the table.
* `Starter`, `executeWith` — a way of starting programs, and a command carried out with it.
* `Meaning`, `Meaning.line` — what a name stands for, and the line that says so.
* `Meaning.IsMet` — calling a name comes to what it stands for.

## Main results

* `Builtin.attempt_cons` — the names that are compared are those of the table.
* `executeWith_spawn` — with the shell's own way of starting programs, this is what it does.
* `SearchPath.isMet_iff` — a call comes to what the name stands for, and to nothing else.
* `SearchPath.meaning_eq_iff` — what a name stands for can be told from the line about it.
* `type_agrees` — **`type` says what calling does**, one line for each name.
-/

namespace LineShell

/-! ### Commands, with any way of starting programs -/

/-- Carries out a command if its name is that of a builtin.  The name is compared with one after the
other, and the table is not consulted. -/
def Builtin.attempt (words : List String) (path : SearchPath) (diversion : Diversion)
    (shell : Shell) (world : World) : Option Execution :=
  match words with
  | [] => none
  | name :: arguments =>
    let carryOut := fun (builtin : Builtin) =>
      some (builtin.execute arguments path diversion shell world)
    match name with
    | "exit" => carryOut .exit
    | "echo" => carryOut .echo
    | "type" => carryOut .type
    | "pwd" => carryOut .pwd
    | "cd" => carryOut .cd
    | _ => none

/-- A way of starting programs: what comes of a program and its arguments, the name of the command
first, and of the descriptors that take the places of the output streams. -/
abbrev Starter :=
  World → String → List String → Option Int → Option Int → Except SpawnError (Nat × World)

/-- Starts a program and waits for its end. -/
def Starter.call (start : Starter) (program : String) (words : List String) (diversion : Diversion)
    (shell : Shell) (world : World) : Execution :=
  let started := start world program words (diversion.replacement? .output)
    (diversion.replacement? .error)
  match started with
  | .error e => ⟨.error (.process e), shell, world⟩
  | .ok (id, world) =>
    let (ended, world) := world.wait id
    ⟨ended.mapError .process, shell, world⟩

/-- Carries out what remains of a command.  The table tells whether it is a builtin; if the attempt
to carry it out came to nothing then, that would be a failure. -/
def executeArgumentsWith (start : Starter) (path : SearchPath) (words : List String)
    (diversion : Diversion) (shell : Shell) (world : World) : Execution :=
  match words with
  | [] => ⟨.ok 0, shell, world⟩
  | name :: arguments =>
    if isBuiltin name then
      (Builtin.attempt (name :: arguments) path diversion shell world).getD ⟨.ok 1, shell, world⟩
    else
      match path.resolve world name with
      | none => ⟨.error (.notFound name), shell, world⟩
      | some program => start.call program (name :: arguments) diversion shell world

/-- Carries out a command. -/
def executeWith (start : Starter) (path : SearchPath) (words : List String) (shell : Shell)
    (world : World) : Execution :=
  match takeRedirect words with
  | .error e => ⟨.error (.missingTarget e.operator), shell, world⟩
  | .ok (redirect, words) =>
    match openTarget redirect world with
    | .error e => ⟨.error e, shell, world⟩
    | .ok (diversion, opened) =>
      let done := executeArgumentsWith start path words diversion shell opened
      { done with world := diversion.close done.world }

section Commands

variable (start : Starter) (programs : Programs) (path : SearchPath) (shell : Shell)

/-- The names that are compared are those of the table. -/
theorem Builtin.attempt_cons (name : String) (arguments : List String) (diversion : Diversion)
    (w : World) :
    attempt (name :: arguments) path diversion shell w =
      (ofName? name).map fun builtin => builtin.execute arguments path diversion shell w := by
  unfold attempt
  simp only
  split
  · rfl
  · rfl
  · rfl
  · rfl
  · rfl
  · next hexit hecho htype hpwd hcd =>
    -- every name of the table is among those that it has been compared with
    cases hname : ofName? name with
    | none => rfl
    | some builtin =>
      have hmem := ofName?_eq_some_iff.1 hname
      simp only [table, List.mem_cons, Prod.mk.injEq, List.not_mem_nil, or_false] at hmem
      rcases hmem with ⟨h, -⟩ | ⟨h, -⟩ | ⟨h, -⟩ | ⟨h, -⟩ | ⟨h, -⟩
      · exact absurd h hcd
      · exact absurd h hecho
      · exact absurd h hexit
      · exact absurd h hpwd
      · exact absurd h htype

/-- With the shell's own way of starting programs, what remains of a command is carried out as the
shell does it. -/
theorem executeArgumentsWith_spawn (words : List String) (diversion : Diversion) (w : World) :
    executeArgumentsWith (World.spawn programs) path words diversion shell w =
      executeArguments programs path words diversion shell w := by
  cases words with
  | nil => rfl
  | cons name arguments =>
    simp only [executeArgumentsWith, executeArguments, isBuiltin, Builtin.attempt_cons]
    cases Builtin.ofName? name with
    | some builtin => rfl
    | none =>
      simp only [Option.isSome_none, Bool.false_eq_true, if_false, executeProgram]
      cases path.resolve w name with
      | none => rfl
      | some program => rfl

/-- With the shell's own way of starting programs, a command is carried out as the shell does it. -/
theorem executeWith_spawn (words : List String) (w : World) :
    executeWith (World.spawn programs) path words shell w =
      execute programs path words shell w := by
  unfold executeWith
  simp only [executeArgumentsWith_spawn]
  exact (execute_eq programs path shell words w).symm

/-- Without an operator among the words there is no redirection to take out. -/
theorem executeWith_of_no_operator {words : List String}
    (hwords : ∀ word ∈ words, isOperator word = false) (w : World) :
    executeWith start path words shell w = executeArgumentsWith start path words none shell w := by
  simp only [executeWith, takeRedirect_of_no_operator hwords, openTarget]
  rfl

end Commands

/-! ### What a name stands for -/

/-- What a name stands for. -/
inductive Meaning
  | builtin
  | program (file : String)
  | nothing
  deriving DecidableEq, Repr

namespace Meaning

/-- The line that says what a name stands for. -/
def line (name : String) : Meaning → String
  | builtin => name ++ " is a shell builtin"
  | program file => name ++ " is " ++ file
  | nothing => name ++ ": not found"

/-- Calling a name with some arguments comes to what the name stands for.  A builtin is carried out
by the shell, however programs are started; a program is started under that name with nothing in
place of its streams, and waited for; and a name that stands for nothing is refused. -/
def IsMet (path : SearchPath) (shell : Shell) (w : World) (name : String)
    (arguments : List String) : Meaning → Prop
  | builtin => ∃ done, Builtin.attempt (name :: arguments) path none shell w = some done ∧
      ∀ start, executeWith start path (name :: arguments) shell w = done
  | program file => ∀ start, executeWith start path (name :: arguments) shell w =
      start.call file (name :: arguments) none shell w
  | nothing => ∀ start, (executeWith start path (name :: arguments) shell w).result =
      .error (.notFound name)

end Meaning

/-- A way of starting programs that fails and tells which program it was. -/
def Starter.telling : Starter :=
  fun _ program _ _ _ => .error (.nulByte program)

/-- What a name stands for, told from what has come of it. -/
def Meaning.ofResult : Except CommandError Int → Meaning
  | .ok _ => .builtin
  | .error (.process (.nulByte file)) => .program file
  | .error _ => .nothing

/-- What a name stands for: a builtin, or the file that the search finds. -/
def SearchPath.meaning (path : SearchPath) (w : World) (name : String) : Meaning :=
  if isBuiltin name then .builtin
  else
    match path.resolve w name with
    | some file => .program file
    | none => .nothing

section Meanings

variable {path : SearchPath} {shell : Shell} {w : World} {name : String} {arguments : List String}

/-- What `type` says of a name. -/
theorem Builtin.describe_eq (path : SearchPath) (w : World) (name : String) :
    describe path w name =
      ((path.meaning w name).line name, decide (path.meaning w name ≠ .nothing)) := by
  unfold describe SearchPath.meaning
  split
  · rfl
  · cases path.resolve w name with
    | none => rfl
    | some file => rfl

/-- A name stands for a program if it is not that of a builtin and a file is found for it. -/
theorem SearchPath.meaning_eq_program_iff {file : String} :
    path.meaning w name = .program file ↔
      isBuiltin name = false ∧ path.Finds w name file := by
  rw [← resolve_eq_some_iff, meaning]
  cases isBuiltin name with
  | true => simp
  | false => cases path.resolve w name <;> simp

/-- Calling a name comes to what it stands for. -/
theorem SearchPath.isMet_meaning (hwords : ∀ word ∈ name :: arguments, isOperator word = false) :
    (path.meaning w name).IsMet path shell w name arguments := by
  have hexecute := fun start => executeWith_of_no_operator start path shell hwords w
  simp only [executeArgumentsWith] at hexecute
  unfold meaning
  cases hbuiltin : isBuiltin name with
  | true =>
    obtain ⟨builtin, hname⟩ := Option.isSome_iff_exists.1 hbuiltin
    have hattempt := Builtin.attempt_cons path shell name arguments none w
    rw [hname] at hattempt
    refine ⟨_, hattempt, fun start => ?_⟩
    -- the failure that stands behind the attempt is not reached
    rw [hexecute, if_pos hbuiltin, hattempt]
    rfl
  | false =>
    have hprogram : ¬isBuiltin name = true := by rw [hbuiltin]; exact Bool.false_ne_true
    simp only [if_neg hprogram] at hexecute ⊢
    cases hresolve : path.resolve w name with
    | none =>
      intro start
      rw [hexecute, hresolve]
    | some file =>
      intro start
      rw [hexecute, hresolve]

/-- What is called can be told from what comes of it, if the way of starting programs tells. -/
theorem Meaning.ofResult_eq {meaning : Meaning}
    (h : meaning.IsMet path shell w name arguments) :
    ofResult (executeWith .telling path (name :: arguments) shell w).result = meaning := by
  cases meaning with
  | builtin =>
    obtain ⟨done, hattempt, hdone⟩ := h
    rw [Builtin.attempt_cons] at hattempt
    obtain ⟨builtin, -, rfl⟩ := Option.map_eq_some_iff.1 hattempt
    obtain ⟨delivered, after, hexecute⟩ := builtin.exists_execute_eq arguments path shell w none
    rw [hdone, hexecute]
    rfl
  | program file =>
    rw [h .telling]
    rfl
  | nothing =>
    rw [h .telling]
    rfl

/-- A call comes to one thing only. -/
theorem Meaning.eq_of_isMet {meaning other : Meaning}
    (h : meaning.IsMet path shell w name arguments) (h' : other.IsMet path shell w name arguments) :
    meaning = other :=
  (ofResult_eq h).symm.trans (ofResult_eq h')

/-- Different things are said of names that stand for different things, where no program has the
path that a builtin seems to have. -/
theorem Meaning.eq_of_line_eq {meaning other : Meaning} (h : meaning ≠ .program "a shell builtin")
    (h' : other ≠ .program "a shell builtin") (hline : meaning.line name = other.line name) :
    meaning = other := by
  -- behind the name stands either ` is `, followed by what it is, or the end of `nothing`
  have hend : ∀ text : String, name ++ " is " ++ text ≠ name ++ ": not found" := by
    intro text heq
    rw [String.append_assoc, String.append_right_inj] at heq
    have hchars := congrArg String.toList heq
    rw [String.toList_append] at hchars
    cases hchars
  have hbuiltin : name ++ " is a shell builtin" = name ++ " is " ++ "a shell builtin" := by
    rw [String.append_assoc]
    rfl
  cases meaning with
  | builtin =>
    cases other with
    | builtin => rfl
    | program file =>
      rw [line, line, hbuiltin, String.append_right_inj] at hline
      exact absurd (congrArg Meaning.program hline.symm) h'
    | nothing =>
      rw [line, line, hbuiltin] at hline
      exact absurd hline (hend _)
  | program file =>
    cases other with
    | builtin =>
      rw [line, line, hbuiltin, String.append_right_inj] at hline
      exact absurd (congrArg Meaning.program hline) h
    | program file' =>
      rw [line, line, String.append_right_inj] at hline
      exact congrArg Meaning.program hline
    | nothing => exact absurd hline (hend _)
  | nothing =>
    cases other with
    | builtin =>
      rw [line, line, hbuiltin] at hline
      exact absurd hline.symm (hend _)
    | program file => exact absurd hline.symm (hend _)
    | nothing => rfl

namespace SearchPath

/-- Calling a name comes to what it stands for and to nothing else. -/
theorem isMet_iff {meaning : Meaning}
    (hwords : ∀ word ∈ name :: arguments, isOperator word = false) :
    meaning.IsMet path shell w name arguments ↔ path.meaning w name = meaning := by
  have hmet : (path.meaning w name).IsMet path shell w name arguments := isMet_meaning hwords
  constructor
  · exact Meaning.eq_of_isMet hmet
  · rintro rfl
    exact hmet

/-- No program has the path that a builtin seems to have, if no directory has an empty path. -/
theorem meaning_ne_program (hpath : "" ∉ path.directories) :
    path.meaning w name ≠ .program "a shell builtin" := by
  intro h
  have hslash := slash_mem_of_finds hpath (meaning_eq_program_iff.1 h).2
  revert hslash
  decide

/-- What a name stands for can be told from the line about it. -/
theorem meaning_eq_iff (hpath : "" ∉ path.directories) {meaning : Meaning} :
    path.meaning w name = meaning ↔
      meaning ≠ .program "a shell builtin" ∧
        (path.meaning w name).line name = meaning.line name := by
  constructor
  · rintro rfl
    exact ⟨meaning_ne_program hpath, rfl⟩
  · rintro ⟨hne, hline⟩
    exact Meaning.eq_of_line_eq (meaning_ne_program hpath) hne hline

end SearchPath

end Meanings

/-- A name is that of a builtin if the table has it. -/
theorem isBuiltin_iff {name : String} :
    isBuiltin name = true ↔ name ∈ Builtin.table.map (·.1) := by
  rw [isBuiltin, Option.isSome_iff_exists, List.mem_map]
  constructor
  · rintro ⟨builtin, hname⟩
    exact ⟨_, Builtin.ofName?_eq_some_iff.1 hname, rfl⟩
  · rintro ⟨⟨_, builtin⟩, hmem, rfl⟩
    exact ⟨builtin, Builtin.ofName?_eq_some_iff.2 hmem⟩

/-! ### What `type` says -/

/-- Where its lines can be written, `type` writes one for each name, and its status tells whether
all names have been found. -/
theorem execute_type (programs : Programs) (path : SearchPath) (shell : Shell) {w : World}
    {names : List String} (hnames : ∀ name ∈ names, isOperator name = false)
    (htakes : w.Takes World.standardOutput) :
    ∃ after, execute programs path ("type" :: names) shell w =
        ⟨.ok (if .nothing ∈ names.map (path.meaning w) then 1 else 0), shell, after⟩ ∧
      w.writeAll (names.map fun name =>
          (.output, Bytes.ofText (((path.meaning w name).line name).toList ++ ['\n']))) =
        some after := by
  have hall : ∀ word ∈ "type" :: names, isOperator word = false :=
    List.forall_mem_cons.2 ⟨by decide, hnames⟩
  have hname : Builtin.ofName? "type" = some .type := rfl
  have hexecute : execute programs path ("type" :: names) shell w =
      Builtin.execute .type names path none shell w :=
    execute_of_no_operator programs path shell hname hall
  have hlines : ∀ entry ∈ (Builtin.run .type names path shell w).lines,
      w.Takes entry.1.descriptor := by
    intro entry hentry
    obtain ⟨description, -, rfl⟩ := List.mem_map.1 hentry
    exact htakes
  obtain ⟨after, hdeliver, hwrites⟩ := deliver_of_takes _ hlines
  -- the report, in terms of what the names stand for
  have hfound : (names.map (Builtin.describe path w)).all (·.2) = true ↔
      Meaning.nothing ∉ names.map (path.meaning w) := by
    simp [List.all_eq_true, Builtin.describe_eq]
  have hstatus : (Builtin.run .type names path shell w).status =
      if .nothing ∈ names.map (path.meaning w) then 1 else 0 := by
    simp only [Builtin.run, Builtin.runType, hfound, ite_not]
  have hsame : (Builtin.run .type names path shell w).lines.map
        (fun entry => (entry.1, Bytes.ofText (entry.2 ++ ['\n']))) =
      names.map fun name =>
        (.output, Bytes.ofText (((path.meaning w name).line name).toList ++ ['\n'])) := by
    simp only [Builtin.run, Builtin.runType, List.map_map]
    refine List.map_congr_left fun name _ => ?_
    simp only [Function.comp_apply, Builtin.describe_eq]
  rw [hsame] at hwrites
  refine ⟨after, ?_, hwrites⟩
  rw [hexecute, Builtin.execute_eq path shell hdeliver, ← hstatus]
  rfl

/-- **`type` says what calling does.**  Take any list of directories, any world, and a name and
arguments that are not spelled like operators.  What calling the name comes to, however programs
are started, is what the line of `type` says, and nothing else: a builtin is carried out by the
shell, a program is started, or the name is refused.  The names that the shell attempts to carry out
are those of the table, so that an attempt never comes to nothing; and the program is the file to
which the name leads, or the one in the first directory that has it.

Given several names, `type` writes the line of each in order, and its status is 1 if one of them at
least stands for nothing, and else 0. -/
theorem type_agrees (text : String) (shell : Shell) (w : World) :
    let path := SearchPath.parse text
    let line := fun name => (Builtin.describe path w name).1
    (∀ programs words,
      execute programs path words shell w =
        executeWith (World.spawn programs) path words shell w) ∧
    (∀ name arguments, (∀ word ∈ name :: arguments, isOperator word = false) →
      (∀ meaning : Meaning, meaning.IsMet path shell w name arguments ↔
        meaning ≠ .program "a shell builtin" ∧ line name = meaning.line name) ∧
      (∀ diversion world,
        (Builtin.attempt (name :: arguments) path diversion shell world).isSome =
          isBuiltin name) ∧
      (isBuiltin name = true ↔ name ∈ Builtin.table.map (·.1)) ∧
      ∀ file, (Meaning.program file).IsMet path shell w name arguments ↔
        isBuiltin name = false ∧ path.Finds w name file) ∧
    ∀ programs names, (∀ name ∈ names, isOperator name = false) →
      w.Takes World.standardOutput →
      ∃ status after, execute programs path ("type" :: names) shell w =
          ⟨.ok status, shell, after⟩ ∧
        (status = 0 ∨ status = 1) ∧
        (status = 1 ↔ ∃ name ∈ names, line name = name ++ ": not found") ∧
        w.writeAll (names.map fun name =>
          (.output, Bytes.ofText ((line name).toList ++ ['\n']))) = some after := by
  intro path line
  have hpath : "" ∉ path.directories := SearchPath.empty_not_mem_parse text
  have hline : ∀ name, line name = (path.meaning w name).line name := fun name =>
    congrArg Prod.fst (Builtin.describe_eq path w name)
  refine ⟨fun programs words => (executeWith_spawn programs path shell words w).symm, ?_, ?_⟩
  · intro name arguments hwords
    refine ⟨fun meaning => ?_, fun diversion world => ?_, isBuiltin_iff, fun file => ?_⟩
    · rw [SearchPath.isMet_iff hwords, hline]
      exact SearchPath.meaning_eq_iff hpath
    · rw [Builtin.attempt_cons, Option.isSome_map]
      rfl
    · rw [SearchPath.isMet_iff hwords]
      exact SearchPath.meaning_eq_program_iff
  · intro programs names hnames htakes
    obtain ⟨after, hexecute, hwrites⟩ := execute_type programs path shell hnames htakes
    have hnothing : Meaning.nothing ∈ names.map (path.meaning w) ↔
        ∃ name ∈ names, line name = name ++ ": not found" := by
      rw [List.mem_map]
      refine exists_congr fun name => and_congr_right fun _ => ?_
      rw [hline, SearchPath.meaning_eq_iff hpath]
      exact and_iff_right nofun
    refine ⟨_, after, hexecute, ?_, ?_, ?_⟩
    · split
      · exact .inr rfl
      · exact .inl rfl
    · rw [← hnothing]
      simp
    · simp only [hline]
      exact hwrites

/-- A world in which the name `x` stands in two directories, and may be executed in the second. -/
private def World.withTwoHits : World where
  system :=
    { files := { entries := [([Bytes.ofString "a"], .directory),
        ([Bytes.ofString "x", Bytes.ofString "a"], .file 0o644 []),
        ([Bytes.ofString "b"], .directory),
        ([Bytes.ofString "x", Bytes.ofString "b"], .file 0o755 [])] }
      opened := [{ target := .unnamed [], readable := true },
        { target := .unnamed [], writable := true }] }
  process := { descriptors := ⟨[(0, 0), (1, 1)]⟩ }

/-- A file that may not be executed does not hide a later one that may. -/
theorem type_agrees_twoHits :
    let path := SearchPath.parse "/a:/b"
    (∀ start : Starter, executeWith start path ["x", "y"] {} .withTwoHits =
      start.call "/b/x" ["x", "y"] none {} .withTwoHits) ∧
    ∃ after, execute (fun _ _ => .error .noEntry) path ["type", "x", "z"] {} .withTwoHits =
      ⟨.ok 1, {}, after⟩ := by
  intro path
  obtain ⟨-, hcall, htype⟩ := type_agrees "/a:/b" {} .withTwoHits
  obtain ⟨hmeaning, -⟩ := hcall "x" ["y"] (by decide)
  have htakes : World.withTwoHits.Takes 1 := ⟨1, rfl, _, rfl, rfl, fun _ h => by cases h⟩
  obtain ⟨status, after, hexecute, -, hstatus, -⟩ :=
    htype (fun _ _ => .error .noEntry) ["x", "z"] (by decide) htakes
  obtain rfl : status = 1 := hstatus.2 ⟨"z", by decide, by decide⟩
  exact ⟨(hmeaning (.program "/b/x")).2 ⟨by decide, by decide⟩, after, hexecute⟩

end LineShell
