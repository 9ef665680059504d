import LineShell.Userland.Script.Directory
import LineShell.Userland.Script.Forking
import LineShell.Userland.Script.Printing
import LineShell.Userland.Script.Resources

/-!
# Running scripts

A command is one of the script's own functions, a command of the language, or a program, which is
started like any other process and waited for; the other commands put commands under the control of
others.

## Main definitions

* `plainUtilities`, `utilityOf` — the commands of the language.
* `Calling`, `callingOf` — what the words of a command call.
* `runSimple` — carries out a command of words.
* `runLoop`, `runCase` — carries out commands under the control of others.
* `Command.run` — carries out any command.
-/

namespace LineShell.Script

/-- Ends loops around the command: as many as are asked for, or all that there are. -/
def Utility.leave (jump : Nat → Jump) : Utility := fun arguments => do
  let count ← match arguments.head? with
    | some text => do
      let count ← Act.number text
      if count = 0 then Act.fail ("Illegal number: ".toList ++ text)
      pure count
    | none => pure 1
  let loops := (← get).loops
  if loops = 0 then return {}
  else
    modify fun r => { r with status := 0 }
    throw (jump (min count loops))

/-- Ends a function, or a text that is carried out on its own. -/
def Utility.return : Utility := fun arguments => do
  if let some text := arguments.head? then
    let status ← Act.number text
    modify fun r => { r with status }
  throw .leaveFunction

/-- Ends the script. -/
def Utility.exit : Utility := fun arguments => do
  let status ← match arguments.head? with
    | some text => Act.number text
    | none => do
      let r ← get
      pure (r.trapStatus.getD r.status)
  modify fun r => { r with status }
  throw .finish

/-- The commands of the language that only change the script. -/
def plainUtilities : List (String × Utility) :=
  [(":", .succeed), ("[", .bracket), ("alias", .alias), ("bg", .resume),
    ("break", .leave .leaveLoops), ("cd", .changeDirectory), ("chdir", .changeDirectory),
    ("continue", .leave .nextRound), ("echo", .echo), ("exit", .exit), ("export", .export),
    ("false", .refuse), ("fg", .resume), ("getopts", .getopts), ("jobs", .jobs),
    ("kill", .kill), ("local", .keepLocal), ("printf", .format),
    ("pwd", .showDirectory), ("read", .read), ("readonly", .readonly), ("return", .return),
    ("set", .set), ("shift", .shift), ("test", .condition), ("times", .times), ("trap", .trap),
    ("true", .succeed), ("ulimit", .limit), ("umask", .mask), ("unalias", .unalias),
    ("unset", .unset)]

/-- The commands of the language that carry out others, or tell what they are. -/
def otherUtilities : List String := [".", "command", "eval", "exec", "hash", "type", "wait"]

/-- Whether a word is a command of the language. -/
def isUtility (word : Octets) : Bool :=
  let name := String.ofList word
  otherUtilities.contains name || (plainUtilities.lookup name).isSome

/-- Whether a word is a command of the language that belongs to it more closely than others. -/
def isSpecialUtility (word : Octets) : Bool :=
  specialBuiltins.contains (String.ofList word) || word = "local".toList

/-- The commands of the language. -/
def vocabulary : Vocabulary where
  isUtility := isUtility
  isSpecial := isSpecialUtility

/-- The commands whose arguments can be values for names. -/
def assigningUtilities : List String := ["alias", "export", "local", "readonly"]

/-- What the words of a command call. -/
inductive Calling
  | nothing
  | function (body : Command)
  | utility (name : Octets)
  /-- A program, which is perhaps looked up in the standard directories. -/
  | program (usesDefault : Bool)

/-- A call of a command: what is called, with which words, and whether a mistake in it ends the
script and the values given to it stay. -/
structure Call where
  calling : Calling
  words : List Octets
  isSpecial : Bool := false

/-- The words behind those that only say how a command is looked up, and whether the standard
directories are to be used for that; there are none if they say something else. -/
def behindCommand? : (fuel : Nat) → (usesDefault : Bool) → List Octets →
    Option (Bool × List Octets)
  | 0, _, _ => none
  | fuel + 1, usesDefault, words =>
    match words with
    | ['-', '-'] :: rest => if rest.isEmpty then none else some (usesDefault, rest)
    | ('-' :: letter :: letters) :: rest =>
      if (letter :: letters).all (· = 'p') then behindCommand? fuel true rest else none
    | [] => none
    | words => some (usesDefault, words)

/-- What the words of a command call.  A command can be called such that functions do not count. -/
def callingOf (r : Running) : (fuel : Nat) → (isPlain usesDefault : Bool) → List Octets → Call
  | 0, _, _, words => ⟨.nothing, words, false⟩
  | _, _, _, [] => ⟨.nothing, [], false⟩
  | fuel + 1, isPlain, usesDefault, name :: arguments =>
    let words := name :: arguments
    let program : Call := ⟨.program usesDefault, words, false⟩
    if name.contains '/' then program
    else
      match if isPlain then r.functions.lookup name else none with
      | some body => ⟨.function body, words, false⟩
      | none =>
        if name = "command".toList then
          match behindCommand? (arguments.length + 1) usesDefault arguments with
          | some (usesDefault, words) =>
            { callingOf r fuel false usesDefault words with isSpecial := false }
          | none => ⟨.utility name, words, false⟩
        else if isUtility name then ⟨.utility name, words, isSpecialUtility name⟩
        else program

/-- What the words of a command call. -/
def Running.call (r : Running) (words : List Octets) : Call :=
  callingOf r (words.length + 1) true false words

/-- Whether the arguments of a command can be values for names. -/
def assigns (r : Running) (words : List Octets) : Bool :=
  match (r.call words).calling with
  | .utility name => assigningUtilities.contains (String.ofList name)
  | _ => false

/-- The fields of the words of a command, behind those that are known. -/
def fieldsBehind (substitute : Option Command → Act Octets) (known : List Octets) :
    List Word → Act (List Octets)
  | [] => return known
  | word :: rest => do
    match if assigns (← get) known then word.assignment? else none with
    | some (name, value) =>
      let text ← Act.textOfWord substitute .value value
      fieldsBehind substitute (known ++ [name ++ '=' :: text]) rest
    | none => fieldsBehind substitute (known ++ (← Act.fieldsOfWord substitute word)) rest

/-- Gives values to names for a command: for good, or until it is over. -/
def giveValues (substitute : Option Command → Act Octets) (isLocal isExported : Bool)
    (values : List (Octets × Word)) : Act (List (Octets × Octets)) :=
  values.mapM fun (name, word) => do
    let value ← Act.textOfWord substitute .value word
    if isLocal then Act.keepLocal name
    Act.assign name value
    if isLocal || isExported then Act.markExported name
    return (name, value)

/-- Shows a command, if the script asks for that, where messages went before its redirections. -/
def trace (run : Evaluator) (handle? : Option Handle) (values : List (Octets × Octets))
    (words : List Octets) : Act Unit := do
  if (← get).hasOption 'x' then
    let front ← expandShown run (((← get).valueOf? "PS4".toList).getD [])
    let shown := values.map (fun (name, value) => name ++ '=' :: value) ++ words
    let line := printedLine (front ++ [' '].intercalate shown)
    if let some handle := handle? then
      let r ← get
      let bound? := (r.process.limits.of .fileSize).current
      discard (Act.noteWritten (r.system.writeWithin bound? handle line.toBytes))

/-- Carries out an act to its end, or until it ends the function. -/
def untilReturn (act : Act Unit) : Act Unit := do
  try act
  catch
    | .leaveFunction => return ()
    | jump => throw jump

/-- How many functions can be carried out inside of one another. -/
def functionLimit : Nat := 1000

/-- Carries out a function of the script with some arguments. -/
def runFunction (run : Evaluator) (circumstances : Circumstances) (body : Command)
    (arguments : List Octets) : Act Unit := do
  let outer ← get
  if functionLimit ≤ outer.functionDepth then
    Act.fail ("Maximum function recursion depth (" ++ toString functionLimit ++ ") reached").toList
  set { outer with
    arguments, optionIndex := 1, optionOffset := 0, loops := 0
    functionDepth := outer.functionDepth + 1 }
  try untilReturn (run { circumstances with isLast := false } body)
  finally
    modify fun r =>
      { r with
        arguments := outer.arguments, optionIndex := outer.optionIndex,
        optionOffset := outer.optionOffset, loops := outer.loops,
        functionDepth := outer.functionDepth }

/-- The file of a script that is looked up by its name. -/
def findScript (name : Octets) : Act Octets := do
  if name.contains '/' then return name
  let r ← get
  let paths := ((r.searchPath? false).map (candidates · name)).getD []
  let isFile (path : Octets) : Bool := ((entryAt? r path).map (isRegular ·.2)).getD false
  match paths.find? isFile with
  | some path => return path
  | none => Act.fail (name ++ ": not found".toList)

/-- Opens a script under a number of the script's own, and gives that and the open file. -/
def openScript (path : Octets) : Act (Nat × Handle) := do
  let r ← get
  let (next, handle) ← Act.openNext .read path
  match r.process.nextDescriptor Running.ownDescriptors with
  | .ok fd =>
    Act.setDescriptor fd (some handle)
    return (fd, handle)
  | .error errno => Act.failAbout next errno

/-- Carries out the text of a file as if it stood in the script. -/
def Utility.source (run : Evaluator) : Utility := fun arguments => do
  match ← Act.withoutOptions arguments with
  | [] => return {}
  | name :: _ =>
    let path ← findScript name
    let (fd, handle) ← openScript path
    let act : Act Unit := untilReturn do
      let status ← runFile run .file 1 handle
      modify fun r => { r with status }
    try Act.onBehalfOf (some path) act
    finally Act.setDescriptor fd none
    return { status := (← get).status }

/-- Carries out a text as if it stood in the script. -/
def Utility.eval (run : Evaluator) (circumstances : Circumstances) : Utility := fun arguments => do
  if arguments.isEmpty then return {}
  let text := [' '].intercalate arguments
  return { status := ← runText run { circumstances with isLast := false } text }

/-- Tells what a command is, or does nothing. -/
def Utility.command : Utility := fun arguments => do
  let (options, words) ← Act.options ['p', 'v', 'V'] (fun _ => false) arguments
  let has (letter : Char) : Bool := options.any (·.1 = letter)
  match words with
  | word :: _ =>
    if has 'V' || has 'v' then describeWord vocabulary (has 'p') (has 'V') word else return {}
  | [] => return {}

/-- Lets a program take the place of the script, unless there are only redirections. -/
def Utility.exec (launch : Programs) (run : Evaluator) : Utility := fun arguments => do
  let words ← Act.withoutOptions arguments
  match words with
  | [] => return {}
  | name :: _ =>
    let r ← get
    match r.findProgram (r.searchPath? false) name with
    | .ok paths =>
      finishJobs run
      Act.replaceBy launch words paths
    | .error errno =>
      Act.warn (startComplaint name errno)
      modify fun r => { r with status := startStatus errno }
      throw .finish
    return {}

/-- The command of the language with a name. -/
def utilityOf (launch : Programs) (run : Evaluator) (circumstances : Circumstances)
    (name : Octets) : Utility :=
  match String.ofList name with
  | "." => .source run
  | "command" => .command
  | "eval" => .eval run circumstances
  | "exec" => .exec launch run
  | "hash" => .hash vocabulary
  | "type" => .type vocabulary
  | "wait" => .wait run
  | text => (plainUtilities.lookup text).getD .succeed

/-- Whether a script has to do something before its process ends. -/
def hasTraps (r : Running) : Bool :=
  r.traps.any fun entry => !entry.2.isEmpty

/-- Carries out what the words of a command call. -/
def runCall (launch : Programs) (run : Evaluator) (circumstances : Circumstances) (call : Call) :
    Act Unit := do
  let arguments := call.words.tail
  match call.calling with
  | .nothing => modify fun r => { r with status := r.wordStatus }
  | .function body => runFunction run circumstances body arguments
  | .utility name =>
    let utility := utilityOf launch run circumstances name
    try Act.perform name utility arguments
    catch jump => if jump = .fail && !call.isSpecial then pure () else throw jump
  | .program usesDefault =>
    if circumstances.isLast && !hasTraps (← get) then
      match ← Act.locateProgram? usesDefault (call.words.head?.getD []) with
      | some paths =>
        finishJobs run
        Act.replaceBy launch call.words paths
      | none => modify fun r => { r with status := 127 }
    else
      giveTurn run
      let status ← Act.runProgram launch usesDefault call.words
      modify fun r => { r with status }

/-- Carries out a command of words, with values for names and redirections. -/
def runSimple (launch : Programs) (run : Evaluator) (circumstances : Circumstances) (line : Nat)
    (values : List (Octets × Word)) (words : List Word) (redirections : List Redirection) :
    Act Unit := do
  modify fun r => { r with line, wordStatus := 0 }
  let substitute := substitute run
  let words ← fieldsBehind substitute [] words
  let r ← get
  let call := r.call words
  let errors? := r.process.descriptors.get? World.standardError
  let replaces : Bool := match call.calling with
    | .utility name => name = "exec".toList
    | _ => false
  let isLasting := call.words.isEmpty || call.isSpecial
  let act : Act Unit := do
    let isExported := replaces && 1 < call.words.length
    let given ← giveValues substitute (!isLasting) isExported values
    trace run errors? given words
    runCall launch run circumstances call
  let failed : Act Unit := do
    modify fun r => { r with status := Act.errorStatus }
    if call.isSpecial then throw .fail
  let wrap (act : Act Unit) : Act Unit := if isLasting then act else Act.withSaved act
  let changes ← redirections.mapM (Act.changeOf substitute)
  wrap (Act.withChanges replaces changes act failed)

/-- Carries out a command, and ends the script if it has no success where that matters. -/
def checked (circumstances : Circumstances) (act : Act Unit) : Act Unit := do
  act
  let r ← get
  if r.hasOption 'e' && !circumstances.isTested && r.status ≠ 0 then throw .finish

/-- Carries out an act of which the status is looked at, and tells whether it has success. -/
def succeeds (run : Evaluator) (command : Command) : Act Bool := do
  run { isTested := true } command
  return (← get).status = 0

/-- Carries out an act in one more loop. -/
def inLoop {α : Type} (act : Act α) : Act α := do
  modify fun r => { r with loops := r.loops + 1 }
  try act
  finally modify fun r => { r with loops := r.loops - 1 }

/-- Carries out a part of a round of a loop.  If a jump ends the round, it is told whether the loop
goes on; jumps out of loops around this one are passed on to them. -/
def inRound (act : Act Unit) : Act (Option Bool) := do
  try
    act
    return none
  catch
    | .leaveLoops count =>
      if count ≤ 1 then return some false else throw (.leaveLoops (count - 1))
    | .nextRound count => if count ≤ 1 then return some true else throw (.nextRound (count - 1))
    | jump => throw jump

/-- Carries out the body of a loop, and gives the status and whether the loop goes on. -/
def runBody (run : Evaluator) (circumstances : Circumstances) (body : Command) :
    Act (Nat × Bool) := do
  let goesOn? ← inRound (run { circumstances with isLast := false } body)
  return ((← get).status, goesOn?.getD true)

/-- Carries out rounds as long as they ask for more, and gives the last status.  Each round is told
the status before. -/
def repeatRounds (round : Nat → Act (Nat × Bool)) : (fuel : Nat) → (status : Nat) → Act Nat
  | 0, status => return status
  | fuel + 1, status => do
    let (status, goesOn) ← round status
    if goesOn then repeatRounds round fuel status else return status

/-- Carries out a loop that goes on while its condition has, or has no, success. -/
def runLoop (run : Evaluator) (circumstances : Circumstances) (whileSuccess : Bool)
    (condition body : Command) : Act Nat :=
  let round (status : Nat) : Act (Nat × Bool) := do
    match ← inRound (run { isTested := true } condition) with
    | some goesOn => return (status, goesOn)
    | none =>
      if ((← get).status == 0) = whileSuccess then runBody run circumstances body
      else return (status, false)
  inLoop (repeatRounds round roundLimit 0)

/-- Carries out a loop over texts. -/
def runForEach (run : Evaluator) (circumstances : Circumstances) (name : Octets) (body : Command) :
    (texts : List Octets) → (status : Nat) → Act Nat
  | [], status => return status
  | text :: rest, _ => do
    Act.assign name text
    let (status, goesOn) ← runBody run circumstances body
    if goesOn then runForEach run circumstances name body rest status else return status

/-- Whether one of some words is a pattern for a text. -/
def matchesAny (substitute : Option Command → Act Octets) (text : Octets) :
    List Word → Act Bool
  | [] => return false
  | word :: rest => do
    if (← Act.patternOfWord substitute word).accepts text then return true
    else matchesAny substitute text rest

/-- Carries out the first arm that has a pattern for a text. -/
def runCase (run : Evaluator) (circumstances : Circumstances) (text : Octets) :
    List (List Word × Option Command) → Act Unit
  | [] => modify fun r => { r with status := 0 }
  | (patterns, body?) :: rest => do
    if ← matchesAny (substitute run) text patterns then
      match body? with
      | some body => run circumstances body
      | none => modify fun r => { r with status := 0 }
    else runCase run circumstances text rest

/-- The commands that follow one another in a command, in front of some others. -/
def Command.stepsBefore : Command → List Command → List Command
  | .sequence first second, rest => Command.stepsBefore first (second :: rest)
  | command, rest => command :: rest

/-- Carries out commands one after the other. -/
def runSteps (run : Evaluator) (circumstances : Circumstances) : List Command → Act Unit
  | [] => return ()
  | [command] => run circumstances command
  | command :: rest => do
    run { circumstances with isLast := false } command
    runSteps run circumstances rest

/-- Carries out a command in a process of its own. -/
def runSubshell (run : Evaluator) (circumstances : Circumstances) (body : Command)
    (changes : List Change) : Act Unit := do
  giveTurn run
  let ending ← inChild run do
    changes.forM Act.applyChange
    run { circumstances with isLast := true } body
  let status ← Act.noteEnding ending
  modify fun r => { r with status }

/-- Carries out a command; those in it are carried out by `run`. -/
def carryOut (launch : Programs) (run : Evaluator) (circumstances : Circumstances) :
    Command → Act Unit
  | .simple line values words redirections =>
    checked circumstances (runSimple launch run circumstances line values words redirections)
  | .pipeline commands => checked circumstances do
    giveTurn run
    let status ← runPipeline run circumstances none commands
    modify fun r => { r with status }
  | .background command => runInBackground command
  | .negated command => do
    let status := if ← succeeds run command then 1 else 0
    modify fun r => { r with status }
  | .andThen first second => do
    if ← succeeds run first then run circumstances second
  | .orElse first second => do
    if !(← succeeds run first) then run circumstances second
  | .sequence first second =>
    runSteps run circumstances ((Command.sequence first second).stepsBefore [])
  | .subshell line body redirections => checked circumstances do
    modify fun r => { r with line }
    let changes ← redirections.mapM (Act.changeOf (substitute run))
    runSubshell run circumstances body changes
  | .redirected line body redirections => do
    modify fun r => { r with line }
    let changes ← redirections.mapM (Act.changeOf (substitute run))
    Act.withChanges false changes (run { circumstances with isLast := false } body)
      (modify fun r => { r with status := Act.errorStatus })
  | .choice condition success failure => do
    if ← succeeds run condition then run circumstances success
    else
      match failure with
      | some failure => run circumstances failure
      | none => modify fun r => { r with status := 0 }
  | .loop whileSuccess condition body => do
    let status ← runLoop run circumstances whileSuccess condition body
    modify fun r => { r with status }
  | .forEach line name items body => do
    modify fun r => { r with line }
    let texts ← items.flatMapM (Act.fieldsOfWord (substitute run))
    let status ← inLoop (runForEach run circumstances name body texts 0)
    modify fun r => { r with status }
  | .case line word arms => do
    modify fun r => { r with line }
    let text ← Act.textOfWord (substitute run) .single word
    runCase run circumstances text arms
  | .function _ name body =>
    modify fun r =>
      { r with
        functions := (name, body) :: r.functions.filter (·.1 != name)
        programs := r.programs.filter (·.name != name)
        status := 0 }

/-- Carries out any command, and then does what has been chosen about the signals that have come in.
Commands can be nested `fuel` deep; those beyond that need memory that there is not. -/
def Command.run (launch : Programs) : (fuel : Nat) → Evaluator
  | 0 => fun _ _ => throw (.ended (.signaled .segmentation))
  | fuel + 1 => fun circumstances command => do
    let run := Command.run launch fuel
    if !(← get).hasOption 'n' then
      carryOut launch run circumstances command
      runTraps run

end LineShell.Script
