import LineShell.Userland.Script.Run

/-!
# Starting scripts

The program that runs scripts gets a script as a text, as a file, or on its standard input, with
options in front and arguments behind.  Values come from the environment, and some are always there.

## Main definitions

* `Running.ofChild` — a script at its start.
* `Act.chooseScript`, `Source` — where the script comes from.
* `runOwnFiles` — what the user has put in front of scripts.
* `runInterpreter` — runs a script from its start to its end.
-/

namespace LineShell.Script

/-- The values that a script has if the environment does not give them. -/
def defaultValues : List (String × String) :=
  [("PATH", defaultPath), ("PS1", "# "), ("PS2", "> "), ("PS4", "+ ")]

/-- The values that a script has whatever the environment gives. -/
def fixedValues (ancestors : List Process) : List (Octets × Octets) :=
  [("IFS".toList, standardSeparators), ("OPTIND".toList, ['1']),
    ("PPID".toList, decimal ((ancestors.head?.map (·.id)).getD 0))]

/-- The names and values that an environment gives to a script. -/
def importedBindings (environment : List (Bytes × Bytes)) : List (Octets × Variable) :=
  environment.filterMap fun (name, value) =>
    let name := Octets.ofBytes name
    if isName name then some (name, { value := some (.ofBytes value), exported := true }) else none

/-- The name of the interpreter before it knows how it was called. -/
def ownName : Octets := "sh".toList

/-- A script at its start. -/
def Running.ofChild (system : System) (child : Child) : Running :=
  let bindings := importedBindings child.process.environment
  let missing := defaultValues.filter fun entry => (bindings.lookup entry.1.toList).isNone
  let defaults : List (Octets × Variable) :=
    missing.map fun (name, value) => (name.toList, { value := some value.toList })
  let r : Running :=
    { system, process := child.process, ancestors := child.ancestors, name := ownName
      scriptId := child.process.id, nextId := child.process.id + 1, arguments := []
      bindings := defaults ++ bindings }
  (fixedValues child.ancestors).foldl (fun r (name, value) =>
    r.bind name (some { (r.bindings.lookup name).getD {} with value := some value })) r

/-- Where a script comes from. -/
inductive Source
  | text (octets : Octets)
  | file (handle : Handle)
  | input
  deriving DecidableEq, Repr

/-- The letters that are no options, but tell how the script is started. -/
def startLetters : List Char := ['c', 'l']

namespace Act

/-- Finds out by which path the current directory is called: by that which the environment gives, if
it leads there. -/
def inheritDirectory : Act Unit := do
  let r ← get
  let given? := (r.valueOf? "PWD".toList).filter fun path =>
    path.head? = some '/' &&
      match r.system.enterDirectory r.process.directory (Octets.toBytes path) with
      | .ok directory => directory = r.process.directory
      | .error _ => false
  setDirectoryName given?

/-- Sets the options in front of some arguments, and gives those behind them and the letters that
are no options of the script: that the script is one of the arguments, or that the user logs in with
it.  Each argument takes one of `fuel` steps. -/
def startOptions : (fuel : Nat) → List Octets → Act (List Octets × List Char)
  | 0, arguments => return (arguments, [])
  | fuel + 1, arguments => do
    match arguments with
    | ['-'] :: rest | ['-', '-'] :: rest => return (rest, [])
    | (sign :: letters) :: rest =>
      if sign = '-' || sign = '+' then
        let (other, own) := letters.partition startLetters.contains
        let (_, rest) ← setLetters (sign = '-') own rest
        if sign = '-' && own.contains 'i' then modify (·.withOption 'm' true)
        let (rest, more) ← startOptions fuel rest
        return (rest, other ++ more)
      else return (arguments, [])
    | arguments => return (arguments, [])

/-- Finds out where the script comes from, and sets its name and its arguments.  Tells whether the
user logs in with it. -/
def chooseScript (arguments : List Octets) : Act (Source × Bool) := do
  let (arguments, letters) ← startOptions (arguments.length + 1) arguments
  let isText := letters.contains 'c'
  let isLogin := letters.contains 'l' || (← get).name.head? = some '-'
  match arguments with
  | [] =>
    if isText then fail "-c requires an argument".toList
    modify (·.withOption 's' true)
    return (.input, isLogin)
  | first :: rest =>
    if isText then
      let r ← get
      set { r with name := rest.head?.getD r.name, arguments := rest.tail }
      return (.text first, isLogin)
    else if (← get).hasOption 's' then
      modify fun r => { r with arguments }
      return (.input, isLogin)
    else
      let (_, handle) ← openScript first
      modify fun r => { r with name := first, arguments := rest }
      return (.file handle, isLogin)

end Act

/-- How deep commands can be nested. -/
def nestingLimit : Nat := 10000

/-- Carries out the script in an open file from a line on.  After a mistake it goes on, with the
next block of the file, if the user is asked for it. -/
def runScript (run : Evaluator) (handle : Handle) : (fuel : Nat) → (line : Nat) → Act Unit
  | 0, _ => return ()
  | fuel + 1, line => do
    try discard (runFile run (.script (expandShown run)) line handle)
    catch jump =>
      let r ← get
      if jump = .fail && r.isDialogue then runScript run handle fuel (r.line + 1)
      else throw jump

/-- Carries out a script that comes from standard input. -/
def runInput (run : Evaluator) : Act Unit := do
  if let some handle := (← get).process.descriptors.get? World.standardInput then
    runScript run handle roundLimit 1

/-- Carries out a text that is the script, or the start of one that comes from standard input, and
tells whether that is to go on. -/
def runGiven (run : Evaluator) (octets : Octets) : Act Bool := do
  let readsInput := (← get).hasOption 's'
  try
    discard (runText run { isLast := !readsInput } octets)
    return readsInput
  catch jump =>
    if jump = .fail && (← get).isDialogue then return true else throw jump

/-- Carries out a file of the user's own, the path of which is a text with values in it, if there is
one. -/
def runOwnFile (run : Evaluator) (text : Octets) : Act Unit := do
  let path ← expandShown run text
  let r ← get
  if let .ok (handle, system) := r.system.openForReading r.process.directory path.toBytes then
    set { r with system }
    untilReturn (discard (runFile run .file 1 handle))

/-- Carries out an act that does not keep the script from going on if the user is asked for it. -/
def inDialogue (act : Act Unit) : Act Unit := do
  try act
  catch jump =>
    if jump = .fail && (← get).isDialogue then return () else throw jump

/-- The file that a user has carried out on logging in. -/
def loginFile : Octets := "$HOME/.profile".toList

/-- Carries out what the user has put in front of each script: a file for logging in, and one for
scripts that the user is asked for. -/
def runOwnFiles (run : Evaluator) (isLogin : Bool) : Act Unit := do
  if isLogin then inDialogue (runOwnFile run loginFile)
  let r ← get
  let named? := (r.valueOf? "ENV".toList).filter fun text => r.hasOption 'i' && !text.isEmpty
  if let some text := named? then inDialogue (runOwnFile run text)

/-- Carries out a script. -/
def runSource (run : Evaluator) : Source → Act Unit
  | .file handle => runScript run handle roundLimit 1
  | .input => runInput run
  | .text octets => do
    if ← runGiven run octets then runInput run

/-- Runs the script that the arguments of a process ask for, from its start to its end. -/
def runInterpreter (launch : Programs) (system : System) (child : Child) : System × Ending :=
  let run := Command.run launch nestingLimit
  let arguments := child.arguments.map Octets.ofBytes
  let act : Act Unit := do
    Act.inheritDirectory
    modify fun r => { r with name := arguments.head?.getD ownName }
    let (source, isLogin) ← Act.chooseScript arguments.tail
    Act.giveUpControl
    runOwnFiles run isLogin
    runSource run source
  let whole : Act Ending := do
    let ending ← conclude run act
    try finishJobs run
    catch _ => pure ()
    return ending
  match whole.run (Running.ofChild system child) with
  | .ok ending r => (r.system, ending)
  | .error _ r => (r.system, .exited 2)

end LineShell.Script
