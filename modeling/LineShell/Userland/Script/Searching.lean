import LineShell.Userland.Script.Condition
import LineShell.Userland.Script.Naming
import LineShell.Userland.Script.Token

/-!
# Programs that scripts start

A program is called by its path, or by a name that is looked up in a list of directories.  What is
found there but cannot be executed is passed over, and remembered for the message.

## Main definitions

* `candidates` — the paths under which a program may be found.
* `Running.findProgram` — the paths from the first program on.
* `Running.start` — starts a program under the first path that works.
* `Act.runProgram` — starts a program and waits for its end.
-/

namespace LineShell.Script

/-- The directories in which programs are looked up when none are named. -/
def defaultPath : String :=
  "/usr/local/sbin:/usr/local/bin:/usr/sbin:/usr/bin:/sbin:/bin"

/-- The paths of a file in the directories of a list. -/
def candidates (path name : Octets) : List Octets :=
  (path.splitOn ':').map fun directory =>
    if directory.isEmpty then name else directory ++ '/' :: name

/-- Whether an error says that there is nothing at a path. -/
def isAbsence (errno : Errno) : Bool :=
  errno = .noEntry || errno = .notDirectory

/-- What keeps a file from being found as a program. -/
def searchFault (r : Running) (path : Octets) : Option Errno :=
  match r.system.files.find r.process.directory path.toBytes with
  | .ok (_, node) => if isRegular node && node.isExecutable then none else some .accessDenied
  | .error errno => some errno

/-- The error of a search after one more fault: what is absent does not count. -/
def laterFault (before fault : Errno) : Errno :=
  if isAbsence fault then before else fault

/-- The paths under which a program may be found, from the first one on that leads to a program. -/
def Running.findProgram (r : Running) (path? : Option Octets) (name : Octets) :
    Except Errno (List Octets) :=
  if name.contains '/' then .ok [name]
  else
    let paths := (path?.map (candidates · name)).getD []
    match paths.dropWhile fun path => (searchFault r path).isSome with
    | [] => .error ((paths.filterMap (searchFault r)).foldl laterFault .noEntry)
    | found => .ok found

/-- The list of directories in which the script looks for programs: its own, or the standard one. -/
def Running.searchPath? (r : Running) (usesDefault : Bool) : Option Octets :=
  if usesDefault then some defaultPath.toList else r.valueOf? Running.searchName

/-- The program that runs scripts. -/
def interpreter : Octets := "/bin/sh".toList

/-- Starts a program at a path.  A file that is no program is run as a script. -/
def Running.startAt (launch : Programs) (r : Running) (inPlace : Bool) (path : Octets)
    (words : List Octets) : Except Errno (System × Except Errno Ending) :=
  let process := r.programProcess
  let child (program : Octets) (words : List Octets) : Child :=
    { process := if inPlace then process else { process with id := r.nextId },
      ancestors := if inPlace then r.ancestors else r.process :: r.ancestors,
      program := program.toBytes, arguments := words.map Octets.toBytes }
  match launch r.system (child path words) with
  | .error errno =>
    if errno = .execFormat then
      launch r.system (child interpreter (interpreter :: path :: words.tail))
    else .error errno
  | started => started

/-- Starts a program at the first path that works. -/
def Running.start (launch : Programs) (r : Running) (inPlace : Bool) (words : List Octets) :
    (fault : Errno) → List Octets → Except Errno (System × Except Errno Ending)
  | fault, [] => .error fault
  | fault, path :: rest =>
    match r.startAt launch inPlace path words with
    | .error errno => r.start launch inPlace words (laterFault fault errno) rest
    | started => started

/-- What is said about a program that cannot be started. -/
def startComplaint (name : Octets) (errno : Errno) : Octets :=
  name ++ ": ".toList ++ (if isAbsence errno then "not found" else errno.describe).toList

/-- The status of a program that cannot be started. -/
def startStatus (errno : Errno) : Nat :=
  if isAbsence errno || errno = .tooManyLinks || errno = .nameTooLong then 127 else 126

/-- The ending of a process that waiting for it reports. -/
def endingReported (reported : Except Errno Ending) : Ending :=
  reported.toOption.getD (.exited 1)

/-- The signals that end a process without a word about it. -/
def silentSignals : List Signal := [.interrupt, .brokenPipe]

namespace Act

/-- The number of the next process. -/
def takeId : Act Nat := do
  let id := (← get).nextId
  modify fun r => { r with nextId := id + 1 }
  return id

/-- The status of a process that has ended, with a word to the user if a signal has ended it. -/
def noteEnding (ending : Ending) : Act Nat := do
  takeSignal .childEnded
  if let .signaled signal := ending then
    if !silentSignals.contains signal then tell (printedLine signal.description.toList)
  return ending.status.toNat

/-- Forgets where a program has been found. -/
def forgetProgram (name : Octets) : Act Unit :=
  modify fun r => { r with programs := r.programs.filter (·.name != name) }

/-- Remembers where a program has been found, unless that was in the standard directories. -/
def noteProgram (usesDefault : Bool) (name path : Octets) : Act Unit := do
  if !name.contains '/' && !usesDefault then
    let found : Tracked := ⟨name, path, false⟩
    modify fun r =>
      let isKnown := r.programs.any (·.name = name)
      let replaced := r.programs.map fun tracked => if tracked.name = name then found else tracked
      { r with programs := if isKnown then replaced else r.programs ++ [found] }

/-- The paths of a program that is called by its name, or `none` once the user has been told. -/
def locateProgram? (usesDefault : Bool) (name : Octets) : Act (Option (List Octets)) := do
  let r ← get
  match r.findProgram (r.searchPath? usesDefault) name with
  | .ok paths =>
    noteProgram usesDefault name (paths.head?.getD name)
    return some paths
  | .error errno =>
    if !usesDefault then forgetProgram name
    warn (startComplaint name errno)
    return none

/-- Lets a program take the place of the script. -/
def replaceBy (launch : Programs) (words paths : List Octets) : Act Unit := do
  let r ← get
  match r.start launch true words .noEntry paths with
  | .ok (system, reported) =>
    set { r with system }
    throw (.ended (endingReported reported))
  | .error errno =>
    warn (startComplaint (words.head?.getD []) errno)
    modify fun r => { r with status := startStatus errno }
    throw .finish

/-- Starts a program that is called by its name, and waits for its end. -/
def runProgram (launch : Programs) (usesDefault : Bool) (words : List Octets) : Act Nat := do
  let name := words.head?.getD []
  match ← locateProgram? usesDefault name with
  | none => return 127
  | some paths =>
    let r ← get
    match r.start launch false words .noEntry paths with
    | .ok (system, reported) =>
      set { r with system, nextId := r.nextId + 1 }
      noteEnding (endingReported reported)
    | .error errno =>
      if errno = .tryAgain then fail "Cannot fork".toList
      warn (startComplaint name errno)
      return startStatus errno

end Act

/-- What the words stand for that are no programs, as far as that does not depend on the script. -/
structure Vocabulary where
  isUtility : Octets → Bool
  isSpecial : Octets → Bool

/-- Tells what a word means, in a sentence or such that it can be read again. -/
def describeWord (vocabulary : Vocabulary) (usesDefault inSentence : Bool)
    (word : Octets) : Act Report := do
  let r ← get
  let say (sentence : String) : Report :=
    { output := printedLine (if inSentence then word ++ sentence.toList else word) }
  if (reservedWord? word).isSome then return say " is a shell keyword"
  else if let some text := r.aliases.lookup word then
    return { output :=
      if inSentence then printedLine (word ++ " is an alias for ".toList ++ text)
      else "alias ".toList ++ shownAlias (word, text) }
  else if (r.functions.lookup word).isSome then return say " is a shell function"
  else if vocabulary.isUtility word then
    return say
      (if vocabulary.isSpecial word then " is a special shell builtin" else " is a shell builtin")
  else
    let isAt (verb : String) (path : Octets) : Report :=
      { output := printedLine (if inSentence then word ++ verb.toList ++ path else path) }
    match r.programs.find? fun tracked => !usesDefault && tracked.name = word with
    | some tracked => return isAt " is a tracked alias for " tracked.path
    | none =>
      let found? := match r.findProgram (r.searchPath? usesDefault) word with
        | .ok (path :: _) => if (entryAt? r path).isSome then some path else none
        | _ => none
      match found? with
      | some path =>
        Act.noteProgram usesDefault word path
        return isAt " is " path
      | none =>
        let output := if inSentence then word ++ ": not found\n".toList else []
        return { status := 127, output }

/-- Tells what words mean. -/
def Utility.type (vocabulary : Vocabulary) : Utility := fun words => do
  words.foldlM (fun (report : Report) word => do
    let one ← describeWord vocabulary false true word
    return { status := report.status ||| one.status, output := report.output ++ one.output }) {}

/-- The number of chains in which the programs are kept that have been looked up. -/
def programChains : Nat := 31

/-- A line that shows where a program has been found. -/
def Tracked.shown (tracked : Tracked) : Octets :=
  printedLine (tracked.path ++ if tracked.isStale then ['*'] else [])

/-- Looks programs up, or shows those that have been. -/
def Utility.hash (vocabulary : Vocabulary) : Utility := fun arguments => do
  let (options, names) ← Act.options ['r'] (fun _ => false) arguments
  let r ← get
  if !options.isEmpty then
    modify fun r => { r with programs := [] }
    return {}
  else if names.isEmpty then
    return { output := (inChains programChains (·.name) r.programs).flatMap Tracked.shown }
  else
    names.foldlM (fun (report : Report) name => do
      Act.forgetProgram name
      if (r.functions.lookup name).isSome || vocabulary.isUtility name then return report
      let found ← Act.locateProgram? false name
      return if found.isNone then { report with status := 1 } else report) {}

end LineShell.Script
