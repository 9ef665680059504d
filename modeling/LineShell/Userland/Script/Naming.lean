import LineShell.Userland.Script.Expansion
import LineShell.Userland.Script.Utility

/-!
# Commands that change what a script knows

Values of names, marks on them, arguments and options are changed by commands, and shown such that
what is shown can be read again.

## Main definitions

* `Utility.export`, `Utility.readonly`, `Utility.keepLocal`, `Utility.unset` — names.
* `Utility.set`, `Utility.shift`, `Utility.getopts` — options and arguments.
* `Utility.alias`, `Utility.unalias` — words that stand for other text.
* `Utility.read` — a line of the input as values of names.
-/

namespace LineShell.Script

/-- The names of which something is known that a test asks for, in the order of their octets. -/
def Running.namesWith (r : Running) (test : Variable → Bool) : List (Octets × Variable) :=
  (r.bindings.filter fun entry => test entry.2).mergeSort fun a b => !decide (b.1 < a.1)

/-- A line that shows a name with its value, behind some text. -/
def shownBinding (front : Octets) (entry : Octets × Variable) : Octets :=
  let value := match entry.2.value with
    | some value => '=' :: singleQuoted value
    | none => []
  printedLine (front ++ entry.1 ++ value)

/-- Marks names, and gives values to those that have one behind a sign of equality. -/
def markAll (mark : Octets → Act Unit) (arguments : List Octets) : Act Unit :=
  arguments.forM fun argument => do
    let name := argument.takeWhile (· ≠ '=')
    if name.length < argument.length then
      Act.assign name (argument.drop (name.length + 1))
    mark name

/-- Marks names; without any, or if that is asked for, shows those that are marked. -/
def Utility.mark (command : String) (test : Variable → Bool) (mark : Octets → Act Unit) :
    Utility := fun arguments => do
  let (options, names) ← Act.options ['p'] (fun _ => false) arguments
  if options.isEmpty && !names.isEmpty then
    markAll mark names
    return {}
  else
    let shown := ((← get).namesWith test).map (shownBinding (command ++ " ").toList)
    return { output := shown.flatten }

/-- Marks names such that programs find them in their environment. -/
def Utility.export : Utility :=
  Utility.mark "export" (·.exported) Act.markExported

/-- Marks names such that they cannot be given another value. -/
def Utility.readonly : Utility :=
  Utility.mark "readonly" (·.constant) Act.markConstant

/-- The word that stands for the options where names are put back. -/
def optionsWord : Octets := ['-']

/-- Lets the values of names, or the options, be put back at the end of the function. -/
def Utility.keepLocal : Utility := fun arguments => do
  if (← get).saved.isEmpty then Act.fail "not in a function".toList
  arguments.forM fun argument => do
    if argument = optionsWord then Act.save (.options (← get).options)
    else
      let name := argument.takeWhile (· ≠ '=')
      if !isName name then Act.fail (name ++ ": bad variable name".toList)
      Act.keepLocal name
      if name.length < argument.length then
        Act.assign name (argument.drop (name.length + 1))
  return {}

/-- Takes values, or functions, away. -/
def Utility.unset : Utility := fun arguments => do
  let (options, names) ← Act.options ['v', 'f'] (fun _ => false) arguments
  match options.getLast? with
  | some ('f', _) =>
    modify fun r => { r with functions := r.functions.filter fun f => !names.contains f.1 }
  | _ => names.forM Act.unset
  return {}

/-- The names of the options, each with the letter for it.  Those at the end have none, and their
letters stand for them only here. -/
def optionNames : List (String × Char) :=
  [("errexit", 'e'), ("noglob", 'f'), ("ignoreeof", 'I'), ("interactive", 'i'), ("monitor", 'm'),
    ("noexec", 'n'), ("stdin", 's'), ("xtrace", 'x'), ("verbose", 'v'), ("vi", 'V'),
    ("emacs", 'E'), ("noclobber", 'C'), ("allexport", 'a'), ("notify", 'b'), ("nounset", 'u'),
    ("privileged", 'p'), ("nolog", '1'), ("debug", '2')]

/-- Sets an option, or takes it back. -/
def Running.withOption (r : Running) (letter : Char) (isOn : Bool) : Running :=
  let others := r.options.filter (· ≠ letter)
  { r with options := if isOn then letter :: others else others }

/-- The options with what has been chosen, to be read by people or to be chosen again. -/
def shownOptions (r : Running) (isTable : Bool) : Octets :=
  let lines := optionNames.map fun (name, letter) =>
    let isOn := r.hasOption letter
    if isTable then
      let gap := List.replicate (16 - name.length) ' '
      printedLine (name.toList ++ gap ++ (if isOn then "on" else "off").toList)
    else printedLine ((if isOn then "set -o " else "set +o ") ++ name).toList
  (if isTable then printedLine "Current option settings".toList else []) ++ lines.flatten

/-- Sets options by their letters, or takes them back, and gives what is printed and how many of the
arguments behind it were used up for names of options. -/
def setLetters (isOn : Bool) : Octets → List Octets → Act (Octets × List Octets)
  | [], arguments => return ([], arguments)
  | 'o' :: letters, arguments => do
    match arguments with
    | [] =>
      let shown := shownOptions (← get) isOn
      let (output, arguments) ← setLetters isOn letters []
      return (shown ++ output, arguments)
    | name :: arguments =>
      match optionNames.lookup (String.ofList name) with
      | some letter =>
        modify (·.withOption letter isOn)
        setLetters isOn letters arguments
      | none => Act.fail ("Illegal option -o ".toList ++ name)
  | letter :: letters, arguments => do
    if !optionLetters.contains letter then
      Act.fail ("Illegal option ".toList ++ [if isOn then '-' else '+', letter])
    modify (·.withOption letter isOn)
    setLetters isOn letters arguments

/-- What is left of some arguments behind the options in front of them, once these have been set;
whether something ended the options; and what is printed.  Each argument takes one of `fuel`
steps. -/
def setOptions : (fuel : Nat) → List Octets → Act (List Octets × Bool × Octets)
  | 0, arguments => return (arguments, false, [])
  | fuel + 1, arguments => do
    let goOn (isOn : Bool) (letters : Octets) (rest : List Octets) :
        Act (List Octets × Bool × Octets) := do
      let (output, rest) ← setLetters isOn letters rest
      let (rest, isEnded, more) ← setOptions fuel rest
      return (rest, isEnded, output ++ more)
    match arguments with
    | ['-'] :: rest =>
      modify fun r => (r.withOption 'x' false).withOption 'v' false
      return (rest, false, [])
    | ['-', '-'] :: rest => return (rest, true, [])
    | ('-' :: letters) :: rest => goOn true letters rest
    | ('+' :: letters) :: rest => goOn false letters rest
    | arguments => return (arguments, false, [])

/-- Takes back the option by which a script asks for control of its terminal, since it has none.
The processes of a script other than the first one do not ask. -/
def Act.giveUpControl : Act Unit := do
  let r ← get
  if r.hasOption 'm' && r.process.id = r.scriptId then
    warn "can't access tty; job control turned off".toList
    modify (·.withOption 'm' false)

/-- Sets options and arguments; without any of them, shows all values. -/
def Utility.set : Utility := fun arguments => do
  if arguments.isEmpty then
    let shown := ((← get).namesWith (·.value.isSome)).map (shownBinding [])
    return { output := shown.flatten }
  else
    let (rest, isEnded, output) ← setOptions (arguments.length + 1) arguments
    Act.giveUpControl
    if isEnded || !rest.isEmpty then
      modify fun r => { r with arguments := rest, optionIndex := 1, optionOffset := 0 }
    return { output }

/-- Drops arguments from the front. -/
def Utility.shift : Utility := fun arguments => do
  let count ← match arguments.head? with
    | some text => Act.number text
    | none => pure 1
  let r ← get
  if r.arguments.length < count then Act.fail "can't shift that many".toList
  modify fun r =>
    { r with arguments := r.arguments.drop count, optionIndex := 1, optionOffset := 0 }
  return {}

/-- The name whose value is the text that belongs to an option. -/
def optionText : Octets := "OPTARG".toList

/-- What looking for the next option comes to. -/
structure OptionFound where
  /-- The letter that is given to the name. -/
  letter : Char
  /-- The number of the argument to be looked at next. -/
  index : Nat
  /-- How much of the argument before that has been used up, if something is left of it. -/
  offset : Nat := 0
  atEnd : Bool := false

/-- Looks for the text that belongs to an option: the rest of its argument or the next one. -/
def findOptionText (isQuiet : Bool) (letter : Char) (rest : Octets) (next? : Option Octets)
    (index : Nat) : Act OptionFound := do
  match (if rest.isEmpty then next? else some rest) with
  | some text =>
    Act.assign optionText text
    return { letter, index := if rest.isEmpty then index + 1 else index }
  | none =>
    if isQuiet then
      Act.assign optionText [letter]
      return { letter := ':', index }
    else
      Act.tell ("No arg for -".toList ++ letter :: " option\n".toList)
      Act.unset optionText
      return { letter := '?', index }

/-- Looks at one letter of an argument, at some offset in it. -/
def findOptionLetter (known : Octets) (arguments : List Octets) (letter : Char) (rest : Octets)
    (index offset : Nat) : Act OptionFound := do
  let isQuiet := known.head? = some ':'
  let letters := if isQuiet then known.drop 1 else known
  match letter == ':', letters.dropWhile (· ≠ letter) with
  | false, _ :: ':' :: _ => findOptionText isQuiet letter rest arguments[index - 1]? index
  | false, _ :: _ =>
    Act.assign optionText []
    return { letter, index, offset }
  | _, _ =>
    if isQuiet then Act.assign optionText [letter]
    else
      Act.tell ("Illegal option -".toList ++ [letter, '\n'])
      Act.unset optionText
    return { letter := '?', index, offset }

/-- Looks for the next option among some arguments. -/
def findOption (known : Octets) (arguments : List Octets) : Act OptionFound := do
  let r ← get
  let begun := ((arguments[r.optionIndex - 2]?).getD []).drop r.optionOffset
  if 2 ≤ r.optionIndex && r.optionOffset ≠ 0 && !begun.isEmpty then
    findOptionLetter known arguments (begun.head?.getD ' ') begun.tail r.optionIndex
      (r.optionOffset + 1)
  else
    match arguments[r.optionIndex - 1]? with
    | some ['-', '-'] => return { letter := '?', index := r.optionIndex + 1, atEnd := true }
    | some ('-' :: letter :: rest) =>
      findOptionLetter known arguments letter rest (r.optionIndex + 1) 2
    | _ => return { letter := '?', index := r.optionIndex, atEnd := true }

/-- Gives a name the next option among the arguments, or among others that are given. -/
def Utility.getopts : Utility := fun arguments => do
  match ← Act.withoutOptions arguments with
  | known :: name :: given =>
    let r ← get
    let arguments := if given.isEmpty then r.arguments else given
    if arguments.length + 1 < r.optionIndex then
      modify fun r => { r with optionIndex := 1, optionOffset := 0 }
    let found ← findOption known arguments
    Act.assign "OPTIND".toList (decimal found.index)
    Act.assign name [found.letter]
    modify fun r => { r with optionIndex := found.index, optionOffset := found.offset }
    return { status := if found.atEnd then 1 else 0 }
  | _ => Act.fail "Usage: getopts optstring var [arg...]".toList

/-- The chain in which a word is kept, of so many that there are. -/
def chainOf (chains : Nat) (word : Octets) : Nat :=
  match word with
  | [] => 0
  | first :: _ => word.foldl (fun sum c => sum + c.toNat) (16 * first.toNat) % 0x8000 % chains

/-- The items of a list in the order of the chains in which their words are kept. -/
def inChains {α : Type} (chains : Nat) (word : α → Octets) (items : List α) : List α :=
  (List.range chains).flatMap fun chain =>
    items.filter fun item => chainOf chains (word item) = chain

/-- The number of chains in which the words are kept that stand for other text. -/
def aliasChains : Nat := 39

/-- A line that shows what a word stands for. -/
def shownAlias (entry : Octets × Octets) : Octets :=
  printedLine (entry.1 ++ '=' :: singleQuoted entry.2)

/-- The words that stand for other text, in the order in which they are shown. -/
def Running.shownAliases (r : Running) : Octets :=
  (inChains aliasChains (·.1) r.aliases).flatMap shownAlias

/-- Lets a word stand for other text.  A word that has done so before keeps its place. -/
def Running.withAlias (r : Running) (word text : Octets) : Running :=
  if (r.aliases.lookup word).isSome then
    { r with aliases := r.aliases.map fun entry => if entry.1 = word then (word, text) else entry }
  else { r with aliases := r.aliases ++ [(word, text)] }

/-- Tells the user that a word stands for nothing else. -/
def tellUnknownAlias (command : String) (word : Octets) : Act Unit :=
  Act.tell (command.toList ++ ": ".toList ++ word ++ " not found\n".toList)

/-- Lets words stand for other text, or shows what they stand for. -/
def Utility.alias : Utility := fun arguments => do
  if arguments.isEmpty then return { output := (← get).shownAliases }
  else
    arguments.foldlM (fun report argument => do
      let word := argument.take 1 ++ argument.tail.takeWhile (· ≠ '=')
      if word.length < argument.length then
        modify (·.withAlias word (argument.drop (word.length + 1)))
        return report
      else
        match (← get).aliases.lookup word with
        | some text => return { report with output := report.output ++ shownAlias (word, text) }
        | none =>
          tellUnknownAlias "alias" word
          return { report with status := 1 }) {}

/-- Lets words stand for themselves again. -/
def Utility.unalias : Utility := fun arguments => do
  let (options, words) ← Act.options ['a'] (fun _ => false) arguments
  if !options.isEmpty then
    modify fun r => { r with aliases := [] }
    return {}
  else
    words.foldlM (fun report word => do
      if ((← get).aliases.lookup word).isSome then
        modify fun r => { r with aliases := r.aliases.filter (·.1 != word) }
        return report
      else
        tellUnknownAlias "unalias" word
        return { report with status := 1 }) {}

/-- A line up to its line feed, in parts that are cut and parts that a backslash keeps; how many
octets were read; and whether there was a line feed. -/
def readLineSegments (keeps : Bool) :
    Octets → (current : List Item) → List Segment × Nat × Bool
  | [], current => ([⟨current.reverse, .atSeparators⟩], 0, false)
  | '\\' :: rest, current =>
    if keeps then
      match rest with
      | [] => ([⟨current.reverse, .atSeparators⟩], 1, false)
      | '\n' :: rest =>
        let (segments, count, ended) := readLineSegments keeps rest []
        (⟨current.reverse, .atSeparators⟩ :: segments, count + 2, ended)
      | c :: rest =>
        let (segments, count, ended) := readLineSegments keeps rest []
        (⟨current.reverse, .atSeparators⟩ :: ⟨[.glyph ⟨c, true⟩], .never⟩ :: segments, count + 2,
          ended)
    else
      let (segments, count, ended) := readLineSegments keeps rest (.glyph ⟨'\\', false⟩ :: current)
      (segments, count + 1, ended)
  | '\n' :: _, current => ([⟨current.reverse, .atSeparators⟩], 1, true)
  | c :: rest, current =>
    let (segments, count, ended) := readLineSegments keeps rest (.glyph ⟨c, false⟩ :: current)
    (segments, count + 1, ended)

/-- How many bytes hold so many octets that are no NUL bytes. -/
def bytesHolding : (count : Nat) → Bytes → Nat
  | 0, _ => 0
  | _, [] => 0
  | count + 1, b :: rest =>
    (if b = 0 then bytesHolding (count + 1) rest else bytesHolding count rest) + 1

/-- Reads a line from standard input into values, and not one octet behind it. -/
def Utility.read : Utility := fun arguments => do
  let (options, names) ← Act.options ['p', 'r'] (· = 'p') arguments
  if names.isEmpty then Act.fail "arg count".toList
  let r ← get
  let keeps := !options.any (·.1 = 'r')
  let handle? := r.process.descriptors.get? World.standardInput
  let input := (handle?.bind fun handle => (r.system.read handle).toOption).getD []
  let visible := (Octets.ofBytes input).filter (· ≠ '\x00')
  let (segments, count, isComplete) := readLineSegments keeps visible []
  if let some handle := handle? then
    modify fun r => { r with system := r.system.skip handle (bytesHolding count input) }
  let fields := (cutFields r.separators (some names.length) segments).map fun field =>
    textOf (glyphsOf field)
  names.zipIdx.forM fun (name, index) => Act.assign name (fields[index]?.getD [])
  return { status := if isComplete then 0 else 1 }

end LineShell.Script
