import LineShell.Userland.Work

/-!
# Copying files to the output

One program copies files, or its input, to its output, and can number the lines or show what is not
visible; another one shows files page by page, and without a terminal just copies.

## Main definitions

* `CopyOptions`, `CopyOptions.show` — how what is copied is shown.
* `Work.copyFiles` — copies files to the output.
* `Work.showPages` — shows files page by page.
-/

namespace LineShell

/-- How what is copied is shown. -/
structure CopyOptions where
  /-- Whether lines are numbered. -/
  numbers : Bool := false
  /-- Whether only lines are numbered that are not empty. -/
  numbersText : Bool := false
  /-- Whether several empty lines are made one. -/
  squeezes : Bool := false
  /-- Whether the ends of lines are marked. -/
  marksEnds : Bool := false
  marksTabs : Bool := false
  /-- Whether the other bytes that are not visible are shown. -/
  marksOthers : Bool := false
  deriving DecidableEq, Repr

/-- The options of the program that copies. -/
def copyTable : OptionTable where
  long :=
    [("number-nonblank", 'b'), ("number", 'n'), ("squeeze-blank", 's'), ("show-nonprinting", 'v'),
      ("show-ends", 'E'), ("show-tabs", 'T'), ("show-all", 'A')]
  short := ['e', 't', 'u']

namespace CopyOptions

/-- What the letters of some options ask for. -/
def ofLetters (letters : List Char) : CopyOptions :=
  let has (wanted : List Char) : Bool := letters.any wanted.contains
  { numbers := has ['n', 'b'], numbersText := has ['b'], squeezes := has ['s'],
    marksEnds := has ['A', 'e', 'E'], marksTabs := has ['A', 't', 'T'],
    marksOthers := has ['A', 'e', 't', 'v'] }

/-- A byte that is not visible, shown by others. -/
def showByte (b : UInt8) : Bytes :=
  let showLow (b : UInt8) : Bytes :=
    if b < 0x20 then [0x5E, b + 0x40] else if b = 0x7F then [0x5E, 0x3F] else [b]
  if b < 0x80 then showLow b else Bytes.ofString "M-" ++ showLow (b - 0x80)

/-- A line without its line feed, shown as the options ask for. -/
def showLine (options : CopyOptions) (line : Bytes) : Bytes :=
  let isReturn (b : UInt8) : Bool := b = 0x0D
  let shown := line.flatMap fun b =>
    if b = 0x09 then if options.marksTabs then showByte b else [b]
    else if options.marksOthers then showByte b
    else [b]
  if options.marksEnds && !options.marksOthers && (line.getLast?.map isReturn).getD false then
    shown.dropLast ++ showByte 0x0D
  else shown

/-- The number in front of a line. -/
def shownNumber (number : Nat) : Bytes :=
  let digits := Nat.toDigits 10 number
  Bytes.ofText (List.replicate (6 - digits.length) ' ' ++ digits ++ ['\t'])

/-- Whether nothing is to be shown in another way. -/
def isPlain (options : CopyOptions) : Bool :=
  options = {}

end CopyOptions

/-- What copying has come to: the number of the last line, how many empty lines have just been
copied, and whether the line is open to which the next byte belongs. -/
structure CopyState where
  number : Nat := 0
  blanks : Nat := 0
  isOpen : Bool := false
  deriving DecidableEq, Repr

/-- One line that is copied, and what copying has come to then; `ended` tells whether the line has a
line feed. -/
def CopyState.line (state : CopyState) (options : CopyOptions) (text : Bytes) (ended : Bool) :
    Bytes × CopyState :=
  let isBlank := text.isEmpty && !state.isOpen
  let blanks := if isBlank then state.blanks + 1 else 0
  if isBlank && options.squeezes && 2 ≤ blanks then ([], { state with blanks })
  else
    let isNumbered := options.numbers && !state.isOpen && !(isBlank && options.numbersText)
    let number := if isNumbered then state.number + 1 else state.number
    let front := if isNumbered then CopyOptions.shownNumber number else []
    let ending := if !ended then [] else if options.marksEnds then [0x24, 0x0A] else [0x0A]
    (front ++ options.showLine text ++ ending, { number, blanks, isOpen := !ended })

/-- The lines that are copied, and what copying has come to then. -/
def CopyState.lines (options : CopyOptions) : CopyState → List Bytes → Bytes × CopyState
  | state, [] => ([], state)
  | state, [text] => if text.isEmpty then ([], state) else state.line options text false
  | state, text :: rest =>
    let (first, state) := state.line options text true
    let (more, state) := CopyState.lines options state rest
    (first ++ more, state)

/-- The program that copies, at work. -/
structure Copying where
  work : Work
  options : CopyOptions
  state : CopyState := {}
  /-- Whether nothing more can be written. -/
  stopped : Bool := false

namespace Copying

/-- Copies some data. -/
def emit (c : Copying) (data : Bytes) : Copying :=
  let (shown, state) :=
    if c.options.isPlain then (data, c.state) else c.state.lines c.options (data.splitOn 0x0A)
  let (work, isWritten) := c.work.emit shown
  { c with work, state, stopped := !isWritten }

/-- The open file to which the copy goes. -/
def output? (c : Copying) : Option OpenFile := do
  c.work.system.opened[← c.work.process.descriptors.get? World.standardOutput]?

/-- Whether an open file is a file with a place in the file system. -/
def isRegular (c : Copying) (file : OpenFile) : Bool :=
  match file.target with
  | .entry loc =>
    match c.work.system.files.node? loc with
    | some (.file _ _) => true
    | _ => false
  | .unnamed _ => false

/-- Whether an open file is the one to which the copy goes, and there is something to read in it. -/
def isOutput (c : Copying) (file : OpenFile) : Bool :=
  c.isRegular file && (c.output?.map (·.target)) = some file.target
    && file.offset < (c.work.system.content file).length

/-- Whether what is in an open file is copied within the file system as it is. -/
def isDirect (c : Copying) (file : OpenFile) : Bool :=
  let mayCopy : Bool := match c.output? with
    | some output => c.isRegular output && !output.appending
    | none => false
  c.options.isPlain && c.isRegular file && mayCopy

/-- Copies what is left of an open file, which messages call by a name. -/
def copyOpened (c : Copying) (name : Bytes) (handle : Handle) : Copying :=
  let refuse (reason : String) : Copying := { c with work := c.work.complainAbout name reason }
  let isItself := (c.work.system.opened[handle]?.map c.isOutput).getD false
  if isItself then refuse "input file is output file"
  else
    match c.work.system.read handle with
    | .error errno => refuse errno.describe
    | .ok data =>
      let system := c.work.system.skip handle data.length
      let copied := { c with work := { c.work with system } }
      if (c.work.system.opened[handle]?.map c.isDirect).getD false then
        match copied.work.write World.standardOutput data with
        | (work, none) => { copied with work }
        | (work, some errno) => { copied with work := work.complainAbout name errno.describe }
      else copied.emit data

/-- The name that stands for standard input. -/
def inputName : Bytes := Bytes.ofString "-"

/-- Copies the file that a path names, or standard input. -/
def copy (c : Copying) (name : Bytes) : Copying :=
  let refuse (errno : Errno) : Copying :=
    { c with work := c.work.complainAbout name errno.describe }
  if c.stopped || c.work.endedBy.isSome then c
  else if name = inputName then
    match c.work.process.descriptors.get? World.standardInput with
    | some handle => c.copyOpened name handle
    | none => refuse .badDescriptor
  else
    let opened := c.work.process.nextDescriptor 0 >>= fun _ =>
      c.work.system.openForReading c.work.process.directory name
    match opened with
    | .error errno => refuse errno
    | .ok (handle, system) => { c with work := { c.work with system } }.copyOpened name handle

end Copying

/-- Closes standard input after it was to be copied, and tells the user if that fails. -/
def Work.closeInput (w : Work) : Work :=
  match w.process.descriptors.get? World.standardInput with
  | some _ => w
  | none => w.complain (Bytes.ofString ("closing standard input: " ++ Errno.badDescriptor.describe))

/-- Copies the files that the arguments name, or standard input if there are none. -/
def Work.copyFiles (w : Work) (arguments : List Bytes) : Work :=
  w.withOptions copyTable arguments fun letters names =>
    match w.process.descriptors.get? World.standardOutput with
    | none =>
      w.complain (Bytes.ofString ("standard output: " ++ Errno.badDescriptor.describe))
    | some _ =>
      let names := if names.isEmpty then [Copying.inputName] else names
      let start : Copying := { work := w, options := CopyOptions.ofLetters letters }
      let done := names.foldl Copying.copy start
      if names.contains Copying.inputName && !done.stopped then done.work.closeInput
      else done.work

/-- Shows files page by page.  Without a terminal they are copied. -/
def Work.showPages (w : Work) (arguments : List Bytes) : Work :=
  let names := arguments.filter fun argument => argument.head? ≠ some 0x2D
  let start : Copying := { work := w, options := {} }
  ((if names.isEmpty then [Copying.inputName] else names).foldl Copying.copy start).work

end LineShell
