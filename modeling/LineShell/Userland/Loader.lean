import LineShell.Userland.Tool

/-!
# Loading programs

A file that may be executed is a program, or a script whose first line names the program that runs
it.  That program may be a script again, up to a limit.  A file that somebody is writing to is not
executed.

## Main definitions

* `Interpreter`, `Interpreter.ofScript?` — the first line of a script.
* `executable` — what stands at a path, to be executed.
* `Child.fits` — whether there is room for what is handed to a program.
* `load` — the program behind a path, and the arguments that it gets.
* `programs` — starting the installed programs.
-/

namespace LineShell

/-- The program that runs a script, and the one argument that the script may give it. -/
structure Interpreter where
  path : Bytes
  argument : Option Bytes
  deriving DecidableEq, Repr

namespace Interpreter

/-- How many bytes at the start of a file are looked at.  A shorter file counts as filled up with
NUL bytes. -/
def headerLength : Nat := 256

/-- Whether a byte is a space or a tab. -/
def isSeparator (b : UInt8) : Bool :=
  b = 0x20 || b = 0x09

/-- Whether a byte ends a name. -/
def endsName (b : UInt8) : Bool :=
  isSeparator b || b = 0

/-- The name and the argument on a line.  The argument can be empty if a NUL byte ends the line. -/
def ofLine? (line : Bytes) : Option Interpreter :=
  let trimmed := (line.reverse.dropWhile isSeparator).reverse.dropWhile isSeparator
  if trimmed.isEmpty then none
  else
    let behind := trimmed.dropWhile (!endsName ·)
    let argument := (behind.dropWhile isSeparator).takeWhile (· ≠ 0)
    some {
      path := trimmed.takeWhile (!endsName ·)
      argument := if (behind.head?.map isSeparator).getD false then some argument else none }

/-- The interpreter that the bytes behind `#!` name.  Without a line feed the last byte does not
count, and a name that nothing ends is no name. -/
def ofHeader? (header : Bytes) : Option Interpreter :=
  let line := header.takeWhile fun b => b ≠ 0x0A && b ≠ 0
  if header[line.length]? = some 0x0A then ofLine? line
  else if (header.dropWhile isSeparator).any endsName then ofLine? header.dropLast
  else none

/-- The interpreter that the content of a file names on its first line, behind `#!`. -/
def ofScript? (content : Bytes) : Option Interpreter :=
  match content.take headerLength with
  | 0x23 :: 0x21 :: rest => ofHeader? (rest ++ List.replicate (headerLength - 2 - rest.length) 0)
  | _ => none

end Interpreter

/-- What stands at a path, to be executed: a file or a program that may be executed, and that nobody
among those who hold some open files is writing to.  An interpreter may be called by an empty path,
which leads to the current directory. -/
def executable (system : System) (here : Location) (held : List Handle) (path : Bytes) :
    Except Errno Node := do
  let (loc, node) ← if path.isEmpty then .error .accessDenied else system.files.find here path
  if !node.isExecutable then .error .accessDenied
  else if system.isHeldForWriting held loc then .error .textBusy
  else return node

/-- The program behind a path, and the arguments that it gets.  A script stands for its interpreter,
called with the path of the script and its arguments; `depth` files can be opened in turn before the
one that is too many. -/
def load (system : System) (here : Location) (held : List Handle) :
    (depth : Nat) → Bytes → List Bytes → Except Errno (Tool × List Bytes)
  | depth, path, arguments => do
    let node ← executable system here held path
    match depth with
    | 0 => .error .tooManyLinks
    | depth + 1 =>
      match node with
      | .program name =>
        match Tool.ofName? name with
        | some tool => .ok (tool, arguments)
        | none => .error .execFormat
      | .file _ content =>
        match Interpreter.ofScript? content with
        | none => .error .execFormat
        | some interpreter =>
          load system here held depth interpreter.path
            (interpreter.path :: interpreter.argument.toList ++ path :: arguments.tail)
      | _ => .error .execFormat

/-- How many files can be opened in turn to find a program. -/
def scriptDepth : Nat := 6

/-- The length of the longest text that can be handed to a program, in bytes. -/
def textLimit : Nat := 131071

/-- How much room there is for all that is handed to a program, in bytes. -/
def handedLimit : Nat := 0x200000

/-- The texts that are handed to a program, from its arguments and its environment. -/
def Child.handed (child : Child) : List Bytes :=
  child.arguments ++ child.process.environment.map fun (name, value) => name ++ 0x3D :: value

/-- Whether there is room for what is handed to a program.  Each text takes its bytes, one more at
its end, and eight for its place; the path of the program takes room too. -/
def Child.fits (child : Child) : Bool :=
  let texts := child.handed
  let room := texts.foldl (fun sum text => sum + text.length + 9) (child.program.length + 1)
  texts.all (·.length ≤ textLimit) && room ≤ handedLimit

/-- How many processes can wait for one another. -/
def processDepth : Nat := 256

/-- Starts a program that is installed, or a script.  Scripts start programs in turn, and once
`depth` of them are waiting for one another there is no room for another process. -/
def startInstalled : (depth : Nat) → Programs
  | 0 => fun _ _ => .error .tryAgain
  | depth + 1 => fun system child => do
    if child.program.isEmpty then .error .noEntry
    let here := child.process.directory
    discard (executable system here child.held child.program)
    if !child.fits then .error .argumentsTooLong
    let (tool, arguments) ←
      load system here child.held scriptDepth child.program child.arguments
    let (system, ending) := tool.run (startInstalled depth) system { child with arguments }
    return (system, .ok ending)

/-- Starting the installed programs. -/
def programs : Programs :=
  startInstalled processDepth

end LineShell
