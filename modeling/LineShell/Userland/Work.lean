import LineShell.System.Process
import LineShell.Userland.Quoting

/-!
# Programs at work

A program works on the system through the descriptors that it is started with.  It takes options
from among its arguments, and tells the user what goes wrong.

## Main definitions

* `Work`, `Work.complain`, `Work.emit` — a program at work, and its output.
* `Work.finish` — how a program ends.
* `OptionTable`, `OptionTable.scan` — the options of a program, and what it finds among arguments.
* `Work.forAll` — the same for each of several arguments.
-/

namespace LineShell

/-- A program at work. -/
structure Work where
  system : System
  process : Process
  /-- The name under which the program was called. -/
  calledAs : Bytes
  /-- Whether all has gone well. -/
  success : Bool := true
  /-- Output that is written when the program ends. -/
  held : Bytes := []
  /-- The signal that has ended the program.  Nothing it does from then on has an effect. -/
  endedBy : Option Signal := none

namespace Work

/-- The program at work for a process that is about to start. -/
def ofChild (system : System) (child : Child) : Work :=
  { system, process := child.process, calledAs := child.arguments.head?.getD [] }

/-- Writes data to a descriptor, and gives the error that keeps it, or the rest of it, from being
written.  A program that makes a file too large is ended, unless it ignores that. -/
def write (w : Work) (fd : Nat) (data : Bytes) : Work × Option Errno :=
  if w.endedBy.isSome then (w, none)
  else
    let (system, errno?) := w.process.write w.system fd data
    let isEnded := errno? = some .fileTooLarge && !w.process.ignored.contains .fileSize
    ({ w with system, endedBy := if isEnded then some .fileSize else none }, errno?)

/-- Writes a text to standard error.  A program that cannot do that has no success. -/
def tell (w : Work) (text : Bytes) : Work :=
  let (w, errno?) := w.write World.standardError text
  if errno?.isSome then { w with success := false } else w

/-- Tells the user something. -/
def warn (w : Work) (message : Bytes) : Work :=
  w.tell (w.calledAs ++ Bytes.ofString ": " ++ message ++ Bytes.ofString "\n")

/-- Tells the user that something is wrong. -/
def complain (w : Work) (message : Bytes) : Work :=
  { w.warn message with success := false }

/-- Tells the user that something is wrong, and how to get help. -/
def refuse (w : Work) (message : Bytes) : Work :=
  let help := Bytes.ofString "\nTry '" ++ w.calledAs
    ++ Bytes.ofString " --help' for more information."
  w.complain (message ++ help)

/-- Tells the user why something cannot be worked on. -/
def complainAbout (w : Work) (name : Bytes) (reason : String) : Work :=
  w.complain (Quoting.plain name ++ Bytes.ofString (": " ++ reason))

/-- Writes data to standard output, and tells whether that was possible; if not, the user too. -/
def emit (w : Work) (data : Bytes) : Work × Bool :=
  if data.isEmpty then (w, true)
  else
    match w.write World.standardOutput data with
    | (w, none) => (w, true)
    | (w, some errno) =>
      (w.complain (Bytes.ofString ("write error: " ++ errno.describe)), false)

/-- Keeps output until the program ends. -/
def hold (w : Work) (data : Bytes) : Work :=
  { w with held := w.held ++ data }

/-- How a program that has done its work ends. -/
def finish (w : Work) : System × Ending :=
  let (w, _) := w.emit w.held
  match w.endedBy with
  | some signal => (w.system, .signaled signal)
  | none => (w.system, .exited (if w.success then 0 else 1))

/-- Carries out an act for each item in turn. -/
def forAll (w : Work) (act : Work → Bytes → Work) (items : List Bytes) : Work :=
  items.foldl (fun w item => if w.endedBy.isSome then w else act w item) w

end Work

/-- The options of a program: long names with the letters that they stand for, and the letters that
have no long name. -/
structure OptionTable where
  long : List (String × Char) := []
  short : List Char := []

namespace OptionTable

/-- Whether a letter is an option. -/
def knows (table : OptionTable) (letter : Char) : Bool :=
  table.short.contains letter || table.long.any fun entry => entry.2 = letter

/-- What is said about a long option, which is named in the middle. -/
def objection (front : String) (name : Bytes) (back : String) : Bytes :=
  Bytes.ofString (front ++ "'--") ++ name ++ Bytes.ofString ("'" ++ back)

/-- The long option that a name stands for, of which only the start has to be given, or what is
wrong with the text in which it was given. -/
def findName (table : OptionTable) (text name : Bytes) : Except Bytes (String × Char) :=
  match table.long.find? fun entry => Bytes.ofString entry.1 = name with
  | some entry => .ok entry
  | none =>
    match table.long.filter fun entry => name.isPrefixOf (Bytes.ofString entry.1) with
    | [] => .error (objection "unrecognized option " text "")
    | first :: rest =>
      if rest.all fun entry => entry.2 = first.2 then .ok first
      else
        let names := (first :: rest).map fun entry => " '--" ++ entry.1 ++ "'"
        .error (objection "option " text (" is ambiguous; possibilities:" ++ String.join names))

/-- The letter of a long option, or what is wrong.  No long option has an argument. -/
def findLong (table : OptionTable) (text : Bytes) : Except Bytes Char := do
  let name := text.takeWhile (· ≠ 0x3D)
  let (found, letter) ← table.findName text name
  if name.length = text.length then return letter
  else .error (objection "option " (Bytes.ofString found) " doesn't allow an argument")

/-- The letters in an argument, if all of them are options, or what is wrong. -/
def findShort (table : OptionTable) (letters : Bytes) : Except Bytes (List Char) :=
  letters.mapM fun b =>
    let letter := Char.ofNat b.toNat
    if table.knows letter then .ok letter
    else .error (Bytes.ofString "invalid option -- '" ++ [b] ++ Bytes.ofString "'")

/-- The byte with which options begin. -/
def dash : UInt8 := 0x2D

/-- The options among some arguments and the other arguments, or what is wrong.  Two dashes end the
options. -/
def scan (table : OptionTable) : List Bytes → Except Bytes (List Char × List Bytes)
  | [] => .ok ([], [])
  | argument :: rest =>
    let isDashed := argument.head? = some dash && 1 < argument.length
    if argument = [dash, dash] then .ok ([], rest)
    else if !isDashed then do
      let (letters, others) ← table.scan rest
      return (letters, argument :: others)
    else do
      let first ←
        if argument[1]? = some dash then List.singleton <$> table.findLong (argument.drop 2)
        else table.findShort argument.tail
      let (letters, others) ← table.scan rest
      return (first ++ letters, others)

end OptionTable

/-- Lets a program work with the options and the other arguments that it is started with. -/
def Work.withOptions (w : Work) (table : OptionTable) (arguments : List Bytes)
    (act : List Char → List Bytes → Work) : Work :=
  match table.scan arguments with
  | .error message => w.refuse message
  | .ok (letters, others) => act letters others

end LineShell
