import LineShell.System.Process

/-!
# Redirections

A word that is spelled like an operator sends one of the two output streams of a command to the file
that the next word names.  One redirection is taken out of a command, the one whose operator comes
first in a fixed order; other operators stay behind as ordinary arguments.

## Main definitions

* `OutputStream`, `Operator`, `operators` — what is redirected, by which word, and in which order.
* `Redirect`, `takeRedirect` — a redirection, and how it is taken out of a command.
* `MissingTarget` — an operator without a word behind it.
* `remaining` — the command without its redirection.
-/

namespace LineShell

/-- An output stream of a command. -/
inductive OutputStream
  | output
  | error
  deriving DecidableEq, Repr

/-- The descriptor behind a stream. -/
def OutputStream.descriptor : OutputStream → Nat
  | .output => World.standardOutput
  | .error => World.standardError

/-- A word that redirects a stream. -/
structure Operator where
  word : String
  stream : OutputStream
  mode : WriteMode
  deriving DecidableEq, Repr

/-- The operators, in the order in which a command is searched for them. -/
def operators : List Operator :=
  [⟨"1>", .output, .truncate⟩, ⟨">", .output, .truncate⟩, ⟨"2>", .error, .truncate⟩,
    ⟨">>", .output, .append⟩, ⟨"1>>", .output, .append⟩, ⟨"2>>", .error, .append⟩]

/-- Whether a word is spelled like an operator. -/
def isOperator (word : String) : Bool :=
  operators.any (·.word = word)

/-- A stream that is to go to a file. -/
structure Redirect where
  stream : OutputStream
  mode : WriteMode
  target : String
  deriving DecidableEq, Repr

/-- An operator is the last word of a command. -/
structure MissingTarget where
  operator : String
  /-- The command, from which nothing has been taken. -/
  arguments : List String
  deriving DecidableEq, Repr

/-- The arguments without the one at an index and the one behind it. -/
def dropPair (index : Nat) (arguments : List String) : List String :=
  arguments.take index ++ arguments.drop (index + 2)

/-- Takes a redirection out of a command: that of the first operator in the order of the search that
the command has, at the first place where it stands. -/
def takeRedirect (arguments : List String) :
    Except MissingTarget (Option Redirect × List String) :=
  match operators.find? fun operator => arguments.contains operator.word with
  | none => .ok (none, arguments)
  | some operator =>
    let index := arguments.idxOf operator.word
    match arguments[index + 1]? with
    | none => .error ⟨operator.word, arguments⟩
    | some target =>
      .ok (some ⟨operator.stream, operator.mode, target⟩, dropPair index arguments)

/-- What is left of a command once a redirection has been looked for in it. -/
def remaining (arguments : List String) : List String :=
  match takeRedirect arguments with
  | .ok (_, rest) => rest
  | .error e => e.arguments

end LineShell
