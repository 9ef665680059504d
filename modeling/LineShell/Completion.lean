import LineShell.System.Fault

/-!
# Completing a command name

The whole text typed so far is taken for the beginning of a command name.  Three abbreviations of
builtins are completed outright; for anything else the number of candidates decides.

## Main definitions

* `CandidateSource` — gives the names that start with a text, or fails to list a directory.
* `Completion` — no candidate, one, or several.
* `complete` — what a source offers for a text.
* `fixedNames` — the source of a fixed collection of names.
-/

namespace LineShell

/-- A directory could not be listed while candidates were collected. -/
structure UnlistedDirectory where
  directory : String
  fault : Fault
  deriving DecidableEq, Repr

/-- The directory and the full text of what went wrong with it. -/
def UnlistedDirectory.text (e : UnlistedDirectory) : String :=
  e.directory ++ ": " ++ e.fault.text

/-- Where candidates come from: the names that start with a text, sorted and each once. -/
abbrev CandidateSource := String → Except UnlistedDirectory (List String)

/-- What can be offered for a text. -/
inductive Completion
  | noMatch
  /-- The one candidate, or the builtin that is abbreviated. -/
  | unique (name : String)
  /-- Two candidates or more. -/
  | ambiguous (names : List String)
  deriving DecidableEq, Repr

/-- The abbreviations that stand for a builtin whatever the source holds. -/
def abbreviations : List (String × String) :=
  [("ech", "echo"), ("exi", "exit"), ("typ", "type")]

/-- A list of candidates by the number of its members. -/
def Completion.ofCandidates : List String → Completion
  | [] => .noMatch
  | [name] => .unique name
  | names => .ambiguous names

/-- What a source offers for a text.  An abbreviation is completed without asking the source. -/
def complete (source : CandidateSource) (text : String) : Except UnlistedDirectory Completion :=
  match abbreviations.lookup text with
  | some name => .ok (.unique name)
  | none => (source text).map .ofCandidates

/-- A list of names in the order of their bytes, each once. -/
def sortNames (names : List String) : List String :=
  (names.mergeSort fun a b => !decide (b < a)).eraseReps

/-- The source that offers the names of a fixed collection. -/
def fixedNames (names : List String) : CandidateSource := fun text =>
  .ok (sortNames (names.filter (text.toList.isPrefixOf ·.toList)))

end LineShell
