import LineShell.Userland.Script.Arithmetic
import LineShell.Userland.Script.Globbing

/-!
# Expanding words

The parts of a word are replaced by what they stand for.  Outside quotes a value is then cut at the
separators, so one word may become several fields or none, and a field that is a pattern becomes the
paths that match it, if there are any.

## Main definitions

* `Act.parameterValue?` — the values of parameters.
* `Manner` — in which way the parts of a word are replaced.
* `expandParts` — replaces the parts of a word.
* `Act.fieldsOfWord`, `Act.textOfWord`, `Act.patternOfWord` — what a word becomes.
-/

namespace LineShell.Script

/-- How a parameter is called. -/
def Parameter.name : Parameter → Octets
  | .positional number => decimal number
  | .count => ['#']
  | .arguments joined => if joined then ['*'] else ['@']
  | .process => ['$']
  | .status => ['?']
  | .options => ['-']
  | .background => ['!']
  | .named name => name

/-- The letters of the options, in the order in which they are listed. -/
def optionLetters : List Char := "pubaCEVvxsnmiIfe".toList

/-- The end of one of several values, within a text. -/
def valueEnd : Char := '\x00'

namespace Running

/-- All arguments as one text: separated such that they can be told apart, or joined by the first
separator. -/
def joinedArguments (r : Running) (apart : Bool) : Octets :=
  let between := match r.valueOf? "IFS".toList with
    | some separators => separators.take 1
    | none => [' ']
  (if apart then [valueEnd] else between).intercalate r.arguments

/-- The value of a parameter, if it is set. -/
def parameterValue? (r : Running) (apart : Bool) : Parameter → Option Octets
  | .positional 0 => some r.name
  | .positional (n + 1) => r.arguments[n]?
  | .count => some (decimal r.arguments.length)
  | .arguments _ => some (r.joinedArguments apart)
  | .process => some (decimal r.scriptId)
  | .status => some (decimal r.status)
  | .options => some (optionLetters.filter r.hasOption)
  | .background => r.lastJob.map decimal
  | .named name => r.valueOf? name

/-- The home directories of the users of the system. -/
def homes : List (String × String) :=
  [("root", "/root"), ("daemon", "/usr/sbin"), ("bin", "/bin"), ("sys", "/dev"), ("sync", "/bin"),
    ("games", "/usr/games"), ("man", "/var/cache/man"), ("lp", "/var/spool/lpd"),
    ("mail", "/var/mail"), ("news", "/var/spool/news"), ("uucp", "/var/spool/uucp"),
    ("proxy", "/bin"), ("www-data", "/var/www"), ("backup", "/var/backups"),
    ("list", "/var/list"), ("irc", "/run/ircd"), ("_apt", "/nonexistent"),
    ("nobody", "/nonexistent")]

/-- The home directory of a user, or without a name that which the script knows. -/
def homeOf? (r : Running) (user : Octets) : Option Octets :=
  if user.isEmpty then r.valueOf? "HOME".toList
  else (homes.lookup (String.ofList user)).map String.toList

end Running

/-- Where in a word a tilde stands for a home directory. -/
inductive TildePlace
  | nowhere
  | atStart
  /-- At the start and behind each colon, as in a value that is given to a name. -/
  | atStarts
  deriving DecidableEq, Repr

/-- In which way the parts of a word are replaced. -/
structure Manner where
  /-- Whether the word becomes several fields. -/
  fields : Bool := false
  /-- Whether the parts stand between double quotes. -/
  quoted : Bool := false
  /-- Whether the text itself is cut into fields like a value. -/
  cutsText : Bool := false
  tilde : TildePlace := .nowhere
  deriving DecidableEq, Repr

namespace Manner

/-- A word of a command. -/
def argument : Manner where
  fields := true
  tilde := .atStart

/-- A value that is given to a name. -/
def value : Manner where
  tilde := .atStarts

/-- Any other word. -/
def single : Manner where
  tilde := .atStart

/-- A text that is part of the script. -/
def document : Manner where
  quoted := true

/-- A word that takes the place of a value. -/
def replacement (manner : Manner) : Manner :=
  { manner with
    cutsText := !manner.quoted,
    tilde := if manner.tilde = .atStarts then .atStarts else .atStart }

/-- A part that holds a value. -/
def segment (manner : Manner) (which? : Option Parameter) (hasArguments : Bool) (value : Octets) :
    Segment where
  items := value.map fun c => if c = valueEnd then .gap else .glyph ⟨c, manner.quoted⟩
  cutting :=
    if !manner.quoted then .atSeparators
    else if which? = some (.arguments false) && hasArguments then .atGaps
    else .never

end Manner

/-- Whether what stands between double quotes is all arguments and nothing else. -/
def isAllArguments : List Part → Bool
  | [.parameter (.arguments false) .value] => true
  | _ => false

/-- A part of a text that stands for itself. -/
def keptItems (text : Octets) : List Item :=
  (keep text).map .glyph

/-- The name of a user behind a tilde, and what follows it.  There is none if something else than
plain text follows without a sign between that ends the name. -/
def splitUser? (tilde : TildePlace) (isLast : Bool) (text : Octets) : Option (Octets × Octets) :=
  let endsName (c : Char) : Bool := c = '/' || (tilde = .atStarts && c = ':')
  let rest := text.dropWhile (!endsName ·)
  if rest.isEmpty && !isLast then none else some (text.takeWhile (!endsName ·), rest)

/-- The items of text outside quotes, in which tildes stand for home directories. -/
def textItems (r : Running) (tilde : TildePlace) (isLast : Bool) :
    (fuel : Nat) → (atStart : Bool) → Octets → List Item
  | 0, _, _ => []
  | _, _, [] => []
  | fuel + 1, atStart, c :: rest =>
    let next := tilde = .atStarts && c = ':'
    let plain := Item.glyph ⟨c, false⟩ :: textItems r tilde isLast fuel next rest
    if c = '~' && atStart then
      match splitUser? tilde isLast rest with
      | some (user, behind) =>
        match r.homeOf? user with
        | some home => keptItems home ++ textItems r tilde isLast fuel false behind
        | none => plain
      | none => plain
    else plain

/-- Whether a value takes part in a choice that treats one without text like one that is missing, if
`orEmpty` says so. -/
def isMissing (orEmpty : Bool) (value? : Option Octets) : Bool :=
  match value? with
  | none => true
  | some value => orEmpty && value.isEmpty

/-- The octets of a word that is not cut. -/
def glyphsOfSegments (segments : List Segment) : List Glyph :=
  segments.flatMap (glyphsOf ·.items)

namespace Act

/-- The value of a parameter, if it is set. -/
def parameterValue? (manner : Manner) (which : Parameter) : Act (Option Octets) := do
  let isJoined := which = .arguments true
  return (← get).parameterValue? (manner.fields && !(manner.quoted && isJoined)) which

/-- Refuses to use a parameter that is not set. -/
def refuseUnset {α : Type} (which : Parameter) (reason : Octets) : Act α :=
  fail (which.name ++ ": ".toList ++ reason)

/-- What is said about a parameter that is not set. -/
def unsetReason : Octets := "parameter not set".toList

/-- The value of a parameter.  That there is none is an error if the script has asked for that. -/
def usedValue? (manner : Manner) (which : Parameter) : Act (Option Octets) := do
  let value? ← parameterValue? manner which
  if value?.isNone && (← get).hasOption 'u' then refuseUnset which unsetReason
  return value?

/-- The parts that the value of a parameter becomes. -/
def valueSegments (manner : Manner) (which : Parameter) (value? : Option Octets) :
    Act (List Segment) := do
  let hasArguments := !(← get).arguments.isEmpty
  return (value?.map (manner.segment (some which) hasArguments)).toList

/-- The part that a text becomes which a script has worked out. -/
def computed (manner : Manner) (text : Octets) : List Segment :=
  [manner.segment none false text]

end Act

mutual

/-- What a part of a word becomes; `substitute` runs commands and gives what they print. -/
def expandPart (substitute : Option Command → Act Octets) (manner : Manner)
    (atStart isLast : Bool) : Part → Act (List Segment)
  | .bare octets => do
    let atStart := atStart && manner.tilde ≠ .nowhere
    let items := textItems (← get) manner.tilde isLast (octets.length + 1) atStart octets
    return [{ items, cutting := if manner.cutsText then .atSeparators else .never }]
  | .kept octets => return [{ items := keptItems octets }]
  | .single octets => return [{ items := .presence :: keptItems octets }]
  | .double parts => do
    let inner ← expandParts substitute { manner with quoted := true, tilde := .nowhere } false parts
    return if isAllArguments parts then inner else { items := [.presence] } :: inner
  | .parameter which .value => do
    Act.valueSegments manner which (← Act.usedValue? manner which)
  | .parameter which .length => do
    let value? ← Act.usedValue? { manner with fields := false } which
    return Act.computed manner (decimal (value?.getD []).length)
  | .parameter which (.fallback orEmpty word) => do
    let value? ← Act.parameterValue? manner which
    if isMissing orEmpty value? then expandParts substitute manner.replacement true word
    else Act.valueSegments manner which value?
  | .parameter which (.replace orEmpty word) => do
    let value? ← Act.parameterValue? manner which
    if isMissing orEmpty value? then return []
    else expandParts substitute manner.replacement true word
  | .parameter which (.assign orEmpty word) => do
    let value? ← Act.parameterValue? manner which
    if isMissing orEmpty value? then
      let text := textOf (glyphsOfSegments (← expandParts substitute .single true word))
      Act.assign which.name text
      Act.valueSegments manner which (← Act.parameterValue? manner which)
    else Act.valueSegments manner which value?
  | .parameter which (.demand orEmpty word) => do
    let value? ← Act.parameterValue? manner which
    if isMissing orEmpty value? then
      if word.isEmpty then
        Act.refuseUnset which (Act.unsetReason ++ (if orEmpty then " or null".toList else []))
      else
        let text := textOf (glyphsOfSegments (← expandParts substitute .single true word))
        Act.refuseUnset which text
    else Act.valueSegments manner which value?
  | .parameter which (.trim trim pattern) => do
    match ← Act.usedValue? manner which with
    | none => return []
    | some value =>
      let glyphs := glyphsOfSegments (← expandParts substitute .single true pattern)
      Act.valueSegments manner which (some (trim.apply (.ofGlyphs glyphs) value))
  | .parameter _ .unknown => Act.fail "Bad substitution".toList
  | .substitution body => do return Act.computed manner (← substitute body)
  | .arithmetic parts => do
    let text := textOf (glyphsOfSegments (← expandParts substitute {} false parts))
    return Act.computed manner (Octets.ofInt (← Act.calculate text))

/-- What the parts of a word become. -/
def expandParts (substitute : Option Command → Act Octets) (manner : Manner) (atStart : Bool) :
    List Part → Act (List Segment)
  | [] => return []
  | part :: rest => do
    let first ← expandPart substitute manner atStart rest.isEmpty part
    return first ++ (← expandParts substitute manner false rest)

end

namespace Act

/-- The fields that a word becomes. -/
def fieldsOfWord (substitute : Option Command → Act Octets) (word : Word) : Act (List Octets) := do
  let segments ← expandParts substitute .argument true word
  let r ← get
  let fields := (cutFields r.separators none segments).map glyphsOf
  return fields.flatMap fun glyphs =>
    let found :=
      if r.hasOption 'f' then [] else matchingPaths r.system r.process.directory glyphs
    if found.isEmpty then [textOf glyphs] else found

/-- The one text that a word becomes. -/
def textOfWord (substitute : Option Command → Act Octets) (manner : Manner) (word : Word) :
    Act Octets := do
  return textOf (glyphsOfSegments (← expandParts substitute manner true word))

/-- The pattern that a word becomes. -/
def patternOfWord (substitute : Option Command → Act Octets) (word : Word) : Act Pattern := do
  return .ofGlyphs (glyphsOfSegments (← expandParts substitute .single true word))

end Act

end LineShell.Script
