import LineShell.Userland.Script.Syntax

/-!
# Patterns

A pattern is a text in which a star stands for anything, a question mark for any one octet and a set
in brackets for one of its members.  What is kept by quotes or a backslash stands for itself.

## Main definitions

* `Glyph` — an octet of a field, with whether it is kept.
* `Pattern`, `Pattern.ofGlyphs` — patterns, and the pattern that a text spells.
* `Pattern.accepts` — whether a pattern stands for a text.
* `Trim.apply` — a value without a part that a pattern stands for.
-/

namespace LineShell.Script

/-- An octet of a field, with whether it stands for itself. -/
structure Glyph where
  octet : Char
  kept : Bool
  deriving DecidableEq, Repr

/-- A text in which every octet stands for itself. -/
def keep (text : Octets) : List Glyph :=
  text.map (⟨·, true⟩)

/-- The octets of a field. -/
def textOf (field : List Glyph) : Octets :=
  field.map (·.octet)

/-- Whether a glyph is an octet that does not stand for itself. -/
def Glyph.isBare (glyph : Glyph) (c : Char) : Bool :=
  !glyph.kept && glyph.octet = c

/-- A member of a set. -/
inductive Member
  | range (least greatest : Char)
  /-- A kind of octets that has a name. -/
  | kind (name : String)
  deriving DecidableEq, Repr

/-- The kinds of octets. -/
def octetKinds : List (String × (Char → Bool)) :=
  let isGraph (c : Char) : Bool := '!' ≤ c && c ≤ '~'
  [("alnum", Char.isAlphanum), ("alpha", Char.isAlpha), ("blank", isBlank),
    ("cntrl", fun c => c < ' ' || c = '\x7F'), ("digit", Char.isDigit), ("graph", isGraph),
    ("lower", Char.isLower), ("print", fun c => c = ' ' || isGraph c),
    ("punct", fun c => isGraph c && !c.isAlphanum), ("space", isSpace), ("upper", Char.isUpper),
    ("xdigit", isDigitIn 16)]

/-- The order of octets in a range, in which those beyond the first half come before the others. -/
def rangeOrder (c : Char) : Int :=
  if c.toNat < 128 then c.toNat else c.toNat - 256

/-- Whether an octet belongs to a member. -/
def Member.contains (member : Member) (c : Char) : Bool :=
  match member with
  | .range least greatest => rangeOrder least ≤ rangeOrder c && rangeOrder c ≤ rangeOrder greatest
  | .kind name => ((octetKinds.lookup name).map (· c)).getD false

/-- A piece of a pattern. -/
inductive PatternPiece
  | octet (c : Char)
  /-- Any one octet. -/
  | one
  /-- Any text. -/
  | many
  /-- One octet that belongs to a member, or belongs to none. -/
  | set (excluded : Bool) (members : List Member)
  deriving DecidableEq, Repr

/-- A pattern, piece by piece. -/
abbrev Pattern := List PatternPiece

/-- The kind of octets that a text names behind an opening bracket, and what follows its closing
one. -/
def readKind? (glyphs : List Glyph) : Option (Member × List Glyph) :=
  match glyphs with
  | ⟨':', false⟩ :: rest =>
    let name := rest.takeWhile (·.octet ≠ ':')
    match rest.dropWhile (·.octet ≠ ':') with
    | ⟨':', _⟩ :: ⟨']', _⟩ :: rest =>
      let name := String.ofList (textOf name)
      if (octetKinds.lookup name).isSome then some (.kind name, rest) else none
    | _ => none
  | _ => none

/-- The members of a set up to its closing bracket, and what follows it.  A closing bracket in front
is a member. -/
def readMembers : (fuel : Nat) → (atStart : Bool) → List Glyph →
    Option (List Member × List Glyph)
  | 0, _, _ => none
  | _, _, [] => none
  | fuel + 1, atStart, glyph :: rest =>
    if glyph.isBare ']' && !atStart then some ([], rest)
    else
      let more (member : Member) (rest : List Glyph) : Option (List Member × List Glyph) :=
        (readMembers fuel false rest).map fun (members, rest) => (member :: members, rest)
      match if glyph.isBare '[' then readKind? rest else none with
      | some (member, rest) => more member rest
      | none =>
        let (least, rest) := match glyph.isBare '\\', rest with
          | true, next :: rest => (next.octet, rest)
          | _, rest => (glyph.octet, rest)
        match rest with
        | ⟨'-', false⟩ :: greatest :: rest =>
          if greatest.isBare ']' then more (.range least least) (⟨'-', false⟩ :: greatest :: rest)
          else
            match greatest.isBare '\\', rest with
            | true, next :: rest => more (.range least next.octet) rest
            | _, rest => more (.range least greatest.octet) rest
        | rest => more (.range least least) rest

/-- The set behind an opening bracket, and what follows it. -/
def readSet? (glyphs : List Glyph) : Option (PatternPiece × List Glyph) :=
  let (excluded, members) := match glyphs with
    | ⟨'!', false⟩ :: rest => (true, rest)
    | glyphs => (false, glyphs)
  (readMembers (glyphs.length + 1) true members).map fun (members, rest) =>
    (.set excluded members, rest)

/-- The pattern that a text spells.  A set that is not closed is no set, and a backslash that is not
kept keeps what follows it.  Each piece takes one of `fuel` steps. -/
def Pattern.read : (fuel : Nat) → List Glyph → Pattern
  | 0, _ => []
  | _, [] => []
  | fuel + 1, ⟨c, true⟩ :: rest => .octet c :: Pattern.read fuel rest
  | fuel + 1, ⟨'*', false⟩ :: rest => .many :: Pattern.read fuel rest
  | fuel + 1, ⟨'?', false⟩ :: rest => .one :: Pattern.read fuel rest
  | fuel + 1, ⟨'\\', false⟩ :: ⟨c, _⟩ :: rest => .octet c :: Pattern.read fuel rest
  | fuel + 1, ⟨'[', false⟩ :: rest =>
    match readSet? rest with
    | some (piece, rest) => piece :: Pattern.read fuel rest
    | none => .octet '[' :: Pattern.read fuel rest
  | fuel + 1, ⟨c, false⟩ :: rest => .octet c :: Pattern.read fuel rest

/-- The pattern that a text spells. -/
def Pattern.ofGlyphs (glyphs : List Glyph) : Pattern :=
  Pattern.read (glyphs.length + 1) glyphs

/-- Whether a test holds for what is left of a text from some place on. -/
def anyTail (p : Octets → Bool) : Octets → Bool
  | [] => p []
  | c :: rest => p (c :: rest) || anyTail p rest

/-- Whether a pattern stands for a text. -/
def Pattern.accepts : Pattern → Octets → Bool
  | [], text => text.isEmpty
  | .many :: pattern, text => anyTail (Pattern.accepts pattern) text
  | .octet c :: pattern, text => text.head? = some c && Pattern.accepts pattern text.tail
  | .one :: pattern, text => !text.isEmpty && Pattern.accepts pattern text.tail
  | .set excluded members :: pattern, text =>
    match text with
    | [] => false
    | c :: rest => members.any (·.contains c) != excluded && Pattern.accepts pattern rest

/-- The shortest length up to a bound for which a test holds. -/
def shortest? (bound : Nat) (p : Nat → Bool) : Option Nat :=
  (List.range (bound + 1)).find? p

/-- The longest length up to a bound for which a test holds. -/
def longest? (bound : Nat) (p : Nat → Bool) : Option Nat :=
  (List.range (bound + 1)).reverse.find? p

/-- The first of several values that are separated by NUL bytes. -/
def firstValue (text : Octets) : Octets :=
  text.takeWhile (· ≠ '\x00')

/-- A value without the part that a pattern stands for, if there is one.  Of several values the
pattern is compared with one at a time. -/
def Trim.apply (trim : Trim) (pattern : Pattern) (value : Octets) : Octets :=
  let length := value.length
  let first := (firstValue value).length
  let startsWith (count : Nat) : Bool := pattern.accepts (firstValue (value.take count))
  let endsWith (count : Nat) : Bool := pattern.accepts (firstValue (value.drop (length - count)))
  match trim with
  | .shortestStart => value.drop ((shortest? first startsWith).getD 0)
  | .longestStart => value.drop ((longest? length startsWith).getD 0)
  | .shortestEnd => value.take (length - (shortest? length endsWith).getD 0)
  | .longestEnd =>
    let begins (count : Nat) : Bool := endsWith (length - count)
    value.take ((shortest? first begins).getD length)

/-- Whether a set that is begun in a component of a path is closed there. -/
def closesSet (rest : List Glyph) : Bool :=
  (readSet? (rest.takeWhile (·.octet ≠ '/'))).isSome

/-- Whether a component of a path is a pattern that can stand for several names. -/
def isWild : List Glyph → Bool
  | [] => false
  | ⟨'\\', false⟩ :: _ :: rest => isWild rest
  | ⟨c, kept⟩ :: rest =>
    !kept && (c = '*' || c = '?' || (c = '[' && closesSet rest)) || isWild rest

end LineShell.Script
