import LineShell.Text.Bytes

/-!
# Quoted names

In the messages of programs a name stands such that a script would read it as the same name: as it
is if nothing in it has a meaning of its own, and otherwise between quotation marks.

## Main definitions

* `Quoting.pieces` — the characters of a name, and the bytes in it that are none.
* `Quoting.quoted` — a name between quotation marks.
* `Quoting.plain` — a name as it is, or between quotation marks if it needs them.
-/

namespace LineShell.Quoting

/-- A piece of a name. -/
inductive Piece
  | char (c : Char)
  /-- A byte that belongs to no character. -/
  | byte (b : UInt8)
  deriving DecidableEq, Repr

/-- How many bytes the longest character has. -/
def longestCharacter : Nat := 4

/-- The character at the start of some bytes, and how many of them it takes. -/
def firstCharacter? (bytes : Bytes) : Option (Char × Nat) :=
  (List.range longestCharacter).findSome? fun n =>
    match (Bytes.toString? (bytes.take (n + 1))).map String.toList with
    | some [c] => some (c, n + 1)
    | _ => none

/-- The characters of a name, and the bytes in it that are none.  Each of them takes one of `fuel`
steps. -/
def pieces : (fuel : Nat) → Bytes → List Piece
  | 0, _ => []
  | _, [] => []
  | fuel + 1, b :: rest =>
    match firstCharacter? (b :: rest) with
    | some (c, length) => .char c :: pieces fuel ((b :: rest).drop length)
    | none => .byte b :: pieces fuel rest

/-- The letters for control characters. -/
def controlLetters : List (Char × Char) :=
  [('\x07', 'a'), ('\x08', 'b'), ('\x0C', 'f'), ('\n', 'n'), ('\r', 'r'), ('\t', 't'),
    ('\x0B', 'v')]

/-- The three octal digits of a byte. -/
def octalDigits (b : UInt8) : List Char :=
  [b.toNat / 64, b.toNat / 8 % 8, b.toNat % 8].map Nat.digitChar

/-- Whether a character cannot be shown. -/
def isControl (c : Char) : Bool :=
  c < ' ' || ('\x7F' ≤ c && c < Char.ofNat 0xA0)

/-- How a piece is written that cannot be shown, if it is such a piece. -/
def escape? : Piece → Option (List Char)
  | .byte b => some ('\\' :: octalDigits b)
  | .char c =>
    match controlLetters.lookup c with
    | some letter => some ['\\', letter]
    | none =>
      if isControl c then
        some ((Bytes.ofText [c]).flatMap fun b => '\\' :: octalDigits b)
      else none

/-- Whether a piece has a meaning of its own in a script; some have it only at the start. -/
def isSpecial (atStart isAlone : Bool) : Piece → Bool
  | .byte _ => true
  | .char c =>
    (escape? (.char c)).isSome || " !\"$&()*;<=>[^`|'\\?:".toList.contains c
      || (atStart && (c = '#' || c = '~')) || (isAlone && (c = '\x7b' || c = '\x7d'))

/-- Whether a piece means the same between quotation marks of either kind. -/
def isCompatible (atStart : Bool) : Piece → Bool
  | .byte _ => false
  | .char c =>
    (escape? (.char c)).isNone && !"!\"$&()*;<=>[^`|\\?\x7b\x7d".toList.contains c
      && (atStart || (c ≠ '#' && c ≠ '~'))

/-- Whether some pieces all pass a test, which is told whether a piece is the first one. -/
def allPass (test : Bool → Piece → Bool) : List Piece → Bool
  | [] => true
  | first :: rest => test true first && rest.all (test false)

/-- The pieces behind an opening single quote, with the closing one; what cannot be shown is written
in a part of its own, and `escaping` tells that such a part is open. -/
def singleQuoted : (escaping : Bool) → List Piece → List Char
  | _, [] => ['\'']
  | escaping, piece :: rest =>
    match escape? piece, piece with
    | some text, _ => (if escaping then [] else "'$'".toList) ++ text ++ singleQuoted true rest
    | none, .char '\'' => "'\\''".toList ++ singleQuoted false rest
    | none, .char c => (if escaping then ['\'', '\''] else []) ++ c :: singleQuoted false rest
    | none, .byte _ => singleQuoted false rest

/-- The pieces of a name. -/
def piecesOf (name : Bytes) : List Piece :=
  pieces (name.length + 1) name

/-- A name between quotation marks. -/
def quoted (name : Bytes) : Bytes :=
  let pieces := piecesOf name
  let text :=
    if pieces.contains (.char '\'') && allPass isCompatible pieces then
      '"' :: pieces.filterMap (fun piece =>
        match piece with
        | .char c => some c
        | .byte _ => none) ++ ['"']
    else '\'' :: singleQuoted false pieces
  Bytes.ofText text

/-- A name as it is, or between quotation marks if it needs them. -/
def plain (name : Bytes) : Bytes :=
  let pieces := piecesOf name
  let isAlone := pieces.length = 1
  if !pieces.isEmpty && allPass (fun atStart piece => !isSpecial atStart isAlone piece) pieces then
    name
  else quoted name

end LineShell.Quoting
