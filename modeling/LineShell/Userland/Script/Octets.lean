import LineShell.Text.Bytes

/-!
# Octets

A script works on bytes.  To be readable in the definitions, each byte is held as the character with
the same number.

## Main definitions

* `Octets`, `Octets.ofBytes`, `Octets.toBytes` — bytes held as characters.
* `decimal`, `Octets.ofInt`, `digitsIn?` — numbers and their digits.
* `isBlank`, `isSpace`, `isNameStart`, `isNamePart`, `isName` — kinds of octets, and names.
-/

namespace LineShell.Script

/-- Bytes, each held as the character with the same number. -/
abbrev Octets := List Char

/-- Holds bytes as characters. -/
def Octets.ofBytes (bytes : Bytes) : Octets :=
  bytes.map fun b => Char.ofNat b.toNat

/-- The bytes held as characters. -/
def Octets.toBytes (octets : Octets) : Bytes :=
  octets.map fun c => UInt8.ofNat c.toNat

/-- The bytes of a text. -/
def Octets.ofString (text : String) : Octets :=
  Octets.ofBytes (Bytes.ofString text)

/-- The decimal digits of a number. -/
def decimal (n : Nat) : Octets :=
  Nat.toDigits 10 n

/-- The decimal digits of a number, with a sign in front if it is negative. -/
def Octets.ofInt (n : Int) : Octets :=
  if n < 0 then '-' :: decimal n.natAbs else decimal n.natAbs

/-- The value of a digit, in whatever base has it. -/
def digitValue (c : Char) : Nat :=
  if c.isDigit then c.toNat - '0'.toNat
  else if c.isAlpha then c.toLower.toNat - 'a'.toNat + 10
  else 36

/-- Whether a character is a digit in a base. -/
def isDigitIn (base : Nat) (c : Char) : Bool :=
  digitValue c < base

/-- The number that digits spell in a base. -/
def valueIn (base : Nat) (digits : Octets) : Nat :=
  digits.foldl (fun value c => base * value + digitValue c) 0

/-- The number that a text spells in a base, if it consists of digits and has some. -/
def digitsIn? (base : Nat) (text : Octets) : Option Nat :=
  if text.isEmpty || !text.all (isDigitIn base) then none else some (valueIn base text)

/-- Whether a character is a space or a tab. -/
def isBlank (c : Char) : Bool :=
  c = ' ' || c = '\t'

/-- Whether a character is a blank for a number. -/
def isSpace (c : Char) : Bool :=
  c = ' ' || ('\t' ≤ c && c ≤ '\r')

/-- Whether a character can begin the name of a value. -/
def isNameStart (c : Char) : Bool :=
  c.isAlpha || c = '_'

/-- Whether a character can stand in the name of a value. -/
def isNamePart (c : Char) : Bool :=
  c.isAlphanum || c = '_'

/-- Whether a text is the name of a value. -/
def isName (text : Octets) : Bool :=
  match text with
  | c :: rest => isNameStart c && rest.all isNamePart
  | [] => false

/-- A name and what stands behind the first sign of equality, for a text that has this form. -/
def splitAssignment? (text : Octets) : Option (Octets × Octets) :=
  match text.dropWhile (· ≠ '=') with
  | _ :: value =>
    let name := text.takeWhile (· ≠ '=')
    if isName name then some (name, value) else none
  | [] => none

/-- A text between single quotes, such that it can be read again.  Single quotes in it are written
between double quotes. -/
def singleQuoted (text : Octets) : Octets :=
  let isQuote (c : Char) : Bool := c = '\''
  let runs := text.splitBy fun a b => isQuote a == isQuote b
  let shown := runs.map fun run =>
    if run.any isQuote then '"' :: run ++ ['"'] else '\'' :: run ++ ['\'']
  (if (text.head?.map isQuote).getD true then ['\'', '\''] else []) ++ shown.flatten

end LineShell.Script
