/-!
# Bytes and characters

Files, names and input streams hold bytes; lines and words hold characters.  This module joins the
two by UTF-8: every scalar value has one encoding, and decoding accepts nothing else, so overlong
forms, surrogates and values beyond the last plane are refused.

## Main definitions

* `Bytes`, `Bytes.ofText`, `Bytes.ofString` — byte strings and the encoding of text.
* `Bytes.toString?` — the text of a byte string, if it is valid.
* `Utf8.scalar?` — the one character a whole byte string encodes.
* `Utf8.lossy` — the characters of any byte string, with a replacement for each ill-formed part.

## Main results

* `Utf8.scalar?_eq_some_iff` — a byte string decodes to a character exactly if it is that
  character's encoding.
-/

namespace LineShell

/-- A string of bytes, as files, names and streams hold it. -/
abbrev Bytes := List UInt8

/-- The UTF-8 encoding of a list of characters. -/
def Bytes.ofText (text : List Char) : Bytes :=
  text.flatMap String.utf8EncodeChar

/-- The UTF-8 encoding of a string. -/
def Bytes.ofString (text : String) : Bytes :=
  Bytes.ofText text.toList

/-- The string that the bytes encode, or `none` if they are not valid UTF-8. -/
def Bytes.toString? (bytes : Bytes) : Option String :=
  String.fromUTF8? bytes.toByteArray

@[simp] theorem Bytes.ofText_nil : Bytes.ofText [] = [] := rfl

@[simp] theorem Bytes.ofText_append (s t : List Char) :
    Bytes.ofText (s ++ t) = Bytes.ofText s ++ Bytes.ofText t := by
  simp [Bytes.ofText]

namespace Utf8

/-- The value that the payload bits of a sequence of one to four bytes spell. -/
def payload : Bytes → Nat
  | [a] => a.toNat
  | [a, b] => a.toNat % 32 * 64 + b.toNat % 64
  | [a, b, c] => (a.toNat % 16 * 64 + b.toNat % 64) * 64 + c.toNat % 64
  | [a, b, c, d] => ((a.toNat % 8 * 64 + b.toNat % 64) * 64 + c.toNat % 64) * 64 + d.toNat % 64
  | _ => 0

/-- The character that a whole byte string encodes.  The encoding is compared, so only the shortest
form of a scalar value is accepted. -/
def scalar? (bytes : Bytes) : Option Char :=
  let c := Char.ofNat (payload bytes)
  if String.utf8EncodeChar c = bytes then some c else none

/-- Reading the payload of an encoding gives the character's code point back. -/
theorem payload_utf8EncodeChar (c : Char) : payload (String.utf8EncodeChar c) = c.toNat := by
  have hlt : c.toNat < 0x110000 := by
    have := c.valid
    simp only [UInt32.isValidChar, Nat.isValidChar] at this
    simp only [Char.toNat]
    omega
  simp only [Char.toNat] at hlt ⊢
  unfold String.utf8EncodeChar
  simp only
  split
  · simp only [payload, UInt8.toNat_ofNat']
    omega
  · split
    · simp only [payload, UInt8.toNat_ofNat']
      omega
    · split
      · simp only [payload, UInt8.toNat_ofNat']
        omega
      · simp only [payload, UInt8.toNat_ofNat']
        omega

/-- A byte string decodes to a character exactly if it is the encoding of that character. -/
theorem scalar?_eq_some_iff {bytes : Bytes} {c : Char} :
    scalar? bytes = some c ↔ bytes = String.utf8EncodeChar c := by
  constructor
  · intro h
    simp only [scalar?] at h
    split at h
    · next heq => cases h; exact heq.symm
    · cases h
  · rintro rfl
    simp [scalar?, payload_utf8EncodeChar]

/-- What stands for a part of a byte string that is not valid. -/
def replacement : Char := '\uFFFD'

/-- Whether a byte can continue a sequence. -/
def isContinuation (b : UInt8) : Bool :=
  0x80 ≤ b && b ≤ 0xBF

/-- Whether some character's encoding starts with these bytes and is longer. -/
def opensScalar : Bytes → Bool
  | [a] => 0xC2 ≤ a && a ≤ 0xF4
  | [a, b] =>
    if a = 0xE0 then 0xA0 ≤ b && b ≤ 0xBF
    else if a = 0xED then 0x80 ≤ b && b ≤ 0x9F
    else if a = 0xF0 then 0x90 ≤ b && b ≤ 0xBF
    else if a = 0xF4 then 0x80 ≤ b && b ≤ 0x8F
    else 0xE1 ≤ a && a ≤ 0xF3 && isContinuation b
  | [a, b, c] => 0xF0 ≤ a && opensScalar [a, b] && isContinuation c
  | _ => false

/-- The characters of the bytes that follow a sequence already begun. -/
def lossyFrom (begun : Bytes) : Bytes → List Char
  | [] => if begun.isEmpty then [] else [replacement]
  | b :: rest =>
    match scalar? (begun ++ [b]) with
    | some c => c :: lossyFrom [] rest
    | none =>
      if opensScalar (begun ++ [b]) then lossyFrom (begun ++ [b]) rest
      else if begun.isEmpty then replacement :: lossyFrom [] rest
      else
        match scalar? [b] with
        | some c => replacement :: c :: lossyFrom [] rest
        | none =>
          if opensScalar [b] then replacement :: lossyFrom [b] rest
          else replacement :: replacement :: lossyFrom [] rest

/-- The characters of a byte string, in which each longest beginning of a sequence that is not
completed, and each byte that begins none, shows as one replacement character. -/
def lossy (bytes : Bytes) : List Char :=
  lossyFrom [] bytes

end Utf8

end LineShell
