import LineShell.Userland.Script.Arithmetic
import LineShell.Userland.Script.Fractions
import LineShell.Userland.Script.Utility

/-!
# Printing

The commands that print their arguments replace escapes: a backslash and what follows it stand for
one octet.  A format holds conversions too, which stand for the arguments in turn; it is used again
until there are no arguments left.

## Main definitions

* `readEscape`, `unescape` — what escapes stand for.
* `Utility.echo` — prints arguments as they are.
* `Conversion` — how an argument is shown.
* `Conversion.showSigned`, `Conversion.showUnsigned`, `Conversion.showFraction`,
  `Conversion.showText` — shown arguments.
* `Utility.format` — prints arguments in a format.
-/

namespace LineShell.Script

/-- Whether a character is an octal digit. -/
def isOctal (c : Char) : Bool :=
  isDigitIn 8 c

/-- The octets that a letter behind a backslash stands for. -/
def escapes : List (Char × Char) :=
  [('a', '\x07'), ('b', '\x08'), ('e', '\x1B'), ('f', '\x0C'), ('n', '\n'), ('r', '\r'),
    ('t', '\t'), ('v', '\x0B'), ('\\', '\\')]

/-- What stands behind a backslash: an octet and how many characters of the escape are left out of
the rest.  A character that begins no escape leaves the backslash to stand for itself. -/
def readEscape (rest : Octets) : Char × Nat :=
  match rest.head?.bind (List.lookup · escapes) with
  | some octet => (octet, 1)
  | none =>
    let digits := (rest.take 3).takeWhile isOctal
    if digits.isEmpty then ('\\', 0) else (Char.ofNat (valueIn 8 digits % 256), digits.length)

/-- The text of an argument with its escapes replaced, and whether the printing goes on behind it.
Where numbers are spelled with a zero in front, up to three digits follow that. -/
def unescapeWithin : (fuel : Nat) → Octets → Octets × Bool
  | 0, _ => ([], true)
  | _, [] => ([], true)
  | _ + 1, '\\' :: 'c' :: _ => ([], false)
  | fuel + 1, '\\' :: rest =>
    let rest :=
      match rest with
      | '0' :: digit :: more => if isOctal digit then digit :: more else rest
      | _ => rest
    let (c, used) := readEscape rest
    let (text, goesOn) := unescapeWithin fuel (rest.drop used)
    (c :: text, goesOn)
  | fuel + 1, c :: rest =>
    let (text, goesOn) := unescapeWithin fuel rest
    (c :: text, goesOn)

/-- The text of an argument with its escapes replaced, and whether printing goes on behind it. -/
def unescape (text : Octets) : Octets × Bool :=
  unescapeWithin (text.length + 1) text

/-- What is printed for some arguments with spaces between them.  An escape can end the printing. -/
def echoText (lineFeed : Bool) : List Octets → Octets
  | [] => if lineFeed then ['\n'] else []
  | argument :: rest =>
    let (text, goesOn) := unescape argument
    if !goesOn then text
    else text ++ (if rest.isEmpty then [] else [' ']) ++ echoText lineFeed rest

/-- Prints its arguments, and a line feed unless the first one asks for none. -/
def Utility.echo : Utility
  | ['-', 'n'] :: arguments => return { output := echoText false arguments }
  | arguments => return { output := echoText true arguments }

/-- How an argument is shown. -/
structure Conversion where
  /-- Whether it stands at the left of its field. -/
  left : Bool := false
  /-- Whether the field is filled up with zeros. -/
  zeros : Bool := false
  /-- What stands in front of a number that is not negative. -/
  sign : Octets := []
  /-- Whether the base of a number, or its point and all digits behind that, are always shown. -/
  showsAll : Bool := false
  width : Nat := 0
  /-- How many digits are shown at least, or how much of a text is shown at most. -/
  precision : Option Nat := none
  deriving DecidableEq, Repr

namespace Conversion

/-- The conversion with a flag set. -/
def withFlag (conversion : Conversion) : Char → Conversion
  | '-' => { conversion with left := true }
  | '0' => { conversion with zeros := true }
  | '+' => { conversion with sign := ['+'] }
  | ' ' => if conversion.sign.isEmpty then { conversion with sign := [' '] } else conversion
  | _ => { conversion with showsAll := true }

/-- The conversion with a width; a negative one asks for the left of the field. -/
def withWidth (conversion : Conversion) (width : Int) : Conversion :=
  { conversion with left := conversion.left || width < 0, width := width.natAbs }

/-- The conversion with a precision, which is without effect if it is negative. -/
def withPrecision (conversion : Conversion) (precision : Int) : Conversion :=
  { conversion with precision := if precision < 0 then none else some precision.toNat }

/-- A shown argument in its field.  Zeros come between what stands in front of a number and its
digits. -/
def fill (conversion : Conversion) (allowsZeros : Bool) (front body : Octets) : Octets :=
  let missing := conversion.width - (front.length + body.length)
  if conversion.left then front ++ body ++ List.replicate missing ' '
  else if conversion.zeros && allowsZeros then front ++ List.replicate missing '0' ++ body
  else List.replicate missing ' ' ++ front ++ body

/-- A text in its field. -/
def showText (conversion : Conversion) (text : Octets) : Octets :=
  conversion.fill false [] (match conversion.precision with
    | some length => text.take length
    | none => text)

/-- The digits of a number, as many as the precision asks for. -/
def digits (conversion : Conversion) (base value : Nat) : Octets :=
  match conversion.precision with
  | none => Nat.toDigits base value
  | some least =>
    let digits := if value = 0 then [] else Nat.toDigits base value
    List.replicate (least - digits.length) '0' ++ digits

/-- A number with a sign in its field. -/
def showSigned (conversion : Conversion) (value : Int) : Octets :=
  let front := if value < 0 then ['-'] else conversion.sign
  conversion.fill conversion.precision.isNone front (conversion.digits 10 value.natAbs)

/-- A number without a sign in its field, in the base that a letter asks for. -/
def showUnsigned (conversion : Conversion) (letter : Char) (value : Nat) : Octets :=
  let base := if letter = 'o' then 8 else if letter = 'u' then 10 else 16
  let digits := conversion.digits base value
  let digits :=
    if letter = 'o' && conversion.showsAll && digits.head? ≠ some '0' then '0' :: digits
    else digits
  let front : Octets :=
    if base = 16 && conversion.showsAll && value ≠ 0 then ['0', letter] else []
  let digits := if letter = 'X' then digits.map Char.toUpper else digits
  conversion.fill conversion.precision.isNone front digits

/-- A number with a fraction in its field, in a style.  Letters in it may be great ones. -/
def showFraction (conversion : Conversion) (style : FractionStyle) (isUpper : Bool)
    (value : Binary64) : Octets :=
  let sign := if value.isNegative then ['-'] else conversion.sign
  let shown := match value with
    | .finite _ significand exponent =>
      let (mark, body) :=
        style.showFinite conversion.showsAll conversion.precision significand exponent
      conversion.fill true (sign ++ mark) body
    | .infinite _ => conversion.fill false sign "inf".toList
    | .notNumber _ => conversion.fill false sign "nan".toList
  if isUpper then shown.map Char.toUpper else shown

end Conversion

/-- The values that a number of 64 bits can have without a sign. -/
def numberRange : Nat := 0x10000000000000000

/-- A number at the start of a text as it is spelled, whether it is negative, and what follows. -/
def readSpelledNumber (text : Octets) : Nat × Bool × Octets :=
  let begun := text.dropWhile isSpace
  let (isNegative, numeral) := match begun with
    | '-' :: numeral => (true, numeral)
    | '+' :: numeral => (false, numeral)
    | numeral => (false, numeral)
  if (numeral.head?.map Char.isDigit).getD false then
    let (value, rest) := readNumeral numeral
    (value, isNegative, rest)
  else (0, false, text)

/-- What has been printed so far, and what there is still to print. -/
structure Printing where
  output : Octets := []
  arguments : List Octets
  status : Nat := 0
  /-- Whether an escape has ended the printing. -/
  ended : Bool := false

namespace Printing

/-- The printing with some more text. -/
def add (p : Printing) (text : Octets) : Printing :=
  { p with output := p.output ++ text }

/-- The next argument, which counts as empty if it is missing. -/
def next (p : Printing) : Octets × Printing :=
  (p.arguments.head?.getD [], { p with arguments := p.arguments.tail })

/-- Tells the user that an argument is not the number that it should be. -/
def object (p : Printing) (argument : Octets) (reason : String) : Act Printing := do
  Act.warn (argument ++ ": ".toList ++ reason.toList)
  return { p with status := 1 }

/-- Ends the printing because of an error in the format, and prints what came before it. -/
def abandon {α : Type} (p : Printing) (message : Octets) : Act α := do
  Act.warn message
  discard (Act.tryWrite World.standardOutput p.output)
  modify fun r => { r with status := Act.errorStatus }
  throw .fail

/-- The number that the next argument spells.  A quotation mark stands for the number of the octet
behind it; `signed` tells whether the greatest numbers stand for negative ones. -/
def nextNumber (p : Printing) (signed : Bool) : Act (Int × Printing) := do
  let (argument, p) := p.next
  match argument with
  | '"' :: rest | '\'' :: rest => return (((rest.head?.map Char.toNat).getD 0 : Nat), p)
  | argument =>
    let (value, isNegative, rest) := readSpelledNumber argument
    let least : Nat := if signed then greatestNumber + 1 else numberRange - 1
    let greatest : Nat := if signed then greatestNumber else numberRange - 1
    let isTooGreat := (if isNegative then least else greatest) < value
    let result : Int :=
      if isTooGreat then if isNegative && signed then -least else greatest
      else if isNegative then -value else value
    if !rest.isEmpty then
      let isNumber := rest.length < argument.length
      return (result, ← p.object argument
        (if isNumber then "not completely converted" else "expected numeric value"))
    else if isTooGreat then
      return (result, ← p.object argument "Numerical result out of range")
    else return (result, p)

/-- The number with a fraction that the next argument spells. -/
def nextFraction (p : Printing) : Act (Binary64 × Printing) := do
  let (argument, p) := p.next
  match argument with
  | '"' :: rest | '\'' :: rest => return (.ofNat ((rest.head?.map Char.toNat).getD 0), p)
  | argument =>
    match readFraction? argument with
    | none =>
      if argument.isEmpty then return (.zero false, p)
      else return (.zero false, ← p.object argument "expected numeric value")
    | some ⟨value, inRange, rest⟩ =>
      if !rest.isEmpty then return (value, ← p.object argument "not completely converted")
      else if !inRange then return (value, ← p.object argument "Numerical result out of range")
      else return (value, p)

/-- A number in a format: either digits, or a star for the next argument. -/
def nextCount (p : Printing) (format : Octets) : Act (Int × Octets × Printing) := do
  match format with
  | '*' :: rest =>
    let (value, p) ← p.nextNumber true
    return (Int.bmod value 0x100000000, rest, p)
  | format =>
    return (valueIn 10 (format.takeWhile Char.isDigit), format.dropWhile Char.isDigit, p)

/-- Prints the next argument as a letter asks for. -/
def convert (p : Printing) (conversion : Conversion) (letter : Char) (directive : Octets) :
    Act Printing := do
  if letter = 's' then
    let (text, p) := p.next
    return p.add (conversion.showText text)
  else if letter = 'b' then
    let (argument, p) := p.next
    let (text, goesOn) := unescape argument
    return { p.add (conversion.showText text) with ended := !goesOn }
  else if letter = 'c' then
    let (argument, p) := p.next
    return p.add ({ conversion with precision := none }.showText [argument.head?.getD '\x00'])
  else if letter = 'd' || letter = 'i' then
    let (value, p) ← p.nextNumber true
    return p.add (conversion.showSigned value)
  else if "ouxX".toList.contains letter then
    let (value, p) ← p.nextNumber false
    return p.add (conversion.showUnsigned letter (value % numberRange).toNat)
  else
    match FractionStyle.ofLetter? letter with
    | some style => do
      let (value, p) ← p.nextFraction
      return p.add (conversion.showFraction style letter.isUpper value)
    | none => p.abandon (directive ++ ": invalid directive".toList)

/-- Prints the conversion at the start of a format, and gives the format behind it. -/
def printConversion (p : Printing) (format : Octets) : Act (Octets × Printing) := do
  let isFlag (c : Char) : Bool := "#-+ 0".toList.contains c
  let conversion := (format.takeWhile isFlag).foldl Conversion.withFlag {}
  let (width, rest, p) ← p.nextCount (format.dropWhile isFlag)
  let conversion := conversion.withWidth width
  let (conversion, rest, p) ← match rest with
    | '.' :: rest => do
      let (precision, rest, p) ← p.nextCount rest
      pure (conversion.withPrecision precision, rest, p)
    | rest => pure (conversion, rest, p)
  match rest with
  | [] => p.abandon "missing format character".toList
  | letter :: rest =>
    let directive := '%' :: format.take (format.length - rest.length)
    return (rest, ← p.convert conversion letter directive)

/-- Prints a format once.  Each piece of it takes one of `fuel` steps. -/
def printOnce : (fuel : Nat) → Octets → Printing → Act Printing
  | 0, _, p => return p
  | _, [], p => return p
  | fuel + 1, '%' :: '%' :: rest, p => printOnce fuel rest (p.add ['%'])
  | fuel + 1, '%' :: rest, p => do
    let (rest, p) ← p.printConversion rest
    if p.ended then return p else printOnce fuel rest p
  | fuel + 1, '\\' :: rest, p =>
    let (c, used) := readEscape rest
    printOnce fuel (rest.drop used) (p.add [c])
  | fuel + 1, c :: rest, p => printOnce fuel rest (p.add [c])

/-- Prints a format as long as it uses up arguments. -/
def printAll (format : Octets) : (fuel : Nat) → Printing → Act Printing
  | 0, p => return p
  | fuel + 1, p => do
    let done ← printOnce (format.length + 1) format p
    let isIdle := done.arguments.length = p.arguments.length
    if done.ended || done.arguments.isEmpty || isIdle then return done
    else printAll format fuel done

end Printing

/-- Prints its arguments in the format that the first one is. -/
def Utility.format : Utility := fun arguments => do
  match ← Act.withoutOptions arguments with
  | [] => Act.fail "usage: printf format [arg ...]".toList
  | format :: arguments =>
    let done ← Printing.printAll format (arguments.length + 1) { arguments }
    return { status := done.status, output := done.output }

end LineShell.Script
