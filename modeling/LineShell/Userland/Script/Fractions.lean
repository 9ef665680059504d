import LineShell.Text.Binary64
import LineShell.Userland.Script.Octets

/-!
# Numbers with a fraction

Numbers with a fraction are spelled in decimal or hexadecimal digits, perhaps with an exponent, and
shown in the same ways with as many digits as are asked for.

## Main definitions

* `Fraction`, `readFraction?` — the number that a text spells, and what follows it.
* `fixedDigits`, `Scientific` — the digits of a number without and with an exponent.
* `FractionStyle`, `showFinite` — how a number is shown.
-/

namespace LineShell.Script

/-- A number with a fraction that a text begins with. -/
structure Fraction where
  value : Binary64
  /-- Whether the value is one that can be represented. -/
  inRange : Bool := true
  /-- What follows in the text. -/
  rest : Octets
  deriving DecidableEq, Repr

/-- Whether a text begins with a word in letters of either case, and what follows then. -/
def dropWord? (word : String) (text : Octets) : Option Octets :=
  let count := word.length
  if (text.take count).map Char.toLower = word.toList then some (text.drop count) else none

/-- What may follow a word for what is no number: letters and digits in parentheses. -/
def skipPayload (text : Octets) : Octets :=
  match text with
  | '(' :: payload =>
    match payload.dropWhile isNamePart with
    | ')' :: rest => rest
    | _ => text
  | text => text

/-- Digits with perhaps a point among them, how many of the digits are behind it, and what follows,
if there is a digit at all. -/
def readPointed? (base : Nat) (text : Octets) : Option (Octets × Nat × Octets) :=
  let whole := text.takeWhile (isDigitIn base)
  let (part, rest) := match text.dropWhile (isDigitIn base) with
    | '.' :: behind => (behind.takeWhile (isDigitIn base), behind.dropWhile (isDigitIn base))
    | rest => ([], rest)
  if whole.isEmpty && part.isEmpty then none else some (whole ++ part, part.length, rest)

/-- The exponent behind a letter, and what follows; without digits there is no exponent. -/
def readExponent (letter : Char) (text : Octets) : Int × Octets :=
  match text with
  | [] => (0, [])
  | c :: rest =>
    let (isNegative, digits) := match rest with
      | '-' :: digits => (true, digits)
      | '+' :: digits => (false, digits)
      | digits => (false, digits)
    if c.toLower = letter && (digits.head?.map Char.isDigit).getD false then
      let value : Int := valueIn 10 (digits.takeWhile Char.isDigit)
      (if isNegative then -value else value, digits.dropWhile Char.isDigit)
    else (0, text)

/-- The digits that matter lie within so many places of the point in any number that is neither too
great nor too small. -/
def placeLimit : Nat := 2000

/-- The number that digits spell with an exponent of a base, and whether it is in range. -/
def fractionOf (isNegative : Bool) (base power : Nat) (digits : Octets) (exponent : Int) :
    Binary64 × Bool :=
  let significand := valueIn base digits
  let places := (Nat.toDigits power significand).length + exponent
  if significand = 0 then (.zero isNegative, true)
  else if placeLimit < places then (.infinite isNegative, false)
  else if places < -placeLimit then (.zero isNegative, false)
  else
    Binary64.nearest isNegative (significand * Nat.pow power exponent.toNat)
      (Nat.pow power (-exponent).toNat)

/-- The number in hexadecimal digits that a text begins with. -/
def readHexadecimal? (isNegative : Bool) (text : Octets) : Option Fraction :=
  match text with
  | '0' :: x :: body =>
    if x.toLower ≠ 'x' then none
    else do
      let (digits, places, rest) ← readPointed? 16 body
      let (exponent, rest) := readExponent 'p' rest
      let (value, inRange) := fractionOf isNegative 16 2 digits (exponent - 4 * places)
      return { value, inRange, rest }
  | _ => none

/-- The number in decimal digits that a text begins with. -/
def readDecimal? (isNegative : Bool) (text : Octets) : Option Fraction := do
  let (digits, places, rest) ← readPointed? 10 text
  let (exponent, rest) := readExponent 'e' rest
  let (value, inRange) := fractionOf isNegative 10 10 digits (exponent - places)
  return { value, inRange, rest }

/-- What is named by a word, if a text begins with that. -/
def readNamed? (isNegative : Bool) (text : Octets) : Option Fraction :=
  match (dropWord? "infinity" text).orElse fun _ => dropWord? "inf" text with
  | some rest => some { value := .infinite isNegative, rest }
  | none =>
    (dropWord? "nan" text).map fun rest =>
      { value := .notNumber isNegative, rest := skipPayload rest }

/-- The number with a fraction that a text begins with, behind blanks and a sign. -/
def readFraction? (text : Octets) : Option Fraction :=
  let (isNegative, body) := match text.dropWhile isSpace with
    | '-' :: body => (true, body)
    | '+' :: body => (false, body)
    | body => (false, body)
  ((readNamed? isNegative body).orElse fun _ => readHexadecimal? isNegative body).orElse
    fun _ => readDecimal? isNegative body

/-- The digits of a number with so many of them behind the point. -/
def fixedDigits (places : Nat) (digits : Octets) : Octets × Octets :=
  let padded := List.replicate (places + 1 - digits.length) '0' ++ digits
  (padded.take (padded.length - places), padded.drop (padded.length - places))

/-- A number in digits, with the first one in front of the point, times a power of ten. -/
structure Scientific where
  digits : Octets
  exponent : Int
  deriving DecidableEq, Repr

/-- The exponent of the power of ten that is not greater than a quotient, which is not zero, while
the next one is. -/
def decimalExponent (numerator denominator : Nat) : Int :=
  if denominator ≤ numerator then (decimal (numerator / denominator)).length - 1
  else
    let places := (decimal (denominator / numerator)).length
    if denominator ≤ numerator * Nat.pow 10 (places - 1) then 1 - places else -places

/-- A quotient in digits, so many of them behind the point. -/
def Scientific.ofQuotient (places numerator denominator : Nat) : Scientific :=
  if numerator = 0 then { digits := List.replicate (places + 1) '0', exponent := 0 }
  else
    let exponent := decimalExponent numerator denominator
    let shift : Int := places - exponent
    let digits := decimal (roundDiv (numerator * Nat.pow 10 shift.toNat)
      (denominator * Nat.pow 10 (-shift).toNat))
    if digits.length = places + 1 then { digits, exponent }
    else { digits := digits.dropLast, exponent := exponent + 1 }

/-- How a number with a fraction is shown. -/
inductive FractionStyle
  /-- Without an exponent. -/
  | fixed
  /-- With an exponent. -/
  | scientific
  /-- With an exponent only if it is great, and without zeros at the end. -/
  | general
  /-- In hexadecimal digits, with an exponent of two. -/
  | hexadecimal
  deriving DecidableEq, Repr

namespace FractionStyle

/-- The style that a letter asks for, small or great. -/
def ofLetter? (letter : Char) : Option FractionStyle :=
  [('f', .fixed), ('e', .scientific), ('g', .general), ('a', .hexadecimal)].lookup letter.toLower

/-- How many digits stand behind the point where that is not said. -/
def usualPlaces : Nat := 6

/-- An exponent behind a letter, with so many digits at least. -/
def shownExponent (letter : Char) (least : Nat) (exponent : Int) : Octets :=
  let digits := decimal exponent.natAbs
  letter :: (if exponent < 0 then '-' else '+')
    :: (List.replicate (least - digits.length) '0' ++ digits)

/-- Digits in front of the point and behind it; the point is left out if nothing follows, unless it
is to be shown always. -/
def joined (showsPoint : Bool) (whole part : Octets) : Octets :=
  if part.isEmpty && !showsPoint then whole else whole ++ '.' :: part

/-- Digits without the zeros at their end. -/
def withoutZeros (digits : Octets) : Octets :=
  (digits.reverse.dropWhile (· = '0')).reverse

/-- A quotient in fixed style. -/
def showFixed (showsPoint : Bool) (places numerator denominator : Nat) : Octets :=
  let digits := decimal (roundDiv (numerator * Nat.pow 10 places) denominator)
  let (whole, part) := fixedDigits places digits
  joined showsPoint whole part

/-- A quotient in scientific style. -/
def showScientific (showsPoint : Bool) (places numerator denominator : Nat) : Octets :=
  let shown := Scientific.ofQuotient places numerator denominator
  let (whole, fraction) := shown.digits.splitAt 1
  joined showsPoint whole fraction ++ shownExponent 'e' 2 shown.exponent

/-- A quotient in general style, with so many digits.  One that needs an exponent only because it is
rounded up to a power of ten is shown with its first digit alone. -/
def showGeneral (showsAll : Bool) (count numerator denominator : Nat) : Octets :=
  let count := max count 1
  let shown := Scientific.ofQuotient (count - 1) numerator denominator
  let cut (part : Octets) : Octets := if showsAll then part else withoutZeros part
  if shown.exponent < -4 || (count : Int) ≤ shown.exponent then
    let reaches := shown.exponent = count && decimalExponent numerator denominator < count
    let part := if reaches then [] else cut (shown.digits.drop 1)
    joined showsAll (shown.digits.take 1) part ++ shownExponent 'e' 2 shown.exponent
  else
    let places := (count - 1 - shown.exponent).toNat
    let digits := decimal (roundDiv (numerator * Nat.pow 10 places) denominator)
    let (whole, part) := fixedDigits places digits
    joined showsAll whole (cut part)

/-- How many hexadecimal digits stand behind the point in a significand. -/
def hexadecimalPlaces : Nat := 13

/-- A number in hexadecimal style, without the mark of the base. -/
def showHexadecimal (showsPoint : Bool) (places? : Option Nat) (significand : Nat)
    (exponent : Int) : Octets :=
  let exponent := if significand = 0 then 0 else exponent + 4 * hexadecimalPlaces
  let places := places?.getD hexadecimalPlaces
  let rounded := roundDiv (significand * Nat.pow 16 (places - hexadecimalPlaces))
    (Nat.pow 16 (hexadecimalPlaces - places))
  let (whole, part) := fixedDigits places (Nat.toDigits 16 rounded)
  let part := if places?.isSome then part else withoutZeros part
  joined showsPoint whole part ++ shownExponent 'p' 1 exponent

/-- A finite number without its sign, in front of which the mark of the base stands.  `count?` tells
how many digits are shown, and `showsAll` that nothing is left out. -/
def showFinite (style : FractionStyle) (showsAll : Bool) (count? : Option Nat)
    (significand : Nat) (exponent : Int) : Octets × Octets :=
  let (numerator, denominator) := Binary64.scaled significand 1 exponent
  let count := count?.getD usualPlaces
  match style with
  | .fixed => ([], showFixed showsAll count numerator denominator)
  | .scientific => ([], showScientific showsAll count numerator denominator)
  | .general => ([], showGeneral showsAll count numerator denominator)
  | .hexadecimal => (['0', 'x'], showHexadecimal showsAll count? significand exponent)

end FractionStyle

end LineShell.Script
