/-!
# Binary numbers of 64 bits

A number with a fraction is held as a whole number of 53 bits times a power of two.  Any other
number is represented by the nearest one of these, and of two that are equally near by the even one.

## Main definitions

* `roundDiv` — the whole number nearest to a quotient.
* `Binary64` — the numbers, with the infinite ones and what is no number.
* `Binary64.nearest` — the number that represents a quotient.
-/

namespace LineShell

/-- The whole number nearest to a quotient; of two that are equally near the even one. -/
def roundDiv (numerator denominator : Nat) : Nat :=
  let quotient := numerator / denominator
  let rest := 2 * (numerator % denominator)
  if denominator < rest || (denominator = rest && quotient % 2 = 1) then quotient + 1
  else quotient

/-- A number of 64 bits. -/
inductive Binary64
  /-- A significand times a power of two. -/
  | finite (negative : Bool) (significand : Nat) (exponent : Int)
  | infinite (negative : Bool)
  | notNumber (negative : Bool)
  deriving DecidableEq, Repr

namespace Binary64

/-- The exponent of the least numbers. -/
def leastExponent : Int := -1074

/-- The exponent of the greatest numbers. -/
def greatestExponent : Int := 971

/-- The number zero. -/
def zero (negative : Bool) : Binary64 :=
  .finite negative 0 leastExponent

/-- A number times a power of two, as a quotient. -/
def scaled (numerator denominator : Nat) (exponent : Int) : Nat × Nat :=
  (numerator <<< exponent.toNat, denominator <<< (-exponent).toNat)

/-- The exponent for which a quotient that is not zero has a significand of 53 bits. -/
def exponentOf (numerator denominator : Nat) : Int :=
  let guess := (numerator.log2 : Int) - denominator.log2 - 52
  let (a, b) := scaled numerator denominator (-guess)
  if a / b < 0x10000000000000 then guess - 1 else guess

/-- The significand of 53 bits, or fewer for the least numbers, that represents a quotient with an
exponent, and the exponent that it really needs. -/
def significandOf (numerator denominator : Nat) (exponent : Int) : Nat × Int :=
  let (a, b) := scaled numerator denominator (-exponent)
  let significand := roundDiv a b
  if significand = 0x20000000000000 then (0x10000000000000, exponent + 1)
  else (significand, exponent)

/-- The number that represents a quotient, and whether the quotient is neither too great nor, unless
it is represented exactly, too small for all of the significand to be used. -/
def nearest (negative : Bool) (numerator denominator : Nat) : Binary64 × Bool :=
  if numerator = 0 then (zero negative, true)
  else
    let unbounded := exponentOf numerator denominator
    let least := max unbounded leastExponent
    let (significand, exponent) := significandOf numerator denominator least
    if greatestExponent < exponent then (.infinite negative, false)
    else
      let (a, b) := scaled numerator denominator (-least)
      let isTiny := (significandOf numerator denominator unbounded).2 < leastExponent
      (.finite negative significand exponent, !isTiny || a % b = 0)

/-- The number that represents a whole number. -/
def ofNat (n : Nat) : Binary64 :=
  (nearest false n 1).1

/-- Whether the sign of a number is a minus. -/
def isNegative : Binary64 → Bool
  | .finite negative _ _ | .infinite negative | .notNumber negative => negative

end Binary64

end LineShell
