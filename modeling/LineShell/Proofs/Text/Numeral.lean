import LineShell.Builtin
import Mathlib.Data.List.Induction
import Mathlib.Data.Nat.Digits.Defs
import Mathlib.Data.Set.List

/-!
# Signed numerals

A numeral is at least one decimal digit, with at most one sign in front.  The argument of `exit` is
a number exactly if it is the text of a numeral whose value fits in 32 bits; leading zeros do not
matter, and no character may stand before, between or behind.

## Main definitions

* `Sign`, `Numeral` — a numeral, as it is put together.
* `Numeral.text`, `Numeral.value` — how it is written, and the number that it stands for.

## Main results

* `digitsValue?_eq_some_iff` — what a list of digits stands for.
* `parseStatus?_eq_some_iff` — **the numbers that are accepted**, and what spells them.
-/

namespace LineShell

/-- The character of a decimal digit. -/
def digitChar (d : Fin 10) : Char :=
  Char.ofNat ('0'.toNat + d)

/-- The sign in front of a numeral. -/
inductive Sign
  | plus
  | minus
  deriving DecidableEq, Repr

/-- The character of a sign. -/
def Sign.char : Sign → Char
  | plus => '+'
  | minus => '-'

/-- A numeral: at least one digit, and perhaps a sign in front. -/
structure Numeral where
  sign : Option Sign
  digits : List (Fin 10)
  nonempty : digits ≠ []

namespace Numeral

/-- How the numeral is written. -/
def text (n : Numeral) : List Char :=
  (n.sign.map Sign.char).toList ++ n.digits.map digitChar

/-- The number that the digits stand for; the last one counts the ones. -/
def magnitude (n : Numeral) : Nat :=
  Nat.ofDigits 10 (n.digits.reverse.map Fin.val)

/-- The number that the numeral stands for. -/
def value (n : Numeral) : Int :=
  if n.sign = some .minus then -(n.magnitude : Int) else n.magnitude

end Numeral

/-! ### Digits -/

theorem isDigit_digitChar (d : Fin 10) : (digitChar d).isDigit = true := by
  revert d
  decide

theorem toNat_digitChar (d : Fin 10) : (digitChar d).toNat - '0'.toNat = d := by
  revert d
  decide

/-- The characters that are digits are those of the digits. -/
theorem exists_digitChar {c : Char} (h : c.isDigit = true) : ∃ d, digitChar d = c := by
  obtain ⟨hlow, hhigh⟩ : 48 ≤ c.toNat ∧ c.toNat ≤ 57 := Char.isDigit_iff_toNat.1 h
  refine ⟨⟨c.toNat - 48, by omega⟩, ?_⟩
  have hcode : '0'.toNat + (c.toNat - 48) = c.toNat := Nat.add_sub_cancel' hlow
  rw [digitChar, hcode, Char.ofNat_toNat]

/-- A digit is no sign. -/
theorem digitChar_ne_char (d : Fin 10) (sign : Sign) : digitChar d ≠ sign.char := by
  cases sign <;> revert d <;> decide

/-- What the digits of a list stand for, read from the left, is what they stand for by their
places. -/
theorem foldl_digitChar (digits : List (Fin 10)) :
    (digits.map digitChar).foldl (fun value c => 10 * value + (c.toNat - '0'.toNat)) 0 =
      Nat.ofDigits 10 (digits.reverse.map Fin.val) := by
  induction digits using List.reverseRecOn with
  | nil => rfl
  | append_singleton digits d ih =>
    rw [List.map_append, List.foldl_append, ih, List.reverse_append]
    simp only [List.map_cons, List.map_nil, List.foldl_cons, List.foldl_nil, toNat_digitChar,
      List.reverse_singleton, List.singleton_append, Nat.ofDigits_cons]
    omega

/-- A list of characters has a value if it is made of digits, and there are any. -/
theorem digitsValue?_eq_some_iff {text : List Char} {value : Nat} :
    digitsValue? text = some value ↔
      ∃ digits : List (Fin 10), digits ≠ [] ∧ digits.map digitChar = text ∧
        Nat.ofDigits 10 (digits.reverse.map Fin.val) = value := by
  unfold digitsValue?
  constructor
  · intro h
    split at h
    · cases h
    · next hdigits =>
      simp only [not_or, List.isEmpty_iff, Bool.not_eq_true', Bool.not_eq_false] at hdigits
      obtain ⟨hne, hall⟩ := hdigits
      have hrange : text ∈ Set.range (List.map digitChar) := by
        rw [Set.range_list_map]
        exact fun c hc => exists_digitChar (List.all_eq_true.1 hall c hc)
      obtain ⟨digits, rfl⟩ := hrange
      rw [foldl_digitChar] at h
      exact ⟨digits, fun hnil => hne (List.map_eq_nil_iff.2 hnil), rfl, Option.some.inj h⟩
  · rintro ⟨digits, hne, rfl, rfl⟩
    have hall : (digits.map digitChar).all Char.isDigit = true := by
      simp [isDigit_digitChar]
    have hsome : ¬((digits.map digitChar).isEmpty = true ∨
        (!(digits.map digitChar).all Char.isDigit) = true) := by
      simp [hall, hne]
    rw [if_neg hsome, foldl_digitChar]

/-! ### Numerals -/

namespace Numeral

/-- The digits of a numeral have a value. -/
theorem digitsValue?_digits (n : Numeral) :
    digitsValue? (n.digits.map digitChar) = some n.magnitude :=
  digitsValue?_eq_some_iff.2 ⟨n.digits, n.nonempty, rfl, rfl⟩

/-- The text of a numeral is taken for its value, if that is in range. -/
theorem parseStatus?_text (n : Numeral) (hlow : -2 ^ 31 ≤ n.value) (hhigh : n.value ≤ 2 ^ 31 - 1) :
    parseStatus? n.text = some n.value := by
  have hrange : -2147483648 ≤ n.value ∧ n.value ≤ 2147483647 := by omega
  have hdigits := n.digitsValue?_digits
  refine Option.filter_eq_some_iff.2 ⟨?_, decide_eq_true hrange⟩
  obtain ⟨sign, digits, hne⟩ := n
  cases sign with
  | some sign =>
    cases sign with
    | plus => exact congrArg (Option.map Int.ofNat) hdigits
    | minus =>
      simp only [text, Option.map_some, Sign.char, Option.toList_some, List.singleton_append,
        hdigits]
      rfl
  | none =>
    cases digits with
    | nil => exact absurd rfl hne
    | cons d digits =>
      split
      · next heq => exact absurd (List.cons.inj heq).1 (digitChar_ne_char d .plus)
      · next heq => exact absurd (List.cons.inj heq).1 (digitChar_ne_char d .minus)
      · exact congrArg (Option.map Int.ofNat) hdigits

end Numeral

/-- **The numbers that are accepted** are those of numerals, as far as they fit in 32 bits. -/
theorem parseStatus?_eq_some_iff {text : List Char} {value : Int} :
    parseStatus? text = some value ↔
      ∃ n : Numeral, n.text = text ∧ n.value = value ∧ -2 ^ 31 ≤ value ∧ value ≤ 2 ^ 31 - 1 := by
  constructor
  · intro h
    have hrange : -2 ^ 31 ≤ value ∧ value ≤ 2 ^ 31 - 1 := by
      have hbounds := parseStatus?_bounds h
      omega
    have hvalue := (Option.filter_eq_some_iff.1 h).1
    split at hvalue
    · obtain ⟨magnitude, hdigits, rfl⟩ := Option.map_eq_some_iff.1 hvalue
      obtain ⟨digits, hne, rfl, rfl⟩ := digitsValue?_eq_some_iff.1 hdigits
      exact ⟨⟨some .plus, digits, hne⟩, rfl, rfl, hrange⟩
    · next digits =>
      cases hdigits : digitsValue? digits with
      | none =>
        rw [hdigits] at hvalue
        cases hvalue
      | some magnitude =>
        rw [hdigits] at hvalue
        obtain rfl := Option.some.inj hvalue
        obtain ⟨digits, hne, rfl, rfl⟩ := digitsValue?_eq_some_iff.1 hdigits
        exact ⟨⟨some .minus, digits, hne⟩, rfl, rfl, hrange⟩
    · obtain ⟨magnitude, hdigits, rfl⟩ := Option.map_eq_some_iff.1 hvalue
      obtain ⟨digits, hne, rfl, rfl⟩ := digitsValue?_eq_some_iff.1 hdigits
      exact ⟨⟨none, digits, hne⟩, rfl, rfl, hrange⟩
  · rintro ⟨n, rfl, rfl, hlow, hhigh⟩
    exact n.parseStatus?_text hlow hhigh

end LineShell
