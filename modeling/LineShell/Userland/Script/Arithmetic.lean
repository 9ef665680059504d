import LineShell.Userland.Script.Running

/-!
# Arithmetic in scripts

An expression over whole numbers of 64 bits.  It is evaluated while it is read, so what is wrong is
told in the order in which it stands in the text; the side of a choice that does not count is read
without effect.

## Main definitions

* `wrap` — a number as it is held in 64 bits.
* `Operation`, `operations` — the operators between two numbers, with how close they bind.
* `Symbol`, `symbols` — the symbols of an expression.
* `Act.wholeNumber` — the number that the value of a name spells.
* `Act.calculate` — the value of an expression.
-/

namespace LineShell.Script

/-- A number as it is held in 64 bits, the first of which is the sign. -/
def wrap (n : Int) : Int :=
  Int.bmod n 0x10000000000000000

/-- The greatest number of 64 bits. -/
def greatestNumber : Nat := 0x7FFFFFFFFFFFFFFF

/-- How far a number is shifted: only the lowest bits of the distance count. -/
def shiftDistance (n : Int) : Nat :=
  (n % 64).toNat

/-- An operator between two numbers. -/
structure Operation where
  spelling : String
  /-- How close it binds: an operator with a lesser rank comes first. -/
  rank : Nat
  /-- The result, if there is one. -/
  apply : Int → Int → Option Int

/-- The value of a truth. -/
def truth (b : Bool) : Int :=
  if b then 1 else 0

/-- A number, of which only the bits matter. -/
def bits (n : Int) : BitVec 64 :=
  BitVec.ofInt 64 n

/-- The operators between two numbers. -/
def operations : List Operation :=
  [⟨"*", 0, fun a b => some (a * b)⟩,
    ⟨"/", 0, fun a b => if b = 0 then none else some (a.tdiv b)⟩,
    ⟨"%", 0, fun a b => if b = 0 then none else some (a.tmod b)⟩,
    ⟨"+", 1, fun a b => some (a + b)⟩,
    ⟨"-", 1, fun a b => some (a - b)⟩,
    ⟨"<<", 2, fun a b => some (a <<< shiftDistance b)⟩,
    ⟨">>", 2, fun a b => some (a >>> shiftDistance b)⟩,
    ⟨"<", 3, fun a b => some (truth (a < b))⟩,
    ⟨"<=", 3, fun a b => some (truth (a ≤ b))⟩,
    ⟨">", 3, fun a b => some (truth (b < a))⟩,
    ⟨">=", 3, fun a b => some (truth (b ≤ a))⟩,
    ⟨"==", 4, fun a b => some (truth (a = b))⟩,
    ⟨"!=", 4, fun a b => some (truth (a ≠ b))⟩,
    ⟨"&", 5, fun a b => some (bits a &&& bits b).toInt⟩,
    ⟨"^", 6, fun a b => some (bits a ^^^ bits b).toInt⟩,
    ⟨"|", 7, fun a b => some (bits a ||| bits b).toInt⟩]

/-- The rank that no operator reaches. -/
def outerRank : Nat := 8

/-- A symbol of an expression. -/
inductive Symbol
  | number (value : Nat)
  | name (name : Octets)
  | sign (spelling : String)
  /-- An operator that gives its result to the name on its left. -/
  | assignment (spelling : String)
  | unknown
  deriving DecidableEq, Repr

/-- The operator of a symbol. -/
def Symbol.operation? : Symbol → Option Operation
  | .sign spelling => operations.find? (·.spelling = spelling)
  | _ => none

/-- The longest signs come first. -/
def signs : List String :=
  ["<<", ">>", "<=", ">=", "==", "!=", "&&", "||", "*", "/", "%", "+", "-", "<", ">", "&", "^",
    "|", "!", "~", "?", ":", "(", ")"]

/-- The signs that become assignments with a sign of equality behind them. -/
def assigningSigns : List String :=
  ["<<", ">>", "*", "/", "%", "+", "-", "&", "^", "|"]

/-- The number at the start of a text, and what follows it.  A zero in front tells the base. -/
def readNumeral (text : Octets) : Nat × Octets :=
  let digits (base : Nat) (text : Octets) : Nat × Octets :=
    (valueIn base (text.takeWhile (isDigitIn base)), text.dropWhile (isDigitIn base))
  match text with
  | '0' :: x :: c :: rest =>
    if (x = 'x' || x = 'X') && isDigitIn 16 c then digits 16 (c :: rest) else digits 8 text
  | '0' :: _ => digits 8 text
  | _ => digits 10 text

/-- The symbol at the start of a text that begins with no blank, and what follows it.  A number that
is too great counts as the greatest one. -/
def readSymbol (c : Char) (rest : Octets) : Symbol × Octets :=
  let text := c :: rest
  if c.isDigit then
    let (value, rest) := readNumeral text
    (.number (min value greatestNumber), rest)
  else if isNameStart c then (.name (text.takeWhile isNamePart), text.dropWhile isNamePart)
  else
    match signs.find? (·.toList.isPrefixOf text) with
    | some sign =>
      let rest := text.drop sign.length
      match assigningSigns.contains sign, rest with
      | true, '=' :: rest => (.assignment sign, rest)
      | _, rest => (.sign sign, rest)
    | none => if c = '=' then (.assignment "", rest) else (.unknown, rest)

/-- The symbols of an expression.  Each symbol and each blank takes one of `fuel` steps. -/
def symbols : (fuel : Nat) → Octets → List Symbol
  | 0, _ => []
  | _, [] => []
  | fuel + 1, c :: rest =>
    if isBlankSeparator c then symbols fuel rest
    else
      let (symbol, rest) := readSymbol c rest
      symbol :: symbols fuel rest

namespace Act

/-- The whole number that a value spells, with blanks around it.  Nothing spells 0. -/
def wholeNumber (text : Octets) : Act Int := do
  let begun := text.dropWhile isSpace
  if begun.isEmpty then return 0
  let (isNegative, numeral) := match begun with
    | '-' :: numeral => (true, numeral)
    | '+' :: numeral => (false, numeral)
    | numeral => (false, numeral)
  let (value, rest) := readNumeral numeral
  let hasDigits := (numeral.head?.map Char.isDigit).getD false
  let fits := value ≤ greatestNumber + (if isNegative then 1 else 0)
  if hasDigits && fits && rest.all isSpace then return if isNegative then -value else value
  else fail ("Illegal number: ".toList ++ text)

/-- The number that a name stands for. -/
def numberOf (name : Octets) : Act Int := do
  wholeNumber (((← get).valueOf? name).getD [])

/-- Refuses an expression. -/
def refuseExpression {α : Type} (text : Octets) (message : String) : Act α :=
  fail (("arithmetic expression: " ++ message ++ ": \"").toList ++ text ++ ['"'])

/-- The result of an operator in an expression.  A quotient that does not fit ends the process, even
where only the remainder is asked for. -/
def operate (text : Octets) (operation : Operation) (a b : Int) : Act Int := do
  match operation.apply a b with
  | none => refuseExpression text "division by zero"
  | some result =>
    let divides := operation.spelling = "/" || operation.spelling = "%"
    if divides && wrap (a.tdiv b) ≠ a.tdiv b then throw (.ended (.signaled .badResult))
    return wrap result

/-- What an act calculates from the symbols of an expression, and the symbols that are left. -/
abbrev Calculation := List Symbol → Act (Int × List Symbol)

mutual

/-- A value given to a name, or any other value. -/
def assignment (text : Octets) : (fuel : Nat) → (live : Bool) → Calculation
  | 0, _, _ => refuseExpression text "out of space"
  | fuel + 1, live, symbols => do
    match symbols with
    | .name name :: .assignment sign :: rest =>
      let (value, rest) ← assignment text fuel live rest
      if !live then return (value, rest)
      let result ← match operations.find? (·.spelling = sign) with
        | some operation => operate text operation (← numberOf name) value
        | none => pure value
      Act.assign name (Octets.ofInt result)
      return (result, rest)
    | symbols => conditional text fuel live symbols

/-- A choice between two values, or any value that is no assignment. -/
def conditional (text : Octets) : (fuel : Nat) → (live : Bool) → Calculation
  | 0, _, _ => refuseExpression text "out of space"
  | fuel + 1, live, symbols => do
    let (condition, rest) ← disjunction text fuel live symbols
    match rest with
    | .sign "?" :: rest =>
      let (success, rest) ← assignment text fuel (live && condition ≠ 0) rest
      match rest with
      | .sign ":" :: rest =>
        let (failure, rest) ← conditional text fuel (live && condition = 0) rest
        return (if condition ≠ 0 then success else failure, rest)
      | _ => refuseExpression text "expecting ':'"
    | rest => return (condition, rest)

/-- Whether one of several values is not 0; the rest of them do not count then. -/
def disjunction (text : Octets) : (fuel : Nat) → (live : Bool) → Calculation
  | 0, _, _ => refuseExpression text "out of space"
  | fuel + 1, live, symbols => do
    let (first, rest) ← conjunction text fuel live symbols
    match rest with
    | .sign "||" :: rest =>
      let (second, rest) ← disjunction text fuel (live && first = 0) rest
      return (truth (first ≠ 0 ∨ second ≠ 0), rest)
    | rest => return (first, rest)

/-- Whether none of several values is 0; the rest of them do not count otherwise. -/
def conjunction (text : Octets) : (fuel : Nat) → (live : Bool) → Calculation
  | 0, _, _ => refuseExpression text "out of space"
  | fuel + 1, live, symbols => do
    let (first, rest) ← primary text fuel live symbols
    let (first, rest) ← operatorsBehind text fuel live first outerRank rest
    match rest with
    | .sign "&&" :: rest =>
      let (second, rest) ← conjunction text fuel (live && first ≠ 0) rest
      return (truth (first ≠ 0 ∧ second ≠ 0), rest)
    | rest => return (first, rest)

/-- The result of the operators behind a value that bind closer than some rank. -/
def operatorsBehind (text : Octets) : (fuel : Nat) → (live : Bool) → (first : Int) →
    (rank : Nat) → Calculation
  | 0, _, _, _, _ => refuseExpression text "out of space"
  | fuel + 1, live, first, rank, symbols => do
    match symbols.head?.bind Symbol.operation? with
    | some operation =>
      if rank ≤ operation.rank then return (first, symbols)
      let (second, rest) ← primary text fuel live symbols.tail
      let (second, rest) ← operatorsBehind text fuel live second operation.rank rest
      let result ← if live then operate text operation first second else pure second
      operatorsBehind text fuel live result rank rest
    | none => return (first, symbols)

/-- A value without operators behind it. -/
def primary (text : Octets) : (fuel : Nat) → (live : Bool) → Calculation
  | 0, _, _ => refuseExpression text "out of space"
  | fuel + 1, live, symbols => do
    match symbols with
    | .number value :: rest => return (value, rest)
    | .name name :: rest =>
      if live then return (← numberOf name, rest) else return (0, rest)
    | .sign "(" :: rest =>
      let (value, rest) ← assignment text fuel live rest
      match rest with
      | .sign ")" :: rest => return (value, rest)
      | _ => refuseExpression text "expecting ')'"
    | .sign "+" :: rest => primary text fuel live rest
    | .sign "-" :: rest =>
      let (value, rest) ← primary text fuel live rest
      return (wrap (-value), rest)
    | .sign "!" :: rest =>
      let (value, rest) ← primary text fuel live rest
      return (truth (value = 0), rest)
    | .sign "~" :: rest =>
      let (value, rest) ← primary text fuel live rest
      return (-value - 1, rest)
    | _ => refuseExpression text "expecting primary"

end

/-- The value of an expression. -/
def calculate (text : Octets) : Act Int := do
  let steps := 10 * (text.length + 2)
  let (value, rest) ← assignment text steps true (symbols (text.length + 1) text)
  if !rest.isEmpty then refuseExpression text "expecting EOF"
  return value

end Act

end LineShell.Script
