import LineShell.Userland.Script.Utility

/-!
# Conditions

A condition is an expression over texts, numbers and files, given as the arguments of a command.
What an argument means depends on those behind it: what could be an operator is taken for a text
where an operator would have nothing to work on.

## Main definitions

* `fileTests`, `comparisons` — the operators on one and on two texts.
* `Sign`, `signOf` — what the first of some arguments means.
* `Condition.either`, `Condition.both`, `Condition.negation`, `Condition.primary` — expressions.
* `Utility.condition` — whether a condition holds.
-/

namespace LineShell.Script

/-- The entry that a path leads to. -/
def entryAt? (r : Running) (path : Octets) : Option (Location × Node) :=
  (r.system.files.find r.process.directory path.toBytes).toOption

/-- Whether a path leads to a link itself. -/
def isLink (r : Running) (path : Octets) : Bool :=
  let purpose : Purpose := if path.getLast? = some '/' then .find else .findLink
  match r.system.files.locate purpose r.process.directory path.toBytes with
  | .ok (.entry _ (.link _)) => true
  | _ => false

/-- Whether something has a bit set among its permissions. -/
def hasMode (bit : Nat) : Node → Bool
  | .file mode _ => mode &&& bit ≠ 0
  | _ => false

/-- Whether something is not empty. -/
def hasSize : Node → Bool
  | .file _ content => !content.isEmpty
  | .directory | .program _ => true
  | _ => false

/-- Whether something is a file, a directory or a device. -/
def isRegular : Node → Bool
  | .file _ _ | .program _ => true
  | _ => false

/-- Whether something is a device. -/
def isDevice : Node → Bool
  | .null | .full => true
  | _ => false

/-- The operators that tell something about the entry to which a path leads. -/
def fileTests : List (String × (Node → Bool)) :=
  [("-r", fun _ => true), ("-w", fun _ => true),
    ("-x", fun node => node = .directory || node.isExecutable), ("-e", fun _ => true),
    ("-f", isRegular), ("-d", fun node => node = .directory), ("-c", isDevice),
    ("-b", fun _ => false), ("-p", fun _ => false), ("-u", hasMode 0o4000), ("-g", hasMode 0o2000),
    ("-k", hasMode 0o1000), ("-s", hasSize), ("-O", fun _ => true), ("-G", fun _ => true),
    ("-S", fun _ => false)]

/-- The other operators on one text. -/
def otherTests : List String := ["-t", "-z", "-n", "-h", "-L"]

/-- The operators that compare two numbers. -/
def comparisons : List (String × (Int → Int → Bool)) :=
  [("-eq", fun a b => a = b), ("-ne", fun a b => a ≠ b), ("-ge", fun a b => b ≤ a),
    ("-gt", fun a b => b < a), ("-le", fun a b => a ≤ b), ("-lt", fun a b => a < b)]

/-- The other operators on two texts. -/
def otherComparisons : List String := ["=", "!=", "<", ">", "-nt", "-ot", "-ef"]

/-- Whether a text is an operator on two texts. -/
def isBinary (text : Octets) : Bool :=
  let name := String.ofList text
  otherComparisons.contains name || (comparisons.lookup name).isSome

/-- Whether a text is an operator on one text. -/
def isUnary (text : Octets) : Bool :=
  let name := String.ofList text
  otherTests.contains name || (fileTests.lookup name).isSome

/-- What an argument means. -/
inductive Sign
  | missing
  | operand
  | unary
  | binary
  | bang
  | both
  | either
  | openParen
  | closeParen
  deriving DecidableEq, Repr

/-- The signs that mean the same everywhere. -/
def plainSigns : List (String × Sign) :=
  [("!", .bang), ("-a", .both), ("-o", .either), ("(", .openParen), (")", .closeParen)]

/-- What the first of some arguments means. -/
def signOf : List Octets → Sign
  | [] => .missing
  | text :: rest =>
    let isAlone := match rest with
      | [] => true
      | [_] => false
      | next :: _ => isBinary next
    if isBinary text then .binary
    else if isUnary text then if isAlone then .operand else .unary
    else
      match plainSigns.lookup (String.ofList text) with
      | some .openParen => if rest.isEmpty then .operand else .openParen
      | some sign => sign
      | none => .operand

namespace Condition

/-- Refuses a condition because of one of its arguments. -/
def refuse {α : Type} (argument : Octets) (reason : String) : Act α :=
  Act.fail (if argument.isEmpty then reason.toList else argument ++ ": ".toList ++ reason.toList)

/-- Whether an operator holds for a text. -/
def unary (operator text : Octets) : Act Bool := do
  let r ← get
  match String.ofList operator with
  | "-z" => return text.isEmpty
  | "-n" => return !text.isEmpty
  | "-h" | "-L" => return isLink r text
  | "-t" =>
    let fd ← Act.integer text
    let file? := (r.process.descriptors.get? fd.toNat).bind (r.system.opened[·]?)
    return 0 ≤ fd && (file?.bind (·.terminal)).isSome
  | name =>
    match fileTests.lookup name, entryAt? r text with
    | some test, some (_, node) => return test node
    | _, _ => return false

/-- Whether an operator holds for two texts. -/
def binary (operator first second : Octets) : Act Bool := do
  let r ← get
  match String.ofList operator with
  | "=" => return first = second
  | "!=" => return first ≠ second
  | "<" => return first < second
  | ">" => return second < first
  | "-ef" =>
    match entryAt? r first, entryAt? r second with
    | some (a, _), some (b, _) => return a = b
    | _, _ => return false
  | name =>
    match comparisons.lookup name with
    | some compare => return compare (← Act.integer first) (← Act.integer second)
    | none => return false

/-- Whether an expression holds, and its arguments from the last one on that it has used. -/
abbrev Reading := Act (Bool × List Octets)

mutual

/-- Expressions of which one holds. -/
def either : (fuel : Nat) → Sign → List Octets → Reading
  | 0, _, arguments => return (false, arguments)
  | fuel + 1, sign, arguments => do
    let (first, arguments) ← both fuel sign arguments
    if signOf arguments.tail = .either then
      let rest := arguments.drop 2
      let (second, rest) ← either fuel (signOf rest) rest
      return (first || second, rest)
    else return (first, arguments)

/-- Expressions all of which hold. -/
def both : (fuel : Nat) → Sign → List Octets → Reading
  | 0, _, arguments => return (false, arguments)
  | fuel + 1, sign, arguments => do
    let (first, arguments) ← negation fuel sign arguments
    if signOf arguments.tail = .both then
      let rest := arguments.drop 2
      let (second, rest) ← both fuel (signOf rest) rest
      return (first && second, rest)
    else return (first, arguments)

/-- An expression that may be negated. -/
def negation : (fuel : Nat) → Sign → List Octets → Reading
  | 0, _, arguments => return (false, arguments)
  | fuel + 1, sign, arguments => do
    if sign ≠ .bang then primary fuel sign arguments
    else
      let next := signOf arguments.tail
      let (holds, rest) ←
        negation fuel next (if next = .missing then arguments else arguments.tail)
      return (!holds, rest)

/-- A text, an operator with what it works on, or an expression in parentheses. -/
def primary : (fuel : Nat) → Sign → List Octets → Reading
  | 0, _, arguments => return (false, arguments)
  | fuel + 1, sign, arguments => do
    match sign, arguments with
    | .missing, arguments => return (false, arguments)
    | .openParen, _ :: rest =>
      let next := signOf rest
      if next = .closeParen then return (false, rest)
      let (holds, rest) ← either fuel next rest
      if signOf rest.tail ≠ .closeParen then refuse [] "closing paren expected"
      return (holds, rest.tail)
    | .unary, operator :: text :: rest => return (← unary operator text, text :: rest)
    | .unary, operator :: [] => refuse operator "argument expected"
    | _, first :: rest =>
      if signOf rest = .binary then
        match rest with
        | operator :: second :: rest => return (← binary operator first second, second :: rest)
        | operator :: [] => refuse operator "argument expected"
        | [] => return (!first.isEmpty, [first])
      else return (!first.isEmpty, first :: rest)
    | _, [] => return (false, [])

end

/-- Whether the expression that some arguments are holds.  Three arguments with an operator in the
middle are a comparison whatever the others are; a bang and parentheses around a few arguments come
first too. -/
def evaluate : (fuel : Nat) → List Octets → Act Bool
  | 0, _ => return false
  | fuel + 1, arguments => do
    let isComparison := match arguments with
      | [_, operator, _] => isBinary operator
      | _ => false
    let isShort := arguments.length = 3 || arguments.length = 4
    let steps := 4 * arguments.length + 8
    let conclude (sign : Sign) (arguments : List Octets) : Act Bool := do
      match ← either steps sign arguments with
      | (_, argument :: _ :: _) => refuse argument "unexpected operator"
      | (holds, _) => return holds
    if arguments.isEmpty then return false
    else if isComparison then conclude .operand arguments
    else if isShort && arguments.head? = some ['('] && arguments.getLast? = some [')'] then
      let inner := arguments.tail.dropLast
      conclude (signOf inner) inner
    else if isShort && arguments.head? = some ['!'] then
      return !(← evaluate fuel arguments.tail)
    else conclude (signOf arguments) arguments

end Condition

/-- Has success if a condition holds. -/
def Utility.condition : Utility := fun arguments => do
  let holds ← Condition.evaluate (arguments.length + 1) arguments
  return { status := if holds then 0 else 1 }

/-- Has success if a condition holds that a bracket closes. -/
def Utility.bracket : Utility := fun arguments => do
  if (arguments.getLast?.bind List.head?) ≠ some ']' then Act.fail "missing ]".toList
  Utility.condition arguments.dropLast

end LineShell.Script
