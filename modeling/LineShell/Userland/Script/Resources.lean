import LineShell.Userland.Script.Utility

/-!
# What scripts know of the system's resources

New files do not get the permissions in the mask of the process.  How much of other things a process
may use is limited, and the programs that it starts are held to the same limits.

## Main definitions

* `PermissionChange`, `changePermissions?` — permissions changed as letters say.
* `Utility.mask` — shows or sets the mask.
* `Utility.times` — shows times.
* `LimitKind`, `limitKinds`, `Utility.limit` — shows or sets limits.
-/

namespace LineShell.Script

/-- All permissions of a file. -/
def allPermissions : Nat := 0o777

/-- The groups of people, by the letters for them: a bit for the owner, the group and the others. -/
def peopleLetters : List (Char × Nat) :=
  [('u', 0o100), ('g', 0o010), ('o', 0o001), ('a', 0o111)]

/-- The permissions of one group of people, by the letters for them. -/
def permissionLetters : List (Char × Nat) :=
  [('r', 4), ('w', 2), ('x', 1)]

/-- The permissions of one group of people that a letter stands for, where `before` are those of
all.  It may stand for the ones that some people have, or for what is executable for anyone; one
letter stands for none. -/
def permissionOf? (before : Nat) (letter : Char) : Option Nat :=
  match letter with
  | 'u' => some (before / 0o100 % 0o10)
  | 'g' => some (before / 0o010 % 0o10)
  | 'o' => some (before % 0o10)
  | 'X' => some (if before &&& 0o111 ≠ 0 then 1 else 0)
  | 's' => some 0
  | letter => permissionLetters.lookup letter

/-- The bits of all letters at the start of a text that stand for some, and the rest of the text. -/
def takeBits (bitsOf? : Char → Option Nat) : Octets → Nat × Octets
  | [] => (0, [])
  | c :: rest =>
    match bitsOf? c with
    | some bits =>
      let (more, rest) := takeBits bitsOf? rest
      (bits ||| more, rest)
    | none => (0, c :: rest)

/-- What becomes of permissions, by the sign in front of those that are named. -/
inductive PermissionChange
  | add
  | remove
  | replace
  deriving DecidableEq, Repr

/-- The change that a sign stands for. -/
def PermissionChange.ofSign? : Char → Option PermissionChange
  | '+' => some .add
  | '-' => some .remove
  | '=' => some .replace
  | _ => none

/-- Permissions after a change, which names some for the people of some groups. -/
def PermissionChange.apply (change : PermissionChange) (permissions people named : Nat) : Nat :=
  match change with
  | .add => permissions ||| named * people
  | .remove => permissions &&& (allPermissions ^^^ named * people)
  | .replace => permissions &&& (allPermissions ^^^ 7 * people) ||| named * people

/-- Permissions changed as letters say: for which people, a sign, and which permissions.  Several
signs may follow one another, and a comma begins with other people.  Permissions that are named by
those who have them are the ones `before` all changes.  Each change takes one of `fuel` steps. -/
def changePermissions? (before : Nat) : (fuel : Nat) → (people permissions : Nat) → Octets →
    Option Nat
  | 0, _, permissions, _ | _, _, permissions, [] => some permissions
  | fuel + 1, people, permissions, text =>
    let (more, rest) := takeBits (peopleLetters.lookup ·) text
    let people := if people ||| more = 0 then 0o111 else people ||| more
    match rest with
    | [] => some permissions
    | sign :: rest => do
      let change ← PermissionChange.ofSign? sign
      let (named, rest) := takeBits (permissionOf? before) rest
      let permissions := change.apply permissions people named
      match rest with
      | ',' :: rest => changePermissions? before fuel 0 permissions rest
      | [] => some permissions
      | sign :: _ =>
        if (PermissionChange.ofSign? sign).isSome then
          changePermissions? before fuel people permissions rest
        else none

/-- Permissions, spelled with letters. -/
def shownPermissions (permissions : Nat) : Octets :=
  let shown := (peopleLetters.take 3).map fun (letter, people) =>
    let kinds := permissionLetters.filter fun kind => permissions &&& kind.2 * people ≠ 0
    letter :: '=' :: kinds.map (·.1)
  [','].intercalate shown

/-- Shows or sets the mask of the process. -/
def Utility.mask : Utility := fun arguments => do
  let (options, rest) ← Act.options ['S'] (fun _ => false) arguments
  let mask := (← get).process.mask
  let allowed := allPermissions ^^^ mask
  let setMask (mask : Nat) : Act Report := do
    modify fun r => { r with process := { r.process with mask := mask &&& allPermissions } }
    return {}
  match rest with
  | [] =>
    if !options.isEmpty then return { output := printedLine (shownPermissions allowed) }
    else
      let digits := Nat.toDigits 8 mask
      return { output := printedLine (List.replicate (4 - digits.length) '0' ++ digits) }
  | text :: _ =>
    if (text.head?.map Char.isDigit).getD false then
      match digitsIn? 8 text with
      | some mask => setMask mask
      | none => Act.fail ("Illegal number: ".toList ++ text)
    else
      match changePermissions? allowed text.length 0 allowed text with
      | some allowed => setMask (allPermissions ^^^ allowed)
      | none => Act.fail ("Illegal mode: ".toList ++ text)

/-- Shows how much time the script and its programs have taken. -/
def Utility.times : Utility := fun _ =>
  let line := printedLine "0m0.000000s 0m0.000000s".toList
  return { output := line ++ line }

/-- How scripts call a limit, and in which unit they count. -/
structure LimitKind where
  letter : Char
  title : String
  resource : Resource
  unit : Nat := 1
  deriving DecidableEq, Repr

/-- The limit that is meant where none is named. -/
def fileLimit : LimitKind :=
  ⟨'f', "file(blocks)", .fileSize, 512⟩

/-- The limits that scripts know, in the order in which they are shown. -/
def limitKinds : List LimitKind :=
  [⟨'t', "time(seconds)", .time, 1⟩, fileLimit,
    ⟨'d', "data(kbytes)", .data, 1024⟩, ⟨'s', "stack(kbytes)", .stack, 1024⟩,
    ⟨'c', "coredump(blocks)", .memoryImage, 512⟩,
    ⟨'m', "memory(kbytes)", .residentMemory, 1024⟩,
    ⟨'l', "locked memory(kbytes)", .lockedMemory, 1024⟩, ⟨'p', "process", .processes, 1⟩,
    ⟨'n', "nofiles", .descriptors, 1⟩, ⟨'v', "vmemory(kbytes)", .addresses, 1024⟩,
    ⟨'w', "locks", .fileLocks, 1⟩, ⟨'r', "rtprio", .precedence, 1⟩]

namespace LimitKind

/-- How many bounds can be told apart.  The last of them stands for any amount. -/
def bounds : Nat := 0x10000000000000000

/-- The bound that a text spells in the unit of a limit. -/
def boundOf (kind : LimitKind) (text : Octets) : Act (Option Nat) := do
  if text = "unlimited".toList then return none
  else if !text.all Char.isDigit then Act.fail "bad number".toList
  else
    let bound := valueIn 10 text * kind.unit % bounds
    return if bound = bounds - 1 then none else some bound

/-- A bound in the unit of a limit. -/
def shown (kind : LimitKind) (bound? : Option Nat) : Octets :=
  match bound? with
  | some bound => decimal (bound / kind.unit)
  | none => "unlimited".toList

end LimitKind

/-- Which bound of a limit is meant: the one that holds, the greatest one, or both. -/
inductive BoundChoice
  | current
  | greatest
  | both
  deriving DecidableEq, Repr

/-- The bound of a limit that is shown. -/
def BoundChoice.select (choice : BoundChoice) (limit : Limit) : Option Nat :=
  if choice = .greatest then limit.greatest else limit.current

/-- A limit with other bounds. -/
def BoundChoice.replace (choice : BoundChoice) (limit : Limit) (bound? : Option Nat) : Limit where
  current := if choice = .greatest then limit.current else bound?
  greatest := if choice = .current then limit.greatest else bound?

/-- Shows limits, or sets one. -/
def Utility.limit : Utility := fun arguments => do
  let known := ['H', 'S', 'a'] ++ limitKinds.map (·.letter)
  let (options, rest) ← Act.options known (fun _ => false) arguments
  let letters := options.map (·.1)
  let choice : BoundChoice := match (letters.filter ['H', 'S'].contains).getLast? with
    | some 'H' => .greatest
    | some _ => .current
    | none => .both
  let chosen := letters.filterMap fun letter => limitKinds.find? (·.letter = letter)
  let kind := chosen.getLast?.getD fileLimit
  let limits := (← get).process.limits
  let value (kind : LimitKind) : Octets :=
    printedLine (kind.shown (choice.select (limits.of kind.resource)))
  match rest with
  | [] =>
    if !letters.contains 'a' then return { output := value kind }
    else
      let line (kind : LimitKind) : Octets :=
        let gap := List.replicate (20 - kind.title.length) ' '
        kind.title.toList ++ gap ++ ' ' :: value kind
      return { output := limitKinds.flatMap line }
  | text :: more =>
    if letters.contains 'a' || !more.isEmpty then Act.fail "too many arguments".toList
    let bound? ← kind.boundOf text
    match limits.change kind.resource (choice.replace (limits.of kind.resource) bound?) with
    | .ok limits =>
      modify fun r => { r with process := { r.process with limits } }
      return {}
    | .error errno => Act.fail ("error setting limit: " ++ errno.describe).toList

end LineShell.Script
