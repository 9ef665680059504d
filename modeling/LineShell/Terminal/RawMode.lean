import LineShell.System.Fault
import LineShell.Terminal.Settings

/-!
# Raw mode and its guard

A program puts a terminal into raw mode for a while and then gives it back as it was.  Whoever does
so holds a guard; there is at most one at a time, and giving it up restores the settings that were
saved when it was made.

## Main definitions

* `Device` — what a descriptor may stand for.
* `RawGuard` — the right to a terminal in raw mode.
* `Console` — the terminals and the mark that a guard is held, with the guard if it is kept here.
* `Console.acquire`, `Console.restore`, `Console.change` — what happens to a console.
* `Console.enable`, `Console.release` — the same where the console keeps the guard.
-/

namespace LineShell

/-- What stands behind the descriptor that is to be put into raw mode. -/
inductive Device
  | terminal (index : Nat)
  /-- Something that is no terminal. -/
  | other
  /-- Nothing: the descriptor is not open. -/
  | closed
  deriving DecidableEq, Repr

/-- Why raw mode was refused. -/
inductive TerminalError
  /-- A guard is held already. -/
  | alreadyActive
  /-- A call on the terminal failed. -/
  | attributes (call : String) (fault : Fault)
  deriving DecidableEq, Repr

/-- What the user is told about a refusal. -/
def TerminalError.text : TerminalError → String
  | .alreadyActive => "raw mode is already active"
  | .attributes call fault => call ++ ": " ++ fault.text

/-- The right to a terminal in raw mode. -/
structure RawGuard where
  index : Nat
  /-- The settings that the terminal had before. -/
  saved : TerminalSettings

/-- The terminals of a program and the state of its raw mode. -/
structure Console where
  terminals : List TerminalSettings := []
  /-- The mark that a guard is held. -/
  active : Bool := false
  guard : Option RawGuard := none

namespace Console

/-- The settings of what stands behind a descriptor, if it is a terminal. -/
def settings? (c : Console) : Device → Except Errno (Nat × TerminalSettings)
  | .terminal index =>
    match c.terminals[index]? with
    | some settings => .ok (index, settings)
    | none => .error .badDescriptor
  | .other => .error .notTerminal
  | .closed => .error .badDescriptor

/-- Gives a terminal new settings. -/
def change (c : Console) (index : Nat) (settings : TerminalSettings) : Console :=
  { c with terminals := c.terminals.set index settings }

/-- Gives new settings to what stands behind a descriptor, if it is a terminal. -/
def assign (c : Console) (device : Device) (settings : TerminalSettings) : Except Errno Console :=
  match c.settings? device with
  | .error errno => .error errno
  | .ok (index, _) => .ok (c.change index settings)

/-- Reads the settings of a terminal and makes raw mode of them, whether a guard is held or not. -/
def applyRaw (c : Console) (device : Device) : Except TerminalError RawGuard × Console :=
  match c.settings? device with
  | .error errno => (.error (.attributes "tcgetattr" (.os errno)), c)
  | .ok (index, saved) =>
    match c.assign device saved.raw with
    | .error errno => (.error (.attributes "tcsetattr" (.os errno)), c)
    | .ok c => (.ok ⟨index, saved⟩, c)

/-- Puts a terminal into raw mode and hands over a guard for it.  The mark is set first, and taken
away again if the terminal refuses. -/
def acquire (c : Console) (device : Device) : Except TerminalError RawGuard × Console :=
  if c.active then (.error .alreadyActive, c)
  else
    match { c with active := true }.applyRaw device with
    | (.ok g, c) => (.ok g, c)
    | (.error e, c) => (.error e, { c with active := false })

/-- Takes a guard back: its terminal gets the saved settings, and the mark is taken away. -/
def restore (c : Console) (g : RawGuard) : Console :=
  { c.change g.index g.saved with active := false }

/-- Puts a terminal into raw mode and keeps the guard for it.  A refusal changes nothing. -/
def enable (c : Console) (device : Device) : Except TerminalError Console :=
  match c.acquire device with
  | (.ok g, c) => .ok { c with guard := some g }
  | (.error e, _) => .error e

/-- Gives up the guard that was kept, if there is one. -/
def release (c : Console) : Console :=
  match c.guard with
  | some g => { c.restore g with guard := none }
  | none => c

end Console

end LineShell
