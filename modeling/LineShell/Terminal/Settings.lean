/-!
# Terminal settings

A terminal has switches and two counts.  In raw mode it hands over every byte as it is typed: it
neither shows nor edits what is typed, turns no key into a signal, and returns after one byte.

## Main definitions

* `Flag`, `TerminalSettings` — the switches and the state of a terminal.
* `TerminalSettings.raw` — the settings that raw mode makes of others.

## Main results

* `TerminalSettings.raw_raw` — raw mode of raw settings changes nothing.
-/

namespace LineShell

/-- A switch of a terminal. -/
inductive Flag
  /-- Carriage returns that are typed become line feeds. -/
  | icrnl
  /-- Two keys stop and resume the output. -/
  | ixon
  /-- Line feeds that are typed become carriage returns. -/
  | inlcr
  /-- The highest bit of a byte that is typed is cleared. -/
  | istrip
  /-- What is typed is shown. -/
  | echo
  /-- Input is edited and handed over by the terminal line by line. -/
  | icanon
  /-- Further editing keys are active. -/
  | iexten
  /-- Some keys send signals. -/
  | isig
  /-- Erased characters vanish from the screen. -/
  | echoe
  /-- Signals do not discard what was typed. -/
  | noflsh
  /-- Output is processed. -/
  | opost
  deriving DecidableEq, Repr

/-- All switches, in their customary order. -/
def Flag.all : List Flag :=
  [.icrnl, .ixon, .inlcr, .istrip, .echo, .icanon, .iexten, .isig, .echoe, .noflsh, .opost]

/-- The state of a terminal. -/
@[ext] structure TerminalSettings where
  /-- Which switches are on. -/
  isOn : Flag → Bool
  /-- How many bytes a read waits for. -/
  minBytes : Nat
  /-- How long a read waits, in tenths of a second. -/
  timeout : Nat
  /-- What else is kept for a terminal: its other switches, speeds and editing keys. -/
  rest : List UInt8 := []

/-- The switches that raw mode turns off. -/
def Flag.isCooked : Flag → Bool
  | .icrnl | .ixon | .echo | .icanon | .iexten | .isig => true
  | _ => false

namespace TerminalSettings

/-- The settings with exactly the listed switches on. -/
def ofFlags (flags : List Flag) (minBytes timeout : Nat) : TerminalSettings :=
  { isOn := fun flag => flags.contains flag, minBytes, timeout }

/-- The switches that are on, in their customary order. -/
def flags (s : TerminalSettings) : List Flag :=
  Flag.all.filter s.isOn

/-- Raw mode made of these settings: six switches are off, every other one is as it was, and a read
returns with one byte, however long it takes. -/
def raw (s : TerminalSettings) : TerminalSettings :=
  { s with isOn := fun flag => s.isOn flag && !flag.isCooked, minBytes := 1, timeout := 0 }

/-- Raw mode of raw settings changes nothing. -/
@[simp] theorem raw_raw (s : TerminalSettings) : s.raw.raw = s.raw := by
  ext <;> simp [raw]

end TerminalSettings

end LineShell
