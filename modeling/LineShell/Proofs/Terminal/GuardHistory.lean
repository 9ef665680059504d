import LineShell.Terminal.RawMode
import Mathlib.Data.List.Induction
import Mathlib.Tactic.ByContra

/-!
# The guard of raw mode over a whole history

Terminals are put into raw mode, guards are dropped and settings are changed from outside, in any
order.  The ledger keeps the guards that are alive, and when each was made.  There is never more
than one of them, the mark of the console tells whether there is one, and dropping it brings back
the settings from the moment when it was made.

## Main definitions

* `TerminalSettings.IsRawOf` — what raw mode makes of settings.
* `Console.Moves` — one terminal has new settings, and all others have theirs.
* `Operation`, `Ledger`, `Ledger.after` — what can happen, and a console with the guards alive.
* `Holding.MadeBy` — a guard was made by an operation of a history, from the settings then.

## Main results

* `Console.acquire_cases` — the three ways in which raw mode is asked for.
* `Ledger.sound_after` — **the invariant of every history.**
* `Ledger.guard_history` — **what each operation does behind any history.**
-/

namespace LineShell

/-! ### Settings -/

/-- The switches that raw mode turns off. -/
def rawOff : List Flag := [.icrnl, .ixon, .echo, .icanon, .iexten, .isig]

/-- Raw mode made of settings: six switches are off and all else is as it was, except that a read
returns with one byte, however long it takes. -/
structure TerminalSettings.IsRawOf (s raw : TerminalSettings) : Prop where
  off : ∀ flag ∈ rawOff, raw.isOn flag = false
  kept : ∀ flag, flag ∉ rawOff → raw.isOn flag = s.isOn flag
  minBytes : raw.minBytes = 1
  timeout : raw.timeout = 0
  rest : raw.rest = s.rest

theorem TerminalSettings.isRawOf_raw (s : TerminalSettings) : s.IsRawOf s.raw where
  off flag h := by
    have hcooked : ∀ flag ∈ rawOff, flag.isCooked = true := by decide
    simp [raw, hcooked flag h]
  kept flag h := by
    have hcooked : flag.isCooked = false := by
      revert h
      cases flag <;> decide
    simp [raw, hcooked]
  minBytes := rfl
  timeout := rfl
  rest := rfl

/-! ### One call -/

namespace Console

/-- One terminal has new settings, and all others have theirs. -/
structure Moves (c : Console) (index : Nat) (settings : TerminalSettings) (c' : Console) :
    Prop where
  here : c'.terminals[index]? = some settings
  others : ∀ other, other ≠ index → c'.terminals[other]? = c.terminals[other]?

variable {c : Console} {device : Device} {index : Nat} {s : TerminalSettings}

theorem moves_change (h : index < c.terminals.length) (settings : TerminalSettings) :
    c.Moves index settings (c.change index settings) where
  here := List.getElem?_set_self h
  others _ hne := List.getElem?_set_ne (Ne.symm hne)

theorem moves_restore {g : RawGuard} (h : g.index < c.terminals.length) :
    c.Moves g.index g.saved (c.restore g) :=
  ⟨(moves_change h g.saved).here, (moves_change h g.saved).others⟩

@[simp] theorem length_terminals_change (c : Console) (index : Nat) (s : TerminalSettings) :
    (c.change index s).terminals.length = c.terminals.length :=
  List.length_set

/-- A device has settings exactly if it is a terminal. -/
theorem settings?_eq_ok_iff :
    c.settings? device = .ok (index, s) ↔
      device = .terminal index ∧ c.terminals[index]? = some s := by
  cases device with
  | terminal i =>
    simp only [settings?]
    cases hs : c.terminals[i]? with
    | none =>
      simp only [reduceCtorEq, Device.terminal.injEq, false_iff, not_and]
      rintro rfl
      simp [hs]
    | some settings =>
      simp only [Except.ok.injEq, Prod.mk.injEq, Device.terminal.injEq]
      constructor
      · rintro ⟨rfl, rfl⟩
        exact ⟨rfl, hs⟩
      · rintro ⟨rfl, hs'⟩
        exact ⟨rfl, Option.some.inj (hs.symm.trans hs')⟩
  | other => simp [settings?]
  | closed => simp [settings?]

/-- While the mark is there, raw mode is refused. -/
theorem acquire_of_active (h : c.active = true) (device : Device) :
    c.acquire device = (.error .alreadyActive, c) := by
  rw [acquire, if_pos h]

/-- A terminal is put into raw mode if the mark is not there. -/
theorem acquire_terminal (hactive : c.active = false) (hs : c.terminals[index]? = some s) :
    c.acquire (.terminal index) =
      (.ok ⟨index, s⟩, { c.change index s.raw with active := true }) := by
  have hsettings : ({ c with active := true } : Console).settings? (.terminal index) =
      .ok (index, s) := settings?_eq_ok_iff.2 ⟨rfl, hs⟩
  simp only [acquire, hactive, Bool.false_eq_true, if_false, applyRaw, hsettings, assign]
  rfl

/-- What is no terminal is refused, and the mark is taken away again. -/
theorem acquire_of_settings?_eq_error {errno : Errno} (hactive : c.active = false)
    (hsettings : c.settings? device = .error errno) :
    c.acquire device = (.error (.attributes "tcgetattr" (.os errno)), c) := by
  have hmarked : ({ c with active := true } : Console).settings? device = .error errno := by
    rw [← hsettings]
    cases device <;> rfl
  have hunmarked : ({ c with active := false } : Console) = c := by rw [← hactive]
  simp only [acquire, hactive, Bool.false_eq_true, if_false, applyRaw, hmarked, hunmarked]

/-- Asking for raw mode is refused because there is a guard, or because there is no terminal, and
then nothing changes; or it is granted, and only then. -/
theorem acquire_cases (c : Console) (device : Device) :
    (c.active = true ∧ c.acquire device = (.error .alreadyActive, c)) ∨
    (c.active = false ∧ ∃ errno, c.settings? device = .error errno ∧
      c.acquire device = (.error (.attributes "tcgetattr" (.os errno)), c)) ∨
    (c.active = false ∧ ∃ index s, device = .terminal index ∧ c.terminals[index]? = some s ∧
      c.acquire device = (.ok ⟨index, s⟩, { c.change index s.raw with active := true })) := by
  cases hactive : c.active with
  | true => exact .inl ⟨rfl, acquire_of_active hactive device⟩
  | false =>
    cases hsettings : c.settings? device with
    | error errno =>
      exact .inr (.inl ⟨rfl, errno, rfl, acquire_of_settings?_eq_error hactive hsettings⟩)
    | ok found =>
      obtain ⟨rfl, hs⟩ := settings?_eq_ok_iff.1 hsettings
      exact .inr (.inr ⟨rfl, found.1, found.2, rfl, hs, acquire_terminal hactive hs⟩)

end Console

/-! ### Histories -/

/-- What can happen to the terminals of a program. -/
inductive Operation
  /-- Raw mode is asked for. -/
  | enable (device : Device)
  /-- The guard that was made as this operation of the history, counted from zero, is dropped. -/
  | drop (since : Nat)
  /-- A terminal gets other settings from outside. -/
  | change (index : Nat) (settings : TerminalSettings)

/-- A guard that is alive, and how many operations there were before the one that made it. -/
structure Holding where
  since : Nat
  guard : RawGuard

/-- A console and the guards that are alive. -/
structure Ledger where
  console : Console
  held : List Holding := []
  /-- How many operations there have been. -/
  clock : Nat := 0

namespace Ledger

/-- Raw mode is asked for, and the guard is held if one is handed over. -/
def enable (l : Ledger) (device : Device) : Ledger :=
  match l.console.acquire device with
  | (.ok g, console) => { l with console, held := l.held ++ [⟨l.clock, g⟩] }
  | (.error _, console) => { l with console }

/-- A guard is dropped, if it is alive. -/
def drop (l : Ledger) (since : Nat) : Ledger :=
  match l.held.find? (·.since = since) with
  | some h =>
    { l with console := l.console.restore h.guard, held := l.held.filter (·.since ≠ since) }
  | none => l

/-- An operation takes place. -/
def step (l : Ledger) (operation : Operation) : Ledger :=
  let l' := match operation with
    | .enable device => l.enable device
    | .drop since => l.drop since
    | .change index settings => { l with console := l.console.change index settings }
  { l' with clock := l.clock + 1 }

/-- What a history makes of some terminals. -/
def after (terminals : List TerminalSettings) (history : List Operation) : Ledger :=
  history.foldl step { console := { terminals } }

theorem after_concat (terminals : List TerminalSettings) (history : List Operation)
    (operation : Operation) :
    after terminals (history ++ [operation]) = (after terminals history).step operation := by
  rw [after, List.foldl_append]
  rfl

/-- No operation makes or removes a terminal. -/
theorem length_terminals_after (terminals : List TerminalSettings) (history : List Operation) :
    (after terminals history).console.terminals.length = terminals.length := by
  induction history using List.reverseRecOn with
  | nil => rfl
  | append_singleton history operation ih =>
    rw [after_concat, ← ih]
    cases operation with
    | enable device =>
      simp only [step, enable]
      obtain ⟨-, h⟩ | ⟨-, errno, -, h⟩ | ⟨-, index, s, -, -, h⟩ :=
        (after terminals history).console.acquire_cases device
      · rw [h]
      · rw [h]
      · rw [h]
        exact Console.length_terminals_change _ index s.raw
    | drop since =>
      simp only [step, drop]
      split
      · exact Console.length_terminals_change _ _ _
      · rfl
    | change index settings => exact Console.length_terminals_change _ index settings

end Ledger

/-- A guard was made by an operation of the history, which asked for its terminal, and what it saved
are the settings that the terminal had until then. -/
structure Holding.MadeBy (terminals : List TerminalSettings) (history : List Operation)
    (h : Holding) : Prop where
  operation : history[h.since]? = some (.enable (.terminal h.guard.index))
  saved : (Ledger.after terminals (history.take h.since)).console.terminals[h.guard.index]? =
    some h.guard.saved

/-- What made a guard stays in the history. -/
theorem Holding.MadeBy.concat {terminals : List TerminalSettings} {history : List Operation}
    {h : Holding} (hmade : h.MadeBy terminals history) (operation : Operation) :
    h.MadeBy terminals (history ++ [operation]) := by
  have hlt : h.since < history.length := (List.getElem?_eq_some_iff.1 hmade.operation).1
  constructor
  · rw [List.getElem?_append_left hlt]
    exact hmade.operation
  · rw [List.take_append_of_le_length (Nat.le_of_lt hlt)]
    exact hmade.saved

namespace Ledger

variable {terminals : List TerminalSettings} {history : List Operation} {l : Ledger}

/-- What holds behind every history: the clock has counted the operations, and either no guard is
alive and the mark is not there, or exactly one is and the history has made it. -/
inductive Sound (terminals : List TerminalSettings) (history : List Operation) (l : Ledger) : Prop
  | free (clock : l.clock = history.length) (held : l.held = [])
      (unmarked : l.console.active = false)
  | taken (clock : l.clock = history.length) (h : Holding) (held : l.held = [h])
      (marked : l.console.active = true) (made : h.MadeBy terminals history)

theorem Sound.clock_eq (h : Sound terminals history l) : l.clock = history.length := by
  cases h with
  | free clock _ _ => exact clock
  | taken clock _ _ _ _ => exact clock

/-- An operation that touches neither the guards nor the mark keeps the invariant. -/
theorem Sound.of_same {l' : Ledger} (h : Sound terminals history l) (operation : Operation)
    (hclock : l'.clock = l.clock + 1) (hheld : l'.held = l.held)
    (hactive : l'.console.active = l.console.active) :
    Sound terminals (history ++ [operation]) l' := by
  have hlength : l'.clock = (history ++ [operation]).length := by
    rw [hclock, h.clock_eq, List.length_append]
    rfl
  cases h with
  | free _ held unmarked => exact .free hlength (hheld.trans held) (hactive.trans unmarked)
  | taken _ holding held marked made =>
    exact .taken hlength holding (hheld.trans held) (hactive.trans marked) (made.concat operation)

/-- **Every operation keeps the invariant.** -/
theorem Sound.step (h : Sound terminals history (after terminals history))
    (operation : Operation) :
    Sound terminals (history ++ [operation]) ((after terminals history).step operation) := by
  have hlength : (after terminals history).clock + 1 = (history ++ [operation]).length := by
    rw [h.clock_eq, List.length_append]
    rfl
  cases operation with
  | enable device =>
    obtain ⟨-, hacquire⟩ | ⟨-, errno, -, hacquire⟩ | ⟨hactive, index, s, rfl, hs, hacquire⟩ :=
      (after terminals history).console.acquire_cases device
    · refine h.of_same _ rfl ?_ ?_ <;> simp only [Ledger.step, enable, hacquire]
    · refine h.of_same _ rfl ?_ ?_ <;> simp only [Ledger.step, enable, hacquire]
    · -- the mark was not there, so the new guard is the only one
      cases h with
      | taken _ _ _ marked _ => exact absurd (marked.symm.trans hactive) (by decide)
      | free clock held unmarked =>
        refine .taken hlength ⟨history.length, ⟨index, s⟩⟩ ?_ ?_ ⟨?_, ?_⟩
        · simp only [Ledger.step, enable, hacquire, held, clock, List.nil_append]
        · simp only [Ledger.step, enable, hacquire]
        · exact List.getElem?_concat_length
        · rw [List.take_left]
          exact hs
  | drop since =>
    cases hfind : (after terminals history).held.find? (·.since = since) with
    | none => refine h.of_same _ rfl ?_ ?_ <;> simp only [Ledger.step, drop, hfind]
    | some holding =>
      have hsince : holding.since = since := by simpa using List.find?_some hfind
      have hmem : holding ∈ (after terminals history).held := List.mem_of_find?_eq_some hfind
      cases h with
      | free _ held _ =>
        rw [held] at hmem
        exact absurd hmem List.not_mem_nil
      | taken _ only held _ _ =>
        have honly : holding = only := by simpa [held] using hmem
        refine .free hlength ?_ ?_
        · simp only [Ledger.step, drop, hfind]
          simp [held, ← honly, hsince]
        · simp only [Ledger.step, drop, hfind]
          rfl
  | change index settings => exact h.of_same _ rfl rfl rfl

/-- **The invariant holds behind every history.** -/
theorem sound_after (terminals : List TerminalSettings) (history : List Operation) :
    Sound terminals history (after terminals history) := by
  induction history using List.reverseRecOn with
  | nil => exact .free rfl rfl rfl
  | append_singleton history operation ih =>
    rw [after_concat]
    exact ih.step operation

theorem Sound.active_iff (h : Sound terminals history l) :
    l.console.active = true ↔ l.held ≠ [] := by
  cases h with
  | free _ held unmarked => simp [held, unmarked]
  | taken _ holding held marked _ => simp [held, marked]

theorem Sound.length_held_le (h : Sound terminals history l) : l.held.length ≤ 1 := by
  cases h with
  | free _ held _ =>
    rw [held]
    exact Nat.zero_le 1
  | taken _ holding held _ _ =>
    rw [held]
    exact Nat.le_refl 1

/-! ### What the operations do -/

/-- A refusal leaves the console and the guards as they are. -/
theorem enable_of_error {device : Device} {e : TerminalError}
    (h : (l.console.acquire device).1 = .error e) :
    (l.step (.enable device)).console = l.console ∧ (l.step (.enable device)).held = l.held := by
  obtain ⟨-, hacquire⟩ | ⟨-, errno, -, hacquire⟩ | ⟨-, index, s, -, -, hacquire⟩ :=
    l.console.acquire_cases device
  · simp only [step, enable, hacquire, and_self]
  · simp only [step, enable, hacquire, and_self]
  · rw [hacquire] at h
    cases h

/-- A guard that is handed over has the settings of its terminal, which is in raw mode then, and
nothing else has changed. -/
theorem enable_of_ok {device : Device} {g : RawGuard} (h : (l.console.acquire device).1 = .ok g) :
    device = .terminal g.index ∧ l.console.terminals[g.index]? = some g.saved ∧
      l.console.Moves g.index g.saved.raw (l.step (.enable device)).console ∧
      (l.step (.enable device)).held = l.held ++ [⟨l.clock, g⟩] := by
  obtain ⟨-, hacquire⟩ | ⟨-, errno, -, hacquire⟩ | ⟨-, index, s, rfl, hs, hacquire⟩ :=
    l.console.acquire_cases device
  · rw [hacquire] at h
    cases h
  · rw [hacquire] at h
    cases h
  · rw [hacquire] at h
    cases h
    have hlt : index < l.console.terminals.length := (List.getElem?_eq_some_iff.1 hs).1
    obtain ⟨hhere, hothers⟩ := Console.moves_change hlt s.raw
    refine ⟨rfl, hs, ⟨?_, ?_⟩, ?_⟩
    · simpa only [step, enable, hacquire] using hhere
    · simpa only [step, enable, hacquire] using hothers
    · simp only [step, enable, hacquire]

/-- Without a guard, raw mode is granted to every terminal and to nothing else. -/
theorem Sound.exists_acquire_eq_ok_iff (h : Sound terminals history (after terminals history))
    (hheld : (after terminals history).held = []) (device : Device) :
    (∃ g, ((after terminals history).console.acquire device).1 = .ok g) ↔
      ∃ index < terminals.length, device = .terminal index := by
  have hunmarked : (after terminals history).console.active = false := by
    have hactive := h.active_iff
    simpa [hheld] using hactive
  constructor
  · rintro ⟨g, hg⟩
    obtain ⟨hdevice, hs, -, -⟩ := enable_of_ok hg
    refine ⟨g.index, ?_, hdevice⟩
    rw [← length_terminals_after terminals history]
    exact (List.getElem?_eq_some_iff.1 hs).1
  · rintro ⟨index, hlt, rfl⟩
    rw [← length_terminals_after terminals history] at hlt
    have hs := List.getElem?_eq_getElem hlt
    exact ⟨_, by rw [Console.acquire_terminal hunmarked hs]⟩

/-- A guard that is dropped brings the saved settings back, and then no guard is alive. -/
theorem Sound.drop (h : Sound terminals history (after terminals history)) {holding : Holding}
    (hmem : holding ∈ (after terminals history).held) :
    let l := after terminals history
    holding.MadeBy terminals history ∧
      l.console.Moves holding.guard.index holding.guard.saved
        (l.step (.drop holding.since)).console ∧
      (l.step (.drop holding.since)).held = [] := by
  intro l
  cases h with
  | free _ held _ =>
    rw [held] at hmem
    exact absurd hmem List.not_mem_nil
  | taken _ only held _ made =>
    have honly : holding = only := by simpa [held] using hmem
    subst honly
    have hfind : l.held.find? (·.since = holding.since) = some holding := by simp [l, held]
    have hlt : holding.guard.index < l.console.terminals.length := by
      have hbefore := (List.getElem?_eq_some_iff.1 made.saved).1
      rwa [length_terminals_after] at hbefore ⊢
    obtain ⟨hhere, hothers⟩ := Console.moves_restore (g := holding.guard) hlt
    refine ⟨made, ⟨?_, ?_⟩, ?_⟩
    · simpa only [Ledger.step, Ledger.drop, hfind] using hhere
    · simpa only [Ledger.step, Ledger.drop, hfind] using hothers
    · simp only [Ledger.step, Ledger.drop, hfind]
      simp [l, held]

/-- **The guard of raw mode behind any history.**  The mark tells whether a guard is alive, and at
most one is.  While one is alive raw mode is refused for that reason; a refusal changes nothing; and
without a guard raw mode is granted to the terminals and to nothing else.  Granting it changes one
terminal, to raw mode of what it was.  Every guard alive was made by an operation of the history,
and dropping it changes its terminal alone, to the settings from before that operation; then raw
mode can be asked for again. -/
theorem guard_history (terminals : List TerminalSettings) (history : List Operation) :
    let l := after terminals history
    ((l.console.active = true ↔ l.held ≠ []) ∧ l.held.length ≤ 1) ∧
    (∀ device, l.held ≠ [] → (l.console.acquire device).1 = .error .alreadyActive) ∧
    (∀ device e, (l.console.acquire device).1 = .error e →
      (l.step (.enable device)).console = l.console ∧
        (l.step (.enable device)).held = l.held) ∧
    (l.held = [] → ∀ device, (∃ g, (l.console.acquire device).1 = .ok g) ↔
      ∃ index < terminals.length, device = .terminal index) ∧
    (∀ device g, (l.console.acquire device).1 = .ok g →
      device = .terminal g.index ∧ l.console.terminals[g.index]? = some g.saved ∧
      (∃ raw, g.saved.IsRawOf raw ∧
        l.console.Moves g.index raw (l.step (.enable device)).console) ∧
      (l.step (.enable device)).held = [⟨history.length, g⟩]) ∧
    ∀ h ∈ l.held, h.MadeBy terminals history ∧
      l.console.Moves h.guard.index h.guard.saved (l.step (.drop h.since)).console ∧
      (l.step (.drop h.since)).held = [] ∧
      ∀ index < terminals.length, ∃ g,
        ((l.step (.drop h.since)).console.acquire (.terminal index)).1 = .ok g := by
  intro l
  have hsound : Sound terminals history l := sound_after terminals history
  have hmark : l.held ≠ [] → l.console.active = true := hsound.active_iff.2
  refine ⟨⟨hsound.active_iff, hsound.length_held_le⟩, ?_, fun device e => enable_of_error,
    hsound.exists_acquire_eq_ok_iff, ?_, ?_⟩
  · intro device hheld
    rw [Console.acquire_of_active (hmark hheld)]
  · intro device g hg
    obtain ⟨hdevice, hsaved, hmoves, hheld⟩ := enable_of_ok hg
    refine ⟨hdevice, hsaved, ⟨g.saved.raw, g.saved.isRawOf_raw, hmoves⟩, ?_⟩
    -- a second guard would have been refused
    have hnone : l.held = [] := by
      by_contra hsome
      rw [Console.acquire_of_active (hmark hsome)] at hg
      cases hg
    rw [hheld, hnone, hsound.clock_eq, List.nil_append]
  · intro h hmem
    obtain ⟨hmade, hmoves, hheld⟩ := hsound.drop hmem
    refine ⟨hmade, hmoves, hheld, fun index hlt => ?_⟩
    have hnext := sound_after terminals (history ++ [.drop h.since])
    rw [← after_concat] at hheld ⊢
    exact (hnext.exists_acquire_eq_ok_iff hheld _).2 ⟨index, hlt, rfl⟩

/-- What a terminal is like before anyone changes it. -/
private def cooked : TerminalSettings := .ofFlags [.icrnl, .echo, .icanon, .isig, .opost] 1 0

/-- Raw mode for something that is no terminal, for the second of two terminals, and for the first
one while the guard is alive; then the settings of the second one are changed from outside. -/
private def contendedHistory : List Operation :=
  [.enable .other, .enable (.terminal 1), .enable (.terminal 0),
    .change 1 (.ofFlags [.echo] 4 7)]

/-- The guard brings back what the second terminal was like at first. -/
theorem guard_history_contended :
    let l := after [.ofFlags [] 1 0, cooked] contendedHistory
    let h : Holding := ⟨1, ⟨1, cooked⟩⟩
    h ∈ l.held ∧ (l.step (.drop 1)).console.terminals[1]? = some cooked ∧
      (l.step (.drop 1)).held = [] := by
  intro l h
  have hmem : h ∈ l.held := List.mem_singleton_self h
  obtain ⟨-, -, -, -, -, hdrop⟩ := guard_history [.ofFlags [] 1 0, cooked] contendedHistory
  obtain ⟨-, hmoves, hheld, -⟩ := hdrop h hmem
  exact ⟨hmem, hmoves.here, hheld⟩

end Ledger

end LineShell
