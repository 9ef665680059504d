import LineShell.Completion
import LineShell.Config
import LineShell.Input.Key

/-!
# Editing a line

One line is typed, erased from its end, completed and at last submitted.  A session holds the line
so far; a key changes it and makes the terminal show the change.  Nothing here reads or writes: what
the terminal has to show is part of the answer to a key.

## Main definitions

* `Session` — the prompt, the line so far and what the editor remembers about the Tab key.
* `Step` — whether the line goes on, is submitted, or the input has ended.
* `Response` — the answer to a key.
* `Session.press` — the answer to a key, given a source of candidates.
* `Session.pressAll` — the answer to several keys in a row.

## Main results

* `Session.length_buffer_press_le` — no key makes the line longer than the limit.
-/

namespace LineShell

/-- The line that is being edited. -/
structure Session where
  prompt : List Char
  /-- How many characters a line may have. -/
  limit : Nat
  /-- The line so far. -/
  buffer : List Char := []
  /-- How many times in a row the Tab key has met several candidates since they were last shown. -/
  tabs : Nat := 0
  deriving DecidableEq, Repr

/-- What a key does to the line as a whole. -/
inductive Step
  | continue
  /-- The line is submitted. -/
  | line (text : List Char)
  /-- The input has ended and no line was begun. -/
  | endOfInput
  deriving DecidableEq, Repr

/-- The answer to a key: the session after it, what the terminal is to show, and the step. -/
structure Response where
  session : Session
  shown : List Char
  step : Step := .continue
  deriving DecidableEq, Repr

/-- The bell, which makes a sound and shows nothing. -/
def bell : Char := '\x07'

/-- Erases the character before the cursor: back, a space over it, and back again. -/
def eraseShown : List Char := ['\x08', ' ', '\x08']

/-- Blanks the row from the cursor on. -/
def clearToEnd : List Char := ['\x1B', '[', 'K']

namespace Session

/-- Writes the row again from its start. -/
def redraw (s : Session) : List Char :=
  '\r' :: s.prompt ++ s.buffer ++ clearToEnd

/-- Puts a character at the end of the line, if there is room for it. -/
def insert (s : Session) (c : Char) : Response :=
  if s.buffer.length < s.limit then ⟨{ s with buffer := s.buffer ++ [c] }, [c], .continue⟩
  else ⟨s, [], .continue⟩

/-- Takes the last character off the line, if there is one. -/
def erase (s : Session) : Response :=
  if s.buffer.isEmpty then ⟨s, [], .continue⟩
  else ⟨{ s with buffer := s.buffer.dropLast }, eraseShown, .continue⟩

/-- Ends the line with a line feed, and submits it. -/
def submit (s : Session) : Response :=
  ⟨{ s with buffer := [] }, ['\n'], .line s.buffer⟩

/-- The session after a look at the candidates, and what is shown before the row is written again.
One candidate replaces the line if it fits with a space behind it; several are only shown when the
key meets them for the second time. -/
def applyCompletion (s : Session) :
    Except UnlistedDirectory Completion → Session × List Char
  | .ok .noMatch => (s, [bell])
  | .ok (.unique name) =>
    let completed := name.toList ++ [' ']
    if s.limit < completed.length then (s, [bell])
    else ({ s with buffer := completed, tabs := 0 }, [])
  | .ok (.ambiguous names) =>
    if s.tabs = 0 then ({ s with tabs := 1 }, [bell])
    else ({ s with tabs := 0 }, '\n' :: ("  ".intercalate names).toList ++ ['\n'])
  | .error e => (s, '\n' :: (messagePrefix ++ e.text).toList ++ ['\n', bell])

/-- Completes the line and writes the row again. -/
def completeLine (s : Session) (source : CandidateSource) : Response :=
  let (after, shown) := s.applyCompletion (complete source (String.ofList s.buffer))
  ⟨after, shown ++ after.redraw, .continue⟩

/-- The session as a key finds it: only the Tab key keeps the count of Tab keys. -/
def countTab (s : Session) (key : Key) : Session :=
  if key = .tab then s else { s with tabs := 0 }

/-- The answer to a key. -/
def press (s : Session) (source : CandidateSource) (key : Key) : Response :=
  let s := s.countTab key
  match key with
  | .char c => s.insert c
  | .backspace => s.erase
  | .tab => s.completeLine source
  | .enter => s.submit
  | .ctrlC =>
    let cleared := { s with buffer := [] }
    ⟨cleared, ['^', 'C', '\n'] ++ cleared.redraw, .continue⟩
  | .ctrlD => if s.buffer.isEmpty then ⟨s, ['\n'], .endOfInput⟩ else ⟨s, [], .continue⟩
  | .eof => if s.buffer.isEmpty then ⟨s, ['\n'], .endOfInput⟩ else s.submit
  | .unknown => ⟨s, [], .continue⟩

/-- The answer to several keys in a row: all that is shown, and the step of the last key. -/
def pressAll (s : Session) (source : CandidateSource) (keys : List Key) : Response :=
  keys.foldl (fun r key =>
    let next := r.session.press source key
    { next with shown := r.shown ++ next.shown }) ⟨s, [], .continue⟩

@[simp] theorem limit_countTab (s : Session) (key : Key) : (s.countTab key).limit = s.limit := by
  unfold countTab
  split <;> rfl

@[simp] theorem buffer_countTab (s : Session) (key : Key) :
    (s.countTab key).buffer = s.buffer := by
  unfold countTab
  split <;> rfl

/-- A look at the candidates does not make the line longer than the limit. -/
theorem length_buffer_applyCompletion_le {s : Session} (h : s.buffer.length ≤ s.limit)
    (found : Except UnlistedDirectory Completion) :
    (s.applyCompletion found).1.buffer.length ≤ s.limit := by
  match found with
  | .ok .noMatch => exact h
  | .ok (.unique name) =>
    simp only [applyCompletion]
    split
    · exact h
    · next hfit => exact Nat.le_of_not_lt hfit
  | .ok (.ambiguous names) =>
    simp only [applyCompletion]
    split <;> exact h
  | .error e => exact h

/-- No key makes the line longer than the limit. -/
theorem length_buffer_press_le {s : Session} (h : s.buffer.length ≤ s.limit)
    (source : CandidateSource) (key : Key) :
    (s.press source key).session.buffer.length ≤ s.limit := by
  cases key with
  | char c =>
    simp only [press, insert]
    split
    · next hroom => simpa using Nat.succ_le_of_lt hroom
    · simpa using h
  | backspace =>
    simp only [press, erase]
    split
    · simpa using h
    · simpa using Nat.le_trans (Nat.sub_le _ 1) h
  | tab =>
    exact length_buffer_applyCompletion_le (s := s.countTab .tab) (by simpa using h) _
  | enter => simp [press, submit]
  | ctrlC => simp [press]
  | ctrlD =>
    simp only [press]
    split <;> simpa using h
  | eof =>
    simp only [press]
    split <;> simp_all [submit]
  | unknown => simpa [press] using h

end Session

end LineShell
