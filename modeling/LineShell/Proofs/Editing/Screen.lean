import LineShell.Editing.Session

/-!
# What a terminal shows

A terminal writes printable characters into the cells of a row and obeys a few control characters.
A row has no end here, and every printable character takes one cell.

## Main definitions

* `Row`, `Row.ofText` — the cells of a row, and the row that shows a text and nothing else.
* `Screen` — the row of the cursor, the cursor, and the rows that were left.
* `Screen.put`, `Screen.print` — what one character and several do to a screen.
* `Screen.Shows` — a row that shows exactly a text, with the cursor behind it.

## Main results

* `Screen.Shows.print` — printable text goes behind what is shown.
* `Screen.Shows.print_eraseShown` — the erase sequence takes the last character away.
* `Screen.shows_print_redraw` — writing the row again shows the new text, whatever stood there.
-/

namespace LineShell

/-- Whether a character is written into a cell: it is no control character. -/
def isPrintable (c : Char) : Bool :=
  0x20 ≤ c.toNat && !(0x7F ≤ c.toNat && c.toNat < 0xA0)

/-- A text of printable characters. -/
def IsPrintable (text : List Char) : Prop :=
  ∀ c ∈ text, isPrintable c = true

instance (text : List Char) : Decidable (IsPrintable text) :=
  decidable_of_iff (text.all isPrintable = true) List.all_eq_true

theorem isPrintable_append {s t : List Char} :
    IsPrintable (s ++ t) ↔ IsPrintable s ∧ IsPrintable t :=
  List.forall_mem_append

theorem isPrintable_cons {c : Char} {text : List Char} :
    IsPrintable (c :: text) ↔ isPrintable c = true ∧ IsPrintable text :=
  List.forall_mem_cons

/-- The cells of a row, from the left. -/
abbrev Row := Nat → Char

namespace Row

/-- The row that shows a text, followed by blanks. -/
def ofText (text : List Char) : Row := fun i => text.getD i ' '

/-- The row with a character in one cell. -/
def write (row : Row) (column : Nat) (c : Char) : Row := fun i => if i = column then c else row i

/-- The row with blanks from a cell on. -/
def clearFrom (row : Row) (column : Nat) : Row := fun i => if i < column then row i else ' '

/-- Writing into the cell behind a text makes the text longer. -/
theorem write_ofText (text : List Char) (c : Char) :
    (ofText text).write text.length c = ofText (text ++ [c]) := by
  funext i
  simp only [write, ofText, List.getD_eq_getElem?_getD]
  rcases Nat.lt_trichotomy i text.length with h | h | h
  · rw [if_neg (Nat.ne_of_lt h), List.getElem?_append_left h]
  · rw [if_pos h, h, List.getElem?_append_right (Nat.le_refl _)]
    simp
  · have hlength : (text ++ [c]).length ≤ i := by simp; omega
    rw [if_neg (Nat.ne_of_gt h), List.getElem?_eq_none (Nat.le_of_lt h),
      List.getElem?_eq_none hlength]

/-- A blank over the last character of a text makes the text shorter. -/
theorem write_ofText_concat (text : List Char) (c : Char) :
    (ofText (text ++ [c])).write text.length ' ' = ofText text := by
  funext i
  simp only [write, ofText, List.getD_eq_getElem?_getD]
  rcases Nat.lt_trichotomy i text.length with h | h | h
  · rw [if_neg (Nat.ne_of_lt h), List.getElem?_append_left h]
  · rw [if_pos h, h, List.getElem?_eq_none (Nat.le_refl _)]
    rfl
  · have hlength : (text ++ [c]).length ≤ i := by simp; omega
    rw [if_neg (Nat.ne_of_gt h), List.getElem?_eq_none (Nat.le_of_lt h),
      List.getElem?_eq_none hlength]

end Row

/-- How much of a control sequence has been received. -/
inductive SequenceState
  | none
  /-- The escape character. -/
  | escape
  /-- The escape character and a bracket. -/
  | bracket
  deriving DecidableEq

/-- What a terminal shows. -/
structure Screen where
  /-- The row in which the cursor stands. -/
  row : Row := Row.ofText []
  /-- The cell in which the cursor stands. -/
  column : Nat := 0
  /-- The rows that the cursor has left, the last one first. -/
  above : List Row := []
  sequence : SequenceState := .none

namespace Screen

/-- What a character does to a screen.  The bell, and any control that is not listed, changes
nothing. -/
def put (s : Screen) (c : Char) : Screen :=
  match s.sequence with
  | .none =>
    if isPrintable c then { s with row := s.row.write s.column c, column := s.column + 1 }
    else if c = '\r' then { s with column := 0 }
    else if c = '\n' then { s with row := Row.ofText [], column := 0, above := s.row :: s.above }
    else if c = '\x08' then { s with column := s.column - 1 }
    else if c = '\x1B' then { s with sequence := .escape }
    else s
  | .escape => { s with sequence := if c = '[' then .bracket else .none }
  | .bracket =>
    if c = 'K' then { s with row := s.row.clearFrom s.column, sequence := .none }
    else { s with sequence := .none }

/-- What characters do to a screen, one after the other. -/
def print (s : Screen) (text : List Char) : Screen :=
  text.foldl put s

@[simp] theorem print_nil (s : Screen) : s.print [] = s := rfl

@[simp] theorem print_cons (s : Screen) (c : Char) (text : List Char) :
    s.print (c :: text) = (s.put c).print text := rfl

@[simp] theorem print_append (s : Screen) (text text' : List Char) :
    s.print (text ++ text') = (s.print text).print text' :=
  List.foldl_append

/-! ### Single characters -/

theorem put_of_isPrintable (s : Screen) (hs : s.sequence = .none) {c : Char}
    (hc : isPrintable c = true) :
    s.put c = { s with row := s.row.write s.column c, column := s.column + 1 } := by
  rw [put, hs]
  exact if_pos hc

theorem put_return (s : Screen) (hs : s.sequence = .none) :
    s.put '\r' = { s with column := 0 } := by
  rw [put, hs]
  rfl

theorem put_lineFeed (s : Screen) (hs : s.sequence = .none) :
    s.put '\n' = { s with row := Row.ofText [], column := 0, above := s.row :: s.above } := by
  rw [put, hs]
  rfl

theorem put_backspace (s : Screen) (hs : s.sequence = .none) :
    s.put '\x08' = { s with column := s.column - 1 } := by
  rw [put, hs]
  rfl

theorem put_bell (s : Screen) (hs : s.sequence = .none) : s.put bell = s := by
  rw [put, hs]
  rfl

theorem print_clearToEnd (s : Screen) (hs : s.sequence = .none) :
    s.print clearToEnd = { s with row := s.row.clearFrom s.column } := by
  have hescape : s.put '\x1B' = { s with sequence := .escape } := by rw [put, hs]; rfl
  rw [clearToEnd, print_cons, hescape]
  simp [put, hs]

/-- Printable text leaves no control sequence begun. -/
theorem sequence_print {s : Screen} (hs : s.sequence = .none) {text : List Char}
    (htext : IsPrintable text) :
    (s.print text).sequence = .none := by
  induction text generalizing s with
  | nil => exact hs
  | cons c text ih =>
    obtain ⟨hc, htext⟩ := isPrintable_cons.1 htext
    rw [print_cons, put_of_isPrintable s hs hc]
    exact ih hs htext

/-! ### What a row shows -/

/-- The row of the cursor shows exactly a text, followed by blanks, and the cursor stands right
behind the text. -/
structure Shows (s : Screen) (text : List Char) : Prop where
  row : s.row = Row.ofText text
  column : s.column = text.length
  sequence : s.sequence = .none

variable {s : Screen}

/-- A line feed begins a row that shows nothing. -/
theorem shows_put_lineFeed (hs : s.sequence = .none) : (s.put '\n').Shows [] := by
  rw [put_lineFeed s hs]
  exact ⟨rfl, rfl, hs⟩

/-- Printable text goes behind what is shown. -/
theorem Shows.print {shown : List Char} (h : s.Shows shown) {text : List Char}
    (htext : IsPrintable text) : (s.print text).Shows (shown ++ text) := by
  induction text generalizing s shown with
  | nil => simpa using h
  | cons c text ih =>
    obtain ⟨hc, htext⟩ := isPrintable_cons.1 htext
    rw [print_cons, put_of_isPrintable s h.sequence hc, List.append_cons]
    refine ih ⟨?_, ?_, h.sequence⟩ htext
    · rw [h.row, h.column]
      exact Row.write_ofText shown c
    · simp [h.column]

/-- The erase sequence takes the last character away. -/
theorem Shows.print_eraseShown {text : List Char} {c : Char} (h : s.Shows (text ++ [c])) :
    (s.print eraseShown).Shows text := by
  have hback : s.put '\x08' = { s with column := text.length } := by
    rw [put_backspace s h.sequence, h.column, List.length_append, List.length_singleton,
      Nat.add_sub_cancel]
  rw [eraseShown, print_cons, hback, print_cons,
    put_of_isPrintable { s with column := text.length } h.sequence (by decide), print_cons,
    put_backspace { s with row := s.row.write text.length ' ', column := text.length + 1 }
      h.sequence]
  refine ⟨?_, rfl, h.sequence⟩
  rw [print_nil, h.row]
  exact Row.write_ofText_concat text c

/-- The cells in front of the cursor show a text.  What stands behind it does not matter. -/
structure Begins (s : Screen) (text : List Char) : Prop where
  cells : ∀ i, i < text.length → s.row i = Row.ofText text i
  column : s.column = text.length
  sequence : s.sequence = .none

/-- Printable text is written over what the row shows. -/
theorem Begins.print {shown : List Char} (h : s.Begins shown) {text : List Char}
    (htext : IsPrintable text) : (s.print text).Begins (shown ++ text) := by
  induction text generalizing s shown with
  | nil => simpa using h
  | cons c text ih =>
    obtain ⟨hc, htext⟩ := isPrintable_cons.1 htext
    rw [print_cons, put_of_isPrintable s h.sequence hc, List.append_cons]
    refine ih ⟨fun i hi => ?_, by simp [h.column], h.sequence⟩ htext
    rw [← Row.write_ofText, h.column]
    simp only [Row.write]
    by_cases hlast : i = shown.length
    · rw [if_pos hlast, if_pos hlast]
    · rw [if_neg hlast, if_neg hlast]
      exact h.cells i (by simp at hi; omega)

/-- Blanks from the cursor on leave what stands in front of it. -/
theorem Begins.print_clearToEnd {text : List Char} (h : s.Begins text) :
    (s.print clearToEnd).Shows text := by
  rw [Screen.print_clearToEnd s h.sequence]
  refine ⟨?_, h.column, h.sequence⟩
  funext i
  simp only [Row.clearFrom, h.column]
  by_cases hi : i < text.length
  · rw [if_pos hi, h.cells i hi]
  · rw [if_neg hi, Row.ofText, List.getD_eq_getElem?_getD,
      List.getElem?_eq_none (Nat.le_of_not_lt hi)]
    rfl

/-- Writing the row again shows the new text, whatever stood there before. -/
theorem shows_print_redraw (hs : s.sequence = .none) {text : List Char}
    (htext : IsPrintable text) : (s.print ('\r' :: text ++ clearToEnd)).Shows text := by
  rw [List.cons_append, print_cons, put_return s hs, print_append]
  have hstart : ({ s with column := 0 } : Screen).Begins [] :=
    ⟨fun i hi => absurd hi (Nat.not_lt_zero i), rfl, hs⟩
  exact (hstart.print htext).print_clearToEnd

end Screen

end LineShell
