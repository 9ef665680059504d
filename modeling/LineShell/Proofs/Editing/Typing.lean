import LineShell.Proofs.Editing.Screen

/-!
# What the user sees is what is submitted

Keys are pressed one after the other, each with a source of candidates of its own, and the screen
takes whatever the session has to show for them.  As long as the line goes on, the row of the cursor
shows the prompt and the line so far and nothing else; when the line is submitted, the row that is
left shows the prompt and the line.

## Main definitions

* `Stroke` — a key and the source of candidates that it meets.
* `Typing` — a session in front of a screen, and how the last key has gone.
* `Typing.start`, `Typing.press`, `Typing.pressAll` — typing from the prompt on.
* `Typing.InStep` — the invariant: the screen shows what the session holds.

## Main results

* `Typing.inStep_press` — a key keeps session and screen in step, or leaves the submitted line.
* `Typing.shows_buffer_or_line` — **what the screen shows after any keys.**
-/

namespace LineShell

/-- A key, and the source of candidates at the time when it is pressed. -/
structure Stroke where
  key : Key
  source : CandidateSource

/-- An answer of a source that can be shown: the names, or the text of the error, are printable. -/
def IsShowable : Except UnlistedDirectory (List String) → Prop
  | .ok names => ∀ name ∈ names, IsPrintable name.toList
  | .error e => IsPrintable e.text.toList

instance : ∀ answer, Decidable (IsShowable answer)
  | .ok names =>
    decidable_of_iff (names.all (fun name => decide (IsPrintable name.toList)) = true)
      (List.all_eq_true.trans (forall₂_congr fun _ _ => decide_eq_true_iff))
  | .error e => inferInstanceAs (Decidable (IsPrintable e.text.toList))

/-- A stroke whose character, if it types one, and whose candidates are printable. -/
structure Stroke.IsShowable (stroke : Stroke) : Prop where
  key : ∀ c, stroke.key = .char c → isPrintable c = true
  source : ∀ text, LineShell.IsShowable (stroke.source text)

/-- A session in front of a screen. -/
structure Typing where
  session : Session
  screen : Screen
  /-- What the last key has done to the line. -/
  step : Step := .continue

namespace Typing

/-- The prompt has been written on a blank row, below rows that were left before. -/
def start (prompt : List Char) (limit : Nat) (above : List Row) : Typing :=
  { session := { prompt, limit }, screen := ({ above } : Screen).print prompt }

/-- A key is pressed, unless the line has come to its end. -/
def press (t : Typing) (stroke : Stroke) : Typing :=
  match t.step with
  | .continue =>
    let r := t.session.press stroke.source stroke.key
    ⟨r.session, t.screen.print r.shown, r.step⟩
  | _ => t

/-- Keys are pressed one after the other. -/
def pressAll (t : Typing) (strokes : List Stroke) : Typing :=
  strokes.foldl press t

/-- The screen shows what the session holds, all of it printable. -/
structure InStep (prompt : List Char) (session : Session) (screen : Screen) : Prop where
  prompt_eq : session.prompt = prompt
  printable : IsPrintable session.buffer
  shows : screen.Shows (prompt ++ session.buffer)

end Typing

/-! ### Completion -/

/-- What completion can offer for a text is printable. -/
def Completion.IsShowable : Except UnlistedDirectory Completion → Prop
  | .ok .noMatch => True
  | .ok (.unique name) => IsPrintable name.toList
  | .ok (.ambiguous names) => ∀ name ∈ names, IsPrintable name.toList
  | .error e => IsPrintable e.text.toList

/-- The names of the builtins that are abbreviated are printable. -/
theorem isPrintable_of_lookup_abbreviations {text name : String}
    (h : abbreviations.lookup text = some name) : IsPrintable name.toList := by
  have hall : (abbreviations.all fun entry => decide (IsPrintable entry.2.toList)) = true := by
    decide
  obtain ⟨before, after, heq, -⟩ := List.lookup_eq_some_iff.1 h
  have hmem : (text, name) ∈ abbreviations := heq ▸ List.mem_append_right before List.mem_cons_self
  exact of_decide_eq_true (List.all_eq_true.1 hall (text, name) hmem)

/-- A source that can be shown leads to completions that can be shown. -/
theorem isShowable_complete {source : CandidateSource} (h : ∀ text, IsShowable (source text))
    (text : String) : Completion.IsShowable (complete source text) := by
  unfold complete
  split
  · next name hname => exact isPrintable_of_lookup_abbreviations hname
  · have htext := h text
    cases hsource : source text with
    | error e =>
      rw [hsource] at htext
      exact htext
    | ok names =>
      rw [hsource] at htext
      match names with
      | [] => trivial
      | [name] => exact htext name List.mem_cons_self
      | _ :: _ :: _ => exact htext

/-- Printable names with a printable text between them are a printable text. -/
theorem isPrintable_intercalate {separator : String} (hseparator : IsPrintable separator.toList)
    {names : List String} (hnames : ∀ name ∈ names, IsPrintable name.toList) :
    IsPrintable (separator.intercalate names).toList := by
  induction names with
  | nil =>
    rw [String.intercalate_nil]
    exact fun c hc => absurd hc (by simp)
  | cons name names ih =>
    obtain ⟨hname, hnames⟩ := List.forall_mem_cons.1 hnames
    cases names with
    | nil => rwa [String.intercalate_singleton]
    | cons next names =>
      rw [String.intercalate_cons_of_ne_nil (List.cons_ne_nil _ _), String.toList_append,
        String.toList_append]
      exact isPrintable_append.2 ⟨isPrintable_append.2 ⟨hname, hseparator⟩, ih hnames⟩

/-- What is shown about the candidates, before the row is written again, leaves the terminal ready,
and the line is printable afterwards. -/
theorem Session.applyCompletion_showable {s : Session} (hs : IsPrintable s.buffer)
    {found : Except UnlistedDirectory Completion} (hfound : Completion.IsShowable found)
    {screen : Screen} (hscreen : screen.sequence = .none) :
    (s.applyCompletion found).1.prompt = s.prompt ∧
      IsPrintable (s.applyCompletion found).1.buffer ∧
      (screen.print (s.applyCompletion found).2).sequence = .none := by
  have hbell : (screen.print [bell]).sequence = .none := by
    rw [Screen.print_cons, Screen.put_bell screen hscreen]
    exact hscreen
  -- a line of its own, between two line feeds
  have hline : ∀ text, IsPrintable text →
      (screen.print ('\n' :: text ++ ['\n'])).sequence = .none := by
    intro text htext
    rw [List.cons_append, Screen.print_cons, Screen.print_append, Screen.print_cons]
    have hrow := (Screen.shows_put_lineFeed hscreen).sequence
    exact (Screen.shows_put_lineFeed (Screen.sequence_print hrow htext)).sequence
  match found with
  | .ok .noMatch => exact ⟨rfl, hs, hbell⟩
  | .ok (.unique name) =>
    simp only [applyCompletion]
    split
    · exact ⟨rfl, hs, hbell⟩
    · refine ⟨rfl, isPrintable_append.2 ⟨hfound, ?_⟩, hscreen⟩
      exact isPrintable_cons.2 ⟨by decide, fun c hc => absurd hc List.not_mem_nil⟩
  | .ok (.ambiguous names) =>
    simp only [applyCompletion]
    split
    · exact ⟨rfl, hs, hbell⟩
    · exact ⟨rfl, hs, hline _ (isPrintable_intercalate (by decide) hfound)⟩
  | .error e =>
    refine ⟨rfl, hs, ?_⟩
    have htext : IsPrintable (messagePrefix ++ e.text).toList := by
      rw [String.toList_append]
      exact isPrintable_append.2 ⟨by decide, hfound⟩
    have hshown : '\n' :: (messagePrefix ++ e.text).toList ++ ['\n', bell] =
        '\n' :: (messagePrefix ++ e.text).toList ++ ['\n'] ++ [bell] := by simp
    change (screen.print ('\n' :: (messagePrefix ++ e.text).toList ++ ['\n', bell])).sequence = _
    rw [hshown, Screen.print_append, Screen.print_cons, Screen.put_bell _ (hline _ htext)]
    exact hline _ htext

/-! ### Keys -/

namespace Typing

variable {prompt : List Char} {session : Session} {screen : Screen}

/-- Writing the row again brings a printable session and the screen in step. -/
theorem inStep_print_redraw (hprompt : IsPrintable prompt) (heq : session.prompt = prompt)
    (hbuffer : IsPrintable session.buffer) (hscreen : screen.sequence = .none) :
    InStep prompt session (screen.print session.redraw) := by
  refine ⟨heq, hbuffer, ?_⟩
  rw [Session.redraw, heq]
  exact Screen.shows_print_redraw hscreen (isPrintable_append.2 ⟨hprompt, hbuffer⟩)

theorem InStep.countTab (h : InStep prompt session screen) (key : Key) :
    InStep prompt (session.countTab key) screen := by
  unfold Session.countTab
  split
  · exact h
  · exact ⟨h.prompt_eq, h.printable, h.shows⟩

/-- A character is shown exactly if it is kept. -/
theorem InStep.insert (h : InStep prompt session screen) {c : Char} (hc : isPrintable c = true) :
    InStep prompt (session.insert c).session (screen.print (session.insert c).shown) := by
  have htext : IsPrintable [c] :=
    isPrintable_cons.2 ⟨hc, fun d hd => absurd hd List.not_mem_nil⟩
  unfold Session.insert
  split
  · refine ⟨h.prompt_eq, isPrintable_append.2 ⟨h.printable, htext⟩, ?_⟩
    rw [← List.append_assoc]
    exact h.shows.print htext
  · exact h

/-- A character is erased on the screen exactly if it is erased in the line. -/
theorem InStep.erase (h : InStep prompt session screen) :
    InStep prompt session.erase.session (screen.print session.erase.shown) := by
  unfold Session.erase
  split
  · exact h
  · next hne =>
    have hbuffer : session.buffer ≠ [] := by simpa using hne
    refine ⟨h.prompt_eq, fun c hc => h.printable c (List.dropLast_subset _ hc), ?_⟩
    have hshows := h.shows
    rw [← List.dropLast_concat_getLast hbuffer, ← List.append_assoc] at hshows
    exact hshows.print_eraseShown

/-- The line feed that submits a line leaves the row as it was. -/
theorem InStep.submit (h : InStep prompt session screen) :
    (screen.print session.submit.shown).above.head? =
      some (Row.ofText (prompt ++ session.buffer)) := by
  rw [Session.submit, Screen.print_cons, Screen.put_lineFeed screen h.shows.sequence,
    ← h.shows.row]
  rfl

/-- A key keeps session and screen in step while the line goes on; when it submits the line, the row
that is left shows it. -/
theorem inStep_press (hprompt : IsPrintable prompt) (h : InStep prompt session screen)
    {stroke : Stroke} (hstroke : stroke.IsShowable) {r : Response}
    (hr : session.press stroke.source stroke.key = r) :
    (r.step = .continue → InStep prompt r.session (screen.print r.shown)) ∧
      ∀ line, r.step = .line line →
        (screen.print r.shown).above.head? = some (Row.ofText (prompt ++ line)) := by
  subst hr
  have hcount := h.countTab stroke.key
  have hcontinue : ∀ {after : Response}, after.step = .continue →
      InStep prompt after.session (screen.print after.shown) →
      (after.step = .continue → InStep prompt after.session (screen.print after.shown)) ∧
        ∀ line, after.step = .line line →
          (screen.print after.shown).above.head? = some (Row.ofText (prompt ++ line)) :=
    fun hstep hstay => ⟨fun _ => hstay, fun line hline => by rw [hstep] at hline; cases hline⟩
  unfold Session.press
  cases hkey : stroke.key with
  | char c =>
    rw [hkey] at hcount
    refine hcontinue ?_ (hcount.insert (hstroke.key c hkey))
    simp only [Session.insert]
    split <;> rfl
  | backspace =>
    rw [hkey] at hcount
    refine hcontinue ?_ hcount.erase
    simp only [Session.erase]
    split <;> rfl
  | tab =>
    rw [hkey] at hcount
    have hfound := isShowable_complete hstroke.source
      (String.ofList (session.countTab .tab).buffer)
    obtain ⟨hsame, hbuffer, hready⟩ :=
      Session.applyCompletion_showable hcount.printable hfound hcount.shows.sequence
    refine hcontinue rfl ?_
    simp only [Session.completeLine, Screen.print_append]
    exact inStep_print_redraw hprompt (hsame.trans hcount.prompt_eq) hbuffer hready
  | enter =>
    rw [hkey] at hcount
    refine ⟨fun hstep => (by cases hstep), fun line hline => ?_⟩
    cases hline
    exact hcount.submit
  | ctrlC =>
    rw [hkey] at hcount
    refine hcontinue rfl ?_
    simp only [Screen.print_append]
    -- the row with the mark is left, and the new one is ready
    refine inStep_print_redraw hprompt hcount.prompt_eq (fun c hc => absurd hc List.not_mem_nil) ?_
    have hmark : IsPrintable ['^', 'C'] := by decide
    exact (Screen.shows_put_lineFeed (hcount.shows.print hmark).sequence).sequence
  | ctrlD =>
    rw [hkey] at hcount
    simp only
    split
    · exact ⟨fun hstep => (by cases hstep), fun line hline => (by cases hline)⟩
    · exact hcontinue rfl hcount
  | eof =>
    rw [hkey] at hcount
    simp only
    split
    · exact ⟨fun hstep => (by cases hstep), fun line hline => (by cases hline)⟩
    · refine ⟨fun hstep => (by cases hstep), fun line hline => ?_⟩
      cases hline
      exact hcount.submit
  | unknown =>
    rw [hkey] at hcount
    exact hcontinue rfl hcount

/-! ### Runs -/

theorem start_inStep (hprompt : IsPrintable prompt) (limit : Nat) (above : List Row) :
    InStep prompt (start prompt limit above).session (start prompt limit above).screen := by
  refine ⟨rfl, fun c hc => absurd hc List.not_mem_nil, ?_⟩
  have hblank : ({ above } : Screen).Shows [] := ⟨rfl, rfl, rfl⟩
  have hshows := hblank.print hprompt
  rw [List.nil_append] at hshows
  rw [start, List.append_nil]
  exact hshows

/-- What holds between a session and a screen at any time: they are in step while the line goes on,
and a line that was submitted is shown by the row that was left. -/
def IsTruthful (prompt : List Char) (t : Typing) : Prop :=
  match t.step with
  | .continue => InStep prompt t.session t.screen
  | .line line => t.screen.above.head? = some (Row.ofText (prompt ++ line))
  | .endOfInput => True

theorem IsTruthful.press (hprompt : IsPrintable prompt) {t : Typing} (h : t.IsTruthful prompt)
    {stroke : Stroke} (hstroke : stroke.IsShowable) : (t.press stroke).IsTruthful prompt := by
  unfold Typing.press
  cases hstep : t.step with
  | «continue» =>
    rw [IsTruthful, hstep] at h
    obtain ⟨hgo, hline⟩ := inStep_press hprompt h hstroke rfl
    cases hr : (t.session.press stroke.source stroke.key).step with
    | «continue» => simpa [IsTruthful, hr] using hgo hr
    | line line => simpa [IsTruthful, hr] using hline line hr
    | endOfInput => simp [IsTruthful, hr]
  | line line => exact h
  | endOfInput => exact h

theorem IsTruthful.pressAll (hprompt : IsPrintable prompt) (strokes : List Stroke)
    (hstrokes : ∀ stroke ∈ strokes, stroke.IsShowable) {t : Typing} (h : t.IsTruthful prompt) :
    (t.pressAll strokes).IsTruthful prompt := by
  induction strokes generalizing t with
  | nil => exact h
  | cons stroke strokes ih =>
    obtain ⟨hstroke, hstrokes⟩ := List.forall_mem_cons.1 hstrokes
    exact ih hstrokes (h.press hprompt hstroke)

/-- **What the user sees is what is submitted.**  From a prompt on a blank row, whatever keys are
pressed and whatever their sources answer, as long as all of it can be shown: while the line goes
on, the row of the cursor shows the prompt, the line so far and nothing else, with the cursor right
behind it; and when a key submits the line, the row just left shows the prompt, that line and
nothing else. -/
theorem shows_buffer_or_line {prompt : List Char} (hprompt : IsPrintable prompt) (limit : Nat)
    (above : List Row) {strokes : List Stroke}
    (hstrokes : ∀ stroke ∈ strokes, stroke.IsShowable) :
    let t := (start prompt limit above).pressAll strokes
    (t.step = .continue → t.screen.Shows (prompt ++ t.session.buffer)) ∧
      ∀ line, t.step = .line line →
        t.screen.above.head? = some (Row.ofText (prompt ++ line)) := by
  have hstart : (start prompt limit above).IsTruthful prompt := start_inStep hprompt limit above
  have h := hstart.pressAll hprompt strokes hstrokes
  refine ⟨fun hstep => ?_, fun line hstep => ?_⟩
  · rw [IsTruthful, hstep] at h
    exact h.shows
  · rw [IsTruthful, hstep] at h
    exact h

/-- A source that fails for every text. -/
private def brokenSource : CandidateSource := fun _ => .error ⟨"/nope", .custom "gone"⟩

/-- A source that always has two names. -/
private def twoNames : CandidateSource := fun _ => .ok ["exa", "exb"]

/-- Candidates that cannot be looked up, candidates that are listed, an erased character and an
abbreviation that is completed: the row that is left shows the line. -/
theorem shows_line_of_abbreviation :
    let strokes : List Stroke :=
      [⟨.char 'e', brokenSource⟩, ⟨.tab, brokenSource⟩, ⟨.char 'x', twoNames⟩, ⟨.tab, twoNames⟩,
        ⟨.tab, twoNames⟩, ⟨.backspace, twoNames⟩, ⟨.char 'c', twoNames⟩, ⟨.char 'h', twoNames⟩,
        ⟨.tab, brokenSource⟩, ⟨.enter, brokenSource⟩]
    let t := (start ['$', ' '] 20 []).pressAll strokes
    IsPrintable ['$', ' '] ∧ (∀ stroke ∈ strokes, stroke.IsShowable) ∧
      t.step = .line ['e', 'c', 'h', 'o', ' '] ∧
      t.screen.above.head? = some (Row.ofText ['$', ' ', 'e', 'c', 'h', 'o', ' ']) := by
  intro strokes t
  have hprompt : IsPrintable ['$', ' '] := by decide
  have hbroken : ∀ text, IsShowable (brokenSource text) := fun _ =>
    (by decide : IsShowable (brokenSource ""))
  have htwo : ∀ text, IsShowable (twoNames text) := fun _ =>
    (by decide : IsShowable (twoNames ""))
  have hstrokes : ∀ stroke ∈ strokes, stroke.IsShowable := by
    simp only [strokes, List.forall_mem_cons]
    refine ⟨⟨?_, hbroken⟩, ⟨?_, hbroken⟩, ⟨?_, htwo⟩, ⟨?_, htwo⟩, ⟨?_, htwo⟩, ⟨?_, htwo⟩,
      ⟨?_, htwo⟩, ⟨?_, htwo⟩, ⟨?_, hbroken⟩, ⟨?_, hbroken⟩, fun _ h => absurd h List.not_mem_nil⟩
    all_goals
      intro c hc
      cases hc
      try decide
  have hstep : t.step = .line ['e', 'c', 'h', 'o', ' '] := by decide +kernel
  exact ⟨hprompt, hstrokes, hstep,
    (shows_buffer_or_line hprompt 20 [] hstrokes).2 _ hstep⟩

end Typing

end LineShell
