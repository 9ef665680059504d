import LineShell.Editing.Session

/-!
# Reading a line

A line is read key by key until a key submits it or ends the input.  No byte behind that key is
taken, so whoever reads the same input next starts right after the line.

## Main definitions

* `Reading` — a line that was read, what was shown meanwhile, and the input behind it.
* `Session.readLine` — reads on from a session.
* `readLine` — prompts for a line and reads it.
* `readLines` — reads line after line up to the end of the input.

## Main results

* `length_rest_readLine_lt` — a line takes at least one byte.
-/

namespace LineShell

/-- The outcome of reading a line. -/
structure Reading where
  /-- The line, or `none` if the input has ended. -/
  line : Option (List Char)
  /-- What the terminal has shown while the line was read. -/
  shown : List Char
  /-- The input that follows the line. -/
  rest : Feed
  deriving DecidableEq, Repr

/-- The line that a step submits. -/
def Step.line? : Step → Option (List Char)
  | .line text => some text
  | _ => none

/-- Reads on until a key submits the line or ends the input.  At the end of the feed the key that
stands for it does one or the other. -/
def Session.readLine (s : Session) (source : CandidateSource) (feed : Feed) : Reading :=
  if _ : feed.bytes = [] then
    let r := s.press source .eof
    ⟨r.step.line?, r.shown, feed⟩
  else
    let r := s.press source feed.readKey.1
    match r.step with
    | .continue =>
      let more := r.session.readLine source feed.readKey.2
      { more with shown := r.shown ++ more.shown }
    | step => ⟨step.line?, r.shown, feed.readKey.2⟩
termination_by feed.bytes.length
decreasing_by
  exact Feed.length_bytes_readKey_lt ‹_›

/-- Shows the prompt and reads a line of at most `limit` characters. -/
def readLine (prompt : List Char) (limit : Nat) (source : CandidateSource) (feed : Feed) :
    Reading :=
  let r := Session.readLine { prompt, limit } source feed
  { r with shown := prompt ++ r.shown }

/-- Reading a line adds no bytes to the input. -/
theorem Session.length_rest_readLine_le (s : Session) (source : CandidateSource) (feed : Feed) :
    (s.readLine source feed).rest.bytes.length ≤ feed.bytes.length := by
  fun_induction Session.readLine s source feed with
  | case1 => exact Nat.le_refl _
  | case2 s feed hne r hstep more ih =>
    exact Nat.le_trans ih (Nat.le_of_lt (Feed.length_bytes_readKey_lt hne))
  | case3 s feed hne r hstep => exact Nat.le_of_lt (Feed.length_bytes_readKey_lt hne)

/-- A session of which a line is read takes at least one byte, unless it ends with the input. -/
theorem Session.length_rest_readLine_lt (s : Session) (source : CandidateSource) {feed : Feed}
    (hne : feed.bytes ≠ []) :
    (s.readLine source feed).rest.bytes.length < feed.bytes.length := by
  have hkey := Feed.length_bytes_readKey_lt hne
  rw [Session.readLine, dif_neg hne]
  simp only
  split
  · exact Nat.lt_of_le_of_lt (Session.length_rest_readLine_le _ _ _) hkey
  · exact hkey

/-- At the end of the input there is no line. -/
theorem line_readLine_of_bytes_eq_nil (prompt : List Char) (limit : Nat) (source : CandidateSource)
    {feed : Feed} (h : feed.bytes = []) : (readLine prompt limit source feed).line = none := by
  simp [readLine, Session.readLine, h, Session.press, Session.countTab, Step.line?]

/-- A line takes at least one byte. -/
theorem length_rest_readLine_lt {prompt : List Char} {limit : Nat} {source : CandidateSource}
    {feed : Feed} (h : (readLine prompt limit source feed).line ≠ none) :
    (readLine prompt limit source feed).rest.bytes.length < feed.bytes.length := by
  have hne : feed.bytes ≠ [] := fun hnil =>
    h (line_readLine_of_bytes_eq_nil prompt limit source hnil)
  exact Session.length_rest_readLine_lt _ source hne

/-- Reads line after line until the input has ended.  The last reading has no line. -/
def readLines (prompt : List Char) (limit : Nat) (source : CandidateSource) (feed : Feed) :
    List Reading :=
  let r := readLine prompt limit source feed
  if _ : r.line = none then [r]
  else r :: readLines prompt limit source r.rest
termination_by feed.bytes.length
decreasing_by
  exact length_rest_readLine_lt ‹_›

end LineShell
