import LineShell.Editing.LineReader
import LineShell.Proofs.Input.Keystrokes

/-!
# One session reads every line

Each line is read by a session of its own, and no byte behind the line is taken.  This is the same
as one session that is never made anew and is given all keys of the input: a session that has
submitted a line is like a new one, and the keys of what is left are the keys that follow.

## Main definitions

* `Session.lines` — the lines that one session submits for some keys, up to the end of the input.
* `Stretch`, `Session.stretches` — the keys of one session cut behind each key that submits a line
  or ends the input, with what is shown for them.
* `Session.after?` — one session after some keys.

## Main results

* `Session.press_eq_of_line` — a session that has submitted a line is like a new one.
* `Session.stretches_readLine` — a line is read from the first stretch of the keystrokes.
* `filterMap_line_readLines` — **reading line by line gives the lines of one session.**
* `map_readLines` — each line is prompted for and shown as the session shows its keys.
* `bytes_readLines` — each line takes the bytes of its own keys.
-/

namespace LineShell

namespace Session

/-! ### A session that has submitted a line -/

theorem prompt_countTab (s : Session) (key : Key) : (s.countTab key).prompt = s.prompt := by
  unfold countTab
  split <;> rfl

/-- A look at the candidates does not change the prompt or the limit. -/
theorem applyCompletion_frame (s : Session) (found : Except UnlistedDirectory Completion) :
    (s.applyCompletion found).1.prompt = s.prompt ∧
      (s.applyCompletion found).1.limit = s.limit := by
  match found with
  | .ok .noMatch => exact ⟨rfl, rfl⟩
  | .ok (.unique name) =>
    simp only [applyCompletion]
    split <;> exact ⟨rfl, rfl⟩
  | .ok (.ambiguous names) =>
    simp only [applyCompletion]
    split <;> exact ⟨rfl, rfl⟩
  | .error e => exact ⟨rfl, rfl⟩

/-- No key changes the prompt or the limit. -/
theorem press_frame (s : Session) (source : CandidateSource) (key : Key) :
    (s.press source key).session.prompt = s.prompt ∧
      (s.press source key).session.limit = s.limit := by
  have hprompt := s.prompt_countTab key
  have hlimit := s.limit_countTab key
  unfold press
  cases key with
  | tab =>
    obtain ⟨hprompt', hlimit'⟩ := (s.countTab .tab).applyCompletion_frame
      (complete source (String.ofList (s.countTab .tab).buffer))
    exact ⟨hprompt'.trans hprompt, hlimit'.trans hlimit⟩
  | _ =>
    simp only [insert, erase, submit]
    repeat' split
    all_goals exact ⟨hprompt, hlimit⟩

/-- A session that has submitted a line is like a new one, and the line is what it held. -/
theorem press_eq_of_line {s : Session} {source : CandidateSource} {key : Key} {text : List Char}
    (h : (s.press source key).step = .line text) :
    (s.press source key).session = { prompt := s.prompt, limit := s.limit } ∧ text = s.buffer := by
  -- only the keys that submit reset everything, and the others do not submit
  unfold press at h ⊢
  cases key with
  | enter =>
    cases h
    exact ⟨rfl, rfl⟩
  | eof =>
    simp only at h ⊢
    split at h
    · cases h
    · next hbuffer =>
      rw [if_neg hbuffer]
      cases h
      exact ⟨rfl, rfl⟩
  | tab => cases h
  | _ =>
    simp only [insert, erase] at h
    repeat' split at h
    all_goals cases h

/-- At the end of the input a session without text comes to its end. -/
theorem press_eof_of_buffer_eq_nil {s : Session} (source : CandidateSource) (h : s.buffer = []) :
    (s.press source .eof).step = .endOfInput := by
  simp [press, h]

/-- At the end of the input a session submits the text it has. -/
theorem press_eof_of_buffer_ne_nil {s : Session} (source : CandidateSource) (h : s.buffer ≠ []) :
    (s.press source .eof).step = .line s.buffer := by
  simp [press, h, submit]

/-! ### One session -/

/-- The lines that one session submits for some keys, up to the key that ends the input. -/
def lines (source : CandidateSource) : Session → List Key → List (List Char)
  | _, [] => []
  | s, key :: keys =>
    let r := s.press source key
    match r.step with
    | .continue => r.session.lines source keys
    | .line text => text :: r.session.lines source keys
    | .endOfInput => []

/-- The session after some keys, unless one of them has ended the input. -/
def after? (source : CandidateSource) : Session → List Key → Option Session
  | s, [] => some s
  | s, key :: keys =>
    let r := s.press source key
    if r.step = .endOfInput then none else r.session.after? source keys

end Session

/-- Keystrokes of a session up to one that submits a line or ends the input. -/
structure Stretch where
  strokes : List Keystroke
  /-- What the session has to show for the keys. -/
  shown : List Char
  /-- What the last key does. -/
  step : Step
  deriving DecidableEq, Repr

namespace Stretch

/-- The bytes of the keys. -/
def bytes (stretch : Stretch) : Bytes :=
  stretch.strokes.flatMap (·.bytes)

/-- The stretch with a keystroke in front, and what is shown for it. -/
def cons (stroke : Keystroke) (shown : List Char) (stretch : Stretch) : Stretch :=
  { stretch with strokes := stroke :: stretch.strokes, shown := shown ++ stretch.shown }

end Stretch

namespace Session

/-- The keystrokes of one session, cut behind each key that submits a line and behind the key that
ends the input. -/
def stretches (source : CandidateSource) : Session → List Keystroke → List Stretch
  | _, [] => []
  | s, stroke :: strokes =>
    let r := s.press source stroke.key
    match r.step with
    | .continue => (r.session.stretches source strokes).modifyHead (.cons stroke r.shown)
    | .line text => ⟨[stroke], r.shown, .line text⟩ :: r.session.stretches source strokes
    | .endOfInput => [⟨[stroke], r.shown, .endOfInput⟩]

variable {source : CandidateSource} {s : Session} {stroke : Keystroke}

theorem stretches_cons_of_continue (h : (s.press source stroke.key).step = .continue)
    (strokes : List Keystroke) :
    s.stretches source (stroke :: strokes) =
      ((s.press source stroke.key).session.stretches source strokes).modifyHead
        (.cons stroke (s.press source stroke.key).shown) := by
  simp only [stretches, h]

theorem stretches_cons_of_line {text : List Char}
    (h : (s.press source stroke.key).step = .line text) (strokes : List Keystroke) :
    s.stretches source (stroke :: strokes) =
      ⟨[stroke], (s.press source stroke.key).shown, .line text⟩ ::
        ({ prompt := s.prompt, limit := s.limit } : Session).stretches source strokes := by
  simp only [stretches, h]
  rw [(press_eq_of_line h).1]

theorem stretches_cons_of_endOfInput (h : (s.press source stroke.key).step = .endOfInput)
    (strokes : List Keystroke) :
    s.stretches source (stroke :: strokes) =
      [⟨[stroke], (s.press source stroke.key).shown, .endOfInput⟩] := by
  simp only [stretches, h]

/-- The stretches have the keystrokes in their order, up to the end of the session. -/
theorem flatMap_strokes_stretches (source : CandidateSource) (strokes : List Keystroke) :
    ∀ s : Session, (s.stretches source strokes).flatMap (·.strokes) <+: strokes := by
  induction strokes with
  | nil => exact fun _ => List.nil_prefix
  | cons stroke strokes ih =>
    intro s
    cases hstep : (s.press source stroke.key).step with
    | «continue» =>
      rw [stretches_cons_of_continue hstep]
      have hmore := ih (s.press source stroke.key).session
      cases hstretches : (s.press source stroke.key).session.stretches source strokes with
      | nil => exact List.nil_prefix
      | cons first later =>
        rw [hstretches] at hmore
        exact (List.prefix_cons_inj stroke).2 hmore
    | line text =>
      rw [stretches_cons_of_line hstep, List.flatMap_cons]
      exact (List.prefix_cons_inj stroke).2 (ih _)
    | endOfInput =>
      rw [stretches_cons_of_endOfInput hstep]
      exact ⟨strokes, rfl⟩

/-- The lines of one session are those of its stretches. -/
theorem filterMap_stretches (source : CandidateSource) (strokes : List Keystroke) :
    ∀ s : Session, (s.stretches source strokes).filterMap (·.step.line?) =
      s.lines source (strokes.map (·.key)) := by
  induction strokes with
  | nil => exact fun _ => rfl
  | cons stroke strokes ih =>
    intro s
    rw [List.map_cons, lines]
    cases hstep : (s.press source stroke.key).step with
    | «continue» =>
      rw [stretches_cons_of_continue hstep]
      refine Eq.trans ?_ (ih _)
      -- only the first stretch has become longer, and it submits the same line
      cases (s.press source stroke.key).session.stretches source strokes <;> rfl
    | line text =>
      have hfresh := (press_eq_of_line hstep).1
      rw [stretches_cons_of_line hstep, hfresh]
      exact congrArg (text :: ·) (ih _)
    | endOfInput =>
      rw [stretches_cons_of_endOfInput hstep]
      rfl

/-- The lines for some keys and more come from the session after the first ones. -/
theorem exists_lines_append {source : CandidateSource} {keys : List Key} (more : List Key) :
    ∀ {s t : Session}, s.after? source keys = some t →
      ∃ before, s.lines source (keys ++ more) = before ++ t.lines source more := by
  induction keys with
  | nil =>
    intro s t h
    cases h
    exact ⟨[], rfl⟩
  | cons key keys ih =>
    intro s t h
    rw [after?] at h
    rw [List.cons_append, lines]
    cases hstep : (s.press source key).step with
    | «continue» =>
      rw [hstep] at h
      exact ih h
    | line text =>
      rw [hstep] at h
      obtain ⟨before, hbefore⟩ := ih h
      exact ⟨text :: before, by rw [hbefore]; rfl⟩
    | endOfInput =>
      rw [hstep] at h
      cases h

/-- Behind the same keys, keys that give the same lines to every session can take each other's
place. -/
theorem lines_append_congr {source : CandidateSource} {more more' : List Key}
    (h : ∀ t : Session, t.lines source more = t.lines source more') (keys : List Key) :
    ∀ s : Session, s.lines source (keys ++ more) = s.lines source (keys ++ more') := by
  induction keys with
  | nil => exact h
  | cons key keys ih =>
    intro s
    rw [List.cons_append, List.cons_append, lines, lines]
    cases (s.press source key).step with
    | «continue» => exact ih _
    | line text => exact congrArg (text :: ·) (ih _)
    | endOfInput => rfl

/-- The end of the input, met twice, makes a last line of the text there is. -/
theorem lines_eof_eof (source : CandidateSource) (s : Session) (more : List Key) :
    s.lines source (.eof :: .eof :: more) = if s.buffer = [] then [] else [s.buffer] := by
  by_cases hbuffer : s.buffer = []
  · rw [if_pos hbuffer, lines]
    simp only [press_eof_of_buffer_eq_nil source hbuffer]
  · have hstep := press_eof_of_buffer_ne_nil source hbuffer
    have hfresh := (press_eq_of_line hstep).1
    rw [if_neg hbuffer, lines]
    simp only [hstep, hfresh]
    rfl

end Session

/-- The keystrokes of a feed, and the end once more: a session that submits its text at the end
meets it again. -/
def Feed.allKeystrokes (feed : Feed) : List Keystroke :=
  feed.keystrokes ++ [.eof]

theorem Feed.allKeystrokes_of_bytes_eq_nil {feed : Feed} (h : feed.bytes = []) :
    feed.allKeystrokes = [.eof, .eof] := by
  rw [allKeystrokes, keystrokes_of_bytes_eq_nil h]
  rfl

theorem Feed.allKeystrokes_of_bytes_ne_nil {feed : Feed} (h : feed.bytes ≠ []) :
    feed.allKeystrokes = ⟨feed.readKey.1, feed.keyBytes⟩ :: feed.readKey.2.allKeystrokes := by
  rw [allKeystrokes, keystrokes_of_bytes_ne_nil h]
  rfl

/-! ### One call -/

/-- A line is read from the first stretch of the keystrokes, and what is left gives the later
stretches to a new session. -/
theorem Session.stretches_readLine (source : CandidateSource) (s : Session) (feed : Feed) :
    ∃ first later, s.stretches source feed.allKeystrokes = first :: later ∧
      first.step.line? = (s.readLine source feed).line ∧
      first.shown = (s.readLine source feed).shown ∧
      first.bytes ++ (s.readLine source feed).rest.bytes = feed.bytes ∧
      later =
        if (s.readLine source feed).line = none then []
        else ({ prompt := s.prompt, limit := s.limit } : Session).stretches source
          (s.readLine source feed).rest.allKeystrokes := by
  fun_induction Session.readLine s source feed with
  | case1 s feed hnil r =>
    rw [Feed.allKeystrokes_of_bytes_eq_nil hnil]
    by_cases hbuffer : s.buffer = []
    · have hstep : (s.press source Keystroke.eof.key).step = .endOfInput :=
        press_eof_of_buffer_eq_nil source hbuffer
      refine ⟨_, _, stretches_cons_of_endOfInput hstep _, ?_, rfl, rfl, ?_⟩
      · exact congrArg Step.line? hstep.symm
      · exact (if_pos (congrArg Step.line? hstep)).symm
    · have hstep : (s.press source Keystroke.eof.key).step = .line s.buffer :=
        press_eof_of_buffer_ne_nil source hbuffer
      have hline : r.step.line? = some s.buffer := congrArg Step.line? hstep
      refine ⟨_, _, stretches_cons_of_line hstep _, hline.symm, rfl, rfl, ?_⟩
      -- the new session comes to its end at once, however often the end is met
      rw [hline, if_neg (Option.some_ne_none _)]
      rfl
  | case2 s feed hne r hstep more ih =>
    obtain ⟨first, later, hstretches, hline, hshown, hbytes, hlater⟩ := ih
    obtain ⟨hprompt, hlimit⟩ := s.press_frame source feed.readKey.1
    refine ⟨first.cons ⟨feed.readKey.1, feed.keyBytes⟩ r.shown, later, ?_, hline, ?_, ?_, ?_⟩
    · rw [Feed.allKeystrokes_of_bytes_ne_nil hne, stretches_cons_of_continue hstep, hstretches]
      rfl
    · exact congrArg (r.shown ++ ·) hshown
    · have hcons : (first.cons ⟨feed.readKey.1, feed.keyBytes⟩ r.shown).bytes =
          feed.keyBytes ++ first.bytes := rfl
      rw [hcons, List.append_assoc, hbytes, feed.keyBytes_append]
    · rw [hlater, hprompt, hlimit]
  | case3 s feed hne r hstep =>
    rw [Feed.allKeystrokes_of_bytes_ne_nil hne]
    have hbytes : [(⟨feed.readKey.1, feed.keyBytes⟩ : Keystroke)].flatMap (·.bytes) ++
        feed.readKey.2.bytes = feed.bytes := by
      rw [List.flatMap_singleton, feed.keyBytes_append]
    cases hr : r.step with
    | «continue» => exact absurd hr hstep
    | line text =>
      refine ⟨_, _, stretches_cons_of_line hr _, rfl, rfl, hbytes, ?_⟩
      rfl
    | endOfInput => exact ⟨_, _, stretches_cons_of_endOfInput hr _, rfl, rfl, hbytes, rfl⟩

section Calls

variable (prompt : List Char) (limit : Nat) (source : CandidateSource)

/-- The stretches of one session for all keys of a feed. -/
def Feed.stretches (feed : Feed) : List Stretch :=
  ({ prompt, limit } : Session).stretches source feed.allKeystrokes

/-- A call reads the first stretch and leaves the others to the calls that follow. -/
theorem exists_stretches_eq_cons (feed : Feed) :
    let r := readLine prompt limit source feed
    ∃ first : Stretch, feed.stretches prompt limit source =
        first :: (if r.line = none then [] else r.rest.stretches prompt limit source) ∧
      first.step.line? = r.line ∧ prompt ++ first.shown = r.shown ∧
      first.bytes ++ r.rest.bytes = feed.bytes := by
  intro r
  obtain ⟨first, later, hstretches, hline, hshown, hbytes, hlater⟩ :=
    Session.stretches_readLine source { prompt, limit } feed
  refine ⟨first, ?_, hline, congrArg (prompt ++ ·) hshown, hbytes⟩
  rw [Feed.stretches, hstretches, hlater]
  rfl

/-- The calls read the stretches one after the other. -/
theorem map_readLines (feed : Feed) :
    (readLines prompt limit source feed).map (fun r => (r.line, r.shown)) =
      (feed.stretches prompt limit source).map
        fun stretch => (stretch.step.line?, prompt ++ stretch.shown) := by
  fun_induction readLines prompt limit source feed with
  | case1 feed r hnone =>
    obtain ⟨first, hstretches, hline, hshown, -⟩ :=
      exists_stretches_eq_cons prompt limit source feed
    rw [hstretches, if_pos hnone, List.map_singleton, List.map_singleton, hline, hshown]
  | case2 feed r hsome ih =>
    obtain ⟨first, hstretches, hline, hshown, -⟩ :=
      exists_stretches_eq_cons prompt limit source feed
    rw [hstretches, if_neg hsome, List.map_cons, List.map_cons, hline, hshown, ih]

/-- Reading a line does not change what waiting at the end of the input says. -/
theorem readyAtEnd_rest_readLine (feed : Feed) :
    (readLine prompt limit source feed).rest.readyAtEnd = feed.readyAtEnd := by
  suffices h : ∀ s : Session, (s.readLine source feed).rest.readyAtEnd = feed.readyAtEnd from
    h { prompt, limit }
  intro s
  fun_induction Session.readLine s source feed with
  | case1 => rfl
  | case2 s feed hne r hstep more ih => exact ih.trans feed.readyAtEnd_readKey
  | case3 s feed hne r hstep => exact feed.readyAtEnd_readKey

/-- **Behind each call stands the input without the bytes of the stretches so far.** -/
theorem bytes_readLines (feed : Feed) :
    ∀ (i : Nat) (call : Reading), (readLines prompt limit source feed)[i]? = some call →
      ((feed.stretches prompt limit source).take (i + 1)).flatMap (·.bytes) ++ call.rest.bytes =
        feed.bytes := by
  fun_induction readLines prompt limit source feed with
  | case1 feed r hnone =>
    intro i call hcall
    obtain ⟨first, hstretches, -, -, hbytes⟩ := exists_stretches_eq_cons prompt limit source feed
    cases i with
    | zero =>
      obtain rfl : r = call := Option.some.inj hcall
      rw [hstretches, List.take_succ_cons, List.take_zero, List.flatMap_singleton, hbytes]
    | succ i => cases hcall
  | case2 feed r hsome ih =>
    intro i call hcall
    obtain ⟨first, hstretches, -, -, hbytes⟩ := exists_stretches_eq_cons prompt limit source feed
    rw [hstretches, if_neg hsome, List.take_succ_cons, List.flatMap_cons, List.append_assoc]
    cases i with
    | zero =>
      obtain rfl : r = call := Option.some.inj hcall
      exact hbytes
    | succ i =>
      rw [ih i call hcall]
      exact hbytes

/-- In front of each call stands the input without the bytes of the stretches before it. -/
theorem exists_readLine_of_readLines (feed : Feed) :
    ∀ (i : Nat) (call : Reading), (readLines prompt limit source feed)[i]? = some call →
      ∃ input : Feed, call = readLine prompt limit source input ∧
        input.readyAtEnd = feed.readyAtEnd ∧
        ((feed.stretches prompt limit source).take i).flatMap (·.bytes) ++ input.bytes =
          feed.bytes := by
  fun_induction readLines prompt limit source feed with
  | case1 feed r hnone =>
    intro i call hcall
    cases i with
    | zero => exact ⟨feed, (Option.some.inj hcall).symm, rfl, rfl⟩
    | succ i => cases hcall
  | case2 feed r hsome ih =>
    intro i call hcall
    cases i with
    | zero => exact ⟨feed, (Option.some.inj hcall).symm, rfl, rfl⟩
    | succ i =>
      obtain ⟨input, hinput, hready, hbefore⟩ := ih i call hcall
      obtain ⟨first, hstretches, -, -, hbytes⟩ := exists_stretches_eq_cons prompt limit source feed
      refine ⟨input, hinput, hready.trans (readyAtEnd_rest_readLine prompt limit source feed), ?_⟩
      rw [hstretches, if_neg hsome, List.take_succ_cons, List.flatMap_cons, List.append_assoc,
        hbefore]
      exact hbytes

/-- Every call but the last one has a line. -/
theorem map_line_readLines (feed : Feed) :
    (readLines prompt limit source feed).map (·.line) =
      ((readLines prompt limit source feed).filterMap (·.line)).map some ++ [none] := by
  fun_induction readLines prompt limit source feed with
  | case1 feed r hnone =>
    rw [List.map_singleton, List.filterMap_cons_none hnone, hnone]
    rfl
  | case2 feed r hsome ih =>
    obtain ⟨text, htext⟩ := Option.ne_none_iff_exists'.1 hsome
    rw [List.map_cons, List.filterMap_cons_some htext, ih, htext]
    rfl

/-- **The lines of the calls are the lines of one session** that is given all keys, whatever follows
when the end has been met twice. -/
theorem filterMap_line_readLines (feed : Feed) (more : List Key) :
    (readLines prompt limit source feed).filterMap (·.line) =
      ({ prompt, limit } : Session).lines source (feed.keys ++ .eof :: more) := by
  have hcalls : (readLines prompt limit source feed).filterMap (·.line) =
      (feed.stretches prompt limit source).filterMap (·.step.line?) := by
    have h := congrArg (List.filterMap Prod.fst) (map_readLines prompt limit source feed)
    rwa [List.filterMap_map, List.filterMap_map] at h
  have hkeys : feed.allKeystrokes.map (·.key) = feed.keys ++ [.eof] := by
    rw [Feed.allKeystrokes, List.map_append, feed.map_key_keystrokes]
    rfl
  rw [hcalls, Feed.stretches, Session.filterMap_stretches, hkeys, ← feed.dropLast_keys_append,
    List.append_assoc, List.append_assoc]
  refine Session.lines_append_congr (fun t => ?_) _ _
  exact (t.lines_eof_eof source []).trans (t.lines_eof_eof source more).symm

/-- **The text that is left at the end of the input is the last line.** -/
theorem exists_filterMap_line_eq_append {feed : Feed} {t : Session}
    (h : ({ prompt, limit } : Session).after? source feed.keys.dropLast = some t)
    (hbuffer : t.buffer ≠ []) :
    ∃ before, (readLines prompt limit source feed).filterMap (·.line) = before ++ [t.buffer] := by
  obtain ⟨before, hbefore⟩ := Session.exists_lines_append [.eof, .eof] h
  refine ⟨before, ?_⟩
  rw [filterMap_line_readLines prompt limit source feed [], ← feed.dropLast_keys_append,
    List.append_assoc]
  exact hbefore.trans (by rw [Session.lines_eof_eof, if_neg hbuffer])

end Calls

end LineShell
