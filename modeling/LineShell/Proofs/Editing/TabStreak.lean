import LineShell.Proofs.Editing.OneSession
import LineShell.Proofs.Editing.Typing
import Mathlib.Data.List.Induction

/-!
# The Tab key over a whole history

The session remembers of its history whether the number of times that the Tab key has met several
candidates is odd, counted from the last key that is not Tab or the last completion that was put in.
It lists the candidates whenever it meets several of them and that number is odd, and then the line
is the same as when it met several of them before.

## Main definitions

* `TabRole`, `Session.role` — what a stroke means for the count.
* `Session.afterStrokes`, `Session.roles` — a session after some strokes, and what they meant.
* `streak` — the count, as the roles of the strokes tell it.
* `listing`, `Response.Lists` — a list of candidates on the terminal.
* `EarlierTab` — an earlier stroke of the same streak.

## Main results

* `Session.press_role` — **what one stroke does to the count and to the line.**
* `Session.tabs_afterStrokes` — the count over a whole history.
* `Session.exists_lists_iff` — when candidates are listed.
* `Session.exists_earlierTab` — where the count is not zero there is an earlier stroke.
* `Session.tab_history` — **the bound, the count and the lists over every history.**
-/

namespace LineShell

/-! ### Roles -/

/-- What a stroke means for the number of times that the Tab key has met several candidates. -/
inductive TabRole
  /-- The number starts again: the key is another one, or a completion is put in. -/
  | reset
  /-- The Tab key meets several candidates. -/
  | ambiguous
  /-- The Tab key meets no candidate, or one that does not fit, or the candidates cannot be looked
  up. -/
  | idle
  deriving DecidableEq, Repr

/-- The number of times that several candidates were met since the last reset. -/
def streak (roles : List TabRole) : Nat :=
  (roles.reverse.takeWhile (· ≠ .reset)).count .ambiguous

@[simp] theorem streak_reset (roles : List TabRole) : streak (roles ++ [.reset]) = 0 := by
  simp [streak]

@[simp] theorem streak_ambiguous (roles : List TabRole) :
    streak (roles ++ [.ambiguous]) = streak roles + 1 := by
  simp [streak]

@[simp] theorem streak_idle (roles : List TabRole) : streak (roles ++ [.idle]) = streak roles := by
  simp [streak]

/-- The candidates on a line of their own, with two spaces between them. -/
def listing (names : List String) : List Char :=
  '\n' :: ("  ".intercalate names).toList ++ ['\n']

/-- The answer to a key shows a list of candidates, and the row again below it. -/
def Response.Lists (r : Response) (names : List String) : Prop :=
  r.shown = listing names ++ r.session.redraw

namespace Session

/-- What a stroke means for the count in the session that it meets. -/
def role (s : Session) (stroke : Stroke) : TabRole :=
  if stroke.key = .tab then
    match complete stroke.source (String.ofList s.buffer) with
    | .ok (.ambiguous _) => .ambiguous
    | .ok (.unique name) => if name.toList.length < s.limit then .reset else .idle
    | .ok .noMatch => .idle
    | .error _ => .idle
  else .reset

/-- The session after some strokes. -/
def afterStrokes (s : Session) (strokes : List Stroke) : Session :=
  strokes.foldl (fun s stroke => (s.press stroke.source stroke.key).session) s

/-- What strokes mean for the count, each in the session that it meets. -/
def roles : Session → List Stroke → List TabRole
  | _, [] => []
  | s, stroke :: strokes =>
    s.role stroke :: (s.press stroke.source stroke.key).session.roles strokes

theorem afterStrokes_append (s : Session) (before later : List Stroke) :
    s.afterStrokes (before ++ later) = (s.afterStrokes before).afterStrokes later :=
  List.foldl_append

theorem afterStrokes_concat (s : Session) (strokes : List Stroke) (stroke : Stroke) :
    s.afterStrokes (strokes ++ [stroke]) =
      ((s.afterStrokes strokes).press stroke.source stroke.key).session :=
  s.afterStrokes_append strokes [stroke]

theorem roles_append (before : List Stroke) :
    ∀ (s : Session) (later : List Stroke),
      s.roles (before ++ later) = s.roles before ++ (s.afterStrokes before).roles later := by
  induction before with
  | nil => exact fun s later => rfl
  | cons stroke before ih =>
    intro s later
    rw [List.cons_append, roles, ih, roles]
    rfl

theorem roles_concat (s : Session) (strokes : List Stroke) (stroke : Stroke) :
    s.roles (strokes ++ [stroke]) = s.roles strokes ++ [(s.afterStrokes strokes).role stroke] :=
  s.roles_append strokes [stroke]

/-! ### One stroke -/

variable {s : Session} {stroke : Stroke}

theorem role_of_ne_tab (h : stroke.key ≠ .tab) : s.role stroke = .reset := by
  rw [role, if_neg h]

/-- Every key but Tab starts the count again. -/
theorem tabs_press_of_ne_tab (source : CandidateSource) {key : Key} (h : key ≠ .tab) :
    (s.press source key).session.tabs = 0 := by
  have hcount : (s.countTab key).tabs = 0 := by rw [countTab, if_neg h]
  unfold press
  cases key with
  | tab => exact absurd rfl h
  | _ =>
    simp only [insert, erase, submit]
    repeat' split
    all_goals exact hcount

/-- The Tab key is answered by a look at the candidates, and the row is written again. -/
theorem press_tab (source : CandidateSource) :
    s.press source .tab =
      let looked := s.applyCompletion (complete source (String.ofList s.buffer))
      ⟨looked.1, looked.2 ++ looked.1.redraw, .continue⟩ := rfl

/-- **What one stroke does to the count and to the line.** -/
theorem press_role (s : Session) (stroke : Stroke) :
    let after := (s.press stroke.source stroke.key).session
    match s.role stroke with
    | .reset => after.tabs = 0
    | .ambiguous => after.tabs = (if s.tabs = 0 then 1 else 0) ∧ after.buffer = s.buffer
    | .idle => after.tabs = s.tabs ∧ after.buffer = s.buffer := by
  intro after
  by_cases hkey : stroke.key = .tab
  · have hafter : after = (s.applyCompletion
        (complete stroke.source (String.ofList s.buffer))).1 := by
      simp only [after, hkey, press_tab]
    rw [hafter, role, if_pos hkey]
    -- the cases of the look at the candidates are those of the role
    cases complete stroke.source (String.ofList s.buffer) with
    | error e => exact ⟨rfl, rfl⟩
    | ok found =>
      cases found with
      | noMatch => exact ⟨rfl, rfl⟩
      | unique name =>
        simp only [applyCompletion, List.length_append, List.length_singleton]
        rcases Nat.lt_or_ge name.toList.length s.limit with hfit | hlong
        · rw [if_pos hfit, if_neg (by omega)]
        · rw [if_neg (by omega), if_pos (by omega)]
          exact ⟨rfl, rfl⟩
      | ambiguous names =>
        simp only [applyCompletion]
        split <;> exact ⟨rfl, rfl⟩
  · rw [role_of_ne_tab hkey]
    exact tabs_press_of_ne_tab stroke.source hkey

/-! ### Lists -/

/-- A list of candidates is shown by several characters, the first of which is a line feed. -/
theorem listing_append_ne (names : List String) (redraw shown : List Char)
    (h : shown.length ≤ 1 ∨ shown.head? ≠ some '\n') : shown ≠ listing names ++ redraw := by
  rintro rfl
  rcases h with h | h
  · simp only [listing, List.length_append, List.length_cons] at h
    omega
  · exact h rfl

/-- No key but Tab shows a list. -/
theorem not_lists_of_ne_tab (source : CandidateSource) {key : Key} (h : key ≠ .tab)
    (names : List String) : ¬(s.press source key).Lists names := by
  refine listing_append_ne names _ _ ?_
  unfold press
  cases key with
  | tab => exact absurd rfl h
  | char c =>
    simp only [insert]
    split
    · exact .inl (Nat.le_refl 1)
    · exact .inl (Nat.zero_le 1)
  | backspace =>
    simp only [erase]
    split
    · exact .inl (Nat.zero_le 1)
    · exact .inr (by simp [eraseShown])
  | enter => exact .inl (Nat.le_refl 1)
  | ctrlC => exact .inr (by simp)
  | ctrlD =>
    simp only
    split
    · exact .inl (Nat.le_refl 1)
    · exact .inl (Nat.zero_le 1)
  | eof =>
    simp only
    split
    · exact .inl (Nat.le_refl 1)
    · exact .inl (Nat.le_refl 1)
  | unknown => exact .inl (Nat.zero_le 1)

/-- The answer to the Tab key shows a list exactly if that is what stands before the row. -/
theorem lists_press_tab_iff (source : CandidateSource) (names : List String) :
    (s.press source .tab).Lists names ↔
      (s.applyCompletion (complete source (String.ofList s.buffer))).2 = listing names := by
  rw [press_tab]
  exact List.append_left_inj _

/-- What is shown for an error ends with the bell and a list with a line feed. -/
theorem applyCompletion_error_ne_listing (s : Session) (e : UnlistedDirectory)
    (names : List String) : (s.applyCompletion (.error e)).2 ≠ listing names := by
  intro h
  have hshown : (s.applyCompletion (.error e)).2 =
      '\n' :: (messagePrefix ++ e.text).toList ++ ['\n'] ++ [bell] := by simp [applyCompletion]
  rw [hshown, listing] at h
  have hlast := (List.append_inj' h rfl).2
  exact absurd hlast (by decide)

/-- **Candidates are listed exactly when several of them are met and the count is not zero.** -/
theorem exists_lists_iff :
    (∃ names, (s.press stroke.source stroke.key).Lists names) ↔
      s.role stroke = .ambiguous ∧ s.tabs ≠ 0 := by
  by_cases hkey : stroke.key = .tab
  · rw [hkey, role, if_pos hkey]
    simp only [lists_press_tab_iff]
    -- a list is the only thing that is shown as a list
    have hshort : ∀ {shown : List Char}, shown.length ≤ 1 → ∀ names, shown ≠ listing names :=
      fun h names hlisting => listing_append_ne names [] _ (.inl h) (by simpa using hlisting)
    cases complete stroke.source (String.ofList s.buffer) with
    | error e => simp [applyCompletion_error_ne_listing]
    | ok found =>
      cases found with
      | noMatch =>
        have hbell := hshort (Nat.le_refl [bell].length)
        simp [applyCompletion, hbell]
      | unique name =>
        have hrole : ∀ P : Prop, ((if name.toList.length < s.limit then TabRole.reset else .idle) =
            .ambiguous ∧ P) ↔ False := by
          intro P
          split <;> simp
        simp only [hrole, iff_false, not_exists, applyCompletion]
        split
        · exact hshort (Nat.le_refl 1)
        · exact hshort (Nat.zero_le 1)
      | ambiguous names =>
        simp only [applyCompletion, true_and]
        split
        · next hzero =>
          have hbell := hshort (Nat.le_refl [bell].length)
          simp [hzero, hbell]
        · next hone => exact ⟨fun _ => hone, fun _ => ⟨names, rfl⟩⟩
  · rw [role_of_ne_tab hkey]
    simp [not_lists_of_ne_tab stroke.source hkey]

/-- The list that is shown is that of the candidates. -/
theorem lists_of_ambiguous (hrole : s.role stroke = .ambiguous) (htabs : s.tabs ≠ 0) :
    ∃ names, complete stroke.source (String.ofList s.buffer) = .ok (.ambiguous names) ∧
      (s.press stroke.source stroke.key).Lists names := by
  unfold role at hrole
  split at hrole
  · next hkey =>
    split at hrole
    · next names hnames =>
      refine ⟨names, hnames, ?_⟩
      rw [hkey, lists_press_tab_iff, hnames, applyCompletion, if_neg htabs]
      rfl
    · split at hrole <;> cases hrole
    · cases hrole
    · cases hrole
  · cases hrole

/-! ### Histories -/

/-- Whatever keys are pressed, the prompt and the limit stay and the line is within the limit. -/
theorem afterStrokes_frame (hs : s.buffer.length ≤ s.limit) (strokes : List Stroke) :
    (s.afterStrokes strokes).prompt = s.prompt ∧ (s.afterStrokes strokes).limit = s.limit ∧
      (s.afterStrokes strokes).buffer.length ≤ s.limit := by
  induction strokes using List.reverseRecOn with
  | nil => exact ⟨rfl, rfl, hs⟩
  | append_singleton strokes stroke ih =>
    obtain ⟨hprompt, hlimit, hbuffer⟩ := ih
    rw [afterStrokes_concat]
    obtain ⟨hprompt', hlimit'⟩ :=
      press_frame (s.afterStrokes strokes) stroke.source stroke.key
    have hbuffer' :=
      length_buffer_press_le (s := s.afterStrokes strokes) (hlimit ▸ hbuffer) stroke.source
        stroke.key
    exact ⟨hprompt'.trans hprompt, hlimit'.trans hlimit, hlimit ▸ hbuffer'⟩

/-- **The session remembers whether the count is odd.** -/
theorem tabs_afterStrokes (htabs : s.tabs = 0) (strokes : List Stroke) :
    (s.afterStrokes strokes).tabs = streak (s.roles strokes) % 2 := by
  induction strokes using List.reverseRecOn with
  | nil => exact htabs
  | append_singleton strokes stroke ih =>
    have hpress := press_role (s.afterStrokes strokes) stroke
    rw [afterStrokes_concat, roles_concat]
    cases hrole : (s.afterStrokes strokes).role stroke with
    | reset =>
      rw [hrole] at hpress
      rw [hpress, streak_reset]
    | ambiguous =>
      rw [hrole] at hpress
      rw [hpress.1, ih, streak_ambiguous]
      split <;> omega
    | idle =>
      rw [hrole] at hpress
      rw [hpress.1, ih, streak_idle]

/-- A stroke of a history that met several candidates, with strokes behind it that neither met
several candidates again nor started the count again. -/
structure EarlierTab (start : Session) (strokes before : List Stroke) (earlier : Stroke)
    (between : List Stroke) : Prop where
  eq : strokes = before ++ earlier :: between
  ambiguous : (start.afterStrokes before).role earlier = .ambiguous
  idle : ∀ role ∈ (start.afterStrokes (before ++ [earlier])).roles between, role = .idle

/-- A stroke that is idle for the count does not hide the earlier one. -/
theorem EarlierTab.concat {start : Session} {strokes before between : List Stroke}
    {earlier : Stroke} (h : EarlierTab start strokes before earlier between)
    (hrole : (start.afterStrokes strokes).role stroke = .idle) :
    EarlierTab start (strokes ++ [stroke]) before earlier (between ++ [stroke]) := by
  have hstrokes : before ++ [earlier] ++ between = strokes := by
    rw [h.eq, List.append_assoc, List.singleton_append]
  refine ⟨by simp [h.eq], h.ambiguous, fun role hmem => ?_⟩
  rw [roles_concat, ← afterStrokes_append, hstrokes, hrole] at hmem
  rcases List.mem_append.1 hmem with hold | hnew
  · exact h.idle role hold
  · exact List.mem_singleton.1 hnew

/-- **Where the count is not zero, several candidates were met before** since the last reset, and
the line has not changed since. -/
theorem exists_earlierTab {strokes : List Stroke} (h : streak (s.roles strokes) ≠ 0) :
    ∃ before earlier between, EarlierTab s strokes before earlier between ∧
      (s.afterStrokes before).buffer = (s.afterStrokes strokes).buffer := by
  induction strokes using List.reverseRecOn with
  | nil => exact absurd rfl h
  | append_singleton strokes stroke ih =>
    have hpress := press_role (s.afterStrokes strokes) stroke
    rw [roles_concat] at h
    rw [afterStrokes_concat]
    cases hrole : (s.afterStrokes strokes).role stroke with
    | reset =>
      rw [hrole, streak_reset] at h
      exact absurd rfl h
    | ambiguous =>
      -- the last stroke itself is the earlier one
      rw [hrole] at hpress
      exact ⟨strokes, stroke, [], ⟨rfl, hrole, fun _ hmem => absurd hmem List.not_mem_nil⟩,
        hpress.2.symm⟩
    | idle =>
      rw [hrole, streak_idle] at h
      rw [hrole] at hpress
      obtain ⟨before, earlier, between, hearlier, hbuffer⟩ := ih h
      exact ⟨before, earlier, between ++ [stroke], hearlier.concat hrole,
        hbuffer.trans hpress.2.symm⟩

/-- **The line, the count and the lists over every history.**  Whatever keys were pressed with
whatever candidates, and whatever stroke is next: the line is within the limit, and so is every line
that is submitted; the session remembers whether the count is odd; the stroke lists candidates
exactly when it meets several of them and the count is odd, and then they are those candidates, the
line stays, and it is the line that the earlier stroke of the streak met. -/
theorem tab_history (prompt : List Char) (limit : Nat) (strokes : List Stroke) (stroke : Stroke) :
    let start : Session := { prompt, limit }
    let s := start.afterStrokes strokes
    let count := streak (start.roles strokes)
    let r := s.press stroke.source stroke.key
    (s.buffer.length ≤ limit ∧ ∀ line, r.step = .line line → line.length ≤ limit) ∧
      (s.tabs = count % 2 ∧ (s.tabs = 0 ∨ s.tabs = 1)) ∧
      ((∃ names, r.Lists names) ↔ s.role stroke = .ambiguous ∧ count % 2 = 1) ∧
      (s.role stroke = .ambiguous → count % 2 = 1 →
        (∃ names, complete stroke.source (String.ofList s.buffer) = .ok (.ambiguous names) ∧
          r.Lists names) ∧
        r.session.buffer = s.buffer ∧
        ∃ before earlier between, EarlierTab start strokes before earlier between ∧
          (start.afterStrokes before).buffer = s.buffer) := by
  intro start s count r
  have hframe := start.afterStrokes_frame (Nat.zero_le limit) strokes
  have htabs : s.tabs = count % 2 := tabs_afterStrokes rfl strokes
  have hodd : s.tabs ≠ 0 ↔ count % 2 = 1 := by
    rw [htabs]
    omega
  refine ⟨⟨hframe.2.2, fun line hline => ?_⟩, ⟨htabs, htabs ▸ Nat.mod_two_eq_zero_or_one count⟩,
    ?_, fun hrole hcount => ⟨?_, ?_, ?_⟩⟩
  · rw [(press_eq_of_line hline).2]
    exact hframe.2.2
  · rw [exists_lists_iff, hodd]
  · exact lists_of_ambiguous hrole (hodd.2 hcount)
  · have hpress := press_role s stroke
    rw [hrole] at hpress
    exact hpress.2
  · exact exists_earlierTab (by omega)

/-- A source with two names for every text. -/
private def twoAnswers : CandidateSource := fun _ => .ok ["exa", "exb"]

/-- A source that cannot be asked. -/
private def noAnswer : CandidateSource := fun _ => .error ⟨"/nope", .custom "gone"⟩

/-- A character, several candidates, and then none because they cannot be looked up. -/
private def interruptedTabs : List Stroke :=
  [⟨.char 'e', noAnswer⟩, ⟨.tab, twoAnswers⟩, ⟨.tab, noAnswer⟩]

/-- When there are several candidates again they are listed, and the line is the one of the first
time. -/
theorem tab_history_interrupted :
    let start : Session := { prompt := ['$', ' '], limit := 20 }
    let s := start.afterStrokes interruptedTabs
    let r := s.press twoAnswers .tab
    s.role ⟨.tab, twoAnswers⟩ = .ambiguous ∧ streak (start.roles interruptedTabs) % 2 = 1 ∧
      (∃ names, complete twoAnswers (String.ofList s.buffer) = .ok (.ambiguous names) ∧
        r.Lists names) ∧
      r.session.buffer = s.buffer ∧
      ∃ before earlier between, EarlierTab start interruptedTabs before earlier between ∧
        (start.afterStrokes before).buffer = s.buffer := by
  refine ⟨by decide +kernel, by decide +kernel, ?_⟩
  apply (tab_history ['$', ' '] 20 interruptedTabs ⟨.tab, twoAnswers⟩).2.2.2
  · decide +kernel
  · decide +kernel

end Session

end LineShell
