import LineShell.Proofs.Editing.TabStreak
import LineShell.Proofs.SearchPath.Candidates

/-!
# The Tab key settles

As long as the names on offer stay the same, the Tab key takes nothing away from the line: it leaves
the line alone, or puts in the one name that goes on from it, with a space behind it.  After that
there is nothing more to complete, for a name that goes on from there would have been a second one
before; only the abbreviations, which do not ask for names, may have such a name behind them.

## Main definitions

* `Session.RestsAtTab` — the Tab key only rings the bell, however often it is pressed.

## Main results

* `complete_fixedNames_eq_unique_iff`, `complete_fixedNames_eq_noMatch_iff` — what a collection of
  names offers for a line.
* `Session.restsAtTab_of_press` — one press without effect says the same of all.
* `complete_completed` — nothing completes a completed name.
* `Session.tab_settles` — **the Tab key only adds to the line, and adds to it once.**
-/

namespace LineShell

/-! ### What is offered -/

theorem Completion.ofCandidates_eq_unique_iff {names : List String} {name : String} :
    ofCandidates names = .unique name ↔ names = [name] := by
  match names with
  | [] => simp [ofCandidates]
  | [_] => simp [ofCandidates]
  | _ :: _ :: _ => simp [ofCandidates]

theorem Completion.ofCandidates_eq_noMatch_iff {names : List String} :
    ofCandidates names = .noMatch ↔ names = [] := by
  match names with
  | [] => simp [ofCandidates]
  | [_] => simp [ofCandidates]
  | _ :: _ :: _ => simp [ofCandidates]

section Fixed

variable {names : List String} {text name : String}

/-- A collection of names offers those that begin with the text. -/
theorem complete_fixedNames (htext : abbreviations.lookup text = none) :
    complete (fixedNames names) text =
      .ok (.ofCandidates (sortNames (names.filter (text.toList.isPrefixOf ·.toList)))) := by
  rw [complete, htext]
  rfl

/-- One name is offered if no other one begins with the text. -/
theorem complete_fixedNames_eq_unique_iff (htext : abbreviations.lookup text = none) :
    complete (fixedNames names) text = .ok (.unique name) ↔
      ∀ other, other ∈ names ∧ text.toList <+: other.toList ↔ other = name := by
  rw [complete_fixedNames htext, Except.ok.injEq, Completion.ofCandidates_eq_unique_iff,
    sortNames_eq_iff]
  simp only [List.pairwise_singleton, true_and, List.mem_singleton, List.mem_filter,
    List.isPrefixOf_iff_prefix]
  exact forall_congr' fun other => Iff.comm

/-- No name is offered if none begins with the text. -/
theorem complete_fixedNames_eq_noMatch_iff (htext : abbreviations.lookup text = none) :
    complete (fixedNames names) text = .ok .noMatch ↔
      ∀ other ∈ names, ¬text.toList <+: other.toList := by
  rw [complete_fixedNames htext, Except.ok.injEq, Completion.ofCandidates_eq_noMatch_iff,
    sortNames_eq_iff]
  simp

/-- An abbreviation begins the name that it stands for. -/
theorem prefix_of_lookup_abbreviations (h : abbreviations.lookup text = some name) :
    text.toList <+: name.toList := by
  have hall : ∀ entry ∈ abbreviations, entry.1.toList <+: entry.2.toList := by decide
  obtain ⟨before, after, heq, -⟩ := List.lookup_eq_some_iff.1 h
  exact hall (text, name) (heq ▸ List.mem_append_right before List.mem_cons_self)

/-- No abbreviation has a space at its end. -/
theorem lookup_abbreviations_concat (line : List Char) :
    abbreviations.lookup (String.ofList (line ++ [' '])) = none := by
  have hall : ∀ entry ∈ abbreviations, ' ' ∉ entry.1.toList := by decide
  refine List.lookup_eq_none_iff.2 fun entry hentry => bne_iff_ne.2 fun heq => hall entry hentry ?_
  rw [← heq, String.toList_ofList]
  exact List.mem_append_right line List.mem_cons_self

/-- The one name that is offered for a text begins with it. -/
theorem prefix_of_complete_eq_unique (h : complete (fixedNames names) text = .ok (.unique name)) :
    text.toList <+: name.toList := by
  cases htext : abbreviations.lookup text with
  | none => exact (((complete_fixedNames_eq_unique_iff htext).1 h name).2 rfl).2
  | some abbreviated =>
    rw [complete, htext] at h
    cases h
    exact prefix_of_lookup_abbreviations htext

/-- **Nothing completes a completed name**, if no name goes on behind an abbreviation. -/
theorem complete_completed (h : complete (fixedNames names) text = .ok (.unique name))
    (habbreviation : abbreviations.lookup text ≠ none →
      ∀ other ∈ names, ¬name.toList ++ [' '] <+: other.toList) :
    complete (fixedNames names) (String.ofList (name.toList ++ [' '])) = .ok .noMatch := by
  rw [complete_fixedNames_eq_noMatch_iff (lookup_abbreviations_concat _), String.toList_ofList]
  cases htext : abbreviations.lookup text with
  | some abbreviated => exact habbreviation (by rw [htext]; exact Option.some_ne_none _)
  | none =>
    intro other hother hprefix
    -- the other name begins with the text as well, and so is the same one
    have hunique := (complete_fixedNames_eq_unique_iff htext).1 h
    have hbegins : text.toList <+: other.toList :=
      (prefix_of_complete_eq_unique h).trans ((List.prefix_append _ _).trans hprefix)
    have hsame : other = name := (hunique other).1 ⟨hother, hbegins⟩
    have hlength := hprefix.length_le
    rw [hsame, List.length_append, List.length_singleton] at hlength
    omega

end Fixed

namespace Session

/-! ### Pressing the key again -/

variable {s : Session} {source : CandidateSource} {names : List String}

/-- However often the Tab key is pressed, it rings the bell and writes the row again, and the
session stays as it is. -/
def RestsAtTab (s : Session) (source : CandidateSource) : Prop :=
  ∀ count, s.pressAll source (List.replicate count .tab) =
    ⟨s, (List.replicate count (bell :: s.redraw)).flatten, .continue⟩

theorem pressAll_concat (s : Session) (source : CandidateSource) (keys : List Key) (key : Key) :
    s.pressAll source (keys ++ [key]) =
      let r := s.pressAll source keys
      let next := r.session.press source key
      { next with shown := r.shown ++ next.shown } := by
  rw [pressAll, List.foldl_append]
  rfl

/-- What one press leaves as it is, every further one leaves as it is. -/
theorem restsAtTab_of_press (h : s.press source .tab = ⟨s, bell :: s.redraw, .continue⟩) :
    s.RestsAtTab source := by
  intro count
  induction count with
  | zero => rfl
  | succ count ih =>
    rw [List.replicate_succ', pressAll_concat, ih]
    simp only [h]
    rw [List.replicate_succ', List.flatten_concat]

/-- Without a candidate, or with one for which there is no room, the Tab key only rings the bell. -/
theorem restsAtTab_of_complete
    (h : complete source (String.ofList s.buffer) = .ok .noMatch ∨
      ∃ name, complete source (String.ofList s.buffer) = .ok (.unique name) ∧
        s.limit < name.toList.length + 1) : s.RestsAtTab source := by
  refine restsAtTab_of_press ?_
  rw [press_tab]
  rcases h with hnone | ⟨name, hname, hroom⟩
  · rw [hnone]
    rfl
  · rw [hname]
    simp only [applyCompletion, List.length_append, List.length_singleton, if_pos hroom]
    rfl

/-- One candidate for which there is room is put in. -/
theorem press_tab_of_unique {name : String}
    (h : complete source (String.ofList s.buffer) = .ok (.unique name))
    (hroom : name.toList.length + 1 ≤ s.limit) :
    (s.press source .tab).session = { s with buffer := name.toList ++ [' '], tabs := 0 } := by
  rw [press_tab, h]
  simp only [applyCompletion, List.length_append, List.length_singleton,
    if_neg (Nat.not_lt.2 hroom)]

/-- Otherwise the Tab key leaves the line alone. -/
theorem buffer_press_tab
    (h : ¬∃ name, complete source (String.ofList s.buffer) = .ok (.unique name) ∧
      name.toList.length + 1 ≤ s.limit) : (s.press source .tab).session.buffer = s.buffer := by
  have hpress := press_role s ⟨.tab, source⟩
  cases hrole : s.role ⟨.tab, source⟩ with
  | ambiguous =>
    rw [hrole] at hpress
    exact hpress.2
  | idle =>
    rw [hrole] at hpress
    exact hpress.2
  | reset =>
    rw [role, if_pos rfl] at hrole
    split at hrole
    · cases hrole
    · next name hname =>
      split at hrole
      · next hfit => exact absurd ⟨name, hname, hfit⟩ h
      · cases hrole
    · cases hrole
    · cases hrole

/-- **The Tab key only adds to the line, and adds to it once.**  If the names on offer stay the
same, the line begins with what it was, and it is another one only if one name is offered and fits
with a space behind it.  Then it is that name and the space, the count of the key is zero, and the
key only rings the bell from then on, unless the line was an abbreviation and some name goes on
behind what it stands for.  Without a name to offer, or without room for the one, the key only rings
the bell.  The search path is such a source. -/
theorem tab_settles (names : List String) (s : Session) :
    let source := fixedNames names
    let offered := complete source (String.ofList s.buffer)
    let after := (s.press source .tab).session
    s.buffer <+: after.buffer ∧
      (after.buffer ≠ s.buffer →
        ∃ name, offered = .ok (.unique name) ∧ name.toList.length + 1 ≤ s.limit) ∧
      (∀ name, offered = .ok (.unique name) → name.toList.length + 1 ≤ s.limit →
        after.buffer = name.toList ++ [' '] ∧ after.tabs = 0 ∧
          ((abbreviations.lookup (String.ofList s.buffer) ≠ none →
              ∀ other ∈ names, ¬name.toList ++ [' '] <+: other.toList) →
            after.RestsAtTab source)) ∧
      ((offered = .ok .noMatch ∨
          ∃ name, offered = .ok (.unique name) ∧ s.limit < name.toList.length + 1) →
        s.RestsAtTab source) ∧
      ∀ (path : SearchPath) (w : World), path.candidates w "" = .ok names →
        path.candidates w = source := by
  intro source offered after
  refine ⟨?_, fun hchanged => ?_, fun name hname hroom => ?_, restsAtTab_of_complete,
    fun path w => SearchPath.candidates_eq_fixedNames⟩
  · by_cases h : ∃ name, offered = .ok (.unique name) ∧ name.toList.length + 1 ≤ s.limit
    · obtain ⟨name, hname, hroom⟩ := h
      have hprefix := prefix_of_complete_eq_unique hname
      rw [String.toList_ofList] at hprefix
      simp only [after, press_tab_of_unique hname hroom]
      exact hprefix.trans (List.prefix_append _ _)
    · exact (buffer_press_tab h).symm ▸ List.prefix_rfl
  · by_contra h
    exact hchanged (buffer_press_tab h)
  · have hafter : after = { s with buffer := name.toList ++ [' '], tabs := 0 } :=
      press_tab_of_unique hname hroom
    refine ⟨by rw [hafter], by rw [hafter], fun habbreviation => restsAtTab_of_complete (.inl ?_)⟩
    rw [hafter]
    exact complete_completed hname habbreviation

/-- The only name that goes on from the line is put in, and then the Tab key rings the bell; and the
same for an abbreviation, behind which no name goes on. -/
theorem tab_settles_onlyName :
    let source := fixedNames ["echoes", "custom_exe_1"]
    let s : Session := { prompt := ['$', ' '], limit := 20, buffer := "cust".toList, tabs := 1 }
    let s' : Session := { prompt := ['$', ' '], limit := 20, buffer := "ech".toList }
    let after := (s.press source .tab).session
    let after' := (s'.press source .tab).session
    (after.buffer = "custom_exe_1 ".toList ∧ after.tabs = 0 ∧ after.RestsAtTab source) ∧
      after'.buffer = "echo ".toList ∧ after'.tabs = 0 ∧ after'.RestsAtTab source := by
  intro source s s' after after'
  obtain ⟨-, -, hput, -⟩ := tab_settles ["echoes", "custom_exe_1"] s
  obtain ⟨-, -, hput', -⟩ := tab_settles ["echoes", "custom_exe_1"] s'
  obtain ⟨hbuffer, htabs, hrests⟩ := hput "custom_exe_1" (by decide +kernel) (by decide)
  obtain ⟨hbuffer', htabs', hrests'⟩ := hput' "echo" (by decide +kernel) (by decide)
  exact ⟨⟨hbuffer, htabs, hrests fun h => absurd (by decide) h⟩,
    hbuffer', htabs', hrests' fun _ => by decide⟩

-- Behind an abbreviation a name may go on, and the next press puts that in.
example :
    let s : Session := { prompt := ['$', ' '], limit := 20, buffer := "ech".toList }
    (s.pressAll (fixedNames ["echo x"]) [.tab, .tab]).session.buffer = "echo x ".toList := by
  decide +kernel

end Session

end LineShell
