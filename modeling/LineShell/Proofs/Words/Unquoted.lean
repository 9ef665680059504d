import LineShell.Proofs.Words.Quoted

/-!
# Words that stand for themselves

A word that is written without quotes and backslashes stands for itself, if there are no blanks in
it.  There is no other way: every unit of a line but an ordinary character is longer than what it
stands for, so a word with one of them in it is never read back as it is written, not even with a
blank behind it that could make up for the loss.

## Main definitions

* `unitsText` — what units stand for, all of them together.

## Main results

* `LineUnit.length_text_lt` — a unit that is no ordinary character is longer than its text.
* `ordinary_of_unitsText_eq` — units that stand for their own spelling, but for a blank at its end.
* `splitWords_concat_blank_iff` — **which words stand for themselves.**
-/

namespace LineShell

/-! ### Lengths -/

/-- Between double quotes, a text is no shorter than what it stands for. -/
theorem DoubleQuoted.length_le {text content : List Char} (h : DoubleQuoted text content) :
    content.length ≤ text.length := by
  induction h with
  | nil => exact Nat.le_refl 0
  | escaped hc h ih =>
    simp only [List.length_cons]
    omega
  | backslash hc h ih =>
    simp only [List.length_cons] at ih ⊢
    omega
  | other hb hq h ih =>
    simp only [List.length_cons]
    omega

/-- The characters that a unit stands for; none if it is a blank. -/
def LineUnit.text (u : LineUnit) : List Char :=
  u.content?.getD []

/-- The characters that units stand for. -/
def unitsText (units : List LineUnit) : List Char :=
  units.flatMap LineUnit.text

/-- A unit that is no ordinary character is longer than what it stands for. -/
theorem LineUnit.length_text_lt {u : LineUnit} (h : u.role ≠ .ordinary) :
    u.text.length < u.spelling.length := by
  cases u with
  | blank c hc => exact Nat.zero_lt_one
  | ordinary c hc => exact absurd rfl h
  | escaped c => exact Nat.one_lt_two
  | single text hquote =>
    simp only [LineUnit.text, content?, Option.getD_some, spelling, List.length_append,
      List.length_cons]
    omega
  | double text content hquoted =>
    have := hquoted.length_le
    simp only [LineUnit.text, content?, Option.getD_some, spelling, List.length_append,
      List.length_cons]
    omega

/-- An ordinary character is all that it stands for. -/
theorem LineUnit.eq_singleton_of_role {u : LineUnit} (h : u.role = .ordinary) :
    ∃ c, charRole c = .ordinary ∧ u.spelling = [c] ∧ u.text = [c] := by
  cases u with
  | ordinary c hc => exact ⟨c, hc, rfl, rfl⟩
  | _ => cases h

/-- Units are no shorter than what they stand for, and as long only if they are all ordinary
characters. -/
theorem length_unitsText_le (units : List LineUnit) :
    (unitsText units).length ≤ (spellUnits units).length ∧
      ((spellUnits units).length ≤ (unitsText units).length →
        unitsText units = spellUnits units ∧ ∀ c ∈ spellUnits units, charRole c = .ordinary) := by
  induction units with
  | nil => exact ⟨Nat.le_refl 0, fun _ => ⟨rfl, fun c hc => absurd hc List.not_mem_nil⟩⟩
  | cons u units ih =>
    obtain ⟨hle, heq⟩ := ih
    rw [spellUnits_cons, unitsText, List.flatMap_cons, ← unitsText]
    by_cases hrole : u.role = .ordinary
    · obtain ⟨c, hc, hspelling, htext⟩ := LineUnit.eq_singleton_of_role hrole
      rw [hspelling, htext, List.singleton_append, List.singleton_append, List.length_cons,
        List.length_cons]
      refine ⟨by omega, fun hlength => ?_⟩
      obtain ⟨hsame, hordinary⟩ := heq (by omega)
      exact ⟨by rw [hsame], List.forall_mem_cons.2 ⟨hc, hordinary⟩⟩
    · have hlt := LineUnit.length_text_lt hrole
      rw [List.length_append, List.length_append]
      exact ⟨by omega, fun hlength => absurd hlength (by omega)⟩

/-! ### Units that stand for their own spelling -/

/-- A character that is not ordinary cannot be moved behind ordinary ones, and become a space. -/
theorem eq_nil_of_cons_eq_concat {x : Char} {rest : List Char} (hx : charRole x ≠ .ordinary)
    (hrest : ∀ c ∈ rest, charRole c = .ordinary) (h : x :: rest = rest ++ [' ']) :
    rest = [] ∧ x = ' ' := by
  cases rest with
  | nil => exact ⟨rfl, (List.cons.inj h).1⟩
  | cons d rest =>
    obtain ⟨rfl, -⟩ := List.cons.inj h
    exact absurd (hrest x List.mem_cons_self) hx

/-- Units that stand for their own spelling, but for a space at its end, are ordinary characters in
front of that space. -/
theorem ordinary_of_unitsText_eq {units : List LineUnit} {tail : List Char}
    (h : spellUnits units ++ tail = unitsText units ++ [' ']) :
    ∀ c ∈ unitsText units, charRole c = .ordinary := by
  induction units with
  | nil => exact fun c hc => absurd hc List.not_mem_nil
  | cons u units ih =>
    rw [spellUnits_cons, unitsText, List.flatMap_cons, ← unitsText] at h
    rw [unitsText, List.flatMap_cons, ← unitsText]
    by_cases hrole : u.role = .ordinary
    · obtain ⟨c, hc, hspelling, htext⟩ := LineUnit.eq_singleton_of_role hrole
      rw [hspelling, htext] at h
      rw [htext]
      exact List.forall_mem_cons.2 ⟨hc, ih (List.cons.inj h).2⟩
    · -- the unit makes up for the space, so that all behind it stands for its own spelling
      have hlt := LineUnit.length_text_lt hrole
      have hlength := congrArg List.length h
      simp only [List.length_append, List.length_cons, List.length_nil] at hlength
      obtain ⟨hle, hplain⟩ := length_unitsText_le units
      obtain ⟨hsame, hrest⟩ := hplain (by omega)
      have hnil : tail = [] := List.length_eq_zero_iff.1 (by omega)
      rw [hsame, hnil, List.append_nil] at h
      rw [hsame]
      cases u with
      | blank c hc =>
        have hblank : charRole c ≠ .ordinary := by
          rw [charRole_of_isBlank hc]
          exact nofun
        rw [(eq_nil_of_cons_eq_concat hblank hrest h).1]
        exact fun c hc => absurd hc List.not_mem_nil
      | ordinary c hc => exact absurd rfl hrole
      | escaped c =>
        obtain ⟨rfl, h⟩ := List.cons.inj h
        have hspace := (eq_nil_of_cons_eq_concat (by decide) hrest h).2
        exact absurd hspace (by decide)
      | single text hquote =>
        simp only [LineUnit.spelling, LineUnit.text, LineUnit.content?, Option.getD_some,
          List.length_append, List.length_cons, List.length_nil] at hlength
        omega
      | double text content hquoted =>
        have := hquoted.length_le
        simp only [LineUnit.spelling, LineUnit.text, LineUnit.content?, Option.getD_some,
          List.length_append, List.length_cons, List.length_nil] at hlength
        omega

/-! ### Words -/

/-- The words of a line, one behind the other, are what its units stand for. -/
theorem flatten_wordsFrom (contents : List (Option (List Char))) : ∀ word : List Char,
    (wordsFrom word contents).flatten = word.reverse ++ contents.flatMap (·.getD []) := by
  have hend : ∀ word later, (endWord word later).flatten = word.reverse ++ later.flatten := by
    intro word later
    cases word <;> simp [endWord]
  induction contents with
  | nil => exact fun word => hend word []
  | cons content? contents ih =>
    intro word
    cases content? with
    | none => rw [wordsFrom, hend, ih]; rfl
    | some content => rw [wordsFrom, ih]; simp

theorem Segmentation.flatten_words (s : Segmentation) : s.words.flatten = unitsText s.units := by
  have htext : (s.units.flatMap fun u => u.content?.getD []) = unitsText s.units := rfl
  rw [words, ← wordsFrom_nil, flatten_wordsFrom, contents, List.flatMap_append, List.flatMap_map,
    htext]
  cases s.dangling <;> simp

/-- **A word with a space behind it is read as that word exactly if it has no blanks, quotes and
backslashes.** -/
theorem splitWords_concat_blank_iff {word : String} (hne : word ≠ "") :
    splitWords (word.toList ++ [' ']) = .ok [word] ↔
      ∀ c ∈ word.toList, isBlank c = false ∧ c ≠ '\'' ∧ c ≠ '"' ∧ c ≠ '\\' := by
  constructor
  · intro h
    rcases segmentation_or_openRun (word.toList ++ [' ']) with
      ⟨s, hs⟩ | ⟨units, quote, text, heq, hopen⟩
    · rw [← hs, splitWords_spelling, Except.ok.injEq] at h
      have hwords : s.words = [word.toList] := by
        have hlists := congrArg (List.map String.toList) h
        simpa [List.map_map, Function.comp_def] using hlists
      have htext := s.flatten_words
      rw [hwords, List.flatten_singleton] at htext
      rw [Segmentation.spelling, htext] at hs
      have hordinary := ordinary_of_unitsText_eq hs
      rw [← htext] at hordinary
      intro c hc
      have hspec := charRole_spec c
      rwa [hordinary c hc] at hspec
    · rw [heq, splitWords_of_openRun units hopen] at h
      cases h
  · intro hplain
    have hnonempty : word.toList ≠ [] := by simpa using hne
    have hword := splitWords_separated ⟨[], by simp⟩
      (QuotedWord.plain word.toList hnonempty hplain) [] ⟨[' '], List.all_eq_true.1 rfl⟩
    simpa [QuotedWord.word] using hword

end LineShell
