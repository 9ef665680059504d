import LineShell.Words

/-!
# The units of a line

A line reads from left to right as a sequence of units: blanks, ordinary characters, escaped
characters and quoted runs, perhaps with a backslash at the very end that escapes nothing.  The
words of a line are what the maximal runs of units between blanks stand for.  Nothing here follows
the scan of a line.

## Main definitions

* `DoubleQuoted` — what a text stands for between double quotes.
* `LineUnit` — the units, their spelling and what they stand for.
* `Segmentation` — a whole line as units, its spelling and its words.
* `OpenRun` — a quote with text behind it in which the run is never closed.

## Main results

* `Segmentation.eq_of_spelling_eq` — a line has at most one segmentation.
* `segmentation_or_openRun` — a line has a segmentation or ends in an open run.
-/

namespace LineShell

/-! ### Text between double quotes -/

/-- Between double quotes, the first text stands for the second.  A backslash escapes a backslash
or a double quote and stands for itself in front of any other character. -/
inductive DoubleQuoted : List Char → List Char → Prop
  | nil : DoubleQuoted [] []
  | escaped {c : Char} {text content : List Char} :
      c = '\\' ∨ c = '"' → DoubleQuoted text content →
        DoubleQuoted ('\\' :: c :: text) (c :: content)
  | backslash {c : Char} {text content : List Char} :
      ¬(c = '\\' ∨ c = '"') → DoubleQuoted (c :: text) content →
        DoubleQuoted ('\\' :: c :: text) ('\\' :: content)
  | other {c : Char} {text content : List Char} :
      c ≠ '\\' → c ≠ '"' → DoubleQuoted text content →
        DoubleQuoted (c :: text) (c :: content)

/-- The text of a run between double quotes ends in one place only, and stands for one content. -/
theorem DoubleQuoted.append_inj {text content : List Char} (h : DoubleQuoted text content) :
    ∀ {text' content' rest rest' : List Char}, DoubleQuoted text' content' →
      text ++ '"' :: rest = text' ++ '"' :: rest' →
        text = text' ∧ content = content' ∧ rest = rest' := by
  induction h with
  | nil =>
    intro text' content' rest rest' h' heq
    cases h' with
    | nil => simpa using heq
    | escaped hc h' => simp at heq
    | backslash hc h' => simp at heq
    | other hb hq h' =>
      simp only [List.nil_append, List.cons_append, List.cons.injEq] at heq
      exact absurd heq.1.symm hq
  | @escaped c text content hc h ih =>
    intro text' content' rest rest' h' heq
    cases h' with
    | nil => simp at heq
    | escaped hc' h' =>
      simp only [List.cons_append, List.cons.injEq, true_and] at heq
      obtain ⟨rfl, heq⟩ := heq
      obtain ⟨rfl, rfl, rfl⟩ := ih h' heq
      exact ⟨rfl, rfl, rfl⟩
    | backslash hc' h' =>
      simp only [List.cons_append, List.cons.injEq, true_and] at heq
      exact absurd (heq.1 ▸ hc) hc'
    | other hb hq h' =>
      simp only [List.cons_append, List.cons.injEq] at heq
      exact absurd heq.1.symm hb
  | @backslash c text content hc h ih =>
    intro text' content' rest rest' h' heq
    cases h' with
    | nil => simp at heq
    | escaped hc' h' =>
      simp only [List.cons_append, List.cons.injEq, true_and] at heq
      exact absurd (heq.1 ▸ hc') hc
    | backslash hc' h' =>
      simp only [List.cons_append, List.cons.injEq, true_and] at heq
      obtain ⟨htext, rfl, rfl⟩ := ih h' (by simpa using heq)
      exact ⟨by rw [htext], rfl, rfl⟩
    | other hb hq h' =>
      simp only [List.cons_append, List.cons.injEq] at heq
      exact absurd heq.1.symm hb
  | @other c text content hb hq h ih =>
    intro text' content' rest rest' h' heq
    cases h' with
    | nil =>
      simp only [List.nil_append, List.cons_append, List.cons.injEq] at heq
      exact absurd heq.1 hq
    | escaped hc' h' =>
      simp only [List.cons_append, List.cons.injEq] at heq
      exact absurd heq.1 hb
    | backslash hc' h' =>
      simp only [List.cons_append, List.cons.injEq] at heq
      exact absurd heq.1 hb
    | other hb' hq' h' =>
      simp only [List.cons_append, List.cons.injEq] at heq
      obtain ⟨rfl, heq⟩ := heq
      obtain ⟨rfl, rfl, rfl⟩ := ih h' heq
      exact ⟨rfl, rfl, rfl⟩

/-! ### Units -/

/-- What a character outside quotes does there. -/
inductive CharRole
  | blank
  | ordinary
  | backslash
  | singleQuote
  | doubleQuote
  deriving DecidableEq

/-- The role of a character outside quotes. -/
def charRole (c : Char) : CharRole :=
  if c = '\\' then .backslash
  else if c = '\'' then .singleQuote
  else if c = '"' then .doubleQuote
  else if isBlank c then .blank
  else .ordinary

theorem charRole_of_isBlank {c : Char} (h : isBlank c = true) : charRole c = .blank := by
  have hb : c ≠ '\\' := by rintro rfl; exact absurd h (by decide)
  have hs : c ≠ '\'' := by rintro rfl; exact absurd h (by decide)
  have hd : c ≠ '"' := by rintro rfl; exact absurd h (by decide)
  rw [charRole, if_neg hb, if_neg hs, if_neg hd, if_pos h]

/-- What the role of a character says about it. -/
theorem charRole_spec (c : Char) :
    match charRole c with
    | .blank => isBlank c = true
    | .ordinary => isBlank c = false ∧ c ≠ '\'' ∧ c ≠ '"' ∧ c ≠ '\\'
    | .backslash => c = '\\'
    | .singleQuote => c = '\''
    | .doubleQuote => c = '"' := by
  unfold charRole
  by_cases hb : c = '\\'
  · rw [if_pos hb]; exact hb
  · rw [if_neg hb]
    by_cases hs : c = '\''
    · rw [if_pos hs]; exact hs
    · rw [if_neg hs]
      by_cases hd : c = '"'
      · rw [if_pos hd]; exact hd
      · rw [if_neg hd]
        by_cases h : isBlank c = true
        · rw [if_pos h]; exact h
        · rw [if_neg h]; exact ⟨Bool.eq_false_iff.2 h, hs, hd, hb⟩

/-- A unit of a line. -/
inductive LineUnit
  | blank (c : Char) (hc : isBlank c = true)
  /-- A character that is no blank, quote or backslash. -/
  | ordinary (c : Char) (hc : charRole c = .ordinary)
  /-- A backslash and the character behind it, whatever that is. -/
  | escaped (c : Char)
  | single (text : List Char) (hquote : '\'' ∉ text)
  | double (text content : List Char) (hquoted : DoubleQuoted text content)

namespace LineUnit

/-- How a unit is written. -/
def spelling : LineUnit → List Char
  | blank c _ => [c]
  | ordinary c _ => [c]
  | escaped c => ['\\', c]
  | single text _ => '\'' :: text ++ ['\'']
  | double text _ _ => '"' :: text ++ ['"']

/-- What a unit stands for.  A blank stands for nothing and ends a word. -/
def content? : LineUnit → Option (List Char)
  | blank _ _ => none
  | ordinary c _ => some [c]
  | escaped c => some [c]
  | single text _ => some text
  | double _ content _ => some content

end LineUnit

/-- A text ends at the first place where a character that it does not have stands. -/
private theorem append_cons_inj {q : Char} {s t rest rest' : List Char} (hs : q ∉ s) (ht : q ∉ t)
    (h : s ++ q :: rest = t ++ q :: rest') : s = t ∧ rest = rest' := by
  induction s generalizing t with
  | nil =>
    cases t with
    | nil => simpa using h
    | cons d t =>
      simp only [List.nil_append, List.cons_append, List.cons.injEq] at h
      exact absurd (h.1 ▸ List.mem_cons_self) ht
  | cons c s ih =>
    cases t with
    | nil =>
      simp only [List.nil_append, List.cons_append, List.cons.injEq] at h
      exact absurd (h.1 ▸ List.mem_cons_self) hs
    | cons d t =>
      simp only [List.cons_append, List.cons.injEq] at h
      obtain ⟨hst, hrest⟩ :=
        ih (List.not_mem_of_not_mem_cons hs) (List.not_mem_of_not_mem_cons ht) h.2
      exact ⟨by rw [h.1, hst], hrest⟩

namespace LineUnit

/-- The role of the character with which a unit starts. -/
def role : LineUnit → CharRole
  | blank _ _ => .blank
  | ordinary _ _ => .ordinary
  | escaped _ => .backslash
  | single _ _ => .singleQuote
  | double _ _ _ => .doubleQuote

/-- A unit starts with a character of its role. -/
theorem exists_spelling_eq_cons (u : LineUnit) :
    ∃ c text, u.spelling = c :: text ∧ charRole c = u.role := by
  cases u with
  | blank c hc => exact ⟨c, [], rfl, charRole_of_isBlank hc⟩
  | ordinary c hc => exact ⟨c, [], rfl, hc⟩
  | escaped c => exact ⟨'\\', [c], rfl, rfl⟩
  | single text hquote => exact ⟨'\'', text ++ ['\''], rfl, rfl⟩
  | double text content hquoted => exact ⟨'"', text ++ ['"'], rfl, rfl⟩

/-- No line starts with two different units. -/
theorem append_inj {u v : LineUnit} {rest rest' : List Char}
    (h : u.spelling ++ rest = v.spelling ++ rest') : u = v ∧ rest = rest' := by
  have hrole : u.role = v.role := by
    obtain ⟨c, text, hu, hc⟩ := u.exists_spelling_eq_cons
    obtain ⟨d, text', hv, hd⟩ := v.exists_spelling_eq_cons
    rw [hu, hv, List.cons_append, List.cons_append, List.cons.injEq] at h
    rw [← hc, ← hd, h.1]
  -- the role leaves five pairs, in each of which the rest of the spelling decides
  match u, v, hrole with
  | blank _ _, blank _ _, _ => simpa [spelling] using h
  | ordinary _ _, ordinary _ _, _ => simpa [spelling] using h
  | escaped _, escaped _, _ => simpa [spelling] using h
  | single text hquote, single text' hquote', _ =>
    obtain ⟨rfl, rfl⟩ := append_cons_inj hquote hquote' (by simpa [spelling] using h)
    exact ⟨rfl, rfl⟩
  | double text content hquoted, double text' content' hquoted', _ =>
    obtain ⟨rfl, rfl, rfl⟩ := hquoted.append_inj hquoted' (by simpa [spelling] using h)
    exact ⟨rfl, rfl⟩

end LineUnit

/-! ### Lines as units -/

/-- A line as a sequence of units. -/
structure Segmentation where
  units : List LineUnit
  /-- Whether a backslash with no character behind it ends the line.  It is a unit that stands for
  no characters. -/
  dangling : Bool

/-- How a sequence of units is written. -/
def spellUnits (units : List LineUnit) : List Char :=
  units.flatMap LineUnit.spelling

@[simp] theorem spellUnits_nil : spellUnits [] = [] := rfl

@[simp] theorem spellUnits_cons (u : LineUnit) (units : List LineUnit) :
    spellUnits (u :: units) = u.spelling ++ spellUnits units := rfl

/-- The words of a line whose units stand for these contents, where `none` is a blank: what each
maximal run between blanks stands for, unless that is nothing. -/
def wordsOf (contents : List (Option (List Char))) : List (List Char) :=
  ((contents.splitOn none).map fun run => run.flatMap (·.getD [])).filter (!·.isEmpty)

namespace Segmentation

/-- How the line is written. -/
def spelling (s : Segmentation) : List Char :=
  spellUnits s.units ++ if s.dangling then ['\\'] else []

/-- What the units of the line stand for, one by one. -/
def contents (s : Segmentation) : List (Option (List Char)) :=
  s.units.map LineUnit.content? ++ if s.dangling then [some []] else []

/-- The words of the line. -/
def words (s : Segmentation) : List (List Char) :=
  wordsOf s.contents

/-- The segmentation with a unit in front of the others. -/
def cons (u : LineUnit) (s : Segmentation) : Segmentation :=
  ⟨u :: s.units, s.dangling⟩

@[simp] theorem spelling_cons (u : LineUnit) (s : Segmentation) :
    (s.cons u).spelling = u.spelling ++ s.spelling :=
  List.append_assoc _ _ _

end Segmentation

/-- No unit is a lone backslash or nothing at all. -/
theorem LineUnit.spelling_append_ne_dangling (u : LineUnit) (rest : List Char) (dangling : Bool) :
    u.spelling ++ rest ≠ if dangling then ['\\'] else [] := by
  intro h
  obtain ⟨c, text, hu, hc⟩ := u.exists_spelling_eq_cons
  cases dangling with
  | false => simp [hu] at h
  | true =>
    rw [if_pos rfl, hu, List.cons_append, List.cons.injEq] at h
    obtain ⟨rfl, htext⟩ := h
    obtain ⟨rfl, -⟩ := List.append_eq_nil_iff.1 htext
    -- a unit that starts with a backslash has another character
    cases u with
    | escaped d => cases hu
    | _ => cases hc

/-- A line has at most one segmentation. -/
theorem Segmentation.eq_of_spelling_eq {s t : Segmentation} (h : s.spelling = t.spelling) :
    s = t := by
  obtain ⟨units, dangling⟩ := s
  obtain ⟨units', dangling'⟩ := t
  simp only [spelling] at h
  induction units generalizing units' with
  | nil =>
    cases units' with
    | nil => cases dangling <;> cases dangling' <;> simp_all
    | cons v units' =>
      rw [spellUnits_cons, List.append_assoc, spellUnits_nil, List.nil_append] at h
      exact absurd h.symm (v.spelling_append_ne_dangling _ _)
  | cons u units ih =>
    cases units' with
    | nil =>
      rw [spellUnits_cons, List.append_assoc, spellUnits_nil, List.nil_append] at h
      exact absurd h (u.spelling_append_ne_dangling _ _)
    | cons v units' =>
      rw [spellUnits_cons, spellUnits_cons, List.append_assoc, List.append_assoc] at h
      obtain ⟨rfl, hrest⟩ := LineUnit.append_inj h
      obtain ⟨rfl, rfl⟩ := Segmentation.mk.injEq .. ▸ ih units' hrest
      rfl

/-! ### Lines that end in quotes -/

/-- Behind this quote comes this text, in which the run that the quote opens is never closed. -/
inductive OpenRun : Char → List Char → Prop
  | single {text : List Char} : '\'' ∉ text → OpenRun '\'' text
  | double {text : List Char} :
      (∀ closed content rest, DoubleQuoted closed content → text ≠ closed ++ '"' :: rest) →
        OpenRun '"' text

/-- A line that is not empty starts with a unit, is a lone backslash, or is an open run. -/
theorem exists_unit_or_openRun (c : Char) (line : List Char) :
    (∃ (u : LineUnit) (rest : List Char), c :: line = u.spelling ++ rest) ∨
      c :: line = ['\\'] ∨ OpenRun c line := by
  have hspec := charRole_spec c
  cases hc : charRole c with
  | blank =>
    rw [hc] at hspec
    exact .inl ⟨.blank c hspec, line, rfl⟩
  | ordinary => exact .inl ⟨.ordinary c hc, line, rfl⟩
  | backslash =>
    rw [hc] at hspec
    obtain rfl : c = '\\' := hspec
    cases line with
    | nil => exact .inr (.inl rfl)
    | cons d line => exact .inl ⟨.escaped d, line, rfl⟩
  | singleQuote =>
    rw [hc] at hspec
    obtain rfl : c = '\'' := hspec
    by_cases hquote : '\'' ∈ line
    · obtain ⟨text, rest, rfl, htext⟩ := List.eq_append_cons_of_mem hquote
      exact .inl ⟨.single text htext, rest, by simp [LineUnit.spelling]⟩
    · exact .inr (.inr (.single hquote))
  | doubleQuote =>
    rw [hc] at hspec
    obtain rfl : c = '"' := hspec
    by_cases hclosed : ∃ closed content rest, DoubleQuoted closed content ∧
        line = closed ++ '"' :: rest
    · obtain ⟨closed, content, rest, hquoted, rfl⟩ := hclosed
      exact .inl ⟨.double closed content hquoted, rest, by simp [LineUnit.spelling]⟩
    · exact .inr (.inr (.double fun closed content rest hquoted heq =>
        hclosed ⟨closed, content, rest, hquoted, heq⟩))

/-- A line has a segmentation or ends in an open run. -/
theorem segmentation_or_openRun (line : List Char) :
    (∃ s : Segmentation, s.spelling = line) ∨
      ∃ units quote text, line = spellUnits units ++ quote :: text ∧ OpenRun quote text := by
  -- Strong induction on the length, since a unit may take any number of characters.
  induction hn : line.length using Nat.strongRecOn generalizing line with
  | ind n ih =>
    cases line with
    | nil => exact .inl ⟨⟨[], false⟩, rfl⟩
    | cons c line =>
      rcases exists_unit_or_openRun c line with ⟨u, rest, heq⟩ | heq | hopen
      · have hlt : rest.length < n := by
          obtain ⟨d, text, hu, -⟩ := u.exists_spelling_eq_cons
          have hlen := congrArg List.length heq
          simp only [hu, List.length_cons, List.length_append] at hlen hn
          omega
        rcases ih _ hlt rest rfl with ⟨s, hs⟩ | ⟨units, quote, text, hrest, hopen⟩
        · exact .inl ⟨s.cons u, by rw [Segmentation.spelling_cons, hs, heq]⟩
        · refine .inr ⟨u :: units, quote, text, ?_, hopen⟩
          rw [heq, hrest, spellUnits_cons, List.append_assoc]
      · exact .inl ⟨⟨[], true⟩, heq.symm⟩
      · exact .inr ⟨[], c, line, rfl, hopen⟩

end LineShell
