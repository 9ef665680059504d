import LineShell.Proofs.Words.Quoted
import Mathlib.Logic.Relation

/-!
# Blanks and the words around them

A blank outside quotes, with no backslash in front that keeps it, cuts the line in two: the words in
front of it are those of the first part by itself, and the words behind it are those of the second
part by itself.  So it makes no difference how many such blanks stand at a place where there is one,
or at the start or the end of the line, and which blanks they are.

## Main definitions

* `ScanEnd`, `scanEnd` — where the scan stands behind a text.
* `EndsBare` — the scan of a text ends outside quotes, and no backslash waits for a character.
* `ComesThrough` — the scan gets behind a text, to outside quotes, with a word begun.
* `Respaced` — two lines differ in the blanks at one place where blanks only separate.

## Main results

* `comesThrough_of_scanEnd` — behind a text that ends outside quotes the scan goes on as if the text
  had only completed some words and begun another one.
* `splitWords_append_gap` — **a gap cuts a line in two.**
* `splitWords_spacing` — **blanks that separate words may be changed.**
-/

namespace LineShell

/-! ### Where the scan stands -/

/-- Where the scan stands behind a text. -/
structure ScanEnd where
  quoting : Quoting
  /-- Whether a backslash still waits for the character that it keeps. -/
  pending : Bool
  deriving DecidableEq, Repr

/-- Where the scan stands behind a text, by where it stands in front of it.  Between double quotes
a backslash escapes at once or not at all, so only outside quotes can it be left waiting. -/
def scanEnd : Quoting → List Char → ScanEnd
  | quoting, [] => ⟨quoting, false⟩
  | .bare, ['\\'] => ⟨.bare, true⟩
  | .bare, '\\' :: _ :: rest => scanEnd .bare rest
  | .bare, c :: rest =>
    if c = '\'' then scanEnd .single rest
    else if c = '"' then scanEnd .double rest
    else scanEnd .bare rest
  | .single, c :: rest => if c = '\'' then scanEnd .bare rest else scanEnd .single rest
  | .double, '\\' :: c :: rest =>
    if c = '\\' ∨ c = '"' then scanEnd .double rest else scanEnd .double (c :: rest)
  | .double, c :: rest => if c = '"' then scanEnd .bare rest else scanEnd .double rest

/-- The scan of a text ends outside quotes, and no backslash waits for a character. -/
def EndsBare (text : List Char) : Prop :=
  scanEnd .bare text = ⟨.bare, false⟩

instance (text : List Char) : Decidable (EndsBare text) :=
  inferInstanceAs (Decidable (_ = _))

/-- The word that ends goes in front of all later ones. -/
theorem endWord_append (word : List Char) (words later : List (List Char)) :
    endWord word (words ++ later) = endWord word words ++ later := by
  cases word <;> rfl

/-- What the patterns of the scan exclude together: a backslash in front of anything. -/
private theorem ne_backslash {c : Char} {rest : List Char} (hnil : c = '\\' → rest = [] → False)
    (hcons : ∀ d rest', c = '\\' → rest = d :: rest' → False) : c ≠ '\\' := by
  intro hc
  cases rest with
  | nil => exact hnil hc rfl
  | cons d rest => exact hcons d rest hc rfl

/-! ### Going on behind a text -/

/-- With a word begun, the scan comes through a text to outside quotes: the text completes some
words and leaves another one begun, whatever comes behind it. -/
def ComesThrough (quoting : Quoting) (word text : List Char) : Prop :=
  ∃ words last, ∀ rest : List Char,
    scanWords quoting word (text ++ rest) = (scanWords .bare last rest).map (words ++ ·)

/-- A step that completes no word. -/
theorem ComesThrough.of_step {quoting quoting' : Quoting} {word word' text text' : List Char}
    (h : ComesThrough quoting' word' text')
    (hstep : ∀ rest, scanWords quoting word (text ++ rest) =
      scanWords quoting' word' (text' ++ rest)) : ComesThrough quoting word text := by
  obtain ⟨words, last, hgoes⟩ := h
  exact ⟨words, last, fun rest => (hstep rest).trans (hgoes rest)⟩

/-- A step that ends the word. -/
theorem ComesThrough.of_endWord {quoting : Quoting} {word text text' : List Char}
    (h : ComesThrough .bare [] text')
    (hstep : ∀ rest, scanWords quoting word (text ++ rest) =
      (scanWords .bare [] (text' ++ rest)).map (endWord word)) :
    ComesThrough quoting word text := by
  obtain ⟨words, last, hgoes⟩ := h
  refine ⟨endWord word words, last, fun rest => ?_⟩
  rw [hstep, hgoes]
  cases scanWords .bare last rest with
  | error e => rfl
  | ok later => exact congrArg Except.ok (endWord_append word words later)

/-- The scan comes through a text at whose end it stands outside quotes, with no backslash that
waits for a character. -/
theorem comesThrough_of_scanEnd {quoting : Quoting} {text : List Char}
    (h : scanEnd quoting text = ⟨.bare, false⟩) : ∀ word, ComesThrough quoting word text := by
  fun_induction scanEnd quoting text with
  | case1 quoting =>
    cases h
    intro word
    refine ⟨[], word, fun rest => ?_⟩
    rw [List.nil_append]
    cases scanWords .bare word rest <;> rfl
  | case2 => cases h
  | case3 c text ih => exact fun word => (ih h (c :: word)).of_step fun rest => rfl
  | case4 text hnil hcons ih => exact fun word => (ih h word).of_step fun rest => rfl
  | case5 text hnil hcons hs ih => exact fun word => (ih h word).of_step fun rest => rfl
  | case6 c text hnil hcons hs hd ih =>
    intro word
    have hc := ne_backslash hnil hcons
    by_cases hblank : isBlank c = true
    · refine (ih h []).of_endWord fun rest => ?_
      rw [List.cons_append, scanWords_bare_cons hc, if_neg hs, if_neg hd, if_pos hblank]
    · refine (ih h (c :: word)).of_step fun rest => ?_
      rw [List.cons_append, scanWords_bare_cons hc, if_neg hs, if_neg hd, if_neg hblank]
  | case7 text ih => exact fun word => (ih h word).of_step fun rest => rfl
  | case8 c text hc ih =>
    refine fun word => (ih h (c :: word)).of_step fun rest => ?_
    rw [List.cons_append, scanWords_single_cons, if_neg hc]
  | case9 c text hc ih =>
    refine fun word => (ih h (c :: word)).of_step fun rest => ?_
    rw [List.cons_append, List.cons_append, scanWords_double_backslash, if_pos hc]
  | case10 c text hc ih =>
    refine fun word => (ih h ('\\' :: word)).of_step fun rest => ?_
    rw [List.cons_append, List.cons_append, scanWords_double_backslash, if_neg hc]
  | case11 text hcons ih => exact fun word => (ih h word).of_step fun rest => rfl
  | case12 c text hcons hd ih =>
    -- a backslash at the end of the text would leave the scan between double quotes
    have hc : c ≠ '\\' := by
      rintro rfl
      cases text with
      | nil => cases h
      | cons d text => exact hcons d text rfl rfl
    refine fun word => (ih h (c :: word)).of_step fun rest => ?_
    rw [List.cons_append, scanWords_double_cons (.inl hc), if_neg hd]

/-! ### A gap between two parts -/

/-- A gap ends the word that is begun, if there is one. -/
theorem scanWords_gap_endWord (gap : Gap) (word rest : List Char) :
    scanWords .bare word (gap.text ++ rest) = (scanWords .bare [] rest).map (endWord word) := by
  by_cases hword : word = []
  · have hid : endWord [] = id := funext endWord_nil
    rw [hword, hid, Except.map_id, id]
    exact scanWords_blanks_append gap.toBlanks rest
  · rw [scanWords_gap_append gap hword, funext (endWord_of_ne_nil hword)]

/-- **A gap cuts a line in two.**  Behind a text that ends outside quotes, blanks separate its words
from those of the rest of the line, and if the rest is refused, so is the line. -/
theorem splitWords_append_gap {a : List Char} (ha : EndsBare a) :
    ∃ words, splitWords a = .ok words ∧ ∀ (gap : Gap) (b : List Char),
      splitWords (a ++ (gap.text ++ b)) = (splitWords b).map (words ++ ·) := by
  obtain ⟨words, last, hgoes⟩ := comesThrough_of_scanEnd ha []
  refine ⟨(words ++ endWord last []).map String.ofList, ?_, fun gap b => ?_⟩
  · have hend := hgoes []
    rw [List.append_nil, scanWords_bare_nil] at hend
    rw [splitWords, hend]
    rfl
  · rw [splitWords, hgoes, scanWords_gap_endWord, splitWords]
    cases scanWords .bare [] b with
    | error e => rfl
    | ok later =>
      have hlast := endWord_append last [] later
      rw [List.nil_append] at hlast
      simp only [Except.map, hlast, List.map_append, List.append_assoc]

/-! ### Other blanks -/

/-- One line is the other with other blanks at one place where blanks only separate: at the start,
at the end, or where there are some and some remain. -/
inductive Respaced : List Char → List Char → Prop
  | atStart (blanks blanks' : Blanks) (b : List Char) :
      Respaced (blanks.text ++ b) (blanks'.text ++ b)
  | atEnd {a : List Char} (ha : EndsBare a) (blanks blanks' : Blanks) :
      Respaced (a ++ blanks.text) (a ++ blanks'.text)
  | between {a : List Char} (ha : EndsBare a) (gap gap' : Gap) (b : List Char) :
      Respaced (a ++ (gap.text ++ b)) (a ++ (gap'.text ++ b))

/-- Blanks at the start of a line are passed over. -/
theorem splitWords_blanks_append (blanks : Blanks) (b : List Char) :
    splitWords (blanks.text ++ b) = splitWords b := by
  rw [splitWords, scanWords_blanks_append, splitWords]

/-- Blanks at the end of a line are passed over. -/
theorem splitWords_append_blanks {a : List Char} (ha : EndsBare a) (blanks : Blanks) :
    splitWords (a ++ blanks.text) = splitWords a := by
  by_cases hnil : blanks.text = []
  · rw [hnil, List.append_nil]
  · obtain ⟨words, hwords, hgap⟩ := splitWords_append_gap ha
    have hend := hgap ⟨blanks, hnil⟩ []
    rw [List.append_nil] at hend
    rw [hend, hwords]
    exact congrArg Except.ok (List.append_nil words)

theorem Respaced.splitWords_eq {line line' : List Char} (h : Respaced line line') :
    splitWords line = splitWords line' := by
  cases h with
  | atStart blanks blanks' b =>
    rw [splitWords_blanks_append, splitWords_blanks_append]
  | atEnd ha blanks blanks' => rw [splitWords_append_blanks ha, splitWords_append_blanks ha]
  | between ha gap gap' b =>
    obtain ⟨words, -, hgap⟩ := splitWords_append_gap ha
    rw [hgap, hgap]

/-- **Blanks that separate words may be changed.**  If the scan of a text ends outside quotes, with
no backslash that waits for a character, then a blank behind it separates its words from those of
the rest of the line; and a rest that is refused makes the line refused, for the same quote.  So
other blanks at the start of a line, at its end or between its words, at any number of places, give
the same words, or the same refusal. -/
theorem splitWords_spacing :
    (∀ (a b : List Char) (w : Char), EndsBare a → isBlank w = true →
      ∃ words, splitWords a = .ok words ∧
        splitWords (a ++ w :: b) =
          match splitWords b with
          | .ok later => .ok (words ++ later)
          | .error e => .error e) ∧
    ∀ line line' : List Char, Relation.ReflTransGen Respaced line line' →
      splitWords line = splitWords line' := by
  refine ⟨fun a b w ha hw => ?_, fun line line' h => ?_⟩
  · obtain ⟨words, hwords, hgap⟩ := splitWords_append_gap ha
    have hblank : ∀ c ∈ [w], isBlank c = true := fun c hc => List.mem_singleton.1 hc ▸ hw
    refine ⟨words, hwords, (hgap ⟨⟨[w], hblank⟩, List.cons_ne_nil w []⟩ b).trans ?_⟩
    cases splitWords b <;> rfl
  · induction h with
    | refl => rfl
    | tail _ hstep ih => exact ih.trans hstep.splitWords_eq

/-- All blanks count: an ideographic space in front of a quote that is not closed, and a no-break
space and a line's end around quoted and escaped blanks, which stay. -/
theorem splitWords_spacing_wideBlanks :
    EndsBare "echo 'a  b'".toList ∧ isBlank '\u3000' = true ∧
    splitWords ("echo 'a  b'".toList ++ '\u3000' :: "\"c".toList) = .error ⟨'"'⟩ ∧
    Relation.ReflTransGen Respaced "echo 'a  b' e\\ f".toList
      "\techo\u00A0 'a  b' e\\ f\n".toList ∧
    splitWords "echo 'a  b' e\\ f".toList = splitWords "\techo\u00A0 'a  b' e\\ f\n".toList := by
  obtain ⟨hcut, hrespaced⟩ := splitWords_spacing
  have hbare : EndsBare "echo 'a  b'".toList := by decide
  have hblank : isBlank '\u3000' = true := by decide
  obtain ⟨words, -, hwords⟩ := hcut "echo 'a  b'".toList "\"c".toList '\u3000' hbare hblank
  let nothing : Blanks := ⟨[], List.all_eq_true.1 rfl⟩
  let tab : Blanks := ⟨['\t'], List.all_eq_true.1 rfl⟩
  let lineFeed : Blanks := ⟨['\n'], List.all_eq_true.1 rfl⟩
  let space : Gap := ⟨⟨[' '], List.all_eq_true.1 rfl⟩, by decide⟩
  let wide : Gap := ⟨⟨['\u00A0', ' '], List.all_eq_true.1 rfl⟩, by decide⟩
  -- the start, the first gap and the end, one after the other
  have hstart : Respaced "echo 'a  b' e\\ f".toList "\techo 'a  b' e\\ f".toList :=
    .atStart nothing tab _
  have hgap : Respaced "\techo 'a  b' e\\ f".toList "\techo\u00A0 'a  b' e\\ f".toList :=
    .between (a := "\techo".toList) rfl space wide "'a  b' e\\ f".toList
  have hend : Respaced "\techo\u00A0 'a  b' e\\ f".toList "\techo\u00A0 'a  b' e\\ f\n".toList :=
    .atEnd (a := "\techo\u00A0 'a  b' e\\ f".toList) rfl nothing lineFeed
  have hsteps : Relation.ReflTransGen Respaced "echo 'a  b' e\\ f".toList
      "\techo\u00A0 'a  b' e\\ f\n".toList :=
    ((Relation.ReflTransGen.single hstart).tail hgap).tail hend
  exact ⟨hbare, hblank, hwords.trans rfl, hsteps, hrespaced _ _ hsteps⟩

end LineShell
