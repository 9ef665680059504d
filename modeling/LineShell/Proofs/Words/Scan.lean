import LineShell.Proofs.Words.Units

/-!
# The scan finds the units of a line

The scan of a line goes character by character and remembers the kind of quotes that it is in and
the word that it has begun.  It is shown to go unit by unit: over a unit it adds what the unit
stands for to the word, or ends the word if the unit is a blank.

## Main definitions

* `wordsFrom` — the words that units make, from a word begun in front of them.

## Main results

* `scanWords_spelling` — what the scan does over one unit.
* `scanWords_spellUnits` — what it does over several.
* `splitWords_iff_segmentation` — **the scan accepts the lines that have a segmentation, with its
  words, and refuses those that end in an open run, with its quote.**
-/

namespace LineShell

/-! ### The words of units, one by one -/

/-- The words that units with these contents make, from the characters, last first, of a word begun
in front of them. -/
def wordsFrom : List Char → List (Option (List Char)) → List (List Char)
  | word, [] => endWord word []
  | word, none :: contents => endWord word (wordsFrom [] contents)
  | word, some content :: contents => wordsFrom (content.reverse ++ word) contents

/-- A begun word belongs to the first run. -/
theorem wordsFrom_eq_filter (contents : List (Option (List Char))) : ∀ word : List Char,
    wordsFrom word contents =
      (((contents.splitOn none).map fun run => run.flatMap (·.getD [])).modifyHead
        (word.reverse ++ ·)).filter (!·.isEmpty) := by
  induction contents with
  | nil =>
    intro word
    cases word <;> simp [wordsFrom, endWord]
  | cons content? contents ih =>
    intro word
    obtain ⟨run, runs, hruns⟩ :=
      List.exists_cons_of_ne_nil (List.splitOn_ne_nil (none : Option (List Char)) contents)
    rw [hruns] at ih
    rw [List.splitOn_cons_eq_if_modifyHead, hruns]
    cases content? with
    | none =>
      rw [wordsFrom, ih]
      cases word <;> simp [endWord]
    | some content =>
      rw [wordsFrom, ih]
      simp

theorem wordsFrom_nil (contents : List (Option (List Char))) :
    wordsFrom [] contents = wordsOf contents := by
  rw [wordsFrom_eq_filter, wordsOf]
  cases (contents.splitOn none) <;> simp

/-! ### Single steps of the scan -/

theorem scanWords_single_nil (word : List Char) :
    scanWords .single word [] = .error ⟨'\''⟩ := rfl

theorem scanWords_single_cons (c : Char) (word rest : List Char) :
    scanWords .single word (c :: rest) =
      if c = '\'' then scanWords .bare word rest else scanWords .single (c :: word) rest := rfl

theorem scanWords_double_nil (word : List Char) :
    scanWords .double word [] = .error ⟨'"'⟩ := rfl

/-- Between double quotes, a backslash escapes another one or a double quote. -/
theorem scanWords_double_backslash (c : Char) (word rest : List Char) :
    scanWords .double word ('\\' :: c :: rest) =
      if c = '\\' ∨ c = '"' then scanWords .double (c :: word) rest
      else scanWords .double ('\\' :: word) (c :: rest) := rfl

/-- Between double quotes, a character that is no backslash, or the last one, closes the run or is
taken. -/
theorem scanWords_double_cons {c : Char} {rest : List Char} (hc : c ≠ '\\' ∨ rest = [])
    (word : List Char) :
    scanWords .double word (c :: rest) =
      if c = '"' then scanWords .bare word rest else scanWords .double (c :: word) rest := by
  rw [scanWords]
  rintro d rest' rfl rfl
  rcases hc with hc | hc
  · exact hc rfl
  · cases hc

theorem scanWords_bare_nil (word : List Char) :
    scanWords .bare word [] = .ok (endWord word []) := rfl

/-- Outside quotes, a backslash keeps the character behind it. -/
theorem scanWords_bare_backslash (c : Char) (word rest : List Char) :
    scanWords .bare word ('\\' :: c :: rest) = scanWords .bare (c :: word) rest := rfl

/-- A backslash at the end of the line stands for nothing. -/
theorem scanWords_bare_dangling (word : List Char) :
    scanWords .bare word ['\\'] = .ok (endWord word []) := rfl

/-- Outside quotes, the scan looks at the role of a character that is no backslash. -/
theorem scanWords_bare_cons {c : Char} (hc : c ≠ '\\') (word rest : List Char) :
    scanWords .bare word (c :: rest) =
      if c = '\'' then scanWords .single word rest
      else if c = '"' then scanWords .double word rest
      else if isBlank c then (scanWords .bare [] rest).map (endWord word)
      else scanWords .bare (c :: word) rest := by
  rw [scanWords]
  · exact fun h _ => hc h
  · exact fun _ _ h _ => hc h

/-! ### The scan over quoted text -/

/-- Between single quotes the scan takes everything up to the closing quote. -/
theorem scanWords_single {text : List Char} (hquote : '\'' ∉ text) (rest : List Char) :
    ∀ word : List Char, scanWords .single word (text ++ '\'' :: rest) =
      scanWords .bare (text.reverse ++ word) rest := by
  induction text with
  | nil =>
    intro word
    rw [List.nil_append, scanWords_single_cons, if_pos rfl]
    rfl
  | cons c text ih =>
    intro word
    have hc : c ≠ '\'' := fun h => hquote (h ▸ List.mem_cons_self)
    rw [List.cons_append, scanWords_single_cons, if_neg hc,
      ih (List.not_mem_of_not_mem_cons hquote)]
    simp

/-- Without a closing single quote the scan fails. -/
theorem scanWords_single_of_notMem {text : List Char} (hquote : '\'' ∉ text) :
    ∀ word : List Char, scanWords .single word text = .error ⟨'\''⟩ := by
  induction text with
  | nil => exact scanWords_single_nil
  | cons c text ih =>
    intro word
    have hc : c ≠ '\'' := fun h => hquote (h ▸ List.mem_cons_self)
    rw [scanWords_single_cons, if_neg hc, ih (List.not_mem_of_not_mem_cons hquote)]

/-- Between double quotes the scan takes what the text up to the closing quote stands for. -/
theorem scanWords_double {text content : List Char} (h : DoubleQuoted text content)
    (rest : List Char) : ∀ word : List Char,
    scanWords .double word (text ++ '"' :: rest) =
      scanWords .bare (content.reverse ++ word) rest := by
  induction h with
  | nil =>
    intro word
    rw [List.nil_append, scanWords_double_cons (.inl (by decide)), if_pos rfl]
    rfl
  | escaped hc h ih =>
    intro word
    rw [List.cons_append, List.cons_append, scanWords_double_backslash, if_pos hc, ih]
    simp
  | backslash hc h ih =>
    intro word
    rw [List.cons_append, List.cons_append, scanWords_double_backslash, if_neg hc,
      ← List.cons_append, ih]
    simp
  | other hb hq h ih =>
    intro word
    rw [List.cons_append, scanWords_double_cons (.inl hb), if_neg hq, ih]
    simp

/-- Between double quotes the scan fails unless the run is closed somewhere. -/
theorem scanWords_double_of_open : ∀ text : List Char,
    (∀ closed content rest, DoubleQuoted closed content → text ≠ closed ++ '"' :: rest) →
      ∀ word : List Char, scanWords .double word text = .error ⟨'"'⟩
  | [], _, word => scanWords_double_nil word
  | [c], h, word => by
    have hq : c ≠ '"' := by
      rintro rfl
      exact h [] [] [] .nil rfl
    rw [scanWords_double_cons (.inr rfl), if_neg hq, scanWords_double_nil]
  | c :: d :: text, h, word => by
    by_cases hb : c = '\\'
    · subst hb
      rw [scanWords_double_backslash]
      by_cases hd : d = '\\' ∨ d = '"'
      · rw [if_pos hd]
        exact scanWords_double_of_open text (fun closed content rest hquoted heq =>
          h _ _ rest (.escaped hd hquoted) (by rw [heq]; rfl)) _
      · rw [if_neg hd]
        refine scanWords_double_of_open (d :: text) (fun closed content rest hquoted heq => ?_) _
        cases closed with
        | nil =>
          -- the closing quote would stand right behind the backslash and so be escaped
          rw [List.nil_append, List.cons.injEq] at heq
          exact hd (.inr heq.1)
        | cons e closed =>
          rw [List.cons_append, List.cons.injEq] at heq
          obtain ⟨rfl, heq⟩ := heq
          exact h _ _ rest (.backslash hd hquoted) (by rw [heq]; rfl)
    · have hq : c ≠ '"' := by
        rintro rfl
        exact h [] [] (d :: text) .nil rfl
      rw [scanWords_double_cons (.inl hb), if_neg hq]
      exact scanWords_double_of_open (d :: text) (fun closed content rest hquoted heq =>
        h _ _ rest (.other hb hq hquoted) (by rw [heq]; rfl)) _

/-! ### The scan over units -/

/-- Over a unit the scan adds what the unit stands for to the word, or ends the word. -/
theorem scanWords_spelling (u : LineUnit) (word rest : List Char) :
    scanWords .bare word (u.spelling ++ rest) =
      match u.content? with
      | none => (scanWords .bare [] rest).map (endWord word)
      | some content => scanWords .bare (content.reverse ++ word) rest := by
  cases u with
  | blank c hc =>
    have hrole := charRole_of_isBlank hc
    have hb : c ≠ '\\' := by rintro rfl; cases hrole
    have hs : c ≠ '\'' := by rintro rfl; cases hrole
    have hd : c ≠ '"' := by rintro rfl; cases hrole
    exact (scanWords_bare_cons hb word rest).trans (by rw [if_neg hs, if_neg hd, if_pos hc]; rfl)
  | ordinary c hc =>
    have hspec := charRole_spec c
    rw [hc] at hspec
    obtain ⟨hblank, hs, hd, hb⟩ := hspec
    exact (scanWords_bare_cons hb word rest).trans (by simp [hs, hd, hblank, LineUnit.content?])
  | escaped c =>
    exact scanWords_bare_backslash c word rest
  | single text hquote =>
    change scanWords .bare word ('\'' :: (text ++ ['\'']) ++ rest) =
      scanWords .bare (text.reverse ++ word) rest
    rw [List.cons_append, scanWords_bare_cons (by decide), if_pos rfl, List.append_assoc]
    exact scanWords_single hquote rest word
  | double text content hquoted =>
    change scanWords .bare word ('"' :: (text ++ ['"']) ++ rest) =
      scanWords .bare (content.reverse ++ word) rest
    rw [List.cons_append, scanWords_bare_cons (by decide), if_neg (by decide), if_pos rfl,
      List.append_assoc]
    exact scanWords_double hquoted rest word

/-- Over several units the scan makes the words of their contents, if it does so for the rest of
the line. -/
theorem scanWords_spellUnits {rest : List Char} {contents : List (Option (List Char))}
    (hrest : ∀ word, scanWords .bare word rest = .ok (wordsFrom word contents))
    (units : List LineUnit) : ∀ word : List Char,
    scanWords .bare word (spellUnits units ++ rest) =
      .ok (wordsFrom word (units.map LineUnit.content? ++ contents)) := by
  induction units with
  | nil => exact hrest
  | cons u units ih =>
    intro word
    rw [spellUnits_cons, List.append_assoc, scanWords_spelling, List.map_cons, List.cons_append]
    cases u.content? with
    | none => rw [ih, wordsFrom]; rfl
    | some content => rw [wordsFrom]; exact ih _

/-- Over several units the scan fails if it does so for the rest of the line. -/
theorem scanWords_spellUnits_error {rest : List Char} {e : UnclosedQuote}
    (hrest : ∀ word, scanWords .bare word rest = .error e) (units : List LineUnit) :
    ∀ word : List Char, scanWords .bare word (spellUnits units ++ rest) = .error e := by
  induction units with
  | nil => exact hrest
  | cons u units ih =>
    intro word
    rw [spellUnits_cons, List.append_assoc, scanWords_spelling]
    cases u.content? with
    | none => rw [ih]; rfl
    | some content => exact ih _

/-! ### The words of a line -/

/-- A line that has a segmentation has its words. -/
theorem splitWords_spelling (s : Segmentation) :
    splitWords s.spelling = .ok (s.words.map String.ofList) := by
  have hend : ∀ word, scanWords .bare word (if s.dangling then ['\\'] else []) =
      .ok (wordsFrom word (if s.dangling then [some []] else [])) := by
    intro word
    cases s.dangling with
    | false => exact scanWords_bare_nil word
    | true => exact (scanWords_bare_dangling word).trans (by simp [wordsFrom])
  rw [splitWords, Segmentation.spelling, scanWords_spellUnits hend]
  exact congrArg (fun words => Except.ok (words.map String.ofList)) (wordsFrom_nil s.contents)

/-- A line that ends in an open run is refused. -/
theorem splitWords_of_openRun (units : List LineUnit) {quote : Char} {text : List Char}
    (h : OpenRun quote text) :
    splitWords (spellUnits units ++ quote :: text) = .error ⟨quote⟩ := by
  have hopen : ∀ word, scanWords .bare word (quote :: text) = .error ⟨quote⟩ := by
    intro word
    cases h with
    | single hquote =>
      rw [scanWords_bare_cons (by decide), if_pos rfl, scanWords_single_of_notMem hquote]
    | double hopen =>
      rw [scanWords_bare_cons (by decide), if_neg (by decide), if_pos rfl,
        scanWords_double_of_open text hopen]
  rw [splitWords, scanWords_spellUnits_error hopen]
  rfl

/-- **The words of a line are those of its units.**  The scan accepts exactly the lines that have a
segmentation, which is then the only one, and gives its words; it refuses exactly the lines in which
a quote behind some units opens a run that is never closed, and names that quote. -/
theorem splitWords_iff_segmentation (line : List Char) :
    (∀ words, splitWords line = .ok words ↔
      ∃ s : Segmentation, s.spelling = line ∧ words = s.words.map String.ofList) ∧
    (∀ quote, splitWords line = .error ⟨quote⟩ ↔
      ∃ units text, line = spellUnits units ++ quote :: text ∧ OpenRun quote text) ∧
    (∀ s t : Segmentation, s.spelling = line → t.spelling = line → s = t) := by
  refine ⟨fun words => ⟨fun h => ?_, ?_⟩, fun quote => ⟨fun h => ?_, ?_⟩, fun s t hs ht => ?_⟩
  · rcases segmentation_or_openRun line with ⟨s, rfl⟩ | ⟨units, quote, text, rfl, hopen⟩
    · rw [splitWords_spelling, Except.ok.injEq] at h
      exact ⟨s, rfl, h.symm⟩
    · rw [splitWords_of_openRun units hopen] at h
      cases h
  · rintro ⟨s, rfl, rfl⟩
    exact splitWords_spelling s
  · rcases segmentation_or_openRun line with ⟨s, rfl⟩ | ⟨units, quote', text, rfl, hopen⟩
    · rw [splitWords_spelling] at h
      cases h
    · rw [splitWords_of_openRun units hopen] at h
      cases h
      exact ⟨units, text, rfl, hopen⟩
  · rintro ⟨units, text, rfl, hopen⟩
    exact splitWords_of_openRun units hopen
  · exact Segmentation.eq_of_spelling_eq (hs.trans ht.symm)

/-- Pieces that touch belong to one word, and a word without characters is no word. -/
example : splitWords "a'b c'\"d\" '' \\ e".toList = .ok ["ab cd", " e"] := rfl

end LineShell
