import LineShell.Proofs.Words.Scan

/-!
# Quoted words

A word can be written in many ways: character by character, as it is or behind a backslash, and in
runs between single or double quotes, all of them next to each other.  However the words of a line
are written, and whatever blanks stand between and around them, the line has these words.

## Main definitions

* `Piece` — what a quoted word is made of, and what each piece stands for.
* `QuotedWord` — a word that is not empty, as it is written.
* `Blanks`, `Gap` — blanks, as many as one likes, and at least one of them.
* `separated` — words as they are written, each with a gap in front.

## Main results

* `scanWords_spelling_append` — the scan takes a quoted word as a whole.
* `splitWords_separated` — **a line has the words that are written in it.**
-/

namespace LineShell

/-! ### Pieces -/

/-- How a character is written between double quotes: a backslash and a double quote stand behind a
backslash there. -/
def guarded (c : Char) : List Char :=
  if c = '\\' ∨ c = '"' then ['\\', c] else [c]

/-- A piece of a quoted word. -/
inductive Piece
  /-- A character that is no blank, quote or backslash, as it is. -/
  | bare (c : Char) (hblank : isBlank c = false) (hplain : c ≠ '\'' ∧ c ≠ '"' ∧ c ≠ '\\')
  /-- Any character behind a backslash. -/
  | escaped (c : Char)
  /-- A run between single quotes, in which there is none. -/
  | single (text : List Char) (hquote : '\'' ∉ text)
  /-- A run between double quotes. -/
  | double (text : List Char)

namespace Piece

/-- The characters that a piece stands for. -/
def text : Piece → List Char
  | bare c _ _ => [c]
  | escaped c => [c]
  | single text _ => text
  | double text => text

/-- How a piece is written. -/
def spelling : Piece → List Char
  | bare c _ _ => [c]
  | escaped c => ['\\', c]
  | single text _ => '\'' :: text ++ ['\'']
  | double text => '"' :: text.flatMap guarded ++ ['"']

end Piece

/-- Between double quotes, guarded characters stand for themselves. -/
theorem doubleQuoted_guarded (text : List Char) : DoubleQuoted (text.flatMap guarded) text := by
  induction text with
  | nil => exact .nil
  | cons c text ih =>
    rw [List.flatMap_cons, guarded]
    split
    · next hc => exact .escaped hc ih
    · next hc =>
      rw [not_or] at hc
      exact .other hc.1 hc.2 ih

/-- A character that is no blank, quote or backslash is an ordinary one. -/
theorem charRole_of_plain {c : Char} (hblank : isBlank c = false)
    (hplain : c ≠ '\'' ∧ c ≠ '"' ∧ c ≠ '\\') : charRole c = .ordinary := by
  obtain ⟨hs, hd, hb⟩ := hplain
  rw [charRole, if_neg hb, if_neg hs, if_neg hd, hblank]
  rfl

/-- A piece is a unit of the line. -/
def Piece.unit : Piece → LineUnit
  | bare c hblank hplain => .ordinary c (charRole_of_plain hblank hplain)
  | escaped c => .escaped c
  | single text hquote => .single text hquote
  | double text => .double (text.flatMap guarded) text (doubleQuoted_guarded text)

theorem Piece.spelling_unit (p : Piece) : p.unit.spelling = p.spelling := by
  cases p <;> rfl

theorem Piece.content?_unit (p : Piece) : p.unit.content? = some p.text := by
  cases p <;> rfl

/-! ### Words and blanks -/

/-- Whether a character can be written as it is. -/
def isPlain (c : Char) : Bool :=
  !isBlank c && c != '\'' && c != '"' && c != '\\'

/-- What is written as it is has no blanks, quotes and backslashes. -/
theorem plain_of_all {text : List Char} (h : text.all isPlain = true) :
    ∀ c ∈ text, isBlank c = false ∧ c ≠ '\'' ∧ c ≠ '"' ∧ c ≠ '\\' := by
  intro c hc
  simpa [isPlain, and_assoc] using List.all_eq_true.1 h c hc

/-- A word that is not empty, as it is written. -/
structure QuotedWord where
  pieces : List Piece
  nonempty : pieces.flatMap Piece.text ≠ []

namespace QuotedWord

/-- The characters of the word. -/
def text (q : QuotedWord) : List Char :=
  q.pieces.flatMap Piece.text

/-- The word itself. -/
def word (q : QuotedWord) : String :=
  String.ofList q.text

/-- How the word is written. -/
def spelling (q : QuotedWord) : List Char :=
  q.pieces.flatMap Piece.spelling

theorem text_ne_nil (q : QuotedWord) : q.text ≠ [] :=
  q.nonempty

/-- Characters as they are, none of them a blank, a quote or a backslash. -/
def plainPieces (text : List Char)
    (hplain : ∀ c ∈ text, isBlank c = false ∧ c ≠ '\'' ∧ c ≠ '"' ∧ c ≠ '\\') : List Piece :=
  text.pmap (fun c hc => .bare c hc.1 hc.2) hplain

theorem flatMap_plainPieces {f : Piece → List Char}
    (hf : ∀ c hblank hplain, f (.bare c hblank hplain) = [c]) {text : List Char}
    (hplain : ∀ c ∈ text, isBlank c = false ∧ c ≠ '\'' ∧ c ≠ '"' ∧ c ≠ '\\') :
    (plainPieces text hplain).flatMap f = text := by
  induction text with
  | nil => rfl
  | cons c text ih =>
    have hrest := ih fun d hd => hplain d (List.mem_cons_of_mem _ hd)
    rw [plainPieces, List.pmap_cons, List.flatMap_cons, hf]
    exact congrArg (List.cons c) hrest

/-- A word without blanks, quotes and backslashes, as it is. -/
def plain (text : List Char) (hne : text ≠ [])
    (hplain : ∀ c ∈ text, isBlank c = false ∧ c ≠ '\'' ∧ c ≠ '"' ∧ c ≠ '\\') : QuotedWord where
  pieces := plainPieces text hplain
  nonempty := by
    rw [flatMap_plainPieces fun _ _ _ => rfl]
    exact hne

variable {text : List Char} (hne : text ≠ [])
  (hplain : ∀ c ∈ text, isBlank c = false ∧ c ≠ '\'' ∧ c ≠ '"' ∧ c ≠ '\\')

@[simp] theorem text_plain : (plain text hne hplain).text = text :=
  flatMap_plainPieces (fun _ _ _ => rfl) hplain

@[simp] theorem spelling_plain : (plain text hne hplain).spelling = text :=
  flatMap_plainPieces (fun _ _ _ => rfl) hplain

end QuotedWord

/-- Blanks, perhaps none. -/
structure Blanks where
  text : List Char
  isBlank_of_mem : ∀ c ∈ text, isBlank c = true

/-- At least one blank. -/
structure Gap extends Blanks where
  text_ne_nil : text ≠ []

/-- Words as they are written, each with a gap in front. -/
def separated (words : List (Gap × QuotedWord)) : List Char :=
  words.flatMap fun entry => entry.1.text ++ entry.2.spelling

@[simp] theorem separated_nil : separated [] = [] := rfl

@[simp] theorem separated_cons (gap : Gap) (q : QuotedWord) (words : List (Gap × QuotedWord)) :
    separated ((gap, q) :: words) = gap.text ++ (q.spelling ++ separated words) := by
  rw [separated, List.flatMap_cons, List.append_assoc]
  rfl

theorem separated_append (words words' : List (Gap × QuotedWord)) :
    separated (words ++ words') = separated words ++ separated words' :=
  List.flatMap_append

/-! ### The scan -/

/-- Where no word is begun, none ends. -/
@[simp] theorem endWord_nil (later : List (List Char)) : endWord [] later = later := rfl

/-- A word that is begun ends in front of the later ones. -/
theorem endWord_of_ne_nil {word : List Char} (h : word ≠ []) (later : List (List Char)) :
    endWord word later = word.reverse :: later := by
  rw [endWord, if_neg (by simpa using h)]

/-- The scan takes pieces that stand next to each other as one text. -/
theorem scanWords_pieces_append (pieces : List Piece) (rest : List Char) : ∀ word : List Char,
    scanWords .bare word (pieces.flatMap Piece.spelling ++ rest) =
      scanWords .bare ((pieces.flatMap Piece.text).reverse ++ word) rest := by
  induction pieces with
  | nil => exact fun _ => rfl
  | cons p pieces ih =>
    intro word
    rw [List.flatMap_cons, List.flatMap_cons, List.append_assoc, ← p.spelling_unit,
      scanWords_spelling, p.content?_unit]
    simp only
    rw [ih, List.reverse_append, List.append_assoc]

/-- The scan takes a quoted word as a whole. -/
theorem scanWords_spelling_append (q : QuotedWord) (word rest : List Char) :
    scanWords .bare word (q.spelling ++ rest) = scanWords .bare (q.text.reverse ++ word) rest :=
  scanWords_pieces_append q.pieces rest word

/-- Where no word is begun, blanks are passed over. -/
theorem scanWords_blanks_append (b : Blanks) (rest : List Char) :
    scanWords .bare [] (b.text ++ rest) = scanWords .bare [] rest := by
  obtain ⟨text, hblank⟩ := b
  simp only
  induction text with
  | nil => rfl
  | cons c text ih =>
    have hc := hblank c List.mem_cons_self
    have hstep := scanWords_spelling (.blank c hc) [] (text ++ rest)
    have hend : endWord [] = id := funext endWord_nil
    rw [List.cons_append]
    refine hstep.trans ?_
    simp only [LineUnit.content?]
    rw [ih fun d hd => hblank d (List.mem_cons_of_mem _ hd), hend, Except.map_id, id]

/-- A gap ends the word that is begun. -/
theorem scanWords_gap_append (gap : Gap) {word : List Char} (hword : word ≠ [])
    (rest : List Char) :
    scanWords .bare word (gap.text ++ rest) =
      (scanWords .bare [] rest).map (word.reverse :: ·) := by
  obtain ⟨⟨text, hblank⟩, hne⟩ := gap
  simp only at hne ⊢
  cases text with
  | nil => exact absurd rfl hne
  | cons c text =>
    have hc := hblank c List.mem_cons_self
    have hstep := scanWords_spelling (.blank c hc) word (text ++ rest)
    have hrest := scanWords_blanks_append ⟨text, fun d hd => hblank d (List.mem_cons_of_mem _ hd)⟩
      rest
    have hend : endWord word = (word.reverse :: ·) := funext (endWord_of_ne_nil hword)
    refine hstep.trans ?_
    simp only [LineUnit.content?]
    rw [hrest, hend]

/-- Behind a word that is begun come the words that are written with gaps in front. -/
theorem scanWords_separated (words : List (Gap × QuotedWord)) (trail : Blanks) :
    ∀ word : List Char, word ≠ [] →
      scanWords .bare word (separated words ++ trail.text) =
        .ok (word.reverse :: words.map (·.2.text)) := by
  induction words with
  | nil =>
    intro word hword
    obtain ⟨text, hblank⟩ := trail
    rw [separated_nil, List.nil_append]
    -- the end of the line ends the word, and so does a blank
    cases text with
    | nil =>
      rw [scanWords_bare_nil, endWord_of_ne_nil hword]
      rfl
    | cons c text =>
      have hgap := scanWords_gap_append ⟨⟨c :: text, hblank⟩, List.cons_ne_nil _ _⟩ hword []
      rw [List.append_nil] at hgap
      exact hgap
  | cons entry words ih =>
    intro word hword
    obtain ⟨gap, q⟩ := entry
    have hnext : q.text.reverse ++ [] ≠ [] := by
      rw [List.append_nil]
      exact fun h => q.text_ne_nil (List.reverse_eq_nil_iff.1 h)
    rw [separated_cons, List.append_assoc, List.append_assoc, scanWords_gap_append gap hword,
      scanWords_spelling_append, ih _ hnext, List.append_nil, List.reverse_reverse]
    rfl

/-- **A line has the words that are written in it**, whatever blanks stand between them and around
them. -/
theorem splitWords_separated (lead : Blanks) (first : QuotedWord) (words : List (Gap × QuotedWord))
    (trail : Blanks) :
    splitWords (lead.text ++ (first.spelling ++ (separated words ++ trail.text))) =
      .ok (first.word :: words.map (·.2.word)) := by
  have hfirst : first.text.reverse ++ [] ≠ [] := by
    rw [List.append_nil]
    exact fun h => first.text_ne_nil (List.reverse_eq_nil_iff.1 h)
  rw [splitWords, scanWords_blanks_append, scanWords_spelling_append,
    scanWords_separated words trail _ hfirst, List.append_nil, List.reverse_reverse]
  simp only [Except.map, List.map_cons, List.map_map]
  rfl

end LineShell
