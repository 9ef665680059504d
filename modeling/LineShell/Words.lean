import LineShell.Text.Blank

/-!
# The words of a command line

A line is cut into words at blanks.  Single quotes keep everything up to the next single quote,
double quotes keep everything but themselves and let a backslash escape a backslash or a double
quote, and outside quotes a backslash keeps whatever follows it.  Quoted and bare pieces that touch
belong to one word, and a word without characters is no word.

## Main definitions

* `Quoting` — where in the line the scan stands: outside quotes or inside one kind of them.
* `UnclosedQuote` — the one way in which a line has no words.
* `scanWords` — the words of the rest of a line, from any state of the scan.
* `splitWords` — the words of a line.
-/

namespace LineShell

/-- Where the scan of a line stands. -/
inductive Quoting
  /-- Outside quotes. -/
  | bare
  /-- After an opening single quote. -/
  | single
  /-- After an opening double quote. -/
  | double
  deriving DecidableEq, Repr

/-- The line ended inside quotes, which this character opened. -/
structure UnclosedQuote where
  quote : Char
  deriving DecidableEq, Repr

/-- What the user is told about a quote that is never closed. -/
def UnclosedQuote.text (e : UnclosedQuote) : String :=
  "unexpected EOF while looking for matching `" ++ e.quote.toString ++ "`"

/-- Ends the word whose characters were collected last first, unless it has none. -/
def endWord (word : List Char) (later : List (List Char)) : List (List Char) :=
  if word.isEmpty then later else word.reverse :: later

/-- The words of the rest of a line, from a state of the scan and the characters, last first, of the
word begun before it. -/
def scanWords : Quoting → List Char → List Char → Except UnclosedQuote (List (List Char))
  | .bare, word, [] => .ok (endWord word [])
  | .single, _, [] => .error ⟨'\''⟩
  | .double, _, [] => .error ⟨'"'⟩
  | .bare, word, ['\\'] => .ok (endWord word [])
  | .bare, word, '\\' :: c :: rest => scanWords .bare (c :: word) rest
  | .bare, word, c :: rest =>
    if c = '\'' then scanWords .single word rest
    else if c = '"' then scanWords .double word rest
    else if isBlank c then (scanWords .bare [] rest).map (endWord word)
    else scanWords .bare (c :: word) rest
  | .single, word, c :: rest =>
    if c = '\'' then scanWords .bare word rest else scanWords .single (c :: word) rest
  | .double, word, '\\' :: c :: rest =>
    if c = '\\' ∨ c = '"' then scanWords .double (c :: word) rest
    else scanWords .double ('\\' :: word) (c :: rest)
  | .double, word, c :: rest =>
    if c = '"' then scanWords .bare word rest else scanWords .double (c :: word) rest

/-- The words of a line, or the quote that is left open at its end. -/
def splitWords (line : List Char) : Except UnclosedQuote (List String) :=
  (scanWords .bare [] line).map (List.map String.ofList)

end LineShell
