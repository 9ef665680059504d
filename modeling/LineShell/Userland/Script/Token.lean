import LineShell.Userland.Script.Syntax

/-!
# Tokens of scripts

A script is read as a sequence of tokens: marks, which are the operators and the reserved words,
redirections, and all other words.

## Main definitions

* `Mark`, `Mark.spelling`, `reservedWord?` — the marks.
* `Arrow`, `Token`, `Token.description` — tokens, and how messages call them.
* `Word.bare?`, `Word.text`, `Word.assignment?` — words whose text is known before it is replaced.
-/

namespace LineShell.Script

/-- An operator or a reserved word. -/
inductive Mark
  | endOfText
  | newline
  | semicolon
  | ampersand
  | andIf
  | orIf
  | pipe
  | openParen
  | closeParen
  | endArm
  | bang
  | caseWord
  | doWord
  | doneWord
  | elifWord
  | elseWord
  | esacWord
  | fiWord
  | forWord
  | ifWord
  | inWord
  | thenWord
  | untilWord
  | whileWord
  | openBrace
  | closeBrace
  deriving DecidableEq, Repr

/-- The reserved words. -/
def reservedWords : List (String × Mark) :=
  [("!", .bang), ("case", .caseWord), ("do", .doWord), ("done", .doneWord), ("elif", .elifWord),
    ("else", .elseWord), ("esac", .esacWord), ("fi", .fiWord), ("for", .forWord), ("if", .ifWord),
    ("in", .inWord), ("then", .thenWord), ("until", .untilWord), ("while", .whileWord),
    ("\x7b", .openBrace), ("\x7d", .closeBrace)]

/-- The reserved word of a spelling. -/
def reservedWord? (text : Octets) : Option Mark :=
  reservedWords.lookup (String.ofList text)

/-- The operators. -/
def operatorSpellings : List (Mark × String) :=
  [(.semicolon, ";"), (.ampersand, "&"), (.andIf, "&&"), (.orIf, "||"), (.pipe, "|"),
    (.openParen, "("), (.closeParen, ")"), (.endArm, ";;")]

namespace Mark

/-- How a mark is spelled, for those that have a spelling. -/
def spelling? (mark : Mark) : Option String :=
  match operatorSpellings.lookup mark with
  | some text => some text
  | none => (reservedWords.find? (·.2 = mark)).map (·.1)

/-- How messages call a mark. -/
def description (mark : Mark) : String :=
  match mark with
  | .endOfText => "end of file"
  | .newline => "newline"
  | mark => "\"" ++ mark.spelling?.getD "" ++ "\""

/-- Whether a list of commands ends in front of a mark. -/
def endsList (mark : Mark) : Bool :=
  [closeParen, endArm, doWord, doneWord, elifWord, elseWord, esacWord, fiWord, thenWord,
    closeBrace, endOfText].contains mark

end Mark

/-- What a redirection does with its target. -/
inductive Arrow
  | file (use : FileUse)
  | duplicate
  /-- Reads a text that follows in the script, perhaps without the tabs at the start of lines. -/
  | document (stripsTabs : Bool)
  deriving DecidableEq, Repr

/-- A token of a script. -/
inductive Token
  | mark (mark : Mark)
  /-- A change of a descriptor, the target of which is the next word. -/
  | redirection (fd : Nat) (arrow : Arrow)
  | word (word : Word)

/-- How messages call a token. -/
def Token.description : Token → String
  | .mark found => found.description
  | .redirection _ _ => "redirection"
  | .word _ => "word"

/-- Whether a token is a mark. -/
def Token.isMark (token : Token) (expected : Mark) : Bool :=
  match token with
  | .mark found => found = expected
  | _ => false

/-- A word with one more part in front.  Text outside quotes is one part as far as it goes. -/
def Word.prepend : Part → Word → Word
  | .bare first, .bare second :: rest => .bare (first ++ second) :: rest
  | part, rest => part :: rest

/-- The text of a part, if it stands outside quotes and nothing replaces it. -/
def Part.bare? : Part → Option Octets
  | .bare octets => some octets
  | _ => none

/-- The text of a word, if nothing in it is quoted or replaced. -/
def Word.bare? (word : Word) : Option Octets :=
  (word.mapM Part.bare?).map List.flatten

/-- Whether some text of a word is quoted. -/
def Word.isQuoted (word : Word) : Bool :=
  word.any fun part =>
    match part with
    | .kept _ | .single _ | .double _ => true
    | _ => false

/-- The text of a part in which nothing is replaced. -/
def Part.text : Part → Octets
  | .bare octets | .kept octets | .single octets => octets
  | .double parts => parts.flatMap fun part =>
    match part with
    | .kept octets => octets
    | _ => []
  | _ => []

/-- The name to which a word gives a value, and the value, if the word has that form. -/
def Word.assignment? : Word → Option (Octets × Word)
  | .bare octets :: rest =>
    match splitAssignment? octets with
    | some (name, value) => some (name, if value.isEmpty then rest else .bare value :: rest)
    | none => none
  | _ => none

end LineShell.Script
