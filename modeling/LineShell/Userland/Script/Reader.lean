import LineShell.Userland.Script.Token

/-!
# Reading the words of scripts

A script is read from its start, one character after the other.  A backslash at the end of a line
joins it with the next one, except between single quotes.  The words of a script can hold commands,
so what reads those is handed to the functions here.

## Main definitions

* `Reader`, `Reading`, `SyntaxError` — the text that is left, and acts that take from it.
* `Place`, `readParts` — the parts of a word, or of a text in which parts are replaced.
* `Document`, `readDocuments` — the texts that stand on the lines behind the current one.
* `Checks`, `nextToken` — the next token, and what may become of it.
-/

namespace LineShell.Script

/-- What is wrong with a script, and on which line. -/
structure SyntaxError where
  line : Nat
  message : String
  deriving DecidableEq, Repr

/-- The end of a text that is part of the script. -/
structure Document.End where
  /-- The line behind the last one of the text. -/
  mark : Octets
  /-- Whether tabs at the start of lines do not count. -/
  stripsTabs : Bool
  deriving DecidableEq, Repr

/-- A text that is part of the script and stands on the lines behind the current one. -/
structure Document where
  /-- The number by which commands refer to it. -/
  number : Nat
  ending : Document.End
  /-- Whether nothing in it is replaced. -/
  isLiteral : Bool
  deriving DecidableEq, Repr

/-- The text of a script that is left, and what is known about what comes before it. -/
structure Reader where
  rest : Octets
  /-- The number of the current line. -/
  line : Nat := 1
  /-- The texts that have been read, by their numbers. -/
  documents : Array Word := #[]
  /-- The texts that begin behind the next line feed. -/
  pending : List Document := []
  /-- The token that has been put back. -/
  pushed : Option Token := none
  /-- The last token. -/
  last : Token := .mark .newline
  /-- Whether the end of the text has been reached. -/
  atEnd : Bool := false
  /-- The words that stand for other text. -/
  aliases : List (Octets × Octets) := []
  /-- The words that are being replaced, each with how much text is left behind what replaces it. -/
  replacing : List (Octets × Nat) := []

/-- An act that takes from the text of a script. -/
abbrev Reading := EStateM SyntaxError Reader

/-- Refuses the script. -/
def refuse {α : Type} (message : String) : Reading α := do
  throw ⟨(← get).line, message⟩

/-- Refuses the script because of its last token, where perhaps another one is expected. -/
def unexpected {α : Type} (expected : Option Token) : Reading α := do
  let found := (← get).last.description ++ " unexpected"
  refuse (match expected with
    | some token => found ++ " (expecting " ++ token.description ++ ")"
    | none => found)

/-- The text behind the ends of joined lines at its start, and how many there are. -/
def skipJoins : Octets → Octets × Nat
  | '\\' :: '\n' :: rest =>
    let (rest, count) := skipJoins rest
    (rest, count + 1)
  | rest => (rest, 0)

/-- The characters of a kind at the start of a text, what follows them, and how many lines are
joined between. -/
def spanJoined (p : Char → Bool) : Octets → Octets × Octets × Nat
  | '\\' :: '\n' :: rest =>
    let (run, rest, count) := spanJoined p rest
    (run, rest, count + 1)
  | c :: rest =>
    if p c then
      let (run, rest, count) := spanJoined p rest
      (c :: run, rest, count)
    else ([], c :: rest, 0)
  | [] => ([], [], 0)

/-- The next character, which is not taken, as it stands. -/
def peekRaw : Reading (Option Char) := do
  let r ← get
  if r.rest.isEmpty then set { r with atEnd := true }
  return r.rest.head?

/-- The next character, which is not taken.  Joined lines are one line. -/
def peek : Reading (Option Char) := do
  let r ← get
  let (rest, count) := skipJoins r.rest
  set { r with rest, line := r.line + count }
  peekRaw

/-- Takes a character. -/
def skip : Reading Unit := do
  let r ← get
  match r.rest with
  | [] => return ()
  | '\n' :: rest => set { r with rest, line := r.line + 1 }
  | _ :: rest => set { r with rest }

/-- Takes the next character if it is a certain one, and tells whether it is. -/
def skipIf (c : Char) : Reading Bool := do
  if (← peek) = some c then
    skip
    return true
  else return false

/-- Takes the characters of a kind, which line feeds do not belong to. -/
def takeWhile (p : Char → Bool) : Reading Octets := do
  let r ← get
  let (run, rest, count) := spanJoined p r.rest
  set { r with rest, line := r.line + count }
  return run

/-- Takes all text up to a character and the character itself.  Lines are not joined. -/
def takeThrough (c : Char) : Reading Octets := do
  let r ← get
  let text := r.rest.takeWhile (· ≠ c)
  match r.rest.dropWhile (· ≠ c) with
  | [] =>
    set { r with rest := [], line := r.line + text.count '\n', atEnd := true }
    refuse "Unterminated quoted string"
  | _ :: rest =>
    set { r with rest, line := r.line + text.count '\n' }
    return text

/-- Takes the line that ends a document if it comes next, and tells whether it does. -/
def skipEnd (ending : Document.End) : Reading Bool := do
  let r ← get
  let text := if ending.stripsTabs then r.rest.dropWhile (· = '\t') else r.rest
  match ending.mark.isPrefixOf text, text.drop ending.mark.length with
  | true, [] =>
    set { r with rest := [], atEnd := true }
    return true
  | true, '\n' :: rest =>
    set { r with rest, line := r.line + 1 }
    return true
  | _, _ =>
    set { r with rest := text }
    return false

/-- Where the parts of a word stand, which tells what is special there and where they end. -/
structure Place where
  /-- The character that ends the parts.  Without it they end at the end of a word or the text. -/
  closing : Option Char := none
  /-- Whether the parts are a word of a command, which ends at blanks and operators. -/
  isWord : Bool := false
  /-- Whether text stands for itself, as between double quotes. -/
  quoted : Bool := true
  /-- Whether the parts stand between the braces of a parameter. -/
  inBraces : Bool := false
  /-- Whether parameters and commands are replaced. -/
  replaces : Bool := true
  /-- The end of the document of which the parts are. -/
  ending : Option Document.End := none

namespace Place

/-- A word of a command. -/
def word : Place where
  isWord := true
  quoted := false

/-- A word that only marks the end of a text. -/
def delimiter : Place :=
  { word with replaces := false }

/-- A text that is part of the script, up to its end if that is marked. -/
def document (ending : Option Document.End) : Place where
  ending

/-- An expression, up to two closing parentheses. -/
def expression (place : Place) : Place where
  closing := some ')'
  ending := place.ending

/-- What stands between double quotes. -/
def quotes (place : Place) : Place :=
  { place with closing := some '"', isWord := false, quoted := true }

/-- What stands between the braces of a parameter.  A pattern is not affected by quotes around the
parameter. -/
def braces (place : Place) (isPattern : Bool) : Place :=
  { place with
    closing := some '\x7d', isWord := false, quoted := place.quoted && !isPattern,
    inBraces := true }

/-- What is wrong if the text ends before the parts do. -/
def complaint (place : Place) : String :=
  if place.closing = some ')' then "Missing '))'"
  else if place.quoted && place.ending.isNone then "Unterminated quoted string"
  else "Missing '\x7d'"

/-- Whether a character after a backslash stands for itself, so that the backslash is dropped. -/
def escapes (place : Place) (c : Char) : Bool :=
  !place.quoted || "\\`$".toList.contains c
    || (c = '"' && (place.closing.isSome || place.inBraces))
    || (c = '\x7d' && place.inBraces)

/-- Text as a part that stands in a place. -/
def text (place : Place) (octets : Octets) : Part :=
  if place.quoted then .kept octets else .bare octets

end Place

/-- The characters that end a word. -/
def endsWord (c : Char) : Bool :=
  " \t\n;&|<>()".toList.contains c

/-- The characters that can have a meaning of their own somewhere. -/
def isSpecial (c : Char) : Bool :=
  endsWord c || "\\'\"$`\x7d".toList.contains c

/-- The parameters that are called by a character which begins no name. -/
def specialParameters : List (Char × Parameter) :=
  [('@', .arguments false), ('*', .arguments true), ('#', .count), ('?', .status),
    ('-', .options), ('$', .process), ('!', .background)]

/-- The parameter of a single character. -/
def specialParameter? (c : Char) : Option Parameter :=
  if c.isDigit then some (.positional (digitValue c)) else specialParameters.lookup c

/-- The text between backquotes with the backslashes dropped that keep its characters from having a
meaning there, up to the closing backquote. -/
def readBackquoted (place : Place) : (fuel : Nat) → Reading Octets
  | 0 => refuse "Out of space"
  | fuel + 1 => do
    match ← peek with
    | none => refuse "EOF in backquote substitution"
    | some '`' =>
      skip
      return []
    | some '\\' =>
      skip
      let c ← peekRaw
      skip
      let isDropped := "\\`$".toList.contains (c.getD '\x00') || (place.quoted && c = some '"')
      let kept := c.toList
      return (if isDropped then kept else '\\' :: kept) ++ (← readBackquoted place fuel)
    | some c =>
      skip
      return c :: (← readBackquoted place fuel)

/-- The commands of another text. -/
def readWithin (text : Octets) (commands : Reading (Option Command)) :
    Reading (Option Command) := do
  let outer ← get
  set { rest := text, aliases := outer.aliases, documents := outer.documents : Reader }
  let body ← commands
  modify fun inner => { outer with documents := inner.documents }
  return body

/-- A parameter without braces, of which the first character has not been taken. -/
def readPlainParameter (c : Char) : Reading Parameter := do
  if isNameStart c then return .named (← takeWhile isNamePart)
  skip
  return (specialParameter? c).getD .count

/-- A parameter between braces, or that whose length is asked for, if there is one. -/
def readBracedParameter : Reading (Option (Parameter × Bool)) := do
  let some c ← peek | return none
  if isNameStart c then return some (.named (← takeWhile isNamePart), false)
  else if c.isDigit then
    return some (.positional (valueIn 10 (← takeWhile Char.isDigit)), false)
  else if c = '\x7d' then return none
  skip
  if c ≠ '#' then return (specialParameter? c).map (·, false)
  let some next ← peek | return some (.count, false)
  if isNameStart next then return some (.named (← takeWhile isNamePart), true)
  else if next.isDigit then
    return some (.positional (valueIn 10 (← takeWhile Char.isDigit)), true)
  else if next ≠ '\x7d' && (← get).rest[1]? = some '\x7d' then
    skip
    return (specialParameter? next).map (·, true)
  else return some (.count, false)

/-- Whether the document ends whose parts stand in a place, at the start of a line. -/
def endsDocument (place : Place) : Reading Bool := do
  let some ending := place.ending | return false
  discard peek
  skipEnd ending

/-- The parts up to the end of a place.  The commands between parentheses are read by `commands
true` with the closing one, and those that are the whole text by `commands false`; `depth`
parentheses are open in an expression.  Each part takes one of `fuel` steps. -/
def readParts (commands : Bool → Reading (Option Command)) :
    (fuel : Nat) → Place → (depth : Nat) → Reading Word
  | 0, _, _ => refuse "Out of space"
  | fuel + 1, place, depth => do
    let goOn (part : Part) : Reading Word := do
      return Word.prepend part (← readParts commands fuel place depth)
    match ← peek with
    | none =>
      if place.closing.isSome then refuse place.complaint else return []
    | some c =>
      if place.isWord && endsWord c then return []
      else if place.closing = some c && c ≠ ')' then
        skip
        return []
      else if place.closing = some ')' && c = '(' then
        skip
        return place.text ['('] :: (← readParts commands fuel place (depth + 1))
      else if place.closing = some ')' && c = ')' then
        skip
        if depth ≠ 0 then
          return place.text [')'] :: (← readParts commands fuel place (depth - 1))
        else if ← skipIf ')' then return []
        else goOn (place.text [')'])
      else if c = '\n' && place.ending.isSome then
        skip
        if !(← endsDocument place) then goOn (place.text ['\n'])
        else if place.closing.isSome then refuse place.complaint
        else return [place.text ['\n']]
      else if c = '\\' then
        skip
        match ← peekRaw with
        | none => goOn (.kept ['\\'])
        | some escaped =>
          skip
          goOn (.kept (if place.escapes escaped then [escaped] else ['\\', escaped]))
      else if c = '\'' && !place.quoted then
        skip
        goOn (.single (← takeThrough '\''))
      else if c = '"' && place.closing ≠ some ')' && (place.isWord || place.inBraces) then
        skip
        goOn (.double (← readParts commands fuel place.quotes 0))
      else if c = '`' && place.replaces then
        skip
        let text ← readBackquoted place (fuel + 1)
        goOn (.substitution (← readWithin text (commands false)))
      else if c = '$' && place.replaces then
        skip
        match ← peek with
        | some '(' =>
          skip
          if ← skipIf '(' then goOn (.arithmetic (← readParts commands fuel place.expression 0))
          else goOn (.substitution (← commands true))
        | some '\x7b' =>
          skip
          let parameter? ← readBracedParameter
          let word (isPattern : Bool) : Reading Word :=
            readParts commands fuel (place.braces isPattern) 0
          let some (parameter, isLength) := parameter? |
            discard (word false)
            goOn (.parameter .count .unknown)
          let operator ← peek
          if operator = some '\x7d' then
            skip
            goOn (.parameter parameter (if isLength then .length else .value))
          else if isLength then
            discard (word false)
            goOn (.parameter parameter .unknown)
          else
            skip
            let orEmpty := operator = some ':'
            let operator ← if orEmpty then peek else pure operator
            if orEmpty then skip
            match operator with
            | some '-' => goOn (.parameter parameter (.fallback orEmpty (← word false)))
            | some '=' => goOn (.parameter parameter (.assign orEmpty (← word false)))
            | some '?' => goOn (.parameter parameter (.demand orEmpty (← word false)))
            | some '+' => goOn (.parameter parameter (.replace orEmpty (← word false)))
            | some sign =>
              if !orEmpty && (sign = '#' || sign = '%') then
                let isLongest ← skipIf sign
                let which : Trim := match sign == '#', isLongest with
                  | true, false => .shortestStart
                  | true, true => .longestStart
                  | false, false => .shortestEnd
                  | false, true => .longestEnd
                goOn (.parameter parameter (.trim which (← word true)))
              else
                discard (word false)
                goOn (.parameter parameter .unknown)
            | none => refuse (place.braces false).complaint
        | some c =>
          if isNameStart c || (specialParameter? c).isSome then
            goOn (.parameter (← readPlainParameter c) .value)
          else goOn (place.text ['$'])
        | none => goOn (place.text ['$'])
      else if isSpecial c then
        skip
        goOn (if c = '`' && place.isWord then .kept [c] else place.text [c])
      else goOn (place.text (← takeWhile fun c => !isSpecial c))

/-- Adds a text that begins behind the next line feed, and gives its number. -/
def announceDocument (stripsTabs : Bool) (delimiter : Word) : Reading Nat := do
  let r ← get
  let document : Document :=
    { number := r.documents.size
      ending := { mark := delimiter.flatMap Part.text, stripsTabs }
      isLiteral := delimiter.isQuoted }
  set { r with documents := r.documents.push [], pending := r.pending ++ [document] }
  return document.number

/-- The lines up to the end of a document.  Each of them takes one of `fuel` steps. -/
def takeLines (ending : Document.End) : (fuel : Nat) → Reading Octets
  | 0 => refuse "Out of space"
  | fuel + 1 => do
    if ← skipEnd ending then return []
    let r ← get
    let line := r.rest.takeWhile (· ≠ '\n')
    match r.rest.dropWhile (· ≠ '\n') with
    | [] =>
      set { r with rest := [], atEnd := true }
      return line
    | _ :: rest =>
      set { r with rest, line := r.line + 1 }
      return line ++ '\n' :: (← takeLines ending fuel)

/-- The text of a document, which begins here. -/
def readDocument (commands : Bool → Reading (Option Command)) (fuel : Nat)
    (document : Document) : Reading Word := do
  if document.isLiteral then return [.kept (← takeLines document.ending fuel)]
  let place := Place.document (some document.ending)
  if ← endsDocument place then return [] else readParts commands fuel place 0

/-- The documents that begin here. -/
def readDocuments (commands : Bool → Reading (Option Command)) (fuel : Nat) : Reading Unit := do
  let pending := (← get).pending
  modify fun r => { r with pending := [] }
  pending.forM fun document => do
    let text ← readDocument commands fuel document
    modify fun r => { r with documents := r.documents.setIfInBounds document.number text }

/-- What may become of a token before it is used. -/
structure Checks where
  /-- Line feeds in front of it are passed over. -/
  newlines : Bool := false
  /-- It may be a reserved word. -/
  reserved : Bool := false
  /-- It may stand for other text. -/
  aliases : Bool := false

/-- All checks, for a token with which a command may begin. -/
def Checks.all : Checks := ⟨true, true, true⟩

/-- The operator that begins with a character, which has been taken. -/
def readOperator (c : Char) : Reading (Option Mark) := do
  match c with
  | '\n' => return some .newline
  | '&' => return some (if ← skipIf '&' then .andIf else .ampersand)
  | '|' => return some (if ← skipIf '|' then .orIf else .pipe)
  | ';' => return some (if ← skipIf ';' then .endArm else .semicolon)
  | '(' => return some .openParen
  | ')' => return some .closeParen
  | _ => return none

/-- The redirection that begins with an angle bracket, which has been taken. -/
def readArrow (c : Char) : Reading Arrow := do
  if c = '>' then
    if ← skipIf '>' then return .file .append
    else if ← skipIf '|' then return .file .overwrite
    else if ← skipIf '&' then return .duplicate
    else return .file .write
  else
    if ← skipIf '<' then return .document (← skipIf '-')
    else if ← skipIf '&' then return .duplicate
    else if ← skipIf '>' then return .file .update
    else return .file .read

/-- The descriptor in front of a redirection, if the word there is one or missing. -/
def arrowDescriptor? (c : Char) (word : Word) : Option Nat :=
  match word with
  | [] => some (if c = '>' then 1 else 0)
  | [.bare [digit]] => if digit.isDigit then some (digitValue digit) else none
  | _ => none

/-- The next token as it stands, read from the text. -/
def readToken (commands : Bool → Reading (Option Command)) (fuel : Nat) (place : Place) :
    Reading Token := do
  discard (takeWhile isBlank)
  if (← peek) = some '#' then
    modify fun r => { r with rest := r.rest.dropWhile (· ≠ '\n') }
  let some c ← peek | return .mark .endOfText
  if endsWord c && c ≠ '<' && c ≠ '>' then
    skip
    return .mark ((← readOperator c).getD .newline)
  let word ← readParts commands fuel place 0
  match ← peek with
  | some c =>
    if c = '<' || c = '>' then
      match arrowDescriptor? c word with
      | some fd =>
        skip
        return .redirection fd (← readArrow c)
      | none => return .word word
    else return .word word
  | none => return .word word

/-- Forgets the replaced words whose text has been used up, and tells whether the text of one of
them ends in a blank. -/
def endReplacing : Reading Bool := do
  let r ← get
  if r.replacing.isEmpty then return false
  let left := r.rest.length
  let (done, open_) := r.replacing.partition fun entry => left ≤ entry.2
  set { r with replacing := open_ }
  return done.any fun entry =>
    (((r.aliases.lookup entry.1).getD []).getLast?.map isBlank).getD false

/-- The next token. -/
def nextToken (commands : Bool → Reading (Option Command)) (place : Place) :
    (fuel : Nat) → Checks → Reading Token
  | 0, _ => refuse "Out of space"
  | fuel + 1, checks => do
    let r ← get
    let token ← match r.pushed with
      | some token =>
        set { r with pushed := none }
        pure token
      | none => readToken commands fuel place
    let passesBlank ← endReplacing
    let keep (token : Token) : Reading Token := do
      modify fun r => { r with last := token }
      return token
    match token with
    | .mark .newline =>
      if checks.newlines then
        readDocuments commands fuel
        nextToken commands place fuel checks
      else keep token
    | .word word =>
      let some text := word.bare? | keep token
      let mark? := if checks.reserved then reservedWord? text else none
      if let some mark := mark? then keep (.mark mark)
      else if checks.aliases || passesBlank then
        let r ← get
        match r.aliases.lookup text with
        | some value =>
          if r.replacing.any (·.1 = text) then keep token
          else
            set { r with
              rest := value ++ r.rest, replacing := (text, r.rest.length) :: r.replacing }
            nextToken commands place fuel checks
        | none => keep token
      else keep token
    | token => keep token

/-- Puts the last token back. -/
def pushBack : Reading Unit :=
  modify fun r => { r with pushed := some r.last }

end LineShell.Script
