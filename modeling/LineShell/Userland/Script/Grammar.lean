import LineShell.Userland.Script.Reader

/-!
# Reading the commands of scripts

Commands are read one at a time: a script is carried out up to the line that cannot be read.  A
command that is not complete goes on on the next line.

## Main definitions

* `specialBuiltins` — the commands whose names no function can have.
* `ListEnd` — where a list of commands ends.
* `readList`, `readAndOr`, `readPipeline`, `readCommand`, `readSimple` — commands of all kinds.
* `Reader.nextCommand` — the next complete command of a script.
-/

namespace LineShell.Script

/-- The commands of the language that belong to it more closely than others: an error in one of them
ends the script, values given to them stay, and no function can have their names. -/
def specialBuiltins : List String :=
  [".", ":", "break", "continue", "eval", "exec", "exit", "export", "readonly", "return", "set",
    "shift", "times", "trap", "unset"]

/-- Where a list of commands ends. -/
inductive ListEnd
  /-- At the end of a line. -/
  | line
  /-- In front of a mark that ends lists, behind at least one command. -/
  | mark
  /-- In front of a mark that ends lists, perhaps without any command. -/
  | markOrNothing
  deriving DecidableEq, Repr

/-- A redirection of a descriptor by an arrow, with the target that is the next word. -/
def readTarget (commands : Bool → Reading (Option Command)) (fuel : Nat) (fd : Nat)
    (arrow : Arrow) : Reading Redirection := do
  let place := match arrow with
    | .document _ => Place.delimiter
    | _ => Place.word
  match ← nextToken commands place fuel {} with
  | .word word =>
    match arrow with
    | .file use => return .file fd use word
    | .duplicate => return .duplicate fd word
    | .document stripsTabs => return .document fd (← announceDocument stripsTabs word)
  | _ => unexpected none

/-- A word with all arguments, each one by itself. -/
def allArguments : Word :=
  [.double [.parameter (.arguments false) .value]]

mutual

/-- Commands in a row.  Those before are given; each of these takes one of `fuel` steps. -/
def readList : (fuel : Nat) → ListEnd → (before : Option Command) → Reading (Option Command)
  | 0, _, _ => refuse "Out of space"
  | fuel + 1, listEnd, before => do
    let next := nextToken (readInner fuel) .word fuel
    let token ← next { Checks.all with newlines := listEnd ≠ .line }
    if token.isMark .newline || token.isMark .endOfText then readDocuments (readInner fuel) fuel
    if token.isMark .newline then return before
    pushBack
    let endsHere : Bool := match token with
      | .mark mark =>
        mark == .endOfText || (mark.endsList &&
          (listEnd = .markOrNothing || (listEnd = .mark && before.isSome)))
      | _ => false
    if endsHere then return before
    let command ← readAndOr fuel
    let token ← next {}
    let command := if token.isMark .ampersand then .background command else command
    let command := (before.map (Command.sequence · command)).getD command
    match token with
    | .mark .newline =>
      pushBack
      readList fuel listEnd (some command)
    | .mark .ampersand | .mark .semicolon => readList fuel listEnd (some command)
    | token =>
      if listEnd = .line && !token.isMark .endOfText then unexpected none
      pushBack
      return some command

/-- The commands in a word, either up to the closing parenthesis or up to the end of the text.  The
documents of the commands around them begin behind the word, and documents of theirs that have not
begun stay empty. -/
def readInner : (fuel : Nat) → (closed : Bool) → Reading (Option Command)
  | 0, _ => refuse "Out of space"
  | fuel + 1, closed => do
    let outer := (← get).pending
    modify fun r => { r with pending := [] }
    let body ← readList fuel .markOrNothing none
    if closed then
      let token ← nextToken (readInner fuel) .word fuel {}
      if !token.isMark .closeParen then unexpected (some (.mark .closeParen))
    modify fun r => { r with pending := outer }
    return body

/-- Commands in a row, up to a mark. -/
def readBlock : (fuel : Nat) → (closing : Mark) → Reading Command
  | 0, _ => refuse "Out of space"
  | fuel + 1, closing => do
    let body ← readList fuel .mark none
    let token ← nextToken (readInner fuel) .word fuel {}
    match body with
    | some body => if token.isMark closing then return body else unexpected (some (.mark closing))
    | none => unexpected (some (.mark closing))

/-- Pipelines of which each runs for or against the success of those before. -/
def readAndOr : (fuel : Nat) → Reading Command
  | 0 => refuse "Out of space"
  | fuel + 1 => do readAndOrRest fuel (← readPipeline fuel {})

/-- What follows a pipeline, up to the end of the list of which it is part. -/
def readAndOrRest : (fuel : Nat) → Command → Reading Command
  | 0, _ => refuse "Out of space"
  | fuel + 1, first => do
    let token ← nextToken (readInner fuel) .word fuel {}
    if token.isMark .andIf then
      readAndOrRest fuel (.andThen first (← readPipeline fuel .all))
    else if token.isMark .orIf then
      readAndOrRest fuel (.orElse first (← readPipeline fuel .all))
    else
      pushBack
      return first

/-- Commands of which each reads what the one before prints. -/
def readPipeline : (fuel : Nat) → Checks → Reading Command
  | 0, _ => refuse "Out of space"
  | fuel + 1, checks => do
    let token ← nextToken (readInner fuel) .word fuel checks
    let isNegated := token.isMark .bang
    if !isNegated then pushBack
    let first ← readCommand fuel (if isNegated then ⟨false, true, true⟩ else {})
    let more ← readPipelineRest fuel
    let command := if more.isEmpty then first else .pipeline (first :: more)
    return if isNegated then .negated command else command

/-- The commands behind the first one of a pipeline. -/
def readPipelineRest : (fuel : Nat) → Reading (List Command)
  | 0 => refuse "Out of space"
  | fuel + 1 => do
    let token ← nextToken (readInner fuel) .word fuel {}
    if token.isMark .pipe then
      let command ← readCommand fuel .all
      return command :: (← readPipelineRest fuel)
    else
      pushBack
      return []

/-- A command of any kind, with the redirections behind it. -/
def readCommand : (fuel : Nat) → Checks → Reading Command
  | 0, _ => refuse "Out of space"
  | fuel + 1, checks => do
    let line := (← get).line
    let next := nextToken (readInner fuel) .word fuel
    let token ← next checks
    let redirect (body : Command) : Reading Command := do
      let redirections ← readRedirections fuel
      if redirections.isEmpty then return body
      else return .redirected line body redirections
    match token with
    | .mark .ifWord =>
      let condition ← readBlock fuel .thenWord
      redirect (← readChoice fuel condition)
    | .mark .whileWord =>
      let condition ← readBlock fuel .doWord
      redirect (.loop true condition (← readBlock fuel .doneWord))
    | .mark .untilWord =>
      let condition ← readBlock fuel .doWord
      redirect (.loop false condition (← readBlock fuel .doneWord))
    | .mark .forWord =>
      let name? := match ← next {} with
        | .word word => word.bare?.filter isName
        | _ => none
      let some name := name? | refuse "Bad for loop variable"
      let items ←
        if (← next .all).isMark .inWord then readItems fuel
        else
          if !(← get).last.isMark .semicolon then pushBack
          pure [allArguments]
      if !(← next .all).isMark .doWord then unexpected (some (.mark .doWord))
      redirect (.forEach line name items (← readBlock fuel .doneWord))
    | .mark .caseWord =>
      let .word word ← next {} | unexpected (some (.word []))
      if !(← next .all).isMark .inWord then unexpected (some (.mark .inWord))
      redirect (.case line word (← readArms fuel))
    | .mark .openParen =>
      let body ← readBlock fuel .closeParen
      return .subshell line body (← readRedirections fuel)
    | .mark .openBrace => redirect (← readBlock fuel .closeBrace)
    | .word _ | .redirection _ _ =>
      pushBack
      readSimple fuel line true [] [] []
    | .mark _ => unexpected none

/-- What depends on a condition, which has been read together with the word behind it. -/
def readChoice : (fuel : Nat) → (condition : Command) → Reading Command
  | 0, _ => refuse "Out of space"
  | fuel + 1, condition => do
    let some success ← readList fuel .mark none | unexpected (some (.mark .fiWord))
    let token ← nextToken (readInner fuel) .word fuel {}
    if token.isMark .elifWord then
      let other ← readBlock fuel .thenWord
      return .choice condition success (some (← readChoice fuel other))
    else if token.isMark .elseWord then
      return .choice condition success (some (← readBlock fuel .fiWord))
    else if token.isMark .fiWord then return .choice condition success none
    else unexpected (some (.mark .fiWord))

/-- The items of a loop over words, up to the end of the line. -/
def readItems : (fuel : Nat) → Reading (List Word)
  | 0 => refuse "Out of space"
  | fuel + 1 => do
    match ← nextToken (readInner fuel) .word fuel {} with
    | .word word => return word :: (← readItems fuel)
    | token =>
      if token.isMark .newline || token.isMark .semicolon then return []
      else unexpected none

/-- The arms of a choice by patterns, up to the word that closes it. -/
def readArms : (fuel : Nat) → Reading (List (List Word × Option Command))
  | 0 => refuse "Out of space"
  | fuel + 1 => do
    let next := nextToken (readInner fuel) .word fuel
    let token ← next ⟨true, true, false⟩
    if token.isMark .esacWord then return []
    let token ← if token.isMark .openParen then next {} else pure token
    let patterns ← readPatterns fuel token
    let body ← readList fuel .markOrNothing none
    let token ← next ⟨true, true, false⟩
    if token.isMark .esacWord then return [(patterns, body)]
    else if token.isMark .endArm then return (patterns, body) :: (← readArms fuel)
    else unexpected (some (.mark .endArm))

/-- Patterns up to the closing parenthesis, the first of which has been taken. -/
def readPatterns : (fuel : Nat) → (first : Token) → Reading (List Word)
  | 0, _ => refuse "Out of space"
  | fuel + 1, first => do
    let pattern : Word := match first with
      | .word word => word
      | .mark mark => [.bare (mark.spelling?.getD "").toList]
      | .redirection _ _ => []
    let next := nextToken (readInner fuel) .word fuel
    let token ← next {}
    if token.isMark .pipe then return pattern :: (← readPatterns fuel (← next {}))
    else if token.isMark .closeParen then return [pattern]
    else unexpected (some (.mark .closeParen))

/-- The redirections behind a command. -/
def readRedirections : (fuel : Nat) → Reading (List Redirection)
  | 0 => refuse "Out of space"
  | fuel + 1 => do
    match ← nextToken (readInner fuel) .word fuel ⟨false, true, true⟩ with
    | .redirection fd arrow =>
      let redirection ← readTarget (readInner fuel) fuel fd arrow
      return redirection :: (← readRedirections fuel)
    | _ =>
      pushBack
      return []

/-- A command of words and redirections, or the definition of a function.  What has been read of it
is given, the last item first; `atStart` tells that no word has come yet which is no value. -/
def readSimple : (fuel : Nat) → (line : Nat) → (atStart : Bool) → List (Octets × Word) →
    List Word → List Redirection → Reading Command
  | 0, _, _, _, _, _ => refuse "Out of space"
  | fuel + 1, line, atStart, values, words, redirections => do
    let next := nextToken (readInner fuel) .word fuel
    match ← next ⟨false, false, atStart⟩, words with
    | .word word, _ =>
      match if atStart then word.assignment? else none with
      | some value => readSimple fuel line true (value :: values) words redirections
      | none => readSimple fuel line false values (word :: words) redirections
    | .redirection fd arrow, _ =>
      let redirection ← readTarget (readInner fuel) fuel fd arrow
      readSimple fuel line atStart values words (redirection :: redirections)
    | .mark .openParen, [word] =>
      if !values.isEmpty || !redirections.isEmpty then unexpected none
      if !(← next {}).isMark .closeParen then unexpected (some (.mark .closeParen))
      let isFree (name : Octets) : Bool :=
        isName name && !specialBuiltins.contains (String.ofList name)
      let some name := word.bare?.filter isFree | refuse "Bad function name"
      return .function line name (← readCommand fuel .all)
    | _, _ =>
      pushBack
      return .simple line values.reverse words.reverse redirections.reverse

end

/-- How many steps reading a text can take. -/
def readingSteps (text : Octets) : Nat :=
  20 * (text.length + 10)

/-- A text with values in it that are replaced as in a document.  One that cannot be read stands for
itself. -/
def documentOf (text : Octets) : Word :=
  let steps := readingSteps text
  match readParts (readInner steps) steps (.document none) 0 { rest := text } with
  | .ok word _ => word
  | .error _ _ => [.kept text]

/-- The next complete command of a script, if there is one before the end of the line, or what is
wrong with it. -/
def Reader.nextCommand (r : Reader) : Except SyntaxError (Option Command) × Reader :=
  let start := { r with pushed := none, last := .mark .endOfText }
  match readList (readingSteps r.rest) .line none start with
  | .ok command r => (.ok command, { r with pushed := none })
  | .error e r => (.error e, r)

end LineShell.Script
