import LineShell.Userland.Script.Pattern

/-!
# Fields

A word whose parts have been replaced is cut into fields.  It is cut only inside of values that were
put in without quotes, at the separators that the script has chosen: those that are blanks count
once however many there are, and each of the others ends a field.

## Main definitions

* `Item`, `Cutting`, `Segment` — a word on its way to fields.
* `Cutter`, `Cutter.step` — the fields so far, and how one item changes them.
* `cutFields` — the fields of a word, or of a line that is read into a number of values.
-/

namespace LineShell.Script

/-- An item of a word. -/
inductive Item
  | glyph (glyph : Glyph)
  /-- The end of one of several values. -/
  | gap
  /-- A quotation mark, because of which there is a field even if it is empty. -/
  | presence
  deriving DecidableEq, Repr

/-- Where a part of a word is cut. -/
inductive Cutting
  | never
  /-- At separators and gaps. -/
  | atSeparators
  /-- At gaps alone. -/
  | atGaps
  deriving DecidableEq, Repr

/-- A part of a word with where it is cut. -/
structure Segment where
  items : List Item
  cutting : Cutting := .never
  deriving DecidableEq, Repr

/-- The separators that are used if a script does not choose others. -/
def standardSeparators : Octets := [' ', '\t', '\n']

/-- Whether a separator is a blank, so that several count as one. -/
def isBlankSeparator (c : Char) : Bool :=
  standardSeparators.contains c

/-- The fields so far. -/
structure Cutter where
  /-- The fields that are complete, the last one first. -/
  complete : List (List Item) := []
  /-- The items of the open field, the last one first. -/
  current : List Item := []
  /-- Whether a blank has ended a field, so that more separators may belong to the same end. -/
  passing : Bool := false
  /-- Whether the last part that is cut is cut at gaps alone. -/
  afterGaps : Bool := false
  /-- How many fields there may still be, if their number is limited. -/
  left : Option Nat := none
  /-- The length of the last field, without what has to be removed from its end. -/
  kept : Option Nat := none

namespace Cutter

/-- Adds an item to the open field. -/
def add (cutter : Cutter) (item : Item) : Cutter :=
  { cutter with current := item :: cutter.current }

/-- What an item does when no further field may be begun: it belongs to the last one, the end of
which is cut off if it could be the end of a field. -/
def addLast (cutter : Cutter) (item : Item) (isSeparator isBlank : Bool) : Cutter :=
  let here := cutter.current.length
  let cutter := cutter.add item
  if isBlank then { cutter with kept := some (cutter.kept.getD here) }
  else
    { cutter with
      kept := if isSeparator && cutter.passing then cutter.kept else none, passing := false }

/-- What an item does in a part that is cut; `strict` tells that blanks end fields like other
separators do. -/
def step (separators : Octets) (onlyGaps strict : Bool) (cutter : Cutter) (item : Item) : Cutter :=
  let isSeparator := match item with
    | .gap => true
    | .glyph glyph => !onlyGaps && separators.contains glyph.octet
    | .presence => false
  let isBlank := isSeparator && match item with
    | .glyph glyph => isBlankSeparator glyph.octet
    | _ => true
  if cutter.left = some 0 then cutter.addLast item isSeparator isBlank
  else if cutter.passing then
    if isBlank then cutter
    else if isSeparator then { cutter with passing := false }
    else { cutter with passing := false }.add item
  else if isSeparator then
    let passing := !strict && isBlank
    if cutter.current.isEmpty && passing then cutter
    else if cutter.left = some 1 then
      let here := cutter.current.length
      { cutter.add item with left := some 0, kept := some here, passing }
    else
      { cutter with
        complete := cutter.current.reverse :: cutter.complete, current := [], passing
        left := cutter.left.map (· - 1) }
  else cutter.add item

/-- What a part of a word does. -/
def addSegment (separators : Octets) (cutter : Cutter) (segment : Segment) : Cutter :=
  let isOnlyGaps := segment.cutting = .atGaps
  match segment.cutting with
  | .never => segment.items.foldl add cutter
  | _ =>
    let strict := cutter.afterGaps || isOnlyGaps
    segment.items.foldl (step separators isOnlyGaps strict)
      { cutter with passing := false, afterGaps := isOnlyGaps }

/-- All fields.  The last one is no field if it is empty, unless it ends several values. -/
def fields (cutter : Cutter) : List (List Item) :=
  let last := match cutter.kept with
    | some length => cutter.current.reverse.take length
    | none => cutter.current.reverse
  let complete := cutter.complete.reverse
  if last.isEmpty && !cutter.afterGaps then complete else complete ++ [last]

end Cutter

/-- The fields of a word; with a limit, those beyond it are part of the last one. -/
def cutFields (separators : Octets) (limit : Option Nat) (segments : List Segment) :
    List (List Item) :=
  (segments.foldl (Cutter.addSegment separators) { left := limit }).fields

/-- The octets of a field. -/
def glyphsOf (items : List Item) : List Glyph :=
  items.filterMap fun item =>
    match item with
    | .glyph glyph => some glyph
    | _ => none

end LineShell.Script
