import LineShell.Userland.Script.Pattern
import LineShell.System.OpenFile

/-!
# Paths that match a pattern

A pattern that stands for paths is compared name by name with what is in the directories.  The
slashes in it stand for themselves, and names that begin with a dot have to be asked for.

## Main definitions

* `components` — the parts of a pattern between its slashes.
* `matchingNames` — the names in a directory that match a part.
* `matchingPaths` — the paths that match all parts.
-/

namespace LineShell.Script

/-- The parts of a pattern between its slashes. -/
def components (glyphs : List Glyph) : List (List Glyph) :=
  glyphs.splitOnP (·.octet = '/')

/-- The text for which a part stands that is no pattern: a backslash that is not kept is dropped. -/
def literalText : List Glyph → Octets
  | ⟨'\\', false⟩ :: glyph :: rest => glyph.octet :: literalText rest
  | glyph :: rest => glyph.octet :: literalText rest
  | [] => []

/-- Whether something stands at a path, if only a link. -/
def standsAt (system : System) (here : Location) (path : Octets) : Bool :=
  let purpose : Purpose := if path.getLast? = some '/' then .find else .findLink
  match system.files.locate purpose here path.toBytes with
  | .ok (.entry _ _) => true
  | _ => false

/-- The names in a directory that match a part of a pattern. -/
def matchingNames (system : System) (here : Location) (directory : Octets)
    (part : List Glyph) : List Octets :=
  let path : Octets := if directory.isEmpty then ['.'] else directory
  let names := (system.listDirectory here path.toBytes).toOption.map fun names =>
    ['.'] :: ['.', '.'] :: names.map Octets.ofBytes
  let pattern := Pattern.ofGlyphs part
  let asksForDot := (literalText part).head? = some '.'
  (names.getD []).filter fun name =>
    (asksForDot || name.head? ≠ some '.') && pattern.accepts name

/-- The paths behind a path that match the parts of a pattern. -/
def matchingPathsBehind (system : System) (here : Location) :
    (path : Octets) → List (List Glyph) → List Octets
  | path, [] => if standsAt system here path then [path] else []
  | path, part :: rest =>
    let slash : Octets := if rest.isEmpty then [] else ['/']
    if isWild part then
      let found := (matchingNames system here path part).map fun name => path ++ name ++ slash
      if rest.isEmpty then found
      else found.flatMap fun path => matchingPathsBehind system here path rest
    else matchingPathsBehind system here (path ++ literalText part ++ slash) rest

/-- The paths that match a pattern, in the order of their octets. -/
def matchingPaths (system : System) (here : Location) (glyphs : List Glyph) : List Octets :=
  let parts := components glyphs
  if parts.any isWild then
    (matchingPathsBehind system here [] parts).mergeSort fun a b => !decide (b < a)
  else []

end LineShell.Script
