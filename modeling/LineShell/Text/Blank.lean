/-!
# Blank characters

A blank is a character with the Unicode property `White_Space`.  The command line is cut into words
at blanks, and a setting that holds nothing else counts as empty.

## Main definitions

* `blankRanges` — the code points of the property, as closed ranges.
* `isBlank` — the property as a test.
-/

namespace LineShell

/-- The code points with the property `White_Space`, as closed ranges in ascending order. -/
def blankRanges : List (Nat × Nat) :=
  [(0x09, 0x0D), (0x20, 0x20), (0x85, 0x85), (0xA0, 0xA0), (0x1680, 0x1680), (0x2000, 0x200A),
    (0x2028, 0x2029), (0x202F, 0x202F), (0x205F, 0x205F), (0x3000, 0x3000)]

/-- Whether a character is white space by the Unicode property. -/
def isBlank (c : Char) : Bool :=
  blankRanges.any fun range => range.1 ≤ c.toNat && c.toNat ≤ range.2

end LineShell
