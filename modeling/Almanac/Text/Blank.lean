import Almanac.Text.Ranges
/-!
Blank characters: the code points with the Unicode property `White_Space`.

There are twenty-five of them, no letter or digit among them. Texts are trimmed of blanks at both
ends, and date patterns let a run of blanks stand for any run of blanks.
-/

namespace Almanac.Text

/-- The code points with the property `White_Space`, as inclusive ranges in ascending order. -/
def blankRanges : Ranges :=
  [(0x9, 0xD), (0x20, 0x20), (0x85, 0x85), (0xA0, 0xA0), (0x1680, 0x1680), (0x2000, 0x200A),
    (0x2028, 0x2029), (0x202F, 0x202F), (0x205F, 0x205F), (0x3000, 0x3000)]

def isBlank (c : Char) : Bool := blankRanges.has c

def trimStart (cs : List Char) : List Char := cs.dropWhile isBlank

def trimEnd (cs : List Char) : List Char := (cs.reverse.dropWhile isBlank).reverse

/-- The text without the blanks at its ends. -/
def trim (cs : List Char) : List Char := trimEnd (trimStart cs)

example : blankRanges.ascendFrom 0 = true := by decide
example : blankRanges.size = 25 := by decide

end Almanac.Text
