/-
**Blank characters, trimming and words.**

A character is blank if Unicode gives it the White_Space property.  Text is trimmed and split into
words at blank characters only.

Main definitions:

* `isBlank` — the White_Space property;
* `trimEnd`, `trim` — text without its blank ends;
* `words` — the maximal runs of characters that are not blank.
-/

import Compliance.Text.CodeRange

set_option relaxedAutoImplicit false
set_option autoImplicit false

namespace Compliance.Text

/-- The code points with the White_Space property. -/
def blankRanges : List (Nat × Nat) :=
  [(0x09, 0x0D), (0x20, 0x20), (0x85, 0x85), (0xA0, 0xA0), (0x1680, 0x1680), (0x2000, 0x200A),
   (0x2028, 0x2029), (0x202F, 0x202F), (0x205F, 0x205F), (0x3000, 0x3000)]

/-- Whether a character is blank. -/
def isBlank (c : Char) : Bool := inRanges blankRanges c.toNat

/-- The characters without the blank ones at their end. -/
def dropBlankEnd (cs : List Char) : List Char := (cs.reverse.dropWhile isBlank).reverse

/-- A text without the blank characters at its end. -/
def trimEnd (s : String) : String := String.ofList (dropBlankEnd s.toList)

/-- A text without the blank characters at both ends. -/
def trim (s : String) : String := String.ofList (dropBlankEnd (s.toList.dropWhile isBlank))

/-- The maximal runs of characters that are not blank, in order. -/
def words (s : String) : List String :=
  ((s.toList.splitOnP isBlank).filter (· ≠ [])).map String.ofList

end Compliance.Text
