/-
**Wrapped paragraphs.**

The words of a text are filled greedily into lines of a given width.  The first line starts with
one indent and each later line with another, and both count towards the width.  A word that no
line can hold is cut at the column limit, starting in the room left on the current line.

Main definitions:

* `Margin` — the width of a paragraph and its two indents;
* `Filling` — the lines filled so far;
* `Filling.addWord` — one word more;
* `wrapParagraph` — the lines of a paragraph.
-/

import Compliance.Text.Blank
import Compliance.Text.Width

set_option relaxedAutoImplicit false
set_option autoImplicit false

namespace Compliance.Text

/-- The shape of a paragraph. -/
structure Margin where
  /-- The greatest number of columns of a line. -/
  width : Nat
  /-- What the first line starts with. -/
  initial : String
  /-- What every later line starts with. -/
  subsequent : String

/-- A paragraph being filled. -/
structure Filling where
  /-- The finished lines, the latest first. -/
  finished : List String
  /-- The line being filled. -/
  line : String
  /-- The columns counted for that line. -/
  column : Nat
  /-- Whether the line holds anything of the text. -/
  started : Bool

namespace Filling

/-- Nothing but the first indent. -/
def start (m : Margin) : Filling where
  finished := []
  line := m.initial
  column := displayWidth m.initial
  started := false

/-- Finishes the current line and starts the next one. -/
def breakLine (m : Margin) (f : Filling) : Filling where
  finished := f.line :: f.finished
  line := m.subsequent
  column := displayWidth m.subsequent
  started := false

/-- Columns of the space that parts a word from the one before it on the line. -/
def gap (f : Filling) : Nat := if f.started then 1 else 0

/-- Puts a whole word on the line, after a space if it is not the first. -/
def append (f : Filling) (word : String) : Filling where
  finished := f.finished
  line := (if f.started then f.line.push ' ' else f.line) ++ word
  column := f.column + f.gap + displayWidth word
  started := true

/-- Puts one character on the line, or on the next line if the line already holds something and
has no room for it. -/
def addChar (m : Margin) (f : Filling) (c : Char) : Filling :=
  let f := if f.started && m.width < f.column + charWidth c then f.breakLine m else f
  { f with line := f.line.push c, column := f.column + charWidth c, started := true }

/-- Makes ready for a word that is going to be cut: a space if a column is left after it, else a
new line. -/
def beforeCut (m : Margin) (f : Filling) : Filling :=
  if f.started then
    if f.column + 1 < m.width then { f with line := f.line.push ' ', column := f.column + 1 }
    else f.breakLine m
  else f

/-- Adds a word: on a new line if it fits there and not here, cut if it fits on no line. -/
def addWord (m : Margin) (f : Filling) (word : String) : Filling :=
  let f :=
    if f.started && m.width < f.column + 1 + displayWidth word &&
        displayWidth m.subsequent + displayWidth word ≤ m.width then f.breakLine m
    else f
  if f.column + f.gap + displayWidth word ≤ m.width then f.append word
  else word.toList.foldl (addChar m) (f.beforeCut m)

/-- The lines of a filled paragraph, the last one without blank characters at its end. -/
def lines (f : Filling) : List String :=
  if f.started || f.finished.isEmpty then (trimEnd f.line :: f.finished).reverse
  else f.finished.reverse

end Filling

/-- The lines of a text as a paragraph with the given margin. -/
def Margin.wrap (m : Margin) (text : String) : List String :=
  ((words text).foldl (Filling.addWord m) (Filling.start m)).lines

/-- The lines of a text filled into the given width, with the given indents. -/
def wrapParagraph (text : String) (width : Nat) (initial subsequent : String) : List String :=
  Margin.wrap ⟨width, initial, subsequent⟩ text

end Compliance.Text
