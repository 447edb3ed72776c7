/-
**Lists and objects of JSON.**

Elements and members are parted by commas.  What may follow an opening, an element or a comma is
decided here once, for readers of every type.

Main definitions:

* `Next` — whether a container closes or goes on;
* `nextElement`, `nextMember` — finds out which, in a list and in an object;
* `colon` — passes over the colon after a key;
* `closeList` — closes a list after its last wanted element;
* `elements`, `members` — reads everything up to the closing bracket or brace.
-/

import Compliance.Json.Literal

set_option relaxedAutoImplicit false
set_option autoImplicit false

namespace Compliance.Json

/-- What a container does next; either way the bytes left are given. -/
inductive Next
  /-- It has closed. -/
  | closed (rest : List UInt8)
  /-- It goes on with an element, or with a key whose opening quote has been read. -/
  | more (rest : List UInt8)

/-! ### Lists -/

/-- Finds the next element of a list or its end.  A comma comes before every element but the
first. -/
def nextElement (ending : Ending) (first : Bool) (s : List UInt8) : Except Fault Next :=
  match skipBlank s with
  | [] => .error (ending.stop (.endWithin .list))
  | b :: s =>
    if b = byte ']' then .ok (.closed s)
    else if first then .ok (.more (b :: s))
    else if b = byte ',' then
      match skipBlank s with
      | [] => .error (ending.stop (.endWithin .value))
      | c :: s =>
        if c = byte ']' then .error (.seeing .trailingComma (c :: s)) else .ok (.more (c :: s))
    else .error (.seeing .expectedListSeparator (b :: s))

/-- Closes a list after its last wanted element. -/
def closeList (ending : Ending) (s : List UInt8) : Except Fault (List UInt8) :=
  match skipBlank s with
  | [] => .error (ending.stop (.endWithin .list))
  | b :: s =>
    if b = byte ']' then .ok s
    else if b = byte ',' then
      match skipBlank s with
      | [] => .error ⟨.trailingCharacters, 0⟩
      | c :: s =>
        .error (.seeing (if c = byte ']' then .trailingComma else .trailingCharacters) (c :: s))
    else .error (.seeing .trailingCharacters (b :: s))

/-- Reads elements up to the closing bracket.  The first argument bounds their number. -/
def elementsWithin {α : Type} (item : Reader α) (ending : Ending) :
    Nat → Bool → List UInt8 → Except Fault (List α × List UInt8)
  | 0, _, s => .error (.before .expectedValue s)
  | fuel + 1, first, s => do
    match ← nextElement ending first s with
    | .closed rest => return ([], rest)
    | .more s =>
      let (x, s) ← item ending s
      let (xs, rest) ← elementsWithin item ending fuel false s
      return (x :: xs, rest)

/-- Reads the elements of a list after its opening bracket.  Each of them takes a byte, so there
are no more elements than bytes. -/
def elements {α : Type} (item : Reader α) : Reader (List α) := fun ending s =>
  elementsWithin item ending (s.length + 1) true s

/-! ### Objects -/

/-- Finds the next member of an object or its end.  A comma comes before every member but the
first. -/
def nextMember (ending : Ending) (first : Bool) (s : List UInt8) : Except Fault Next :=
  match skipBlank s with
  | [] => .error (ending.stop (.endWithin .object))
  | b :: s =>
    if b = byte '}' then .ok (.closed s)
    else if !first && b ≠ byte ',' then .error (.seeing .expectedObjectSeparator (b :: s))
    else
      match if first then b :: s else skipBlank s with
      | [] => .error (ending.stop (.endWithin .value))
      | c :: s =>
        if c = byte '"' then .ok (.more s)
        else if c = byte '}' then .error (.seeing .trailingComma (c :: s))
        else .error (.seeing .keyNotText (c :: s))

/-- Passes over the colon between a key and its value. -/
def colon (ending : Ending) (s : List UInt8) : Except Fault (List UInt8) :=
  match skipBlank s with
  | [] => .error (ending.stop (.endWithin .object))
  | b :: s => if b = byte ':' then .ok s else .error (.seeing .expectedColon (b :: s))

/-- Reads members up to the closing brace.  The first argument bounds their number. -/
def membersWithin {α : Type} (item : Reader α) (ending : Ending) :
    Nat → Bool → List UInt8 → Except Fault (List (String × α) × List UInt8)
  | 0, _, s => .error (.before .expectedValue s)
  | fuel + 1, first, s => do
    match ← nextMember ending first s with
    | .closed rest => return ([], rest)
    | .more s =>
      let (key, s) ← literal ending s
      let s ← colon ending s
      let (value, s) ← item ending s
      let (entries, rest) ← membersWithin item ending fuel false s
      return ((key, value) :: entries, rest)

/-- Reads the members of an object after its opening brace.  Each of them takes a byte, so there
are no more members than bytes. -/
def members {α : Type} (item : Reader α) : Reader (List (String × α)) := fun ending s =>
  membersWithin item ending (s.length + 1) true s

end Compliance.Json
