/-
**Readers of typed JSON values.**

A reader of a type looks at the first byte of a value.  If that byte starts a value of another type,
as much of the value is read as a message about it needs.

Main definitions:

* `offender`, `mismatch` — reads a value of another type, and the fault that it makes;
* `text`, `flag`, `count` — readers of strings, booleans and 64-bit counts;
* `list`, `dict` — readers of arrays and of objects with arbitrary keys.
-/

import Compliance.Json.Container
import Compliance.Json.Numeral

set_option relaxedAutoImplicit false
set_option autoImplicit false

namespace Compliance.Json

/-! ### Values of another type -/

/-- A word as what was found. -/
def foundWord (ending : Ending) (found : Found) (tail s : List UInt8) :
    Except Fault (Found × Nat) := do
  let rest ← word ending tail s
  return (found, rest.length)

/-- A number as what was found; the byte after it has been looked at. -/
def foundNumber (ending : Ending) (negative : Bool) (s : List UInt8) :
    Except Fault (Found × Nat) := do
  let (n, rest) ← number negative ending s
  return (.number n, rest.length - 1)

/-- Reads a value for a message: what it is and how many bytes are left unread.  Of a list or an
object only the opening is looked at. -/
def offender (ending : Ending) : List UInt8 → Except Fault (Found × Nat)
  | [] => .error (ending.stop (.endWithin .value))
  | b :: s =>
    if b = byte 'n' then foundWord ending .null nullTail s
    else if b = byte 't' then foundWord ending (.flag true) trueTail s
    else if b = byte 'f' then foundWord ending (.flag false) falseTail s
    else if b = byte '-' then foundNumber ending true s
    else if isDigit b then foundNumber ending false (b :: s)
    else if b = byte '"' then do
      let (t, rest) ← literal ending s
      return (.text t, rest.length)
    else if b = byte '[' then .ok (.sequence, s.length)
    else if b = byte '{' then .ok (.map, s.length)
    else .error (.seeing .expectedValue (b :: s))

/-- The fault of a value that is not of the expected type. -/
def mismatch (ending : Ending) (expected : String) (s : List UInt8) : Fault :=
  match offender ending s with
  | .ok (found, unread) => ⟨.invalidType found expected, unread⟩
  | .error fault => fault

/-! ### Scalars -/

/-- Reads a string; the first argument says what is expected. -/
def text (expected : String) : Reader String := fun ending s =>
  match skipBlank s with
  | [] => .error (ending.stop (.endWithin .value))
  | b :: s =>
    if b = byte '"' then literal ending s else .error (mismatch ending expected (b :: s))

/-- Reads a boolean. -/
def flag : Reader Bool := fun ending s =>
  match skipBlank s with
  | [] => .error (ending.stop (.endWithin .value))
  | b :: s =>
    if b = byte 't' then (word ending trueTail s).map (true, ·)
    else if b = byte 'f' then (word ending falseTail s).map (false, ·)
    else .error (mismatch ending "a boolean" (b :: s))

/-- What a count is called in a message. -/
def countName : String := "usize"

/-- The count that a number stands for, or what is wrong with the number. -/
def countOf : Number → Except Cause UInt64
  | .natural n => .ok n.toUInt64
  | .negative n => .error (.invalidValue (.number (.negative n)) countName)
  | .floating x => .error (.invalidType (.number (.floating x)) countName)

/-- Reads a number as a count. -/
def countNumber (negative : Bool) : Reader UInt64 := fun ending s => do
  let (n, rest) ← number negative ending s
  match countOf n with
  | .ok n => return (n, rest)
  | .error cause => throw (.seeing cause rest)

/-- Reads a count of 64 bits. -/
def count : Reader UInt64 := fun ending s =>
  match skipBlank s with
  | [] => .error (ending.stop (.endWithin .value))
  | b :: s =>
    if b = byte '-' then countNumber true ending s
    else if isDigit b then countNumber false ending (b :: s)
    else .error (mismatch ending countName (b :: s))

/-! ### Containers -/

/-- Reads an array of values of one type. -/
def list {α : Type} (item : Reader α) : Reader (List α) := fun ending s =>
  match skipBlank s with
  | [] => .error (ending.stop (.endWithin .value))
  | b :: s =>
    if b = byte '[' then elements item ending s
    else .error (mismatch ending "a sequence" (b :: s))

/-- Reads an object with arbitrary keys and values of one type, in the order of its members. -/
def dict {α : Type} (item : Reader α) : Reader (List (String × α)) := fun ending s =>
  match skipBlank s with
  | [] => .error (ending.stop (.endWithin .value))
  | b :: s =>
    if b = byte '{' then members item ending s
    else .error (mismatch ending "a map" (b :: s))

/-- Reads a value and applies a function to it. -/
def mapped {α β : Type} (f : α → β) (item : Reader α) : Reader β := fun ending s =>
  (item ending s).map fun (x, rest) => (f x, rest)

/-! ### Whole inputs -/

/-- Reads a value that takes the whole input, but for blanks. -/
def whole {α : Type} (item : Reader α) (ending : Ending) (s : List UInt8) : Except Fault α := do
  let (x, rest) ← item ending s
  let rest := skipBlank rest
  look ending rest
  if rest = [] then return x else throw (.seeing .trailingCharacters rest)

end Compliance.Json
