/-
**Scanning JSON input.**

A reader takes what it reads off the front of the bytes that are left.  Between tokens it passes
over blanks.

Main definitions:

* `Reader` — reads one thing off the front of an input;
* `skipBlank` — passes over blanks;
* `look` — looks at the next byte, which fails only on a broken device;
* `word` — reads the rest of `null`, `true` or `false`.
-/

import Compliance.Json.Fault

set_option relaxedAutoImplicit false
set_option autoImplicit false

namespace Compliance.Json

/-- Reads one thing off the front of an input: the thing and the bytes left, or a fault. -/
abbrev Reader (α : Type) := Ending → List UInt8 → Except Fault (α × List UInt8)

/-! ### Bytes -/

/-- The byte of an ASCII character. -/
def byte (c : Char) : UInt8 := c.toNat.toUInt8

/-- Whether a byte is a JSON blank. -/
def isBlank (b : UInt8) : Bool := b = 0x20 || b = 0x09 || b = 0x0A || b = 0x0D

/-- Whether a byte is a decimal digit. -/
def isDigit (b : UInt8) : Bool := 0x30 ≤ b && b ≤ 0x39

/-- The value of a decimal digit. -/
def digit (b : UInt8) : Nat := b.toNat - 0x30

/-! ### Steps that every reader takes -/

/-- The input without the blanks at its front. -/
def skipBlank (s : List UInt8) : List UInt8 := s.dropWhile isBlank

@[simp] theorem skipBlank_nil : skipBlank [] = [] := rfl

theorem skipBlank_cons (b : UInt8) (s : List UInt8) :
    skipBlank (b :: s) = if isBlank b then skipBlank s else b :: s := by
  simp [skipBlank, List.dropWhile_cons]

theorem skipBlank_suffix (s : List UInt8) : skipBlank s <:+ s := List.dropWhile_suffix isBlank

theorem length_skipBlank_le (s : List UInt8) : (skipBlank s).length ≤ s.length :=
  (skipBlank_suffix s).length_le

/-- Looks at the next byte.  The end of an input can be looked at, a failed device cannot. -/
def look (ending : Ending) (s : List UInt8) : Except Fault Unit :=
  match s, ending with
  | [], .broken => .error ⟨.deviceFailed, 0⟩
  | _, _ => .ok ()

/-- Reads the given bytes, the rest of a word. -/
def word (ending : Ending) : List UInt8 → List UInt8 → Except Fault (List UInt8)
  | [], s => .ok s
  | _ :: _, [] => .error (ending.stop (.endWithin .value))
  | w :: ws, b :: s => if b = w then word ending ws s else .error (.before .expectedWord s)

/-- The rest of `null`. -/
def nullTail : List UInt8 := [byte 'u', byte 'l', byte 'l']

/-- The rest of `true`. -/
def trueTail : List UInt8 := [byte 'r', byte 'u', byte 'e']

/-- The rest of `false`. -/
def falseTail : List UInt8 := [byte 'a', byte 'l', byte 's', byte 'e']

end Compliance.Json
