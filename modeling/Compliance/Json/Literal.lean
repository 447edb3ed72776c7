/-
**String literals of JSON.**

The bytes between two quotes are read one at a time.  What is owed after a byte, such as the digits
of an escape or the partner of a surrogate, is the state of a small machine; every fault is raised
by the byte that the machine cannot take.

Main definitions:

* `Owed` — what a literal owes after the bytes read so far;
* `Owed.take` — the machine's step: the bytes that a byte adds, and what is owed then;
* `literalBytes` — the decoded bytes of a literal;
* `literal` — the text of a literal, which must be UTF-8;
* `skipLiteral` — passes over a literal, whose surrogates need not pair up.
-/

import Compliance.Json.Scan
import Compliance.Text.Utf8

set_option relaxedAutoImplicit false
set_option autoImplicit false

namespace Compliance.Json

/-! ### Escapes -/

/-- The value of a hexadecimal digit. -/
def hexDigit? (b : UInt8) : Option Nat :=
  if isDigit b then some (digit b)
  else if 0x41 ≤ b && b ≤ 0x46 then some (b.toNat - 0x41 + 10)
  else if 0x61 ≤ b && b ≤ 0x66 then some (b.toNat - 0x61 + 10)
  else none

/-- The value of hexadecimal digits, the last one first. -/
def hexValue? : List UInt8 → Option Nat
  | [] => some 0
  | b :: bs => do
    let high ← hexValue? bs
    let low ← hexDigit? b
    return high * 16 + low

/-- The byte that a short escape stands for. -/
def shortEscape? (b : UInt8) : Option UInt8 :=
  if b = byte '"' || b = byte '\\' || b = byte '/' then some b
  else if b = byte 'b' then some 0x08
  else if b = byte 'f' then some 0x0C
  else if b = byte 'n' then some 0x0A
  else if b = byte 'r' then some 0x0D
  else if b = byte 't' then some 0x09
  else none

/-- Whether a code unit is the first half of a surrogate pair. -/
def isLeading (unit : Nat) : Bool := 0xD800 ≤ unit && unit < 0xDC00

/-- Whether a code unit is the second half of a surrogate pair. -/
def isTrailing (unit : Nat) : Bool := 0xDC00 ≤ unit && unit < 0xE000

/-- The character of a surrogate pair. -/
def pairedChar (leading trailing : Nat) : Char :=
  Char.ofNat (0x10000 + (leading - 0xD800) * 0x400 + (trailing - 0xDC00))

/-! ### The machine -/

/-- What a literal owes after the bytes read so far. -/
inductive Owed
  /-- Nothing: the next byte stands for itself, ends the literal or starts an escape. -/
  | nothing
  /-- The kind of an escape. -/
  | escape
  /-- More hexadecimal digits; those read so far are given, the last one first. -/
  | digits (read : List UInt8)
  /-- A backslash, for the partner of a leading surrogate. -/
  | partner (leading : Nat)
  /-- The letter `u` after that backslash. -/
  | partnerKind (leading : Nat)
  /-- More digits of that partner. -/
  | partnerDigits (leading : Nat) (read : List UInt8)
  deriving DecidableEq, Repr

namespace Owed

/-- A full code unit: a character of its own or the first half of a pair. -/
def ofUnit (unit : Nat) : Except Cause (List UInt8 × Owed) :=
  if isTrailing unit then .error .loneSurrogate
  else if isLeading unit then .ok ([], partner unit)
  else .ok (String.utf8EncodeChar (Char.ofNat unit), nothing)

/-- The second half of a pair. -/
def ofPartner (leading unit : Nat) : Except Cause (List UInt8 × Owed) :=
  if isTrailing unit then .ok (String.utf8EncodeChar (pairedChar leading unit), nothing)
  else .error .loneSurrogate

/-- Adds a digit; after the fourth one the digits must be hexadecimal. -/
def addDigit (read : List UInt8) (b : UInt8) (more : List UInt8 → Owed)
    (unit : Nat → Except Cause (List UInt8 × Owed)) : Except Cause (List UInt8 × Owed) :=
  if read.length < 3 then .ok ([], more (b :: read))
  else match hexValue? (b :: read) with
    | some value => unit value
    | none => .error .invalidEscape

/-- Takes a byte other than a closing quote: the bytes it adds and what is owed then.  Where pairs
do not matter, an escape adds nothing once its digits are good. -/
def take (pairs : Bool) (owed : Owed) (b : UInt8) : Except Cause (List UInt8 × Owed) :=
  match owed with
  | nothing =>
    if b = byte '\\' then .ok ([], escape)
    else if b < 0x20 then .error .controlCharacter
    else .ok ([b], nothing)
  | escape =>
    if b = byte 'u' then .ok ([], digits [])
    else match shortEscape? b with
      | some plain => .ok ([plain], nothing)
      | none => .error .invalidEscape
  | digits read =>
    addDigit read b digits fun unit => if pairs then ofUnit unit else .ok ([], nothing)
  | partner leading =>
    if b = byte '\\' then .ok ([], partnerKind leading) else .error .unpairedEscape
  | partnerKind leading =>
    if b = byte 'u' then .ok ([], partnerDigits leading []) else .error .unpairedEscape
  | partnerDigits leading read => addDigit read b (partnerDigits leading) (ofPartner leading)

end Owed

/-! ### Literals -/

/-- The decoded bytes of a literal after those already read (the last one first), up to its closing
quote, and the bytes after that quote. -/
def literalBytes (pairs : Bool) (ending : Ending) (owed : Owed) (read : List UInt8) :
    List UInt8 → Except Fault (List UInt8 × List UInt8)
  | [] => .error (ending.stop (.endWithin .text))
  | b :: s =>
    if owed = .nothing && b = byte '"' then .ok (read.reverse, s)
    else match owed.take pairs b with
      | .ok (added, owed) => literalBytes pairs ending owed (added.reverse ++ read) s
      | .error cause => .error (.before cause s)

/-- Reads the text of a literal, after its opening quote. -/
def literal : Reader String := fun ending s => do
  let (decoded, rest) ← literalBytes true ending .nothing [] s
  match Text.decode decoded with
  | (cs, []) => return (String.ofList cs, rest)
  | (_, bad) => throw (.before (.invalidCodePoint bad.length) rest)

/-- Passes over a literal, after its opening quote. -/
def skipLiteral (ending : Ending) (s : List UInt8) : Except Fault (List UInt8) := do
  let (_, rest) ← literalBytes false ending .nothing [] s
  return rest

end Compliance.Json
