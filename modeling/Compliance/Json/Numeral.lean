/-
**Numerals of JSON.**

A numeral is read as its digits first and given a value after that.  The value keeps as many
leading digits as 64 bits hold and scales them by a power of ten in floating point, so it may
differ from the nearest double in the last place.

Main definitions:

* `Numeral` — the digits of a number;
* `numeral` — reads the digits after an optional minus sign;
* `Numeral.overflow?` — where an exponent becomes too great for any number;
* `Numeral.value?` — the value, unless it is out of range;
* `number` — reads a number and its value.
-/

import Compliance.Json.Scan

set_option relaxedAutoImplicit false
set_option autoImplicit false

namespace Compliance.Json

/-! ### Digits -/

/-- The exponent of a numeral. -/
structure Exponent where
  /-- Whether it has a minus sign. -/
  negative : Bool
  /-- Its digits. -/
  digits : List Nat

/-- The digits of a number. -/
structure Numeral where
  /-- Whether it has a minus sign. -/
  negative : Bool
  /-- The digits before the point. -/
  whole : List Nat
  /-- The digits after the point, if there is a point. -/
  fraction : Option (List Nat)
  /-- The exponent, if there is one. -/
  exponent : Option Exponent

/-- The digits at the front of an input. -/
def frontDigits (s : List UInt8) : List Nat := (s.takeWhile isDigit).map digit

/-- What follows the digits at the front of an input. -/
def afterDigits (s : List UInt8) : List UInt8 := s.dropWhile isDigit

/-- Reads the digits before the point.  A zero stands alone.  `missing` is the cause where the
input ends before a digit. -/
def wholeDigits (missing : Cause) : Reader (List Nat) := fun ending s =>
  match s with
  | [] => .error (ending.stop missing)
  | b :: s =>
    if b = byte '0' then do
      look ending s
      match s.head? with
      | some d => if isDigit d then throw (.seeing .invalidNumber s) else return ([0], s)
      | none => return ([0], s)
    else if isDigit b then do
      let rest := afterDigits s
      look ending rest
      return (digit b :: frontDigits s, rest)
    else .error (.before .invalidNumber s)

/-- Reads a point and the digits after it, if there is a point. -/
def fractionDigits (missing : Cause) : Reader (Option (List Nat)) := fun ending s =>
  match s with
  | [] => .ok (none, [])
  | b :: s =>
    if b = byte '.' then
      if frontDigits s = [] then
        .error (if s = [] then ending.stop missing else .seeing .invalidNumber s)
      else do
        let rest := afterDigits s
        look ending rest
        return (some (frontDigits s), rest)
    else .ok (none, b :: s)

/-- Passes over the sign of an exponent and tells whether it is a minus sign. -/
def exponentSign : List UInt8 → Bool × List UInt8
  | [] => (false, [])
  | b :: s =>
    if b = byte '+' then (false, s) else if b = byte '-' then (true, s) else (false, b :: s)

/-- Reads an exponent, if there is one.  What follows its digits is not looked at. -/
def exponentDigits (missing : Cause) : Reader (Option Exponent) := fun ending s =>
  match s with
  | [] => .ok (none, [])
  | b :: s =>
    if b = byte 'e' || b = byte 'E' then
      let (negative, s) := exponentSign s
      match s with
      | [] => .error (ending.stop missing)
      | d :: rest =>
        if isDigit d then .ok (some ⟨negative, frontDigits (d :: rest)⟩, afterDigits rest)
        else .error (.before .invalidNumber rest)
    else .ok (none, b :: s)

/-- Reads the digits of a number after its optional minus sign. -/
def numeral (missing : Cause) (negative : Bool) : Reader Numeral := fun ending s => do
  let (whole, s) ← wholeDigits missing ending s
  let (fraction, s) ← fractionDigits missing ending s
  let (exponent, s) ← exponentDigits missing ending s
  return (⟨negative, whole, fraction, exponent⟩, s)

/-! ### Values -/

/-- The greatest number that 64 bits hold. -/
def maxSignificand : Nat := 0xFFFFFFFFFFFFFFFF

/-- The greatest exponent that counts, either way. -/
def maxExponent : Nat := 0x7FFFFFFF

/-- How far below zero an integer can be that 64 bits hold with a sign. -/
def maxNegative : Nat := 0x8000000000000000

/-- Appends digits to a number as long as it stays within a limit: the number and the digits that
are left. -/
def gather (limit : Nat) (n : Nat) : List Nat → Nat × List Nat
  | [] => (n, [])
  | d :: ds => if n * 10 + d ≤ limit then gather limit (n * 10 + d) ds else (n, d :: ds)

namespace Numeral

/-- The leading digits before the point, and those that do not fit. -/
def wholePart (n : Numeral) : Nat × List Nat := gather maxSignificand 0 n.whole

/-- All leading digits, and those of the fraction that do not fit. -/
def allDigits (n : Numeral) : Nat × List Nat :=
  gather maxSignificand n.wholePart.1 (n.fraction.getD [])

/-- The power of ten that the point gives to the leading digits. -/
def pointScale (n : Numeral) : Int :=
  Int.ofNat n.wholePart.2.length -
    (Int.ofNat (n.fraction.getD []).length - Int.ofNat n.allDigits.2.length)

/-- The number of digits of a positive exponent that follow the one with which it becomes too
great, where the leading digits are not zero. -/
def overflow? (n : Numeral) : Option Nat := do
  let exponent ← n.exponent
  match gather maxExponent 0 exponent.digits with
  | (_, _ :: later) => if !exponent.negative && n.allDigits.1 ≠ 0 then some later.length else none
  | (_, []) => none

/-- A power of ten as a double. -/
def tenPower (n : Nat) : Float := Float.ofScientific 1 false n

/-- A double divided by a power of ten, in steps that doubles can hold. -/
def divide (x : Float) (scale : Nat) : Float :=
  if scale ≤ 308 then x / tenPower scale
  else if x == 0 then x
  else divide (x / tenPower 308) (scale - 308)
termination_by scale

/-- A number scaled by a power of ten, unless the result is infinite. -/
def scaled? (significand : Nat) (scale : Int) : Option Float :=
  let x := significand.toUInt64.toFloat
  match scale with
  | .ofNat n =>
    if n ≤ 308 then
      let y := x * tenPower n
      if y.isInf then none else some y
    else if x == 0 then some x else none
  | .negSucc n => some (divide x (n + 1))

/-- A power of ten within what counts as an exponent. -/
def clamp (scale : Int) : Int :=
  max (Int.negSucc maxExponent) (min scale (Int.ofNat maxExponent))

/-- The absolute value as a double, unless it is out of range.  An exponent that is too great makes
zero of a number that it does not make too great. -/
def magnitude? (n : Numeral) : Option Float :=
  match n.exponent with
  | none => scaled? n.allDigits.1 n.pointScale
  | some exponent =>
    match gather maxExponent 0 exponent.digits with
    | (size, []) =>
      let shift : Int := if exponent.negative then -Int.ofNat size else Int.ofNat size
      scaled? n.allDigits.1 (clamp (n.pointScale + shift))
    | _ => some 0

/-- Whether the numeral is an integer that 64 bits hold. -/
def isInteger (n : Numeral) : Bool :=
  n.fraction.isNone && n.exponent.isNone && n.wholePart.2.isEmpty

/-- The value of a numeral, unless it is out of range.  Minus zero is a double. -/
def value? (n : Numeral) : Option Number :=
  let integer := n.wholePart.1
  if n.isInteger && !n.negative then some (.natural integer)
  else if n.isInteger && 0 < integer && integer ≤ maxNegative then some (.negative integer)
  else n.magnitude?.map fun x => .floating (if n.negative then -x else x)

end Numeral

/-- Reads a number after its optional minus sign. -/
def number (negative : Bool) : Reader Number := fun ending s => do
  let (n, rest) ← numeral (.endWithin .value) negative ending s
  match n.overflow? with
  | some later => throw ⟨.numberOutOfRange, rest.length + later⟩
  | none =>
    look ending rest
    match n.value? with
    | some value => return (value, rest)
    | none => throw (.seeing .numberOutOfRange rest)

/-- Passes over a number after its optional minus sign. -/
def skipNumber (ending : Ending) (s : List UInt8) : Except Fault (List UInt8) := do
  let (_, rest) ← numeral .invalidNumber false ending s
  look ending rest
  return rest

end Compliance.Json
