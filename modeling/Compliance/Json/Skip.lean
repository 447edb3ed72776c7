/-
**Passing over JSON values.**

A value that nobody asked for must be well formed, but its strings need not be UTF-8 and its numbers
have no range.  Open containers are kept on a stack, so they may be nested to any depth.

Main definitions:

* `Frame` — an open container;
* `skipStart` — passes over a value without parts, or over the opening of a container;
* `skip` — passes over a whole value.
-/

import Compliance.Json.Container
import Compliance.Json.Numeral

set_option relaxedAutoImplicit false
set_option autoImplicit false

namespace Compliance.Json

/-- An open container. -/
inductive Frame
  | list
  | object
  deriving DecidableEq, Repr

namespace Frame

/-- The byte that closes a container. -/
def closer : Frame → UInt8
  | list => byte ']'
  | object => byte '}'

/-- What a container is called where the input ends within it. -/
def part : Frame → Part
  | list => .list
  | object => .object

/-- The cause where neither a comma nor the closing byte follows a value. -/
def noSeparator : Frame → Cause
  | list => .expectedListSeparator
  | object => .expectedObjectSeparator

/-- Passes over what comes before a value in a container: nothing in a list, and a key with its
colon in an object. -/
def skipKey (ending : Ending) (s : List UInt8) : Frame → Except Fault (List UInt8)
  | list => .ok s
  | object =>
    match skipBlank s with
    | [] => .error (ending.stop (.endWithin .object))
    | b :: s =>
      if b = byte '"' then do
        let s ← skipLiteral ending s
        colon ending s
      else .error (.seeing .keyNotText (b :: s))

end Frame

/-- Passes over a value without parts, or over the opening of a container, which is given. -/
def skipStart (ending : Ending) (s : List UInt8) : Except Fault (Option Frame × List UInt8) :=
  match skipBlank s with
  | [] => .error (ending.stop (.endWithin .value))
  | b :: s =>
    if b = byte 'n' then (word ending nullTail s).map (none, ·)
    else if b = byte 't' then (word ending trueTail s).map (none, ·)
    else if b = byte 'f' then (word ending falseTail s).map (none, ·)
    else if b = byte '-' then (skipNumber ending s).map (none, ·)
    else if isDigit b then (skipNumber ending (b :: s)).map (none, ·)
    else if b = byte '"' then (skipLiteral ending s).map (none, ·)
    else if b = byte '[' then .ok (some .list, s)
    else if b = byte '{' then .ok (some .object, s)
    else .error (.seeing .expectedValue (b :: s))

/-- What is passed over next. -/
inductive Turn
  /-- A value. -/
  | value
  /-- What follows an opening. -/
  | opened
  /-- What follows a value. -/
  | followed
  deriving DecidableEq, Repr

/-- Passes over the rest of a value within the given containers, the innermost first.  The first
argument bounds the number of turns. -/
def skipWithin (ending : Ending) :
    Nat → Turn → List Frame → List UInt8 → Except Fault (List UInt8)
  | 0, _, _, s => .error (.before .expectedValue s)
  | fuel + 1, .value, frames, s => do
    match ← skipStart ending s with
    | (none, s) => skipWithin ending fuel .followed frames s
    | (some frame, s) => skipWithin ending fuel .opened (frame :: frames) s
  | _ + 1, _, [], s => .ok s
  | fuel + 1, turn, frame :: frames, s =>
    match skipBlank s with
    | [] => .error (ending.stop (.endWithin frame.part))
    | b :: s =>
      if b = frame.closer then skipWithin ending fuel .followed frames s
      else if turn = .opened then do
        let s ← frame.skipKey ending (b :: s)
        skipWithin ending fuel .value (frame :: frames) s
      else if b = byte ',' then do
        let s ← frame.skipKey ending s
        skipWithin ending fuel .value (frame :: frames) s
      else .error (.seeing frame.noSeparator (b :: s))

/-- Passes over a value.  Each byte takes at most two turns: one for the value that starts with it,
one for the closing byte or comma that it is. -/
def skip (ending : Ending) (s : List UInt8) : Except Fault (List UInt8) :=
  skipWithin ending (2 * s.length + 2) .value [] s

end Compliance.Json
