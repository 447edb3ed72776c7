/-
**Terminal control sequences.**

A terminal takes some characters for commands: single control characters, and sequences that an
escape character starts.  Stripping a text leaves what a terminal would show.  A blank control
character is shown, also where it interrupts a sequence; then the characters after it are shown too,
and the sequence goes on at the next character that is not.

Main definitions:

* `Phase`, `Phase.after` — how far a sequence has been read;
* `Phase.shows` — the ASCII characters that are shown;
* `Reading.step` — reading one character;
* `strip` — a text without control sequences.
-/

set_option relaxedAutoImplicit false
set_option autoImplicit false

namespace Compliance.Text.Control

/-! ### Phases of a sequence -/

/-- How far a control sequence has been read. -/
inductive Phase
  /-- No sequence is being read. -/
  | ground
  /-- An escape character. -/
  | escape
  /-- An escape character and intermediate characters. -/
  | escapeIntermediate
  /-- The start of a control sequence proper. -/
  | sequence
  /-- A control sequence with parameters. -/
  | sequenceParameters
  /-- A control sequence with intermediate characters. -/
  | sequenceIntermediate
  /-- A control sequence that is malformed. -/
  | sequenceIgnored
  /-- The start of a device control string. -/
  | device
  /-- A device control string with parameters. -/
  | deviceParameters
  /-- A device control string with intermediate characters. -/
  | deviceIntermediate
  /-- The data of a string for a device, a string without a meaning or one that is malformed. -/
  | string
  /-- A command for the operating system. -/
  | command
  deriving DecidableEq, Repr

/-- Whether a control character is blank. -/
def isBlankControl (code : Nat) : Bool :=
  code = 0x09 || code = 0x0A || code = 0x0C || code = 0x0D

namespace Phase

/-- The phase after a character that follows an escape character. -/
def afterEscape (code : Nat) : Phase :=
  if code = 0x50 then device
  else if code = 0x5B then sequence
  else if code = 0x5D then command
  else if code = 0x58 || code = 0x5E || code = 0x5F then string
  else if 0x20 ≤ code && code ≤ 0x2F then escapeIntermediate
  else if 0x30 ≤ code && code ≤ 0x7E then ground
  else escape

/-- The phase after a character of a control sequence.  Parameters come first and intermediate
characters after them; a private mark is no later parameter. -/
def afterSequence (phase : Phase) (code : Nat) : Phase :=
  if 0x40 ≤ code && code ≤ 0x7E then ground
  else if phase = sequenceIgnored then sequenceIgnored
  else if 0x20 ≤ code && code ≤ 0x2F then sequenceIntermediate
  else if 0x30 ≤ code && code ≤ 0x3F then
    if phase = sequence || (phase = sequenceParameters && code ≤ 0x3B) then sequenceParameters
    else sequenceIgnored
  else phase

/-- The phase after a character that leads to the data of a device control string, in the order of
a control sequence. -/
def afterDevice (phase : Phase) (code : Nat) : Phase :=
  if 0x40 ≤ code && code ≤ 0x7E then string
  else if 0x20 ≤ code && code ≤ 0x2F then deviceIntermediate
  else if 0x30 ≤ code && code ≤ 0x3F then
    if phase = device || (phase = deviceParameters && code ≤ 0x3B) then deviceParameters
    else string
  else phase

/-- The phase after an ASCII character.  Cancel, substitute and escape end any sequence, and the
last one starts another. -/
def after (phase : Phase) (code : Nat) : Phase :=
  if code = 0x18 || code = 0x1A then ground
  else if code = 0x1B then escape
  else match phase with
    | escape => afterEscape code
    | escapeIntermediate => if 0x30 ≤ code && code ≤ 0x7E then ground else escapeIntermediate
    | sequence | sequenceParameters | sequenceIntermediate | sequenceIgnored =>
      phase.afterSequence code
    | device | deviceParameters | deviceIntermediate => phase.afterDevice code
    | command => if code = 0x07 then ground else command
    | ground | string => phase

/-- The phase after a character beyond ASCII.  The byte `9C` ends the data of a string, also as a
part of a character. -/
def afterWide (phase : Phase) (c : Char) : Phase :=
  if phase = string && 0x9C ∈ String.utf8EncodeChar c then ground else phase

/-- Whether an ASCII character is shown: outside a sequence one that is no control character, or a
blank one, which is shown also within a sequence but not within a string. -/
def shows (phase : Phase) (code : Nat) : Bool :=
  match phase with
  | ground => (0x20 ≤ code && code < 0x7F) || isBlankControl code
  | escape | escapeIntermediate | sequence | sequenceParameters | sequenceIntermediate
  | sequenceIgnored => isBlankControl code
  | device | deviceParameters | deviceIntermediate | string | command => false

end Phase

/-! ### Reading a text -/

/-- How far a text has been read. -/
structure Reading where
  /-- The sequence being read. -/
  phase : Phase
  /-- Whether the character before was shown. -/
  showing : Bool
  deriving DecidableEq, Repr

namespace Reading

/-- The start of a text. -/
def start : Reading := ⟨.ground, false⟩

/-- What the next character is judged by: after a character that is shown no sequence is being read,
even if one has been interrupted. -/
def judge (r : Reading) : Phase := if r.showing then .ground else r.phase

/-- Reads a character, and tells whether it is shown. -/
def step (r : Reading) (c : Char) : Bool × Reading :=
  if c.toNat < 0x80 then
    if r.judge.shows c.toNat then (true, ⟨r.phase, true⟩)
    else (false, ⟨r.phase.after c.toNat, false⟩)
  else if r.judge = .ground then (true, ⟨.ground, true⟩)
  else (false, ⟨r.phase.afterWide c, false⟩)

/-- The characters that are shown, from a point of reading on. -/
def shown (r : Reading) : List Char → List Char
  | [] => []
  | c :: cs =>
    match r.step c with
    | (true, next) => c :: next.shown cs
    | (false, next) => next.shown cs

@[simp] theorem shown_nil (r : Reading) : r.shown [] = [] := rfl

end Reading

/-- A text without control sequences. -/
def strip (s : String) : String := String.ofList (Reading.start.shown s.toList)

end Compliance.Text.Control
