/-
**Faults of JSON input.**

A fault is raised where reading stops.  It has a cause, and it says how many bytes of the input
nobody had looked at by then: the position of a fault is that of the last byte looked at.

Main definitions:

* `Ending` — what comes after the last byte: the end of the input, or a device that fails;
* `Cause`, `Cause.message` — why reading stopped, and its wording;
* `Fault` — a cause and where it arose;
* `Position`, `Fault.describe` — line and column of a fault, and its full wording.
-/

import Compliance.Json.Number
import Compliance.Text.Quoted

set_option relaxedAutoImplicit false
set_option autoImplicit false

namespace Compliance.Json

/-- What comes after the last byte of an input. -/
inductive Ending
  /-- The end of the input. -/
  | finished
  /-- A device that fails on every further read. -/
  | broken
  deriving DecidableEq, Repr

/-- What was being read when the input ended. -/
inductive Part
  | value
  | list
  | object
  | text
  deriving DecidableEq, Repr

/-- How a part is called in a message. -/
def Part.name : Part → String
  | value => "a value"
  | list => "a list"
  | object => "an object"
  | text => "a string"

/-- A value found in place of one of another type. -/
inductive Found
  | null
  | flag (b : Bool)
  | number (n : Number)
  | text (s : String)
  | sequence
  | map

/-- How a value that was found is called in a message. -/
def Found.kind : Found → String
  | null => "null"
  | flag b => "boolean `" ++ toString b ++ "`"
  | number n => n.kind
  | text s => "string " ++ Text.quote s
  | sequence => "sequence"
  | map => "map"

/-- Why reading stopped. -/
inductive Cause
  /-- The device failed before the input ended. -/
  | deviceFailed
  /-- The input ended within a part. -/
  | endWithin (part : Part)
  /-- A word other than `null`, `true` and `false`. -/
  | expectedWord
  /-- A byte that starts no value. -/
  | expectedValue
  /-- No colon after the key of a member. -/
  | expectedColon
  /-- Neither a comma nor a closing bracket after an element. -/
  | expectedListSeparator
  /-- Neither a comma nor a closing brace after a member. -/
  | expectedObjectSeparator
  /-- A backslash followed by something without meaning. -/
  | invalidEscape
  /-- An escaped surrogate without its partner. -/
  | loneSurrogate
  /-- No escape after an escaped leading surrogate. -/
  | unpairedEscape
  /-- An unescaped control character in a string. -/
  | controlCharacter
  /-- A string that is not UTF-8; `excess` counts its bytes from the first bad one on. -/
  | invalidCodePoint (excess : Nat)
  /-- A number that is not well formed. -/
  | invalidNumber
  /-- A number too great for a double. -/
  | numberOutOfRange
  /-- A member whose key is not a string. -/
  | keyNotText
  /-- A comma before a closing bracket or brace. -/
  | trailingComma
  /-- Something after the end of a value. -/
  | trailingCharacters
  /-- A value of another type. -/
  | invalidType (found : Found) (expected : String)
  /-- A value of the right type outside its range. -/
  | invalidValue (found : Found) (expected : String)
  /-- A field given twice. -/
  | duplicateField (name : String)
  /-- A field not given. -/
  | missingField (name : String)
  /-- A sequence too short for the fields it stands for. -/
  | invalidLength (length : Nat) (expected : String)

/-- The wording of a cause. -/
def Cause.message : Cause → String
  | deviceFailed => "device failed"
  | endWithin part => "EOF while parsing " ++ part.name
  | expectedWord => "expected ident"
  | expectedValue => "expected value"
  | expectedColon => "expected `:`"
  | expectedListSeparator => "expected `,` or `]`"
  | expectedObjectSeparator => "expected `,` or `\x7d`"
  | invalidEscape => "invalid escape"
  | loneSurrogate => "lone leading surrogate in hex escape"
  | unpairedEscape => "unexpected end of hex escape"
  | controlCharacter => "control character (\\u0000-\\u001F) found while parsing a string"
  | invalidCodePoint _ => "invalid unicode code point"
  | invalidNumber => "invalid number"
  | numberOutOfRange => "number out of range"
  | keyNotText => "key must be a string"
  | trailingComma => "trailing comma"
  | trailingCharacters => "trailing characters"
  | invalidType found expected => "invalid type: " ++ found.kind ++ ", expected " ++ expected
  | invalidValue found expected => "invalid value: " ++ found.kind ++ ", expected " ++ expected
  | duplicateField name => "duplicate field `" ++ name ++ "`"
  | missingField name => "missing field `" ++ name ++ "`"
  | invalidLength length expected =>
    "invalid length " ++ toString length ++ ", expected " ++ expected

/-- A cause together with the number of bytes that nobody had looked at when it arose. -/
structure Fault where
  /-- Why reading stopped. -/
  cause : Cause
  /-- How many bytes at the end of the input had not been looked at. -/
  unread : Nat

namespace Fault

/-- A fault that arose with the given bytes left and none of them looked at. -/
def before (cause : Cause) (rest : List UInt8) : Fault := ⟨cause, rest.length⟩

/-- A fault that arose with the given bytes left and the first of them, if any, looked at. -/
def seeing (cause : Cause) (rest : List UInt8) : Fault := ⟨cause, rest.length - 1⟩

end Fault

/-- The fault of an input that stops too early: its device fails, or it ends within a part. -/
def Ending.stop (ending : Ending) (cause : Cause) : Fault :=
  match ending with
  | .finished => ⟨cause, 0⟩
  | .broken => ⟨.deviceFailed, 0⟩

/-! ### Positions -/

/-- A place in a text: lines are counted from one, the bytes since the last line feed from zero. -/
structure Position where
  /-- The line. -/
  line : Nat
  /-- The column. -/
  column : Nat
  deriving DecidableEq, Repr

/-- The position after one byte more. -/
def Position.advance (p : Position) (b : UInt8) : Position :=
  if b = 10 then ⟨p.line + 1, 0⟩ else ⟨p.line, p.column + 1⟩

/-- The position after the given bytes. -/
def Position.after (bytes : List UInt8) : Position := bytes.foldl Position.advance ⟨1, 0⟩

/-- The position of a fault in an input.  A string that is not UTF-8 is at fault where its first bad
byte is, counted back from its end. -/
def Fault.position (f : Fault) (input : List UInt8) : Position :=
  let p := Position.after (input.take (input.length - f.unread))
  match f.cause with
  | .invalidCodePoint excess => { p with column := p.column - excess }
  | _ => p

/-- The wording of a fault with its position in the input. -/
def Fault.describe (f : Fault) (input : List UInt8) : String :=
  let p := f.position input
  f.cause.message ++ " at line " ++ toString p.line ++ " column " ++ toString p.column

end Compliance.Json
