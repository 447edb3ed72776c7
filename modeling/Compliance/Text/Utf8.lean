/-
**Bytes of text.**

Text is stored in UTF-8.  Bytes are read as characters up to the first place where they stop being
well formed, so that the length of the part before that place can be told.

Main definitions:

* `bytes` — the bytes of a text;
* `decode` — the characters at the front of some bytes, and the bytes from the first bad one on;
* `lossy` — bytes as text, with a replacement character for each bad part.
-/

set_option relaxedAutoImplicit false
set_option autoImplicit false

namespace Compliance.Text

/-- The bytes of a text. -/
def bytes (s : String) : List UInt8 := s.toUTF8.data.toList

/-- Whether a byte continues a character. -/
def isContinuation (b : UInt8) : Bool := 0x80 ≤ b && b ≤ 0xBF

/-- The last six bits of a byte, which are what a continuation adds. -/
def payload (b : UInt8) : Nat := b.toNat % 64

/-- A character of one byte. -/
def one? (a : UInt8) : Option Char :=
  if a < 0x80 then some (Char.ofNat a.toNat) else none

/-- A character of two bytes. -/
def two? (a b : UInt8) : Option Char :=
  if 0xC2 ≤ a && a ≤ 0xDF && isContinuation b then
    some (Char.ofNat ((a.toNat - 0xC0) * 64 + payload b))
  else none

/-- Whether two bytes start a character of three: no shorter form exists and it is no surrogate. -/
def startsThree (a b : UInt8) : Bool :=
  0xE0 ≤ a && a ≤ 0xEF && isContinuation b && (a != 0xE0 || 0xA0 ≤ b) && (a != 0xED || b ≤ 0x9F)

/-- A character of three bytes. -/
def three? (a b c : UInt8) : Option Char :=
  if startsThree a b && isContinuation c then
    some (Char.ofNat (((a.toNat - 0xE0) * 64 + payload b) * 64 + payload c))
  else none

/-- Whether two bytes start a character of four: no shorter form exists and Unicode has it. -/
def startsFour (a b : UInt8) : Bool :=
  0xF0 ≤ a && a ≤ 0xF4 && isContinuation b && (a != 0xF0 || 0x90 ≤ b) && (a != 0xF4 || b ≤ 0x8F)

/-- A character of four bytes. -/
def four? (a b c d : UInt8) : Option Char :=
  if startsFour a b && isContinuation c && isContinuation d then
    some (Char.ofNat ((((a.toNat - 0xF0) * 64 + payload b) * 64 + payload c) * 64 + payload d))
  else none

/-- The characters at the front of some bytes, in order after those already read, and the bytes
that follow the last of them. -/
def decodeAfter (read : List Char) : List UInt8 → List Char × List UInt8
  | [] => (read.reverse, [])
  | a :: s =>
    match one? a with
    | some x => decodeAfter (x :: read) s
    | none =>
      match s with
      | [] => (read.reverse, [a])
      | b :: s =>
        match two? a b with
        | some x => decodeAfter (x :: read) s
        | none =>
          match s with
          | [] => (read.reverse, [a, b])
          | c :: s =>
            match three? a b c with
            | some x => decodeAfter (x :: read) s
            | none =>
              match s with
              | [] => (read.reverse, [a, b, c])
              | d :: s =>
                match four? a b c d with
                | some x => decodeAfter (x :: read) s
                | none => (read.reverse, a :: b :: c :: d :: s)

/-- The characters at the front of some bytes, and the bytes from the first bad one on. -/
def decode (s : List UInt8) : List Char × List UInt8 := decodeAfter [] s

/-- How many bytes at the front of badly formed ones are the start of a character; at least one. -/
def badLength : List UInt8 → Nat
  | a :: b :: c :: _ =>
    if startsThree a b then 2
    else if startsFour a b then if isContinuation c then 3 else 2
    else 1
  | a :: b :: _ => if startsThree a b || startsFour a b then 2 else 1
  | _ => 1

/-- Bytes as characters, reading at most as many parts as the first argument says. -/
def lossyWithin : Nat → List UInt8 → List Char
  | 0, _ => []
  | n + 1, s =>
    match decode s with
    | (cs, []) => cs
    | (cs, bad) => cs ++ '\uFFFD' :: lossyWithin n (bad.drop (badLength bad))

/-- Bytes as text, with one replacement character for each bad part. -/
def lossy (s : List UInt8) : String := String.ofList (lossyWithin (s.length + 1) s)

end Compliance.Text
