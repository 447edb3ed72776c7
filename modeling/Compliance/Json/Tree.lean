/-
**JSON values and their text.**

A value is written over several lines, each level of nesting two columns further in.  Empty arrays
and objects stay on one line.

Main definitions:

* `Tree` — the values that this library writes;
* `quoted` — a string literal;
* `Tree.pretty` — the text of a value.
-/

set_option relaxedAutoImplicit false
set_option autoImplicit false

namespace Compliance.Json

/-- A JSON value. -/
inductive Tree
  | text (s : String)
  | count (n : UInt64)
  | flag (b : Bool)
  | array (items : List Tree)
  | object (members : List (String × Tree))

/-! ### Literals -/

/-- A hexadecimal digit in lower case. -/
def hexDigit (n : Nat) : Char := Nat.digitChar n

/-- A character within a literal: quotes, backslashes and control characters are escaped. -/
def escaped (c : Char) : List Char :=
  match c with
  | '"' => ['\\', '"']
  | '\\' => ['\\', '\\']
  | '\x08' => ['\\', 'b']
  | '\t' => ['\\', 't']
  | '\n' => ['\\', 'n']
  | '\x0c' => ['\\', 'f']
  | '\r' => ['\\', 'r']
  | _ =>
    if c.toNat < 0x20 then
      ['\\', 'u', '0', '0', hexDigit (c.toNat / 16), hexDigit (c.toNat % 16)]
    else [c]

/-- The literal of a text. -/
def quoted (s : String) : String := "\"" ++ String.ofList (s.toList.flatMap escaped) ++ "\""

/-! ### Layout -/

/-- A line break and the indent of a level. -/
def newline (depth : Nat) : String := String.ofList ('\n' :: List.replicate (2 * depth) ' ')

mutual

/-- The text of a value at a level of nesting. -/
def Tree.prettyAt (depth : Nat) : Tree → String
  | .text s => quoted s
  | .count n => toString n.toNat
  | .flag b => if b then "true" else "false"
  | .array [] => "[]"
  | .array (x :: xs) =>
    "[" ++ newline (depth + 1) ++ Tree.prettyAt (depth + 1) x ++ Tree.prettyItems depth xs
  | .object [] => "\x7b\x7d"
  | .object ((key, x) :: ms) =>
    "\x7b" ++ newline (depth + 1) ++ quoted key ++ ": " ++ Tree.prettyAt (depth + 1) x ++
      Tree.prettyMembers depth ms

/-- The text of the elements after the first, and of the closing bracket. -/
def Tree.prettyItems (depth : Nat) : List Tree → String
  | [] => newline depth ++ "]"
  | x :: xs =>
    "," ++ newline (depth + 1) ++ Tree.prettyAt (depth + 1) x ++ Tree.prettyItems depth xs

/-- The text of the members after the first, and of the closing brace. -/
def Tree.prettyMembers (depth : Nat) : List (String × Tree) → String
  | [] => newline depth ++ "\x7d"
  | (key, x) :: ms =>
    "," ++ newline (depth + 1) ++ quoted key ++ ": " ++ Tree.prettyAt (depth + 1) x ++
      Tree.prettyMembers depth ms

end

/-- The text of a value. -/
def Tree.pretty (t : Tree) : String := t.prettyAt 0

end Compliance.Json
