/-
**Quoted text.**

A quoted text stands between double quotes.  Quotes and backslashes in it are escaped, and so is
every character that cannot be shown on its own, by a short name or by its number.

Main definitions:

* `isShown` — whether a character stands for itself;
* `quoteChar`, `quote` — the quoted form of a character and of a text.
-/

import Compliance.Text.CodeRange
import Compliance.Text.Quoted.Table

set_option relaxedAutoImplicit false
set_option autoImplicit false

namespace Compliance.Text

/-- Whether a character can be shown on its own. -/
def isShown (c : Char) : Bool :=
  if c.toNat < 0x7F then 0x20 ≤ c.toNat else !inRanges Quoted.unprintable c.toNat

/-- The quoted form of a character: itself, a short escape, or its number in hexadecimal. -/
def quoteChar (c : Char) : String :=
  match c with
  | '"' => "\\\""
  | '\\' => "\\\\"
  | '\n' => "\\n"
  | '\r' => "\\r"
  | '\t' => "\\t"
  | '\x00' => "\\0"
  | _ =>
    if isShown c then c.toString
    else "\\u\x7b" ++ String.ofList (Nat.toDigits 16 c.toNat) ++ "\x7d"

/-- The quoted form of a text. -/
def quote (s : String) : String := "\"" ++ String.join (s.toList.map quoteChar) ++ "\""

end Compliance.Text
