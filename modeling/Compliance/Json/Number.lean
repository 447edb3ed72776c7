/-
**Values of JSON numbers.**

A number without fraction and exponent is an integer if 64 bits hold it, with a sign or without.
Every other number is a double.

Main definitions:

* `Number` — the value of a number;
* `Number.kind` — its wording in a message about a value that does not fit.
-/

import Compliance.Decimal.Shortest

set_option relaxedAutoImplicit false
set_option autoImplicit false

namespace Compliance.Json

/-- The value of a JSON number. -/
inductive Number
  /-- An integer that is not negative. -/
  | natural (n : Nat)
  /-- The integer that is `n` below zero. -/
  | negative (n : Nat)
  /-- Any other number, as a double. -/
  | floating (x : Float)

namespace Number

/-- Doubles are written without an exponent from `10 ^ -5` up to below `10 ^ 16`. -/
def layout : Decimal.Layout where
  positionalFrom := -5
  positionalBelow := 16

/-- What a number is called in a message. -/
def kind : Number → String
  | natural n => "integer `" ++ toString n ++ "`"
  | negative n => "integer `-" ++ toString n ++ "`"
  | floating x => "floating point `" ++ layout.render x ++ "`"

end Number

end Compliance.Json
