/-
**Shortest decimal text of a floating-point number.**

A positive double is `m · 2 ^ q`, and an interval of reals rounds to it, ends included exactly when
`m` is even.  For one digit, two digits and so on, the neighbours of the number among the decimals
with that many digits are tested; the first of them that lies in the interval is the decimal to
write, the nearer one if both do, the even one if they are equally near.

Main definitions:

* `Binary`, `Binary.ofBits` — the number behind the bits of a double;
* `Binary.shortest` — its decimal as digits and a power of ten;
* `Layout`, `Layout.render` — how digits are laid out as text.
-/

set_option relaxedAutoImplicit false
set_option autoImplicit false

namespace Compliance.Decimal

/-! ### Powers as fractions -/

/-- A fraction of natural numbers. -/
structure Fraction where
  /-- The numerator. -/
  num : Nat
  /-- The denominator. -/
  den : Nat

/-- An integer power of a natural number. -/
def power (base : Nat) : Int → Fraction
  | .ofNat n => ⟨base.pow n, 1⟩
  | .negSucc n => ⟨1, base.pow (n + 1)⟩

/-! ### Binary numbers -/

/-- A positive number `mantissa · 2 ^ exponent` among doubles. -/
structure Binary where
  /-- The mantissa, an integer. -/
  mantissa : Nat
  /-- The power of two that scales the mantissa. -/
  exponent : Int
  /-- Whether the next double below is half as far away as the next one above. -/
  closeBelow : Bool

namespace Binary

/-- The weight of the bit above a double's fraction. -/
def topWeight : Nat := 0x10000000000000

/-- The number of exponents that a double can have. -/
def scales : Nat := 0x800

/-- The absolute value of the finite double with the given bits: 52 bits of fraction stand below 11
bits of exponent. -/
def ofBits (bits : UInt64) : Binary :=
  let field := bits.toNat % topWeight
  let scale := bits.toNat / topWeight % scales
  if scale = 0 then ⟨field, -1074, false⟩
  else ⟨topWeight + field, Int.ofNat scale - 1075, decide (field = 0) && decide (1 < scale)⟩

/-- Quarters of the mantissa's unit: ends of the interval and the number itself are multiples. -/
def quarter (b : Binary) : Fraction := power 2 (b.exponent - 2)

/-- The number in quarters. -/
def middle (b : Binary) : Nat := 4 * b.mantissa

/-- The lower end of the interval in quarters. -/
def lower (b : Binary) : Nat := 4 * b.mantissa - (if b.closeBelow then 1 else 2)

/-- The upper end of the interval in quarters. -/
def upper (b : Binary) : Nat := 4 * b.mantissa + 2

/-- Whether the decimal `digits · 10 ^ place` rounds to the number. -/
def rounds (b : Binary) (digits : Nat) (place : Int) : Bool :=
  let ten := power 10 place
  let unit := b.quarter
  let decimal := digits * ten.num * unit.den
  let low := b.lower * unit.num * ten.den
  let high := b.upper * unit.num * ten.den
  if b.mantissa % 2 = 0 then low ≤ decimal && decimal ≤ high else low < decimal && decimal < high

/-- The least shift that makes a fraction below one at least one in decimal places, counted from
the second argument. -/
def leadingShift (num den : Nat) : Nat → Nat → Nat
  | 0, shift => shift
  | fuel + 1, shift =>
    if den ≤ num * Nat.pow 10 shift then shift else leadingShift num den fuel (shift + 1)

/-- The power of ten of the first digit. -/
def leading (b : Binary) : Int :=
  let num := b.middle * b.quarter.num
  let den := b.quarter.den
  if den ≤ num then ((Nat.toDigits 10 (num / den)).length : Int) - 1
  else -(leadingShift num den 400 1 : Int)

/-- The nearer neighbour of the number on the grid `10 ^ place`, if one rounds to the number. -/
def neighbour? (b : Binary) (place : Int) : Option Nat :=
  let ten := power 10 place
  let num := b.middle * b.quarter.num * ten.den
  let den := b.quarter.den * ten.num
  let below := num / den
  let remainder := num % den
  match b.rounds below place, b.rounds (below + 1) place with
  | false, false => none
  | true, false => some below
  | false, true => some (below + 1)
  | true, true =>
    if 2 * remainder < den then some below
    else if den < 2 * remainder then some (below + 1)
    else some (if below % 2 = 0 then below else below + 1)

/-- The first grid with a neighbour, from the given number of digits on. -/
def searchFrom (b : Binary) : Nat → Nat → Nat × Int
  | 0, _ => (0, 0)
  | fuel + 1, count =>
    let place := b.leading - count + 1
    match b.neighbour? place with
    | some digits => (digits, place)
    | none => searchFrom b fuel (count + 1)

/-- The shortest decimal that rounds to the number, as an integer and a power of ten. -/
def shortest (b : Binary) : Nat × Int := b.searchFrom 17 1

end Binary

/-! ### Layout -/

/-- Which powers of ten of the first digit are written without an exponent. -/
structure Layout where
  /-- The least power written without an exponent. -/
  positionalFrom : Int
  /-- The first power too great to be written without an exponent. -/
  positionalBelow : Int

namespace Layout

/-- Digits without zeros at their end, of which a first digit is kept. -/
def significant (digits : List Char) : List Char :=
  match (digits.reverse.dropWhile (· = '0')).reverse with
  | [] => ['0']
  | kept => kept

/-- Digits with a point, the first one standing for the given power of ten. -/
def positional (digits : List Char) (leading : Int) : List Char :=
  match leading with
  | .ofNat n =>
    let whole := digits.take (n + 1)
    let fraction := digits.drop (n + 1)
    whole ++ List.replicate (n + 1 - whole.length) '0' ++
      '.' :: (if fraction = [] then ['0'] else fraction)
  | .negSucc n => '0' :: '.' :: List.replicate n '0' ++ digits

/-- Digits with an exponent, whose sign is always written. -/
def scientific (digits : List Char) (leading : Int) : List Char :=
  let point := match digits with
    | first :: second :: rest => first :: '.' :: second :: rest
    | short => short
  let sign := if 0 ≤ leading then '+' else '-'
  point ++ 'e' :: sign :: Nat.toDigits 10 leading.natAbs

/-- The text of a finite double. -/
def render (layout : Layout) (x : Float) : String :=
  let bits := x.toBits
  let sign := if Binary.topWeight * Binary.scales ≤ bits.toNat then ['-'] else []
  let b := Binary.ofBits bits
  if b.mantissa = 0 then String.ofList (sign ++ ['0', '.', '0'])
  else
    let (integer, place) := b.shortest
    let digits := Nat.toDigits 10 integer
    let leading := place + digits.length - 1
    let kept := significant digits
    if layout.positionalFrom ≤ leading && leading < layout.positionalBelow then
      String.ofList (sign ++ positional kept leading)
    else String.ofList (sign ++ scientific kept leading)

end Layout

end Compliance.Decimal
