/-
**Counts survive their decimal digits.**

A count is written with its decimal digits and read by gathering them again.  The digits of a number
that 64 bits hold never leave the range that the reader gathers in, and the first of them is a zero
only if it is the only one, so nothing is lost and nothing refused.

Main results:

* `gather_eq_foldl` — digits within a limit are all gathered;
* `numeral_digits` — digits alone are a numeral without fraction and exponent;
* `count_toString` — **the digits of a count read as the count**.
-/

import Mathlib.Tactic.IntervalCases
import Compliance.Json.Typed
import Compliance.Proofs.Json.Layout
import Compliance.Proofs.Text.Utf8

set_option relaxedAutoImplicit false
set_option autoImplicit false

namespace Compliance.Json

/-! ### Digits as bytes -/

theorem bounds_of_isDigit {c : Char} (h : c.isDigit = true) : 48 ≤ c.toNat ∧ c.toNat ≤ 57 := by
  simpa [Char.isDigit, UInt32.le_iff_toNat_le] using h

theorem encodeChar_of_isDigit {c : Char} (h : c.isDigit = true) :
    String.utf8EncodeChar c = [byte c] := by
  have bounds : 48 ≤ c.val.toNat ∧ c.val.toNat ≤ 57 := bounds_of_isDigit h
  simp only [String.utf8EncodeChar]
  rw [if_pos (by omega)]
  rfl

theorem isDigit_byte {c : Char} (h : c.isDigit = true) : isDigit (byte c) = true := by
  have bounds := bounds_of_isDigit h
  simp only [isDigit, byte, UInt8.le_iff_toNat_le, Bool.and_eq_true, decide_eq_true_eq]
  simp
  omega

theorem digit_byte {c : Char} (h : c.isDigit = true) :
    digit (byte c) = c.toNat - '0'.toNat := by
  have bounds := bounds_of_isDigit h
  simp only [digit, byte]
  simp
  omega

theorem isDigit_of_mem_toDigits {n : Nat} : ∀ c ∈ Nat.toDigits 10 n, c.isDigit = true :=
  fun _ hc => Nat.isDigit_of_mem_toDigits (by decide) (by decide) hc

/-- The decimal digits of a number as bytes. -/
theorem bytes_toString (n : Nat) :
    Text.bytes (toString n) = (Nat.toDigits 10 n).map byte := by
  have isDigit := isDigit_of_mem_toDigits (n := n)
  rw [Nat.toString_eq_ofList_toDigits, Text.bytes_ofList]
  revert isDigit
  induction Nat.toDigits 10 n with
  | nil => intro _; rfl
  | cons c cs ih =>
      intro isDigit
      rw [List.flatMap_cons, encodeChar_of_isDigit (isDigit c List.mem_cons_self),
        ih fun d hd => isDigit d (List.mem_cons_of_mem _ hd)]
      rfl

theorem isDigit_of_mem_map_byte {cs : List Char} (h : ∀ c ∈ cs, c.isDigit = true) :
    ∀ b ∈ cs.map byte, isDigit b = true := by
  intro b hb
  obtain ⟨c, hc, rfl⟩ := List.mem_map.1 hb
  exact isDigit_byte (h c hc)

/-- Only zero starts with the digit zero. -/
theorem head?_toDigits_ne {n : Nat} (h : 0 < n) : (Nat.toDigits 10 n).head? ≠ some '0' := by
  induction n using Nat.strong_induction_on with
  | _ n ih =>
      rcases Nat.lt_or_ge n 10 with small | large
      · rw [Nat.toDigits_of_lt_base small]
        interval_cases n <;> decide
      · have before := ih (n / 10) (by omega) (by omega)
        rw [Nat.toDigits_of_base_le (by decide) large]
        cases digits : Nat.toDigits 10 (n / 10) with
        | nil => exact absurd digits Nat.toDigits_ne_nil
        | cons c cs => rwa [digits] at before

/-! ### Gathering -/

/-- More digits only make a number greater. -/
theorem le_foldl (n : Nat) (ds : List Nat) : n ≤ ds.foldl (fun n d => n * 10 + d) n := by
  induction ds generalizing n with
  | nil => exact le_rfl
  | cons d ds ih =>
      have step : n ≤ n * 10 + d := by omega
      exact step.trans (ih (n * 10 + d))

/-- Digits that stay within a limit are all gathered. -/
theorem gather_eq_foldl {limit n : Nat} {ds : List Nat}
    (h : ds.foldl (fun n d => n * 10 + d) n ≤ limit) :
    gather limit n ds = (ds.foldl (fun n d => n * 10 + d) n, []) := by
  induction ds generalizing n with
  | nil => rfl
  | cons d ds ih =>
      rw [List.foldl_cons] at h
      rw [gather, if_pos (le_trans (le_foldl _ ds) h), ih h, List.foldl_cons]

/-- The digits of a number make up the number. -/
theorem foldl_digits (n : Nat) :
    (((Nat.toDigits 10 n).map byte).map digit).foldl (fun n d => n * 10 + d) 0 = n := by
  have values : ((Nat.toDigits 10 n).map byte).map digit =
      (Nat.toDigits 10 n).map fun c => c.toNat - '0'.toNat := by
    rw [List.map_map]
    exact List.map_congr_left fun c hc => digit_byte (isDigit_of_mem_toDigits c hc)
  rw [values, List.foldl_map]
  conv => rhs; rw [← Nat.ofDigitChars_ten_toDigits (n := n), Nat.ofDigitChars_eq_foldl]
  congr 1
  funext m c
  omega

/-! ### Numerals -/

/-- A separator neither is a digit nor goes on with a numeral. -/
theorem isSeparator_not_numeral {b : UInt8} (h : isSeparator b = true) :
    isDigit b = false ∧ b ≠ byte '.' ∧ b ≠ byte 'e' ∧ b ≠ byte 'E' := by
  simp only [isSeparator, isBlank, Bool.or_eq_true, decide_eq_true_eq, or_assoc] at h
  rcases h with rfl | rfl | rfl | rfl | rfl | rfl | rfl <;> decide

theorem takeWhile_digits {ds rest : List UInt8} (hd : ∀ b ∈ ds, isDigit b = true)
    {ending : Ending} (h : Follows ending rest) :
    (ds ++ rest).takeWhile isDigit = ds ∧ (ds ++ rest).dropWhile isDigit = rest := by
  have stop : rest.takeWhile isDigit = [] ∧ rest.dropWhile isDigit = rest := by
    cases rest with
    | nil => exact ⟨rfl, rfl⟩
    | cons b s =>
        have := (isSeparator_not_numeral h).1
        exact ⟨by simp [this], by simp [this]⟩
  rw [List.takeWhile_append_of_pos hd, List.dropWhile_append_of_pos hd, stop.1, stop.2]
  exact ⟨List.append_nil _, rfl⟩

theorem wholeDigits_digits {d : UInt8} {ds rest : List UInt8}
    (hd : ∀ b ∈ d :: ds, isDigit b = true) (zero : d = byte '0' → ds = []) {ending : Ending}
    (h : Follows ending rest) (missing : Cause) :
    wholeDigits missing ending (d :: ds ++ rest) = .ok ((d :: ds).map digit, rest) := by
  rw [List.cons_append, wholeDigits]
  by_cases hz : d = byte '0'
  · obtain rfl := zero hz
    rw [if_pos hz, List.nil_append, h.look_eq, ok_bind, hz]
    cases rest with
    | nil => rfl
    | cons b s =>
        have notDigit := (isSeparator_not_numeral h).1
        simp only [List.head?_cons, notDigit]
        rfl
  · obtain ⟨front, after⟩ := takeWhile_digits
      (fun b hb => hd b (List.mem_cons_of_mem _ hb)) h
    rw [if_neg hz, if_pos (hd d List.mem_cons_self)]
    simp only [afterDigits, frontDigits, front, after, h.look_eq, ok_bind]
    rfl

theorem fractionDigits_eq_none {rest : List UInt8} {ending : Ending} (h : Follows ending rest)
    (missing : Cause) : fractionDigits missing ending rest = .ok (none, rest) := by
  cases rest with
  | nil => rfl
  | cons b s => rw [fractionDigits, if_neg (isSeparator_not_numeral h).2.1]

theorem exponentDigits_eq_none {rest : List UInt8} {ending : Ending} (h : Follows ending rest)
    (missing : Cause) : exponentDigits missing ending rest = .ok (none, rest) := by
  cases rest with
  | nil => rfl
  | cons b s =>
      have letters := (isSeparator_not_numeral h).2.2
      rw [exponentDigits, if_neg (by simp [letters])]

/-- Digits alone are a numeral without fraction and exponent. -/
theorem numeral_digits {d : UInt8} {ds rest : List UInt8}
    (hd : ∀ b ∈ d :: ds, isDigit b = true) (zero : d = byte '0' → ds = []) {ending : Ending}
    (h : Follows ending rest) (missing : Cause) (negative : Bool) :
    numeral missing negative ending (d :: ds ++ rest) =
      .ok (⟨negative, (d :: ds).map digit, none, none⟩, rest) := by
  rw [numeral, wholeDigits_digits hd zero h]
  simp only [ok_bind, fractionDigits_eq_none h, exponentDigits_eq_none h]
  rfl

/-! ### Counts -/

/-- The value of a numeral without sign, fraction and exponent that 64 bits hold. -/
theorem value?_of_foldl_le {ds : List Nat}
    (h : ds.foldl (fun n d => n * 10 + d) 0 ≤ maxSignificand) :
    Numeral.value? ⟨false, ds, none, none⟩ =
      some (.natural (ds.foldl (fun n d => n * 10 + d) 0)) := by
  have whole : Numeral.wholePart ⟨false, ds, none, none⟩ =
      (ds.foldl (fun n d => n * 10 + d) 0, []) := gather_eq_foldl h
  simp [Numeral.value?, Numeral.isInteger, whole]

/-- What the digits of a number are: digits, of which the first is a zero only if it stands alone,
and which make up the number. -/
theorem exists_digits (n : Nat) : ∃ d ds, Text.bytes (toString n) = d :: ds ∧
    (∀ b ∈ d :: ds, isDigit b = true) ∧ (d = byte '0' → ds = []) ∧
    ((d :: ds).map digit).foldl (fun n d => n * 10 + d) 0 = n := by
  have digitChars := isDigit_of_mem_toDigits (n := n)
  have total := foldl_digits n
  rw [bytes_toString]
  cases digits : Nat.toDigits 10 n with
  | nil => exact absurd digits Nat.toDigits_ne_nil
  | cons c cs =>
      rw [digits] at digitChars total
      refine ⟨byte c, cs.map byte, rfl, isDigit_of_mem_map_byte digitChars, ?_, total⟩
      intro hz
      have same : c = '0' := by
        have value := digit_byte (digitChars c List.mem_cons_self)
        have low := bounds_of_isDigit (digitChars c List.mem_cons_self)
        rw [hz] at value
        have zero : digit (byte '0') = 0 ∧ '0'.toNat = 48 := by decide
        exact Char.toNat_inj.1 (by omega)
      -- only zero starts with a zero, and it has no other digit
      rcases Nat.eq_zero_or_pos n with rfl | pos
      · rw [Nat.toDigits_zero] at digits
        rw [← (List.cons.inj digits).2]
        rfl
      · exact absurd (by rw [digits, same]; rfl) (head?_toDigits_ne pos)

/-- A digit is neither a blank nor a bracket nor a minus sign. -/
theorem isDigit_apart {b : UInt8} (h : isDigit b = true) :
    isBlank b = false ∧ b ≠ byte ']' ∧ b ≠ byte '-' := by
  refine ⟨?_, fun e => by subst e; exact absurd h (by decide),
    fun e => by subst e; exact absurd h (by decide)⟩
  by_contra blank
  simp only [isBlank, Bool.not_eq_false, Bool.or_eq_true, decide_eq_true_eq, or_assoc] at blank
  rcases blank with rfl | rfl | rfl | rfl <;> exact absurd h (by decide)

/-- **The digits of a count read as the count**, after blanks and before what can follow it. -/
theorem count_toString (n : UInt64) {w rest : List UInt8} (hw : Blanks w) {ending : Ending}
    (h : Follows ending rest) :
    count ending (w ++ (Text.bytes (toString n.toNat) ++ rest)) = .ok (n, rest) := by
  obtain ⟨d, ds, text, digits, zero, total⟩ := exists_digits n.toNat
  have range : ((d :: ds).map digit).foldl (fun n d => n * 10 + d) 0 ≤ maxSignificand := by
    have := n.toNat_lt
    rw [total, maxSignificand]
    omega
  have first := digits d List.mem_cons_self
  obtain ⟨notBlank, -, notMinus⟩ := isDigit_apart first
  have read := numeral_digits digits zero h (.endWithin .value) false
  rw [text, count, skipBlank_append hw, List.cons_append, skipBlank_of_not_isBlank notBlank]
  simp only [if_neg notMinus, first, if_true, countNumber, number]
  rw [← List.cons_append, read]
  simp only [ok_bind, Numeral.overflow?, h.look_eq, value?_of_foldl_le range, total]
  simp [countOf]
  rfl

end Compliance.Json
