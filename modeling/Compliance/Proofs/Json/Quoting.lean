/-
**String literals survive quoting.**

A literal writes quotes, backslashes and control characters as escapes and every other character as
it stands.  The machine that reads literals takes each of these pieces in turn: between two
characters it owes nothing and has decoded the bytes of all characters so far.

Main results:

* `literalBytes_escaped` — **one character**: what is written for it adds its bytes;
* `spellsLiteral_quoted` — a literal reads as the text that it was written for.
-/

import Compliance.Json.Tree
import Compliance.Proofs.Json.Layout
import Compliance.Proofs.Text.Utf8

set_option relaxedAutoImplicit false
set_option autoImplicit false

namespace Compliance.Json

/-! ### Characters that stand for themselves -/

/-- A byte that is no quote, no backslash and no control character adds itself. -/
theorem literalBytes_plain {b : UInt8} (quote : b ≠ byte '"') (slash : b ≠ byte '\\')
    (low : 0x20 ≤ b) (ending : Ending) (read s : List UInt8) :
    literalBytes true ending .nothing read (b :: s) =
      literalBytes true ending .nothing (b :: read) s := by
  have notLow : ¬ b < 0x20 := UInt8.not_lt.2 low
  rw [literalBytes]
  simp [quote, Owed.take, slash, notLow]

theorem literalBytes_plain_append {bs : List UInt8}
    (plain : ∀ b ∈ bs, b ≠ byte '"' ∧ b ≠ byte '\\' ∧ 0x20 ≤ b) (ending : Ending)
    (read s : List UInt8) :
    literalBytes true ending .nothing read (bs ++ s) =
      literalBytes true ending .nothing (bs.reverse ++ read) s := by
  induction bs generalizing read with
  | nil => rfl
  | cons b bs ih =>
      obtain ⟨quote, slash, low⟩ := plain b List.mem_cons_self
      rw [List.cons_append, literalBytes_plain quote slash low,
        ih fun c hc => plain c (List.mem_cons_of_mem _ hc)]
      simp

/-- The bytes of a character that is written as it stands. -/
theorem plain_of_mem_encodeChar {c : Char} (quote : c ≠ '"') (slash : c ≠ '\\')
    (low : 0x20 ≤ c.toNat) :
    ∀ b ∈ String.utf8EncodeChar c, b ≠ byte '"' ∧ b ≠ byte '\\' ∧ 0x20 ≤ b := by
  have back : Char.ofNat c.val.toNat = c := Char.ofNat_toNat c
  change 0x20 ≤ c.val.toNat at low
  simp only [String.utf8EncodeChar]
  generalize c.val.toNat = v at back low
  subst back
  -- a byte beyond ASCII is none of the bytes in question
  have high : ∀ n : Nat, 0x80 ≤ n → n < 256 → UInt8.ofNat n ≠ byte '"' ∧
      UInt8.ofNat n ≠ byte '\\' ∧ 0x20 ≤ UInt8.ofNat n := by
    intro n hn hn'
    simp only [ne_eq, ← UInt8.toNat_inj, UInt8.le_iff_toNat_le, UInt8.toNat_ofNat', byte]
    simp
    omega
  intro b hb
  split at hb
  · have quote' : v ≠ 34 := fun h => quote (h ▸ rfl)
    have slash' : v ≠ 92 := fun h => slash (h ▸ rfl)
    obtain rfl := List.mem_singleton.1 hb
    simp only [ne_eq, ← UInt8.toNat_inj, UInt8.le_iff_toNat_le, UInt8.toNat_ofNat', byte]
    simp
    omega
  split at hb
  · simp only [List.mem_cons, List.not_mem_nil, or_false] at hb
    rcases hb with rfl | rfl <;> exact high _ (by omega) (by omega)
  split at hb
  · simp only [List.mem_cons, List.not_mem_nil, or_false] at hb
    rcases hb with rfl | rfl | rfl <;> exact high _ (by omega) (by omega)
  · simp only [List.mem_cons, List.not_mem_nil, or_false] at hb
    rcases hb with rfl | rfl | rfl | rfl <;> exact high _ (by omega) (by omega)

/-! ### Control characters by number -/

theorem hexDigit?_hexDigit : ∀ k < 16, hexDigit? (byte (hexDigit k)) = some k := by decide

theorem encodeChar_hexDigit :
    ∀ k < 16, String.utf8EncodeChar (hexDigit k) = [byte (hexDigit k)] := by decide

theorem hexValue?_control {v : Nat} (hv : v < 0x20) :
    hexValue? [byte (hexDigit (v % 16)), byte (hexDigit (v / 16)), byte '0', byte '0'] =
      some v := by
  have zero : hexDigit? (byte '0') = some 0 := by decide
  simp only [hexValue?, hexDigit?_hexDigit _ (show v % 16 < 16 by omega),
    hexDigit?_hexDigit _ (show v / 16 < 16 by omega), zero]
  simp
  omega

/-- An escape by number adds the character with that number. -/
theorem literalBytes_number {h l : UInt8} {v : Nat}
    (value : hexValue? [l, h, byte '0', byte '0'] = some v) (hv : v < 0x80) (ending : Ending)
    (read s : List UInt8) :
    literalBytes true ending .nothing read
        (byte '\\' :: byte 'u' :: byte '0' :: byte '0' :: h :: l :: s) =
      literalBytes true ending .nothing
        ((String.utf8EncodeChar (Char.ofNat v)).reverse ++ read) s := by
  have trailing : isTrailing v = false := by simp [isTrailing]; omega
  have leading : isLeading v = false := by simp [isLeading]; omega
  have last : Owed.take true (.digits [h, byte '0', byte '0']) l =
      .ok (String.utf8EncodeChar (Char.ofNat v), .nothing) := by
    simp [Owed.take, Owed.addDigit, value, Owed.ofUnit, trailing, leading]
  -- up to the last digit nothing is decided
  have start : literalBytes true ending .nothing read
      (byte '\\' :: byte 'u' :: byte '0' :: byte '0' :: h :: l :: s) =
        literalBytes true ending (.digits [h, byte '0', byte '0']) read (l :: s) := rfl
  rw [start, literalBytes, if_neg (by simp), last]

/-! ### Whole literals -/

/-- **What is written for a character adds its bytes** and leaves the machine owing nothing. -/
theorem literalBytes_escaped (c : Char) (ending : Ending) (read s : List UInt8) :
    literalBytes true ending .nothing read ((escaped c).flatMap String.utf8EncodeChar ++ s) =
      literalBytes true ending .nothing ((String.utf8EncodeChar c).reverse ++ read) s := by
  unfold escaped
  split
  -- the seven characters with an escape of their own
  iterate 7 rfl
  · rename_i quote slash _ _ _ _ _
    have back : Char.ofNat c.toNat = c := Char.ofNat_toNat c
    split
    · rename_i low
      have text : (['\\', 'u', '0', '0', hexDigit (c.toNat / 16), hexDigit (c.toNat % 16)].flatMap
          String.utf8EncodeChar) = [byte '\\', byte 'u', byte '0', byte '0',
            byte (hexDigit (c.toNat / 16)), byte (hexDigit (c.toNat % 16))] := by
        simp only [List.flatMap_cons, List.flatMap_nil,
          encodeChar_hexDigit _ (show c.toNat / 16 < 16 by omega),
          encodeChar_hexDigit _ (show c.toNat % 16 < 16 by omega)]
        rfl
      have step := literalBytes_number (hexValue?_control low) (by omega) ending read s
      rw [text]
      rwa [back] at step
    · rename_i high
      rw [List.flatMap_singleton,
        literalBytes_plain_append (plain_of_mem_encodeChar quote slash (by omega))]

theorem literalBytes_flatMap_escaped (cs : List Char) (ending : Ending) (read s : List UInt8) :
    literalBytes true ending .nothing read
        ((cs.flatMap escaped).flatMap String.utf8EncodeChar ++ byte '"' :: s) =
      .ok (read.reverse ++ cs.flatMap String.utf8EncodeChar, s) := by
  induction cs generalizing read with
  | nil =>
      rw [List.flatMap_nil, List.flatMap_nil, List.nil_append, literalBytes, if_pos (by simp)]
      simp
  | cons c cs ih =>
      rw [List.flatMap_cons, List.flatMap_append, List.append_assoc, literalBytes_escaped, ih]
      simp

/-- The bytes of a literal between its quotes, with the closing one. -/
def literalText (s : String) : List UInt8 :=
  Text.bytes (String.ofList (s.toList.flatMap escaped)) ++ [byte '"']

theorem bytes_quoted (s : String) : Text.bytes (quoted s) = byte '"' :: literalText s := by
  rw [quoted, Text.bytes_append, Text.bytes_append]
  rfl

/-- **A literal reads as the text that it was written for.** -/
theorem spellsLiteral_quoted (s : String) : SpellsLiteral (literalText s) s := by
  intro ending rest
  have read := literalBytes_flatMap_escaped s.toList ending [] rest
  rw [List.reverse_nil, List.nil_append, ← Text.bytes_eq] at read
  rw [literalText, Text.bytes_ofList, List.append_assoc, List.singleton_append, literal, read]
  simp only [ok_bind, Text.decode_bytes, String.ofList_toList]
  rfl

end Compliance.Json
