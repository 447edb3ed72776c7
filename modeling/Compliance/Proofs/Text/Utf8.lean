/-
**Text survives its bytes.**

The bytes of a text are those of its characters, one after another.  Decoding takes each character
off the front again, whatever follows it, so the bytes of a text decode to its characters and leave
nothing.

Main results:

* `Text.bytes_eq`, `Text.bytes_append` — bytes are taken character by character;
* `Text.decodeAfter_encodeChar` — **decoding takes off what encoding put**, for one character;
* `Text.decode_bytes` — the same for a whole text;
* `Text.bytes_injective` — texts with the same bytes are equal.
-/

import Compliance.Text.Utf8

set_option relaxedAutoImplicit false
set_option autoImplicit false

namespace Compliance.Text

/-! ### Bytes character by character -/

/-- The bytes of a text are those of its characters. -/
theorem bytes_eq (s : String) : bytes s = s.toList.flatMap String.utf8EncodeChar := by
  rw [bytes, String.toUTF8_eq_toByteArray, ← String.utf8Encode_toList, List.utf8Encode]
  simp

@[simp] theorem bytes_empty : bytes "" = [] := rfl

@[simp] theorem bytes_append (s t : String) : bytes (s ++ t) = bytes s ++ bytes t := by
  simp [bytes_eq]

@[simp] theorem bytes_ofList (cs : List Char) :
    bytes (String.ofList cs) = cs.flatMap String.utf8EncodeChar := by
  simp [bytes_eq]

/-! ### Characters of one and of two bytes -/

theorem one?_ofNat {v : Nat} (h : v < 0x80) : one? (UInt8.ofNat v) = some (Char.ofNat v) := by
  have hv : (UInt8.ofNat v).toNat = v := UInt8.toNat_ofNat_of_lt' (show v < 256 by omega)
  rw [one?, if_pos (by rw [UInt8.lt_iff_toNat_lt, hv]; exact h), hv]

/-- A byte beyond ASCII is no character of its own. -/
theorem one?_eq_none {v : Nat} (h : 0x80 ≤ v) (h' : v < 256) : one? (UInt8.ofNat v) = none := by
  have hv : (UInt8.ofNat v).toNat = v := UInt8.toNat_ofNat_of_lt' (show v < 256 by omega)
  rw [one?, if_neg (by rw [UInt8.lt_iff_toNat_lt, hv]; simp; omega)]

theorem isContinuation_ofNat (v : Nat) :
    isContinuation (UInt8.ofNat (v % 64 + 0x80)) = true := by
  simp [isContinuation, UInt8.le_iff_toNat_le]
  omega

theorem payload_ofNat (v : Nat) : payload (UInt8.ofNat (v % 64 + 0x80)) = v % 64 := by
  simp [payload]
  omega

theorem two?_ofNat {v : Nat} (h : 0x80 ≤ v) (h' : v ≤ 0x7FF) :
    two? (UInt8.ofNat (v / 64 % 32 + 0xC0)) (UInt8.ofNat (v % 64 + 0x80)) =
      some (Char.ofNat v) := by
  have ha : (UInt8.ofNat (v / 64 % 32 + 0xC0)).toNat = v / 64 % 32 + 0xC0 :=
    UInt8.toNat_ofNat_of_lt' (show v / 64 % 32 + 0xC0 < 256 by omega)
  have lead : 0xC2 ≤ UInt8.ofNat (v / 64 % 32 + 0xC0) ∧
      UInt8.ofNat (v / 64 % 32 + 0xC0) ≤ 0xDF := by
    simp only [UInt8.le_iff_toNat_le, ha]
    simp
    omega
  have value : (v / 64 % 32 + 0xC0 - 0xC0) * 64 + v % 64 = v := by omega
  simp only [two?, lead, isContinuation_ofNat, ha, payload_ofNat, value]
  simp

/-- A byte above those that lead two bytes leads no character of two. -/
theorem two?_eq_none {v : Nat} (h : 0xE0 ≤ v) (h' : v < 256) (b : UInt8) :
    two? (UInt8.ofNat v) b = none := by
  have hv : (UInt8.ofNat v).toNat = v := UInt8.toNat_ofNat_of_lt' (show v < 256 by omega)
  have lead : ¬ UInt8.ofNat v ≤ 0xDF := by
    simp only [UInt8.le_iff_toNat_le, hv]
    simp
    omega
  simp [two?, lead]

/-! ### Characters of three and of four bytes -/

theorem startsThree_ofNat {v : Nat} (h : 0x800 ≤ v) (h' : v ≤ 0xFFFF)
    (hs : v < 0xD800 ∨ 0xDFFF < v) :
    startsThree (UInt8.ofNat (v / 4096 % 16 + 0xE0)) (UInt8.ofNat (v / 64 % 64 + 0x80)) =
      true := by
  have ha : (UInt8.ofNat (v / 4096 % 16 + 0xE0)).toNat = v / 4096 % 16 + 0xE0 :=
    UInt8.toNat_ofNat_of_lt' (show v / 4096 % 16 + 0xE0 < 256 by omega)
  have hb : (UInt8.ofNat (v / 64 % 64 + 0x80)).toNat = v / 64 % 64 + 0x80 :=
    UInt8.toNat_ofNat_of_lt' (show v / 64 % 64 + 0x80 < 256 by omega)
  simp only [startsThree, isContinuation_ofNat, bne_iff_ne, Bool.and_eq_true, Bool.or_eq_true,
    decide_eq_true_eq, ne_eq, UInt8.le_iff_toNat_le, ← UInt8.toNat_inj, ha, hb]
  simp
  omega

theorem three?_ofNat {v : Nat} (h : 0x800 ≤ v) (h' : v ≤ 0xFFFF)
    (hs : v < 0xD800 ∨ 0xDFFF < v) :
    three? (UInt8.ofNat (v / 4096 % 16 + 0xE0)) (UInt8.ofNat (v / 64 % 64 + 0x80))
      (UInt8.ofNat (v % 64 + 0x80)) = some (Char.ofNat v) := by
  have ha : (UInt8.ofNat (v / 4096 % 16 + 0xE0)).toNat = v / 4096 % 16 + 0xE0 :=
    UInt8.toNat_ofNat_of_lt' (show v / 4096 % 16 + 0xE0 < 256 by omega)
  have value : ((v / 4096 % 16 + 0xE0 - 0xE0) * 64 + v / 64 % 64) * 64 + v % 64 = v := by omega
  simp only [three?, startsThree_ofNat h h' hs, isContinuation_ofNat, ha, payload_ofNat, value]
  simp

/-- A byte above those that lead three bytes leads no character of three. -/
theorem three?_eq_none {v : Nat} (h : 0xF0 ≤ v) (h' : v < 256) (b c : UInt8) :
    three? (UInt8.ofNat v) b c = none := by
  have hv : (UInt8.ofNat v).toNat = v := UInt8.toNat_ofNat_of_lt' (show v < 256 by omega)
  have lead : ¬ UInt8.ofNat v ≤ 0xEF := by
    simp only [UInt8.le_iff_toNat_le, hv]
    simp
    omega
  simp [three?, startsThree, lead]

theorem startsFour_ofNat {v : Nat} (h : 0x10000 ≤ v) (h' : v < 0x110000) :
    startsFour (UInt8.ofNat (v / 262144 % 8 + 0xF0)) (UInt8.ofNat (v / 4096 % 64 + 0x80)) =
      true := by
  have ha : (UInt8.ofNat (v / 262144 % 8 + 0xF0)).toNat = v / 262144 % 8 + 0xF0 :=
    UInt8.toNat_ofNat_of_lt' (show v / 262144 % 8 + 0xF0 < 256 by omega)
  have hb : (UInt8.ofNat (v / 4096 % 64 + 0x80)).toNat = v / 4096 % 64 + 0x80 :=
    UInt8.toNat_ofNat_of_lt' (show v / 4096 % 64 + 0x80 < 256 by omega)
  simp only [startsFour, isContinuation_ofNat, bne_iff_ne, Bool.and_eq_true, Bool.or_eq_true,
    decide_eq_true_eq, ne_eq, UInt8.le_iff_toNat_le, ← UInt8.toNat_inj, ha, hb]
  simp
  omega

theorem four?_ofNat {v : Nat} (h : 0x10000 ≤ v) (h' : v < 0x110000) :
    four? (UInt8.ofNat (v / 262144 % 8 + 0xF0)) (UInt8.ofNat (v / 4096 % 64 + 0x80))
      (UInt8.ofNat (v / 64 % 64 + 0x80)) (UInt8.ofNat (v % 64 + 0x80)) = some (Char.ofNat v) := by
  have ha : (UInt8.ofNat (v / 262144 % 8 + 0xF0)).toNat = v / 262144 % 8 + 0xF0 :=
    UInt8.toNat_ofNat_of_lt' (show v / 262144 % 8 + 0xF0 < 256 by omega)
  have value : (((v / 262144 % 8 + 0xF0 - 0xF0) * 64 + v / 4096 % 64) * 64 + v / 64 % 64) * 64 +
      v % 64 = v := by omega
  simp only [four?, startsFour_ofNat h h', isContinuation_ofNat, ha, payload_ofNat, value]
  simp

/-! ### Decoding by the length of the first character -/

theorem decodeAfter_one {a : UInt8} {x : Char} (h : one? a = some x) (read : List Char)
    (s : List UInt8) : decodeAfter read (a :: s) = decodeAfter (x :: read) s := by
  rw [decodeAfter.eq_def]
  simp only [h]

theorem decodeAfter_two {a b : UInt8} {x : Char} (h₁ : one? a = none) (h₂ : two? a b = some x)
    (read : List Char) (s : List UInt8) :
    decodeAfter read (a :: b :: s) = decodeAfter (x :: read) s := by
  rw [decodeAfter.eq_def]
  simp only [h₁, h₂]

theorem decodeAfter_three {a b c : UInt8} {x : Char} (h₁ : one? a = none) (h₂ : two? a b = none)
    (h₃ : three? a b c = some x) (read : List Char) (s : List UInt8) :
    decodeAfter read (a :: b :: c :: s) = decodeAfter (x :: read) s := by
  rw [decodeAfter.eq_def]
  simp only [h₁, h₂, h₃]

theorem decodeAfter_four {a b c d : UInt8} {x : Char} (h₁ : one? a = none)
    (h₂ : two? a b = none) (h₃ : three? a b c = none) (h₄ : four? a b c d = some x)
    (read : List Char) (s : List UInt8) :
    decodeAfter read (a :: b :: c :: d :: s) = decodeAfter (x :: read) s := by
  rw [decodeAfter.eq_def]
  simp only [h₁, h₂, h₃, h₄]

/-! ### Whole texts -/

/-- **Decoding takes off what encoding put**: the bytes of a character decode to it, whatever
follows them. -/
theorem decodeAfter_encodeChar (read : List Char) (c : Char) (rest : List UInt8) :
    decodeAfter read (String.utf8EncodeChar c ++ rest) = decodeAfter (c :: read) rest := by
  have valid : c.val.toNat < 0xD800 ∨ 0xDFFF < c.val.toNat ∧ c.val.toNat < 0x110000 := c.valid
  have back : Char.ofNat c.val.toNat = c := Char.ofNat_toNat c
  simp only [String.utf8EncodeChar]
  generalize c.val.toNat = v at valid back
  subst back
  -- one case for each length of a character's bytes
  split
  · exact decodeAfter_one (one?_ofNat (by omega)) read rest
  split
  · exact decodeAfter_two (one?_eq_none (by omega) (by omega))
      (two?_ofNat (by omega) (by omega)) read rest
  split
  · exact decodeAfter_three (one?_eq_none (by omega) (by omega))
      (two?_eq_none (by omega) (by omega) _)
      (three?_ofNat (by omega) (by omega) (by omega)) read rest
  · exact decodeAfter_four (one?_eq_none (by omega) (by omega))
      (two?_eq_none (by omega) (by omega) _) (three?_eq_none (by omega) (by omega) _ _)
      (four?_ofNat (by omega) (by omega)) read rest

theorem decodeAfter_flatMap_encodeChar (read cs : List Char) :
    decodeAfter read (cs.flatMap String.utf8EncodeChar) = (read.reverse ++ cs, []) := by
  induction cs generalizing read with
  | nil => simp [decodeAfter]
  | cons c cs ih => simp [decodeAfter_encodeChar, ih]

/-- **The bytes of a text decode to its characters** and leave nothing. -/
theorem decode_bytes (s : String) : decode (bytes s) = (s.toList, []) := by
  rw [bytes_eq, decode, decodeAfter_flatMap_encodeChar]
  rfl

/-- Texts with the same bytes are equal. -/
theorem bytes_injective {s t : String} (h : bytes s = bytes t) : s = t := by
  have decoded : (s.toList, ([] : List UInt8)) = (t.toList, []) := by
    rw [← decode_bytes, ← decode_bytes, h]
  exact String.toList_inj.1 (Prod.mk.inj decoded).1

end Compliance.Text
