/-
**Texts are ordered like their bytes.**

UTF-8 keeps the order of code points: the bytes of a smaller character are below those of a greater one
at the first place where they differ, and neither of them is the front of the other.  So texts that are
compared character by character come in the same order as their bytes.

Main definitions:

* `Text.Below` — bytes that are below others at a place that both have;
* `Text.Ascending` — texts in strictly ascending order of their bytes.

Main results:

* `Text.below_encodeChar` — **a smaller character has smaller bytes**;
* `Text.bytes_lt_bytes_iff` — **the order of texts is that of their bytes**.
-/

import Compliance.Proofs.Text.Utf8

set_option relaxedAutoImplicit false
set_option autoImplicit false

namespace Compliance.Text

/-! ### Bytes in order -/

/-- Bytes that are below others at a place that both have, and equal to them before it. -/
inductive Below : List UInt8 → List UInt8 → Prop
  | here {a b : UInt8} {s t : List UInt8} : a < b → Below (a :: s) (b :: t)
  | later {a : UInt8} {s t : List UInt8} : Below s t → Below (a :: s) (a :: t)

/-- What comes after the place does not matter. -/
theorem Below.append_lt {s t : List UInt8} (h : Below s t) (u v : List UInt8) :
    s ++ u < t ++ v := by
  induction h with
  | here below => exact List.cons_lt_cons_iff.2 (.inl below)
  | later _ ih => exact List.cons_lt_cons_iff.2 (.inr ⟨rfl, ih⟩)

theorem append_lt_append_left {s t : List UInt8} (h : s < t) (p : List UInt8) :
    p ++ s < p ++ t := by
  induction p with
  | nil => exact h
  | cons b p ih => exact List.cons_lt_cons_iff.2 (.inr ⟨rfl, ih⟩)

/-! ### Characters in order -/

theorem ofNat_lt_ofNat {x y : Nat} (h : x < y) (bound : y < 256) :
    UInt8.ofNat x < UInt8.ofNat y := by
  rw [UInt8.lt_iff_toNat_lt, UInt8.toNat_ofNat_of_lt' (show x < 256 by omega),
    UInt8.toNat_ofNat_of_lt' (show y < 256 by omega)]
  exact h

/-- Bytes of one place: where the first ones are equal, the ones after them decide. -/
theorem Below.digit {x y : Nat} {s t : List UInt8} (h : x ≤ y) (bound : y < 256)
    (same : x = y → Below s t) : Below (UInt8.ofNat x :: s) (UInt8.ofNat y :: t) := by
  rcases Nat.lt_or_eq_of_le h with less | rfl
  · exact .here (ofNat_lt_ofNat less bound)
  · exact .later (same rfl)

/-- Last bytes in order. -/
theorem Below.last {x y : Nat} (h : x < y) (bound : y < 256) (s t : List UInt8) :
    Below (UInt8.ofNat x :: s) (UInt8.ofNat y :: t) := .here (ofNat_lt_ofNat h bound)

/-- **A smaller character has smaller bytes**, up to a place that both characters have. -/
theorem below_encodeChar {c d : Char} (h : c < d) :
    Below (String.utf8EncodeChar c) (String.utf8EncodeChar d) := by
  have less : c.val.toNat < d.val.toNat := UInt32.lt_iff_toNat_lt.1 h
  have bound : d.val.toNat < 0x110000 := by
    rcases d.valid with low | ⟨_, high⟩
    · exact Nat.lt_trans low (by decide)
    · exact high
  simp only [String.utf8EncodeChar]
  generalize c.val.toNat = v at less
  generalize d.val.toNat = w at less bound
  -- more bytes start with a greater one; as many bytes are digits to the base 64
  split
  · repeat' split
    all_goals exact .last (by omega) (by omega) _ _
  split
  · split
    · omega
    split
    · exact .digit (by omega) (by omega) fun _ => .last (by omega) (by omega) _ _
    repeat' split
    all_goals exact .last (by omega) (by omega) _ _
  split
  · split
    · omega
    split
    · omega
    split
    · exact .digit (by omega) (by omega) fun _ => .digit (by omega) (by omega) fun _ =>
        .last (by omega) (by omega) _ _
    · exact .last (by omega) (by omega) _ _
  · split
    · omega
    split
    · omega
    split
    · omega
    · exact .digit (by omega) (by omega) fun _ => .digit (by omega) (by omega) fun _ =>
        .digit (by omega) (by omega) fun _ => .last (by omega) (by omega) _ _

/-! ### Texts in order -/

theorem flatMap_encodeChar_lt {cs ds : List Char} (h : cs < ds) :
    cs.flatMap String.utf8EncodeChar < ds.flatMap String.utf8EncodeChar := by
  induction h with
  | @nil d ds =>
      rw [List.flatMap_nil, List.flatMap_cons]
      cases front : String.utf8EncodeChar d with
      | nil => exact absurd front (String.utf8EncodeChar_ne_nil)
      | cons b bs => exact List.nil_lt_cons _ _
  | @rel c cs d ds below =>
      rw [List.flatMap_cons, List.flatMap_cons]
      exact (below_encodeChar below).append_lt _ _
  | @cons c cs ds _ ih =>
      rw [List.flatMap_cons, List.flatMap_cons]
      exact append_lt_append_left ih _

theorem bytes_lt_bytes {s t : String} (h : s < t) : bytes s < bytes t := by
  rw [bytes_eq, bytes_eq]
  exact flatMap_encodeChar_lt (String.lt_iff.1 h)

/-- **The order of texts is that of their bytes.** -/
theorem bytes_lt_bytes_iff {s t : String} : bytes s < bytes t ↔ s < t := by
  refine ⟨fun below => ?_, bytes_lt_bytes⟩
  refine Decidable.byContradiction fun notBelow => ?_
  rcases Std.le_iff_lt_or_eq.1 (String.not_lt.1 notBelow) with above | same
  · exact List.lt_asymm below (bytes_lt_bytes above)
  · subst same
    exact List.lt_irrefl _ below

theorem bytes_le_bytes {s t : String} (h : s ≤ t) : bytes s ≤ bytes t :=
  fun above => String.not_lt.2 h (bytes_lt_bytes_iff.1 above)

/-- Texts of which the bytes of each one are below those of all later ones. -/
def Ascending (xs : List String) : Prop := xs.Pairwise fun s t => bytes s < bytes t

theorem ascending_iff {xs : List String} : Ascending xs ↔ xs.Pairwise (· < ·) := by
  rw [Ascending]
  simp only [bytes_lt_bytes_iff]

theorem Ascending.nodup {xs : List String} (h : Ascending xs) : xs.Nodup := by
  refine List.Pairwise.imp (fun below same => ?_) h
  rw [same] at below
  exact List.lt_irrefl _ below

end Compliance.Text
