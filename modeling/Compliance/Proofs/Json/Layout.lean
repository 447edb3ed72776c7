/-
**How lists and objects are laid out.**

The text of a list is cut into the texts of its elements, and that of an object into keys with the
texts of their values.  A layout says where the cuts are; commas, colons, brackets and blanks stand
between them.  Layouts know nothing of what the parts mean, so every reader of containers can be
followed along the same layout.

Main definitions:

* `Blanks`, `StartsValue`, `Follows` — blanks, the start of a value, and what can come after one;
* `SpellsKey` — the text of a key with its quotes and its colon;
* `ListLayout`, `ObjectLayout` — where the parts of a container are.

Main results:

* `nextElement_first`, `nextElement_later`, `nextElement_close` — a list is read along its layout;
* `nextMember_first`, `nextMember_later`, `nextMember_close` — and so is an object.
-/

import Compliance.Json.Container
import Compliance.Proofs.Except

set_option relaxedAutoImplicit false
set_option autoImplicit false

namespace Compliance.Json

/-! ### Blanks -/

/-- Blanks and nothing else. -/
def Blanks (w : List UInt8) : Prop := ∀ b ∈ w, isBlank b = true

theorem Blanks.nil : Blanks [] := fun _ h => absurd h List.not_mem_nil

theorem Blanks.cons {b : UInt8} {w : List UInt8} (hb : isBlank b = true) (hw : Blanks w) :
    Blanks (b :: w) := by
  intro c hc
  rcases List.mem_cons.1 hc with rfl | hc
  · exact hb
  · exact hw c hc

/-- Blanks at the front are passed over. -/
@[simp] theorem skipBlank_append {w : List UInt8} (hw : Blanks w) (s : List UInt8) :
    skipBlank (w ++ s) = skipBlank s := by
  induction w with
  | nil => rfl
  | cons b w ih =>
      rw [List.cons_append, skipBlank_cons, if_pos (hw b List.mem_cons_self)]
      exact ih fun c hc => hw c (List.mem_cons_of_mem _ hc)

theorem skipBlank_of_not_isBlank {b : UInt8} (h : isBlank b = false) (s : List UInt8) :
    skipBlank (b :: s) = b :: s := by
  rw [skipBlank_cons, h]
  rfl

theorem skipBlank_eq_nil {w : List UInt8} (hw : Blanks w) : skipBlank w = [] := by
  have h := skipBlank_append hw []
  rwa [List.append_nil] at h

/-! ### Where values start and end -/

/-- A text that starts like a value: with neither a blank nor a bracket that closes a list. -/
def StartsValue (c : List UInt8) : Prop :=
  ∃ b s, c = b :: s ∧ isBlank b = false ∧ b ≠ byte ']'

theorem StartsValue.length_pos {c : List UInt8} (h : StartsValue c) : 0 < c.length := by
  obtain ⟨b, s, rfl, -⟩ := h
  exact Nat.succ_pos _

/-- Blanks before a value are passed over, and the value is not. -/
theorem StartsValue.skipBlank_eq {c w : List UInt8} (h : StartsValue c) (hw : Blanks w)
    (s : List UInt8) : skipBlank (w ++ (c ++ s)) = c ++ s := by
  obtain ⟨b, t, rfl, hb, -⟩ := h
  rw [skipBlank_append hw, List.cons_append, skipBlank_of_not_isBlank hb]

/-- Whether a byte can stand right after a value. -/
def isSeparator (b : UInt8) : Bool :=
  isBlank b || b = byte ',' || b = byte ']' || b = byte '}'

/-- What can come after a value: the end of an input that is whole, or a separator. -/
def Follows (ending : Ending) : List UInt8 → Prop
  | [] => ending = .finished
  | b :: _ => isSeparator b = true

/-- What comes after a value can be looked at. -/
theorem Follows.look_eq {ending : Ending} {s : List UInt8} (h : Follows ending s) :
    look ending s = .ok () := by
  cases s with
  | nil =>
      cases ending with
      | finished => rfl
      | broken => exact absurd h (by simp [Follows])
  | cons b s => cases ending <;> rfl

theorem Follows.blanks {ending : Ending} {w s : List UInt8} (hw : Blanks w)
    (hs : Follows ending s) : Follows ending (w ++ s) := by
  cases w with
  | nil => exact hs
  | cons b w =>
      show isSeparator b = true
      simp [isSeparator, hw b List.mem_cons_self]

/-! ### Keys -/

/-- The text of a key between its quotes, with the closing one: it reads as the key, whatever
follows. -/
def SpellsLiteral (l : List UInt8) (s : String) : Prop :=
  ∀ ending rest, literal ending (l ++ rest) = .ok (s, rest)

/-- The text of a key with its quotes and its colon. -/
def SpellsKey (k : List UInt8) (key : String) : Prop :=
  ∃ l w, k = byte '"' :: (l ++ (w ++ [byte ':'])) ∧ SpellsLiteral l key ∧ Blanks w

theorem colon_blanks {w : List UInt8} (hw : Blanks w) (ending : Ending) (s : List UInt8) :
    colon ending (w ++ byte ':' :: s) = .ok s := by
  rw [colon, skipBlank_append hw, skipBlank_of_not_isBlank (by decide)]
  rfl

/-! ### Lists -/

/-- Where the elements of a list are in its text, from some point on up to the closing bracket.
The first argument tells whether the list has just been opened. -/
inductive ListLayout : Bool → List UInt8 → List (List UInt8) → Prop
  /-- Nothing but the closing bracket. -/
  | close {first : Bool} {w : List UInt8} : Blanks w → ListLayout first (w ++ [byte ']']) []
  /-- The first element. -/
  | first {w c t : List UInt8} {cs : List (List UInt8)} :
      Blanks w → StartsValue c → ListLayout false t cs → ListLayout true (w ++ (c ++ t)) (c :: cs)
  /-- A comma and a later element. -/
  | later {w w' c t : List UInt8} {cs : List (List UInt8)} :
      Blanks w → Blanks w' → StartsValue c → ListLayout false t cs →
      ListLayout false (w ++ byte ',' :: (w' ++ (c ++ t))) (c :: cs)

theorem ListLayout.length_lt {first : Bool} {t : List UInt8} {cs : List (List UInt8)}
    (h : ListLayout first t cs) : cs.length < t.length := by
  induction h with
  | close hw => simp
  | first hw hc h ih =>
      have := hc.length_pos
      simp
      omega
  | later hw hw' hc h ih =>
      have := hc.length_pos
      simp
      omega

/-- A list has fewer elements than its text has bytes, so the text's length is enough fuel. -/
theorem ListLayout.length_lt_append {first : Bool} {t : List UInt8} {cs : List (List UInt8)}
    (h : ListLayout first t cs) (rest : List UInt8) : cs.length < (t ++ rest).length + 1 := by
  have := h.length_lt
  rw [List.length_append]
  omega

/-- What comes after an element. -/
theorem ListLayout.follows {t : List UInt8} {cs : List (List UInt8)} (h : ListLayout false t cs)
    (ending : Ending) (rest : List UInt8) : Follows ending (t ++ rest) := by
  cases h with
  | close hw =>
      rw [List.append_assoc]
      exact Follows.blanks hw (by simp [Follows, isSeparator])
  | later hw hw' hc h =>
      rw [List.append_assoc]
      exact Follows.blanks hw (by simp [Follows, isSeparator])

theorem nextElement_close {w : List UInt8} (hw : Blanks w) (ending : Ending) (first : Bool)
    (s : List UInt8) : nextElement ending first (w ++ byte ']' :: s) = .ok (.closed s) := by
  rw [nextElement, skipBlank_append hw, skipBlank_of_not_isBlank (by decide)]
  simp

theorem nextElement_first {w c : List UInt8} (hw : Blanks w) (hc : StartsValue c)
    (ending : Ending) (s : List UInt8) :
    nextElement ending true (w ++ (c ++ s)) = .ok (.more (c ++ s)) := by
  rw [nextElement, hc.skipBlank_eq hw]
  obtain ⟨b, t, rfl, -, hb⟩ := hc
  simp [hb]

theorem nextElement_later {w w' c : List UInt8} (hw : Blanks w) (hw' : Blanks w')
    (hc : StartsValue c) (ending : Ending) (s : List UInt8) :
    nextElement ending false (w ++ byte ',' :: (w' ++ (c ++ s))) = .ok (.more (c ++ s)) := by
  have comma : byte ',' ≠ byte ']' := by decide
  rw [nextElement, skipBlank_append hw, skipBlank_of_not_isBlank (by decide)]
  simp only [comma, if_false, Bool.false_eq_true, if_true]
  rw [hc.skipBlank_eq hw']
  obtain ⟨b, t, rfl, -, hb⟩ := hc
  simp [hb]

/-! ### Objects -/

/-- Where the keys of an object and the texts of their values are, from some point on up to the
closing brace.  The first argument tells whether the object has just been opened. -/
inductive ObjectLayout : Bool → List UInt8 → List (String × List UInt8) → Prop
  /-- Nothing but the closing brace. -/
  | close {first : Bool} {w : List UInt8} : Blanks w → ObjectLayout first (w ++ [byte '}']) []
  /-- The first member. -/
  | first {w k w' c t : List UInt8} {key : String} {ms : List (String × List UInt8)} :
      Blanks w → SpellsKey k key → Blanks w' → StartsValue c → ObjectLayout false t ms →
      ObjectLayout true (w ++ (k ++ (w' ++ (c ++ t)))) ((key, c) :: ms)
  /-- A comma and a later member. -/
  | later {w w' k w'' c t : List UInt8} {key : String} {ms : List (String × List UInt8)} :
      Blanks w → Blanks w' → SpellsKey k key → Blanks w'' → StartsValue c →
      ObjectLayout false t ms →
      ObjectLayout false (w ++ byte ',' :: (w' ++ (k ++ (w'' ++ (c ++ t))))) ((key, c) :: ms)

theorem ObjectLayout.length_lt {first : Bool} {t : List UInt8} {ms : List (String × List UInt8)}
    (h : ObjectLayout first t ms) : ms.length < t.length := by
  induction h with
  | close hw => simp
  | first hw hk hw' hc h ih =>
      have := hc.length_pos
      simp
      omega
  | later hw hw' hk hw'' hc h ih =>
      have := hc.length_pos
      simp
      omega

theorem ObjectLayout.length_lt_append {first : Bool} {t : List UInt8}
    {ms : List (String × List UInt8)} (h : ObjectLayout first t ms) (rest : List UInt8) :
    ms.length < (t ++ rest).length + 1 := by
  have := h.length_lt
  rw [List.length_append]
  omega

/-- What comes after the value of a member. -/
theorem ObjectLayout.follows {t : List UInt8} {ms : List (String × List UInt8)}
    (h : ObjectLayout false t ms) (ending : Ending) (rest : List UInt8) :
    Follows ending (t ++ rest) := by
  cases h with
  | close hw =>
      rw [List.append_assoc]
      exact Follows.blanks hw (by simp [Follows, isSeparator])
  | later hw hw' hk hw'' hc h =>
      rw [List.append_assoc]
      exact Follows.blanks hw (by simp [Follows, isSeparator])

theorem nextMember_close {w : List UInt8} (hw : Blanks w) (ending : Ending) (first : Bool)
    (s : List UInt8) : nextMember ending first (w ++ byte '}' :: s) = .ok (.closed s) := by
  rw [nextMember, skipBlank_append hw, skipBlank_of_not_isBlank (by decide)]
  simp

theorem nextMember_first {w : List UInt8} (hw : Blanks w) (ending : Ending) (s : List UInt8) :
    nextMember ending true (w ++ byte '"' :: s) = .ok (.more s) := by
  have quote : byte '"' ≠ byte '}' := by decide
  rw [nextMember, skipBlank_append hw, skipBlank_of_not_isBlank (by decide)]
  simp [quote]

theorem nextMember_later {w w' : List UInt8} (hw : Blanks w) (hw' : Blanks w') (ending : Ending)
    (s : List UInt8) :
    nextMember ending false (w ++ byte ',' :: (w' ++ byte '"' :: s)) = .ok (.more s) := by
  have comma : byte ',' ≠ byte '}' := by decide
  rw [nextMember, skipBlank_append hw, skipBlank_of_not_isBlank (by decide)]
  simp only [comma, if_false, Bool.false_eq_true]
  rw [skipBlank_append hw', skipBlank_of_not_isBlank (by decide)]
  simp

end Compliance.Json
