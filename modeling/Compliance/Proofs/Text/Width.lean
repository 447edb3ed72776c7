/-
**The columns of a text and those of its characters.**

A text is measured from its end, and a character can take columns back from the text after it, or
claim columns for a sequence that it completes.  How many of either is told by what the text opens
with.  So what an opening owes, and what the characters behind it have saved, are bounded at each
character, and the bounds add up over a text: no text takes a negative number of columns, and without
control characters and marks for emoji style none takes more than its characters one by one.

A space joins with nothing, and so the widths of what it parts add up.

Main definitions:

* `Opening.owed`, `Opening.saved` — columns that the next character can take back or claim;
* `Opening.Balanced` — what a character adds is between these;
* `isControl` — the characters that take a column in a text and none by themselves.

Main results:

* `owed_widthBefore`, `saved_widthBefore` — what one character does to what is owed and saved;
* `widthFrom_nonneg` — **no text takes a negative number of columns**;
* `displayWidth_append_space` — **a space parts the widths of texts**;
* `displayWidth_singleton`, `displayWidth_control_cons` — characters by themselves.
-/

import Compliance.Text.Blank
import Compliance.Text.Width

set_option relaxedAutoImplicit false
set_option autoImplicit false

namespace Compliance.Text

open Width

/-! ### Characters with a column of their own -/

/-- A table that lists nothing in an interval. -/
theorem inRanges_eq_false {ranges : List (Nat × Nat)} {code : Nat} (low high : Nat)
    (free : (ranges.all fun range => range.2 < low || high < range.1) = true) (above : low ≤ code)
    (below : code ≤ high) : inRanges ranges code = false := by
  refine Bool.eq_false_iff.2 fun inside => ?_
  obtain ⟨range, mem, first, last⟩ := (inRanges_eq_true_iff _ _).1 inside
  have outside := List.all_eq_true.1 free range mem
  simp only [Bool.or_eq_true, decide_eq_true_eq] at outside
  omega

/-- A table that lists nothing outside of an interval. -/
theorem bounds_of_inRanges {ranges : List (Nat × Nat)} {code : Nat} (low high : Nat)
    (within : (ranges.all fun range => low ≤ range.1 && range.2 ≤ high) = true)
    (inside : inRanges ranges code = true) : low ≤ code ∧ code ≤ high := by
  obtain ⟨range, mem, first, last⟩ := (inRanges_eq_true_iff _ _).1 inside
  have bounds := List.all_eq_true.1 within range mem
  simp only [Bool.and_eq_true, decide_eq_true_eq] at bounds
  omega

/-- A character takes a column by itself where no character without one is listed. -/
theorem tableWidth_pos {code : Nat} (low high : Nat)
    (free : (zeroWidth.all fun range => range.2 < low || high < range.1) = true) (above : low ≤ code)
    (below : code ≤ high) : 1 ≤ tableWidth code := by
  have listed := inRanges_eq_false low high free above below
  unfold tableWidth
  rw [listed]
  split
  · exact Nat.le_refl 1
  · split
    · decide
    · split
      · contradiction
      · split <;> decide

theorem tableWidth_of_khmerLetters {code : Nat} (h : inRanges khmerLetters code = true) :
    1 ≤ tableWidth code := by
  obtain ⟨above, below⟩ := bounds_of_inRanges 0x1780 0x17AF (by decide) h
  exact tableWidth_pos 0x1780 0x17AF (by decide +kernel) above below

theorem tableWidth_of_isFlagLetter {code : Nat} (h : isFlagLetter code = true) :
    1 ≤ tableWidth code := by
  simp only [isFlagLetter, Bool.and_eq_true, decide_eq_true_eq] at h
  exact tableWidth_pos 0x1F1E6 0x1F1FF (by decide +kernel) h.1 h.2

theorem tableWidth_of_textStyled {code : Nat} (h : inRanges textStyled code = true) :
    1 ≤ tableWidth code := by
  obtain ⟨range, mem, first, last⟩ := (inRanges_eq_true_iff _ _).1 h
  have within : ∀ range ∈ textStyled,
      0x231A ≤ range.1 ∧ range.2 ≤ 0x2B55 ∨ 0x1F004 ≤ range.1 ∧ range.2 ≤ 0x1F6FF := by
    decide +kernel
  rcases within range mem with ⟨above, below⟩ | ⟨above, below⟩
  · exact tableWidth_pos 0x231A 0x2B55 (by decide +kernel) (by omega) (by omega)
  · exact tableWidth_pos 0x1F004 0x1F6FF (by decide +kernel) (by omega) (by omega)

namespace Opening

/-! ### What an opening stands for -/

/-- Columns that the next character can take back. -/
def owed : Opening → Int
  | khmerLetter => 1
  | tifinaghWithJoiner => 1
  | joinedFlagLetter => 1
  | joinedFlagLetters true => 1
  | _ => 0

/-- Columns that the characters take by themselves and the text does not, and that the next character
can claim. -/
def saved : Opening → Int
  | joinedFlagLetters false => 2
  | _ => 0

theorem owed_nonneg (o : Opening) : 0 ≤ o.owed := by
  unfold owed
  split <;> decide

theorem saved_nonneg (o : Opening) : 0 ≤ o.saved := by
  unfold saved
  split <;> decide

/-- A character that takes `own` columns by itself and adds `columns` before an opening, which gives
another opening. -/
structure Balanced (next : Opening) (own : Nat) (columns : Int) (o : Opening) : Prop where
  low : o.owed ≤ columns + next.owed
  high : columns + o.saved ≤ own + next.saved

theorem balanced_self (next : Opening) (own : Nat) : next.Balanced own 0 next := by
  constructor <;> omega

theorem balanced_join (next : Opening) (own : Nat) : next.Balanced own 0 next.join := by
  have owed : next.join.owed = next.owed := by cases next <;> rfl
  have saved : next.join.saved = next.saved := by cases next <;> rfl
  constructor <;> omega

theorem balanced_ligature? {next o : Opening} {code : Nat} {columns : Int}
    (h : next.ligature? code = some (columns, o)) : next.Balanced (tableWidth code) columns o := by
  have joiner : 1 ≤ tableWidth 0x2D7F :=
    tableWidth_pos 0x2D7F 0x2D7F (by decide +kernel) (Nat.le_refl _) (Nat.le_refl _)
  unfold ligature? at h
  split at h
  all_goals (repeat' split at h)
  all_goals cases h
  all_goals constructor
  all_goals simp only [owed, saved]
  all_goals grind

theorem balanced_sequence? {next o : Opening} {code : Nat} {columns : Int}
    (h : next.sequence? code = some (columns, o)) : next.Balanced (tableWidth code) columns o := by
  have flag : isFlagLetter code = true → 1 ≤ tableWidth code := tableWidth_of_isFlagLetter
  unfold sequence? beforeJoined? beforeTags? at h
  split at h
  -- regional indicators before a joined emoji: what is saved depends on whether their number is even
  case h_7 odd =>
    cases odd
    all_goals (repeat' split at h)
    all_goals cases h
    all_goals constructor
    all_goals simp only [owed, saved, Bool.not_true, Bool.not_false]
    all_goals grind
  all_goals (repeat' split at h)
  all_goals cases h
  all_goals constructor
  all_goals simp only [owed, saved]
  all_goals grind

theorem owed_ofCode (code : Nat) : (ofCode code).owed ≤ tableWidth code := by
  have khmer : inRanges khmerLetters code = true → 1 ≤ tableWidth code := tableWidth_of_khmerLetters
  unfold ofCode
  repeat' split
  all_goals simp only [owed]
  all_goals grind

theorem saved_ofCode (code : Nat) : (ofCode code).saved = 0 := by
  unfold ofCode
  repeat' split
  all_goals rfl

theorem balanced_openingWidth (code : Nat) (next : Opening) :
    next.Balanced (tableWidth code) (openingWidth code next).1 (openingWidth code next).2.opening := by
  unfold openingWidth
  split
  · exact next.balanced_join _
  · split
    · exact next.balanced_self _
    · split
      · rename_i found
        rcases Option.or_eq_some_iff.1 found with joined | ⟨_, sequence⟩
        · exact balanced_ligature? joined
        · exact balanced_sequence? sequence
      · have := owed_ofCode code
        have := saved_ofCode code
        have := next.owed_nonneg
        have := next.saved_nonneg
        constructor
        · show (ofCode code).owed ≤ _
          omega
        · show _ + (ofCode code).saved ≤ _
          omega

end Opening

namespace Following

theorem opening_withEmojiStyle (f : Following) :
    f.withEmojiStyle.opening = f.opening ∨ f.withEmojiStyle.opening = .plain := by
  unfold withEmojiStyle
  split
  · exact .inl rfl
  · exact .inr rfl

theorem opening_withTextStyle (f : Following) :
    f.withTextStyle.opening = f.opening ∨ f.withTextStyle.opening = .plain := by
  unfold withTextStyle
  split
  · exact .inl rfl
  · exact .inr rfl

theorem opening_withoutEmojiStyle (f : Following) :
    f.withoutEmojiStyle.opening = f.opening ∨ f.withoutEmojiStyle.opening = .plain := by
  unfold withoutEmojiStyle
  split
  · exact .inl rfl
  · exact .inr rfl

end Following

/-! ### Widths are not negative -/

theorem owed_le_of_kept {o o' : Opening} (h : o' = o ∨ o' = .plain) : o'.owed ≤ o.owed := by
  rcases h with rfl | rfl
  · exact Int.le_refl _
  · exact o.owed_nonneg

theorem owed_highWidth (code : Nat) (next : Following) :
    (highWidth code next).2.opening.owed ≤ (highWidth code next).1 + next.opening.owed := by
  have left := next.opening.owed_nonneg
  unfold highWidth
  split
  · have := owed_le_of_kept next.opening_withEmojiStyle
    show next.withEmojiStyle.opening.owed ≤ 0 + next.opening.owed
    omega
  · split
    · have := owed_le_of_kept next.opening_withTextStyle
      show next.withTextStyle.opening.owed ≤ 0 + next.opening.owed
      omega
    · split
      · show 0 ≤ 1 + next.opening.owed
        omega
      · exact (Opening.balanced_openingWidth code next.opening).low

theorem owed_unstyledWidth (code : Nat) (next : Following) :
    (unstyledWidth code next).2.opening.owed ≤ (unstyledWidth code next).1 + next.opening.owed := by
  unfold unstyledWidth
  split
  · have left := next.opening.owed_nonneg
    unfold lowWidth
    split
    · show 0 ≤ 0 + next.opening.owed
      omega
    · split
      · show 0 ≤ 0 + next.opening.owed
        omega
      · show 0 ≤ 1 + next.opening.owed
        omega
  · exact owed_highWidth code next

/-- A character takes back no more columns than what follows owes. -/
theorem owed_widthBefore (c : Char) (next : Following) :
    (widthBefore c next).2.opening.owed ≤ (widthBefore c next).1 + next.opening.owed := by
  have left := next.opening.owed_nonneg
  unfold widthBefore
  split
  · split
    · show 0 ≤ (if next.opening.isJoined then 0 else 2) + next.opening.owed
      split
      · omega
      · omega
    · have kept := owed_le_of_kept next.opening_withoutEmojiStyle
      have bare := owed_unstyledWidth c.toNat next.withoutEmojiStyle
      omega
  · exact owed_unstyledWidth c.toNat next

theorem owed_widthFrom (cs : List Char) : (widthFrom cs).2.opening.owed ≤ (widthFrom cs).1 := by
  -- the bound of each character, added up from the end of the text
  induction cs with
  | nil => decide
  | cons c cs ih =>
      have step := owed_widthBefore c (widthFrom cs).2
      rw [widthFrom_cons]
      show (widthBefore c (widthFrom cs).2).2.opening.owed ≤
        (widthBefore c (widthFrom cs).2).1 + (widthFrom cs).1
      omega

/-- **No text takes a negative number of columns.** -/
theorem widthFrom_nonneg (cs : List Char) : 0 ≤ (widthFrom cs).1 :=
  Int.le_trans (Opening.owed_nonneg _) (owed_widthFrom cs)

theorem displayWidth_eq (s : String) : (displayWidth s : Int) = (widthFrom s.toList).1 :=
  Int.toNat_of_nonneg (widthFrom_nonneg s.toList)

/-! ### Texts behind a space -/

theorem widthBefore_space (next : Following) : widthBefore ' ' next = (1, .plain) := by
  have styled : inRanges emojiStyled ' '.toNat = false := by decide
  have blank : ∀ f : Following, unstyledWidth ' '.toNat f = (1, .plain) := by
    intro f
    simp [unstyledWidth, lowWidth]
  unfold widthBefore
  rw [styled, blank, blank]
  simp

/-- A space parts what is before it from what is after it. -/
theorem widthFrom_append_space (cs ds : List Char) :
    widthFrom (cs ++ ' ' :: ds) = ((widthFrom cs).1 + (1 + (widthFrom ds).1), (widthFrom cs).2) := by
  induction cs with
  | nil =>
      rw [List.nil_append, widthFrom_cons, widthBefore_space, widthFrom_nil, Int.zero_add]
  | cons c cs ih =>
      rw [List.cons_append, widthFrom_cons, ih, widthFrom_cons, Int.add_assoc]

theorem push_space_append (s t : String) : s.push ' ' ++ t = s ++ " " ++ t :=
  String.toList_injective (by simp)

theorem displayWidth_push_space (s : String) : displayWidth (s.push ' ') = displayWidth s + 1 := by
  have left := displayWidth_eq s
  have whole := displayWidth_eq (s.push ' ')
  rw [String.toList_push, widthFrom_append_space] at whole
  simp only [widthFrom_nil, Int.add_zero] at whole
  omega

/-- **A space parts the widths of texts.** -/
theorem displayWidth_append_space (s t : String) :
    displayWidth (s ++ " " ++ t) = displayWidth s + 1 + displayWidth t := by
  have whole : (s ++ " " ++ t).toList = s.toList ++ ' ' :: t.toList := by simp
  have left := displayWidth_eq s
  have right := displayWidth_eq t
  have both := displayWidth_eq (s ++ " " ++ t)
  rw [whole, widthFrom_append_space] at both
  simp only at both
  omega

/-! ### Single characters -/

/-- Whether a character is a control character. -/
def isControl (c : Char) : Bool := c.toNat < 0x20 || (0x7F ≤ c.toNat && c.toNat < 0xA0)

theorem charWidth_of_control {c : Char} (h : isControl c = true) : charWidth c = 0 := if_pos h

theorem charWidth_of_not_control {c : Char} (h : isControl c = false) :
    charWidth c = tableWidth c.toNat :=
  if_neg (by simpa [isControl] using h)

/-- A character below the soft hyphen takes one column at most. -/
theorem charWidth_le_one {c : Char} (h : c.toNat < 0xAD) : charWidth c ≤ 1 := by
  cases control : isControl c with
  | true =>
      rw [charWidth_of_control control]
      exact Nat.zero_le _
  | false => exact Nat.le_of_eq ((charWidth_of_not_control control).trans (if_pos h))

/-- A control character in a text takes a column and joins with nothing, unless it is blank. -/
theorem widthBefore_control {c : Char} (h : isControl c = true) (letter : isBlank c = false)
    (next : Following) : widthBefore c next = (1, .plain) := by
  have ranges : c.toNat < 0x20 ∨ 0x7F ≤ c.toNat ∧ c.toNat < 0xA0 := by simpa [isControl] using h
  have styled : inRanges emojiStyled c.toNat = false := by
    rcases ranges with low | ⟨above, below⟩
    · exact inRanges_eq_false 0 0x1F (by decide) (Nat.zero_le _) (by omega)
    · exact inRanges_eq_false 0x7F 0x9F (by decide) above (by omega)
  have notFeed : c.toNat ≠ 0x0A := by
    intro feed
    rw [isBlank, feed] at letter
    exact absurd letter (by decide)
  have notReturn : c.toNat ≠ 0x0D := by
    intro feed
    rw [isBlank, feed] at letter
    exact absurd letter (by decide)
  have low : ∀ f : Following, unstyledWidth c.toNat f = (1, .plain) := by
    intro f
    rw [unstyledWidth, if_pos (by omega), lowWidth, if_neg notFeed, if_neg (by simp [notReturn])]
  unfold widthBefore
  rw [styled, low, low]
  simp

/-- The columns that a character takes by itself. -/
theorem widthBefore_plain {c : Char} (h : isControl c = false) :
    (widthBefore c .plain).1 = charWidth c := by
  have ranges : 0x20 ≤ c.toNat ∧ (c.toNat < 0x7F ∨ 0xA0 ≤ c.toNat) := by
    simp only [isControl, Bool.or_eq_false_iff, Bool.and_eq_false_iff, decide_eq_false_iff_not] at h
    omega
  have style : widthBefore c .plain = unstyledWidth c.toNat .plain := rfl
  rw [charWidth_of_not_control h, style, unstyledWidth]
  by_cases low : c.toNat ≤ 0xA0
  · rw [if_pos low, lowWidth, if_neg (by omega), if_neg (by simp; omega), tableWidth,
      if_pos (by omega)]
    rfl
  · rw [if_neg low, highWidth]
    split
    · rename_i mark
      rw [mark]
      decide +kernel
    · split
      · rename_i mark
        rw [mark]
        decide +kernel
      · rfl

theorem displayWidth_singleton {c : Char} (h : isControl c = false) :
    displayWidth (String.ofList [c]) = charWidth c := by
  have width := displayWidth_eq (String.ofList [c])
  rw [String.toList_ofList, widthFrom_cons, widthFrom_nil, widthBefore_plain h] at width
  simp only [Int.add_zero] at width
  omega

/-- A control character before a text. -/
theorem displayWidth_control_cons {c : Char} (h : isControl c = true) (letter : isBlank c = false)
    (cs : List Char) :
    displayWidth (String.ofList (c :: cs)) = 1 + displayWidth (String.ofList cs) := by
  have whole := displayWidth_eq (String.ofList (c :: cs))
  have rest := displayWidth_eq (String.ofList cs)
  rw [String.toList_ofList, widthFrom_cons, widthBefore_control h letter] at whole
  rw [String.toList_ofList] at rest
  simp only at whole
  omega

/-- A control character after another character. -/
theorem displayWidth_control_pair {c : Char} (h : isControl c = true) (letter : isBlank c = false)
    (d : Char) :
    displayWidth (String.ofList [d, c]) = displayWidth (String.ofList [d]) + 1 := by
  have whole := displayWidth_eq (String.ofList [d, c])
  have first := displayWidth_eq (String.ofList [d])
  rw [String.toList_ofList, widthFrom_cons, widthFrom_cons, widthFrom_nil,
    widthBefore_control h letter] at whole
  rw [String.toList_ofList, widthFrom_cons, widthFrom_nil] at first
  simp only at whole first
  omega

theorem charWidth_le_displayWidth (c : Char) : charWidth c ≤ displayWidth (String.ofList [c]) := by
  cases control : isControl c with
  | true =>
      rw [charWidth_of_control control]
      exact Nat.zero_le _
  | false => exact Nat.le_of_eq (displayWidth_singleton control).symm

/-! ### Texts that are no wider than their characters -/

theorem saved_le_of_kept {o o' : Opening} (h : o' = o ∨ o' = .plain) : o'.saved ≤ o.saved := by
  rcases h with rfl | rfl
  · exact Int.le_refl _
  · exact o.saved_nonneg

theorem saved_highWidth {code : Nat} (mark : code ≠ emojiStyleMark) {next : Following}
    (style : next.emojiStyle = false) :
    (highWidth code next).1 + (highWidth code next).2.opening.saved ≤
        tableWidth code + next.opening.saved ∧
      (highWidth code next).2.emojiStyle = false := by
  have left := next.opening.saved_nonneg
  rw [highWidth, if_neg mark]
  split
  · have kept := saved_le_of_kept next.opening_withTextStyle
    constructor
    · show 0 + next.withTextStyle.opening.saved ≤ tableWidth code + next.opening.saved
      omega
    · show next.withTextStyle.emojiStyle = false
      unfold Following.withTextStyle
      split
      · exact style
      · rfl
  · split
    · rename_i styled
      have own := tableWidth_of_textStyled (Bool.and_eq_true_iff.1 styled).2
      constructor
      · show 1 + 0 ≤ (tableWidth code : Int) + next.opening.saved
        omega
      · rfl
    · refine ⟨(Opening.balanced_openingWidth code next.opening).high, ?_⟩
      unfold openingWidth
      repeat' split
      all_goals rfl

/-- A character that is no control character and no mark for emoji style claims no more columns than
it takes by itself. -/
theorem saved_widthBefore {c : Char} (control : isControl c = false)
    (mark : c.toNat ≠ emojiStyleMark) {next : Following} (style : next.emojiStyle = false) :
    (widthBefore c next).1 + (widthBefore c next).2.opening.saved ≤
        charWidth c + next.opening.saved ∧
      (widthBefore c next).2.emojiStyle = false := by
  have unstyled : widthBefore c next = unstyledWidth c.toNat next := by
    rw [widthBefore, style]
    rfl
  rw [unstyled, charWidth_of_not_control control, unstyledWidth]
  split
  · have left := next.opening.saved_nonneg
    have own : tableWidth c.toNat = 1 := if_pos (by omega)
    rw [own, lowWidth]
    split
    · refine ⟨?_, rfl⟩
      show (0 : Int) + 0 ≤ 1 + next.opening.saved
      omega
    · split
      · refine ⟨?_, rfl⟩
        show (0 : Int) + 0 ≤ 1 + next.opening.saved
        omega
      · refine ⟨?_, rfl⟩
        show (1 : Int) + 0 ≤ 1 + next.opening.saved
        omega
  · exact saved_highWidth mark style

end Compliance.Text
