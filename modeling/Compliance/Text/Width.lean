/-
**Display width of text.**

The width of a text is the number of terminal columns it takes.  It is found from the end of the
text to its start, because the width of a character depends on what follows it: a style mark, a
skin tone, a joiner or a tag makes one emoji out of several characters, and some letters join into
one.

Main definitions:

* `charWidth` — the width of a character by itself;
* `Opening`, `Following` — what a text opens with, and that together with its style marks;
* `Opening.ligature?`, `Opening.sequence?` — letters that join, and emoji made of several
  characters;
* `widthBefore` — the width that a character adds before the text after it;
* `displayWidth` — the width of a text.
-/

import Compliance.Text.CodeRange
import Compliance.Text.Width.Table

set_option relaxedAutoImplicit false
set_option autoImplicit false

namespace Compliance.Text

open Width

/-! ### Single characters -/

/-- The width that the tables give a code point; one column unless they list it. -/
def tableWidth (code : Nat) : Nat :=
  if code < 0xAD then 1
  else if code = 0x17D8 then 3
  else if inRanges zeroWidth code then 0
  else if inRanges wide code then 2
  else 1

/-- The width of a character by itself; a control character has none. -/
def charWidth (c : Char) : Nat :=
  if c.toNat < 0x20 || (0x7F ≤ c.toNat && c.toNat < 0xA0) then 0 else tableWidth c.toNat

/-! ### Characters with a part in sequences -/

/-- The zero width joiner. -/
def joiner : Nat := 0x200D

/-- The mark that asks for emoji style before it. -/
def emojiStyleMark : Nat := 0xFE0F

/-- The mark that asks for text style before it. -/
def textStyleMark : Nat := 0xFE0E

/-- Whether a code point is a skin tone. -/
def isSkinTone (code : Nat) : Bool := 0x1F3FB ≤ code && code ≤ 0x1F3FF

/-- Whether a code point is a regional indicator, of which two make a flag. -/
def isFlagLetter (code : Nat) : Bool := 0x1F1E6 ≤ code && code ≤ 0x1F1FF

/-- Whether a code point is the tag of a small letter. -/
def isTagLetter (code : Nat) : Bool := 0xE0061 ≤ code && code ≤ 0xE007A

/-- Whether a code point is the tag of a digit. -/
def isTagDigit (code : Nat) : Bool := 0xE0030 ≤ code && code ≤ 0xE0039

/-- Whether a code point is a Tifinagh consonant. -/
def isTifinagh (code : Nat) : Bool := (0x2D31 ≤ code && code ≤ 0x2D65) || code = 0x2D6F

/-! ### What follows a character -/

/-- What a text opens with, as far as the width of a character before it depends on it.  A letter is
*joined* if a joiner stands before it. -/
inductive Opening
  /-- Nothing that matters. -/
  | plain
  /-- A line feed. -/
  | lineFeed
  /-- An emoji. -/
  | emoji
  /-- A skin tone. -/
  | skinTone
  /-- A joiner and then an emoji. -/
  | joinedEmoji
  /-- A keycap mark before a joined emoji. -/
  | joinedKeycap
  /-- A regional indicator. -/
  | flagLetter
  /-- At least two regional indicators. -/
  | flagLetters
  /-- A regional indicator before a joined emoji. -/
  | joinedFlagLetter
  /-- At least two regional indicators before a joined emoji, an odd number of them or an even one. -/
  | joinedFlagLetters (odd : Bool)
  /-- The end of tags before a joined emoji, and up to six tags of letters before that end. -/
  | tagLetters (count : Nat)
  /-- Up to three tags of digits before tags of letters. -/
  | tagDigits (count : Nat)
  /-- The second half of an Arabic ligature. -/
  | alef
  /-- A Khmer letter that can be set below another. -/
  | khmerLetter
  /-- The second half of a Hebrew ligature. -/
  | lamed (joined : Bool)
  /-- The second half of a Buginese ligature. -/
  | ya (joined : Bool)
  /-- A Buginese vowel sign before a joined ya. -/
  | yaWithVowel
  /-- A Tifinagh consonant. -/
  | tifinagh (joined : Bool)
  /-- A Tifinagh consonant joiner before a consonant. -/
  | tifinaghWithJoiner
  /-- The second half of a Lisu tone. -/
  | lisuTone
  /-- The second half of an Old Turkic ligature. -/
  | orkhonI (joined : Bool)
  deriving DecidableEq, Repr

namespace Opening

/-- Whether this is a letter or a sign that can join with one before it. -/
def isLetter : Opening → Bool
  | alef | khmerLetter | lamed _ | ya _ | yaWithVowel | tifinagh _ | tifinaghWithJoiner | lisuTone
  | orkhonI _ => true
  | _ => false

/-- Whether this joins across a joiner and across marks that are ignored in display.  An Arabic
letter has a rule of its own. -/
def joinsAcrossMarks (o : Opening) : Bool := o.isLetter && o != alef

/-- A letter with a joiner before it. -/
def join : Opening → Opening
  | lamed _ => lamed true
  | ya _ => ya true
  | tifinagh _ => tifinagh true
  | orkhonI _ => orkhonI true
  | o => o

/-- Whether this is an emoji after a joiner, or a keycap mark before one. -/
def isJoined (o : Opening) : Bool := o = joinedEmoji || o = joinedKeycap

/-- What a character by itself is to the character before it. -/
def ofCode (code : Nat) : Opening :=
  if isSkinTone code then skinTone
  else if isFlagLetter code then flagLetter
  else if inRanges emojiByDefault code then emoji
  else if inRanges arabicAlef code then alef
  else if inRanges khmerLetters code then khmerLetter
  else if isTifinagh code then tifinagh false
  else if code = 0x05DC then lamed false
  else if code = 0x1A10 then ya false
  else if code = 0xA4FC || code = 0xA4FD then lisuTone
  else if code = 0x10C03 then orkhonI false
  else plain

/-- The columns that a letter adds before a letter it joins with, and what the text opens with
then. -/
def ligature? (next : Opening) (code : Nat) : Option (Int × Opening) :=
  match next with
  | alef =>
    if inRanges arabicLam code then some (0, plain)
    else if tableWidth code = 0 && !inRanges arabicBarrier code then some (0, alef)
    else none
  | khmerLetter => if code = 0x17D2 then some (-1, plain) else none
  | lamed true => if code = 0x05D0 then some (0, plain) else none
  | ya true => if code = 0x1A17 then some (0, yaWithVowel) else none
  | yaWithVowel => if code = 0x1A15 then some (0, plain) else none
  | tifinagh joined =>
    if code = 0x2D7F then some (1, tifinaghWithJoiner)
    else if joined && isTifinagh code then some (0, plain)
    else none
  | tifinaghWithJoiner => if isTifinagh code then some (-1, plain) else none
  | lisuTone => if 0xA4F8 ≤ code && code ≤ 0xA4FB then some (0, plain) else none
  | orkhonI true => if code = 0x10C32 then some (0, plain) else none
  | _ => none

/-- The columns that a character adds before a joined emoji it makes a sequence with, and what the
text opens with then. -/
def beforeJoined? (code : Nat) : Option (Int × Opening) :=
  if code = 0x20E3 then some (0, joinedKeycap)
  else if isFlagLetter code then some (1, joinedFlagLetter)
  else if isSkinTone code then some (0, skinTone)
  else if code = 0xE007F then some (0, tagLetters 0)
  else if inRanges emojiByDefault code then some (0, emoji)
  else none

/-- The columns that a tag or a flag adds before tags, and what the text opens with then.  Tags are
three to six letters, or three digits and at most four letters. -/
def beforeTags? (next : Opening) (code : Nat) : Option (Int × Opening) :=
  match next with
  | tagLetters n =>
    if isTagLetter code && n < 6 then some (0, tagLetters (n + 1))
    else if isTagDigit code && n ≤ 4 then some (0, tagDigits 1)
    else if code = 0x1F3F4 && 3 ≤ n then some (0, emoji)
    else none
  | tagDigits n =>
    if isTagDigit code && n < 3 then some (0, tagDigits (n + 1))
    else if code = 0x1F3F4 && n = 3 then some (0, emoji)
    else none
  | _ => none

/-- The columns that a character adds before an emoji it makes a sequence with, and what the text
opens with then.  Two regional indicators take the columns of one emoji. -/
def sequence? (next : Opening) (code : Nat) : Option (Int × Opening) :=
  match next with
  | emoji => if code = joiner then some (0, joinedEmoji) else none
  | skinTone =>
    if code = joiner then some (0, joinedEmoji)
    else if inRanges modifierBase code then some (0, emoji)
    else none
  | joinedEmoji => beforeJoined? code
  | flagLetter => if isFlagLetter code then some (1, flagLetters) else none
  | flagLetters =>
    if isFlagLetter code then some (1, flagLetters)
    else if code = joiner then some (0, joinedEmoji)
    else none
  | joinedFlagLetter => if isFlagLetter code then some (-1, joinedFlagLetters false) else none
  | joinedFlagLetters odd =>
    if isFlagLetter code then some (if odd then -1 else 3, joinedFlagLetters (!odd))
    else if code = joiner then some (0, joinedEmoji)
    else none
  | _ => beforeTags? next code

end Opening

/-- What follows a character: what the text after it opens with, and the style marks before that. -/
structure Following where
  /-- What the text opens with, less its style marks. -/
  opening : Opening
  /-- Whether a mark asks for emoji style. -/
  emojiStyle : Bool
  /-- Whether a mark asks for text style. -/
  textStyle : Bool
  deriving DecidableEq, Repr

namespace Following

/-- An opening without a style mark before it. -/
def bare (o : Opening) : Following := ⟨o, false, false⟩

/-- Nothing that matters. -/
def plain : Following := bare .plain

/-- A mark for emoji style; what it stands before counts on only if it can join across the mark. -/
def withEmojiStyle (f : Following) : Following :=
  if f.opening.isLetter || f.opening.isJoined then { f with emojiStyle := true }
  else ⟨.plain, true, false⟩

/-- A mark for text style; what it stands before counts on only if it can join across the mark. -/
def withTextStyle (f : Following) : Following :=
  if f.opening.isLetter then { f with textStyle := true } else ⟨.plain, false, true⟩

/-- What is left of a mark for emoji style before which no emoji stands. -/
def withoutEmojiStyle (f : Following) : Following :=
  if f.opening.isLetter then { f with emojiStyle := false } else plain

end Following

/-! ### Characters in a text -/

/-- Width of a character up to the no-break space, which joins nothing.  In a text a control
character takes a column, except a line feed and a carriage return right before one. -/
def lowWidth (code : Nat) (next : Following) : Int × Following :=
  if code = 0x0A then (0, .bare .lineFeed)
  else if code = 0x0D && next = .bare .lineFeed then (0, .plain)
  else (1, .plain)

/-- Width of a character that is no style mark, before an opening without one. -/
def openingWidth (code : Nat) (next : Opening) : Int × Following :=
  if next.joinsAcrossMarks && code = joiner then (0, .bare next.join)
  else if next.joinsAcrossMarks && inRanges ignoredMark code then (0, .bare next)
  else match (next.ligature? code).or (next.sequence? code) with
    | some (columns, opening) => (columns, .bare opening)
    | none => (tableWidth code, .bare (.ofCode code))

/-- Width of a character above the no-break space, with no mark for emoji style after it. -/
def highWidth (code : Nat) (next : Following) : Int × Following :=
  if code = emojiStyleMark then (0, next.withEmojiStyle)
  else if code = textStyleMark then (0, next.withTextStyle)
  else if next.textStyle && inRanges textStyled code then (1, .plain)
  else openingWidth code next.opening

/-- Width of a character with no mark for emoji style after it. -/
def unstyledWidth (code : Nat) (next : Following) : Int × Following :=
  if code ≤ 0xA0 then lowWidth code next else highWidth code next

/-- The columns that a character adds before what follows it, and what follows the character before
it.  It can take columns back from the text after it. -/
def widthBefore (c : Char) (next : Following) : Int × Following :=
  if next.emojiStyle then
    if inRanges emojiStyled c.toNat then
      (if next.opening.isJoined then 0 else 2, .bare .emoji)
    else unstyledWidth c.toNat next.withoutEmojiStyle
  else unstyledWidth c.toNat next

/-- Width of a list of characters together with what its first character is to one before it. -/
def widthFrom (cs : List Char) : Int × Following :=
  cs.foldr (fun c (width, next) =>
    let (columns, before) := widthBefore c next
    (columns + width, before)) (0, .plain)

@[simp] theorem widthFrom_nil : widthFrom [] = (0, .plain) := rfl

theorem widthFrom_cons (c : Char) (cs : List Char) :
    widthFrom (c :: cs) =
      ((widthBefore c (widthFrom cs).2).1 + (widthFrom cs).1,
        (widthBefore c (widthFrom cs).2).2) := rfl

/-- The number of columns that a text takes. -/
def displayWidth (s : String) : Nat := (widthFrom s.toList).1.toNat

end Compliance.Text
