/-
**Letters, gaps and words.**

Here a letter is a character that is not blank.  A text is its letters with a gap of blanks before
each, and its words are the runs of letters with no gap between them.  So a letter opens a word
exactly if it is the first one or there is a gap before it.

Main definitions:

* `letters`, `gaps` — the letters of a text, and the blanks before each;
* `Letter` — a letter that knows whether it opens a word;
* `Letter.ofWords` — the letters of words.

Main results:

* `chars_ofWords_words` — the words of a text have its letters;
* `tail_opens_ofWords` — **a later letter opens a word if there is a gap before it**;
* `eq_of_letters_eq` — how many letters come first tells a place between letters.
-/

import Compliance.Proofs.Text.Wrap

set_option relaxedAutoImplicit false
set_option autoImplicit false

namespace Compliance.Text

/-! ### Letters and gaps -/

/-- The characters of a text that are not blank. -/
def letters (cs : List Char) : List Char := cs.filter fun c => !isBlank c

@[simp] theorem letters_nil : letters [] = [] := rfl

theorem letters_cons_of_blank {c : Char} (h : isBlank c = true) (cs : List Char) :
    letters (c :: cs) = letters cs := by
  simp [letters, h]

theorem letters_cons_of_not_blank {c : Char} (h : isBlank c = false) (cs : List Char) :
    letters (c :: cs) = c :: letters cs := by
  simp [letters, h]

@[simp] theorem letters_append (cs ds : List Char) : letters (cs ++ ds) = letters cs ++ letters ds :=
  List.filter_append cs ds

theorem letters_eq_nil_iff {cs : List Char} : letters cs = [] ↔ ∀ c ∈ cs, isBlank c = true := by
  simp [letters]

/-- The blanks before each letter of a text, if the given ones stand before the text. -/
def gapsAfter (blanks : List Char) : List Char → List (List Char)
  | [] => []
  | c :: cs => if isBlank c then gapsAfter (blanks ++ [c]) cs else blanks :: gapsAfter [] cs

/-- The blanks before each letter of a text. -/
def gaps (cs : List Char) : List (List Char) := gapsAfter [] cs

/-! ### Letters of words -/

/-- A letter, and whether it opens a word. -/
structure Letter where
  char : Char
  opens : Bool
  deriving DecidableEq

namespace Letter

/-- The letters of a word. -/
def ofWord : List Char → List Letter
  | [] => []
  | c :: cs => ⟨c, true⟩ :: cs.map fun d => ⟨d, false⟩

/-- The letters of words. -/
def ofWords (ws : List String) : List Letter := ws.flatMap fun w => ofWord w.toList

@[simp] theorem map_char_ofWord (cs : List Char) : (ofWord cs).map char = cs := by
  cases cs with
  | nil => rfl
  | cons c cs => simp [ofWord, Function.comp_def]

theorem ofWord_ne_nil {cs : List Char} (h : cs ≠ []) : ofWord cs ≠ [] := by
  obtain ⟨c, cs, rfl⟩ := List.exists_cons_of_ne_nil h
  exact List.cons_ne_nil _ _

@[simp] theorem ofWords_nil : ofWords [] = [] := rfl

@[simp] theorem map_char_ofWords (ws : List String) :
    (ofWords ws).map char = ws.flatMap String.toList := by
  simp [ofWords, List.map_flatMap]

theorem ofWords_append (ws vs : List String) : ofWords (ws ++ vs) = ofWords ws ++ ofWords vs :=
  List.flatMap_append

theorem ofWords_concat (ws : List String) (w : String) :
    ofWords (ws ++ [w]) = ofWords ws ++ ofWord w.toList := by
  simp [ofWords]

/-- A word that goes on. -/
theorem ofWord_concat (cs : List Char) (c : Char) :
    ofWord (cs ++ [c]) = ofWord cs ++ [⟨c, cs.isEmpty⟩] := by
  cases cs with
  | nil => rfl
  | cons d cs => simp [ofWord]

/-- The letters of a text, where the first one opens a word if it is said so. -/
def after (opens : Bool) : List Char → List Letter
  | [] => []
  | c :: cs => if isBlank c then after true cs else ⟨c, opens⟩ :: after false cs

theorem map_char_after (opens : Bool) (cs : List Char) : (after opens cs).map char = letters cs := by
  induction cs generalizing opens with
  | nil => rfl
  | cons c cs ih =>
      cases blank : isBlank c with
      | true => rw [after, if_pos blank, ih, letters_cons_of_blank blank]
      | false =>
          rw [after, if_neg (by simp [blank]), List.map_cons, ih, letters_cons_of_not_blank blank]

/-- A letter opens a word if there is a gap before it. -/
theorem map_opens_after (blanks cs : List Char) :
    (after (!blanks.isEmpty) cs).map opens = (gapsAfter blanks cs).map (!·.isEmpty) := by
  induction cs generalizing blanks with
  | nil => rfl
  | cons c cs ih =>
      cases blank : isBlank c with
      | true =>
          have more : (!(blanks ++ [c]).isEmpty) = true := by simp
          rw [after, gapsAfter, if_pos blank, if_pos blank, ← ih, more]
      | false =>
          rw [after, gapsAfter, if_neg (by simp [blank]), if_neg (by simp [blank]), List.map_cons,
            List.map_cons, ← ih]
          rfl

/-- Only the first letter depends on what was before the text. -/
theorem tail_after (opens : Bool) (cs : List Char) :
    (after opens cs).tail = (after false cs).tail := by
  cases cs with
  | nil => rfl
  | cons c cs =>
      cases blank : isBlank c with
      | true => rw [after, after, if_pos blank, if_pos blank]
      | false => rw [after, after, if_neg (by simp [blank]), if_neg (by simp [blank])]; rfl

end Letter

open Letter

/-- The runs of letters, with an empty one wherever blanks stand side by side. -/
theorem after_eq_parts (cs : List Char) :
    ∃ part parts, cs.splitOnP isBlank = part :: parts ∧
      after true cs = ((part :: parts).filter (· ≠ [])).flatMap ofWord ∧
      after false cs = (part.map fun c => ⟨c, false⟩) ++ (parts.filter (· ≠ [])).flatMap ofWord := by
  induction cs with
  | nil => exact ⟨[], [], List.splitOnP_nil, rfl, rfl⟩
  | cons c cs ih =>
      obtain ⟨part, parts, split, opening, going⟩ := ih
      rw [List.splitOnP_cons_eq_if_modifyHead]
      cases blank : isBlank c with
      | true =>
          refine ⟨[], part :: parts, ?_, ?_, ?_⟩
          · rw [if_pos rfl, split]
          · rw [after, if_pos blank, opening]
            simp
          · rw [after, if_pos blank, opening]
            simp
      | false =>
          refine ⟨c :: part, parts, ?_, ?_, ?_⟩
          · rw [if_neg Bool.false_ne_true, split, List.modifyHead_cons]
          · rw [after, if_neg (by simp [blank]), going]
            simp [ofWord]
          · rw [after, if_neg (by simp [blank]), going]
            simp

/-- The letters of the words of a text. -/
theorem ofWords_words (text : String) : ofWords (words text) = after true text.toList := by
  obtain ⟨part, parts, split, opening, _⟩ := after_eq_parts text.toList
  rw [opening, ← split, ofWords, words, List.flatMap_map]
  simp

/-- The words of a text have its letters. -/
theorem chars_ofWords_words (text : String) :
    (words text).flatMap String.toList = letters text.toList := by
  rw [← map_char_ofWords, ofWords_words, map_char_after]

/-- **A later letter of a text opens a word if there is a gap before it.** -/
theorem tail_opens_ofWords (text : String) :
    ((ofWords (words text)).map opens).tail =
      ((gaps text.toList).map fun gap => !gap.isEmpty).tail := by
  have marked := map_opens_after [] text.toList
  rw [← gaps] at marked
  rw [← marked, ← List.map_tail, ← List.map_tail, ofWords_words, tail_after]
  rfl

/-! ### Words of a text -/

theorem ne_empty_of_mem_words {text word : String} (h : word ∈ words text) : word ≠ "" := by
  obtain ⟨part, hpart, rfl⟩ := List.mem_map.1 h
  have filled : part ≠ [] := by simpa using (List.mem_filter.1 hpart).2
  rwa [ne_eq, String.ofList_eq_empty_iff]

/-- The letters of words are letters of the text. -/
theorem mem_of_mem_words {text word : String} (h : word ∈ words text) {c : Char}
    (hc : c ∈ word.toList) : c ∈ text.toList := by
  have among : c ∈ letters text.toList := by
    rw [← chars_ofWords_words]
    exact List.mem_flatMap.2 ⟨word, h, hc⟩
  exact (List.mem_filter.1 among).1

/-- A text has no words if it has no letters. -/
theorem words_eq_nil_iff {text : String} :
    words text = [] ↔ ∀ c ∈ text.toList, isBlank c = true := by
  rw [← letters_eq_nil_iff, ← chars_ofWords_words]
  constructor
  · intro none
    rw [none]
    rfl
  · intro none
    refine List.eq_nil_iff_forall_not_mem.2 fun word hword => ne_empty_of_mem_words hword ?_
    rw [← String.toList_eq_nil_iff]
    exact List.flatMap_eq_nil_iff.1 none word hword

/-- A place between two letters of words is told by the letters before it. -/
theorem eq_of_letters_eq {ws before before' after after' : List String}
    {part rest part' rest' : List Char} (h : ws = before ++ String.ofList (part ++ rest) :: after)
    (h' : ws = before' ++ String.ofList (part' ++ rest') :: after') (hrest : rest ≠ [])
    (hrest' : rest' ≠ [])
    (same : before.flatMap String.toList ++ part = before'.flatMap String.toList ++ part') :
    before = before' ∧ part = part' ∧ rest = rest' := by
  induction before generalizing ws before' with
  | nil =>
      cases before' with
      | nil =>
          rw [h, List.nil_append, List.nil_append, List.cons.injEq, String.ofList_inj] at h'
          have parts : part = part' := by simpa using same
          rw [parts, List.append_cancel_left_eq] at h'
          exact ⟨rfl, parts, h'.1⟩
      | cons word before' =>
          rw [h, List.nil_append, List.cons_append, List.cons.injEq] at h'
          rw [← h'.1, List.flatMap_nil, List.flatMap_cons, String.toList_ofList] at same
          have longer := congrArg List.length same
          have more := List.length_pos_iff.2 hrest
          simp only [List.length_append, List.length_nil] at longer
          omega
  | cons word before ih =>
      cases before' with
      | nil =>
          rw [h, List.nil_append, List.cons_append, List.cons.injEq] at h'
          rw [h'.1, List.flatMap_nil, List.flatMap_cons, String.toList_ofList] at same
          have longer := congrArg List.length same
          have more := List.length_pos_iff.2 hrest'
          simp only [List.length_append, List.length_nil] at longer
          omega
      | cons word' before' =>
          rw [h, List.cons_append, List.cons_append, List.cons.injEq] at h'
          obtain ⟨words, others⟩ := h'
          rw [words, List.flatMap_cons, List.flatMap_cons, List.append_assoc, List.append_assoc,
            List.append_cancel_left_eq] at same
          obtain ⟨rfl, rfl, rfl⟩ := ih rfl others same
          exact ⟨by rw [words], rfl, rfl⟩

end Compliance.Text
