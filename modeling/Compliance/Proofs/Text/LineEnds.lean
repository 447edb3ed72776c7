/-
**Blanks at the ends of lines.**

The last line of a paragraph is trimmed, and a line that ends before ends in a letter, with one
exception.  Before a word that is cut goes a space if the line has a column left behind it.  A letter
of two columns has no room in one, and then the line ends with the space.

Main definitions:

* `startsBlank`, `endsBlank` — a text that starts with a blank, and one that ends in a blank;
* `Filling.Strands` — a word that leaves a space at the end of a line.

Main results:

* `Filling.ends_addWord` — what a word does to the ends of lines;
* `wrapParagraph_trimmed_iff` — **no line ends in a blank exactly if no word strands a space**;
* `Margin.not_endsBlank_of_narrow` — words that open with a narrow letter do not.
-/

import Compliance.Proofs.Text.Course
import Mathlib.Data.List.DropRight

set_option relaxedAutoImplicit false
set_option autoImplicit false

namespace Compliance.Text

/-! ### Ends of texts -/

/-- Whether a text starts with a blank. -/
def startsBlank (s : String) : Bool := s.toList.head?.any isBlank

/-- Whether a text ends in a blank. -/
def endsBlank (s : String) : Bool := s.toList.getLast?.any isBlank

@[simp] theorem endsBlank_push (s : String) (c : Char) : endsBlank (s.push c) = isBlank c := by
  simp [endsBlank]

theorem endsBlank_append {w : String} (h : w ≠ "") (s : String) :
    endsBlank (s ++ w) = endsBlank w := by
  obtain ⟨front, c, last⟩ := List.eq_nil_or_concat w.toList |>.resolve_left
    (mt String.toList_eq_nil_iff.1 h)
  simp [endsBlank, last]

/-- A text without blanks does not end in one. -/
theorem endsBlank_of_letters {s : String} (h : ∀ c ∈ s.toList, isBlank c = false) :
    endsBlank s = false := by
  rw [endsBlank]
  cases last : s.toList.getLast? with
  | none => rfl
  | some c => exact h c (List.mem_of_getLast? last)

@[simp] theorem endsBlank_trimEnd (s : String) : endsBlank (trimEnd s) = false := by
  have first := List.head?_dropWhile_not isBlank s.toList.reverse
  rw [endsBlank, trimEnd, String.toList_ofList, dropBlankEnd, List.getLast?_reverse]
  cases last : (s.toList.reverse.dropWhile isBlank).head? with
  | none => rfl
  | some c =>
      rw [last] at first
      exact first

theorem trimEnd_of_not_endsBlank {s : String} (h : endsBlank s = false) : trimEnd s = s := by
  refine String.toList_injective ?_
  rw [trimEnd, String.toList_ofList, dropBlankEnd]
  rcases List.eq_nil_or_concat s.toList with none | ⟨front, c, last⟩
  · rw [none]
    rfl
  · have letter : isBlank c = false := by simpa [endsBlank, last] using h
    simp [last, letter]

@[simp] theorem endsBlank_trim (s : String) : endsBlank (trim s) = false := by
  have trimmed := endsBlank_trimEnd (String.ofList (s.toList.dropWhile isBlank))
  rwa [trimEnd, String.toList_ofList] at trimmed

@[simp] theorem startsBlank_trim (s : String) : startsBlank (trim s) = false := by
  have first := List.head?_dropWhile_not isBlank s.toList
  -- what is left in the end is a front of what is left at the start
  have front : (trim s).toList <+: s.toList.dropWhile isBlank := by
    rw [trim, String.toList_ofList]
    exact List.rdropWhile_prefix isBlank _
  obtain ⟨rest, whole⟩ := front
  rw [startsBlank]
  cases chars : (trim s).toList with
  | nil => rfl
  | cons c cs =>
      rw [← whole, chars] at first
      exact first

/-- Nothing is left of a text exactly if all of it is blank. -/
theorem trim_eq_empty_iff {s : String} : trim s = "" ↔ ∀ c ∈ s.toList, isBlank c = true := by
  rw [← String.toList_eq_nil_iff, trim, String.toList_ofList]
  refine List.rdropWhile_eq_nil_iff.trans ⟨fun blank => ?_, fun blank c hc => ?_⟩
  · -- a first letter would be left
    have first := List.head?_dropWhile_not isBlank s.toList
    cases chars : s.toList.dropWhile isBlank with
    | nil => exact List.dropWhile_eq_nil_iff.1 chars
    | cons c cs =>
        rw [chars] at first blank
        cases first.symm.trans (blank c List.mem_cons_self)
  · exact blank c ((List.dropWhile_suffix isBlank).subset hc)

namespace Filling

/-! ### What a word does to the ends of lines -/

/-- A finished line ends in a blank. -/
def Loose (f : Filling) : Prop := ∃ line ∈ f.finished, endsBlank line = true

/-- The line under way ends in a letter, if it holds one. -/
def Inked (f : Filling) : Prop := f.started = true → endsBlank f.line = false

/-- A word that leaves a space at the end of a line: it is too long for any line, the line has room
for a space and one column more, and the first letter takes two. -/
structure Strands (m : Margin) (f : Filling) (w : String) : Prop where
  started : f.started = true
  exceeds : m.width < f.column + 1 + displayWidth w
  long : m.width < displayWidth m.subsequent + displayWidth w
  room : f.column + 1 < m.width
  wide : ∃ c cs, w.toList = c :: cs ∧ m.width < f.column + 1 + charWidth c

variable {m : Margin} {f : Filling} {w : String} {c : Char} {cs : List Char}

theorem inked_start (m : Margin) : (start m).Inked := by
  intro started
  cases started

/-- If the line under way holds a letter, the last line is not trimmed. -/
theorem Inked.lines_eq (inked : f.Inked) (started : f.started = true) :
    f.lines = (f.line :: f.finished).reverse := by
  rw [lines, started, trimEnd_of_not_endsBlank (inked started)]
  rfl

theorem loose_cons (finished : List String) (line next : String) (column : Nat) (started : Bool) :
    (⟨line :: finished, next, column, started⟩ : Filling).Loose ↔
      endsBlank line = true ∨ ∃ earlier ∈ finished, endsBlank earlier = true := by
  simp [Loose]

theorem loose_breakLine (started : f.started = true) (inked : f.Inked) :
    (f.breakLine m).Loose ↔ f.Loose := by
  rw [breakLine, loose_cons, inked started]
  simp [Loose]

theorem inked_append (letters : ∀ c ∈ w.toList, isBlank c = false) (filled : w ≠ "") :
    (f.append w).Inked := by
  intro _
  rw [append, endsBlank_append filled]
  exact endsBlank_of_letters letters

/-- A letter leaves the ends of finished lines as they are. -/
theorem ends_addChar (inked : f.Inked) (letter : isBlank c = false) :
    (f.addChar m c).Inked ∧ ((f.addChar m c).Loose ↔ f.Loose) := by
  by_cases full : f.started = true ∧ m.width < f.column + charWidth c
  · rw [addChar_of_full full.1 full.2]
    refine ⟨fun _ => (endsBlank_push _ _).trans letter, ?_⟩
    rw [loose_cons, inked full.1]
    simp [Loose]
  · rw [addChar_of_room fun started => Nat.le_of_not_lt fun exceeds => full ⟨started, exceeds⟩]
    exact ⟨fun _ => (endsBlank_push _ _).trans letter, Iff.rfl⟩

theorem ends_cut (inked : f.Inked) (letters : ∀ c ∈ cs, isBlank c = false) :
    (cs.foldl (addChar m) f).Inked ∧ ((cs.foldl (addChar m) f).Loose ↔ f.Loose) := by
  induction cs generalizing f with
  | nil => exact ⟨inked, Iff.rfl⟩
  | cons c cs ih =>
      have first := ends_addChar (m := m) inked (letters c List.mem_cons_self)
      have later := ih first.1 fun d hd => letters d (List.mem_cons_of_mem _ hd)
      exact ⟨later.1, later.2.trans first.2⟩

/-- The first letter of a word that is cut: the space before it is left behind, or it is not. -/
theorem ends_cutFirst (inked : f.Inked) (letter : isBlank c = false)
    (exceeds : m.width < f.column + f.gap + displayWidth (String.ofList (c :: cs)))
    (long : f.started = true →
      m.width < displayWidth m.subsequent + displayWidth (String.ofList (c :: cs))) :
    ((f.beforeCut m).addChar m c).Inked ∧
      (((f.beforeCut m).addChar m c).Loose ↔ f.Loose ∨ f.Strands m (String.ofList (c :: cs))) := by
  by_cases started : f.started = true
  case neg =>
    have fresh : ¬f.Strands m (String.ofList (c :: cs)) := fun strands => started strands.started
    rw [beforeCut_of_unstarted (by simpa using started), or_iff_left fresh]
    exact ends_addChar inked letter
  by_cases space : f.column + 1 < m.width
  case neg =>
    have full : ¬f.Strands m (String.ofList (c :: cs)) := fun strands => space strands.room
    have fresh : (f.breakLine m).Inked := by
      intro again
      cases again
    have put := ends_addChar (m := m) fresh letter
    rw [beforeCut_of_full started (Nat.le_of_not_lt space), or_iff_left full]
    exact ⟨put.1, put.2.trans (loose_breakLine started inked)⟩
  rw [beforeCut_of_room started space]
  by_cases room : f.column + 1 + charWidth c ≤ m.width
  · have stays : ¬f.Strands m (String.ofList (c :: cs)) := by
      intro strands
      obtain ⟨d, ds, word, wide⟩ := strands.wide
      rw [String.toList_ofList, List.cons.injEq] at word
      rw [← word.1] at wide
      exact Nat.not_lt.2 room wide
    rw [addChar_of_room fun _ => room, or_iff_left stays]
    exact ⟨fun _ => (endsBlank_push _ _).trans letter, Iff.rfl⟩
  · have wide := Nat.lt_of_not_le room
    have gap : f.gap = 1 := if_pos started
    have strands : f.Strands m (String.ofList (c :: cs)) :=
      ⟨started, by rwa [← gap], long started, space, c, cs, String.toList_ofList, wide⟩
    rw [addChar_of_full rfl wide, loose_cons]
    refine ⟨fun _ => (endsBlank_push _ _).trans letter, iff_of_true (.inl ?_) (.inr strands)⟩
    rw [endsBlank_push]
    decide

/-- **What a word does to the ends of lines.** -/
theorem ends_addWord (inked : f.Inked) (letters : ∀ c ∈ w.toList, isBlank c = false)
    (filled : w ≠ "") :
    (f.addWord m w).Inked ∧ ((f.addWord m w).Loose ↔ f.Loose ∨ f.Strands m w) := by
  rcases f.addWord_cases m w with
    ⟨started, _, fits, added⟩ | ⟨room, added⟩ | ⟨exceeds, long, added⟩
  · have moved : ¬f.Strands m w := fun strands => Nat.not_lt.2 fits strands.long
    rw [added, or_iff_left moved]
    exact ⟨inked_append letters filled, loose_breakLine (m := m) started inked⟩
  · have stays : ¬f.Strands m w := by
      intro strands
      have gap : f.gap = 1 := if_pos strands.started
      rw [gap] at room
      exact Nat.not_lt.2 room strands.exceeds
    rw [added, or_iff_left stays]
    exact ⟨inked_append letters filled, Iff.rfl⟩
  · obtain ⟨c, cs, word⟩ := List.exists_cons_of_ne_nil (mt String.toList_eq_nil_iff.1 filled)
    rw [word] at letters
    rw [added, word, List.foldl_cons]
    rw [← String.ofList_toList (s := w), word] at exceeds long ⊢
    have first := ends_cutFirst inked (letters c List.mem_cons_self) exceeds long
    have later := ends_cut (m := m) first.1 fun d hd => letters d (List.mem_cons_of_mem _ hd)
    exact ⟨later.1, later.2.trans first.2⟩

/-- What words do to the ends of lines. -/
theorem loose_addWords {ws : List String} (inked : f.Inked)
    (letters : ∀ w ∈ ws, ∀ c ∈ w.toList, isBlank c = false) (filled : ∀ w ∈ ws, w ≠ "") :
    (ws.foldl (addWord m) f).Loose ↔
      f.Loose ∨ ∃ before w after, ws = before ++ w :: after ∧
        (before.foldl (addWord m) f).Strands m w := by
  induction ws generalizing f with
  | nil => simp
  | cons w ws ih =>
      obtain ⟨still, step⟩ := ends_addWord (m := m) inked (letters w List.mem_cons_self)
        (filled w List.mem_cons_self)
      rw [List.foldl_cons, ih still (fun v hv => letters v (List.mem_cons_of_mem _ hv))
        fun v hv => filled v (List.mem_cons_of_mem _ hv), step, or_assoc]
      refine or_congr_right ?_
      constructor
      · rintro (strands | ⟨before, v, after, rfl, strands⟩)
        · exact ⟨[], w, ws, rfl, strands⟩
        · exact ⟨w :: before, v, after, rfl, strands⟩
      · rintro ⟨before, v, after, split, strands⟩
        rcases List.cons_eq_append_iff.1 split with ⟨rfl, split⟩ | ⟨before, rfl, rfl⟩
        · cases split
          exact .inl strands
        · exact .inr ⟨before, v, after, rfl, strands⟩

/-- The last line is trimmed. -/
theorem exists_mem_lines_endsBlank :
    (∃ line ∈ f.lines, endsBlank line = true) ↔ f.Loose := by
  rw [lines, Loose]
  split
  · simp
  · simp

end Filling

/-! ### What wrapping does -/

/-- A line of a wrapped text ends in a blank exactly if a word strands a space. -/
theorem Margin.exists_endsBlank_iff (m : Margin) (text : String) :
    (∃ line ∈ m.wrap text, endsBlank line = true) ↔
      ∃ before w after, words text = before ++ w :: after ∧
        (before.foldl (Filling.addWord m) (.start m)).Strands m w := by
  have none : ¬(Filling.start m).Loose := by
    rintro ⟨line, hline, _⟩
    cases hline
  rw [Margin.wrap, Filling.exists_mem_lines_endsBlank,
    Filling.loose_addWords (Filling.inked_start m) (fun w hw c hc => words_not_blank hw hc)
      (fun w hw => ne_empty_of_mem_words hw), or_iff_right none]

/-- **No line of a wrapped text ends in a blank exactly if no word strands a space.** -/
theorem wrapParagraph_trimmed_iff (text : String) (width : Nat) (initial subsequent : String) :
    (∀ line ∈ wrapParagraph text width initial subsequent, endsBlank line = false) ↔
      ∀ before w after, words text = before ++ w :: after →
        ¬(before.foldl (Filling.addWord ⟨width, initial, subsequent⟩)
          (.start ⟨width, initial, subsequent⟩)).Strands ⟨width, initial, subsequent⟩ w := by
  have some := not_congr (Margin.exists_endsBlank_iff ⟨width, initial, subsequent⟩ text)
  simpa [wrapParagraph] using some

/-- A line that has one column left behind the space, and a letter of two columns. -/
theorem not_trimmed_before_wide :
    (∃ c ∈ "a 日本".toList, isBlank c = false) ∧
      wrapParagraph "a 日本" 5 "* " "  " = ["* a ", "  日", "  本"] ∧
      ∃ line ∈ wrapParagraph "a 日本" 5 "* " "  ", endsBlank line = true := by
  have wrapped : wrapParagraph "a 日本" 5 "* " "  " = ["* a ", "  日", "  本"] := by
    decide +kernel
  refine ⟨⟨'a', by simp, by decide⟩, wrapped, "* a ", ?_, by decide⟩
  rw [wrapped]
  exact List.mem_cons_self

/-- If every word opens with a letter of at most one column, no line ends in a blank. -/
theorem Margin.not_endsBlank_of_narrow (m : Margin) {text : String}
    (narrow : ∀ w ∈ words text, ∀ c cs, w.toList = c :: cs → charWidth c ≤ 1) :
    ∀ line ∈ m.wrap text, endsBlank line = false := by
  intro line hline
  refine Bool.eq_false_iff.2 fun blank => ?_
  obtain ⟨before, w, after, split, strands⟩ :=
    (m.exists_endsBlank_iff text).1 ⟨line, hline, blank⟩
  obtain ⟨c, cs, word, wide⟩ := strands.wide
  have opening := narrow w (by rw [split]; simp) c cs word
  have room := strands.room
  omega

end Compliance.Text
