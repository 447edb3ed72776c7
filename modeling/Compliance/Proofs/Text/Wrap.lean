/-
**What the lines of a wrapped paragraph are made of.**

A line of a paragraph starts as one of the two indents and grows by characters of words and by
spaces only; the last line may lose blanks at its end.  So a property of texts that both indents
have, and that is kept when such a character is added, holds of every line before its end is
trimmed.

Main results:

* `words_not_blank` — words have no blank characters;
* `words_append_space` — a space parts the words before it from those after it;
* `Margin.wrap_forall` — **the induction over the lines of a paragraph**.
-/

import Compliance.Text.Wrap

set_option relaxedAutoImplicit false
set_option autoImplicit false

namespace Compliance.Text

/-! ### Words -/

/-- The characters of a part between separators are no separators. -/
theorem apart_of_mem_splitOnP {p : Char → Bool} {cs part : List Char} (h : part ∈ cs.splitOnP p)
    {c : Char} (hc : c ∈ part) : p c = false := by
  induction cs generalizing part c with
  | nil =>
      rw [List.splitOnP_nil, List.mem_singleton] at h
      subst h
      cases hc
  | cons d cs ih =>
      rw [List.splitOnP_cons_eq_if_modifyHead] at h
      by_cases hd : p d = true
      · rw [if_pos hd] at h
        rcases List.mem_cons.1 h with rfl | h
        · cases hc
        · exact ih h hc
      · rw [if_neg hd] at h
        obtain ⟨front, parts, split⟩ := List.exists_cons_of_ne_nil (List.splitOnP_ne_nil p cs)
        rw [split, List.modifyHead_cons] at h
        rcases List.mem_cons.1 h with rfl | h
        · rcases List.mem_cons.1 hc with rfl | hc
          · exact Bool.eq_false_iff.2 hd
          · refine ih ?_ hc
            rw [split]
            exact List.mem_cons_self
        · refine ih ?_ hc
          rw [split]
          exact List.mem_cons_of_mem _ h

/-- Words have no blank characters. -/
theorem words_not_blank {text word : String} (h : word ∈ words text) {c : Char}
    (hc : c ∈ word.toList) : isBlank c = false := by
  obtain ⟨part, hpart, rfl⟩ := List.mem_map.1 h
  rw [String.toList_ofList] at hc
  exact apart_of_mem_splitOnP (List.mem_filter.1 hpart).1 hc

/-- A text of letters only is one word. -/
theorem words_of_letters {s : String} (filled : s ≠ "") (letters : ∀ c ∈ s.toList, isBlank c = false) :
    words s = [s] := by
  simp [words, List.splitOnP_eq_singleton letters, filled]

/-- A space parts the words before it from those after it. -/
theorem words_append_space (s t : String) : words (s ++ " " ++ t) = words s ++ words t := by
  have space : isBlank ' ' = true := by decide
  have whole : (s ++ " " ++ t).toList = s.toList ++ ' ' :: t.toList := by simp
  rw [words, whole, List.splitOnP_append_cons _ _ space, List.filter_append, List.map_append]
  rfl

/-! ### Lines -/

/-- A property of the lines of a paragraph: both indents have it, and a line keeps it when a space
or a character of a word is added. -/
structure Margin.Keeps (m : Margin) (P : String → Prop) : Prop where
  initial : P m.initial
  subsequent : P m.subsequent
  space : ∀ line, P line → P (line.push ' ')
  letter : ∀ line c, P line → isBlank c = false → P (line.push c)

namespace Filling

/-- All lines of a paragraph so far have a property. -/
structure All (P : String → Prop) (f : Filling) : Prop where
  finished : ∀ line ∈ f.finished, P line
  line : P f.line

variable {m : Margin} {P : String → Prop} {f : Filling}

theorem All.start (keeps : m.Keeps P) : (start m).All P := by
  refine ⟨?_, keeps.initial⟩
  intro line h
  cases h

theorem All.breakLine (keeps : m.Keeps P) (h : f.All P) : (f.breakLine m).All P := by
  refine ⟨?_, keeps.subsequent⟩
  intro line hline
  rcases List.mem_cons.1 hline with rfl | hline
  · exact h.line
  · exact h.finished line hline

theorem keeps_append_ofList (keeps : m.Keeps P) {cs : List Char}
    (letters : ∀ c ∈ cs, isBlank c = false) {line : String} (h : P line) :
    P (line ++ String.ofList cs) := by
  induction cs generalizing line with
  | nil => rwa [String.ofList_nil, String.append_empty]
  | cons c cs ih =>
      have grown : line ++ String.ofList (c :: cs) = line.push c ++ String.ofList cs := by
        refine String.toList_injective ?_
        simp
      rw [grown]
      refine ih (fun d hd => letters d (List.mem_cons_of_mem _ hd)) ?_
      exact keeps.letter line c h (letters c List.mem_cons_self)

/-- A line keeps the property when a word is added. -/
theorem keeps_append (keeps : m.Keeps P) {line word : String} (h : P line)
    (letters : ∀ c ∈ word.toList, isBlank c = false) : P (line ++ word) := by
  have added := keeps_append_ofList keeps letters h
  rwa [String.ofList_toList] at added

theorem All.append (keeps : m.Keeps P) (h : f.All P) {word : String}
    (letters : ∀ c ∈ word.toList, isBlank c = false) : (f.append word).All P := by
  refine ⟨h.finished, keeps_append keeps ?_ letters⟩
  split
  · exact keeps.space _ h.line
  · exact h.line

theorem All.addChar (keeps : m.Keeps P) (h : f.All P) {c : Char} (letter : isBlank c = false) :
    (f.addChar m c).All P := by
  have grown : ∀ {g : Filling}, g.All P →
      ({ g with line := g.line.push c, column := g.column + charWidth c, started := true }
        : Filling).All P := fun hg => ⟨hg.finished, keeps.letter _ c hg.line letter⟩
  unfold Filling.addChar
  split
  · exact grown (h.breakLine keeps)
  · exact grown h

theorem All.beforeCut (keeps : m.Keeps P) (h : f.All P) : (f.beforeCut m).All P := by
  unfold Filling.beforeCut
  split
  · split
    · exact ⟨h.finished, keeps.space _ h.line⟩
    · exact h.breakLine keeps
  · exact h

theorem All.cut (keeps : m.Keeps P) (h : f.All P) {cs : List Char}
    (letters : ∀ c ∈ cs, isBlank c = false) : (cs.foldl (Filling.addChar m) f).All P := by
  induction cs generalizing f with
  | nil => exact h
  | cons c cs ih =>
      refine ih (h.addChar keeps (letters c List.mem_cons_self)) fun d hd => ?_
      exact letters d (List.mem_cons_of_mem _ hd)

theorem All.addWord (keeps : m.Keeps P) (h : f.All P) {word : String}
    (letters : ∀ c ∈ word.toList, isBlank c = false) : (f.addWord m word).All P := by
  have added : ∀ {g : Filling}, g.All P →
      (if g.column + g.gap + displayWidth word ≤ m.width then g.append word
        else word.toList.foldl (Filling.addChar m) (g.beforeCut m)).All P := by
    intro g hg
    split
    · exact hg.append keeps letters
    · exact (hg.beforeCut keeps).cut keeps letters
  unfold Filling.addWord
  split
  · exact added (h.breakLine keeps)
  · exact added h

theorem All.addWords (keeps : m.Keeps P) (h : f.All P) {ws : List String}
    (letters : ∀ word ∈ ws, ∀ c ∈ word.toList, isBlank c = false) :
    (ws.foldl (Filling.addWord m) f).All P := by
  induction ws generalizing f with
  | nil => exact h
  | cons word ws ih =>
      refine ih (h.addWord keeps (letters word List.mem_cons_self)) fun w hw => ?_
      exact letters w (List.mem_cons_of_mem _ hw)

end Filling

/-- **Every line of a wrapped paragraph**, before its end is trimmed, has what both indents have and
what a line keeps when a space or a character of a word is added. -/
theorem Margin.wrap_forall {m : Margin} {P : String → Prop} (keeps : m.Keeps P) (text : String) :
    ∀ line ∈ m.wrap text, ∃ whole, P whole ∧ (line = whole ∨ line = trimEnd whole) := by
  have all : ((words text).foldl (Filling.addWord m) (.start m)).All P :=
    (Filling.All.start keeps).addWords keeps fun _ hw _ => words_not_blank hw
  intro line hline
  unfold Margin.wrap Filling.lines at hline
  -- the line under way comes last, if it was started, and only it is trimmed
  split at hline
  · rcases List.mem_cons.1 (List.mem_reverse.1 hline) with rfl | hline
    · exact ⟨_, all.line, .inr rfl⟩
    · exact ⟨line, all.finished line hline, .inl rfl⟩
  · exact ⟨line, all.finished line (List.mem_reverse.1 hline), .inl rfl⟩

/-- A paragraph has a line, whether or not its text has words. -/
theorem Margin.wrap_ne_nil (m : Margin) (text : String) : m.wrap text ≠ [] := by
  unfold Margin.wrap Filling.lines
  split
  case isTrue => simp
  case isFalse started =>
    rw [Bool.or_eq_true, not_or, List.isEmpty_iff] at started
    simpa using started.2

end Compliance.Text
