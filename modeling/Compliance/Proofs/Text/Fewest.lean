/-
**The fewest lines.**

Where no word has to be cut, a wrapped text has one line for each group of consecutive words, and no
other way to cut its words into groups that have room has fewer lines.  A text without words has one
line nevertheless, which holds the first indent.

The proof compares the paragraph with another one that is laid out with the same words in whatever
lines have room.  After each word the greedy one is ahead: it has fewer finished lines, or as many and
a line that is filled no further.  The first line could only fall behind if its indent were wider than
that of the others.

Main definitions:

* `Margin.Layout` — words cut into groups, each of which has room on a line;
* `Margin.AddsUp` — a word that adds up with the indents;
* `Laid` — a paragraph that is laid out word by word;
* `Filling.Ahead` — fewer lines, or as many and filled no further.

Main results:

* `Laid.layout`, `Margin.Layout.exists_laid` — layouts are what can be laid out word by word;
* `Laid.ahead` — **greedy filling stays ahead of any other**;
* `wrapParagraph_fewest` — a wrapped text is a layout with the fewest lines.
-/

import Compliance.Proofs.Text.Limit

set_option relaxedAutoImplicit false
set_option autoImplicit false

namespace Compliance.Text

/-! ### Layouts -/

namespace Margin

/-- Lines that hold the given groups of words. -/
def linesOf (m : Margin) (groups : List (List String)) : List String :=
  m.indented (groups.map " ".intercalate)

/-- A way to cut words into groups of consecutive words, each of which has room on a line. -/
structure Layout (m : Margin) (ws : List String) (groups : List (List String)) : Prop where
  flatten : groups.flatten = ws
  filled : ∀ group ∈ groups, group ≠ []
  fits : ∀ line ∈ m.linesOf groups, displayWidth line ≤ m.width

/-- A word that joins with neither indent. -/
structure AddsUp (m : Margin) (w : String) : Prop where
  initial : displayWidth (m.initial ++ w) = displayWidth m.initial + displayWidth w
  subsequent : displayWidth (m.subsequent ++ w) = displayWidth m.subsequent + displayWidth w

variable {m : Margin} {w : String} {group : List String} {groups : List (List String)}

/-- Where all texts are as wide as their characters together, words add up with indents. -/
theorem addsUp_of_summed (initial : Summed m.initial) (subsequent : Summed m.subsequent)
    (word : Summed w) (first : Summed (m.initial ++ w)) (later : Summed (m.subsequent ++ w)) :
    m.AddsUp w := by
  constructor
  · rw [first, initial, word, String.toList_append, columns_append]
  · rw [later, subsequent, word, String.toList_append, columns_append]

/-- So they do behind indents that are empty or end in a space. -/
theorem addsUp_of_parting (initial : Parting m.initial) (subsequent : Parting m.subsequent)
    (w : String) : m.AddsUp w :=
  ⟨initial.displayWidth_append w, subsequent.displayWidth_append w⟩

theorem AddsUp.indent {α : Type} (h : m.AddsUp w) (earlier : List α) :
    displayWidth (m.indentAfter earlier ++ w) =
      displayWidth (m.indentAfter earlier) + displayWidth w := by
  cases earlier with
  | nil => exact h.initial
  | cons a earlier => exact h.subsequent

/-- The lines of groups that are given the latest first. -/
theorem linesOf_reverse_cons (m : Margin) (group : List String) (groups : List (List String)) :
    m.linesOf (group :: groups).reverse =
      m.linesOf groups.reverse ++ [m.indentAfter groups ++ " ".intercalate group] := by
  have indent : m.indentAfter (groups.reverse.map " ".intercalate) = m.indentAfter groups := by
    cases groups with
    | nil => rfl
    | cons _ _ => simp [indentAfter]
  rw [linesOf, List.reverse_cons, List.map_append, List.map_singleton, indented_concat, indent]
  rfl

/-- The last line holds the last group, and the lines before it hold the others. -/
theorem last_of_linesOf {line : String} {finished : List String}
    (h : (line :: finished).reverse = m.linesOf (group :: groups).reverse) :
    finished.reverse = m.linesOf groups.reverse ∧
      line = m.indentAfter groups ++ " ".intercalate group := by
  rw [m.linesOf_reverse_cons, List.reverse_cons] at h
  obtain ⟨earlier, last⟩ := List.append_inj' h rfl
  exact ⟨earlier, List.singleton_inj.1 last⟩

theorem length_linesOf (m : Margin) (groups : List (List String)) :
    (m.linesOf groups).length = groups.length := by
  cases groups with
  | nil => rfl
  | cons group groups => simp [linesOf, indented]

/-- More words take more columns. -/
theorem displayWidth_intercalate_le {some more : List String} (filled : some ≠ []) (indent : String) :
    displayWidth (indent ++ " ".intercalate some) ≤
      displayWidth (indent ++ " ".intercalate (some ++ more)) := by
  by_cases none : more = []
  · exact Nat.le_of_eq (by rw [none, List.append_nil])
  · rw [String.intercalate_append_of_ne_nil filled none, ← String.append_assoc,
      ← String.append_assoc, displayWidth_append_space]
    omega

end Margin

/-! ### Laying out word by word -/

/-- A paragraph in which words are laid out one by one, in any lines that have room.  The groups of
words on its lines are given the latest first. -/
inductive Laid (m : Margin) : List String → List (List String) → Filling → Prop
  /-- The first word. -/
  | first {w : String} (room : displayWidth m.initial + displayWidth w ≤ m.width) :
      Laid m [w] [[w]] ((Filling.start m).append w)
  /-- A word on the line of the word before it. -/
  | word {ws group : List String} {groups : List (List String)} {f : Filling} {w : String}
      (before : Laid m ws (group :: groups) f) (room : f.column + 1 + displayWidth w ≤ m.width) :
      Laid m (ws ++ [w]) ((group ++ [w]) :: groups) (f.append w)
  /-- A word on a line of its own. -/
  | line {ws : List String} {groups : List (List String)} {f : Filling} {w : String}
      (before : Laid m ws groups f)
      (room : displayWidth m.subsequent + displayWidth w ≤ m.width) :
      Laid m (ws ++ [w]) ([w] :: groups) ((f.breakLine m).append w)

namespace Laid

variable {m : Margin} {f : Filling} {w : String} {ws group : List String}
  {groups : List (List String)}

theorem started (h : Laid m ws groups f) : f.started = true := by
  cases h with
  | first _ => rfl
  | word _ _ => rfl
  | line _ _ => rfl

theorem gap (h : Laid m ws groups f) : f.gap = 1 := if_pos h.started

theorem ne_nil (h : Laid m ws groups f) : groups ≠ [] := by
  cases h with
  | first _ => exact List.cons_ne_nil _ _
  | word _ _ => exact List.cons_ne_nil _ _
  | line _ _ => exact List.cons_ne_nil _ _

theorem words_ne_nil (h : Laid m ws groups f) : ws ≠ [] := by
  cases h with
  | first _ => exact List.cons_ne_nil _ _
  | word _ _ => exact List.append_ne_nil_of_right_ne_nil _ (List.cons_ne_nil _ _)
  | line _ _ => exact List.append_ne_nil_of_right_ne_nil _ (List.cons_ne_nil _ _)

theorem indentAfter (h : Laid m ws groups f) : m.indentAfter groups = m.subsequent := by
  obtain ⟨group, earlier, rfl⟩ := List.exists_cons_of_ne_nil h.ne_nil
  rfl

theorem line_append (h : Laid m ws groups f) (w : String) :
    (f.append w).line = f.line ++ " " ++ w := by
  rw [Filling.append, h.started, if_pos rfl, push_space_append]

theorem filled (h : Laid m ws groups f) : ∀ group ∈ groups, group ≠ [] := by
  induction h with
  | first _ => simp
  | word _ _ ih => simpa using fun group hg => ih group (List.mem_cons_of_mem _ hg)
  | line _ _ ih => simpa using ih

/-- The groups have all words, in order. -/
theorem flatten (h : Laid m ws groups f) : groups.reverse.flatten = ws := by
  induction h with
  | first _ => rfl
  | word _ _ ih => simpa using congrArg (· ++ [_]) ih
  | line _ _ ih => simp [ih]

/-- There is one line for each group. -/
theorem length (h : Laid m ws groups f) : f.finished.length + 1 = groups.length := by
  induction h with
  | first _ => rfl
  | word _ _ ih => exact ih
  | line _ _ ih => exact congrArg (· + 1) ih

/-- The lines hold the groups. -/
theorem lines (h : Laid m ws groups f) :
    (f.line :: f.finished).reverse = m.linesOf groups.reverse := by
  induction h with
  | first _ => simp [Filling.append, Filling.start, Margin.linesOf, Margin.indented]
  | @word ws group groups f w before _ ih =>
      have filled : group ≠ [] := before.filled group List.mem_cons_self
      obtain ⟨finished, line⟩ := Margin.last_of_linesOf ih
      have added : f.line ++ " " ++ w =
          m.indentAfter groups ++ " ".intercalate (group ++ [w]) := by
        rw [line, String.intercalate_append_of_ne_nil filled (List.cons_ne_nil _ _),
          String.intercalate_singleton]
        simp only [String.append_assoc]
      rw [m.linesOf_reverse_cons, List.reverse_cons, before.line_append, added, ← finished]
      rfl
  | @line ws groups f w before _ ih =>
      rw [m.linesOf_reverse_cons, ← ih, before.indentAfter, String.intercalate_singleton,
        List.reverse_cons]
      rfl

/-- A line is as wide as counted, and within the margin, if the words add up with the indents. -/
theorem fits (h : Laid m ws groups f) (addsUp : ∀ w ∈ ws, m.AddsUp w) :
    f.column = displayWidth f.line ∧ ∀ line ∈ f.line :: f.finished, displayWidth line ≤ m.width := by
  induction h with
  | @first w room =>
      have joined := (addsUp w List.mem_cons_self).initial
      refine ⟨joined.symm, ?_⟩
      intro line hline
      rw [List.mem_singleton.1 hline]
      exact Nat.le_trans (Nat.le_of_eq joined) room
  | @word ws group groups f w before room ih =>
      obtain ⟨column, fits⟩ := ih fun v hv => addsUp v (List.mem_append_left _ hv)
      have width : displayWidth (f.append w).line = f.column + 1 + displayWidth w := by
        rw [before.line_append, displayWidth_append_space, column]
      refine ⟨?_, ?_⟩
      · rw [width, Filling.append, before.gap]
      · intro line hline
        rcases List.mem_cons.1 hline with rfl | hline
        · exact Nat.le_trans (Nat.le_of_eq width) room
        · exact fits line (List.mem_cons_of_mem _ hline)
  | @line ws groups f w before room ih =>
      obtain ⟨_, fits⟩ := ih fun v hv => addsUp v (List.mem_append_left _ hv)
      have joined := (addsUp w (by simp)).subsequent
      refine ⟨joined.symm, ?_⟩
      intro line hline
      rcases List.mem_cons.1 hline with rfl | hline
      · exact Nat.le_trans (Nat.le_of_eq joined) room
      · exact fits line hline

/-- What is laid out word by word is a layout. -/
theorem layout (h : Laid m ws groups f) (addsUp : ∀ w ∈ ws, m.AddsUp w) :
    m.Layout ws groups.reverse := by
  refine ⟨h.flatten, ?_, ?_⟩
  · intro group hg
    exact h.filled group (List.mem_reverse.1 hg)
  · intro line hline
    rw [← h.lines, List.mem_reverse] at hline
    exact (h.fits addsUp).2 line hline

theorem inked (h : Laid m ws groups f) (letters : ∀ w ∈ ws, ∀ c ∈ w.toList, isBlank c = false)
    (filled : ∀ w ∈ ws, w ≠ "") : f.Inked := by
  cases h with
  | first _ => exact Filling.inked_append (letters _ (by simp)) (filled _ (by simp))
  | word _ _ => exact Filling.inked_append (letters _ (by simp)) (filled _ (by simp))
  | line _ _ => exact Filling.inked_append (letters _ (by simp)) (filled _ (by simp))

/-! ### Layouts are laid out word by word -/

/-- More words for the line under way, which has room for them. -/
theorem exists_words (h : Laid m ws (group :: groups) f) {more : List String}
    (addsUp : ∀ w ∈ ws ++ more, m.AddsUp w)
    (fits : displayWidth (m.indentAfter groups ++ " ".intercalate (group ++ more)) ≤ m.width) :
    ∃ g, Laid m (ws ++ more) ((group ++ more) :: groups) g := by
  induction more generalizing ws group f with
  | nil => exact ⟨f, by simpa using h⟩
  | cons w more ih =>
      have split : ∀ front : List String, front ++ w :: more = (front ++ [w]) ++ more := by simp
      rw [split] at fits addsUp ⊢
      rw [split]
      have filled := h.filled group List.mem_cons_self
      have upTo := Nat.le_trans (Margin.displayWidth_intercalate_le (by simp) _) fits
      obtain ⟨_, line⟩ := Margin.last_of_linesOf h.lines
      have room : f.column + 1 + displayWidth w ≤ m.width := by
        rw [String.intercalate_append_of_ne_nil filled (List.cons_ne_nil _ _),
          String.intercalate_singleton, ← String.append_assoc, ← String.append_assoc, ← line,
          displayWidth_append_space] at upTo
        rwa [(h.fits fun v hv => addsUp v (by simp [hv])).1]
      exact ih (h.word room) addsUp fits

/-- **A layout is laid out word by word.** -/
theorem exists_of_fits (some : groups ≠ []) (filled : ∀ group ∈ groups, group ≠ [])
    (fits : ∀ line ∈ m.linesOf groups.reverse, displayWidth line ≤ m.width)
    (addsUp : ∀ w ∈ groups.reverse.flatten, m.AddsUp w) :
    ∃ f, Laid m groups.reverse.flatten groups f := by
  -- the last line comes first: the lines before it, its first word, then its other words
  induction groups with
  | nil => exact absurd rfl some
  | cons group groups ih =>
      obtain ⟨w, more, rfl⟩ := List.exists_cons_of_ne_nil (filled group List.mem_cons_self)
      have whole : ((w :: more) :: groups).reverse.flatten =
          (groups.reverse.flatten ++ [w]) ++ more := by simp
      rw [m.linesOf_reverse_cons] at fits
      have last := fits _ (List.mem_append_right _ List.mem_cons_self)
      rw [whole] at addsUp ⊢
      have first : ∃ f, Laid m (groups.reverse.flatten ++ [w]) ([w] :: groups) f := by
        have room := Nat.le_trans
          (Margin.displayWidth_intercalate_le (List.cons_ne_nil w []) _) last
        rw [String.intercalate_singleton, (addsUp w (by simp)).indent] at room
        by_cases none : groups = []
        · subst none
          exact ⟨_, .first room⟩
        · obtain ⟨f, before⟩ := ih none (fun group hg => filled group (List.mem_cons_of_mem _ hg))
            (fun line hline => fits line (List.mem_append_left _ hline))
            fun v hv => addsUp v (by simp only [List.mem_append]; exact .inl (.inl hv))
          rw [before.indentAfter] at room
          exact ⟨_, before.line room⟩
      obtain ⟨f, laid⟩ := first
      exact laid.exists_words addsUp last

end Laid

theorem Margin.Layout.exists_laid {m : Margin} {ws : List String} {groups : List (List String)}
    (h : m.Layout ws groups) (some : groups ≠ []) (addsUp : ∀ w ∈ ws, m.AddsUp w) :
    ∃ f, Laid m ws groups.reverse f := by
  have flatten : groups.reverse.reverse.flatten = ws := by rw [List.reverse_reverse, h.flatten]
  obtain ⟨f, laid⟩ := Laid.exists_of_fits (m := m) (mt List.reverse_eq_nil_iff.1 some)
    (fun group hg => h.filled group (List.mem_reverse.1 hg))
    (by rw [List.reverse_reverse]; exact h.fits) (by rw [flatten]; exact addsUp)
  rw [flatten] at laid
  exact ⟨f, laid⟩

/-! ### Greedy filling stays ahead -/

namespace Filling

variable {m : Margin} {f g : Filling} {w : String}

/-- As many words in fewer finished lines, or in as many and on a line that is filled no further. -/
def Ahead (f g : Filling) : Prop :=
  f.finished.length < g.finished.length ∨
    f.finished.length = g.finished.length ∧ f.column ≤ g.column

/-- A word that has room on a line of its own is not cut. -/
theorem addWord_of_fits (started : f.started = true)
    (fits : displayWidth m.subsequent + displayWidth w ≤ m.width) :
    (f.column + 1 + displayWidth w ≤ m.width ∧ f.addWord m w = f.append w) ∨
      (m.width < f.column + 1 + displayWidth w ∧ f.addWord m w = (f.breakLine m).append w) := by
  have gap : f.gap = 1 := if_pos started
  rcases f.addWord_cases m w with ⟨_, exceeds, _, added⟩ | ⟨room, added⟩ | ⟨_, long, _⟩
  · exact .inr ⟨exceeds, added⟩
  · exact .inl ⟨by rwa [gap] at room, added⟩
  · exact absurd fits (Nat.not_le.2 (long started))

theorem addWord_start (room : displayWidth m.initial + displayWidth w ≤ m.width) :
    (start m).addWord m w = (start m).append w :=
  addWord_of_room room

/-- A word that the other paragraph has room for on its line.  A paragraph that has finished more lines
has at least the later indent on the one under way. -/
theorem Ahead.word (ahead : f.Ahead g) (started : f.started = true) (gap : g.gap = 1)
    (fits : displayWidth m.subsequent + displayWidth w ≤ m.width)
    (indented : g.finished ≠ [] → displayWidth m.subsequent ≤ g.column)
    (room : g.column + 1 + displayWidth w ≤ m.width) : (f.addWord m w).Ahead (g.append w) := by
  have column : (g.append w).column = g.column + 1 + displayWidth w := by rw [append, gap]
  rcases addWord_of_fits started fits with ⟨_, added⟩ | ⟨exceeds, added⟩
  · have own : (f.append w).column = f.column + 1 + displayWidth w := by
      rw [append, show f.gap = 1 from if_pos started]
    rw [added, Ahead, column, own]
    rcases ahead with fewer | ⟨same, behind⟩
    · exact .inl fewer
    · exact .inr ⟨same, by omega⟩
  -- a new line where the other paragraph goes on with its own uses up a line of the lead
  · have own : ((f.breakLine m).append w).column = displayWidth m.subsequent + displayWidth w := rfl
    have more : f.finished.length < g.finished.length := by
      rcases ahead with fewer | ⟨_, behind⟩
      · exact fewer
      · omega
    have indent := indented (List.ne_nil_of_length_pos (Nat.zero_lt_of_lt more))
    rw [added, Ahead, column, own]
    rcases Nat.lt_or_eq_of_le (Nat.succ_le_of_lt more) with fewer | same
    · exact .inl fewer
    · exact .inr ⟨same, by omega⟩

/-- A word that the other paragraph has on a line of its own. -/
theorem Ahead.line (ahead : f.Ahead g) (started : f.started = true)
    (fits : displayWidth m.subsequent + displayWidth w ≤ m.width) :
    (f.addWord m w).Ahead ((g.breakLine m).append w) := by
  have reached : f.finished.length ≤ g.finished.length := by
    rcases ahead with fewer | ⟨same, _⟩
    · exact Nat.le_of_lt fewer
    · exact Nat.le_of_eq same
  rcases addWord_of_fits started fits with ⟨_, added⟩ | ⟨_, added⟩
  · rw [added]
    exact .inl (Nat.lt_succ_of_le reached)
  · rw [added]
    rcases Nat.lt_or_eq_of_le reached with fewer | same
    · exact .inl (Nat.succ_lt_succ fewer)
    · exact .inr ⟨congrArg (· + 1) same, Nat.le_refl _⟩

end Filling

namespace Laid

variable {m : Margin} {f g : Filling} {w : String} {ws : List String}
  {groups : List (List String)}

/-- A line after the first has the later indent. -/
theorem indented (h : Laid m ws groups f) (later : f.finished ≠ []) :
    displayWidth m.subsequent ≤ f.column := by
  induction h with
  | first _ => exact absurd rfl later
  | word before _ ih =>
      have column := ih later
      show displayWidth m.subsequent ≤ _ + _ + _
      omega
  | line _ _ _ => exact Nat.le_add_right _ _

/-- What greedy filling makes of one word. -/
theorem addWord (h : Laid m ws groups f)
    (fits : displayWidth m.subsequent + displayWidth w ≤ m.width) :
    ∃ groups', Laid m (ws ++ [w]) groups' (f.addWord m w) := by
  rcases Filling.addWord_of_fits h.started fits with ⟨room, added⟩ | ⟨_, added⟩
  · obtain ⟨group, earlier, rfl⟩ := List.exists_cons_of_ne_nil h.ne_nil
    exact ⟨_, added ▸ h.word room⟩
  · exact ⟨_, added ▸ h.line fits⟩

/-- What greedy filling makes of more words. -/
theorem addWords (h : Laid m ws groups f) {more : List String}
    (fits : ∀ w ∈ more, displayWidth m.subsequent + displayWidth w ≤ m.width) :
    ∃ groups', Laid m (ws ++ more) groups' (more.foldl (Filling.addWord m) f) := by
  induction more generalizing ws groups f with
  | nil => exact ⟨groups, by simpa using h⟩
  | cons w more ih =>
      obtain ⟨groups', next⟩ := h.addWord (fits w List.mem_cons_self)
      obtain ⟨groups'', last⟩ := ih next fun v hv => fits v (List.mem_cons_of_mem _ hv)
      exact ⟨groups'', by simpa using last⟩

/-- **Where no word has to be cut, greedy filling is one way to lay the words out.** -/
theorem exists_greedy (indents : displayWidth m.initial ≤ displayWidth m.subsequent)
    (fits : ∀ w ∈ ws, displayWidth m.subsequent + displayWidth w ≤ m.width) (some : ws ≠ []) :
    ∃ groups, Laid m ws groups (ws.foldl (Filling.addWord m) (.start m)) := by
  obtain ⟨w, more, rfl⟩ := List.exists_cons_of_ne_nil some
  have room : displayWidth m.initial + displayWidth w ≤ m.width :=
    Nat.le_trans (Nat.add_le_add_right indents _) (fits w List.mem_cons_self)
  obtain ⟨groups, laid⟩ := (Laid.first room).addWords fun v hv => fits v (List.mem_cons_of_mem _ hv)
  rw [List.foldl_cons, Filling.addWord_start room]
  exact ⟨groups, laid⟩

/-- **Greedy filling stays ahead** of any other way to lay out the same words. -/
theorem ahead (h : Laid m ws groups g)
    (indents : displayWidth m.initial ≤ displayWidth m.subsequent)
    (fits : ∀ w ∈ ws, displayWidth m.subsequent + displayWidth w ≤ m.width) :
    (ws.foldl (Filling.addWord m) (.start m)).Ahead g := by
  induction h with
  | first room =>
      rw [List.foldl_cons, List.foldl_nil, Filling.addWord_start room]
      exact .inr ⟨rfl, Nat.le_refl _⟩
  | word before room ih =>
      have earlier := fun v hv => fits v (List.mem_append_left _ hv)
      obtain ⟨_, greedy⟩ := exists_greedy indents earlier before.words_ne_nil
      rw [List.foldl_append, List.foldl_cons, List.foldl_nil]
      exact (ih earlier).word greedy.started before.gap (fits _ (by simp)) before.indented room
  | line before _ ih =>
      have earlier := fun v hv => fits v (List.mem_append_left _ hv)
      obtain ⟨_, greedy⟩ := exists_greedy indents earlier before.words_ne_nil
      rw [List.foldl_append, List.foldl_cons, List.foldl_nil]
      exact (ih earlier).line greedy.started (fits _ (by simp))

end Laid

/-! ### What wrapping does -/

namespace Margin

variable {m : Margin} {text : String}

/-- A text of which all words have room has the lines of a layout, and no layout has fewer. -/
theorem exists_layout (addsUp : ∀ w ∈ words text, m.AddsUp w)
    (indents : displayWidth m.initial ≤ displayWidth m.subsequent)
    (fits : ∀ w ∈ words text, displayWidth m.subsequent + displayWidth w ≤ m.width)
    (some : words text ≠ []) :
    ∃ groups, m.Layout (words text) groups ∧ m.wrap text = m.linesOf groups ∧
      ∀ others, m.Layout (words text) others → groups.length ≤ others.length := by
  obtain ⟨groups, greedy⟩ := Laid.exists_greedy indents fits some
  refine ⟨groups.reverse, greedy.layout addsUp, ?_, ?_⟩
  · have inked := greedy.inked (fun w hw c hc => words_not_blank hw hc)
      fun w hw => ne_empty_of_mem_words hw
    rw [wrap, inked.lines_eq greedy.started, greedy.lines]
  · intro others layout
    have filled : others ≠ [] := by
      rintro rfl
      exact some layout.flatten.symm
    obtain ⟨g, laid⟩ := layout.exists_laid filled addsUp
    have lines := greedy.length
    have othersLines := laid.length
    rw [List.length_reverse] at othersLines ⊢
    rcases laid.ahead indents fits with fewer | ⟨same, _⟩
    · omega
    · omega

end Margin

/-- **A wrapped text has the fewest lines.** -/
theorem wrapParagraph_fewest (m : Margin) (text : String)
    (addsUp : ∀ w ∈ words text, m.AddsUp w)
    (indents : displayWidth m.initial ≤ displayWidth m.subsequent)
    (fits : ∀ w ∈ words text, displayWidth m.subsequent + displayWidth w ≤ m.width) :
    (words text ≠ [] → ∃ groups, m.Layout (words text) groups ∧
        wrapParagraph text m.width m.initial m.subsequent = m.linesOf groups) ∧
      ∀ groups, m.Layout (words text) groups →
        (wrapParagraph text m.width m.initial m.subsequent).length ≤ max 1 groups.length := by
  by_cases some : words text = []
  · refine ⟨absurd some, fun groups _ => ?_⟩
    have single := congrArg List.length (wrap_of_blank m some)
    exact Nat.le_trans (Nat.le_of_eq single) (Nat.le_max_left _ _)
  · obtain ⟨groups, layout, lines, fewest⟩ := Margin.exists_layout addsUp indents fits some
    refine ⟨fun _ => ⟨groups, layout, lines⟩, fun others other => ?_⟩
    have counted : (m.wrap text).length = groups.length := by rw [lines, m.length_linesOf]
    exact Nat.le_trans (Nat.le_of_eq counted)
      (Nat.le_trans (fewest others other) (Nat.le_max_right _ _))

/-- Four words on two lines: there is no way to have them on one. -/
theorem wrapParagraph_fewest_two :
    (∃ groups, Margin.Layout ⟨9, "* ", "  "⟩ (words "aa bb cc dd") groups ∧
        wrapParagraph "aa bb cc dd" 9 "* " "  " = Margin.linesOf ⟨9, "* ", "  "⟩ groups) ∧
      ∀ groups, Margin.Layout ⟨9, "* ", "  "⟩ (words "aa bb cc dd") groups → 2 ≤ groups.length := by
  have addsUp : ∀ w ∈ words "aa bb cc dd", Margin.AddsUp ⟨9, "* ", "  "⟩ w := fun w _ =>
    Margin.addsUp_of_parting (.inr ⟨"*", rfl⟩) (.inr ⟨" ", rfl⟩) w
  obtain ⟨layout, fewest⟩ :=
    wrapParagraph_fewest ⟨9, "* ", "  "⟩ "aa bb cc dd" addsUp (by decide) (by decide)
  have lines : wrapParagraph "aa bb cc dd" 9 "* " "  " = ["* aa bb", "  cc dd"] := by decide
  refine ⟨layout (by decide), fun groups other => ?_⟩
  have two := fewest groups other
  rw [lines, List.length_cons, List.length_singleton] at two
  omega

/-- A text without words is cut into no lines at all, and has one. -/
theorem more_lines_than_words :
    (∀ w ∈ words "", Margin.AddsUp ⟨80, "* ", "  "⟩ w) ∧
      displayWidth "* " ≤ displayWidth "  " ∧
      (∀ w ∈ words "", displayWidth "  " + displayWidth w ≤ 80) ∧
      Margin.Layout ⟨80, "* ", "  "⟩ (words "") [] ∧
      ([] : List (List String)).length < (wrapParagraph "" 80 "* " "  ").length := by
  have none : words "" = [] := by decide
  rw [none]
  refine ⟨by simp, by decide, by simp, ⟨rfl, by simp, by simp [Margin.linesOf, Margin.indented]⟩, ?_⟩
  decide

end Compliance.Text
