/-
**The column limit.**

A word that has room is counted with its width, and the letters of a word that is cut are counted one
by one.  The two measures differ.  A control character takes a column in a text and is counted for
none, and an emoji that is made of several characters can take more columns than these; so the letters
of a word that is cut can go beyond the limit.  An indent can join with a letter behind it as well.

Where neither happens, no line with two or more characters behind its indent is wider than it may be.
The invariant is that a line takes no more columns than are counted for it.  A line that holds a single
character, as each line does if the indent leaves no room, is left out; such a line ends before the
next character or space.

Main definitions:

* `Margin.Within` — the lines of a wrapped text are within the margin;
* `Margin.Modest` — letters that take no more columns than are counted for them;
* `Filling.Fair` — what is known of a paragraph between two words;
* `Filling.Cutting` — what is known of it while a word is cut.

Main results:

* `Filling.Fair.addWord` — a word of modest letters keeps a paragraph fair;
* `Margin.within_of_modest` — texts of modest letters are within the column limit;
* `wrapParagraph_within_iff` — **and if letters are not modest, a text made of them is not**;
* `Margin.within_of_plain` — texts without control characters and marks for emoji style are.
-/

import Compliance.Proofs.Text.Greedy
import Compliance.Proofs.Text.LineEnds
import Compliance.Proofs.Text.Width

set_option relaxedAutoImplicit false
set_option autoImplicit false

namespace Compliance.Text

/-! ### What is counted -/

/-- A run of letters of a word of a text. -/
def IsRun (text : String) (run : List Char) : Prop :=
  run ≠ [] ∧ ∃ w ∈ words text, run <:+: w.toList

namespace Margin

/-- The lines of a wrapped text that hold two or more characters behind their indent are within the
margin. -/
def Within (m : Margin) (text : String) : Prop :=
  ∀ earlier line later body,
    wrapParagraph text m.width m.initial m.subsequent = earlier ++ line :: later →
      line = m.indentAfter earlier ++ body → 2 ≤ body.length → displayWidth line ≤ m.width

/-- A run of letters that takes no more columns than are counted for it: it joins with neither indent
to something wider, and two or more letters are no wider than one by one. -/
structure Modest (m : Margin) (run : List Char) : Prop where
  initial : displayWidth (m.initial ++ String.ofList run) ≤
    displayWidth m.initial + displayWidth (String.ofList run)
  subsequent : displayWidth (m.subsequent ++ String.ofList run) ≤
    displayWidth m.subsequent + displayWidth (String.ofList run)
  cut : 2 ≤ run.length → displayWidth (String.ofList run) ≤ columns run

variable {m : Margin} {run w : List Char}

theorem Modest.indent (h : m.Modest run) (earlier : List String) :
    displayWidth (m.indentAfter earlier ++ String.ofList run) ≤
      displayWidth (m.indentAfter earlier) + displayWidth (String.ofList run) := by
  cases earlier with
  | nil => exact h.initial
  | cons line earlier => exact h.subsequent

/-- All runs of a word's letters are modest. -/
def Bounded (m : Margin) (w : List Char) : Prop := ∀ run, run ≠ [] → run <:+: w → m.Modest run

/-- A control character takes a column beside other letters, and none is counted for it. -/
theorem Bounded.isControl_eq_false (h : m.Bounded w) (letters : ∀ c ∈ w, isBlank c = false)
    (more : 2 ≤ w.length) {c : Char} (hc : c ∈ w) : isControl c = false := by
  refine Bool.eq_false_iff.2 fun control => ?_
  have letter := letters c hc
  -- it has a letter beside it, and the two of them are a run
  obtain ⟨front, back, rfl⟩ := List.append_of_mem hc
  have beside : ∀ d run, run <:+: front ++ c :: back → run.length = 2 →
      displayWidth (String.ofList run) = 1 + displayWidth (String.ofList [d]) →
      columns run = charWidth d → False := by
    intro d run part two wide counted
    have cut := (h run (by rintro rfl; cases two) part).cut (Nat.le_of_eq two.symm)
    have own := charWidth_le_displayWidth d
    omega
  cases back with
  | cons d back =>
      refine beside d [c, d] ⟨front, back, by simp⟩ rfl ?_ ?_
      · exact displayWidth_control_cons control letter [d]
      · simp [columns, charWidth_of_control control]
  | nil =>
      rcases List.eq_nil_or_concat front with rfl | ⟨front, d, rfl⟩
      · simp at more
      · refine beside d [d, c] ⟨front, [], by simp⟩ rfl ?_ ?_
        · rw [displayWidth_control_pair control letter, Nat.add_comm]
        · simp [columns, charWidth_of_control control]

/-- Letters of a word that has no control characters are no wider than one by one. -/
theorem Bounded.le_columns (h : m.Bounded w) (plain : ∀ c ∈ w, isControl c = false)
    (part : run <:+: w) : displayWidth (String.ofList run) ≤ columns run := by
  match run with
  | [] => exact Nat.le_of_eq rfl
  | [c] =>
      have mem : c ∈ w := part.subset List.mem_cons_self
      exact Nat.le_of_eq (displayWidth_singleton (plain c mem))
  | c :: d :: run => exact (h _ (List.cons_ne_nil _ _) part).cut (by simp)

/-- A line is within the margin, or holds at most one character behind its indent. -/
def Fits (m : Margin) (earlier : List String) (line : String) : Prop :=
  (m.indentAfter earlier).length + 2 ≤ line.length → displayWidth line ≤ m.width

end Margin

namespace Filling

variable {m : Margin} {f : Filling} {w : String}

/-- What is known of a paragraph between two words: a line takes no more columns than are counted,
and these are within the margin, unless the line holds a single character and is full. -/
structure Fair (m : Margin) (f : Filling) : Prop where
  finished : ∀ line earlier, (line :: earlier) <:+ f.finished → m.Fits earlier line
  fresh : f.started = false → f.line = m.indentAfter f.finished ∧ f.column = displayWidth f.line
  counted : f.started = true →
    (displayWidth f.line ≤ f.column ∧
        ((m.indentAfter f.finished).length + 2 ≤ f.line.length → f.column ≤ m.width)) ∨
      (f.line.length ≤ (m.indentAfter f.finished).length + 1 ∧ m.width ≤ f.column)

theorem fair_start (m : Margin) : (start m).Fair m := by
  refine ⟨?_, fun _ => ⟨rfl, rfl⟩, ?_⟩
  · intro line earlier none
    exact absurd (List.suffix_nil.1 none) (List.cons_ne_nil _ _)
  · intro started
    cases started

theorem Fair.fits (h : f.Fair m) : m.Fits f.finished f.line := by
  intro long
  cases started : f.started with
  | false =>
      rw [(h.fresh started).1] at long
      omega
  | true =>
      rcases h.counted started with ⟨width, room⟩ | ⟨short, _⟩
      · exact Nat.le_trans width (room long)
      · omega

theorem finished_cons {finished : List String} {line : String}
    (h : ∀ line earlier, (line :: earlier) <:+ finished → m.Fits earlier line)
    (fits : m.Fits finished line) :
    ∀ line' earlier, (line' :: earlier) <:+ line :: finished → m.Fits earlier line' := by
  intro line' earlier suffix
  rcases List.suffix_cons_iff.1 suffix with same | suffix
  · cases same
    exact fits
  · exact h line' earlier suffix

theorem Fair.breakLine (h : f.Fair m) : (f.breakLine m).Fair m := by
  refine ⟨finished_cons h.finished h.fits, fun _ => ⟨rfl, rfl⟩, ?_⟩
  intro started
  cases started

theorem Fair.append (h : f.Fair m) (modest : m.Modest w.toList)
    (room : f.column + f.gap + displayWidth w ≤ m.width) : (f.append w).Fair m := by
  refine ⟨h.finished, ?_, fun _ => .inl ⟨?_, fun _ => room⟩⟩
  · intro started
    cases started
  show displayWidth ((if f.started then f.line.push ' ' else f.line) ++ w) ≤
    f.column + f.gap + displayWidth w
  cases started : f.started with
  | false =>
      have gap : f.gap = 0 := by rw [Filling.gap, started]; rfl
      obtain ⟨line, column⟩ := h.fresh started
      have joined := modest.indent f.finished
      rw [String.ofList_toList, ← line, ← column] at joined
      rw [if_neg Bool.false_ne_true, gap]
      exact joined
  | true =>
      have gap : f.gap = 1 := by rw [Filling.gap, started]; rfl
      rw [if_pos rfl, gap, push_space_append, displayWidth_append_space]
      rcases h.counted started with ⟨width, _⟩ | ⟨_, full⟩
      · omega
      · omega

/-! ### Words that are cut -/

/-- What is known of a paragraph while a word is cut: the line holds a piece of it behind something
that takes no more columns than are counted, and for the piece the letters are counted one by one. -/
structure Cutting (m : Margin) (f : Filling) (front : String) (base : Nat) (piece : List Char) :
    Prop where
  finished : ∀ line earlier, (line :: earlier) <:+ f.finished → m.Fits earlier line
  line : f.line = front ++ String.ofList piece
  column : f.column = base + columns piece
  joins : ∀ run, run = [] ∨ m.Modest run →
    displayWidth (front ++ String.ofList run) ≤ base + displayWidth (String.ofList run)
  room : (m.indentAfter f.finished).length + 2 ≤ f.line.length → f.column ≤ m.width
  fresh : f.started = false → piece = [] ∧ front = m.indentAfter f.finished

variable {front : String} {base : Nat} {piece : List Char} {c : Char}

theorem Cutting.width_le (h : f.Cutting m front base piece) (modest : piece = [] ∨ m.Modest piece)
    (tight : displayWidth (String.ofList piece) ≤ columns piece) :
    displayWidth f.line ≤ f.column := by
  have joined := h.joins piece modest
  rw [h.line, h.column]
  omega

/-- Cutting starts on a line of its own. -/
theorem Fair.cutting_fresh (h : f.Fair m) (fresh : f.started = false) :
    f.Cutting m (m.indentAfter f.finished) (displayWidth (m.indentAfter f.finished)) [] := by
  obtain ⟨line, column⟩ := h.fresh fresh
  refine ⟨h.finished, ?_, ?_, ?_, ?_, fun _ => ⟨rfl, rfl⟩⟩
  · simp [line]
  · rw [column, line]
    rfl
  · rintro run (rfl | modest)
    · simp
    · exact modest.indent f.finished
  · intro long
    rw [line] at long
    omega

/-- Cutting starts behind a space. -/
theorem Fair.cutting_spaced (h : f.Fair m) (started : f.started = true)
    (space : f.column + 1 < m.width) :
    (⟨f.finished, f.line.push ' ', f.column + 1, true⟩ : Filling).Cutting m (f.line.push ' ')
      (f.column + 1) [] := by
  refine ⟨h.finished, ?_, rfl, ?_, fun _ => Nat.le_of_lt space, ?_⟩
  · simp
  · intro run _
    rw [push_space_append, displayWidth_append_space]
    rcases h.counted started with ⟨width, _⟩ | ⟨_, full⟩
    · omega
    · omega
  · intro fresh
    cases fresh

/-- A letter of a word that is cut. -/
theorem Cutting.addChar (h : f.Cutting m front base piece) (modest : piece = [] ∨ m.Modest piece)
    (tight : displayWidth (String.ofList piece) ≤ columns piece) (c : Char) :
    (f.addChar m c).started = true ∧ ∃ front' base' piece',
      (f.addChar m c).Cutting m front' base' piece' ∧ piece' <:+ piece ++ [c] := by
  by_cases full : f.started = true ∧ m.width < f.column + charWidth c
  -- the line ends with the piece that is on it, and the next piece starts with the letter
  · rw [addChar_of_full full.1 full.2]
    have fits : m.Fits f.finished f.line := fun long =>
      Nat.le_trans (h.width_le modest tight) (h.room long)
    refine ⟨rfl, m.subsequent, displayWidth m.subsequent, [c], ⟨?_, ?_, ?_, ?_, ?_, ?_⟩, ?_⟩
    · exact finished_cons h.finished fits
    · exact String.toList_injective (by simp)
    · rfl
    · rintro run (rfl | modest)
      · simp
      · exact modest.subsequent
    · intro long
      simp [String.length_push] at long
    · intro fresh
      cases fresh
    · exact List.suffix_append piece [c]
  · have room : f.started = true → f.column + charWidth c ≤ m.width := fun started =>
      Nat.le_of_not_lt fun exceeds => full ⟨started, exceeds⟩
    rw [addChar_of_room room]
    refine ⟨rfl, front, base, piece ++ [c], ⟨h.finished, ?_, ?_, h.joins, ?_, ?_⟩,
      List.suffix_rfl⟩
    · rw [h.line, push_append_ofList]
    · rw [h.column, columns_append, columns_singleton, Nat.add_assoc]
    · intro long
      cases started : f.started with
      | true => exact room started
      | false =>
          obtain ⟨rfl, rfl⟩ := h.fresh started
          rw [h.line] at long
          simp [String.length_push] at long
    · intro fresh
      cases fresh

/-- The letters of a word that is cut, from some letter on. -/
theorem Cutting.addChars {w part rest : List Char} (h : f.Cutting m front base piece)
    (split : w = part ++ rest) (suffix : piece <:+ part) (bounded : m.Bounded w)
    (plain : ∀ c ∈ w, isControl c = false) (started : f.started = true ∨ rest ≠ []) :
    (rest.foldl (Filling.addChar m) f).Fair m := by
  have run : ∀ {r : List Char}, r <:+: w → r = [] ∨ m.Modest r := fun {r} part =>
    Classical.or_iff_not_imp_left.2 fun filled => bounded r filled part
  have inside : piece <:+: w := by
    rw [split]
    exact suffix.isInfix.trans (List.prefix_append _ _).isInfix
  have tight := bounded.le_columns plain inside
  -- the piece on the line is always the end of what is placed of the word, hence a run of its letters
  induction rest generalizing f front base piece part with
  | nil =>
      have holds : f.started = true := started.resolve_right (· rfl)
      refine ⟨h.finished, ?_, fun _ => .inl ⟨h.width_le (run inside) tight, h.room⟩⟩
      intro fresh
      cases holds.symm.trans fresh
  | cons c rest ih =>
      obtain ⟨holds, front', base', piece', next, among⟩ := h.addChar (run inside) tight c
      have among' : piece' <:+ part ++ [c] := by
        obtain ⟨before, rfl⟩ := suffix
        rw [List.append_assoc]
        exact among.trans (List.suffix_append before _)
      have split' : w = (part ++ [c]) ++ rest := by simpa using split
      have inside' : piece' <:+: w := by
        rw [split']
        exact among'.isInfix.trans (List.prefix_append _ _).isInfix
      exact ih next split' among' (.inl holds) inside' (bounded.le_columns plain inside')

/-- A word that is cut, if it has no control characters. -/
theorem Fair.cut (h : f.Fair m) {cs : List Char} (filled : cs ≠ []) (bounded : m.Bounded cs)
    (plain : ∀ c ∈ cs, isControl c = false) :
    (cs.foldl (Filling.addChar m) (f.beforeCut m)).Fair m := by
  cases started : f.started with
  | false =>
      rw [beforeCut_of_unstarted started]
      exact (h.cutting_fresh started).addChars (List.nil_append _).symm List.suffix_rfl bounded plain
        (.inr filled)
  | true =>
      by_cases space : f.column + 1 < m.width
      · rw [beforeCut_of_room started space]
        exact (h.cutting_spaced started space).addChars (List.nil_append _).symm List.suffix_rfl
          bounded plain (.inr filled)
      · rw [beforeCut_of_full started (Nat.le_of_not_lt space)]
        exact (h.breakLine.cutting_fresh rfl).addChars (List.nil_append _).symm List.suffix_rfl
          bounded plain (.inr filled)

/-- A word of a single control character that is cut: it comes first on a line that is full. -/
theorem Fair.cutControl (h : f.Fair m) (control : isControl c = true) (letter : isBlank c = false)
    (exceeds : m.width < f.column + f.gap + displayWidth (String.ofList [c]))
    (long : f.started = true →
      m.width < displayWidth m.subsequent + displayWidth (String.ofList [c])) :
    ((f.beforeCut m).addChar m c).Fair m := by
  have own : displayWidth (String.ofList [c]) = 1 := displayWidth_control_cons control letter []
  rw [own] at exceeds long
  -- it is counted for no column, so that the line is full after it only if the indent has filled it
  have put : ∀ {g : Filling}, g.Fair m → g.started = false → m.width ≤ g.column →
      (g.addChar m c).Fair m := by
    intro g fair fresh full
    obtain ⟨line, _⟩ := fair.fresh fresh
    rw [addChar_of_room (by simp [fresh]), charWidth_of_control control]
    refine ⟨fair.finished, ?_, fun _ => .inr ⟨?_, full⟩⟩
    · intro again
      cases again
    · exact Nat.le_of_eq (by rw [line, String.length_push])
  cases started : f.started with
  | false =>
      have gap : f.gap = 0 := by rw [Filling.gap, started]; rfl
      rw [beforeCut_of_unstarted started]
      exact put h started (by omega)
  | true =>
      have gap : f.gap = 1 := by rw [Filling.gap, started]; rfl
      rw [beforeCut_of_full started (by omega)]
      exact put h.breakLine rfl (Nat.le_of_lt_succ (long started))

/-- **A word keeps a paragraph fair**, if all runs of its letters are modest. -/
theorem Fair.addWord (h : f.Fair m) (filled : w ≠ "") (letters : ∀ c ∈ w.toList, isBlank c = false)
    (bounded : m.Bounded w.toList) : (f.addWord m w).Fair m := by
  have some : w.toList ≠ [] := mt String.toList_eq_nil_iff.1 filled
  have modest : m.Modest w.toList := bounded _ some List.infix_rfl
  rcases f.addWord_cases m w with ⟨_, _, fits, added⟩ | ⟨room, added⟩ | ⟨exceeds, long, added⟩
  · rw [added]
    refine h.breakLine.append modest ?_
    simpa [Filling.breakLine, Filling.gap] using fits
  · rw [added]
    exact h.append modest room
  · rw [added]
    -- one control character alone is wider than what is counted for it
    by_cases plain : ∀ c ∈ w.toList, isControl c = false
    · exact h.cut some bounded plain
    · simp only [Classical.not_forall, Bool.not_eq_false] at plain
      obtain ⟨c, hc, control⟩ := plain
      have one : w.toList = [c] := by
        have short : ¬2 ≤ w.toList.length := fun more => by
          have none := bounded.isControl_eq_false letters more hc
          rw [control] at none
          cases none
        have single : w.toList.length = 1 := by
          have more := List.length_pos_iff.2 some
          omega
        obtain ⟨d, alone⟩ := List.length_eq_one_iff.1 single
        rw [alone, List.mem_singleton] at hc
        rw [alone, hc]
      have word : w = String.ofList [c] := by rw [← one, String.ofList_toList]
      rw [one]
      rw [word] at exceeds long
      exact h.cutControl control (letters c hc) exceeds long

theorem Fair.addWords (h : f.Fair m) (inked : f.Inked) {ws : List String}
    (filled : ∀ w ∈ ws, w ≠ "") (letters : ∀ w ∈ ws, ∀ c ∈ w.toList, isBlank c = false)
    (bounded : ∀ w ∈ ws, m.Bounded w.toList) :
    (ws.foldl (Filling.addWord m) f).Fair m ∧ (ws.foldl (Filling.addWord m) f).Inked := by
  induction ws generalizing f with
  | nil => exact ⟨h, inked⟩
  | cons w ws ih =>
      have first := filled w List.mem_cons_self
      have firstLetters := letters w List.mem_cons_self
      refine ih (h.addWord first firstLetters (bounded w List.mem_cons_self))
        (ends_addWord (m := m) inked firstLetters first).1 ?_ ?_ ?_
      · exact fun v hv => filled v (List.mem_cons_of_mem _ hv)
      · exact fun v hv => letters v (List.mem_cons_of_mem _ hv)
      · exact fun v hv => bounded v (List.mem_cons_of_mem _ hv)

theorem length_trimEnd_le (s : String) : (trimEnd s).length ≤ s.length := by
  have shorter := (List.dropWhile_sublist (l := s.toList.reverse) isBlank).length_le
  simpa [trimEnd, dropBlankEnd, ← String.length_toList] using shorter

/-- The line under way fits also when its end is trimmed. -/
theorem Fair.fits_trimEnd (h : f.Fair m) (inked : f.Inked) : m.Fits f.finished (trimEnd f.line) := by
  cases started : f.started with
  | true =>
      rw [trimEnd_of_not_endsBlank (inked started)]
      exact h.fits
  | false =>
      intro long
      have shorter := length_trimEnd_le f.line
      rw [(h.fresh started).1] at shorter long
      omega

/-- The lines of a fair paragraph fit. -/
theorem Fair.fits_lines (h : f.Fair m) (inked : f.Inked) {earlier later : List String} {line : String}
    (split : f.lines = earlier ++ line :: later) : m.Fits earlier line := by
  have all := finished_cons h.finished (h.fits_trimEnd inked)
  have among : (line :: earlier.reverse) <:+ trimEnd f.line :: f.finished := by
    have reversed := congrArg List.reverse split
    rw [List.reverse_append, List.reverse_cons, List.append_assoc, List.singleton_append] at reversed
    have suffix : (line :: earlier.reverse) <:+ f.lines.reverse := ⟨later.reverse, reversed.symm⟩
    unfold lines at suffix
    split at suffix
    · rwa [List.reverse_reverse] at suffix
    · rw [List.reverse_reverse] at suffix
      exact suffix.trans (List.suffix_cons _ _)
  have fits := all line earlier.reverse among
  simpa [Margin.Fits, Margin.indentAfter] using fits

end Filling

/-- **A text whose runs of letters are modest is within the column limit.** -/
theorem Margin.within_of_modest {m : Margin} {text : String}
    (modest : ∀ run, IsRun text run → m.Modest run) : m.Within text := by
  have bounded : ∀ w ∈ words text, m.Bounded w.toList := fun w hw run filled part =>
    modest run ⟨filled, w, hw, part⟩
  obtain ⟨fair, inked⟩ := (Filling.fair_start m).addWords (Filling.inked_start m)
    (fun w hw => ne_empty_of_mem_words hw) (fun w hw c hc => words_not_blank hw hc) bounded
  intro earlier line later body split behind two
  refine fair.fits_lines inked split ?_
  rw [behind, String.length_append]
  omega

/-! ### Texts beyond the limit -/

section Beyond

variable {m : Margin} {f : Filling} {text : String} {w : String} {cs run : List Char}

theorem IsRun.not_blank (h : IsRun text run) : ∀ c ∈ run, isBlank c = false := by
  obtain ⟨_, w, hw, part⟩ := h
  exact fun c hc => words_not_blank hw (part.subset hc)

theorem IsRun.trans {text' : String} (made : ∀ w ∈ words text', IsRun text w.toList)
    (h : IsRun text' run) : IsRun text run := by
  obtain ⟨filled, w, hw, part⟩ := h
  obtain ⟨_, w', hw', part'⟩ := made w hw
  exact ⟨filled, w', hw', part.trans part'⟩

/-- Letters that have room are put on the line. -/
theorem Filling.foldl_addChar_of_room (room : f.column + columns cs ≤ m.width) :
    cs.foldl (Filling.addChar m) f =
      ⟨f.finished, f.line ++ String.ofList cs, f.column + columns cs, f.started || !cs.isEmpty⟩ := by
  induction cs generalizing f with
  | nil => simp
  | cons c cs ih =>
      rw [columns, ← Nat.add_assoc] at room
      rw [List.foldl_cons, addChar_of_room fun _ => by omega, ih room, Filling.mk.injEq]
      refine ⟨rfl, ?_, ?_, ?_⟩
      · exact String.toList_injective (by simp)
      · rw [columns, Nat.add_assoc]
      · simp

/-- A margin in which a line holds a word twice behind its indent. -/
def Margin.holdingTwice (s w : String) : Margin :=
  ⟨displayWidth s + displayWidth w + 1 + displayWidth w, s, s⟩

theorem Margin.wrap_twice (s : String) (filled : w ≠ "") (letters : ∀ c ∈ w.toList, isBlank c = false) :
    (Margin.holdingTwice s w).wrap (w ++ " " ++ w) = [s ++ (w ++ " " ++ w)] := by
  have twice : words (w ++ " " ++ w) = [w, w] := by
    rw [words_append_space, words_of_letters filled letters]
    rfl
  have once : (Filling.start (holdingTwice s w)).addWord (holdingTwice s w) w =
      (Filling.start (holdingTwice s w)).append w := by
    refine Filling.addWord_of_room ?_
    show displayWidth s + 0 + displayWidth w ≤ displayWidth s + displayWidth w + 1 + displayWidth w
    omega
  have again : ((Filling.start (holdingTwice s w)).append w).addWord (holdingTwice s w) w =
      ((Filling.start (holdingTwice s w)).append w).append w :=
    Filling.addWord_of_room (Nat.le_refl _)
  rw [Margin.wrap, twice, List.foldl_cons, once, List.foldl_cons, again, List.foldl_nil,
    (Filling.inked_append letters filled).lines_eq rfl]
  show [(s ++ w).push ' ' ++ w] = [s ++ (w ++ " " ++ w)]
  rw [push_space_append, String.append_assoc, String.append_assoc, String.append_assoc]

/-- A margin without indents that has the columns of a word's letters one by one. -/
def Margin.holdingLetters (w : String) : Margin := ⟨columns w.toList, "", ""⟩

theorem Margin.wrap_letters (filled : w ≠ "") (letters : ∀ c ∈ w.toList, isBlank c = false)
    (wide : columns w.toList < displayWidth w) : (Margin.holdingLetters w).wrap w = [w] := by
  have cut : (Filling.start (holdingLetters w)).addWord (holdingLetters w) w =
      ⟨[], w, columns w.toList, true⟩ := by
    have none : w.toList.isEmpty = false := by simpa using filled
    have indent : displayWidth "" = 0 := rfl
    rcases (Filling.start (holdingLetters w)).addWord_cases (holdingLetters w) w with
      ⟨started, _⟩ | ⟨room, _⟩ | ⟨_, _, added⟩
    · cases started
    · have fits : 0 + 0 + displayWidth w ≤ columns w.toList := room
      omega
    · rw [added, Filling.beforeCut_of_unstarted rfl, Filling.foldl_addChar_of_room, none,
        String.ofList_toList]
      · simp [Filling.start, holdingLetters, indent]
      · exact Nat.le_of_eq (Nat.zero_add _)
  have inked : (⟨[], w, columns w.toList, true⟩ : Filling).Inked := fun _ =>
    endsBlank_of_letters letters
  rw [Margin.wrap, words_of_letters filled letters, List.foldl_cons, cut, List.foldl_nil,
    inked.lines_eq rfl]
  rfl

/-- Where one line is all of a text. -/
theorem Margin.Within.single {body : String} (within : m.Within text)
    (single : m.wrap text = [m.initial ++ body]) (two : 2 ≤ body.length) :
    displayWidth (m.initial ++ body) ≤ m.width :=
  within [] _ [] body single rfl two

/-- A word that joins with an indent to something wider is on a line beyond the limit. -/
theorem Margin.Within.joins {s : String} (filled : w ≠ "")
    (letters : ∀ c ∈ w.toList, isBlank c = false)
    (within : (Margin.holdingTwice s w).Within (w ++ " " ++ w)) :
    displayWidth (s ++ w) ≤ displayWidth s + displayWidth w := by
  have two : 2 ≤ (w ++ " " ++ w).length := by
    have some : 0 < w.length := by simpa [Nat.pos_iff_ne_zero] using filled
    simp only [String.length_append]
    omega
  have line : displayWidth (s ++ (w ++ " " ++ w)) ≤
      displayWidth s + displayWidth w + 1 + displayWidth w :=
    within.single (Margin.wrap_twice s filled letters) two
  rw [← String.append_assoc, ← String.append_assoc, displayWidth_append_space] at line
  omega

/-- A word wider than its letters is on a line beyond the limit. -/
theorem Margin.Within.cut (two : 2 ≤ w.toList.length) (letters : ∀ c ∈ w.toList, isBlank c = false)
    (within : (Margin.holdingLetters w).Within w) : displayWidth w ≤ columns w.toList := by
  refine Nat.le_of_not_lt fun wide => ?_
  have filled : w ≠ "" := by
    rintro rfl
    cases two
  have line := within.single (Margin.wrap_letters filled letters wide) two
  exact Nat.not_lt.2 line wide

end Beyond

/-- **The column limit.**  A text is within it if all runs of its words' letters are modest.  And if
not all of them are, in whatever margin, then some words made of these runs go beyond the limit. -/
theorem wrapParagraph_within_iff (text : String) :
    (∀ m : Margin, (∀ run, IsRun text run → m.Modest run) → m.Within text) ∧
      ((∀ (m : Margin) (text' : String), (∀ w ∈ words text', IsRun text w.toList) →
          m.Within text') ↔
        ∀ (m : Margin) (run : List Char), IsRun text run → m.Modest run) := by
  refine ⟨fun _ => Margin.within_of_modest, ?_, ?_⟩
  -- a run that is not modest is itself a word that goes beyond some margin
  · intro within m run isRun
    have letters : ∀ c ∈ (String.ofList run).toList, isBlank c = false := by
      rw [String.toList_ofList]
      exact isRun.not_blank
    have filled : String.ofList run ≠ "" := by simpa using isRun.1
    have once := words_of_letters filled letters
    have isWord : IsRun text (String.ofList run).toList := by rwa [String.toList_ofList]
    have joins : ∀ s, displayWidth (s ++ String.ofList run) ≤
        displayWidth s + displayWidth (String.ofList run) := by
      refine fun s => Margin.Within.joins filled letters (within _ _ ?_)
      simpa [words_append_space, once] using isRun
    refine ⟨joins m.initial, joins m.subsequent, fun two => ?_⟩
    rw [← String.toList_ofList (l := run)] at two
    have cut := Margin.Within.cut two letters (within _ _ (by simpa [once] using isRun))
    rwa [String.toList_ofList] at cut
  · intro modest m text' made
    exact Margin.within_of_modest fun run isRun => modest m run (isRun.trans made)

/-- A control character, and two emoji, on lines that are wider than what is counted for them. -/
theorem not_within_of_control :
    wrapParagraph "a\x01b" 4 "* " "  " = ["* a\x01b"] ∧ displayWidth "* a\x01b" = 5 ∧
      ¬(⟨4, "* ", "  "⟩ : Margin).Within "a\x01b" ∧
      wrapParagraph "❤️❤️" 4 "* " "  " = ["* ❤️❤️"] ∧ displayWidth "* ❤️❤️" = 6 := by
  have control : wrapParagraph "a\x01b" 4 "* " "  " = ["* " ++ "a\x01b"] := by decide +kernel
  have wide : displayWidth ("* " ++ "a\x01b") = 5 := by decide +kernel
  refine ⟨control, wide, ?_, by decide +kernel, by decide +kernel⟩
  intro within
  have line := within [] _ [] _ control rfl (by decide)
  rw [wide] at line
  exact absurd line (by decide)

/-! ### Plain texts -/

/-- Without control characters and marks for emoji style, a text is no wider than its letters. -/
theorem displayWidth_le_columns {cs : List Char}
    (plain : ∀ c ∈ cs, isControl c = false ∧ c.toNat ≠ emojiStyleMark) :
    displayWidth (String.ofList cs) ≤ columns cs := by
  have saved : (widthFrom cs).1 + (widthFrom cs).2.opening.saved ≤ columns cs ∧
      (widthFrom cs).2.emojiStyle = false := by
    induction cs with
    | nil => decide
    | cons c cs ih =>
        obtain ⟨rest, style⟩ := ih fun d hd => plain d (List.mem_cons_of_mem _ hd)
        obtain ⟨control, mark⟩ := plain c List.mem_cons_self
        obtain ⟨step, style'⟩ := saved_widthBefore control mark style
        rw [widthFrom_cons, columns]
        refine ⟨?_, style'⟩
        show (widthBefore c (widthFrom cs).2).1 + (widthFrom cs).1 +
          (widthBefore c (widthFrom cs).2).2.opening.saved ≤ _
        omega
  have kept := (widthFrom cs).2.opening.saved_nonneg
  have width := displayWidth_eq (String.ofList cs)
  rw [String.toList_ofList] at width
  omega

/-- An indent that is empty or ends in a space. -/
def Parting (indent : String) : Prop := indent = "" ∨ ∃ front, indent = front ++ " "

theorem Parting.displayWidth_append {indent : String} (h : Parting indent) (s : String) :
    displayWidth (indent ++ s) = displayWidth indent + displayWidth s := by
  have none : displayWidth "" = 0 := rfl
  rcases h with rfl | ⟨front, rfl⟩
  · rw [String.empty_append, none, Nat.zero_add]
  · have indent := displayWidth_append_space front ""
    rw [String.append_empty] at indent
    rw [displayWidth_append_space, indent, none, Nat.add_zero]

/-- A text without control characters and marks for emoji style is within the column limit. -/
theorem Margin.within_of_plain {m : Margin} {text : String} (initial : Parting m.initial)
    (subsequent : Parting m.subsequent)
    (plain : ∀ c ∈ text.toList, isControl c = false ∧ c.toNat ≠ emojiStyleMark) :
    m.Within text := by
  refine Margin.within_of_modest fun run isRun => ?_
  obtain ⟨_, w, hw, part⟩ := isRun
  refine ⟨Nat.le_of_eq (initial.displayWidth_append _),
    Nat.le_of_eq (subsequent.displayWidth_append _), fun _ => displayWidth_le_columns ?_⟩
  intro c hc
  exact plain c (mem_of_mem_words hw (part.subset hc))

end Compliance.Text
