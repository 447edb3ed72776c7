/-
**Greedy lines.**

Where a text is as wide as its characters together, the columns counted for a line are its width.
Then a line is within the margin unless it holds a single letter, a word that has room on a line of
its own is on one line, and a line ends only where the next word or letter has no room on it.

Main definitions:

* `columns`, `Summed` — the columns of characters one by one, and texts that are as wide;
* `Margin.Measured` — a text of which this holds in a paragraph;
* `Margin.Stops` — what had no room where a line ends;
* `Greedy` — lines that are filled greedily.

Main results:

* `Course.counted` — **the columns counted are those of the characters**;
* `exists_row` — letters in a row are on one line if no line ends among them;
* `wrapParagraph_greedy` — wrapping fills lines greedily.
-/

import Compliance.Proofs.Text.Bodies
import Compliance.Proofs.Text.Width

set_option relaxedAutoImplicit false
set_option autoImplicit false

namespace Compliance.Text

open Letter

/-! ### Columns of characters -/

/-- The columns of characters, each taken by itself. -/
def columns : List Char → Nat
  | [] => 0
  | c :: cs => charWidth c + columns cs

@[simp] theorem columns_nil : columns [] = 0 := rfl

@[simp] theorem columns_singleton (c : Char) : columns [c] = charWidth c := rfl

@[simp] theorem columns_append (cs ds : List Char) :
    columns (cs ++ ds) = columns cs + columns ds := by
  induction cs with
  | nil => simp
  | cons c cs ih => rw [List.cons_append, columns, ih, columns, Nat.add_assoc]

@[simp] theorem charWidth_space : charWidth ' ' = 1 := by decide

/-- A text that is as wide as its characters together. -/
def Summed (s : String) : Prop := displayWidth s = columns s.toList

instance (s : String) : Decidable (Summed s) :=
  inferInstanceAs (Decidable (displayWidth s = columns s.toList))

theorem summed_of_push_space {s : String} (h : Summed (s.push ' ')) : Summed s := by
  rw [Summed, displayWidth_push_space, String.toList_push, columns_append, columns_singleton,
    charWidth_space] at h
  exact Nat.succ.inj h

theorem columns_spelled_concat (row : List Letter) (c : Char) (opens : Bool) :
    columns (spelled (row ++ [⟨c, opens⟩])) =
      columns (spelled row) + (if row = [] ∨ opens = false then 0 else 1) + charWidth c := by
  rw [spelled_concat, columns_append, columns_append, columns_singleton]
  split
  · rfl
  · rw [columns_singleton, charWidth_space]

theorem columns_spelled_append_ofWord (row : List Letter) {w : String} (h : w ≠ "") :
    columns (spelled (row ++ ofWord w.toList)) =
      columns (spelled row) + (if row = [] then 0 else 1) + columns w.toList := by
  by_cases hrow : row = []
  · subst hrow
    simp
  · rw [spelled_append hrow, flatMap_spaced_ofWord (mt String.toList_eq_nil_iff.1 h), if_neg hrow,
      columns_append, ← List.singleton_append, columns_append, columns_singleton,
      charWidth_space, Nat.add_assoc]

/-! ### The columns counted for a line -/

/-- What is known of the columns counted for a line that comes after others. -/
structure Margin.Counted (m : Margin) (earlier : List Break) (row : List Letter) (column : Nat) :
    Prop where
  /-- They are those of its characters. -/
  exact : column = columns (m.indentAfter earlier).toList + columns (spelled row)
  /-- They are within the margin, unless the line holds one letter at most. -/
  within : row.length ≤ 1 ∨ column ≤ m.width

/-- **The columns counted for the lines of a course are those of their characters.** -/
theorem Course.counted {m : Margin} {ws : List String} {d : Draft} (h : Course m ws d)
    (initial : Summed m.initial) (subsequent : Summed m.subsequent) (words : ∀ w ∈ ws, Summed w) :
    m.Counted d.breaks d.row d.column ∧
      ∀ b earlier, (b :: earlier) <:+ d.breaks → m.Counted earlier b.row b.column := by
  induction h with
  | start =>
      refine ⟨⟨initial, .inl (Nat.zero_le _)⟩, ?_⟩
      intro b earlier none
      exact absurd (List.suffix_nil.1 none) (List.cons_ne_nil _ _)
  | meets _ _ ih => exact ih
  | breaks _ _ _ ih =>
      refine ⟨⟨subsequent, .inl (Nat.zero_le _)⟩, ?_⟩
      intro b earlier suffix
      rcases List.suffix_cons_iff.1 suffix with same | suffix
      · cases same
        exact ih.1
      · exact ih.2 b earlier suffix
  | @fits bs row column columns' before w met filled counted room ih =>
      refine ⟨⟨?_, .inr room⟩, ih.2⟩
      -- the word is one of the text
      obtain ⟨after, hws⟩ := met.known.place (by simpa using filled)
      have word : displayWidth w = columns w.toList := by
        refine words w ?_
        rw [hws, List.nil_append, String.ofList_toList]
        simp
      have line : column = columns (m.indentAfter bs).toList + columns (spelled row) := ih.1.exact
      have gap : Draft.gap ⟨bs, row, column, ⟨before, [], w.toList⟩⟩ =
          if row = [] then 0 else 1 := by
        simp [Draft.gap]
      change columns' = columns (m.indentAfter bs).toList + columns (spelled (row ++ ofWord w.toList))
      rw [columns_spelled_append_ofWord row filled, counted, gap, word, line]
      simp only [Nat.add_assoc]
  | @puts bs row column columns' before part c cs _ _ counted room ih =>
      refine ⟨⟨?_, ?_⟩, ih.2⟩
      · have line : column = columns (m.indentAfter bs).toList + columns (spelled row) := ih.1.exact
        have gap : Draft.gap ⟨bs, row, column, ⟨before, part, c :: cs⟩⟩ =
            if row = [] ∨ part.isEmpty = false then 0 else 1 := by
          simp [Draft.gap]
        change columns' = columns (m.indentAfter bs).toList +
          columns (spelled (row ++ [⟨c, part.isEmpty⟩]))
        rw [columns_spelled_concat, counted, gap, line]
        simp only [Nat.add_assoc]
      · by_cases hrow : row = []
        · subst hrow
          exact .inl (Nat.le_refl 1)
        · exact .inr (room hrow)
  | closes _ _ ih => exact ih

/-! ### Widths of lines -/

/-- A finished line with its indent. -/
def Break.line (m : Margin) (earlier : List Break) (b : Break) : String :=
  m.indentAfter earlier ++ String.ofList b.body

/-- What is known of a line that comes after others. -/
structure Break.Laid (m : Margin) (earlier : List Break) (b : Break) : Prop where
  /-- It holds letters. -/
  filled : b.row ≠ []
  inked : ∀ l ∈ b.row, isBlank l.char = false
  /-- The columns counted for it are those of its characters, and it is as wide as these. -/
  counted : m.Counted earlier b.row b.column
  summed : Summed (b.line m earlier)

section Lines

variable {m : Margin} {earlier : List Break} {b : Break}

theorem Break.Laid.displayWidth_line (laid : b.Laid m earlier) :
    displayWidth (b.line m earlier) = b.column + if b.spaced then 1 else 0 := by
  rw [laid.summed, laid.counted.exact, Break.line, Break.body, String.toList_append,
    String.toList_ofList, columns_append, columns_append, Nat.add_assoc]
  cases b.spaced with
  | true => simp
  | false => rfl

/-- Without a space at its end a line is as wide as counted. -/
theorem Break.Laid.displayWidth_trimEnd (laid : b.Laid m earlier) :
    displayWidth (trimEnd (b.line m earlier)) = b.column := by
  have ends := trimEnd_append_spelled laid.filled laid.inked (m.indentAfter earlier)
  cases spaced : b.spaced with
  | false =>
      have line := laid.displayWidth_line
      rw [spaced] at line
      have whole : b.line m earlier = m.indentAfter earlier ++ String.ofList (spelled b.row) := by
        simp [Break.line, Break.body, spaced]
      rw [whole, ends, ← whole]
      exact line
  | true =>
      have whole : b.line m earlier =
          (m.indentAfter earlier ++ String.ofList (spelled b.row)).push ' ' := by
        rw [push_append_ofList, Break.line, Break.body, spaced]
        rfl
      have summed := laid.summed
      rw [whole] at summed
      rw [whole, trimEnd_push_space, ends, summed_of_push_space summed, laid.counted.exact]
      simp

/-- A line is within the margin or holds one letter. -/
theorem Break.Laid.fits (laid : b.Laid m earlier)
    (room : b.spaced = true → b.column + 1 ≤ m.width) :
    displayWidth (b.line m earlier) ≤ m.width ∨ b.body.length = 1 := by
  have width := laid.displayWidth_line
  cases spaced : b.spaced with
  | true =>
      rw [spaced, if_pos rfl] at width
      rw [width]
      exact .inl (room spaced)
  | false =>
      rw [spaced, if_neg Bool.false_ne_true, Nat.add_zero] at width
      rw [width]
      refine laid.counted.within.symm.imp_right fun one => ?_
      obtain ⟨l, ls, row⟩ := List.exists_cons_of_ne_nil laid.filled
      rw [row, List.length_cons] at one
      have alone : ls = [] := List.length_eq_zero_iff.1 (by omega)
      rw [Break.body, spaced, row, alone]
      rfl

/-- What had no room where a line ends: part of a word is on it, and `c :: rest` is not. -/
structure Margin.Stops (m : Margin) (line : String) (part : List Char) (c : Char)
    (rest : List Char) : Prop where
  /-- Between words it is the next word, behind a space. -/
  between : part = [] →
    m.width < displayWidth (trimEnd line) + 1 + displayWidth (String.ofList (c :: rest))
  /-- If that is too long for any line, it is its first letter, counted as one column at least. -/
  opening : part = [] →
    m.width < displayWidth m.subsequent + displayWidth (String.ofList (c :: rest)) →
    m.width < displayWidth (trimEnd line) + 1 + max 1 (charWidth c)
  /-- Inside a word it is the next letter. -/
  inside : part ≠ [] → m.width < displayWidth line + charWidth c

/-- **A line ends only where something has no room on it.** -/
theorem Break.Forced.stops (forced : b.Forced m) (laid : b.Laid m earlier) :
    ∃ c rest, b.place.rest = c :: rest ∧ m.Stops (b.line m earlier) b.place.part c rest := by
  have trimmed := laid.displayWidth_trimEnd
  have width := laid.displayWidth_line
  cases forced with
  | @moves row column before c cs exceeds fits =>
      refine ⟨c, cs, rfl, ?_, ?_, absurd rfl⟩
      · intro _
        rwa [trimmed]
      · intro _ long
        exact absurd fits (Nat.not_le.2 long)
  | @full row column before c cs exceeds _ noSpace =>
      refine ⟨c, cs, rfl, ?_, ?_, absurd rfl⟩
      · intro _
        rwa [trimmed]
      · intro _ _
        rw [trimmed]
        exact Nat.lt_of_lt_of_le (Nat.lt_succ_of_le noSpace)
          (Nat.add_le_add_left (Nat.le_max_left 1 (charWidth c)) (column + 1))
  | @strands row column before c cs exceeds _ _ noRoom =>
      refine ⟨c, cs, rfl, ?_, ?_, absurd rfl⟩
      · intro _
        rwa [trimmed]
      · intro _ _
        rw [trimmed]
        exact Nat.lt_of_lt_of_le noRoom
          (Nat.add_le_add_left (Nat.le_max_right 1 (charWidth c)) (column + 1))
  | @within row column before part c cs under _ noRoom =>
      refine ⟨c, cs, rfl, fun none => absurd none under, fun none => absurd none under, ?_⟩
      intro _
      rw [width]
      exact noRoom

end Lines

/-! ### Letters in a row -/

/-- Letters in a row are on one line if no line ends among them. -/
theorem exists_row {lines : List Break} {front run back : List Letter}
    (h : held lines = front ++ (run ++ back)) (hrun : run ≠ [])
    (whole : ∀ b earlier run₁ run₂, (b :: earlier) <:+ lines.tail → run = run₁ ++ run₂ →
      held (b :: earlier) = front ++ run₁ → run₁ = [] ∨ run₂ = []) :
    ∃ b earlier left right, (b :: earlier) <:+ lines ∧ b.row = left ++ (run ++ right) ∧
      held earlier ++ left = front := by
  induction lines generalizing back with
  | nil =>
      have none := List.append_eq_nil_iff.1 (List.append_eq_nil_iff.1 h.symm).2
      exact absurd none.1 hrun
  | cons b lines ih =>
      have onEarlier : ∀ {back' : List Letter}, held lines = front ++ (run ++ back') →
          ∃ b' earlier left right, (b' :: earlier) <:+ (b :: lines) ∧
            b'.row = left ++ (run ++ right) ∧ held earlier ++ left = front := by
        intro back' h'
        obtain ⟨b', earlier, left, right, suffix, onLine⟩ := ih h' fun b' earlier run₁ run₂ suffix =>
          whole b' earlier run₁ run₂ (suffix.trans (List.tail_suffix lines))
        exact ⟨b', earlier, left, right, suffix.trans (List.suffix_cons b lines), onLine⟩
      rw [held] at h
      rcases List.append_eq_append_iff.1 h with ⟨left, hfront, hrow⟩ | ⟨more, hlines, hrest⟩
      · exact ⟨b, lines, left, back, List.suffix_rfl, hrow, hfront.symm⟩
      rcases List.append_eq_append_iff.1 hrest with ⟨later, hmore, _⟩ | ⟨run₂, hrun₂, hrow⟩
      · exact onEarlier (by rw [hlines, hmore])
      -- the line before this one ends at `more`
      have ends : more = [] ∨ run₂ = [] := by
        cases lines with
        | nil => exact .inl (List.append_eq_nil_iff.1 hlines.symm).2
        | cons b' lines => exact whole b' lines more run₂ List.suffix_rfl hrun₂ hlines
      rcases ends with rfl | rfl
      · rw [List.nil_append] at hrun₂
        rw [← hrun₂] at hrow
        exact ⟨b, lines, [], back, List.suffix_rfl, hrow, by simpa using hlines⟩
      · rw [List.append_nil] at hrun₂
        rw [← hrun₂, ← List.append_nil run] at hlines
        exact onEarlier hlines

/-- A word is written out in one piece on the line that has its letters. -/
theorem exists_spelled_around (left right : List Letter) {w : String} (h : w ≠ "")
    (inked : ∀ l ∈ left, isBlank l.char = false) :
    ∃ front back, spelled (left ++ (ofWord w.toList ++ right)) = front ++ w.toList ++ back ∧
      letters front = left.map Letter.char := by
  have filled : w.toList ≠ [] := mt String.toList_eq_nil_iff.1 h
  by_cases hleft : left = []
  · subst hleft
    refine ⟨[], right.flatMap Letter.spaced, ?_, rfl⟩
    rw [List.nil_append, spelled_append (ofWord_ne_nil filled), spelled_ofWord, List.nil_append]
  · refine ⟨spelled left ++ [' '], right.flatMap Letter.spaced, ?_, ?_⟩
    · rw [spelled_append hleft, List.flatMap_append, flatMap_spaced_ofWord filled]
      simp
    · exact letters_body (b := ⟨left, true, 0, ⟨[], [], []⟩⟩) inked

/-! ### Lines filled greedily -/

/-- A text whose words are as wide as their characters together, and so are the indents and the lines
of its paragraph. -/
structure Margin.Measured (m : Margin) (text : String) : Prop where
  initial : Summed m.initial
  subsequent : Summed m.subsequent
  words : ∀ w ∈ words text, Summed w
  lines : ∀ line ∈ m.wrap text, Summed line

/-- Lines with the given bodies are filled greedily with a text. -/
structure Greedy (m : Margin) (text : String) (bodies : List String) : Prop where
  /-- A line is within the margin, unless it holds a single character. -/
  fits : ∀ earlier body later, bodies = earlier ++ body :: later →
    displayWidth (m.indentAfter earlier ++ body) ≤ m.width ∨ body.length = 1
  /-- A word with room on a later line of its own is in one piece at its place on some line. -/
  whole : ∀ before w after, words text = before ++ w :: after →
    displayWidth m.subsequent + displayWidth w ≤ m.width →
      ∃ earlier body later front back, bodies = earlier ++ body :: later ∧
        body.toList = front ++ w.toList ++ back ∧
        letters (earlier.flatMap String.toList ++ front) = before.flatMap String.toList
  /-- A line before others ends at a place between two letters, and what comes next has no room. -/
  stops : ∀ earlier body next later, bodies = earlier ++ body :: next :: later →
    ∃ before part c rest after, words text = before ++ String.ofList (part ++ c :: rest) :: after ∧
      letters ((earlier ++ [body]).flatMap String.toList) = before.flatMap String.toList ++ part ∧
      m.Stops (m.indentAfter earlier ++ body) part c rest

theorem Margin.mem_indented (m : Margin) (earlier later : List String) (body : String) :
    m.indentAfter earlier ++ body ∈ m.indented (earlier ++ body :: later) := by
  cases earlier with
  | nil => simp [Margin.indented]
  | cons first earlier => simp [Margin.indented]

namespace Draft.Done

variable {m : Margin} {text : String} {d : Draft} {b : Break} {earlier : List Break}

/-- What is known of each line. -/
theorem laid (done : d.Done m text) (measured : m.Measured text)
    (lines : m.wrap text = m.indented (bodies d.lines)) (suffix : (b :: earlier) <:+ d.lines) :
    b.Laid m earlier := by
  obtain ⟨last, finished⟩ :=
    done.course.counted measured.initial measured.subsequent measured.words
  refine ⟨done.row_ne_nil suffix, ?_, ?_, measured.lines _ ?_⟩
  · intro l hl
    exact done.inked suffix l (List.mem_append_right _ hl)
  · rcases List.suffix_cons_iff.1 suffix with same | suffix
    · cases same
      exact last
    · exact finished b earlier suffix
  · obtain ⟨later, split⟩ := bodies_suffix suffix
    rw [lines, split, Break.line, ← indentAfter_bodies]
    exact m.mem_indented _ _ _

theorem room_of_spaced (done : d.Done m text) (suffix : (b :: earlier) <:+ d.lines)
    (spaced : b.spaced = true) : b.column + 1 ≤ m.width := by
  rcases List.suffix_cons_iff.1 suffix with same | suffix
  · cases same
    cases spaced
  · exact Nat.le_of_lt ((done.ends suffix).forced.room_of_spaced spaced)

/-- A word with room on a later line of its own is on one line: a line that ends inside of it would
show it to be too long. -/
theorem exists_row (done : d.Done m text)
    (indents : displayWidth m.initial ≤ displayWidth m.subsequent) {before after : List String}
    {w : String} (split : words text = before ++ w :: after)
    (room : displayWidth m.subsequent + displayWidth w ≤ m.width) :
    ∃ b earlier left right, (b :: earlier) <:+ d.lines ∧
      b.row = left ++ (ofWord w.toList ++ right) ∧ held earlier ++ left = ofWords before := by
  have all : held d.lines = ofWords before ++ (ofWord w.toList ++ ofWords after) := by
    rw [done.held_lines, split, ofWords_append]
    rfl
  have member : w ∈ words text := by
    rw [split]
    simp
  have filled : w.toList ≠ [] := mt String.toList_eq_nil_iff.1 (ne_empty_of_mem_words member)
  refine Text.exists_row all (ofWord_ne_nil filled) ?_
  intro b earlier run₁ run₂ suffix cut ends
  refine Classical.byContradiction fun inside => ?_
  rw [not_or] at inside
  obtain ⟨_, forced, letters, after', place⟩ := done.ends suffix
  have word : w = String.ofList (run₁.map Letter.char ++ run₂.map Letter.char) := by
    rw [← List.map_append, ← cut, map_char_ofWord, String.ofList_toList]
  have same : b.place.before.flatMap String.toList ++ b.place.part =
      before.flatMap String.toList ++ run₁.map Letter.char := by
    have placed : b.place.letters = ofWords before ++ run₁ := letters.symm.trans ends
    simpa [Place.letters] using congrArg (List.map Letter.char) placed
  obtain ⟨_, part, rest⟩ := eq_of_letters_eq place (split.trans (by rw [← word]))
    forced.rest_ne_nil (by simpa using inside.2) same
  have long := forced.overlong (by simpa [part] using inside.1)
  rw [Margin.Overlong, part, rest, ← word] at long
  have indent : displayWidth (m.indentAfter b.place.before) ≤ displayWidth m.subsequent := by
    cases b.place.before with
    | nil => exact indents
    | cons _ _ => exact Nat.le_refl _
  omega

/-- **The lines of a course are filled greedily.** -/
theorem greedy (done : d.Done m text)
    (indents : displayWidth m.initial ≤ displayWidth m.subsequent) (measured : m.Measured text)
    (lines : m.wrap text = m.indented (bodies d.lines)) : Greedy m text (bodies d.lines) := by
  constructor
  case fits =>
    intro earlier body later split
    obtain ⟨b, bs, suffix, rfl, rfl, _⟩ := bodies_eq_append split
    have line := (done.laid measured lines suffix).fits (done.room_of_spaced suffix)
    rw [indentAfter_bodies]
    simpa [Break.line] using line
  case whole =>
    intro before w after split room
    obtain ⟨b, bs, left, right, suffix, onLine, placed⟩ := done.exists_row indents split room
    obtain ⟨later, among⟩ := bodies_suffix suffix
    have inked := done.inked suffix
    have inkedLeft : ∀ l ∈ left, isBlank l.char = false := fun l hl =>
      inked l (List.mem_append_right _ (by rw [onLine]; exact List.mem_append_left _ hl))
    have member : w ∈ words text := by
      rw [split]
      simp
    obtain ⟨front, back, written, frontLetters⟩ :=
      exists_spelled_around left right (ne_empty_of_mem_words member) inkedLeft
    refine ⟨_, _, later, front, back ++ if b.spaced then [' '] else [], among, ?_, ?_⟩
    · rw [String.toList_ofList, Break.body, onLine, written, List.append_assoc]
    · rw [letters_append, letters_bodies fun l hl => inked l (List.mem_append_left _ hl),
        frontLetters, ← List.map_append, placed, map_char_ofWords]
  case stops =>
    intro earlier body next later split
    obtain ⟨b, bs, suffix, rfl, rfl, notLast⟩ := bodies_eq_append split
    obtain ⟨_, forced, letters, after, place⟩ := done.ends (notLast (List.cons_ne_nil _ _))
    obtain ⟨c, rest, hrest, stops⟩ := forced.stops (done.laid measured lines suffix)
    rw [hrest] at place
    refine ⟨_, _, c, rest, after, place, ?_, ?_⟩
    · have upTo := letters_bodies (done.inked suffix)
      rw [bodies] at upTo
      rw [upTo, held, letters, Place.letters, List.map_append, map_char_ofWords, map_char_ofWord]
    · rw [indentAfter_bodies]
      exact stops

end Draft.Done

/-- **Wrapping fills lines greedily.** -/
theorem wrapParagraph_greedy (m : Margin) (text : String) (filled : words text ≠ [])
    (indents : displayWidth m.initial ≤ displayWidth m.subsequent) (measured : m.Measured text) :
    ∃ bodies, wrapParagraph text m.width m.initial m.subsequent = m.indented bodies ∧
      Greedy m text bodies := by
  obtain ⟨d, done, lines⟩ := exists_done m filled
  exact ⟨_, lines, done.greedy indents measured lines⟩

/-- A word that is cut, on the line it starts on and on two more, and one that moves to the next. -/
theorem wrapParagraph_cut_and_moved :
    wrapParagraph "ab cdefghij k" 6 "* " "  " = ["* ab c", "  defg", "  hij", "  k"] ∧
      ∃ bodies,
        ["* ab c", "  defg", "  hij", "  k"] = Margin.indented ⟨6, "* ", "  "⟩ bodies ∧
        Greedy ⟨6, "* ", "  "⟩ "ab cdefghij k" bodies := by
  have wrapped : wrapParagraph "ab cdefghij k" 6 "* " "  " =
      ["* ab c", "  defg", "  hij", "  k"] := by decide
  have measured : Margin.Measured ⟨6, "* ", "  "⟩ "ab cdefghij k" := by
    constructor
    case initial => decide
    case subsequent => decide
    case words => decide
    case lines =>
      have lines : Margin.wrap ⟨6, "* ", "  "⟩ "ab cdefghij k" = _ := wrapped
      rw [lines]
      decide
  obtain ⟨bodies, lines, greedy⟩ :=
    wrapParagraph_greedy ⟨6, "* ", "  "⟩ "ab cdefghij k" (by decide) (by decide) measured
  exact ⟨wrapped, bodies, wrapped.symm.trans lines, greedy⟩

end Compliance.Text
