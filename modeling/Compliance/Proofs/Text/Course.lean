/-
**The course of filling a paragraph.**

A line of a paragraph is an indent and a row of letters, written out with a space before each letter
that opens a word, the first one of the row aside.  Filling goes through the letters of the words in
order, and here is said once what it can do with them: it puts a whole word or a letter on the line
under way, or it ends the line.  A line ends for one of four reasons, and at its end it may keep a
space that was meant for a word which then found no room.

Main definitions:

* `spelled` — a row of letters written out;
* `Place` — how far the words of a text have been placed;
* `Break`, `Break.Forced` — a finished line, and why it ended where it did;
* `Draft`, `Course` — lines so far, and what they come about by.

Main results:

* `Filling.addWord_cases` — all that adding a word can do;
* `exists_course` — **every paragraph is filled by such a course**;
* `Course.known` — what is known of the drafts on a course and of the lines finished on it.
-/

import Compliance.Proofs.Text.Letters

set_option relaxedAutoImplicit false
set_option autoImplicit false

namespace Compliance.Text

open Letter

/-! ### Rows -/

/-- A letter behind others: with a space before it if it opens a word. -/
def Letter.spaced (l : Letter) : List Char := if l.opens then [' ', l.char] else [l.char]

/-- A row of letters written out. -/
def spelled : List Letter → List Char
  | [] => []
  | l :: ls => l.char :: ls.flatMap Letter.spaced

@[simp] theorem spelled_nil : spelled [] = [] := rfl

theorem spelled_append {row : List Letter} (h : row ≠ []) (ls : List Letter) :
    spelled (row ++ ls) = spelled row ++ ls.flatMap Letter.spaced := by
  obtain ⟨l, row, rfl⟩ := List.exists_cons_of_ne_nil h
  simp [spelled]

theorem flatMap_spaced_map (cs : List Char) :
    (cs.map fun c => (⟨c, false⟩ : Letter)).flatMap Letter.spaced = cs := by
  simp [List.flatMap_map, Letter.spaced]

@[simp] theorem spelled_ofWord (cs : List Char) : spelled (ofWord cs) = cs := by
  cases cs with
  | nil => rfl
  | cons c cs => rw [ofWord, spelled, flatMap_spaced_map]

theorem flatMap_spaced_ofWord {cs : List Char} (h : cs ≠ []) :
    (ofWord cs).flatMap Letter.spaced = ' ' :: cs := by
  obtain ⟨c, cs, rfl⟩ := List.exists_cons_of_ne_nil h
  rw [ofWord, List.flatMap_cons, flatMap_spaced_map]
  rfl

/-- A row with one letter more. -/
theorem spelled_concat (row : List Letter) (c : Char) (opens : Bool) :
    spelled (row ++ [⟨c, opens⟩]) =
      spelled row ++ (if row = [] ∨ opens = false then [] else [' ']) ++ [c] := by
  by_cases h : row = []
  · subst h
    simp [spelled]
  · rw [spelled_append h]
    cases opens with
    | true => simp [Letter.spaced, h]
    | false => simp [Letter.spaced]

/-! ### Places and breaks -/

/-- How far the words of a text have been placed. -/
structure Place where
  /-- The words placed whole. -/
  before : List String
  /-- What has been placed of the word under way. -/
  part : List Char
  /-- What is left of that word. -/
  rest : List Char

/-- The letters placed. -/
def Place.letters (p : Place) : List Letter := ofWords p.before ++ ofWord p.part

/-- A finished line. -/
structure Break where
  /-- The letters of the line. -/
  row : List Letter
  /-- Whether a space was put behind them. -/
  spaced : Bool
  /-- The columns counted for the line, without that space. -/
  column : Nat
  /-- How far the words have been placed where it ends. -/
  place : Place

/-- What a finished line holds behind its indent. -/
def Break.body (b : Break) : List Char := spelled b.row ++ if b.spaced then [' '] else []

namespace Margin

/-- The indent of a line, by what there is before it. -/
def indentAfter {α : Type} (m : Margin) (earlier : List α) : String :=
  if earlier.isEmpty then m.initial else m.subsequent

@[simp] theorem indentAfter_nil {α : Type} (m : Margin) :
    m.indentAfter ([] : List α) = m.initial := rfl

@[simp] theorem indentAfter_cons {α : Type} (m : Margin) (a : α) (earlier : List α) :
    m.indentAfter (a :: earlier) = m.subsequent := rfl

/-- A word that is too wide for the line which it comes on if it is the first one of all, or else for
a later line of its own. -/
def Overlong (m : Margin) (before : List String) (word : List Char) : Prop :=
  m.width < displayWidth (m.indentAfter before) + displayWidth (String.ofList word)

end Margin

/-- Why a line ends where it does. -/
inductive Break.Forced (m : Margin) : Break → Prop
  /-- A word that has no room moves to a line where it has. -/
  | moves {row : List Letter} {column : Nat} {before : List String} {c : Char} {cs : List Char} :
      m.width < column + 1 + displayWidth (String.ofList (c :: cs)) →
      displayWidth m.subsequent + displayWidth (String.ofList (c :: cs)) ≤ m.width →
      Forced m ⟨row, false, column, ⟨before, [], c :: cs⟩⟩
  /-- There is no column left behind a space for a word that is too long. -/
  | full {row : List Letter} {column : Nat} {before : List String} {c : Char} {cs : List Char} :
      m.width < column + 1 + displayWidth (String.ofList (c :: cs)) →
      m.Overlong before (c :: cs) → m.width ≤ column + 1 →
      Forced m ⟨row, false, column, ⟨before, [], c :: cs⟩⟩
  /-- A space was put before a word that is too long, but its first letter has no room. -/
  | strands {row : List Letter} {column : Nat} {before : List String} {c : Char}
      {cs : List Char} :
      m.width < column + 1 + displayWidth (String.ofList (c :: cs)) →
      m.Overlong before (c :: cs) → column + 1 < m.width → m.width < column + 1 + charWidth c →
      Forced m ⟨row, true, column, ⟨before, [], c :: cs⟩⟩
  /-- The next letter of a word that is too long has no room. -/
  | within {row : List Letter} {column : Nat} {before : List String} {part : List Char} {c : Char}
      {cs : List Char} :
      part ≠ [] → m.Overlong before (part ++ c :: cs) → m.width < column + charWidth c →
      Forced m ⟨row, false, column, ⟨before, part, c :: cs⟩⟩

/-! ### Drafts -/

/-- The lines of a paragraph so far. -/
structure Draft where
  /-- The finished lines, the latest first. -/
  breaks : List Break
  /-- The letters of the line under way. -/
  row : List Letter
  /-- The columns counted for it. -/
  column : Nat
  /-- How far the words have been placed. -/
  place : Place

/-- Finished lines with their indents, the latest first. -/
def Margin.finished (m : Margin) : List Break → List String
  | [] => []
  | b :: bs => (m.indentAfter bs ++ String.ofList b.body) :: m.finished bs

namespace Draft

/-- A draft as a paragraph being filled. -/
def filling (m : Margin) (d : Draft) : Filling where
  finished := m.finished d.breaks
  line := m.indentAfter d.breaks ++ String.ofList (spelled d.row)
  column := d.column
  started := !d.row.isEmpty

/-- Columns of the space before what comes next: none at the start of a line and within a word. -/
def gap (d : Draft) : Nat := if d.row = [] ∨ d.place.part ≠ [] then 0 else 1

end Draft

/-- How the words of a text are filled into lines. -/
inductive Course (m : Margin) (ws : List String) : Draft → Prop
  /-- Nothing is placed. -/
  | start : Course m ws ⟨[], [], displayWidth m.initial, ⟨[], [], []⟩⟩
  /-- The next word is looked at. -/
  | meets {bs : List Break} {row : List Letter} {column : Nat} {before after : List String}
      {w : String} :
      Course m ws ⟨bs, row, column, ⟨before, [], []⟩⟩ → ws = before ++ w :: after →
      Course m ws ⟨bs, row, column, ⟨before, [], w.toList⟩⟩
  /-- The line ends. -/
  | breaks {bs : List Break} {row : List Letter} {spaced : Bool} {column : Nat} {place : Place} :
      Course m ws ⟨bs, row, column, place⟩ → row ≠ [] →
      Break.Forced m ⟨row, spaced, column, place⟩ →
      Course m ws ⟨⟨row, spaced, column, place⟩ :: bs, [], displayWidth m.subsequent, place⟩
  /-- A word that has room is placed whole. -/
  | fits {bs : List Break} {row : List Letter} {column columns : Nat} {before : List String}
      {w : String} :
      Course m ws ⟨bs, row, column, ⟨before, [], w.toList⟩⟩ → w ≠ "" →
      columns = column + Draft.gap ⟨bs, row, column, ⟨before, [], w.toList⟩⟩ + displayWidth w →
      columns ≤ m.width →
      Course m ws ⟨bs, row ++ ofWord w.toList, columns, ⟨before ++ [w], [], []⟩⟩
  /-- A letter of a word that is too long is placed: as the first one of a line, or where it has
  room. -/
  | puts {bs : List Break} {row : List Letter} {column columns : Nat} {before : List String}
      {part : List Char} {c : Char} {cs : List Char} :
      Course m ws ⟨bs, row, column, ⟨before, part, c :: cs⟩⟩ →
      m.Overlong before (part ++ c :: cs) →
      columns = column + Draft.gap ⟨bs, row, column, ⟨before, part, c :: cs⟩⟩ + charWidth c →
      (row ≠ [] → columns ≤ m.width) →
      Course m ws ⟨bs, row ++ [⟨c, part.isEmpty⟩], columns, ⟨before, part ++ [c], cs⟩⟩
  /-- A word that was placed letter by letter is complete. -/
  | closes {bs : List Break} {row : List Letter} {column : Nat} {before : List String}
      {w : String} :
      Course m ws ⟨bs, row, column, ⟨before, w.toList, []⟩⟩ → w ≠ "" →
      Course m ws ⟨bs, row, column, ⟨before ++ [w], [], []⟩⟩

/-! ### Drafts as paragraphs being filled -/

theorem push_append_ofList (s : String) (cs : List Char) (c : Char) :
    (s ++ String.ofList cs).push c = s ++ String.ofList (cs ++ [c]) :=
  String.toList_injective (by simp)

namespace Draft

variable {m : Margin} {bs : List Break} {row : List Letter} {column : Nat} {place place' : Place}

/-- A whole word is placed. -/
theorem filling_append {before : List String} {w : String} (h : w ≠ "") :
    (⟨bs, row ++ ofWord w.toList,
        column + gap ⟨bs, row, column, ⟨before, [], w.toList⟩⟩ + displayWidth w, place'⟩ :
        Draft).filling m =
      ((⟨bs, row, column, ⟨before, [], w.toList⟩⟩ : Draft).filling m).append w := by
  have filled : w.toList ≠ [] := mt String.toList_eq_nil_iff.1 h
  by_cases hrow : row = []
  · subst hrow
    simp [filling, Filling.append, Filling.gap, gap, ofWord_ne_nil filled]
  · have line : m.indentAfter bs ++ String.ofList (spelled (row ++ ofWord w.toList)) =
        (m.indentAfter bs ++ String.ofList (spelled row)).push ' ' ++ w := by
      rw [spelled_append hrow, flatMap_spaced_ofWord filled]
      exact String.toList_injective (by simp)
    simp [filling, Filling.append, Filling.gap, gap, hrow, line]

/-- A letter is placed. -/
theorem filling_letter {before : List String} {part cs : List Char} {c : Char} :
    (⟨bs, row ++ [⟨c, part.isEmpty⟩],
        column + gap ⟨bs, row, column, ⟨before, part, c :: cs⟩⟩ + charWidth c, place'⟩ :
        Draft).filling m =
      ⟨m.finished bs,
        (m.indentAfter bs ++
          String.ofList (spelled row ++ if row = [] ∨ part ≠ [] then [] else [' '])).push c,
        column + gap ⟨bs, row, column, ⟨before, part, c :: cs⟩⟩ + charWidth c, true⟩ := by
  have opens : part.isEmpty = false ↔ part ≠ [] := by simp
  rw [push_append_ofList, filling, spelled_concat]
  simp only [opens]
  simp

/-- The line ends. -/
theorem filling_breakLine (place' : Place) :
    (⟨⟨row, false, column, place⟩ :: bs, [], displayWidth m.subsequent, place'⟩ : Draft).filling m =
      ((⟨bs, row, column, place⟩ : Draft).filling m).breakLine m := by
  simp [filling, Filling.breakLine, Margin.finished, Break.body]

/-- The columns of the space before a word. -/
theorem gap_filling {before : List String} {rest : List Char} :
    ((⟨bs, row, column, ⟨before, [], rest⟩⟩ : Draft).filling m).gap =
      gap ⟨bs, row, column, ⟨before, [], rest⟩⟩ := by
  by_cases hrow : row = []
  · simp [filling, Filling.gap, gap, hrow]
  · simp [filling, Filling.gap, gap, hrow]

end Draft

/-! ### Filling takes such a course -/

namespace Filling

variable {m : Margin} {f : Filling} {c : Char}

/-- A character is put on a line with room, or on one that holds nothing of the text. -/
theorem addChar_of_room (h : f.started = true → f.column + charWidth c ≤ m.width) :
    f.addChar m c = ⟨f.finished, f.line.push c, f.column + charWidth c, true⟩ := by
  unfold addChar
  rw [if_neg]
  intro full
  rw [Bool.and_eq_true, decide_eq_true_iff] at full
  exact Nat.not_lt.2 (h full.1) full.2

/-- A character that has no room is put on the next line. -/
theorem addChar_of_full (started : f.started = true) (h : m.width < f.column + charWidth c) :
    f.addChar m c = ⟨f.line :: f.finished, m.subsequent.push c,
      displayWidth m.subsequent + charWidth c, true⟩ := by
  unfold addChar
  rw [if_pos]
  · rfl
  · rw [started, Bool.true_and, decide_eq_true_iff]
    exact h

/-- All that adding a word can do: the word moves to a line of its own, or it has room, or it is cut
as no line has room for it. -/
theorem addWord_cases (m : Margin) (f : Filling) (w : String) :
    (f.started = true ∧ m.width < f.column + 1 + displayWidth w ∧
        displayWidth m.subsequent + displayWidth w ≤ m.width ∧
        f.addWord m w = (f.breakLine m).append w) ∨
      (f.column + f.gap + displayWidth w ≤ m.width ∧ f.addWord m w = f.append w) ∨
      (m.width < f.column + f.gap + displayWidth w ∧
        (f.started = true → m.width < displayWidth m.subsequent + displayWidth w) ∧
        f.addWord m w = w.toList.foldl (addChar m) (f.beforeCut m)) := by
  unfold addWord
  by_cases moves : (f.started && m.width < f.column + 1 + displayWidth w &&
      displayWidth m.subsequent + displayWidth w ≤ m.width) = true
  · rw [if_pos moves]
    simp only [Bool.and_eq_true, decide_eq_true_eq] at moves
    obtain ⟨⟨started, exceeds⟩, fits⟩ := moves
    refine .inl ⟨started, exceeds, fits, if_pos ?_⟩
    simpa [breakLine, gap] using fits
  · rw [if_neg moves]
    simp only [Bool.and_eq_true, decide_eq_true_eq, not_and] at moves
    by_cases room : f.column + f.gap + displayWidth w ≤ m.width
    · exact .inr (.inl ⟨room, if_pos room⟩)
    · refine .inr (.inr ⟨Nat.lt_of_not_le room, ?_, if_neg room⟩)
      intro started
      have gap : f.gap = 1 := if_pos started
      exact Nat.lt_of_not_le (moves ⟨started, by omega⟩)

/-- A word is put on a line that has room for it. -/
theorem addWord_of_room {w : String} (room : f.column + f.gap + displayWidth w ≤ m.width) :
    f.addWord m w = f.append w := by
  rcases f.addWord_cases m w with ⟨started, exceeds, _⟩ | ⟨_, added⟩ | ⟨exceeds, _⟩
  · have gap : f.gap = 1 := if_pos started
    omega
  · exact added
  · omega

theorem beforeCut_of_unstarted (h : f.started = false) : f.beforeCut m = f := by
  unfold beforeCut
  rw [h]
  rfl

/-- Before a word that is cut there is a space, if a column is left behind that. -/
theorem beforeCut_of_room (started : f.started = true) (h : f.column + 1 < m.width) :
    f.beforeCut m = ⟨f.finished, f.line.push ' ', f.column + 1, true⟩ := by
  unfold beforeCut
  rw [if_pos started, if_pos h, started]

theorem beforeCut_of_full (started : f.started = true) (h : m.width ≤ f.column + 1) :
    f.beforeCut m = f.breakLine m := by
  unfold beforeCut
  rw [if_pos started, if_neg (Nat.not_lt.2 h)]

end Filling

/-- A course leads to a place of the text and to a line with letters on it. -/
def Reaches (m : Margin) (ws : List String) (p : Place) (f : Filling) : Prop :=
  ∃ bs row column, Course m ws ⟨bs, row, column, p⟩ ∧ row ≠ [] ∧
    (⟨bs, row, column, p⟩ : Draft).filling m = f

section Courses

variable {m : Margin} {ws before after : List String} {part cs : List Char} {c : Char} {w : String}
  {f : Filling}

/-- A letter of a word that is too long is the first one of a line. -/
theorem Course.first {bs : List Break} {column : Nat}
    (h : Course m ws ⟨bs, [], column, ⟨before, part, c :: cs⟩⟩)
    (long : m.Overlong before (part ++ c :: cs)) :
    Reaches m ws ⟨before, part ++ [c], cs⟩
      ⟨m.finished bs, (m.indentAfter bs).push c, column + charWidth c, true⟩ := by
  refine ⟨bs, _, _, h.puts long rfl (absurd rfl), by simp, ?_⟩
  rw [Draft.filling_letter]
  simp [Draft.gap]

/-- A letter of a word that is too long is put behind others, or first on the next line. -/
theorem Reaches.addChar (h : Reaches m ws ⟨before, part, c :: cs⟩ f) (hpart : part ≠ [])
    (long : m.Overlong before (part ++ c :: cs)) :
    Reaches m ws ⟨before, part ++ [c], cs⟩ (f.addChar m c) := by
  obtain ⟨bs, row, column, course, hrow, rfl⟩ := h
  by_cases room : column + charWidth c ≤ m.width
  · rw [Filling.addChar_of_room fun _ => room]
    refine ⟨bs, _, _, course.puts long rfl ?_, by simp, ?_⟩
    · intro _
      simpa [Draft.gap, hpart] using room
    · rw [Draft.filling_letter]
      simp [Draft.filling, Draft.gap, hpart]
  · have full := Nat.lt_of_not_le room
    rw [Filling.addChar_of_full (by simpa [Draft.filling] using hrow) full]
    have broken := (course.breaks hrow (.within hpart long full)).first long
    simpa [Margin.finished, Break.body, Draft.filling] using broken

/-- The letters of a word that is too long. -/
theorem Reaches.cut (h : Reaches m ws ⟨before, part, cs⟩ f) (hpart : part ≠ [])
    (long : m.Overlong before (part ++ cs)) :
    Reaches m ws ⟨before, part ++ cs, []⟩ (cs.foldl (Filling.addChar m) f) := by
  induction cs generalizing part f with
  | nil => simpa using h
  | cons c cs ih =>
      have more := ih (h.addChar hpart long) (by simp) (by simpa using long)
      simpa using more

/-- A word that is too long, from its second letter to its end. -/
theorem Reaches.cutWord (h : Reaches m ws ⟨before, [c], cs⟩ f) (long : m.Overlong before (c :: cs))
    (letters : w.toList = c :: cs) :
    Reaches m ws ⟨before ++ [w], [], []⟩ (cs.foldl (Filling.addChar m) f) := by
  obtain ⟨bs, row, column, course, hrow, filling⟩ := h.cut (by simp) long
  have placed : [c] ++ cs = w.toList := letters.symm
  have filled : w ≠ "" := by
    rintro rfl
    cases letters
  rw [placed] at course
  exact ⟨bs, row, column, course.closes filled, hrow, filling⟩

/-- A word that has room. -/
theorem Course.placeWord {bs : List Break} {row : List Letter} {column : Nat}
    (h : Course m ws ⟨bs, row, column, ⟨before, [], w.toList⟩⟩) (filled : w ≠ "")
    (room : column + ((⟨bs, row, column, ⟨before, [], w.toList⟩⟩ : Draft).filling m).gap +
      displayWidth w ≤ m.width) :
    Reaches m ws ⟨before ++ [w], [], []⟩
      (((⟨bs, row, column, ⟨before, [], w.toList⟩⟩ : Draft).filling m).append w) := by
  rw [Draft.gap_filling] at room
  refine ⟨bs, _, _, h.fits filled rfl room, ?_, Draft.filling_append filled⟩
  exact List.append_ne_nil_of_right_ne_nil _ (ofWord_ne_nil (mt String.toList_eq_nil_iff.1 filled))

/-- The first word of a text. -/
theorem Course.addFirst (hws : ws = w :: after) (filled : w ≠ "") :
    Reaches m ws ⟨[w], [], []⟩ ((Filling.start m).addWord m w) := by
  have met : Course m ws ⟨[], [], displayWidth m.initial, ⟨[], [], w.toList⟩⟩ :=
    Course.start.meets hws
  have start : Filling.start m =
      (⟨[], [], displayWidth m.initial, ⟨[], [], w.toList⟩⟩ : Draft).filling m := by
    simp [Draft.filling, Filling.start, Margin.finished]
  rcases (Filling.start m).addWord_cases m w with
    ⟨started, _⟩ | ⟨room, added⟩ | ⟨exceeds, _, added⟩
  · cases started
  · rw [start] at room
    rw [added, start]
    exact met.placeWord filled room
  · obtain ⟨c, cs, letters⟩ := List.exists_cons_of_ne_nil (mt String.toList_eq_nil_iff.1 filled)
    have long : m.Overlong [] (c :: cs) := by
      rw [Margin.Overlong, ← letters, String.ofList_toList]
      exact exceeds
    rw [letters] at met
    rw [added, Filling.beforeCut_of_unstarted rfl, letters, List.foldl_cons,
      Filling.addChar_of_room (by intro started; cases started)]
    exact (met.first long).cutWord long letters

/-- A later word that is cut: the line has room for a space and a letter, or for a space only, or for
no space. -/
theorem Course.cutLater {bs : List Break} {row : List Letter} {column : Nat}
    (h : Course m ws ⟨bs, row, column, ⟨before, [], c :: cs⟩⟩) (hrow : row ≠ [])
    (exceeds : m.width < column + 1 + displayWidth (String.ofList (c :: cs)))
    (long : m.Overlong before (c :: cs)) :
    Reaches m ws ⟨before, [c], cs⟩
      ((((⟨bs, row, column, ⟨before, [], c :: cs⟩⟩ : Draft).filling m).beforeCut m).addChar m c) := by
  have started : ((⟨bs, row, column, ⟨before, [], c :: cs⟩⟩ : Draft).filling m).started = true := by
    simpa [Draft.filling] using hrow
  by_cases space : column + 1 < m.width
  · rw [Filling.beforeCut_of_room started space]
    by_cases room : column + 1 + charWidth c ≤ m.width
    · rw [Filling.addChar_of_room fun _ => room]
      refine ⟨bs, _, _, h.puts long rfl ?_, by simp, ?_⟩
      · intro _
        simpa [Draft.gap, hrow] using room
      · rw [Draft.filling_letter]
        simp [Draft.filling, Draft.gap, hrow, push_append_ofList]
    · have full := Nat.lt_of_not_le room
      rw [Filling.addChar_of_full rfl full]
      have broken := (h.breaks hrow (.strands exceeds long space full)).first long
      simpa [Margin.finished, Break.body, Draft.filling, push_append_ofList] using broken
  · have noSpace := Nat.not_lt.1 space
    have broken := (h.breaks hrow (.full exceeds long noSpace)).first long
    rw [Filling.beforeCut_of_full started noSpace,
      Filling.addChar_of_room (by intro again; cases again)]
    simpa [Margin.finished, Break.body, Draft.filling, Filling.breakLine] using broken

/-- A later word of a text. -/
theorem Reaches.addLater (h : Reaches m ws ⟨before, [], []⟩ f) (hbefore : before ≠ [])
    (hws : ws = before ++ w :: after) (filled : w ≠ "") :
    Reaches m ws ⟨before ++ [w], [], []⟩ (f.addWord m w) := by
  obtain ⟨bs, row, column, course, hrow, filling⟩ := h
  have met := course.meets hws
  replace filling : (⟨bs, row, column, ⟨before, [], w.toList⟩⟩ : Draft).filling m = f := filling
  have started : f.started = true := by
    rw [← filling]
    simpa [Draft.filling] using hrow
  have columns : f.column = column := by rw [← filling]; rfl
  obtain ⟨c, cs, letters⟩ := List.exists_cons_of_ne_nil (mt String.toList_eq_nil_iff.1 filled)
  have word : String.ofList (c :: cs) = w := by rw [← letters, String.ofList_toList]
  rcases f.addWord_cases m w with ⟨_, exceeds, fits, added⟩ | ⟨room, added⟩ | ⟨exceeds, tooLong, added⟩
  · rw [letters] at met
    rw [columns, ← word] at exceeds
    have moved := met.breaks hrow (.moves exceeds (by rwa [word]))
    rw [← letters] at moved
    rw [added, ← filling, ← Draft.filling_breakLine ⟨before, [], w.toList⟩]
    refine moved.placeWord filled ?_
    simpa [Draft.filling, Filling.gap] using fits
  · rw [added, ← filling]
    refine met.placeWord filled ?_
    rw [filling, ← columns]
    exact room
  · have long : m.Overlong before (c :: cs) := by
      obtain ⟨b, bs, rfl⟩ := List.exists_cons_of_ne_nil hbefore
      rw [Margin.Overlong, Margin.indentAfter_cons, word]
      exact tooLong started
    have gap : f.gap = 1 := if_pos started
    rw [gap, columns, ← word] at exceeds
    rw [added, letters, List.foldl_cons, ← filling, letters]
    rw [letters] at met
    exact (met.cutLater hrow exceeds long).cutWord long letters

theorem Reaches.addWords {rest : List String} (h : Reaches m ws ⟨before, [], []⟩ f)
    (hbefore : before ≠ []) (hws : ws = before ++ rest) (filled : ∀ w ∈ rest, w ≠ "") :
    Reaches m ws ⟨ws, [], []⟩ (rest.foldl (Filling.addWord m) f) := by
  induction rest generalizing before f with
  | nil =>
      rw [List.append_nil] at hws
      subst hws
      exact h
  | cons w rest ih =>
      refine ih (h.addLater hbefore hws (filled w List.mem_cons_self)) (by simp) (by simpa using hws)
        fun v hv => filled v (List.mem_cons_of_mem _ hv)

end Courses

/-- **Every paragraph with a word is filled by such a course**, with all words placed in the end. -/
theorem exists_course (m : Margin) {text : String} (h : words text ≠ []) :
    Reaches m (words text) ⟨words text, [], []⟩
      ((words text).foldl (Filling.addWord m) (.start m)) := by
  have filled : ∀ w ∈ words text, w ≠ "" := fun _ => ne_empty_of_mem_words
  obtain ⟨w, rest, split⟩ := List.exists_cons_of_ne_nil h
  rw [split] at filled ⊢
  exact (Course.addFirst rfl (filled w List.mem_cons_self)).addWords (by simp) rfl
    fun v hv => filled v (List.mem_cons_of_mem _ hv)

/-! ### What a course keeps -/

/-- The letters on finished lines, the latest line first. -/
def held : List Break → List Letter
  | [] => []
  | b :: bs => held bs ++ b.row

/-- Earlier lines hold the first letters. -/
theorem held_of_suffix {bs all : List Break} (h : bs <:+ all) : held bs <+: held all := by
  induction all with
  | nil =>
      have none := List.suffix_nil.1 h
      subst none
      exact List.prefix_rfl
  | cons b all ih =>
      rcases List.suffix_cons_iff.1 h with rfl | h
      · exact List.prefix_rfl
      · exact (ih h).trans (List.prefix_append _ _)

/-- What is known of a line that is finished after others. -/
structure Break.Ends (m : Margin) (ws : List String) (earlier : List Break) (b : Break) : Prop where
  /-- It holds letters. -/
  filled : b.row ≠ []
  /-- It ends for a reason. -/
  forced : b.Forced m
  /-- The lines up to it hold the letters placed where it ends. -/
  letters : held earlier ++ b.row = b.place.letters
  /-- It ends in a word of the text, or before one. -/
  place : ∃ after, ws = b.place.before ++ String.ofList (b.place.part ++ b.place.rest) :: after

/-- A line ends where something is left of a word. -/
theorem Break.Forced.rest_ne_nil {m : Margin} {b : Break} (h : b.Forced m) : b.place.rest ≠ [] := by
  cases h with
  | moves => exact List.cons_ne_nil _ _
  | full => exact List.cons_ne_nil _ _
  | strands => exact List.cons_ne_nil _ _
  | within => exact List.cons_ne_nil _ _

/-- A word that a line ends in is too long. -/
theorem Break.Forced.overlong {m : Margin} {b : Break} (h : b.Forced m) (under : b.place.part ≠ []) :
    m.Overlong b.place.before (b.place.part ++ b.place.rest) := by
  cases h with
  | moves => exact absurd rfl under
  | full => exact absurd rfl under
  | strands => exact absurd rfl under
  | within _ long _ => exact long

/-- A space that a line ends with is within the margin. -/
theorem Break.Forced.room_of_spaced {m : Margin} {b : Break} (h : b.Forced m)
    (spaced : b.spaced = true) : b.column + 1 < m.width := by
  cases h with
  | moves => cases spaced
  | full => cases spaced
  | strands _ _ room _ => exact room
  | within => cases spaced

/-- What is known of a draft: its letters are those that have been placed, a word under way is one of
the text, and each finished line ends as it must. -/
structure Draft.Known (m : Margin) (ws : List String) (d : Draft) : Prop where
  letters : held d.breaks ++ d.row = d.place.letters
  place : d.place.part ++ d.place.rest ≠ [] →
    ∃ after, ws = d.place.before ++ String.ofList (d.place.part ++ d.place.rest) :: after
  ends : ∀ b earlier, (b :: earlier) <:+ d.breaks → b.Ends m ws earlier

/-- **What is known of every draft on the course.** -/
theorem Course.known {m : Margin} {ws : List String} {d : Draft} (h : Course m ws d) :
    d.Known m ws := by
  induction h with
  | start =>
      refine ⟨rfl, absurd rfl, ?_⟩
      intro b earlier none
      exact absurd (List.suffix_nil.1 none) (List.cons_ne_nil _ _)
  | @meets bs row column before after w _ hws ih =>
      refine ⟨ih.letters, fun _ => ⟨after, ?_⟩, ih.ends⟩
      rw [List.nil_append, String.ofList_toList]
      exact hws
  | @breaks bs row spaced column place _ hrow forced ih =>
      have under : place.part ++ place.rest ≠ [] :=
        List.append_ne_nil_of_right_ne_nil _ forced.rest_ne_nil
      refine ⟨?_, ih.place, ?_⟩
      · rw [held, List.append_nil]
        exact ih.letters
      · intro b earlier suffix
        rcases List.suffix_cons_iff.1 suffix with same | suffix
        · cases same
          exact ⟨hrow, forced, ih.letters, ih.place under⟩
        · exact ih.ends b earlier suffix
  | @fits bs row column columns before w _ _ _ _ ih =>
      refine ⟨?_, absurd rfl, ih.ends⟩
      have placed : held bs ++ row = ofWords before ++ ofWord [] := ih.letters
      rw [← List.append_assoc, placed, Place.letters, ofWords_concat]
      simp [ofWord]
  | @puts bs row column columns before part c cs _ _ _ _ ih =>
      refine ⟨?_, fun _ => ?_, ih.ends⟩
      · have placed : held bs ++ row = ofWords before ++ ofWord part := ih.letters
        rw [← List.append_assoc, placed, Place.letters, ofWord_concat, List.append_assoc]
      · obtain ⟨after, hws⟩ := ih.place (by simp)
        refine ⟨after, ?_⟩
        rw [List.append_assoc]
        exact hws
  | @closes bs row column before w _ _ ih =>
      refine ⟨?_, absurd rfl, ih.ends⟩
      have placed : held bs ++ row = ofWords before ++ ofWord w.toList := ih.letters
      rw [placed, Place.letters, ofWords_concat]
      simp [ofWord]

end Compliance.Text
