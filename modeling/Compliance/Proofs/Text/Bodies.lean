/-
**What the lines of a paragraph hold.**

Wrapping a text gives the first indent and a body, and then the other indent and a body for each
later line.  The bodies hold the letters of the text in order, each of them at least one.  Two letters
that stay on one line have one space between them if the text has a gap there, and nothing else.

Main definitions:

* `Margin.indented` — bodies with their indents;
* `Draft.Done` — a draft in which all words of a text are placed;
* `Faithful` — what bodies keep of a text.

Main results:

* `exists_done` — **a wrapped text is what a course has put into its lines**;
* `gaps_body` — the gaps on one line;
* `wrap_faithful` — what wrapping keeps.
-/

import Compliance.Proofs.Text.Course

set_option relaxedAutoImplicit false
set_option autoImplicit false

namespace Compliance.Text

open Letter

/-! ### Indents and bodies -/

/-- Lines with the given bodies: the first one has an indent of its own. -/
def Margin.indented (m : Margin) : List String → List String
  | [] => []
  | body :: bodies => (m.initial ++ body) :: bodies.map fun later => m.subsequent ++ later

theorem Margin.indented_concat (m : Margin) (bodies : List String) (body : String) :
    m.indented (bodies ++ [body]) = m.indented bodies ++ [m.indentAfter bodies ++ body] := by
  cases bodies with
  | nil => rfl
  | cons first bodies => simp [indented]

/-- The bodies of lines, which are given the latest first. -/
def bodies : List Break → List String
  | [] => []
  | b :: bs => bodies bs ++ [String.ofList b.body]

theorem indentAfter_bodies (m : Margin) (bs : List Break) :
    m.indentAfter (bodies bs) = m.indentAfter bs := by
  cases bs with
  | nil => rfl
  | cons b bs => simp [Margin.indentAfter, bodies]

theorem reverse_finished (m : Margin) (bs : List Break) :
    (m.finished bs).reverse = m.indented (bodies bs) := by
  induction bs with
  | nil => rfl
  | cons b bs ih =>
      rw [Margin.finished, List.reverse_cons, ih, bodies, m.indented_concat, indentAfter_bodies]

theorem bodies_append (bs earlier : List Break) :
    bodies (bs ++ earlier) = bodies earlier ++ bodies bs := by
  induction bs with
  | nil => exact (List.append_nil _).symm
  | cons b bs ih => rw [List.cons_append, bodies, ih, bodies, List.append_assoc]

theorem bodies_suffix {bs earlier : List Break} {b : Break} (h : (b :: earlier) <:+ bs) :
    ∃ later, bodies bs = bodies earlier ++ String.ofList b.body :: later := by
  obtain ⟨after, rfl⟩ := h
  exact ⟨bodies after, by rw [bodies_append, bodies, List.append_assoc]; rfl⟩

/-- A line among others. -/
theorem bodies_eq_append {bs : List Break} {earlier later : List String} {body : String}
    (h : bodies bs = earlier ++ body :: later) :
    ∃ b bs', (b :: bs') <:+ bs ∧ earlier = bodies bs' ∧ body = String.ofList b.body ∧
      (later ≠ [] → (b :: bs') <:+ bs.tail) := by
  induction bs generalizing later with
  | nil =>
      rw [bodies] at h
      exact absurd h.symm (List.append_ne_nil_of_right_ne_nil _ (List.cons_ne_nil _ _))
  | cons b bs ih =>
      rw [bodies] at h
      rcases List.eq_nil_or_concat later with rfl | ⟨front, last, rfl⟩
      · obtain ⟨rfl, same⟩ := List.append_inj' h rfl
        exact ⟨b, bs, List.suffix_rfl, rfl, (List.cons.inj same).1.symm, absurd rfl⟩
      · rw [List.concat_eq_append, ← List.cons_append, ← List.append_assoc] at h
        obtain ⟨front', _⟩ := List.append_inj' h rfl
        obtain ⟨b', bs', suffix, earlierEq, bodyEq, _⟩ := ih front'
        exact ⟨b', bs', suffix.trans (List.suffix_cons b bs), earlierEq, bodyEq, fun _ => suffix⟩

/-! ### Trimming -/

theorem trimEnd_push_space (s : String) : trimEnd (s.push ' ') = trimEnd s := by
  have space : isBlank ' ' = true := by decide
  refine String.toList_injective ?_
  simp [trimEnd, dropBlankEnd, space]

/-- Rows end in a letter. -/
theorem exists_spelled_eq {row : List Letter} (h : row ≠ []) :
    ∃ front l, l ∈ row ∧ spelled row = front ++ [l.char] := by
  obtain ⟨front, ⟨c, opens⟩, rfl⟩ := (List.eq_nil_or_concat row).resolve_left h
  rw [List.concat_eq_append, spelled_concat]
  exact ⟨_, ⟨c, opens⟩, by simp, rfl⟩

/-- A line that ends in a row has no blanks at its end. -/
theorem trimEnd_append_spelled {row : List Letter} (h : row ≠ [])
    (letters : ∀ l ∈ row, isBlank l.char = false) (indent : String) :
    trimEnd (indent ++ String.ofList (spelled row)) = indent ++ String.ofList (spelled row) := by
  obtain ⟨front, l, hl, spelling⟩ := exists_spelled_eq h
  refine String.toList_injective ?_
  simp [trimEnd, dropBlankEnd, spelling, letters l hl]

theorem not_blank_of_mem_ofWords {text : String} {l : Letter} (h : l ∈ ofWords (words text)) :
    isBlank l.char = false := by
  have char := List.mem_map_of_mem (f := Letter.char) h
  rw [map_char_ofWords] at char
  obtain ⟨w, hw, hl⟩ := List.mem_flatMap.1 char
  exact words_not_blank hw hl

/-! ### The lines of a wrapped text -/

/-- The lines of a draft, the one under way among them. -/
def Draft.lines (d : Draft) : List Break := ⟨d.row, false, d.column, d.place⟩ :: d.breaks

/-- A draft in which all words of a text are placed. -/
structure Draft.Done (m : Margin) (text : String) (d : Draft) : Prop where
  course : Course m (words text) d
  filled : d.row ≠ []
  placed : d.place = ⟨words text, [], []⟩

namespace Draft.Done

variable {m : Margin} {text : String} {d : Draft} {b : Break} {bs earlier : List Break}

/-- The lines hold the letters of the text. -/
theorem held_lines (done : d.Done m text) : held d.lines = ofWords (words text) := by
  have letters := done.course.known.letters
  rw [done.placed, Place.letters, ofWord, List.append_nil] at letters
  exact letters

/-- The first lines hold the first letters. -/
theorem held_front (done : d.Done m text) (suffix : bs <:+ d.lines) :
    held bs <+: ofWords (words text) := by
  rw [← done.held_lines]
  exact held_of_suffix suffix

theorem inked (done : d.Done m text) (suffix : bs <:+ d.lines) :
    ∀ l ∈ held bs, isBlank l.char = false :=
  fun _ hl => not_blank_of_mem_ofWords ((done.held_front suffix).subset hl)

/-- A line before the last one is finished. -/
theorem ends (done : d.Done m text) (suffix : (b :: earlier) <:+ d.lines.tail) :
    b.Ends m (words text) earlier :=
  done.course.known.ends b earlier suffix

/-- Each line holds letters. -/
theorem row_ne_nil (done : d.Done m text) (suffix : (b :: earlier) <:+ d.lines) : b.row ≠ [] := by
  rcases List.suffix_cons_iff.1 suffix with same | suffix
  · cases same
    exact done.filled
  · exact (done.ends suffix).filled

end Draft.Done

/-- **A wrapped text is what a course has put into its lines.** -/
theorem exists_done (m : Margin) {text : String} (h : words text ≠ []) :
    ∃ d : Draft, d.Done m text ∧ m.wrap text = m.indented (bodies d.lines) := by
  obtain ⟨bs, row, column, course, hrow, filling⟩ := exists_course m h
  have done : Draft.Done m text ⟨bs, row, column, ⟨words text, [], []⟩⟩ := ⟨course, hrow, rfl⟩
  refine ⟨_, done, ?_⟩
  -- the last line ends in a letter, so that trimming leaves it as it is
  have last := trimEnd_append_spelled hrow
    (fun l hl => done.inked List.suffix_rfl l (List.mem_append_right _ hl)) (m.indentAfter bs)
  rw [Margin.wrap, ← filling, Filling.lines, if_pos (by simp [Draft.filling, hrow]), Draft.filling,
    last, List.reverse_cons, reverse_finished, Draft.lines, bodies, m.indented_concat,
    indentAfter_bodies]
  simp [Break.body]

/-- A text without letters gives one line, the indent without blanks at its end. -/
theorem wrap_of_blank (m : Margin) {text : String} (h : words text = []) :
    m.wrap text = [trimEnd m.initial] := by
  rw [Margin.wrap, h]
  rfl

/-! ### Letters and gaps of a line -/

section Filters

variable {p : Char → Bool} (space : p ' ' = false)

include space

theorem filter_spaced {l : Letter} (h : p l.char = true) : l.spaced.filter p = [l.char] := by
  cases opens : l.opens with
  | true => simp [Letter.spaced, opens, space, h]
  | false => simp [Letter.spaced, opens, h]

/-- The characters of a line without its spaces. -/
theorem filter_body {b : Break} (h : ∀ l ∈ b.row, p l.char = true) :
    b.body.filter p = b.row.map Letter.char := by
  have tail : (if b.spaced then [' '] else []).filter p = [] := by
    cases b.spaced with
    | true => simp [space]
    | false => rfl
  have later : ∀ ls : List Letter, (∀ l ∈ ls, p l.char = true) →
      (ls.flatMap Letter.spaced).filter p = ls.map Letter.char := by
    intro ls hls
    induction ls with
    | nil => rfl
    | cons l ls ih =>
        rw [List.flatMap_cons, List.filter_append, filter_spaced space (hls l List.mem_cons_self),
          ih fun l' hl' => hls l' (List.mem_cons_of_mem _ hl')]
        rfl
  rw [Break.body, List.filter_append, tail, List.append_nil]
  cases row : b.row with
  | nil => rfl
  | cons l ls =>
      rw [row] at h
      rw [spelled, List.filter_cons_of_pos (h l List.mem_cons_self),
        later ls fun l' hl' => h l' (List.mem_cons_of_mem _ hl'), List.map_cons]

/-- The characters of lines without their spaces. -/
theorem filter_bodies {bs : List Break} (h : ∀ l ∈ held bs, p l.char = true) :
    ((bodies bs).flatMap String.toList).filter p = (held bs).map Letter.char := by
  induction bs with
  | nil => rfl
  | cons b bs ih =>
      have front := ih fun l hl => h l (List.mem_append_left _ hl)
      have last := filter_body space fun l hl => h l (List.mem_append_right (held bs) hl)
      rw [bodies, List.flatMap_append, List.filter_append, front, held, List.map_append, ← last]
      simp

end Filters

theorem letters_body {b : Break} (h : ∀ l ∈ b.row, isBlank l.char = false) :
    letters b.body = b.row.map Letter.char :=
  filter_body (by decide) fun l hl => by rw [h l hl]; rfl

theorem letters_bodies {bs : List Break} (h : ∀ l ∈ held bs, isBlank l.char = false) :
    letters ((bodies bs).flatMap String.toList) = (held bs).map Letter.char :=
  filter_bodies (by decide) fun l hl => by rw [h l hl]; rfl

/-- The blanks that a line has before a letter. -/
def Letter.gap (l : Letter) : List Char := if l.opens then [' '] else []

theorem gapsAfter_spaced {ls : List Letter} (h : ∀ l ∈ ls, isBlank l.char = false) (spaced : Bool) :
    gapsAfter [] (ls.flatMap Letter.spaced ++ if spaced then [' '] else []) = ls.map Letter.gap := by
  induction ls with
  | nil =>
      cases spaced with
      | true => rfl
      | false => rfl
  | cons l ls ih =>
      have letter := h l List.mem_cons_self
      have later := ih fun l' hl' => h l' (List.mem_cons_of_mem _ hl')
      have space : isBlank ' ' = true := by decide
      cases opens : l.opens with
      | true => simp [Letter.spaced, Letter.gap, opens, gapsAfter, letter, space, later]
      | false => simp [Letter.spaced, Letter.gap, opens, gapsAfter, letter, later]

/-- **The gaps on one line**: a space before each letter that opens a word, the first one aside. -/
theorem gaps_body {b : Break} (h : ∀ l ∈ b.row, isBlank l.char = false) :
    (gaps b.body).tail = b.row.tail.map Letter.gap := by
  rw [Break.body]
  cases row : b.row with
  | nil =>
      cases b.spaced with
      | true => rfl
      | false => rfl
  | cons l ls =>
      rw [row] at h
      have letter := h l List.mem_cons_self
      rw [spelled, List.cons_append, gaps, gapsAfter, if_neg (by simp [letter]),
        gapsAfter_spaced fun l' hl' => h l' (List.mem_cons_of_mem _ hl')]
      rfl

/-! ### What wrapping keeps -/

/-- What the bodies of lines keep of a text. -/
structure Faithful (text : String) (bodies : List String) : Prop where
  /-- Each of them holds a letter of the text. -/
  inked : ∀ body ∈ bodies, ∃ c ∈ body.toList, isBlank c = false ∧ c ∈ text.toList
  /-- Without their spaces they are the letters of the text. -/
  letters : (bodies.flatMap String.toList).filter (· ≠ ' ') = letters text.toList
  /-- Between two letters on one line there is a space if the text has a gap there, and nothing
  else. -/
  gaps : ∀ earlier body later, bodies = earlier ++ body :: later → ∀ i blanks,
    (gaps body.toList)[i + 1]? = some blanks →
      ∃ gap, (gaps text.toList)[(Text.letters (earlier.flatMap String.toList)).length + (i + 1)]? =
          some gap ∧ blanks = if gap = [] then [] else [' ']

/-- **The lines of a course keep the text.** -/
theorem Draft.Done.faithful {m : Margin} {text : String} {d : Draft} (done : d.Done m text) :
    Faithful text (bodies d.lines) := by
  constructor
  case inked =>
    intro body hbody
    obtain ⟨earlier, later, split⟩ := List.append_of_mem hbody
    obtain ⟨b, bs, suffix, rfl, rfl, _⟩ := bodies_eq_append split
    obtain ⟨l, ls, hls⟩ := List.exists_cons_of_ne_nil (done.row_ne_nil suffix)
    have hl : l ∈ ofWords (words text) := by
      refine (done.held_front suffix).subset (List.mem_append_right _ ?_)
      rw [hls]
      exact List.mem_cons_self
    have char : l.char ∈ letters text.toList := by
      rw [← chars_ofWords_words, ← map_char_ofWords]
      exact List.mem_map_of_mem hl
    refine ⟨l.char, ?_, not_blank_of_mem_ofWords hl, (List.mem_filter.1 char).1⟩
    rw [String.toList_ofList, Break.body, hls, spelled]
    exact List.mem_cons_self
  case letters =>
    have notSpace : ∀ l ∈ held d.lines, decide (l.char ≠ ' ') = true := by
      intro l hl
      refine decide_eq_true ?_
      intro space
      have letter := done.inked List.suffix_rfl l hl
      rw [space] at letter
      exact absurd letter (by decide)
    rw [filter_bodies (by decide) notSpace, done.held_lines, map_char_ofWords, chars_ofWords_words]
  case gaps =>
    intro earlier body later split i blanks hblanks
    obtain ⟨b, bs, suffix, rfl, rfl, _⟩ := bodies_eq_append split
    have inked := done.inked suffix
    have earlierLetters : (letters ((bodies bs).flatMap String.toList)).length =
        (held bs).length := by
      rw [letters_bodies fun l hl => inked l (List.mem_append_left _ hl), List.length_map]
    -- the letter that the gap stands before
    have onLine : (b.row.tail.map Letter.gap)[i]? = some blanks := by
      rw [← gaps_body fun l hl => inked l (List.mem_append_right _ hl), List.getElem?_tail]
      rwa [String.toList_ofList] at hblanks
    rw [List.getElem?_map, List.getElem?_tail, Option.map_eq_some_iff] at onLine
    obtain ⟨l, hl, rfl⟩ := onLine
    have placed : (ofWords (words text))[(held bs).length + (i + 1)]? = some l := by
      obtain ⟨others, whole⟩ := done.held_front suffix
      rw [← whole, held, List.append_assoc, List.getElem?_append_right (Nat.le_add_right _ _),
        Nat.add_sub_cancel_left, List.getElem?_append_left (List.getElem?_eq_some_iff.1 hl).1]
      exact hl
    have marked := congrArg (fun marks => marks[(held bs).length + i]?) (tail_opens_ofWords text)
    simp only [List.getElem?_tail, List.getElem?_map] at marked
    rw [Nat.add_assoc, placed, Option.map_some, eq_comm, Option.map_eq_some_iff] at marked
    obtain ⟨gap, found, opens⟩ := marked
    refine ⟨gap, by rw [earlierLetters]; exact found, ?_⟩
    rw [Letter.gap, ← opens]
    cases gap with
    | nil => rfl
    | cons c gap => rfl

/-- **Wrapping keeps a text.**  A text without letters gives one line, the indent without blanks at its
end.  Any other one gives lines that start with the indents and keep its letters and gaps. -/
theorem wrap_faithful (text : String) (width : Nat) (initial subsequent : String) :
    ((∀ c ∈ text.toList, isBlank c = true) →
        wrapParagraph text width initial subsequent = [trimEnd initial]) ∧
      ((∃ c ∈ text.toList, isBlank c = false) →
        ∃ bodies, bodies ≠ [] ∧
          wrapParagraph text width initial subsequent =
            Margin.indented ⟨width, initial, subsequent⟩ bodies ∧
          Faithful text bodies) := by
  constructor
  · intro blank
    exact wrap_of_blank _ (words_eq_nil_iff.2 blank)
  · rintro ⟨c, hc, letter⟩
    have filled : words text ≠ [] := by
      intro none
      rw [words_eq_nil_iff.1 none c hc] at letter
      cases letter
    obtain ⟨d, done, lines⟩ := exists_done ⟨width, initial, subsequent⟩ filled
    exact ⟨_, by simp [Draft.lines, bodies], lines, done.faithful⟩

/-- A text of blanks, and one with a word that is cut and a gap where a line ends. -/
theorem wrap_blank_and_cut :
    wrapParagraph "  " 4 "* " "  " = ["*"] ∧
      ∃ bodies, ["* ab", "  cd", "  ef", "  g", "  h"] = Margin.indented ⟨4, "* ", "  "⟩ bodies ∧
        Faithful "ab  cdefg h" bodies := by
  have indent : trimEnd "* " = "*" := by decide
  have wrapped : wrapParagraph "ab  cdefg h" 4 "* " "  " =
      ["* ab", "  cd", "  ef", "  g", "  h"] := by decide
  constructor
  · rw [← indent]
    exact (wrap_faithful "  " 4 "* " "  ").1 (List.all_eq_true.1 (by decide))
  · obtain ⟨bodies, _, lines, faithful⟩ :=
      (wrap_faithful "ab  cdefg h" 4 "* " "  ").2 ⟨'a', by simp, by decide⟩
    exact ⟨bodies, wrapped.symm.trans lines, faithful⟩

end Compliance.Text
