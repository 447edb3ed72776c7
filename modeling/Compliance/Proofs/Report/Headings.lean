/-
**The lines of a plain report.**

A step writes whole lines.  If none of the texts in it has a line feed, the lines of the report are
those of its steps, one after the other, and only headings start with a hash sign and a space: every
other line starts with a star, with blanks, with a quotation mark or with a fixed word.

Main definitions:

* `Text.lines` — a text split at its line feeds;
* `Step.title?`, `Step.Tame` — the title of a step, and steps whose lines are what they seem;
* `Snapshot.names` — all license ids and spellings of paths.

Main results:

* `Step.lines_textOf` — the lines of a page are those of its steps;
* `Step.tame_wrapped` — **wrapped paragraphs never look like a heading**;
* `Report.headings_plain` — **the headings of a plain report**.
-/

import Compliance.Proofs.Collections
import Compliance.Proofs.Report.Delivery
import Compliance.Proofs.Text.Wrap
import Mathlib.Data.List.DropRight

set_option relaxedAutoImplicit false
set_option autoImplicit false

namespace Compliance

/-! ### Lines -/

namespace Text

/-- The lines of a text; the last of them is what follows the last line feed. -/
def lines (text : String) : List String := (text.toList.splitOn '\n').map String.ofList

/-- Whether a line starts like a heading. -/
def isHeading (line : String) : Bool := line.toList.take 2 == ['#', ' ']

/-- A text in one line. -/
def OneLine (text : String) : Prop := '\n' ∉ text.toList

instance (text : String) : Decidable (OneLine text) :=
  inferInstanceAs (Decidable ('\n' ∉ text.toList))

theorem OneLine.append {s t : String} (hs : OneLine s) (ht : OneLine t) : OneLine (s ++ t) := by
  rw [OneLine, String.toList_append, List.mem_append]
  rintro (h | h)
  · exact hs h
  · exact ht h

/-- What a line feed ends is a line of its own. -/
theorem lines_push_append {line : String} (h : OneLine line) (rest : String) :
    lines (line.push '\n' ++ rest) = line :: lines rest := by
  rw [lines, String.toList_append, String.toList_push, List.append_assoc, List.singleton_append,
    List.splitOn_append_cons_self_of_not_mem h, List.map_cons, String.ofList_toList]
  rfl

end Text

namespace Step

open Text (OneLine)

theorem textOfLines_cons (line : String) (lines : List String) :
    textOfLines (line :: lines) = line.push '\n' ++ textOfLines lines := by
  simp [textOfLines]

theorem lines_textOfLines_append {lines : List String} (h : ∀ line ∈ lines, OneLine line)
    (rest : String) : Text.lines (textOfLines lines ++ rest) = lines ++ Text.lines rest := by
  induction lines with
  | nil => simp [textOfLines]
  | cons line lines ih =>
      rw [textOfLines_cons, String.append_assoc,
        Text.lines_push_append (h line List.mem_cons_self), List.cons_append,
        ih fun l hl => h l (List.mem_cons_of_mem _ hl)]

/-- The lines of a page are those of its steps. -/
theorem lines_textOf {steps : List Step}
    (h : ∀ step ∈ steps, ∀ line ∈ step.lines, OneLine line) :
    Text.lines (textOf steps) = steps.flatMap lines ++ [""] := by
  induction steps with
  | nil => rfl
  | cons step steps ih =>
      rw [textOf_cons, text, lines_textOfLines_append (h step List.mem_cons_self),
        ih fun s hs => h s (List.mem_cons_of_mem _ hs), List.flatMap_cons, List.append_assoc]

/-! ### Steps without surprises -/

/-- The title of a heading. -/
def title? : Step → Option String
  | heading title => some title
  | _ => none

@[simp] theorem filterMap_title?_heading (title : String) (steps : List Step) :
    (heading title :: steps).filterMap title? = title :: steps.filterMap title? := rfl

/-- A step whose lines are single lines, none of which starts like a heading, except for the first
line of a heading. -/
structure Tame (step : Step) : Prop where
  oneLine : ∀ line ∈ step.lines, OneLine line
  headings : step.lines.filter Text.isHeading = step.title?.toList.map ("# " ++ ·)

theorem tame_heading {title : String} (h : OneLine title) : (heading title).Tame := by
  constructor
  · intro line hline
    rcases List.mem_cons.1 hline with rfl | hline
    · exact OneLine.append (by decide) h
    · rw [List.mem_singleton.1 hline]
      exact List.not_mem_nil
  · have first : Text.isHeading ("# " ++ title) = true := by simp [Text.isHeading]
    rw [lines, List.filter_cons_of_pos first]
    rfl

/-- A single line that does not start like a heading is no surprise. -/
theorem tame_of_line {step : Step} {line : String} (lines : step.lines = [line])
    (title : step.title? = none) (oneLine : OneLine line) (plain : Text.isHeading line = false) :
    step.Tame := by
  constructor
  · intro l hl
    rw [lines] at hl
    rwa [List.mem_singleton.1 hl]
  · rw [lines, title, List.filter_cons_of_neg (by rw [plain]; exact Bool.false_ne_true)]
    rfl

theorem isHeading_star (text : String) : Text.isHeading ("* " ++ text) = false := by
  simp [Text.isHeading]

theorem tame_bullet {item : String} (h : OneLine item) : (bullet item).Tame :=
  tame_of_line rfl rfl (OneLine.append (by decide) h) (isHeading_star item)

theorem tame_labeled {label value : String} (hl : OneLine label) (hv : OneLine value) :
    (labeled label value).Tame := by
  have starred : OneLine ("* " ++ label) := OneLine.append (by decide) hl
  by_cases empty : value = ""
  · have only : (labeled label value).lines = ["* " ++ label] := by
      rw [lines, if_pos empty]
    exact tame_of_line only rfl starred (isHeading_star label)
  · have only : (labeled label value).lines = ["* " ++ label ++ " " ++ value] := by
      rw [lines, if_neg empty]
    refine tame_of_line only rfl ((starred.append (by decide)).append hv) ?_
    rw [String.append_assoc, String.append_assoc]
    exact isHeading_star _

theorem tame_line {text : String} (h : OneLine text) (plain : Text.isHeading text = false) :
    (line text).Tame := tame_of_line rfl rfl h plain

theorem tame_blank : blank.Tame := tame_of_line rfl rfl List.not_mem_nil rfl

theorem tame_flush : flush.Tame := ⟨fun _ h => absurd h List.not_mem_nil, rfl⟩

/-- A line of a paragraph before its end is trimmed: one line that starts with a star or a blank. -/
structure Indented (line : String) : Prop where
  start : line.toList.head? = some '*' ∨ line.toList.head? = some ' '
  oneLine : OneLine line

theorem Indented.push {line : String} (h : Indented line) {c : Char} (hc : c ≠ '\n') :
    Indented (line.push c) := by
  constructor
  · rw [String.toList_push]
    rcases h.start with start | start
    · exact .inl (by rw [List.head?_append, start]; rfl)
    · exact .inr (by rw [List.head?_append, start]; rfl)
  · rw [OneLine, String.toList_push, List.mem_append, List.mem_singleton]
    rintro (same | same)
    · exact h.oneLine same
    · exact hc same.symm

theorem indented_keeps : Text.Margin.Keeps ⟨pageWidth, "* ", "  "⟩ Indented where
  initial := ⟨.inl rfl, by decide⟩
  subsequent := ⟨.inr rfl, by decide⟩
  space := fun _ h => h.push (by decide)
  letter := fun _ c h letter => h.push (by rintro rfl; exact Bool.false_ne_true letter.symm)

/-- What is left of an indented line is one line, and none that starts like a heading. -/
theorem Indented.plain_of_isPrefix {line whole : String} (h : Indented whole)
    (front : line.toList <+: whole.toList) : OneLine line ∧ Text.isHeading line = false := by
  refine ⟨fun hfeed => h.oneLine (front.subset hfeed), ?_⟩
  cases chars : line.toList with
  | nil =>
      rw [Text.isHeading, chars]
      rfl
  | cons c cs =>
      rw [chars] at front
      obtain ⟨rest, eq⟩ := front
      have start := h.start
      rw [← eq, List.cons_append, List.head?_cons, Option.some.injEq, Option.some.injEq] at start
      rw [Text.isHeading, chars]
      rcases start with rfl | rfl
      · cases cs <;> simp
      · cases cs <;> simp

/-- **A wrapped paragraph never looks like a heading**, whatever its text. -/
theorem tame_wrapped (text : String) : (wrapped text).Tame := by
  have all : ∀ line ∈ (wrapped text).lines, OneLine line ∧ Text.isHeading line = false := by
    intro line hline
    obtain ⟨whole, indented, rfl | rfl⟩ := Text.Margin.wrap_forall indented_keeps text line hline
    · exact indented.plain_of_isPrefix (List.prefix_refl _)
    · refine indented.plain_of_isPrefix ?_
      rw [Text.trimEnd, String.toList_ofList]
      exact List.rdropWhile_prefix Text.isBlank _
  refine ⟨fun line hline => (all line hline).1, List.filter_eq_nil_iff.2 fun line hline => ?_⟩
  rw [(all line hline).2]
  exact Bool.false_ne_true

/-- **The headings of a page without surprises** are its titles. -/
theorem headings_textOf {steps : List Step} (h : ∀ step ∈ steps, step.Tame) :
    (Text.lines (textOf steps)).filter Text.isHeading =
      (steps.filterMap title?).map ("# " ++ ·) := by
  rw [lines_textOf fun step hstep => (h step hstep).oneLine, List.filter_append]
  have none : List.filter Text.isHeading [""] = [] := rfl
  rw [none, List.append_nil]
  -- a step adds its title, if it has one, and no other line that looks like a heading
  induction steps with
  | nil => rfl
  | cons step steps ih =>
      rw [List.flatMap_cons, List.filter_append, (h step List.mem_cons_self).headings,
        ih fun s hs => h s (List.mem_cons_of_mem _ hs)]
      cases title : step.title? with
      | none => rw [List.filterMap_cons_none title]; rfl
      | some t => rw [List.filterMap_cons_some title]; rfl

end Step

/-! ### Names in a report -/

/-- The license ids and the paths of a snapshot. -/
def Snapshot.names (s : Snapshot) : List String :=
  (s.badLicenses.toList ++ s.missingLicenses.toList).flatMap
      (fun (license, files) => license :: files.toList.map (·.spelling)) ++
    s.licensesWithoutExtension.toList.flatMap (fun (license, path) => [license, path.spelling]) ++
    s.deprecatedLicenses.toList ++ s.unusedLicenses.toList ++ s.usedLicenses.toList ++
    s.readErrors.toList.map (·.spelling) ++ s.filesWithoutCopyright.toList.map (·.spelling) ++
    s.filesWithoutLicenses.toList.map (·.spelling)

/-- The license ids and the paths that a plain report shows, each of them in one line. -/
structure Classification.OneLiners (c : Classification) : Prop where
  badLicenses : ∀ e ∈ c.badLicenses.toList,
    Text.OneLine e.1 ∧ ∀ path ∈ e.2.toList, Text.OneLine path
  deprecatedLicenses : ∀ id ∈ c.deprecatedLicenses.toList, Text.OneLine id
  licensesWithoutExtension : ∀ e ∈ c.licensesWithoutExtension.toList,
    Text.OneLine e.1 ∧ Text.OneLine e.2
  missingLicenses : ∀ e ∈ c.missingLicenses.toList,
    Text.OneLine e.1 ∧ ∀ path ∈ e.2.toList, Text.OneLine path
  unusedLicenses : ∀ id ∈ c.unusedLicenses.toList, Text.OneLine id
  usedLicenses : ∀ id ∈ c.usedLicenses.toList, Text.OneLine id
  readErrors : ∀ path ∈ c.readErrors.toList, Text.OneLine path
  both : ∀ path ∈ c.missingInfo.both.toList, Text.OneLine path
  copyrightOnly : ∀ path ∈ c.missingInfo.copyrightOnly.toList, Text.OneLine path
  licensingOnly : ∀ path ∈ c.missingInfo.licensingOnly.toList, Text.OneLine path

/-- A report shows names of its snapshot only. -/
theorem Snapshot.oneLiners_classify {s : Snapshot} (h : ∀ name ∈ s.names, Text.OneLine name) :
    s.classify.OneLiners := by
  simp only [names, List.forall_mem_append, List.forall_mem_flatMap, List.forall_mem_cons] at h
  obtain ⟨⟨⟨⟨⟨⟨⟨⟨bad, missing⟩, extensionless⟩, deprecated⟩, unused⟩, used⟩, errors⟩, copyright⟩,
    licensing⟩ := h
  have spelled : ∀ {files : PathSet}, (∀ path ∈ files.toList.map (·.spelling), Text.OneLine path) →
      ∀ path ∈ files.spellings.toList, Text.OneLine path := by
    intro files h path hpath
    exact h path (PathSet.mem_spellings.1 hpath)
  have listed : ∀ {files : StringMap PathSet},
      (∀ e ∈ files.toList, Text.OneLine e.1 ∧
        ∀ path ∈ e.2.toList.map (·.spelling), Text.OneLine path) →
      ∀ e ∈ (files.map PathSet.spellings).toList,
        Text.OneLine e.1 ∧ ∀ path ∈ e.2.toList, Text.OneLine path := by
    intro files h e he
    obtain ⟨d, hd, rfl⟩ := List.mem_map.1 he
    exact ⟨(h d hd).1, spelled (h d hd).2⟩
  have part : ∀ {files : PathSet} {test : String → Bool},
      (∀ path ∈ files.toList.map (·.spelling), Text.OneLine path) →
      ∀ path ∈ (files.spellings.filter test).toList, Text.OneLine path := by
    intro files test h path hpath
    exact spelled h path (StringSet.mem_filter.1 hpath).1
  exact {
    badLicenses := listed bad
    deprecatedLicenses := deprecated
    licensesWithoutExtension := by
      intro e he
      obtain ⟨d, hd, rfl⟩ := List.mem_map.1 he
      exact ⟨(extensionless d hd).1, (extensionless d hd).2.1⟩
    missingLicenses := listed missing
    unusedLicenses := unused
    usedLicenses := used
    readErrors := spelled errors
    both := part copyright
    copyrightOnly := part copyright
    licensingOnly := part licensing }

/-! ### Sections -/

namespace Step

open Text (OneLine)

/-- Steps without surprises and without a title. -/
def TameBody (steps : List Step) : Prop := ∀ step ∈ steps, step.Tame ∧ step.title? = none

theorem tameBody_listing {lead : String} {items : List String} (hl : OneLine lead)
    (plain : Text.isHeading lead = false) (hi : ∀ item ∈ items, OneLine item) :
    TameBody (listing lead items) := by
  intro step h
  rcases mem_listing.1 h with rfl | ⟨item, hitem, rfl⟩ | rfl
  · exact ⟨tame_line hl plain, rfl⟩
  · exact ⟨tame_bullet (hi item hitem), rfl⟩
  · exact ⟨tame_blank, rfl⟩

theorem tameBody_licenseListings {files : StringMap StringSet}
    (h : ∀ e ∈ files.toList, OneLine e.1 ∧ ∀ path ∈ e.2.toList, OneLine path) :
    TameBody (licenseListings files) := by
  intro step hstep
  obtain ⟨⟨license, paths⟩, he, hstep⟩ := List.mem_flatMap.1 hstep
  obtain ⟨oneLine, oneLines⟩ := h _ he
  refine tameBody_listing ?_ ?_ oneLines step hstep
  · exact (OneLine.append (by decide) oneLine).append (by decide)
  · simp [Text.isHeading]

theorem tameBody_listingUnlessEmpty {lead : String} {items : StringSet} (hl : OneLine lead)
    (plain : Text.isHeading lead = false) (hi : ∀ item ∈ items.toList, OneLine item) :
    TameBody (listingUnlessEmpty lead items) := by
  unfold listingUnlessEmpty
  split
  · exact fun _ h => absurd h List.not_mem_nil
  · exact tameBody_listing hl plain hi

theorem filterMap_title?_of_tameBody {steps : List Step} (h : TameBody steps) :
    steps.filterMap title? = [] :=
  List.filterMap_eq_nil_iff.2 fun step hstep => (h step hstep).2

end Step

namespace Classification

open Text (OneLine)

variable {c : Classification}

theorem tameBody_details (h : c.OneLiners) (category : Category) :
    Step.TameBody (c.details category) := by
  cases category with
  | badLicenses => exact Step.tameBody_licenseListings h.badLicenses
  | deprecatedLicenses =>
      exact Step.tameBody_listing (by decide) (by decide) h.deprecatedLicenses
  | licensesWithoutExtension =>
      refine Step.tameBody_listing (by decide) (by decide) fun path hpath => ?_
      rw [extensionlessPaths, List.mem_mergeSort] at hpath
      obtain ⟨e, he, rfl⟩ := List.mem_map.1 hpath
      exact (h.licensesWithoutExtension e he).2
  | missingLicenses => exact Step.tameBody_licenseListings h.missingLicenses
  | unusedLicenses => exact Step.tameBody_listing (by decide) (by decide) h.unusedLicenses
  | readErrors => exact Step.tameBody_listing (by decide) (by decide) h.readErrors
  | missingCopyrightOrLicensing =>
      intro step hstep
      rw [details, List.mem_append, List.mem_append] at hstep
      rcases hstep with (hstep | hstep) | hstep
      · exact Step.tameBody_listingUnlessEmpty (by decide) (by decide) h.both step hstep
      · exact Step.tameBody_listingUnlessEmpty (by decide) (by decide) h.copyrightOnly step hstep
      · exact Step.tameBody_listingUnlessEmpty (by decide) (by decide) h.licensingOnly step hstep

theorem tame_sections (h : c.OneLiners) : ∀ step ∈ c.sections, step.Tame := by
  intro step hstep
  obtain ⟨category, _, rfl | hstep | rfl⟩ := mem_sections.1 hstep
  · refine Step.tame_heading ?_
    cases category <;> decide
  · exact (tameBody_details h category step hstep).1
  · exact Step.tame_blank

/-- The titles of the sections are those of the active categories. -/
theorem titles_sections (h : c.OneLiners) :
    c.sections.filterMap Step.title? = c.active.map Category.title := by
  have each : ∀ category, (c.sectionOf category).filterMap Step.title? = [category.title] := by
    intro category
    have none := Step.filterMap_title?_of_tameBody (tameBody_details h category)
    rw [sectionOf, List.cons_append, Step.filterMap_title?_heading, List.filterMap_append, none]
    rfl
  rw [sections, List.filterMap_flatMap, List.map_eq_flatMap]
  simp only [each]

/-! ### Summaries -/

theorem oneLine_joined {ids : List String} (h : ∀ id ∈ ids, OneLine id) :
    OneLine (Summary.joined ids) := by
  rw [Summary.joined]
  induction ids with
  | nil => decide
  | cons id ids ih =>
      have first : OneLine id := h id List.mem_cons_self
      have others : OneLine (", ".intercalate ids) :=
        ih fun later hlater => h later (List.mem_cons_of_mem _ hlater)
      by_cases last : ids = []
      · rwa [last, String.intercalate_singleton]
      · rw [String.intercalate_cons_of_ne_nil last]
        exact (first.append (by decide)).append others

theorem oneLine_toString (n : Nat) : OneLine (toString n) := by
  intro h
  rw [Nat.toString_eq_ofList_toDigits, String.toList_ofList] at h
  exact absurd (Nat.isDigit_of_mem_toDigits (by decide) (by decide) h) (by decide)

theorem oneLine_ratio (r : Ratio) : OneLine r.text :=
  ((oneLine_toString _).append (by decide)).append (oneLine_toString _)

theorem tame_summarySteps (h : c.OneLiners) :
    ∀ step ∈ Report.summarySteps c.summary, step.Tame := by
  have keys : ∀ {α : Type} {m : StringMap α}, (∀ e ∈ m.toList, OneLine e.1) →
      OneLine (Summary.joined m.keys) := by
    intro α m h
    refine oneLine_joined fun id hid => ?_
    obtain ⟨e, he, rfl⟩ := List.mem_map.1 hid
    exact h e he
  have values : ∀ line ∈ c.summary.lines, OneLine line.1 ∧ OneLine line.2 := by
    simp only [Summary.lines, List.forall_mem_cons, summary]
    refine ⟨⟨by decide, keys fun e he => (h.badLicenses e he).1⟩,
      ⟨by decide, oneLine_joined h.deprecatedLicenses⟩,
      ⟨by decide, keys fun e he => (h.licensesWithoutExtension e he).1⟩,
      ⟨by decide, keys fun e he => (h.missingLicenses e he).1⟩,
      ⟨by decide, oneLine_joined h.unusedLicenses⟩,
      ⟨by decide, oneLine_joined h.usedLicenses⟩,
      ⟨by decide, oneLine_toString _⟩,
      ⟨by decide, oneLine_ratio _⟩,
      ⟨by decide, oneLine_ratio _⟩,
      fun _ h => absurd h List.not_mem_nil⟩
  intro step hstep
  rcases Report.mem_summarySteps.1 hstep with rfl | ⟨line, hline, rfl⟩ | rfl
  · exact Step.tame_heading (by decide)
  · exact Step.tame_labeled (values line hline).1 (values line hline).2
  · exact Step.tame_blank

/-- The recommendations have a heading if there are any. -/
theorem tame_recommendations : ∀ step ∈ c.recommendations, step.Tame := by
  intro step hstep
  rcases (mem_recommendations.1 hstep).2 with rfl | rfl | ⟨category, _, rfl⟩
  · exact Step.tame_blank
  · exact Step.tame_heading (by decide)
  · exact Step.tame_wrapped _

theorem titles_recommendations :
    c.recommendations.filterMap Step.title? = if c.compliant then [] else ["RECOMMENDATIONS"] := by
  unfold recommendations
  split
  · rfl
  · have none : (c.active.map fun category => Step.wrapped category.advice).filterMap
        Step.title? = [] := by
      rw [List.filterMap_eq_nil_iff]
      intro step hstep
      obtain ⟨category, _, rfl⟩ := List.mem_map.1 hstep
      rfl
    rw [List.filterMap_cons_none rfl, Step.filterMap_title?_heading, none]

end Classification

/-! ### Plain reports -/

namespace Report

open Text (OneLine)

theorem isHeading_verdict (compliant : Bool) (specVersion : String) :
    Text.isHeading (verdict compliant specVersion) = false := by
  cases compliant <;> simp [verdict, Text.isHeading]

theorem oneLine_verdict {specVersion : String} (h : OneLine specVersion) (compliant : Bool) :
    OneLine (verdict compliant specVersion) := by
  cases compliant
  · exact (OneLine.append (by decide) h).append (by decide)
  · exact (OneLine.append (by decide) h).append (by decide)

/-- A plain report of names in one line has no surprises. -/
theorem tame_plainSteps {s : Snapshot} {specVersion : String}
    (names : ∀ name ∈ s.names, OneLine name) (version : OneLine specVersion) :
    ∀ step ∈ (ofSnapshot s specVersion).plainSteps, step.Tame := by
  have oneLiners := Snapshot.oneLiners_classify names
  intro step hstep
  rcases mem_plainSteps.1 hstep with hstep | hstep | rfl | hstep | rfl
  · exact Classification.tame_sections oneLiners step hstep
  · exact Classification.tame_summarySteps oneLiners step hstep
  · exact Step.tame_line (oneLine_verdict version _) (isHeading_verdict _ _)
  · exact Classification.tame_recommendations step hstep
  · exact Step.tame_flush

/-- **The headings of a plain report** are those of the active categories, of the summary and, unless
the project is compliant, of the recommendations. -/
theorem headings_plain {s : Snapshot} {specVersion : String}
    (names : ∀ name ∈ s.names, OneLine name) (version : OneLine specVersion) :
    (Text.lines ((ofSnapshot s specVersion).text .plain)).filter Text.isHeading =
      (s.classify.active.map Category.title ++ ["SUMMARY"] ++
        if s.classify.compliant then [] else ["RECOMMENDATIONS"]).map ("# " ++ ·) := by
  have oneLiners := Snapshot.oneLiners_classify names
  have titles : (ofSnapshot s specVersion).plainSteps.filterMap Step.title? =
      s.classify.active.map Category.title ++ ["SUMMARY"] ++
        if s.classify.compliant then [] else ["RECOMMENDATIONS"] := by
    have summary : (summarySteps s.classify.summary).filterMap Step.title? = ["SUMMARY"] := rfl
    have flush : [Step.flush].filterMap Step.title? = [] := rfl
    rw [plainSteps, List.filterMap_append, List.filterMap_append, List.filterMap_append, flush,
      List.append_nil, List.filterMap_cons_none rfl]
    rw [ofSnapshot, Report.summary, summary, Classification.titles_sections oneLiners,
      Classification.titles_recommendations]
  rw [text, steps, Step.headings_textOf (tame_plainSteps names version), titles]

end Report

end Compliance
