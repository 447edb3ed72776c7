/-
**Ends of the lines of a plain report.**

What a plain report lists are names of its snapshot, and every line of it ends in a name, in digits or
in a fixed letter.  A bullet without a value is left without a space behind it, and the paragraphs of
advice are in letters of one column, which strand no space where they are wrapped.  So if no name is
empty or ends in a blank, no line does.

Main definitions:

* `Text.Narrow` — a text of letters that take one column at most;
* `Step.Trimmed` — a step none of whose lines ends in a blank.

Main results:

* `Report.forall_items` — what a report lists are names of its snapshot;
* `Step.trimmed_advice` — **advice is wrapped without a blank at the end of a line**;
* `Report.trimmed_plain` — **no line of a plain report ends in a blank**, and the last one is ended.
-/

import Compliance.Proofs.Report.Outline
import Compliance.Proofs.Text.LineEnds
import Compliance.Proofs.Text.Width

set_option relaxedAutoImplicit false
set_option autoImplicit false

namespace Compliance

/-! ### Narrow texts -/

namespace Text

/-- A text of characters below the soft hyphen, which take one column at most. -/
def Narrow (s : String) : Prop := ∀ c ∈ s.toList, c.toNat < 0xAD

theorem narrow_append {s t : String} : Narrow (s ++ t) ↔ Narrow s ∧ Narrow t := by
  rw [Narrow, String.toList_append, List.forall_mem_append]
  rfl

theorem narrow_ofList {cs : List Char} (h : cs.all (·.toNat < 0xAD) = true) :
    Narrow (String.ofList cs) := by
  rw [Narrow, String.toList_ofList]
  exact fun c hc => of_decide_eq_true (List.all_eq_true.1 h c hc)

/-- A narrow text is wrapped without a blank at the end of a line. -/
theorem Narrow.not_endsBlank_of_mem_wrap {text : String} (h : Narrow text) (m : Margin) :
    ∀ line ∈ m.wrap text, endsBlank line = false := by
  -- a space is stranded only before a letter of two columns
  refine m.not_endsBlank_of_narrow fun w hw c cs word => ?_
  have opens : c ∈ w.toList := by
    rw [word]
    exact List.mem_cons_self
  exact charWidth_le_one (h c (mem_of_mem_words hw opens))

end Text

theorem Category.narrow_advice (category : Category) : Text.Narrow category.advice := by
  cases category <;>
  · unfold advice
    repeat' rw [Text.narrow_append]
    and_intros <;> exact Text.narrow_ofList (by decide +kernel)

theorem Category.trimmed_title (category : Category) :
    category.title ≠ "" ∧ Text.endsBlank category.title = false := by
  cases category <;> decide

/-! ### Steps -/

namespace Step

open Text (endsBlank endsBlank_append)

/-- A step none of whose lines ends in a blank. -/
def Trimmed (step : Step) : Prop := ∀ line ∈ step.lines, endsBlank line = false

variable {name label value : String}

theorem trimmed_of_line {step : Step} {line : String} (lines : step.lines = [line])
    (h : endsBlank line = false) : step.Trimmed := by
  intro l hl
  rw [lines, List.mem_singleton] at hl
  rwa [hl]

theorem trimmed_heading (filled : name ≠ "") (h : endsBlank name = false) :
    (heading name).Trimmed := by
  intro line hline
  rcases List.mem_cons.1 hline with rfl | hline
  · rwa [endsBlank_append filled]
  · rw [List.mem_singleton.1 hline]
    rfl

theorem trimmed_bullet (filled : name ≠ "") (h : endsBlank name = false) :
    (bullet name).Trimmed := by
  refine trimmed_of_line rfl ?_
  rwa [endsBlank_append filled]

theorem trimmed_line (h : endsBlank name = false) : (line name).Trimmed := trimmed_of_line rfl h

theorem trimmed_blank : blank.Trimmed := trimmed_of_line rfl rfl

theorem trimmed_flush : flush.Trimmed := fun _ h => absurd h List.not_mem_nil

/-- A bullet without a value ends in its label. -/
theorem trimmed_labeled (filled : label ≠ "") (hl : endsBlank label = false)
    (hv : endsBlank value = false) : (labeled label value).Trimmed := by
  refine trimmed_of_line rfl ?_
  by_cases empty : value = ""
  · rwa [if_pos empty, endsBlank_append filled]
  · rwa [if_neg empty, endsBlank_append empty]

/-- **Advice is wrapped without a blank at the end of a line.** -/
theorem trimmed_advice (category : Category) : (wrapped category.advice).Trimmed :=
  category.narrow_advice.not_endsBlank_of_mem_wrap _

/-- A listing ends its lines as its lead and its items do. -/
theorem trimmed_listing {items : List String} (lead : endsBlank name = false)
    (h : ∀ item ∈ items, item ≠ "" ∧ endsBlank item = false) :
    ∀ step ∈ listing name items, step.Trimmed := by
  intro step hstep
  rcases mem_listing.1 hstep with rfl | ⟨item, hitem, rfl⟩ | rfl
  · exact trimmed_line lead
  · exact trimmed_bullet (h item hitem).1 (h item hitem).2
  · exact trimmed_blank

end Step

/-! ### Listings -/

theorem Listing.eq_of_mem_unlessEmpty {l : Listing} {lead : String} {items : List String}
    {h : lead ≠ ""} (hl : l ∈ unlessEmpty lead items h) : l = ⟨lead, items, h⟩ := by
  unfold unlessEmpty at hl
  split at hl
  · cases hl
  · exact List.mem_singleton.1 hl

namespace Record

open Text (endsBlank endsBlank_append)

variable {r : Record} {category : Category} {l : Listing}

/-- No line that leads in ends in a blank, whatever it leads to. -/
theorem endsBlank_lead (hl : l ∈ r.listings category) : endsBlank l.lead = false := by
  have license : ∀ {files : StringMap StringSet}, l ∈ files.toList.map Listing.ofLicense →
      endsBlank l.lead = false := by
    intro files hl
    obtain ⟨e, _, rfl⟩ := List.mem_map.1 hl
    rw [Listing.ofLicense, endsBlank_append (by decide)]
    decide
  have fixed : ∀ {lead : String} {items : List String} {h : lead ≠ ""},
      l ∈ Listing.unlessEmpty lead items h → endsBlank lead = false → endsBlank l.lead = false := by
    intro lead items h hl ends
    rwa [Listing.eq_of_mem_unlessEmpty hl]
  cases category with
  | badLicenses => exact license hl
  | deprecatedLicenses => exact fixed hl (by decide)
  | licensesWithoutExtension => exact fixed hl (by decide)
  | missingLicenses => exact license hl
  | unusedLicenses => exact fixed hl (by decide)
  | readErrors => exact fixed hl (by decide)
  | missingCopyrightOrLicensing =>
      rw [listings, List.mem_append, List.mem_append] at hl
      rcases hl with (hl | hl) | hl
      · exact fixed hl (by decide)
      · exact fixed hl (by decide)
      · exact fixed hl (by decide)

end Record

/-! ### Names that a report shows -/

namespace Report

variable {s : Snapshot} {specVersion : String} {P : String → Prop}

/-- **What a report lists are names of its snapshot**, so what all names have, all items have. -/
theorem forall_items (names : ∀ name ∈ s.names, P name) {category : Category} {l : Listing}
    (hl : l ∈ (ofSnapshot s specVersion).record.listings category) : ∀ item ∈ l.items, P item := by
  simp only [Snapshot.names, List.forall_mem_append, List.forall_mem_flatMap,
    List.forall_mem_cons] at names
  obtain ⟨⟨⟨⟨⟨⟨⟨⟨bad, missing⟩, extensionless⟩, deprecated⟩, unused⟩, _⟩, errors⟩, copyright⟩,
    licensing⟩ := names
  have spelled : ∀ {files : PathSet}, (∀ path ∈ files.toList.map (·.spelling), P path) →
      ∀ path ∈ files.spellings.toList, P path := fun named path hpath =>
    named path (PathSet.mem_spellings.1 hpath)
  have part : ∀ {files : PathSet} {test : String → Bool},
      (∀ path ∈ files.toList.map (·.spelling), P path) →
      ∀ path ∈ (files.spellings.filter test).toList, P path := fun named path hpath =>
    spelled named path (StringSet.mem_filter.1 hpath).1
  have license : ∀ {files : StringMap PathSet},
      (∀ e ∈ files.toList, P e.1 ∧ ∀ path ∈ e.2.toList.map (·.spelling), P path) →
      l ∈ (files.map PathSet.spellings).toList.map Listing.ofLicense → ∀ item ∈ l.items, P item := by
    intro files named hl
    obtain ⟨e, he, rfl⟩ := List.mem_map.1 hl
    obtain ⟨d, hd, rfl⟩ := List.mem_map.1 he
    exact spelled (named d hd).2
  have listed : ∀ {lead : String} {items : List String} {h : lead ≠ ""},
      (∀ item ∈ items, P item) → l ∈ Listing.unlessEmpty lead items h → ∀ item ∈ l.items, P item := by
    intro lead items h named hl
    rwa [Listing.eq_of_mem_unlessEmpty hl]
  cases category with
  | badLicenses => exact license bad hl
  | deprecatedLicenses => exact listed deprecated hl
  | licensesWithoutExtension =>
      refine listed (fun path hpath => ?_) hl
      obtain ⟨e, he, rfl⟩ := List.mem_map.1 (List.mem_mergeSort.1 hpath)
      obtain ⟨d, hd, rfl⟩ := List.mem_map.1 he
      exact (extensionless d hd).2.1
  | missingLicenses => exact license missing hl
  | unusedLicenses => exact listed unused hl
  | readErrors => exact listed (spelled errors) hl
  | missingCopyrightOrLicensing =>
      rw [Record.listings, List.mem_append, List.mem_append] at hl
      rcases hl with (hl | hl) | hl
      · exact listed (part copyright) hl
      · exact listed (part copyright) hl
      · exact listed (part licensing) hl

end Report

/-! ### Summaries -/

namespace Summary

open Text (endsBlank endsBlank_append)

theorem joined_ne_empty {ids : List String} (some : ids ≠ []) (h : ∀ id ∈ ids, id ≠ "") :
    joined ids ≠ "" := by
  obtain ⟨id, later, rfl⟩ := List.exists_cons_of_ne_nil some
  have filled : id ≠ "" := h id List.mem_cons_self
  by_cases last : later = []
  · rwa [last, joined, String.intercalate_singleton]
  · rw [joined, String.intercalate_cons_of_ne_nil last]
    simp [filled]

/-- Ids in one line end as the last of them does. -/
theorem endsBlank_joined {ids : List String} (h : ∀ id ∈ ids, id ≠ "" ∧ endsBlank id = false) :
    endsBlank (joined ids) = false := by
  induction ids with
  | nil => rfl
  | cons id ids ih =>
      by_cases last : ids = []
      · rw [last, joined, String.intercalate_singleton]
        exact (h id List.mem_cons_self).2
      · have later : ∀ id ∈ ids, id ≠ "" ∧ endsBlank id = false := fun id hid =>
          h id (List.mem_cons_of_mem _ hid)
        have filled : joined ids ≠ "" := joined_ne_empty last fun id hid => (later id hid).1
        rw [joined, String.intercalate_cons_of_ne_nil last]
        exact (endsBlank_append filled _).trans (ih later)

theorem endsBlank_toString (n : Nat) : endsBlank (toString n) = false := by
  refine Text.endsBlank_of_letters fun c hc => ?_
  rw [Nat.toString_eq_ofList_toDigits, String.toList_ofList] at hc
  have digit := Json.bounds_of_isDigit (Nat.isDigit_of_mem_toDigits (by decide) (by decide) hc)
  exact Text.inRanges_eq_false 48 57 (by decide) digit.1 digit.2

theorem endsBlank_ratio (r : Ratio) : endsBlank r.text = false := by
  rw [Ratio.text, endsBlank_append (by simp)]
  exact endsBlank_toString _

end Summary

namespace Report

open Text (endsBlank endsBlank_append)

variable {s : Snapshot} {specVersion : String}

/-- No line of the summary ends in a blank, whether its values are empty or not. -/
theorem trimmed_summarySteps
    (names : ∀ name ∈ s.names, name ≠ "" ∧ endsBlank name = false) :
    ∀ step ∈ summarySteps s.classify.summary, step.Trimmed := by
  simp only [Snapshot.names, List.forall_mem_append, List.forall_mem_flatMap,
    List.forall_mem_cons] at names
  obtain ⟨⟨⟨⟨⟨⟨⟨⟨bad, missing⟩, extensionless⟩, deprecated⟩, unused⟩, used⟩, _⟩, _⟩, _⟩ := names
  have keys : ∀ {α β : Type} {m : StringMap α} {f : α → β},
      (∀ e ∈ m.toList, e.1 ≠ "" ∧ endsBlank e.1 = false) →
      endsBlank (Summary.joined (m.map f).keys) = false := by
    intro α β m f named
    rw [StringMap.keys_map]
    refine Summary.endsBlank_joined fun id hid => ?_
    obtain ⟨e, he, rfl⟩ := List.mem_map.1 hid
    exact named e he
  -- an empty value does not end in a blank, so nothing is asked of lists that have no ids
  have values : ∀ line ∈ s.classify.summary.lines,
      (line.1 ≠ "" ∧ endsBlank line.1 = false) ∧ endsBlank line.2 = false := by
    simp only [Summary.lines, List.forall_mem_cons, Classification.summary]
    refine ⟨⟨by decide, keys fun e he => (bad e he).1⟩,
      ⟨by decide, Summary.endsBlank_joined deprecated⟩,
      ⟨by decide, keys fun e he => (extensionless e he).1⟩,
      ⟨by decide, keys fun e he => (missing e he).1⟩,
      ⟨by decide, Summary.endsBlank_joined unused⟩,
      ⟨by decide, Summary.endsBlank_joined used⟩,
      ⟨by decide, Summary.endsBlank_toString _⟩,
      ⟨by decide, Summary.endsBlank_ratio _⟩,
      ⟨by decide, Summary.endsBlank_ratio _⟩,
      fun _ h => absurd h List.not_mem_nil⟩
  intro step hstep
  rcases mem_summarySteps.1 hstep with rfl | ⟨line, hline, rfl⟩ | rfl
  · exact Step.trimmed_heading (by decide) (by decide)
  · exact Step.trimmed_labeled (values line hline).1.1 (values line hline).1.2 (values line hline).2
  · exact Step.trimmed_blank

/-! ### Whole reports -/

/-- No line of a section ends in a blank. -/
theorem trimmed_sections (names : ∀ name ∈ s.names, name ≠ "" ∧ endsBlank name = false) :
    ∀ step ∈ (ofSnapshot s specVersion).classification.sections, step.Trimmed := by
  intro step hstep
  rw [sections_eq_outline] at hstep
  obtain ⟨part, hpart, hstep⟩ := List.mem_flatMap.1 hstep
  obtain ⟨category, _, rfl⟩ := List.mem_map.1 hpart
  rw [Section.steps, List.cons_append, List.mem_cons, List.mem_append, List.mem_singleton] at hstep
  rcases hstep with rfl | hstep | rfl
  · exact Step.trimmed_heading category.trimmed_title.1 category.trimmed_title.2
  · obtain ⟨l, hl, hstep⟩ := List.mem_flatMap.1 hstep
    exact Step.trimmed_listing (Record.endsBlank_lead hl) (forall_items names hl) step hstep
  · exact Step.trimmed_blank

theorem trimmed_recommendations {c : Classification} : ∀ step ∈ c.recommendations, step.Trimmed := by
  intro step hstep
  rcases (Classification.mem_recommendations.1 hstep).2 with rfl | rfl | ⟨category, _, rfl⟩
  · exact Step.trimmed_blank
  · exact Step.trimmed_heading (by decide) (by decide)
  · exact Step.trimmed_advice category

/-- The sentence with the verdict ends in a mark, whatever the version. -/
theorem endsBlank_verdict (compliant : Bool) (specVersion : String) :
    endsBlank (verdict compliant specVersion) = false := by
  cases compliant
  · exact (endsBlank_append (by decide) _).trans (by decide)
  · exact (endsBlank_append (by decide) _).trans (by decide)

theorem trimmed_plainSteps (names : ∀ name ∈ s.names, name ≠ "" ∧ endsBlank name = false) :
    ∀ step ∈ (ofSnapshot s specVersion).plainSteps, step.Trimmed := by
  intro step hstep
  rcases mem_plainSteps.1 hstep with hstep | hstep | rfl | hstep | rfl
  · exact trimmed_sections names step hstep
  · exact trimmed_summarySteps names step hstep
  · exact Step.trimmed_line (endsBlank_verdict _ _)
  · exact trimmed_recommendations step hstep
  · exact Step.trimmed_flush

end Report

/-! ### The end of a page -/

namespace Step

theorem textOfLines_append (front back : List String) :
    textOfLines (front ++ back) = textOfLines front ++ textOfLines back := by
  simp [textOfLines]

theorem textOf_eq_textOfLines (steps : List Step) :
    textOf steps = textOfLines (steps.flatMap lines) := by
  induction steps with
  | nil => rfl
  | cons step steps ih => rw [textOf_cons, ih, List.flatMap_cons, text, textOfLines_append]

/-- A page that has lines ends in a line feed. -/
theorem getLast?_textOf {steps : List Step} (filled : steps.flatMap lines ≠ []) :
    (textOf steps).toList.getLast? = some '\n' := by
  obtain ⟨front, last, split⟩ := (List.eq_nil_or_concat' _).resolve_left filled
  rw [textOf_eq_textOfLines, split, textOfLines_append, textOfLines_cons, String.toList_append,
    String.toList_append, String.toList_push]
  simp [textOfLines]

end Step

namespace Report

open Text (endsBlank)

variable {s : Snapshot} {specVersion : String}

/-- **No line of a plain report ends in a blank**, if the license ids and the paths of the snapshot
are in one line, are not empty and do not end in a blank themselves; and the report ends in a line
feed.  That holds whichever sections there are and whichever values of the summary are empty. -/
theorem trimmed_plain
    (names : ∀ name ∈ s.names, name ≠ "" ∧ Text.OneLine name ∧ endsBlank name = false)
    (version : Text.OneLine specVersion) :
    (∀ line ∈ Text.lines ((ofSnapshot s specVersion).text .plain), endsBlank line = false) ∧
      ((ofSnapshot s specVersion).text .plain).toList.getLast? = some '\n' := by
  have oneLine : ∀ name ∈ s.names, Text.OneLine name := fun name h => (names name h).2.1
  have ends : ∀ name ∈ s.names, name ≠ "" ∧ endsBlank name = false := fun name h =>
    ⟨(names name h).1, (names name h).2.2⟩
  rw [text, steps]
  constructor
  · rw [Step.lines_textOf fun step h => (tame_plainSteps oneLine version step h).oneLine]
    intro line hline
    rcases List.mem_append.1 hline with hline | last
    · obtain ⟨step, hstep, hline⟩ := List.mem_flatMap.1 hline
      exact trimmed_plainSteps ends step hstep line hline
    · rw [List.mem_singleton.1 last]
      rfl
  · refine Step.getLast?_textOf fun none => ?_
    have heading : Step.heading "SUMMARY" ∈ (ofSnapshot s specVersion).plainSteps :=
      mem_plainSteps.2 (.inr (.inl (mem_summarySteps.2 (.inl rfl))))
    exact List.cons_ne_nil _ _ (List.flatMap_eq_nil_iff.1 none _ heading)

/-- A project with a file that refers to a bad license and has no copyright information. -/
def oneBadFile : Snapshot :=
  .ofDocument [.known .badLicenses [("MIT License", [.ofSpelling "src/a b"])],
    .known .filesWithoutCopyright [.ofSpelling "src/a b"], .known .fileTotal 1]

/-- Inner blanks of a path, empty summary values and blanks around a version end no line. -/
theorem trimmed_oneBadFile :
    (∀ name ∈ oneBadFile.names,
        name ≠ "" ∧ Text.OneLine name ∧ endsBlank name = false) ∧
      Text.OneLine " 3.3 " ∧
      (∀ line ∈ Text.lines ((ofSnapshot oneBadFile " 3.3 ").text .plain),
        endsBlank line = false) ∧
      ((ofSnapshot oneBadFile " 3.3 ").text .plain).toList.getLast? = some '\n' := by
  have names : ∀ name ∈ oneBadFile.names,
      name ≠ "" ∧ Text.OneLine name ∧ endsBlank name = false := by
    decide
  have version : Text.OneLine " 3.3 " := by decide
  obtain ⟨lines, ended⟩ := trimmed_plain names version
  exact ⟨names, version, lines, ended⟩

end Report

end Compliance
