/-
**One verdict everywhere.**

Whether a project is compliant is told in many places: by the findings of the snapshot, by the active
categories, by the sections and the recommendations of a plain report, by its sentence, and by the
record of a report.  All of them say the same.

Main definitions:

* `Snapshot.Clear` — a snapshot without findings that are issues.

Main results:

* `Snapshot.compliant_classify_iff` — the classification of a snapshot is compliant exactly if the
  snapshot is clear;
* `Classification.textOf_sections_eq_empty_iff`, `Classification.textOf_recommendations_eq_empty_iff` —
  sections and recommendations are written exactly for a project that is not compliant;
* `Report.congratulations_mem_plainSteps_iff` — which sentence a plain report has;
* `Record.derivedCompliance_record` — the verdict of a record can be derived from its issues.
-/

import Compliance.Proofs.Report.Headings
import Compliance.Proofs.Report.RoundTrip

set_option relaxedAutoImplicit false
set_option autoImplicit false

namespace Compliance

/-! ### Findings -/

/-- A snapshot without findings that are issues. -/
structure Snapshot.Clear (s : Snapshot) : Prop where
  badLicenses : s.badLicenses.toList = []
  deprecatedLicenses : s.deprecatedLicenses.toList = []
  licensesWithoutExtension : s.licensesWithoutExtension.toList = []
  missingLicenses : s.missingLicenses.toList = []
  unusedLicenses : s.unusedLicenses.toList = []
  readErrors : s.readErrors.toList = []
  filesWithoutCopyright : s.filesWithoutCopyright.toList = []
  filesWithoutLicenses : s.filesWithoutLicenses.toList = []

theorem StringSet.isEmpty_iff_toList {s : StringSet} : s.isEmpty = true ↔ s.toList = [] := by
  rw [isEmpty, List.isEmpty_iff]

theorem StringMap.isEmpty_iff_toList {α : Type} {m : StringMap α} :
    m.isEmpty = true ↔ m.toList = [] := by
  rw [isEmpty, List.isEmpty_iff]

theorem StringMap.isEmpty_map_iff {α β : Type} {f : α → β} {m : StringMap α} :
    (m.map f).isEmpty = true ↔ m.toList = [] := by
  rw [isEmpty_iff_toList, toList_map, List.map_eq_nil_iff]

theorem PathSet.isEmpty_spellings {s : PathSet} : s.spellings.isEmpty = true ↔ s.toList = [] := by
  rw [StringSet.isEmpty_iff, List.eq_nil_iff_forall_not_mem]
  constructor
  · intro h p hp
    exact h p.spelling (mem_spellings.2 (List.mem_map.2 ⟨p, hp, rfl⟩))
  · intro h x hx
    obtain ⟨p, hp, _⟩ := List.mem_map.1 (mem_spellings.1 hx)
    exact h p hp

/-- Nothing is missing exactly if neither kind of information is missing anywhere. -/
theorem MissingInfo.isEmpty_split {copyright licensing : StringSet} :
    (split copyright licensing).isEmpty = true ↔
      copyright.isEmpty = true ∧ licensing.isEmpty = true := by
  simp only [isEmpty, split, Bool.and_eq_true, StringSet.isEmpty_iff, StringSet.mem_inter,
    StringSet.mem_diff]
  constructor
  · rintro ⟨⟨both, copyrightOnly⟩, licensingOnly⟩
    exact ⟨fun x hx => copyrightOnly x ⟨hx, both x⟩, fun x hx => licensingOnly x ⟨hx, both x⟩⟩
  · rintro ⟨noCopyright, noLicensing⟩
    exact ⟨⟨fun x hx => noCopyright x hx.1, fun x hx => noCopyright x hx.1⟩,
      fun x hx => noLicensing x hx.1⟩

/-- The classification of a snapshot is compliant exactly if the snapshot is clear. -/
theorem Snapshot.compliant_classify_iff {s : Snapshot} :
    s.classify.compliant = true ↔ s.Clear := by
  rw [Classification.compliant_iff]
  constructor
  · intro h
    have missing := MissingInfo.isEmpty_split.1 (h .missingCopyrightOrLicensing)
    exact {
      badLicenses := StringMap.isEmpty_map_iff.1 (h .badLicenses)
      deprecatedLicenses := StringSet.isEmpty_iff_toList.1 (h .deprecatedLicenses)
      licensesWithoutExtension := StringMap.isEmpty_map_iff.1 (h .licensesWithoutExtension)
      missingLicenses := StringMap.isEmpty_map_iff.1 (h .missingLicenses)
      unusedLicenses := StringSet.isEmpty_iff_toList.1 (h .unusedLicenses)
      readErrors := PathSet.isEmpty_spellings.1 (h .readErrors)
      filesWithoutCopyright := PathSet.isEmpty_spellings.1 missing.1
      filesWithoutLicenses := PathSet.isEmpty_spellings.1 missing.2 }
  · intro clear category
    cases category with
    | badLicenses => exact StringMap.isEmpty_map_iff.2 clear.badLicenses
    | deprecatedLicenses => exact StringSet.isEmpty_iff_toList.2 clear.deprecatedLicenses
    | licensesWithoutExtension =>
        exact StringMap.isEmpty_map_iff.2 clear.licensesWithoutExtension
    | missingLicenses => exact StringMap.isEmpty_map_iff.2 clear.missingLicenses
    | unusedLicenses => exact StringSet.isEmpty_iff_toList.2 clear.unusedLicenses
    | readErrors => exact PathSet.isEmpty_spellings.2 clear.readErrors
    | missingCopyrightOrLicensing =>
        exact MissingInfo.isEmpty_split.2 ⟨PathSet.isEmpty_spellings.2 clear.filesWithoutCopyright,
          PathSet.isEmpty_spellings.2 clear.filesWithoutLicenses⟩

/-! ### Sections and recommendations -/

/-- A heading is never empty. -/
theorem Step.textOf_heading_ne_empty (title : String) (steps : List Step) :
    textOf (.heading title :: steps) ≠ "" := by
  intro h
  have chars := congrArg String.toList h
  simp [text, textOfLines, lines] at chars

namespace Classification

variable {c : Classification}

/-- Sections are written exactly for a project that is not compliant. -/
theorem textOf_sections_eq_empty_iff : Step.textOf c.sections = "" ↔ c.compliant = true := by
  rw [← active_eq_nil_iff, sections]
  cases c.active with
  | nil => exact iff_of_true rfl rfl
  | cons category others =>
      refine iff_of_false ?_ (List.cons_ne_nil _ _)
      rw [List.flatMap_cons, sectionOf, List.cons_append, List.cons_append]
      exact Step.textOf_heading_ne_empty _ _

/-- Recommendations are written exactly for a project that is not compliant. -/
theorem textOf_recommendations_eq_empty_iff :
    Step.textOf c.recommendations = "" ↔ c.compliant = true := by
  rw [recommendations]
  cases c.compliant with
  | true => exact iff_of_true rfl rfl
  | false =>
      refine iff_of_false ?_ Bool.false_ne_true
      intro h
      rw [if_neg Bool.false_ne_true, Step.textOf_cons] at h
      exact Step.textOf_heading_ne_empty _ _ (String.append_eq_empty_iff.1 h).2

end Classification

/-! ### The sentence -/

/-- The only line of its own in a listing is the one that leads it. -/
theorem Step.eq_of_line_mem_listing {text lead : String} {items : List String}
    (h : .line text ∈ listing lead items) : text = lead := by
  rcases mem_listing.1 h with h | ⟨_, _, h⟩ | h
  · exact Step.line.inj h
  · cases h
  · cases h

theorem Step.eq_of_line_mem_listingUnlessEmpty {text lead : String} {items : StringSet}
    (h : .line text ∈ listingUnlessEmpty lead items) : text = lead := by
  unfold listingUnlessEmpty at h
  split at h
  · cases h
  · exact eq_of_line_mem_listing h

/-- What leads the files of a license starts with a quotation mark. -/
theorem Step.line_mem_licenseListings {text : String} {files : StringMap StringSet}
    (h : .line text ∈ licenseListings files) : text.toList.take 3 ≠ ['C', 'o', 'n'] := by
  obtain ⟨⟨license, paths⟩, _, h⟩ := List.mem_flatMap.1 h
  rw [eq_of_line_mem_listing h]
  simp

/-- What starts the sentence of a compliant project starts no other line. -/
theorem Classification.line_mem_sections {c : Classification} {text : String}
    (h : .line text ∈ c.sections) : text.toList.take 3 ≠ ['C', 'o', 'n'] := by
  obtain ⟨category, _, h | h | h⟩ := mem_sections.1 h
  · cases h
  · cases category with
    | badLicenses => exact Step.line_mem_licenseListings h
    | deprecatedLicenses => exact Step.eq_of_line_mem_listing h ▸ by decide
    | licensesWithoutExtension => exact Step.eq_of_line_mem_listing h ▸ by decide
    | missingLicenses => exact Step.line_mem_licenseListings h
    | unusedLicenses => exact Step.eq_of_line_mem_listing h ▸ by decide
    | readErrors => exact Step.eq_of_line_mem_listing h ▸ by decide
    | missingCopyrightOrLicensing =>
        rw [details, List.mem_append, List.mem_append] at h
        rcases h with (h | h) | h
        · exact Step.eq_of_line_mem_listingUnlessEmpty h ▸ by decide
        · exact Step.eq_of_line_mem_listingUnlessEmpty h ▸ by decide
        · exact Step.eq_of_line_mem_listingUnlessEmpty h ▸ by decide
  · cases h

/-- A plain report congratulates exactly if the project is compliant. -/
theorem Report.congratulations_mem_plainSteps_iff {r : Report} :
    .line ("Congratulations! Your project is compliant with version " ++ r.specVersion ++
      " of the REUSE Specification :-)") ∈ r.plainSteps ↔ r.compliant = true := by
  constructor
  · intro h
    by_contra notCompliant
    -- the sentence is neither in the sections, the summary or the recommendations, nor the other one
    rcases mem_plainSteps.1 h with h | h | h | h | h
    · refine Classification.line_mem_sections h ?_
      simp
    · rcases mem_summarySteps.1 h with h | ⟨_, _, h⟩ | h
      · cases h
      · cases h
      · cases h
    · have chars := congrArg String.toList (Step.line.inj h)
      simp [verdict, notCompliant] at chars
    · rcases (Classification.mem_recommendations.1 h).2 with h | h | ⟨_, _, h⟩
      · cases h
      · cases h
      · cases h
    · cases h
  · intro compliant
    refine mem_plainSteps.2 (.inr (.inr (.inl ?_)))
    rw [compliant, verdict, if_pos rfl]

/-! ### Records -/

theorem Classification.length_extensionlessPaths (c : Classification) :
    c.extensionlessPaths.length = c.licensesWithoutExtension.toList.length := by
  rw [extensionlessPaths, List.length_mergeSort, StringMap.values, List.length_map]

theorem Classification.isEmpty_extensionlessPaths {c : Classification} :
    c.extensionlessPaths.isEmpty = c.licensesWithoutExtension.isEmpty := by
  rw [Bool.eq_iff_iff, List.isEmpty_iff, StringMap.isEmpty_iff_toList,
    List.eq_nil_iff_length_eq_zero, List.eq_nil_iff_length_eq_zero, length_extensionlessPaths]

/-- The verdict of a report's record can be derived from its issues. -/
theorem Record.derivedCompliance_record (r : Report) :
    r.record.derivedCompliance = r.record.compliant := by
  rw [derivedCompliance, Report.record, Classification.isEmpty_extensionlessPaths]
  show _ = Category.all.all r.classification.isClear
  simp [Category.all, Classification.isClear, Bool.and_assoc]

/-! ### All of them -/

theorem Step.bytes_performUntilFailure_eq_nil_iff {steps : List Step} :
    (performUntilFailure .unlimited steps).bytes = [] ↔ textOf steps = "" := by
  rw [performUntilFailure_unlimited]
  constructor
  · intro h
    exact Text.bytes_injective (h.trans Text.bytes_empty.symm)
  · intro h
    rw [h]
    exact Text.bytes_empty

/-- **One verdict everywhere.**  A snapshot is clear exactly if a report on it returns `true`, in
either format and to any sink that takes it; if no category is active; if neither sections nor
recommendations are written; if the plain report congratulates; and if the report's record and
what is read from the delivered record, say so, outright and by their issues.  If no name and no
version has a line feed, the plain report has the headings of the active categories, of the summary
and, unless the project is compliant, of the recommendations, and no other line that looks like
one. -/
theorem Report.verdict_agrees (s : Snapshot) (specVersion : String) :
    (∀ format, ∃ verdict, ((ofSnapshot s specVersion).deliver format .unlimited).2 = .ok verdict ∧
      (verdict = true ↔ s.Clear)) ∧
    (∀ format sink verdict, ((ofSnapshot s specVersion).deliver format sink).2 = .ok verdict →
      (verdict = true ↔ s.Clear)) ∧
    (s.classify.active = [] ↔ s.Clear) ∧
    ((Step.performUntilFailure .unlimited s.classify.sections).bytes = [] ↔ s.Clear) ∧
    (.line ("Congratulations! Your project is compliant with version " ++ specVersion ++
      " of the REUSE Specification :-)") ∈ (ofSnapshot s specVersion).plainSteps ↔ s.Clear) ∧
    ((Step.performUntilFailure .unlimited s.classify.recommendations).bytes = [] ↔ s.Clear) ∧
    ((ofSnapshot s specVersion).record.compliant = true ↔ s.Clear) ∧
    ((ofSnapshot s specVersion).record.derivedCompliance = true ↔ s.Clear) ∧
    (∃ decoded, Record.read .finished ((ofSnapshot s specVersion).deliver .json .unlimited).1 =
        .ok decoded ∧
      (decoded.compliant = true ↔ s.Clear) ∧ (decoded.derivedCompliance = true ↔ s.Clear)) ∧
    ((∀ name ∈ s.names, Text.OneLine name) → Text.OneLine specVersion →
      (Text.lines ((ofSnapshot s specVersion).text .plain)).filter Text.isHeading =
        (s.classify.active.map Category.title ++ ["SUMMARY"] ++
          if s.classify.compliant then [] else ["RECOMMENDATIONS"]).map ("# " ++ ·)) := by
  have clear : (ofSnapshot s specVersion).compliant = true ↔ s.Clear :=
    Snapshot.compliant_classify_iff
  have derived : (ofSnapshot s specVersion).record.derivedCompliance = true ↔ s.Clear := by
    rw [Record.derivedCompliance_record]
    exact clear
  refine ⟨?_, ?_, ?_, ?_, ?_, ?_, clear, derived, ?_, headings_plain⟩
  · intro format
    rw [deliver_unlimited]
    exact ⟨_, rfl, clear⟩
  · intro format sink verdict h
    rw [deliver_eq_ok h]
    exact clear
  · exact Classification.active_eq_nil_iff.trans clear
  · rw [Step.bytes_performUntilFailure_eq_nil_iff]
    exact Classification.textOf_sections_eq_empty_iff.trans clear
  · exact congratulations_mem_plainSteps_iff.trans clear
  · rw [Step.bytes_performUntilFailure_eq_nil_iff]
    exact Classification.textOf_recommendations_eq_empty_iff.trans clear
  · exact ⟨_, Record.read_delivered _, clear, derived⟩

/-- A file whose name looks like a heading could not be read. -/
def Snapshot.unreadableHash : Snapshot where
  badLicenses := ∅
  deprecatedLicenses := ∅
  licensesWithoutExtension := ∅
  missingLicenses := ∅
  unusedLicenses := ∅
  usedLicenses := .ofList ["MIT"]
  readErrors := .ofList [.ofSpelling "# SUMMARY"]
  filesWithoutCopyright := ∅
  filesWithoutLicenses := ∅
  fileTotal := 1

theorem Report.headings_unreadableHash :
    (Text.lines ((ofSnapshot .unreadableHash "3.3").text .plain)).filter Text.isHeading =
      ["# READ ERRORS", "# SUMMARY", "# RECOMMENDATIONS"] ∧
    ¬ Snapshot.unreadableHash.Clear := by
  obtain ⟨_, returned, _, _, _, _, _, _, _, headings⟩ :=
    verdict_agrees .unreadableHash "3.3"
  refine ⟨(headings (by decide) (by decide)).trans (by decide), fun clear => ?_⟩
  have delivered : ((ofSnapshot .unreadableHash "3.3").deliver .json .unlimited).2 = .ok false := by
    rw [deliver_unlimited]
    rfl
  exact absurd ((returned .json .unlimited false delivered).2 clear) Bool.false_ne_true

end Compliance
