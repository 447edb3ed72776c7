/-
**The outline of a plain report.**

The sections of a plain report are made of listings: a line that leads in, and items under it.  All
of them can be drawn up from the report's record, and so can the rest of the report.  So the two
formats tell the same issues.

Main definitions:

* `Listing`, `Section` — what a section lists under its heading;
* `Record.listings`, `Record.outline` — the listings of a category and all sections, drawn up from a
  record;
* `Record.plainSteps` — the plain report that a record gives.

Main results:

* `Report.sections_eq_outline` — **the sections of a report are those that its record gives**;
* `Report.plainSteps_eq_record` — **and so is the whole plain report**.
-/

import Compliance.Proofs.Report.Verdict

set_option relaxedAutoImplicit false
set_option autoImplicit false

namespace Compliance

/-! ### Listings and sections -/

/-- A line that leads in, and the items under it. -/
structure Listing where
  /-- The line that leads in. -/
  lead : String
  /-- The items, a bullet for each. -/
  items : List String
  /-- The line that leads in says something. -/
  lead_ne_empty : lead ≠ ""
  deriving DecidableEq, Repr

namespace Listing

/-- The listing of items, unless there are none. -/
def unlessEmpty (lead : String) (items : List String) (h : lead ≠ "") : List Listing :=
  if items.isEmpty then [] else [⟨lead, items, h⟩]

/-- The listing of the files of a license id. -/
def ofLicense (e : String × StringSet) : Listing where
  lead := "'" ++ e.1 ++ "' found in:"
  items := e.2.toList
  lead_ne_empty := by simp

/-- The steps that write a listing. -/
def steps (l : Listing) : List Step := Step.listing l.lead l.items

variable {lead : String} {items : List String} {h : lead ≠ ""}

theorem flatMap_steps_unlessEmpty {items : StringSet} :
    (unlessEmpty lead items.toList h).flatMap steps = Step.listingUnlessEmpty lead items := by
  rw [unlessEmpty, Step.listingUnlessEmpty, StringSet.isEmpty]
  split
  · rfl
  · rw [List.flatMap_singleton, steps]

@[simp] theorem isEmpty_unlessEmpty : (unlessEmpty lead items h).isEmpty = items.isEmpty := by
  rw [unlessEmpty]
  cases items with
  | nil => rfl
  | cons item items => rfl

/-- A listing that is not left out is written whole. -/
theorem flatMap_steps_of_isEmpty_eq_false (some : (unlessEmpty lead items h).isEmpty = false) :
    (unlessEmpty lead items h).flatMap steps = Step.listing lead items := by
  rw [isEmpty_unlessEmpty] at some
  rw [unlessEmpty, some, if_neg Bool.false_ne_true, List.flatMap_singleton, steps]

theorem flatMap_steps_ofLicense (files : StringMap StringSet) :
    (files.toList.map ofLicense).flatMap steps = Step.licenseListings files := by
  rw [List.flatMap_map]
  rfl

end Listing

/-- The section of a category. -/
structure Section where
  /-- The category. -/
  category : Category
  /-- What the section lists. -/
  listings : List Listing
  deriving DecidableEq, Repr

/-- The steps that write a section. -/
def Section.steps (s : Section) : List Step :=
  .heading s.category.title :: s.listings.flatMap Listing.steps ++ [.blank]

/-! ### What a record lists -/

namespace Record

/-- What a record lists in a category.  There is nothing to list if the category has no issue. -/
def listings (r : Record) : Category → List Listing
  | .badLicenses => r.badLicenses.toList.map Listing.ofLicense
  | .deprecatedLicenses =>
    Listing.unlessEmpty "The following licenses are deprecated by SPDX:"
      r.deprecatedLicenses.toList (by decide)
  | .licensesWithoutExtension =>
    Listing.unlessEmpty "The following licenses have no file extension:"
      r.licensesWithoutExtension (by decide)
  | .missingLicenses => r.missingLicenses.toList.map Listing.ofLicense
  | .unusedLicenses =>
    Listing.unlessEmpty "The following licenses are not used:" r.unusedLicenses.toList (by decide)
  | .readErrors => Listing.unlessEmpty "Could not read:" r.readErrors.toList (by decide)
  | .missingCopyrightOrLicensing =>
    Listing.unlessEmpty "The following files have no copyright and licensing information:"
      r.missingInfo.both.toList (by decide) ++
    Listing.unlessEmpty "The following files have no copyright information:"
      r.missingInfo.copyrightOnly.toList (by decide) ++
    Listing.unlessEmpty "The following files have no licensing information:"
      r.missingInfo.licensingOnly.toList (by decide)

/-- The sections of all categories in which a record lists anything. -/
def outline (r : Record) : List Section :=
  (Category.all.filter fun category => !(r.listings category).isEmpty).map fun category =>
    ⟨category, r.listings category⟩

/-- The advice on all categories in which a record lists anything; nothing if the record says that the
project is compliant. -/
def recommendations (r : Record) : List Step :=
  if r.compliant then []
  else .blank :: .heading "RECOMMENDATIONS" :: r.outline.map (.wrapped ·.category.advice)

/-- The steps that write the plain report that a record gives. -/
def plainSteps (r : Record) : List Step :=
  r.outline.flatMap Section.steps ++ Report.summarySteps r.summary ++
    .line (Report.verdict r.compliant r.specVersion) :: r.recommendations ++ [.flush]

/-- The text of the plain report that a record gives. -/
def plainText (r : Record) : String := Step.textOf r.plainSteps

end Record

/-! ### What a report lists -/

namespace Report

variable {r : Report}

/-- A category has no issue exactly if its record lists nothing. -/
theorem isEmpty_listings (r : Report) (category : Category) :
    (r.record.listings category).isEmpty = r.classification.isClear category := by
  cases category with
  | badLicenses => exact List.isEmpty_map
  | deprecatedLicenses => exact Listing.isEmpty_unlessEmpty
  | licensesWithoutExtension =>
      exact (Listing.isEmpty_unlessEmpty).trans Classification.isEmpty_extensionlessPaths
  | missingLicenses => exact List.isEmpty_map
  | unusedLicenses => exact Listing.isEmpty_unlessEmpty
  | readErrors => exact Listing.isEmpty_unlessEmpty
  | missingCopyrightOrLicensing =>
      have parts : ∀ xs ys : List Listing, (xs ++ ys).isEmpty = (xs.isEmpty && ys.isEmpty) := by
        intro xs ys
        cases xs with
        | nil => rfl
        | cons x xs => rfl
      rw [Record.listings, parts, parts, Listing.isEmpty_unlessEmpty, Listing.isEmpty_unlessEmpty,
        Listing.isEmpty_unlessEmpty]
      rfl

/-- The active categories are those in which the record lists anything. -/
theorem active_eq_outline (r : Report) :
    r.classification.active = r.record.outline.map (·.category) := by
  rw [Record.outline, List.map_map, Classification.active]
  simp only [isEmpty_listings]
  exact (List.map_id _).symm

/-- The section of a category with issues lists what the record does. -/
theorem details_eq_listings {category : Category} (h : category ∈ r.classification.active) :
    r.classification.details category = (r.record.listings category).flatMap Listing.steps := by
  have some : (r.record.listings category).isEmpty = false := by
    rw [isEmpty_listings]
    exact Classification.mem_active.1 h
  cases category with
  | badLicenses => exact (Listing.flatMap_steps_ofLicense _).symm
  | deprecatedLicenses => exact (Listing.flatMap_steps_of_isEmpty_eq_false some).symm
  | licensesWithoutExtension => exact (Listing.flatMap_steps_of_isEmpty_eq_false some).symm
  | missingLicenses => exact (Listing.flatMap_steps_ofLicense _).symm
  | unusedLicenses => exact (Listing.flatMap_steps_of_isEmpty_eq_false some).symm
  | readErrors => exact (Listing.flatMap_steps_of_isEmpty_eq_false some).symm
  | missingCopyrightOrLicensing =>
      rw [Record.listings, List.flatMap_append, List.flatMap_append,
        Listing.flatMap_steps_unlessEmpty, Listing.flatMap_steps_unlessEmpty,
        Listing.flatMap_steps_unlessEmpty]
      rfl

/-- **The sections of a report are those that its record gives.** -/
theorem sections_eq_outline (r : Report) :
    r.classification.sections = r.record.outline.flatMap Section.steps := by
  have active : r.record.outline = r.classification.active.map fun category =>
      ⟨category, r.record.listings category⟩ := by
    rw [Record.outline, Classification.active]
    simp only [isEmpty_listings]
  rw [active, List.flatMap_map, Classification.sections]
  refine List.flatMap_congr fun category h => ?_
  rw [Classification.sectionOf, Section.steps, details_eq_listings h]

theorem recommendations_eq_record (r : Report) :
    r.classification.recommendations = r.record.recommendations := by
  rw [Classification.recommendations, Record.recommendations, active_eq_outline, List.map_map]
  rfl

/-- **The plain report is the one that the record gives.** -/
theorem plainSteps_eq_record (r : Report) : r.plainSteps = r.record.plainSteps := by
  rw [plainSteps, Record.plainSteps, sections_eq_outline, recommendations_eq_record]
  rfl

theorem text_plain_eq_record (r : Report) : r.text .plain = r.record.plainText := by
  rw [text, steps, plainSteps_eq_record, Record.plainText]

end Report

end Compliance
