/-
**Plain reports.**

A plain report has a section for each category with issues, a summary, a sentence with the verdict
and, unless the project is compliant, recommendations.

Main definitions:

* `Classification.details` — what a category's section lists;
* `Classification.sections` — the sections of all categories with issues;
* `Report.verdict` — the sentence with the verdict;
* `Classification.recommendations` — the advice on all categories with issues;
* `Report.plainSteps` — the whole report.
-/

import Compliance.Report
import Compliance.Report.Advice
import Compliance.Step

set_option relaxedAutoImplicit false
set_option autoImplicit false

namespace Compliance

/-! ### Sections -/

/-- A line that leads in, a bullet for each item and an empty line. -/
def Step.listing (lead : String) (items : List String) : List Step :=
  .line lead :: items.map .bullet ++ [.blank]

/-- A listing of its files for each license id. -/
def Step.licenseListings (files : StringMap StringSet) : List Step :=
  files.toList.flatMap fun (license, paths) =>
    Step.listing ("'" ++ license ++ "' found in:") paths.toList

/-- A listing, if there is anything to list. -/
def Step.listingUnlessEmpty (lead : String) (items : StringSet) : List Step :=
  if items.isEmpty then [] else Step.listing lead items.toList

namespace Classification

/-- What the section of a category lists. -/
def details (c : Classification) : Category → List Step
  | .badLicenses => Step.licenseListings c.badLicenses
  | .deprecatedLicenses =>
    Step.listing "The following licenses are deprecated by SPDX:" c.deprecatedLicenses.toList
  | .licensesWithoutExtension =>
    Step.listing "The following licenses have no file extension:" c.extensionlessPaths
  | .missingLicenses => Step.licenseListings c.missingLicenses
  | .unusedLicenses =>
    Step.listing "The following licenses are not used:" c.unusedLicenses.toList
  | .readErrors => Step.listing "Could not read:" c.readErrors.toList
  | .missingCopyrightOrLicensing =>
    Step.listingUnlessEmpty "The following files have no copyright and licensing information:"
      c.missingInfo.both ++
    Step.listingUnlessEmpty "The following files have no copyright information:"
      c.missingInfo.copyrightOnly ++
    Step.listingUnlessEmpty "The following files have no licensing information:"
      c.missingInfo.licensingOnly

/-- The section of a category: its heading, what it lists, and an empty line. -/
def sectionOf (c : Classification) (category : Category) : List Step :=
  .heading category.title :: c.details category ++ [.blank]

/-- The sections of all categories with issues. -/
def sections (c : Classification) : List Step := c.active.flatMap c.sectionOf

/-! ### Recommendations -/

/-- The advice on all categories with issues; nothing for a compliant project. -/
def recommendations (c : Classification) : List Step :=
  if c.compliant then []
  else .blank :: .heading "RECOMMENDATIONS" :: c.active.map (.wrapped ·.advice)

end Classification

/-! ### Reports -/

namespace Report

/-- The sentence with the verdict. -/
def verdict (compliant : Bool) (specVersion : String) : String :=
  if compliant then
    "Congratulations! Your project is compliant with version " ++ specVersion ++
      " of the REUSE Specification :-)"
  else
    "Unfortunately, your project is not compliant with version " ++ specVersion ++
      " of the REUSE Specification :-("

/-- The summary under its heading. -/
def summarySteps (s : Summary) : List Step :=
  .heading "SUMMARY" :: s.lines.map (fun (label, value) => .labeled label value) ++ [.blank]

/-- The steps that write a plain report. -/
def plainSteps (r : Report) : List Step :=
  r.classification.sections ++ summarySteps r.summary ++
    .line (verdict r.compliant r.specVersion) :: r.classification.recommendations ++ [.flush]

end Report

end Compliance
