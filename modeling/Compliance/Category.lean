/-
**Issue categories.**

An issue of a project belongs to one of seven categories.  Reports go through them in a fixed order.

Main definitions:

* `Category`, `Category.all` — the categories and their order in reports;
* `Category.title` — the heading of a category's section.
-/

set_option relaxedAutoImplicit false
set_option autoImplicit false

namespace Compliance

/-- A kind of issue. -/
inductive Category
  | badLicenses
  | deprecatedLicenses
  | licensesWithoutExtension
  | missingLicenses
  | unusedLicenses
  | readErrors
  | missingCopyrightOrLicensing
  deriving DecidableEq, Repr

namespace Category

/-- The categories in the order of reports. -/
def all : List Category :=
  [badLicenses, deprecatedLicenses, licensesWithoutExtension, missingLicenses, unusedLicenses,
   readErrors, missingCopyrightOrLicensing]

theorem mem_all (c : Category) : c ∈ all := by cases c <;> decide

/-- The heading of a category's section. -/
def title : Category → String
  | badLicenses => "BAD LICENSES"
  | deprecatedLicenses => "DEPRECATED LICENSES"
  | licensesWithoutExtension => "LICENSES WITHOUT FILE EXTENSION"
  | missingLicenses => "MISSING LICENSES"
  | unusedLicenses => "UNUSED LICENSES"
  | readErrors => "READ ERRORS"
  | missingCopyrightOrLicensing => "MISSING COPYRIGHT AND LICENSING INFORMATION"

end Category

end Compliance
