/-
**Classified snapshots.**

A snapshot is classified into sorted issues by category.  Files are named by their spelling from
here on.  Files that lack information are split three ways: those that lack both kinds of it, and
those that lack only one.

Main definitions:

* `MissingInfo`, `MissingInfo.split` — the files that lack information, split three ways;
* `Classification`, `Snapshot.classify` — the issues of a snapshot;
* `Classification.active`, `Classification.compliant` — the categories with issues, and whether
  there are none.

Main results:

* `Classification.active_eq_nil_iff` — a project is compliant exactly if no category is active.
-/

import Compliance.Category
import Compliance.Snapshot

set_option relaxedAutoImplicit false
set_option autoImplicit false

namespace Compliance

/-! ### Missing information -/

/-- Files that lack copyright or licensing information. -/
structure MissingInfo where
  /-- Files that lack both. -/
  both : StringSet
  /-- Files that lack copyright information only. -/
  copyrightOnly : StringSet
  /-- Files that lack licensing information only. -/
  licensingOnly : StringSet
  deriving DecidableEq

namespace MissingInfo

/-- Splits the files without copyright and those without licensing information. -/
def split (withoutCopyright withoutLicensing : StringSet) : MissingInfo :=
  let both := withoutCopyright.inter withoutLicensing
  { both
    copyrightOnly := withoutCopyright.diff both
    licensingOnly := withoutLicensing.diff both }

/-- Whether no file lacks anything. -/
def isEmpty (m : MissingInfo) : Bool :=
  m.both.isEmpty && m.copyrightOnly.isEmpty && m.licensingOnly.isEmpty

/-- The number of files without copyright information. -/
def withoutCopyright (m : MissingInfo) : Nat := m.both.size + m.copyrightOnly.size

/-- The number of files without licensing information. -/
def withoutLicensing (m : MissingInfo) : Nat := m.both.size + m.licensingOnly.size

end MissingInfo

/-! ### Classification -/

/-- The issues of a project, sorted. -/
structure Classification where
  /-- Files by the invalid license id that they refer to. -/
  badLicenses : StringMap StringSet
  /-- Deprecated license ids. -/
  deprecatedLicenses : StringSet
  /-- License text files without an extension, by license id. -/
  licensesWithoutExtension : StringMap String
  /-- Files by the license id without license text that they refer to. -/
  missingLicenses : StringMap StringSet
  /-- License ids with a license text that no file refers to. -/
  unusedLicenses : StringSet
  /-- License ids that files refer to; no issue. -/
  usedLicenses : StringSet
  /-- Files that could not be read. -/
  readErrors : StringSet
  /-- Files that lack copyright or licensing information. -/
  missingInfo : MissingInfo
  /-- The number of files. -/
  fileTotal : UInt64
  deriving DecidableEq

/-- Sorts the findings of a snapshot. -/
def Snapshot.classify (s : Snapshot) : Classification where
  badLicenses := s.badLicenses.map PathSet.spellings
  deprecatedLicenses := s.deprecatedLicenses
  licensesWithoutExtension := s.licensesWithoutExtension.map Path.spelling
  missingLicenses := s.missingLicenses.map PathSet.spellings
  unusedLicenses := s.unusedLicenses
  usedLicenses := s.usedLicenses
  readErrors := s.readErrors.spellings
  missingInfo := .split s.filesWithoutCopyright.spellings s.filesWithoutLicenses.spellings
  fileTotal := s.fileTotal

namespace Classification

/-- Whether a category has no issue. -/
def isClear (c : Classification) : Category → Bool
  | .badLicenses => c.badLicenses.isEmpty
  | .deprecatedLicenses => c.deprecatedLicenses.isEmpty
  | .licensesWithoutExtension => c.licensesWithoutExtension.isEmpty
  | .missingLicenses => c.missingLicenses.isEmpty
  | .unusedLicenses => c.unusedLicenses.isEmpty
  | .readErrors => c.readErrors.isEmpty
  | .missingCopyrightOrLicensing => c.missingInfo.isEmpty

/-- The categories with issues, in the order of reports. -/
def active (c : Classification) : List Category := Category.all.filter (!c.isClear ·)

/-- Whether no category has an issue. -/
def compliant (c : Classification) : Bool := Category.all.all c.isClear

@[simp] theorem mem_active {c : Classification} {category : Category} :
    category ∈ c.active ↔ c.isClear category = false := by
  simp [active, Category.mem_all]

theorem compliant_iff {c : Classification} :
    c.compliant = true ↔ ∀ category, c.isClear category = true := by
  simp [compliant, Category.mem_all]

/-- A project is compliant exactly if no category is active. -/
theorem active_eq_nil_iff {c : Classification} : c.active = [] ↔ c.compliant = true := by
  rw [compliant_iff, List.eq_nil_iff_forall_not_mem]
  simp

/-- The paths of the license texts without an extension, sorted, one for each license id. -/
def extensionlessPaths (c : Classification) : List String :=
  c.licensesWithoutExtension.values.mergeSort (· ≤ ·)

end Classification

end Compliance
