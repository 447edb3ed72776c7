/-
**What is counted in a snapshot.**

The verdict, the summary of a report and the messages about inconsistent counts need little of a
snapshot: its license ids, and how many files its sets have.  How the files are spelled does not
matter, although the summary counts spellings: a set of paths has as many spellings as paths, and the
files that lack a kind of information are split, but none of them is lost.

Main definitions:

* `Snapshot.Tally`, `Snapshot.tally` — license ids and numbers of files.

Main results:

* `PathSet.size_spellings` — **a set of paths has as many spellings as paths**;
* `MissingInfo.withoutCopyright_split`, `MissingInfo.withoutLicensing_split` — **a split counts every
  file of a set once**;
* `Snapshot.violations_eq`, `Snapshot.summary_classify`, `Snapshot.isClear_classify` — what is derived
  from a tally.
-/

import Compliance.Proofs.Report.Verdict
import Compliance.Proofs.Split
import Compliance.Summary

set_option relaxedAutoImplicit false
set_option autoImplicit false

namespace Compliance

/-! ### Sizes of sets -/

namespace StringSet

theorem nodup_toList (s : StringSet) : s.toList.Nodup := by
  rw [List.Nodup]
  refine s.ascending.imp fun {x y} lt same => ?_
  rw [same] at lt
  exact String.lt_irrefl y lt

/-- A set of different strings has as many elements as were given. -/
theorem size_ofList {xs : List String} (once : xs.Nodup) : (ofList xs).size = xs.length :=
  ((List.perm_ext_iff_of_nodup (nodup_toList _) once).2 fun _ => mem_ofList).length_eq

/-- Each element is shared with another set or not. -/
theorem size_inter_add_size_diff (s t : StringSet) : (s.inter t).size + (s.diff t).size = s.size := by
  have parts := List.length_eq_length_filter_add (l := s.toList) fun x => decide (x ∈ t)
  simp only [← decide_not] at parts
  exact parts.symm

end StringSet

/-- **A set of paths has as many spellings as paths.** -/
theorem PathSet.size_spellings (s : PathSet) : s.spellings.size = s.size := by
  have once : (s.toList.map (·.spelling)).Nodup := by
    rw [List.Nodup, List.pairwise_map]
    refine s.apart.imp fun {p q} apart same => apart ?_
    rw [Path.ext_spelling same]
  rw [spellings, StringSet.size_ofList once, List.length_map, size]

namespace MissingInfo

/-- **A split counts every file without copyright information once.** -/
theorem withoutCopyright_split (copyright licensing : StringSet) :
    (split copyright licensing).withoutCopyright = copyright.size := by
  rw [split_eq]
  exact StringSet.size_inter_add_size_diff copyright licensing

/-- **A split counts every file without licensing information once.** -/
theorem withoutLicensing_split (copyright licensing : StringSet) :
    (split copyright licensing).withoutLicensing = licensing.size := by
  rw [split_eq, StringSet.inter_comm]
  exact StringSet.size_inter_add_size_diff licensing copyright

end MissingInfo

namespace Snapshot

/-! ### Tallies -/

/-- The license ids of a snapshot, and how many files its sets have. -/
@[ext] structure Tally where
  badLicenses : List String
  deprecatedLicenses : StringSet
  licensesWithoutExtension : List String
  missingLicenses : List String
  unusedLicenses : StringSet
  usedLicenses : StringSet
  /-- The number of files that could not be read. -/
  readErrors : Nat
  /-- The number of files without copyright information. -/
  filesWithoutCopyright : Nat
  /-- The number of files without licensing information. -/
  filesWithoutLicenses : Nat
  fileTotal : UInt64
  deriving DecidableEq

/-- The tally of a snapshot. -/
def tally (s : Snapshot) : Tally where
  badLicenses := s.badLicenses.keys
  deprecatedLicenses := s.deprecatedLicenses
  licensesWithoutExtension := s.licensesWithoutExtension.keys
  missingLicenses := s.missingLicenses.keys
  unusedLicenses := s.unusedLicenses
  usedLicenses := s.usedLicenses
  readErrors := s.readErrors.size
  filesWithoutCopyright := s.filesWithoutCopyright.size
  filesWithoutLicenses := s.filesWithoutLicenses.size
  fileTotal := s.fileTotal

namespace Tally

/-- The numbers of files that the number of all files bounds, each with its name. -/
def boundedCounts (t : Tally) : List (String × Nat) :=
  [("files_without_copyright", t.filesWithoutCopyright),
   ("files_without_licenses", t.filesWithoutLicenses),
   ("read_errors", t.readErrors)]

/-- A message for each number of files that is greater than that of all files. -/
def violations (t : Tally) : List String :=
  t.boundedCounts.filterMap fun (name, size) =>
    if t.fileTotal.toNat < size then some (violation name size t.fileTotal.toNat) else none

/-- The summary that a tally gives. -/
def summary (t : Tally) : Summary where
  badLicenses := t.badLicenses
  deprecatedLicenses := t.deprecatedLicenses.toList
  licensesWithoutExtension := t.licensesWithoutExtension
  missingLicenses := t.missingLicenses
  unusedLicenses := t.unusedLicenses.toList
  usedLicenses := t.usedLicenses.toList
  readErrors := .ofNat t.readErrors
  withCopyright := .covered t.fileTotal t.filesWithoutCopyright
  withLicensing := .covered t.fileTotal t.filesWithoutLicenses

/-- Whether a category has no issue, by a tally. -/
def isClear (t : Tally) : Category → Bool
  | .badLicenses => t.badLicenses.isEmpty
  | .deprecatedLicenses => t.deprecatedLicenses.isEmpty
  | .licensesWithoutExtension => t.licensesWithoutExtension.isEmpty
  | .missingLicenses => t.missingLicenses.isEmpty
  | .unusedLicenses => t.unusedLicenses.isEmpty
  | .readErrors => t.readErrors == 0
  | .missingCopyrightOrLicensing => t.filesWithoutCopyright == 0 && t.filesWithoutLicenses == 0

end Tally

/-! ### What is derived from a tally -/

variable {s s' : Snapshot}

theorem violations_eq (s : Snapshot) : s.violations = s.tally.violations := rfl

theorem summary_classify (s : Snapshot) : s.classify.summary = s.tally.summary := by
  have copyright : s.classify.missingInfo.withoutCopyright = s.filesWithoutCopyright.size :=
    (MissingInfo.withoutCopyright_split _ _).trans (PathSet.size_spellings _)
  have licensing : s.classify.missingInfo.withoutLicensing = s.filesWithoutLicenses.size :=
    (MissingInfo.withoutLicensing_split _ _).trans (PathSet.size_spellings _)
  have errors : s.classify.readErrors.size = s.readErrors.size := PathSet.size_spellings _
  rw [Classification.summary, copyright, licensing, errors]
  simp only [classify, StringMap.keys_map]
  rfl

theorem isEmpty_spellings_eq (files : PathSet) : files.spellings.isEmpty = (files.size == 0) := by
  rw [Bool.eq_iff_iff, PathSet.isEmpty_spellings, beq_iff_eq, PathSet.size, List.length_eq_zero_iff]

theorem isEmpty_map_eq {α β : Type} (f : α → β) (m : StringMap α) :
    (m.map f).isEmpty = m.keys.isEmpty := by
  rw [StringMap.isEmpty, StringMap.toList_map, StringMap.keys, List.isEmpty_map, List.isEmpty_map]

theorem isClear_classify (s : Snapshot) (category : Category) :
    s.classify.isClear category = s.tally.isClear category := by
  cases category with
  | badLicenses => exact isEmpty_map_eq _ _
  | deprecatedLicenses => rfl
  | licensesWithoutExtension => exact isEmpty_map_eq _ _
  | missingLicenses => exact isEmpty_map_eq _ _
  | unusedLicenses => rfl
  | readErrors => exact isEmpty_spellings_eq _
  | missingCopyrightOrLicensing =>
      have split : s.classify.missingInfo.isEmpty = true ↔
          s.filesWithoutCopyright.spellings.isEmpty = true ∧
            s.filesWithoutLicenses.spellings.isEmpty = true := MissingInfo.isEmpty_split
      rw [isEmpty_spellings_eq, isEmpty_spellings_eq, ← Bool.and_eq_true, ← Bool.eq_iff_iff] at split
      exact split

/-- Snapshots with the same tally have the same active categories. -/
theorem active_eq_of_tally_eq (h : s.tally = s'.tally) :
    s.classify.active = s'.classify.active := by
  have clear : s.classify.isClear = s'.classify.isClear := by
    funext category
    rw [isClear_classify, isClear_classify, h]
  rw [Classification.active, Classification.active, clear]

/-- Snapshots with the same tally have the same verdict. -/
theorem compliant_eq_of_tally_eq (h : s.tally = s'.tally) :
    s.classify.compliant = s'.classify.compliant := by
  rw [Bool.eq_iff_iff, ← Classification.active_eq_nil_iff, ← Classification.active_eq_nil_iff,
    active_eq_of_tally_eq h]

end Snapshot

end Compliance
