/-
**Both formats report the same facts.**

A JSON report is read back as the record that it was written from, and the record gives the plain
report.  So the plain report can be computed from the JSON report, and it shows nothing else.

Main definitions:

* `Record.convert` — the plain report that the bytes of a JSON report give.

Main results:

* `Report.convert_delivered` — **the plain report is computed from the JSON report**;
* `Report.plain_determined_by_json` — JSON reports that are equal come with equal plain reports, and
  the sections of a plain report list what the fields of the JSON report hold.
-/

import Compliance.Proofs.Report.Outline

set_option relaxedAutoImplicit false
set_option autoImplicit false

namespace Compliance

/-- The plain report that the bytes of a JSON report give. -/
def Record.convert (json : List UInt8) : Except Json.Fault (List UInt8) :=
  (Record.read .finished json).map fun r => Text.bytes r.plainText

/-- The paths of the license texts without an extension are sorted. -/
theorem Classification.pairwise_extensionlessPaths (c : Classification) :
    c.extensionlessPaths.Pairwise (· ≤ ·) :=
  pairwise_mergeSort_le _

/-- Sorted paths are equal exactly if each path is listed equally often. -/
theorem Classification.extensionlessPaths_eq_iff {c c' : Classification} :
    c.extensionlessPaths = c'.extensionlessPaths ↔
      c.licensesWithoutExtension.values.Perm c'.licensesWithoutExtension.values := by
  constructor
  · intro h
    have middle := List.mergeSort_perm c'.licensesWithoutExtension.values (· ≤ ·)
    rw [← extensionlessPaths, ← h] at middle
    exact (List.mergeSort_perm _ _).symm.trans middle
  · intro h
    exact eq_of_perm_of_le ((List.mergeSort_perm _ _).trans (h.trans (List.mergeSort_perm _ _).symm))
      c.pairwise_extensionlessPaths c'.pairwise_extensionlessPaths

namespace Report

/-- **The plain report is computed from the JSON report.** -/
theorem convert_delivered (r : Report) :
    Record.convert (r.deliver .json .unlimited).1 = .ok (r.deliver .plain .unlimited).1 := by
  rw [Record.convert, Record.read_delivered, deliver_unlimited, text_plain_eq_record]
  rfl

/-- Reports that are equal in JSON are equal in plain text. -/
theorem plain_eq_of_json_eq {r r' : Report}
    (h : (r.deliver .json .unlimited).1 = (r'.deliver .json .unlimited).1) :
    (r.deliver .plain .unlimited).1 = (r'.deliver .plain .unlimited).1 := by
  have converted := r.convert_delivered
  rw [h, convert_delivered] at converted
  exact (Except.ok.inj converted).symm

/-- The license texts without an extension are listed once for each license id. -/
theorem extensionless_perm (s : Snapshot) (specVersion : String) :
    (ofSnapshot s specVersion).record.licensesWithoutExtension.Perm
      (s.licensesWithoutExtension.values.map Path.spelling) := by
  have values : (s.licensesWithoutExtension.map Path.spelling).values =
      s.licensesWithoutExtension.values.map Path.spelling := by
    rw [StringMap.values, StringMap.values, StringMap.toList_map, List.map_map, List.map_map]
    rfl
  rw [← values]
  exact List.mergeSort_perm _ _

/-- **The two formats report the same facts.**  The plain report on a snapshot is computed from the
bytes of its JSON report, so JSON reports that are equal come with equal plain reports.  The sections
of the plain report are those of the categories in which what is read from the JSON report lists
anything, in the order of categories, and they list just that; license texts without an extension are
listed once for each license id. -/
theorem plain_determined_by_json :
    (∀ s specVersion, Record.convert ((ofSnapshot s specVersion).deliver .json .unlimited).1 =
      .ok ((ofSnapshot s specVersion).deliver .plain .unlimited).1) ∧
    (∀ s s' specVersion specVersion',
      ((ofSnapshot s specVersion).deliver .json .unlimited).1 =
        ((ofSnapshot s' specVersion').deliver .json .unlimited).1 →
      ((ofSnapshot s specVersion).deliver .plain .unlimited).1 =
        ((ofSnapshot s' specVersion').deliver .plain .unlimited).1) ∧
    (∀ s specVersion, ∃ decoded,
      Record.read .finished ((ofSnapshot s specVersion).deliver .json .unlimited).1 = .ok decoded ∧
      s.classify.active =
        Category.all.filter (fun category => !(decoded.listings category).isEmpty) ∧
      s.classify.sections = (s.classify.active.map fun category =>
        Section.steps ⟨category, decoded.listings category⟩).flatten ∧
      decoded.licensesWithoutExtension.Perm
        (s.licensesWithoutExtension.values.map Path.spelling)) := by
  refine ⟨fun s specVersion => convert_delivered _, fun s s' _ _ => plain_eq_of_json_eq, ?_⟩
  intro s specVersion
  have active : s.classify.active = Category.all.filter fun category =>
      !((ofSnapshot s specVersion).record.listings category).isEmpty := by
    simp only [isEmpty_listings]
    rfl
  refine ⟨(ofSnapshot s specVersion).record, Record.read_delivered _, active, ?_,
    extensionless_perm s specVersion⟩
  have sections := sections_eq_outline (ofSnapshot s specVersion)
  rw [Record.outline, List.flatMap_map, ← active, List.flatMap_def] at sections
  exact sections

/-- A snapshot with two license texts without an extension. -/
def twoExtensionless (first second : String) : Snapshot where
  badLicenses := ∅
  deprecatedLicenses := ∅
  licensesWithoutExtension := {
    toList := [("A", .ofSpelling first), ("B", .ofSpelling second)]
    ascending := List.pairwise_pair.2 (show "A" < "B" by decide) }
  missingLicenses := ∅
  unusedLicenses := ∅
  usedLicenses := ∅
  readErrors := ∅
  filesWithoutCopyright := ∅
  filesWithoutLicenses := ∅
  fileTotal := 0

/-- Records do not hold which license id a text without an extension belongs to. -/
theorem record_twoExtensionless_comm (first second specVersion : String) :
    (ofSnapshot (twoExtensionless first second) specVersion).record =
      (ofSnapshot (twoExtensionless second first) specVersion).record := by
  have paths : (twoExtensionless first second).classify.extensionlessPaths =
      (twoExtensionless second first).classify.extensionlessPaths :=
    Classification.extensionlessPaths_eq_iff.2 (.swap _ _ [])
  rw [record, record, ofSnapshot, ofSnapshot, paths]
  rfl

/-- Reports do not show which license id a text without an extension belongs to. -/
theorem plain_twoExtensionless :
    twoExtensionless "p" "q" ≠ twoExtensionless "q" "p" ∧
      ((ofSnapshot (twoExtensionless "p" "q") "3.3").deliver .plain .unlimited).1 =
        ((ofSnapshot (twoExtensionless "q" "p") "3.3").deliver .plain .unlimited).1 := by
  refine ⟨by decide, plain_determined_by_json.2.1 _ _ _ _ ?_⟩
  rw [deliver_unlimited, deliver_unlimited, text, text, steps, steps, jsonSteps, jsonSteps,
    record_twoExtensionless_comm]

end Report

end Compliance
