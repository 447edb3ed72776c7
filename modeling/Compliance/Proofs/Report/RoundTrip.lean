/-
**Report records survive their text.**

A record is printed and read again field by field.  Each of its fields is read by a reader that takes
exactly what is printed for the field, so the whole text is read as the record that was printed.

Main results:

* `Record.spells_tree` — what is printed of a record spells the record;
* `Record.read_text` — **a record is read back from its text**, with any blanks around it;
* `Record.read_text_round_trip` — the same for the text of a report, and for what was read.
-/

import Compliance.Proofs.Collections
import Compliance.Proofs.Json.Printing
import Compliance.Proofs.Report.Delivery

set_option relaxedAutoImplicit false
set_option autoImplicit false

namespace Compliance

open Json (Spells)

/-! ### Values shared by records -/

namespace Record

theorem spells_textsTree (xs : List String) (depth : Nat) :
    Spells readTexts (Text.bytes ((textsTree xs).prettyAt depth)) xs :=
  Json.spells_array (fun s _ => by rw [Json.Tree.prettyAt]; exact Json.spells_quoted s _) xs depth

theorem spells_setTree (s : StringSet) (depth : Nat) :
    Spells readSet (Text.bytes ((textsTree s.toList).prettyAt depth)) s := by
  have spelled := (spells_textsTree s.toList depth).mapped StringSet.ofList
  rwa [StringSet.ofList_toList] at spelled

theorem spells_licenseFilesTree (files : StringMap StringSet) (depth : Nat) :
    Spells readLicenseFiles (Text.bytes ((licenseFilesTree files).prettyAt depth)) files := by
  have spelled := (Json.spells_object spells_setTree files.toList depth).mapped StringMap.ofList
  rwa [StringMap.ofList_toList] at spelled

end Record

/-! ### Parts of a record -/

/-- The value of a field of a ratio. -/
def Ratio.valueOf (r : Ratio) : Field → UInt64
  | .count => r.count
  | .total => r.total

theorem Ratio.spells_tree (r : Ratio) (depth : Nat) :
    Spells Ratio.read (Text.bytes (r.tree.prettyAt depth)) r := by
  have spelled := Json.spells_fields schema (fun f => .count (r.valueOf f)) r.valueOf (by decide)
    (fun f => by cases f <;> rfl)
    (fun f depth => by rw [Json.Tree.prettyAt]; exact Json.spells_count _) depth
  exact spelled.mapped fun value => (⟨value .count, value .total⟩ : Ratio)

/-- The value of a field of missing information. -/
def MissingInfo.valueOf (m : MissingInfo) : Field → StringSet
  | .both => m.both
  | .copyrightOnly => m.copyrightOnly
  | .licensingOnly => m.licensingOnly

theorem MissingInfo.spells_tree (m : MissingInfo) (depth : Nat) :
    Spells MissingInfo.read (Text.bytes (m.tree.prettyAt depth)) m := by
  have spelled := Json.spells_fields schema (fun f => Record.textsTree (m.valueOf f).toList)
    m.valueOf (by decide) (fun f => by cases f <;> rfl)
    (fun f depth => Record.spells_setTree _ depth) depth
  exact spelled.mapped fun value =>
    (⟨value .both, value .copyrightOnly, value .licensingOnly⟩ : MissingInfo)

/-- The value of a field of a summary. -/
def Summary.valueOf (s : Summary) : (f : Field) → f.Value
  | .badLicenses => s.badLicenses
  | .deprecatedLicenses => s.deprecatedLicenses
  | .licensesWithoutExtension => s.licensesWithoutExtension
  | .missingLicenses => s.missingLicenses
  | .unusedLicenses => s.unusedLicenses
  | .usedLicenses => s.usedLicenses
  | .readErrors => s.readErrors
  | .withCopyright => s.withCopyright
  | .withLicensing => s.withLicensing

theorem Summary.spells_fieldTree (s : Summary) (f : Summary.Field) (depth : Nat) :
    Spells f.read (Text.bytes ((s.fieldTree f).prettyAt depth)) (s.valueOf f) := by
  cases f with
  | badLicenses => exact Record.spells_textsTree _ depth
  | deprecatedLicenses => exact Record.spells_textsTree _ depth
  | licensesWithoutExtension => exact Record.spells_textsTree _ depth
  | missingLicenses => exact Record.spells_textsTree _ depth
  | unusedLicenses => exact Record.spells_textsTree _ depth
  | usedLicenses => exact Record.spells_textsTree _ depth
  | readErrors => exact Json.spells_count _
  | withCopyright => exact Ratio.spells_tree _ depth
  | withLicensing => exact Ratio.spells_tree _ depth

theorem Summary.spells_tree (s : Summary) (depth : Nat) :
    Spells Summary.read (Text.bytes (s.tree.prettyAt depth)) s :=
  (Json.spells_fields schema s.fieldTree s.valueOf (by decide) (fun f => by cases f <;> rfl)
    s.spells_fieldTree depth).mapped ofFields

/-! ### Whole records -/

namespace Record

/-- The value of a field of a record. -/
def valueOf (r : Record) : (f : Field) → f.Value
  | .badLicenses => r.badLicenses
  | .deprecatedLicenses => r.deprecatedLicenses
  | .licensesWithoutExtension => r.licensesWithoutExtension
  | .missingLicenses => r.missingLicenses
  | .unusedLicenses => r.unusedLicenses
  | .usedLicenses => r.usedLicenses
  | .readErrors => r.readErrors
  | .missingInfo => r.missingInfo
  | .summary => r.summary
  | .compliant => r.compliant
  | .specVersion => r.specVersion

theorem spells_fieldTree (r : Record) (f : Field) (depth : Nat) :
    Spells f.read (Text.bytes ((r.fieldTree f).prettyAt depth)) (r.valueOf f) := by
  cases f with
  | badLicenses => exact spells_licenseFilesTree _ depth
  | deprecatedLicenses => exact spells_setTree _ depth
  | licensesWithoutExtension => exact spells_textsTree _ depth
  | missingLicenses => exact spells_licenseFilesTree _ depth
  | unusedLicenses => exact spells_setTree _ depth
  | usedLicenses => exact spells_setTree _ depth
  | readErrors => exact spells_setTree _ depth
  | missingInfo => exact MissingInfo.spells_tree _ depth
  | summary => exact Summary.spells_tree _ depth
  | compliant => exact Json.spells_flag _
  | specVersion =>
      rw [fieldTree, Json.Tree.prettyAt]
      exact Json.spells_quoted _ _

/-- What is printed of a record spells the record. -/
theorem spells_tree (r : Record) (depth : Nat) :
    Spells (Json.mapped ofFields (Json.record schema)) (Text.bytes (r.tree.prettyAt depth)) r :=
  (Json.spells_fields schema r.fieldTree r.valueOf (by decide) (fun f => by cases f <;> rfl)
    r.spells_fieldTree depth).mapped ofFields

/-- **A record is read back from its text**, also with blanks around it. -/
theorem read_text (r : Record) {w w' : List UInt8} (hw : Json.Blanks w) (hw' : Json.Blanks w') :
    read .finished (w ++ (Text.bytes r.text ++ w')) = .ok r :=
  Json.whole_of_spells (r.spells_tree 0) hw hw'

/-- A report in JSON is the text of its record and a line feed. -/
theorem bytes_text_json (r : Report) :
    Text.bytes (r.text .json) = Text.bytes r.record.text ++ [10] := by
  simp [Report.text, Report.steps, Report.jsonSteps, Step.text, Step.textOfLines, Step.lines]
  rfl

/-- A record is read back from what a report in JSON delivers. -/
theorem read_delivered (r : Report) :
    read .finished (r.deliver .json .unlimited).1 = .ok r.record := by
  rw [Report.deliver_unlimited, bytes_text_json, ← List.nil_append (_ ++ [10])]
  exact read_text _ Json.Blanks.nil (Json.Blanks.cons rfl Json.Blanks.nil)

/-- **The text of a record is read as the record.**  So is what a report on a snapshot delivers; and
whatever input is read as a record, the text of that record is read as the same record, whose text
is that text again. -/
theorem read_text_round_trip :
    (∀ r : Record, read .finished (Text.bytes r.text) = .ok r) ∧
    (∀ (s : Snapshot) (specVersion : String),
      read .finished ((Report.ofSnapshot s specVersion).deliver .json .unlimited).1 =
        .ok (Report.ofSnapshot s specVersion).record) ∧
    (∀ (ending : Json.Ending) (input : List UInt8) (r : Record), read ending input = .ok r →
      read .finished (Text.bytes r.text) = .ok r ∧
      (read .finished (Text.bytes r.text)).map (Text.bytes ·.text) = .ok (Text.bytes r.text)) := by
  have back : ∀ r : Record, read .finished (Text.bytes r.text) = .ok r := by
    intro r
    have plain := r.read_text Json.Blanks.nil Json.Blanks.nil
    rwa [List.nil_append, List.append_nil] at plain
  refine ⟨back, fun s specVersion => read_delivered _, ?_⟩
  intro _ _ r _
  refine ⟨back r, ?_⟩
  rw [back r]
  rfl

/-- A record as an array, with keys and files out of order, a file given twice and the greatest count
there is. -/
def sampleInput : String :=
  "[\x7b\"B\":[\"y\",\"x\",\"y\"],\"A\":[]\x7d,[],[\"q\",\"p\",\"q\"],\x7b\x7d,[],[],[],[[],[],[]]," ++
  "[[],[],[],[],[],[],0,\x7b\"total\":18446744073709551615,\"count\":1\x7d,[0,0]]," ++
  "false,\"\\u0033\"]"

/-- What `sampleInput` holds. -/
def sample : Record where
  badLicenses := .ofList [("A", ∅), ("B", .ofList ["x", "y"])]
  deprecatedLicenses := ∅
  licensesWithoutExtension := ["q", "p", "q"]
  missingLicenses := ∅
  unusedLicenses := ∅
  usedLicenses := ∅
  readErrors := ∅
  missingInfo := ⟨∅, ∅, ∅⟩
  summary := ⟨[], [], [], [], [], [], 0, ⟨1, 18446744073709551615⟩, ⟨0, 0⟩⟩
  compliant := false
  specVersion := "3"

theorem sample_round_trip :
    read .finished (Text.bytes sampleInput) = .ok sample ∧
      read .finished (Text.bytes sample.text) = .ok sample := by
  have given : (read .finished (Text.bytes sampleInput)).toOption = some sample := by
    decide +kernel
  have accepted : read .finished (Text.bytes sampleInput) = .ok sample := by
    cases result : read .finished (Text.bytes sampleInput) with
    | error fault =>
        rw [result] at given
        cases given
    | ok r =>
        rw [result] at given
        exact congrArg _ (Option.some.inj given)
  exact ⟨accepted, (read_text_round_trip.2.2 _ _ _ accepted).1⟩

end Record

end Compliance
