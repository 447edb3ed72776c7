/-
**A JSON report is consistent.**

The summary of a report and its details are computed apart, and a reader of the JSON report relies
on their agreement.  What the report holds is looked up by the keys that lead to it, so consistency
is stated about the JSON value that is printed, and not about the fields that it was made of.

Main definitions:

* `Json.Tree.At` — the values within a value, and the keys that lead to them;
* `Json.Tree.Ordered` — arrays of texts in ascending order, and objects without repeated keys;
* `Report.Consistent` — what a reader of a JSON report may rely on.

Main results:

* `Record.ordered_tree` — **all that a report holds is ordered**, the list of license texts without
  an extension apart;
* `Report.delivers_consistent` — **a JSON report on any snapshot is consistent**.
-/

import Compliance.Proofs.Report.Formats
import Compliance.Proofs.Text.Utf8Order

set_option relaxedAutoImplicit false
set_option autoImplicit false

namespace Compliance

open Json (Tree)
open Record (textsTree licenseFilesTree)

/-! ### Values within values -/

namespace Json.Tree

/-- A value within another one, with the keys that lead to it.  The elements of an array stand where
the array does. -/
inductive At : Tree → List String → Tree → Prop
  | here {t : Tree} : At t [] t
  | member {members : List (String × Tree)} {key : String} {x t : Tree} {path : List String} :
      (key, x) ∈ members → At x path t → At (.object members) (key :: path) t
  | element {items : List Tree} {x t : Tree} {path : List String} :
      x ∈ items → At x path t → At (.array items) path t

/-- An array of texts in strictly ascending order, an object without repeated keys, or neither an
array nor an object. -/
def Ordered : Tree → Prop
  | .array items => ∃ xs, items = xs.map .text ∧ Text.Ascending xs
  | .object members => (members.map (·.1)).Nodup
  | _ => True

/-- A value that is ordered throughout. -/
def AllOrdered (t : Tree) : Prop := ∀ path x, t.At path x → x.Ordered

theorem at_text {s : String} {path : List String} {x : Tree} (h : (text s).At path x) :
    path = [] ∧ x = text s := by
  cases h with
  | here => exact ⟨rfl, rfl⟩

/-- Within an array of texts there are the array and its texts. -/
theorem at_textsTree {xs path : List String} {x : Tree} (h : (textsTree xs).At path x) :
    path = [] ∧ (x = textsTree xs ∨ ∃ s, x = text s) := by
  cases h with
  | here => exact ⟨rfl, .inl rfl⟩
  | element mem within =>
      obtain ⟨s, _, rfl⟩ := List.mem_map.1 mem
      obtain ⟨rfl, rfl⟩ := at_text within
      exact ⟨rfl, .inr ⟨s, rfl⟩⟩

theorem allOrdered_count (n : UInt64) : (count n).AllOrdered := by
  intro path x within
  cases within with
  | here => trivial

theorem allOrdered_flag (b : Bool) : (flag b).AllOrdered := by
  intro path x within
  cases within with
  | here => trivial

theorem allOrdered_text (s : String) : (text s).AllOrdered := by
  intro path x within
  obtain ⟨_, rfl⟩ := at_text within
  trivial

theorem allOrdered_textsTree {xs : List String} (ascending : Text.Ascending xs) :
    (textsTree xs).AllOrdered := by
  intro path x within
  rcases (at_textsTree within).2 with rfl | ⟨s, rfl⟩
  · exact ⟨xs, rfl, ascending⟩
  · trivial

/-- An object is ordered throughout if no key repeats and its members are. -/
theorem allOrdered_object {members : List (String × Tree)} (once : (members.map (·.1)).Nodup)
    (ordered : ∀ m ∈ members, m.2.AllOrdered) : (object members).AllOrdered := by
  intro path x within
  cases within with
  | here => exact once
  | member mem within => exact ordered _ mem _ _ within

theorem keys_fields {F : Type} (fields : List F) (key : F → String) (value : F → Tree) :
    (fields.map fun f => (key f, value f)).map (·.1) = fields.map key := by
  rw [List.map_map]
  rfl

/-- A record is ordered throughout if its fields have different keys and ordered values. -/
theorem allOrdered_fields {F : Type} (fields : List F) (key : F → String) (value : F → Tree)
    (once : (fields.map key).Nodup) (ordered : ∀ f ∈ fields, (value f).AllOrdered) :
    (object (fields.map fun f => (key f, value f))).AllOrdered := by
  refine allOrdered_object ?_ ?_
  · rw [keys_fields]
    exact once
  · intro m hm
    obtain ⟨f, hf, rfl⟩ := List.mem_map.1 hm
    exact ordered f hf

end Json.Tree

/-! ### Parts of a record -/

theorem StringSet.ascending_bytes (s : StringSet) : Text.Ascending s.toList :=
  Text.ascending_iff.2 s.ascending

theorem StringMap.ascending_keys {α : Type} (m : StringMap α) : Text.Ascending m.keys :=
  Text.ascending_iff.2 (List.pairwise_map.2 m.ascending)

theorem Record.allOrdered_licenseFilesTree (files : StringMap StringSet) :
    (licenseFilesTree files).AllOrdered :=
  Tree.allOrdered_fields files.toList (·.1) (fun e => textsTree e.2.toList)
    files.ascending_keys.nodup fun e _ => Tree.allOrdered_textsTree e.2.ascending_bytes

theorem Ratio.allOrdered_tree (r : Ratio) : r.tree.AllOrdered :=
  Tree.allOrdered_fields schema.fields Field.key (fun f => .count (r.valueOf f)) (by decide)
    fun f _ => Tree.allOrdered_count (r.valueOf f)

theorem MissingInfo.allOrdered_tree (m : MissingInfo) : m.tree.AllOrdered :=
  Tree.allOrdered_fields schema.fields Field.key (fun f => textsTree (m.valueOf f).toList)
    (by decide) fun f _ => Tree.allOrdered_textsTree (m.valueOf f).ascending_bytes

/-- The lists of a summary are the keys of maps and the elements of sets. -/
theorem Classification.allOrdered_summary (c : Classification) : c.summary.tree.AllOrdered := by
  refine Tree.allOrdered_fields Summary.Field.all Summary.Field.key c.summary.fieldTree
    (by decide) fun f _ => ?_
  cases f with
  | badLicenses => exact Tree.allOrdered_textsTree c.badLicenses.ascending_keys
  | deprecatedLicenses => exact Tree.allOrdered_textsTree c.deprecatedLicenses.ascending_bytes
  | licensesWithoutExtension =>
      exact Tree.allOrdered_textsTree c.licensesWithoutExtension.ascending_keys
  | missingLicenses => exact Tree.allOrdered_textsTree c.missingLicenses.ascending_keys
  | unusedLicenses => exact Tree.allOrdered_textsTree c.unusedLicenses.ascending_bytes
  | usedLicenses => exact Tree.allOrdered_textsTree c.usedLicenses.ascending_bytes
  | readErrors => exact Tree.allOrdered_count _
  | withCopyright => exact Ratio.allOrdered_tree _
  | withLicensing => exact Ratio.allOrdered_tree _

/-! ### Whole records -/

namespace Record

/-- One field of a report is not ordered: different license ids may have the same path. -/
theorem allOrdered_fieldTree (r : Report) {f : Field} (h : f ≠ .licensesWithoutExtension) :
    (r.record.fieldTree f).AllOrdered := by
  cases f with
  | badLicenses => exact allOrdered_licenseFilesTree _
  | deprecatedLicenses => exact Tree.allOrdered_textsTree (StringSet.ascending_bytes _)
  | licensesWithoutExtension => exact absurd rfl h
  | missingLicenses => exact allOrdered_licenseFilesTree _
  | unusedLicenses => exact Tree.allOrdered_textsTree (StringSet.ascending_bytes _)
  | usedLicenses => exact Tree.allOrdered_textsTree (StringSet.ascending_bytes _)
  | readErrors => exact Tree.allOrdered_textsTree (StringSet.ascending_bytes _)
  | missingInfo => exact MissingInfo.allOrdered_tree _
  | summary => exact r.classification.allOrdered_summary
  | compliant => exact Tree.allOrdered_flag _
  | specVersion => exact Tree.allOrdered_text _

/-- **All that a report holds is ordered**, but for the paths of license texts without an
extension. -/
theorem ordered_tree (r : Report) {path : List String} {x : Tree}
    (within : r.record.tree.At path x) (ne : path ≠ ["licenses_without_extension"]) :
    x.Ordered := by
  cases within with
  | here =>
      show ((Field.all.map fun f => (f.key, r.record.fieldTree f)).map (·.1)).Nodup
      rw [Tree.keys_fields]
      decide
  | member mem within =>
      obtain ⟨f, _, same⟩ := List.mem_map.1 mem
      cases same
      by_cases h : f = .licensesWithoutExtension
      · subst h
        rw [(Tree.at_textsTree within).1] at ne
        exact absurd rfl ne
      · exact allOrdered_fieldTree r h _ _ within

/-! ### Looking up -/

variable {path : List String} {x : Tree}

/-- A key leads to the value of its field. -/
theorem at_field (r : Record) (f : Field) (within : (r.fieldTree f).At path x) :
    r.tree.At (f.key :: path) x :=
  .member (List.mem_map.2 ⟨f, schema.mem_fields f, rfl⟩) within

/-- Two keys lead to the value of a field of the summary. -/
theorem at_summary (r : Record) (f : Summary.Field) (within : (r.summary.fieldTree f).At path x) :
    r.tree.At ("summary" :: f.key :: path) x :=
  r.at_field .summary (.member (List.mem_map.2 ⟨f, Summary.schema.mem_fields f, rfl⟩) within)

/-- Two keys lead to each list of files that lack information. -/
theorem at_missingInfo (r : Record) (f : MissingInfo.Field) :
    r.tree.At ["files_without_copyright_or_licensing", f.key]
      (textsTree (r.missingInfo.valueOf f).toList) := by
  refine r.at_field .missingInfo (.member ?_ .here)
  cases f with
  | both => exact .head _
  | copyrightOnly => exact .tail _ (.head _)
  | licensingOnly => exact .tail _ (.tail _ (.head _))

end Record

/-- The keys of a ratio lead to its counts. -/
theorem Ratio.at_field (r : Ratio) (f : Field) : r.tree.At [f.key] (.count (r.valueOf f)) := by
  cases f with
  | count => exact .member (.head _) .here
  | total => exact .member (.tail _ (.head _)) .here

/-! ### Consistency -/

/-- The parts of a split have no file in common. -/
theorem MissingInfo.split_disjoint (copyright licensing : StringSet) :
    [(split copyright licensing).both.toList, (split copyright licensing).copyrightOnly.toList,
      (split copyright licensing).licensingOnly.toList].Pairwise List.Disjoint := by
  have lacking : ∀ s t : StringSet, List.Disjoint t.toList (s.diff t).toList := by
    intro s t x ht hd
    exact (StringSet.mem_diff.1 hd).2 ht
  refine List.pairwise_cons.2 ⟨?_, List.pairwise_pair.2 ?_⟩
  · intro part hpart
    rcases List.mem_pair.1 hpart with rfl | rfl
    · exact lacking copyright _
    · exact lacking licensing _
  · -- what only the first set has would be shared if the other one had it too
    intro x hx hy
    obtain ⟨hc, apart⟩ := StringSet.mem_diff.1 hx
    exact apart (StringSet.mem_inter.2 ⟨hc, (StringSet.mem_diff.1 hy).1⟩)

/-- Of a total, all are covered but the files of two lists, and never fewer than none. -/
theorem Ratio.count_covered (total : UInt64) (m n : Nat) :
    ((covered total (m + n)).count.toNat : Int) = max 0 ((total.toNat : Int) - m - n) := by
  have bound : total.toNat - (m + n) < 2 ^ 64 :=
    Nat.lt_of_le_of_lt (Nat.sub_le _ _) total.toNat_lt
  rw [covered, UInt64.toNat_ofNat_of_lt' bound]
  omega

namespace Report

/-- **What a reader of a JSON report may rely on.** -/
structure Consistent (t : Tree) : Prop where
  /-- Wherever they stand, arrays are of texts in strictly ascending order, one array apart, and
  objects have no key twice. -/
  ordered : ∀ path x, t.At path x → path ≠ ["licenses_without_extension"] → x.Ordered
  /-- Files are listed by license id, in strictly ascending order of the ids, which are those of the
  summary. -/
  licenseFiles : ∀ key ∈ ["bad_licenses", "missing_licenses"], ∃ members,
    t.At [key] (.object members) ∧ Text.Ascending (members.map (·.1)) ∧
      t.At ["summary", key] (textsTree (members.map (·.1)))
  /-- License ids without files are listed alike in the summary. -/
  licenses : ∀ key ∈ ["deprecated_licenses", "unused_licenses", "used_licenses"], ∃ ids,
    t.At [key] (textsTree ids) ∧ t.At ["summary", key] (textsTree ids)
  /-- The paths of license texts without an extension do not descend, and there is one for each id
  of the summary. -/
  extensionless : ∃ paths ids,
    t.At ["licenses_without_extension"] (textsTree paths) ∧
      t.At ["summary", "licenses_without_extension"] (textsTree ids) ∧
      paths.Pairwise (fun p q => Text.bytes p ≤ Text.bytes q) ∧ paths.length = ids.length
  /-- The files that could not be read are counted in 64 bits, so fewer than `2 ^ 64` of them are
  counted exactly. -/
  readErrors : ∃ files n,
    t.At ["read_errors"] (textsTree files) ∧ t.At ["summary", "read_errors"] (.count n) ∧
      n.toNat = files.length % 2 ^ 64
  /-- The files that lack information are in one of three lists.  The summary counts the others out
  of one total; none, if the lists have more files than there are. -/
  missing : ∃ both copyrightOnly licensingOnly withCopyright withLicensing total,
    t.At ["files_without_copyright_or_licensing", "both"] (textsTree both) ∧
      t.At ["files_without_copyright_or_licensing", "copyright_only"] (textsTree copyrightOnly) ∧
      t.At ["files_without_copyright_or_licensing", "licensing_only"] (textsTree licensingOnly) ∧
      t.At ["summary", "files_with_copyright_info", "count"] (.count withCopyright) ∧
      t.At ["summary", "files_with_copyright_info", "total"] (.count total) ∧
      t.At ["summary", "files_with_licensing_info", "count"] (.count withLicensing) ∧
      t.At ["summary", "files_with_licensing_info", "total"] (.count total) ∧
      [both, copyrightOnly, licensingOnly].Pairwise List.Disjoint ∧
      (withCopyright.toNat : Int) =
        max 0 ((total.toNat : Int) - both.length - copyrightOnly.length) ∧
      (withLicensing.toNat : Int) =
        max 0 ((total.toNat : Int) - both.length - licensingOnly.length)

/-- The ids under which files are listed are the keys of the object. -/
theorem consistent_licenseFiles {t : Tree} {key : String} {files : StringMap StringSet}
    (details : t.At [key] (licenseFilesTree files))
    (summary : t.At ["summary", key] (textsTree files.keys)) :
    ∃ members, t.At [key] (.object members) ∧ Text.Ascending (members.map (·.1)) ∧
      t.At ["summary", key] (textsTree (members.map (·.1))) := by
  have members : t.At [key] (.object (files.toList.map fun e => (e.1, textsTree e.2.toList))) :=
    details
  refine ⟨_, members, ?_⟩
  rw [Tree.keys_fields]
  exact ⟨files.ascending_keys, summary⟩

/-- The JSON form of a report on a snapshot is consistent. -/
theorem consistent_tree (s : Snapshot) (specVersion : String) :
    Consistent (ofSnapshot s specVersion).record.tree := by
  let r := (ofSnapshot s specVersion).record
  let c := s.classify
  have field : ∀ f : Record.Field, r.tree.At [f.key] (r.fieldTree f) := fun f =>
    r.at_field f .here
  have fact : ∀ f : Summary.Field, r.tree.At ["summary", f.key] (r.summary.fieldTree f) := fun f =>
    r.at_summary f .here
  refine ⟨fun _ _ => Record.ordered_tree _, ?licenseFiles, ?licenses, ?extensionless, ?readErrors,
    ?missing⟩
  case licenseFiles =>
      intro key mem
      rcases List.mem_pair.1 mem with rfl | rfl
      · exact consistent_licenseFiles (field .badLicenses) (fact .badLicenses)
      · exact consistent_licenseFiles (field .missingLicenses) (fact .missingLicenses)
  case licenses =>
      intro key mem
      rcases List.mem_cons.1 mem with rfl | mem
      · exact ⟨_, field .deprecatedLicenses, fact .deprecatedLicenses⟩
      rcases List.mem_pair.1 mem with rfl | rfl
      · exact ⟨_, field .unusedLicenses, fact .unusedLicenses⟩
      · exact ⟨_, field .usedLicenses, fact .usedLicenses⟩
  case extensionless =>
      refine ⟨_, _, field .licensesWithoutExtension, fact .licensesWithoutExtension, ?_, ?_⟩
      · exact c.pairwise_extensionlessPaths.imp Text.bytes_le_bytes
      · exact c.length_extensionlessPaths.trans (List.length_map _).symm
  case readErrors => exact ⟨_, _, field .readErrors, fact .readErrors, UInt64.toNat_ofNat⟩
  case missing =>
      refine ⟨_, _, _, _, _, _, r.at_missingInfo .both, r.at_missingInfo .copyrightOnly,
        r.at_missingInfo .licensingOnly, r.at_summary .withCopyright (Ratio.at_field _ .count),
        r.at_summary .withCopyright (Ratio.at_field _ .total),
        r.at_summary .withLicensing (Ratio.at_field _ .count),
        r.at_summary .withLicensing (Ratio.at_field _ .total),
        MissingInfo.split_disjoint _ _, ?_, ?_⟩
      · exact Ratio.count_covered _ _ _
      · exact Ratio.count_covered _ _ _

/-- **The JSON report on a snapshot is consistent**: what is delivered is the text of a consistent
value and a line feed. -/
theorem delivers_consistent (s : Snapshot) (specVersion : String) :
    ((ofSnapshot s specVersion).deliver .json .unlimited).1 =
        Text.bytes ((ofSnapshot s specVersion).record.tree.pretty ++ "\n") ∧
      Consistent (ofSnapshot s specVersion).record.tree := by
  refine ⟨?_, consistent_tree s specVersion⟩
  rw [deliver_unlimited, Record.bytes_text_json, Text.bytes_append]
  rfl

end Report

end Compliance
