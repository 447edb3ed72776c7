/-
**Reports are no snapshots.**

The record of a report has most of its keys in common with that of a snapshot, and what stands for them
has the same shape but once: license texts without an extension are an array of paths in a report, and an
object from license ids to paths in a snapshot.  This is the third field of either record, and the two
before it are read as those of a snapshot.  So the record of a report is refused as a snapshot, and a
run on it ends before it writes anything.

Main results:

* `Record.refuses_tree` — **a record is refused as a snapshot**;
* `Record.never_snapshot` — what this means for sources and runs.
-/

import Compliance.Proofs.CommandLine
import Compliance.Proofs.Json.Refusal
import Compliance.Proofs.Report.RoundTrip
import Compliance.Proofs.Snapshot.Document

set_option relaxedAutoImplicit false
set_option autoImplicit false

namespace Compliance

open Json (Spells Refuses RefusesMember)

namespace Record

/-! ### The fields in common -/

/-- What a record holds by license id is spelled like that of a snapshot. -/
theorem spells_licenseFilesTree_snapshot (files : StringMap StringSet) (depth : Nat) :
    Spells (Snapshot.readField .badLicenses)
      (Text.bytes ((licenseFilesTree files).prettyAt depth))
      (files.toList.map fun e => (e.1, e.2.toList.map Path.ofSpelling)) := by
  have same : licenseFilesTree files = Snapshot.licenseFilesTree
      (files.toList.map fun e => (e.1, e.2.toList.map Path.ofSpelling)) := by
    simp [licenseFilesTree, Snapshot.licenseFilesTree, textsTree, Snapshot.pathsTree,
      Function.comp_def]
  rw [same]
  exact Snapshot.spells_licenseFilesTree _ depth

/-- The third field is refused. -/
theorem refuses_textsTree (xs : List String) (depth : Nat) :
    Refuses (Snapshot.readField .licensesWithoutExtension)
      (Text.bytes ((textsTree xs).prettyAt depth)) (.invalidType .sequence "a map") := by
  obtain ⟨t, text, _⟩ := Json.listLayout_array depth (xs.map Json.Tree.text)
  rw [textsTree, text]
  exact Json.refuses_dict_of_array _ t

/-- **A record is refused as a snapshot**, for the array in its third field. -/
theorem refuses_tree (r : Record) (depth : Nat) :
    Refuses (Json.entries Snapshot.schema) (Text.bytes (r.tree.prettyAt depth))
      (.invalidType .sequence "a map") := by
  obtain ⟨t, text, layout⟩ :=
    Json.objectLayout_object depth (Field.all.map fun f => (f.key, r.fieldTree f))
  rw [tree, text]
  refine Json.refuses_entries layout ?_
  refine .known (f := Snapshot.Field.badLicenses) rfl (by simp)
    (spells_licenseFilesTree_snapshot r.badLicenses (depth + 1)) ?_
  refine .known (f := Snapshot.Field.deprecatedLicenses) rfl (by decide)
    (Snapshot.spells_fieldTree .deprecatedLicenses r.deprecatedLicenses.toList (depth + 1)) ?_
  exact .here (f := Snapshot.Field.licensesWithoutExtension) rfl (by decide)
    (refuses_textsTree r.licensesWithoutExtension (depth + 1))

/-- What starts with the text of a record is no snapshot. -/
theorem read_snapshot_text (r : Record) (ending : Json.Ending) (rest : List UInt8) :
    ∃ unread, Snapshot.read ending (Text.bytes r.text ++ rest) =
      .error ⟨.invalidType .sequence "a map", unread⟩ := by
  obtain ⟨unread, refused⟩ := Json.whole_of_refuses (r.refuses_tree 0) ending rest
  refine ⟨unread, ?_⟩
  rw [Snapshot.read, Snapshot.Document.read]
  exact congrArg (·.map Snapshot.ofDocument) refused

theorem load_text (r : Record) (source : Source) (rest : List UInt8) :
    ∃ detail, source.load ⟨Text.bytes r.text ++ rest, none⟩ =
      .error (.parse source.name detail) := by
  obtain ⟨unread, refused⟩ := r.read_snapshot_text .finished rest
  have loaded := @Source.load_eq_error source ⟨Text.bytes r.text ++ rest, none⟩ _ refused
  rw [Source.failureOf_of_ne (by simp)] at loaded
  exact ⟨_, loaded⟩

end Record

/-! ### Runs -/

/-- A run on a report in JSON ends before the place of its own report is opened. -/
theorem Config.run_on_record {c : Config} {w : World} {r : Record} {rest : List UInt8}
    (h : w.bytes? c.source = some (Text.bytes r.text ++ rest)) :
    ∃ detail, (c.run w).result = .error (.parse c.source.name detail) ∧
      (c.run w).stdout = [] ∧ (c.run w).tree = w.tree := by
  obtain ⟨detail, refused⟩ := r.load_text c.source rest
  have failed : w.load c.source = .error (.parse c.source.name detail) := by
    rw [World.load_of_bytes? h, refused]
  exact ⟨detail, Config.run_of_load_error failed⟩

/-- A run with a verdict that writes to a file leaves the whole report there, whatever the sink. -/
theorem Config.read_target_of_ok {c : Config} {w : World} {verdict : Bool} {path : String}
    (h : (c.run w).result = .ok verdict) (target : c.target = .file path) :
    ∃ snapshot, (c.run w).tree.read path =
      .ok (Text.bytes ((Report.ofSnapshot snapshot c.specVersion).text c.format)) := by
  rcases c.run_cases w with ⟨failure, _, failed, _⟩ | ⟨snapshot, opened, _, opens, wrote⟩
  · cases failed.symm.trans h
  · rw [target] at opens
    obtain ⟨place, placed, _, after⟩ := World.open_file opens
    obtain ⟨_, _, tree⟩ := wrote.of_ok h
    rw [tree, after]
    exact ⟨snapshot, FileTree.read_write placed _⟩

namespace Record

/-- **A report in JSON is never mistaken for a snapshot.**  Whatever record a text is that of, and
whatever follows it, the text is malformed as a snapshot; so is what a report in JSON delivers.  A run
on the report ends with that error, writes nothing and changes no file.  So does a run on the file into
which an earlier run has written its report in JSON, also if it were to write to that file itself. -/
theorem never_snapshot :
    (∀ (r : Record) (source : Source) (rest : List UInt8),
      ∃ detail, source.load ⟨Text.bytes r.text ++ rest, none⟩ =
        .error (.parse source.name detail)) ∧
    (∀ (snapshot : Snapshot) (specVersion : String) (source : Source),
      ∃ detail, source.load
          ⟨((Report.ofSnapshot snapshot specVersion).deliver .json .unlimited).1, none⟩ =
        .error (.parse source.name detail)) ∧
    (∀ (snapshot : Snapshot) (specVersion : String) (c : Config) (w : World),
      w.bytes? c.source =
        some ((Report.ofSnapshot snapshot specVersion).deliver .json .unlimited).1 →
      ∃ detail, (c.run w).result = .error (.parse c.source.name detail) ∧
        (c.run w).stdout = [] ∧ (c.run w).tree = w.tree) ∧
    (∀ (first second : Config) (w w' : World) (verdict : Bool) (path : String),
      first.format = .json → first.target = .file path → (first.run w).result = .ok verdict →
      second.source = .file path → w'.tree = (first.run w).tree →
      ∃ detail, (second.run w').result = .error (.parse path detail) ∧
        (second.run w').stdout = [] ∧ (second.run w').tree = w'.tree) := by
  have delivered : ∀ r : Report, (r.deliver .json .unlimited).1 = Text.bytes r.record.text ++ [10] :=
    fun r => by rw [Report.deliver_unlimited, bytes_text_json]
  refine ⟨load_text, ?_, ?_, ?_⟩
  · intro snapshot specVersion source
    rw [delivered]
    exact load_text _ source [10]
  · intro snapshot specVersion c w given
    rw [delivered] at given
    exact Config.run_on_record given
  · intro first second w w' verdict path format target concluded source after
    obtain ⟨snapshot, written⟩ := Config.read_target_of_ok concluded target
    rw [format, bytes_text_json] at written
    have given : w'.bytes? second.source =
        some (Text.bytes (Report.ofSnapshot snapshot first.specVersion).record.text ++ [10]) := by
      rw [source, World.bytes?, after, written]
      rfl
    have ended := Config.run_on_record given
    rwa [source] at ended

/-- The settings of a run that writes its report in JSON to a file. -/
def rerunConfig (input : String) : Config where
  format := .json
  source := .file input
  target := .file "b.json"
  specVersion := "3.3"

/-- A report in JSON that is given as a snapshot, to be replaced by the report on it, stays as it
is. -/
theorem never_snapshot_rerun :
    ((rerunConfig "a.json").run CommandLine.unusedInFile).result = .ok false ∧
    ∃ detail,
      ((rerunConfig "b.json").run
        ⟨((rerunConfig "a.json").run CommandLine.unusedInFile).tree, ⟨[], none⟩, .unlimited⟩).result =
        .error (.parse "b.json" detail) ∧
      ((rerunConfig "b.json").run
        ⟨((rerunConfig "a.json").run CommandLine.unusedInFile).tree, ⟨[], none⟩, .unlimited⟩).tree =
        ((rerunConfig "a.json").run CommandLine.unusedInFile).tree := by
  have concluded : ((rerunConfig "a.json").run CommandLine.unusedInFile).result = .ok false := rfl
  obtain ⟨detail, refused, _, tree⟩ := never_snapshot.2.2.2 (rerunConfig "a.json")
    (rerunConfig "b.json") CommandLine.unusedInFile
    ⟨((rerunConfig "a.json").run CommandLine.unusedInFile).tree, ⟨[], none⟩, .unlimited⟩ false
    "b.json" rfl rfl concluded rfl rfl
  exact ⟨concluded, detail, refused, tree⟩

end Record

end Compliance
