/-
**The texts of snapshot documents.**

Every document whose entries are sound is what some text says, and only such documents are.

Main definitions:

* `Snapshot.Document.text` — a text that says a document.

Main results:

* `Snapshot.Document.sound_of_read` — documents that are read are sound;
* `Snapshot.Document.read_text` — **sound documents are read back from their texts**.
-/

import Compliance.Proofs.Json.Entries
import Compliance.Proofs.Json.Printing
import Compliance.Snapshot.Document

set_option relaxedAutoImplicit false
set_option autoImplicit false

namespace Compliance

open Json (Spells Tree)

/-! ### Values that are passed over -/

/-- A boolean is passed over. -/
theorem Json.skips_false : Json.Skips (Text.bytes "false") := by
  intro ending w rest hw _
  have text : Text.bytes "false" = byte 'f' :: falseTail := by decide
  have start : skipStart ending (w ++ (Text.bytes "false" ++ rest)) = .ok (none, rest) := by
    rw [text, skipStart, skipBlank_append hw, List.cons_append,
      skipBlank_of_not_isBlank (by decide)]
    have notN : byte 'f' ≠ byte 'n' := by decide
    have notT : byte 'f' ≠ byte 't' := by decide
    simp only [if_neg notN, if_neg notT, if_true, word_append]
    rfl
  rw [skip, skipWithin, start]
  rfl

namespace Snapshot

/-! ### Printed documents -/

/-- Paths as a JSON value. -/
def pathsTree (paths : List Path) : Tree := .array (paths.map fun p => .text p.spelling)

/-- Paths by license id as a JSON value. -/
def licenseFilesTree (files : List (String × List Path)) : Tree :=
  .object (files.map fun e => (e.1, pathsTree e.2))

/-- What stands for a field as a JSON value. -/
def Field.tree : (f : Field) → f.Value → Tree
  | .badLicenses, files => licenseFilesTree files
  | .deprecatedLicenses, ids => .array (ids.map .text)
  | .licensesWithoutExtension, paths => .object (paths.map fun e => (e.1, .text e.2.spelling))
  | .missingLicenses, files => licenseFilesTree files
  | .unusedLicenses, ids => .array (ids.map .text)
  | .usedLicenses, ids => .array (ids.map .text)
  | .readErrors, paths => pathsTree paths
  | .filesWithoutCopyright, paths => pathsTree paths
  | .filesWithoutLicenses, paths => pathsTree paths
  | .fileTotal, n => .count n

/-- An entry as a member of an object; an unknown member may have any value. -/
def Document.member : Json.Entry schema → String × Tree
  | .known f value => (Field.key f, Field.tree f value)
  | .unknown key => (key, .flag false)

/-- A text that says a document. -/
def Document.text (d : Document) : String := (Tree.object (d.map Document.member)).pretty

/-! ### Reading them -/

theorem spells_path (p : Path) (depth : Nat) :
    Spells readPath (Text.bytes ((Tree.text p.spelling).prettyAt depth)) p := by
  have spelled := (Json.spells_quoted p.spelling "path string").mapped Path.ofSpelling
  have same : Path.ofSpelling p.spelling = p := Path.ext_spelling rfl
  rw [same] at spelled
  rwa [Tree.prettyAt]

theorem spells_id (id : String) (depth : Nat) :
    Spells readId (Text.bytes ((Tree.text id).prettyAt depth)) id := by
  rw [Tree.prettyAt]
  exact Json.spells_quoted id "a string"

theorem spells_pathsTree (paths : List Path) (depth : Nat) :
    Spells (Json.list readPath) (Text.bytes ((pathsTree paths).prettyAt depth)) paths :=
  Json.spells_array spells_path paths depth

theorem spells_licenseFilesTree (files : List (String × List Path)) (depth : Nat) :
    Spells (Json.dict (Json.list readPath))
      (Text.bytes ((licenseFilesTree files).prettyAt depth)) files :=
  Json.spells_object spells_pathsTree files depth

theorem spells_fieldTree (f : Field) (value : f.Value) (depth : Nat) :
    Spells (readField f) (Text.bytes ((f.tree value).prettyAt depth)) value := by
  cases f with
  | badLicenses => exact spells_licenseFilesTree value depth
  | deprecatedLicenses => exact Json.spells_array spells_id value depth
  | licensesWithoutExtension => exact Json.spells_object spells_path value depth
  | missingLicenses => exact spells_licenseFilesTree value depth
  | unusedLicenses => exact Json.spells_array spells_id value depth
  | usedLicenses => exact Json.spells_array spells_id value depth
  | readErrors => exact spells_pathsTree value depth
  | filesWithoutCopyright => exact spells_pathsTree value depth
  | filesWithoutLicenses => exact spells_pathsTree value depth
  | fileTotal =>
      rw [Field.tree, Tree.prettyAt]
      exact Json.spells_count value

namespace Document

/-- Documents that are read are sound. -/
theorem sound_of_read {ending : Json.Ending} {input : List UInt8} {d : Document}
    (h : read ending input = .ok d) : Json.Entry.Sound d := by
  obtain ⟨⟨d', rest⟩, entries, h⟩ := bind_eq_ok.1 h
  obtain ⟨_, _, h⟩ := bind_eq_ok.1 h
  have distinct : Field.all.Nodup := by decide
  split at h
  · cases h
    exact Json.sound_of_entries distinct entries
  · cases h

/-- **Sound documents are read back from their texts.** -/
theorem read_text {d : Document} (h : Json.Entry.Sound d) :
    read .finished (Text.bytes d.text) = .ok d := by
  obtain ⟨t, text, layout⟩ := Json.objectLayout_object 0 (d.map member)
  have entries : List.Forall₂ (Json.SpellsEntry schema)
      ((d.map member).map fun m => (m.1, Text.bytes (m.2.prettyAt (0 + 1)))) d := by
    rw [List.map_map, List.forall₂_map_left_iff]
    refine List.forall₂_same.2 fun e he => ?_
    cases e with
    | known f value =>
        refine .known ?_ (spells_fieldTree f value _)
        cases f <;> rfl
    | unknown key => exact .unknown (h.unknown key he) Json.skips_false
  have spelled := Json.whole_of_spells (Json.spells_entries layout entries h.once)
    Json.Blanks.nil Json.Blanks.nil
  rw [List.nil_append, List.append_nil, ← text] at spelled
  exact spelled

end Document

end Snapshot

end Compliance
