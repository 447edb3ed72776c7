/-
**Snapshot documents.**

A snapshot is read from a JSON record.  The document keeps what stands in the record in its order,
with repetitions; the snapshot forgets order and repetitions.  A field that is not given is empty
or zero.

Main definitions:

* `Snapshot.Field`, `Snapshot.schema` — the fields of the record and how they are read;
* `Snapshot.Document`, `Snapshot.ofDocument` — what stands in a record, and what it says;
* `Snapshot.read` — reads a whole input as a snapshot.
-/

import Compliance.Json.Record
import Compliance.Snapshot

set_option relaxedAutoImplicit false
set_option autoImplicit false

namespace Compliance.Snapshot

/-- The fields of a snapshot record. -/
inductive Field
  | badLicenses
  | deprecatedLicenses
  | licensesWithoutExtension
  | missingLicenses
  | unusedLicenses
  | usedLicenses
  | readErrors
  | filesWithoutCopyright
  | filesWithoutLicenses
  | fileTotal
  deriving DecidableEq, Repr

namespace Field

/-- The fields in the order of their declaration. -/
def all : List Field :=
  [badLicenses, deprecatedLicenses, licensesWithoutExtension, missingLicenses, unusedLicenses,
   usedLicenses, readErrors, filesWithoutCopyright, filesWithoutLicenses, fileTotal]

theorem mem_all (f : Field) : f ∈ all := by cases f <;> decide

/-- The key of a field. -/
def key : Field → String
  | badLicenses => "bad_licenses"
  | deprecatedLicenses => "deprecated_licenses"
  | licensesWithoutExtension => "licenses_without_extension"
  | missingLicenses => "missing_licenses"
  | unusedLicenses => "unused_licenses"
  | usedLicenses => "used_licenses"
  | readErrors => "read_errors"
  | filesWithoutCopyright => "files_without_copyright"
  | filesWithoutLicenses => "files_without_licenses"
  | fileTotal => "file_total"

/-- What stands for a field, in its order. -/
abbrev Value : Field → Type
  | badLicenses => List (String × List Path)
  | deprecatedLicenses => List String
  | licensesWithoutExtension => List (String × Path)
  | missingLicenses => List (String × List Path)
  | unusedLicenses => List String
  | usedLicenses => List String
  | readErrors => List Path
  | filesWithoutCopyright => List Path
  | filesWithoutLicenses => List Path
  | fileTotal => UInt64

end Field

/-! ### Reading -/

/-- Reads a license id. -/
def readId : Json.Reader String := Json.text "a string"

/-- Reads a path. -/
def readPath : Json.Reader Path := Json.mapped Path.ofSpelling (Json.text "path string")

/-- Reads what stands for a field. -/
def readField : (f : Field) → Json.Reader f.Value
  | .badLicenses => Json.dict (Json.list readPath)
  | .deprecatedLicenses => Json.list readId
  | .licensesWithoutExtension => Json.dict readPath
  | .missingLicenses => Json.dict (Json.list readPath)
  | .unusedLicenses => Json.list readId
  | .usedLicenses => Json.list readId
  | .readErrors => Json.list readPath
  | .filesWithoutCopyright => Json.list readPath
  | .filesWithoutLicenses => Json.list readPath
  | .fileTotal => Json.count

/-- The record of a snapshot. -/
abbrev schema : Json.Schema where
  name := "ReportData"
  Field := Field
  decidableField := inferInstance
  fields := Field.all
  mem_fields := Field.mem_all
  key := Field.key
  Value := Field.Value
  read := readField

/-! ### Documents -/

/-- What stands in a snapshot record, in its order. -/
abbrev Document := List (Json.Entry schema)

namespace Document

/-- What stands for a field, if it is given. -/
def value? (d : Document) (f : Field) : Option f.Value := Json.Entry.value? d f

end Document

/-- Files by license id; of several entries for one id the last one counts. -/
def licenseFiles (entries : List (String × List Path)) : StringMap PathSet :=
  (StringMap.ofList entries).map PathSet.ofList

/-- What a document says. -/
def ofDocument (d : Document) : Snapshot where
  badLicenses := licenseFiles ((d.value? .badLicenses).getD [])
  deprecatedLicenses := .ofList ((d.value? .deprecatedLicenses).getD [])
  licensesWithoutExtension := .ofList ((d.value? .licensesWithoutExtension).getD [])
  missingLicenses := licenseFiles ((d.value? .missingLicenses).getD [])
  unusedLicenses := .ofList ((d.value? .unusedLicenses).getD [])
  usedLicenses := .ofList ((d.value? .usedLicenses).getD [])
  readErrors := .ofList ((d.value? .readErrors).getD [])
  filesWithoutCopyright := .ofList ((d.value? .filesWithoutCopyright).getD [])
  filesWithoutLicenses := .ofList ((d.value? .filesWithoutLicenses).getD [])
  fileTotal := (d.value? .fileTotal).getD 0

/-- Reads a whole input as a document. -/
def Document.read (ending : Json.Ending) (input : List UInt8) : Except Json.Fault Document :=
  Json.whole (Json.entries schema) ending input

/-- Reads a whole input as a snapshot. -/
def read (ending : Json.Ending) (input : List UInt8) : Except Json.Fault Snapshot :=
  (Document.read ending input).map ofDocument

end Compliance.Snapshot
