/-
**Report records.**

The JSON form of a report is a record.  It can be written and read again, and its verdict can be
derived from its issues.

Main definitions:

* `Record`, `Report.record` — the record of a report;
* `Record.tree`, `Record.text` — a record as a JSON value and as text;
* `Record.schema`, `Record.read` — how a record is read;
* `Record.derivedCompliance` — the verdict that the issues of a record give.
-/

import Compliance.Json.Record
import Compliance.Json.Tree
import Compliance.Report

set_option relaxedAutoImplicit false
set_option autoImplicit false

namespace Compliance

open Json (Reader Schema Tree)

/-- What the JSON form of a report holds. -/
structure Record where
  badLicenses : StringMap StringSet
  deprecatedLicenses : StringSet
  /-- The paths of license texts without an extension, one for each license id. -/
  licensesWithoutExtension : List String
  missingLicenses : StringMap StringSet
  unusedLicenses : StringSet
  usedLicenses : StringSet
  readErrors : StringSet
  missingInfo : MissingInfo
  summary : Summary
  /-- The verdict. -/
  compliant : Bool
  /-- The version of the specification. -/
  specVersion : String
  deriving DecidableEq

/-- The record of a report. -/
def Report.record (r : Report) : Record where
  badLicenses := r.classification.badLicenses
  deprecatedLicenses := r.classification.deprecatedLicenses
  licensesWithoutExtension := r.classification.extensionlessPaths
  missingLicenses := r.classification.missingLicenses
  unusedLicenses := r.classification.unusedLicenses
  usedLicenses := r.classification.usedLicenses
  readErrors := r.classification.readErrors
  missingInfo := r.classification.missingInfo
  summary := r.summary
  compliant := r.compliant
  specVersion := r.specVersion

/-- The verdict that the issues of a record give. -/
def Record.derivedCompliance (r : Record) : Bool :=
  r.badLicenses.isEmpty && r.deprecatedLicenses.isEmpty && r.licensesWithoutExtension.isEmpty &&
    r.missingLicenses.isEmpty && r.unusedLicenses.isEmpty && r.readErrors.isEmpty &&
    r.missingInfo.isEmpty

/-! ### Values shared by records -/

namespace Record

/-- Texts as a JSON array. -/
def textsTree (xs : List String) : Tree := .array (xs.map .text)

/-- Sets by license id as a JSON object. -/
def licenseFilesTree (files : StringMap StringSet) : Tree :=
  .object (files.toList.map fun (license, paths) => (license, textsTree paths.toList))

/-- Reads a text. -/
def readText : Reader String := Json.text "a string"

/-- Reads texts, keeping order and repetitions. -/
def readTexts : Reader (List String) := Json.list readText

/-- Reads texts as a set. -/
def readSet : Reader StringSet := Json.mapped StringSet.ofList readTexts

/-- Reads sets by license id. -/
def readLicenseFiles : Reader (StringMap StringSet) :=
  Json.mapped StringMap.ofList (Json.dict readSet)

end Record

/-! ### Ratios -/

namespace Ratio

/-- The fields of a ratio's record. -/
inductive Field
  | count
  | total
  deriving DecidableEq, Repr

/-- The key of a field. -/
def Field.key : Field → String
  | count => "count"
  | total => "total"

/-- A ratio's record. -/
abbrev schema : Schema where
  name := "Ratio"
  Field := Field
  decidableField := inferInstance
  fields := [.count, .total]
  mem_fields := fun f => by cases f <;> decide
  key := Field.key
  Value := fun _ => UInt64
  read := fun _ => Json.count

/-- Reads a ratio. -/
def read : Reader Ratio :=
  Json.mapped (fun value => ⟨value .count, value .total⟩) (Json.record schema)

/-- A ratio as a JSON value. -/
def tree (r : Ratio) : Tree :=
  .object [(Field.count.key, .count r.count), (Field.total.key, .count r.total)]

end Ratio

/-! ### Missing information -/

namespace MissingInfo

/-- The fields of the record of missing information. -/
inductive Field
  | both
  | copyrightOnly
  | licensingOnly
  deriving DecidableEq, Repr

/-- The key of a field. -/
def Field.key : Field → String
  | both => "both"
  | copyrightOnly => "copyright_only"
  | licensingOnly => "licensing_only"

/-- The record of missing information. -/
abbrev schema : Schema where
  name := "MissingInfo"
  Field := Field
  decidableField := inferInstance
  fields := [.both, .copyrightOnly, .licensingOnly]
  mem_fields := fun f => by cases f <;> decide
  key := Field.key
  Value := fun _ => StringSet
  read := fun _ => Record.readSet

/-- Reads missing information. -/
def read : Reader MissingInfo :=
  Json.mapped (fun value => ⟨value .both, value .copyrightOnly, value .licensingOnly⟩)
    (Json.record schema)

/-- Missing information as a JSON value. -/
def tree (m : MissingInfo) : Tree :=
  .object
    [(Field.both.key, Record.textsTree m.both.toList),
     (Field.copyrightOnly.key, Record.textsTree m.copyrightOnly.toList),
     (Field.licensingOnly.key, Record.textsTree m.licensingOnly.toList)]

end MissingInfo

/-! ### Summaries -/

namespace Summary

/-- The fields of a summary's record. -/
inductive Field
  | badLicenses
  | deprecatedLicenses
  | licensesWithoutExtension
  | missingLicenses
  | unusedLicenses
  | usedLicenses
  | readErrors
  | withCopyright
  | withLicensing
  deriving DecidableEq, Repr

namespace Field

/-- The fields in the order of their declaration. -/
def all : List Field :=
  [badLicenses, deprecatedLicenses, licensesWithoutExtension, missingLicenses, unusedLicenses,
   usedLicenses, readErrors, withCopyright, withLicensing]

/-- The key of a field. -/
def key : Field → String
  | badLicenses => "bad_licenses"
  | deprecatedLicenses => "deprecated_licenses"
  | licensesWithoutExtension => "licenses_without_extension"
  | missingLicenses => "missing_licenses"
  | unusedLicenses => "unused_licenses"
  | usedLicenses => "used_licenses"
  | readErrors => "read_errors"
  | withCopyright => "files_with_copyright_info"
  | withLicensing => "files_with_licensing_info"

/-- The type of a field's values. -/
abbrev Value : Field → Type
  | badLicenses => List String
  | deprecatedLicenses => List String
  | licensesWithoutExtension => List String
  | missingLicenses => List String
  | unusedLicenses => List String
  | usedLicenses => List String
  | readErrors => UInt64
  | withCopyright => Ratio
  | withLicensing => Ratio

/-- Reads the value of a field. -/
def read : (f : Field) → Reader f.Value
  | badLicenses => Record.readTexts
  | deprecatedLicenses => Record.readTexts
  | licensesWithoutExtension => Record.readTexts
  | missingLicenses => Record.readTexts
  | unusedLicenses => Record.readTexts
  | usedLicenses => Record.readTexts
  | readErrors => Json.count
  | withCopyright => Ratio.read
  | withLicensing => Ratio.read

end Field

/-- A summary's record. -/
abbrev schema : Schema where
  name := "Summary"
  Field := Field
  decidableField := inferInstance
  fields := Field.all
  mem_fields := fun f => by cases f <;> decide
  key := Field.key
  Value := Field.Value
  read := Field.read

/-- The summary with the given values of its fields. -/
def ofFields (value : (f : Field) → f.Value) : Summary where
  badLicenses := value .badLicenses
  deprecatedLicenses := value .deprecatedLicenses
  licensesWithoutExtension := value .licensesWithoutExtension
  missingLicenses := value .missingLicenses
  unusedLicenses := value .unusedLicenses
  usedLicenses := value .usedLicenses
  readErrors := value .readErrors
  withCopyright := value .withCopyright
  withLicensing := value .withLicensing

/-- Reads a summary. -/
def read : Reader Summary := Json.mapped ofFields (Json.record schema)

/-- The value of a field as a JSON value. -/
def fieldTree (s : Summary) : Field → Tree
  | .badLicenses => Record.textsTree s.badLicenses
  | .deprecatedLicenses => Record.textsTree s.deprecatedLicenses
  | .licensesWithoutExtension => Record.textsTree s.licensesWithoutExtension
  | .missingLicenses => Record.textsTree s.missingLicenses
  | .unusedLicenses => Record.textsTree s.unusedLicenses
  | .usedLicenses => Record.textsTree s.usedLicenses
  | .readErrors => .count s.readErrors
  | .withCopyright => s.withCopyright.tree
  | .withLicensing => s.withLicensing.tree

/-- A summary as a JSON value. -/
def tree (s : Summary) : Tree := .object (Field.all.map fun f => (f.key, s.fieldTree f))

end Summary

/-! ### Reports -/

namespace Record

/-- The fields of a report's record. -/
inductive Field
  | badLicenses
  | deprecatedLicenses
  | licensesWithoutExtension
  | missingLicenses
  | unusedLicenses
  | usedLicenses
  | readErrors
  | missingInfo
  | summary
  | compliant
  | specVersion
  deriving DecidableEq, Repr

namespace Field

/-- The fields in the order of their declaration. -/
def all : List Field :=
  [badLicenses, deprecatedLicenses, licensesWithoutExtension, missingLicenses, unusedLicenses,
   usedLicenses, readErrors, missingInfo, summary, compliant, specVersion]

/-- The key of a field. -/
def key : Field → String
  | badLicenses => "bad_licenses"
  | deprecatedLicenses => "deprecated_licenses"
  | licensesWithoutExtension => "licenses_without_extension"
  | missingLicenses => "missing_licenses"
  | unusedLicenses => "unused_licenses"
  | usedLicenses => "used_licenses"
  | readErrors => "read_errors"
  | missingInfo => "files_without_copyright_or_licensing"
  | summary => "summary"
  | compliant => "compliant"
  | specVersion => "reuse_version"

/-- The type of a field's values. -/
abbrev Value : Field → Type
  | badLicenses => StringMap StringSet
  | deprecatedLicenses => StringSet
  | licensesWithoutExtension => List String
  | missingLicenses => StringMap StringSet
  | unusedLicenses => StringSet
  | usedLicenses => StringSet
  | readErrors => StringSet
  | missingInfo => MissingInfo
  | summary => Summary
  | compliant => Bool
  | specVersion => String

/-- Reads the value of a field. -/
def read : (f : Field) → Reader f.Value
  | badLicenses => readLicenseFiles
  | deprecatedLicenses => readSet
  | licensesWithoutExtension => readTexts
  | missingLicenses => readLicenseFiles
  | unusedLicenses => readSet
  | usedLicenses => readSet
  | readErrors => readSet
  | missingInfo => MissingInfo.read
  | summary => Summary.read
  | compliant => Json.flag
  | specVersion => readText

end Field

/-- A report's record. -/
abbrev schema : Schema where
  name := "JsonReport"
  Field := Field
  decidableField := inferInstance
  fields := Field.all
  mem_fields := fun f => by cases f <;> decide
  key := Field.key
  Value := Field.Value
  read := Field.read

/-- The record with the given values of its fields. -/
def ofFields (value : (f : Field) → f.Value) : Record where
  badLicenses := value .badLicenses
  deprecatedLicenses := value .deprecatedLicenses
  licensesWithoutExtension := value .licensesWithoutExtension
  missingLicenses := value .missingLicenses
  unusedLicenses := value .unusedLicenses
  usedLicenses := value .usedLicenses
  readErrors := value .readErrors
  missingInfo := value .missingInfo
  summary := value .summary
  compliant := value .compliant
  specVersion := value .specVersion

/-- Reads a whole input as a record. -/
def read (ending : Json.Ending) (input : List UInt8) : Except Json.Fault Record :=
  Json.whole (Json.mapped ofFields (Json.record schema)) ending input

/-- The value of a field as a JSON value. -/
def fieldTree (r : Record) : Field → Tree
  | .badLicenses => licenseFilesTree r.badLicenses
  | .deprecatedLicenses => textsTree r.deprecatedLicenses.toList
  | .licensesWithoutExtension => textsTree r.licensesWithoutExtension
  | .missingLicenses => licenseFilesTree r.missingLicenses
  | .unusedLicenses => textsTree r.unusedLicenses.toList
  | .usedLicenses => textsTree r.usedLicenses.toList
  | .readErrors => textsTree r.readErrors.toList
  | .missingInfo => r.missingInfo.tree
  | .summary => r.summary.tree
  | .compliant => .flag r.compliant
  | .specVersion => .text r.specVersion

/-- A record as a JSON value. -/
def tree (r : Record) : Tree := .object (Field.all.map fun f => (f.key, r.fieldTree f))

/-- The text of a record. -/
def text (r : Record) : String := r.tree.pretty

end Record

end Compliance
