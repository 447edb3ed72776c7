/-
**Analysis snapshots.**

A snapshot is what the analysis of a project found: its license ids, the files that lack copyright
or licensing information, and how many files there are.

Main definitions:

* `Snapshot` — the findings;
* `Snapshot.violations` — sets of files that have more members than there are files.
-/

import Compliance.Path
import Compliance.StringMap

set_option relaxedAutoImplicit false
set_option autoImplicit false

namespace Compliance

/-- The findings of an analysis. -/
structure Snapshot where
  /-- Files by the invalid license id that they refer to. -/
  badLicenses : StringMap PathSet
  /-- Deprecated license ids. -/
  deprecatedLicenses : StringSet
  /-- License text files without an extension, by license id. -/
  licensesWithoutExtension : StringMap Path
  /-- Files by the license id without license text that they refer to. -/
  missingLicenses : StringMap PathSet
  /-- License ids with a license text that no file refers to. -/
  unusedLicenses : StringSet
  /-- License ids that files refer to. -/
  usedLicenses : StringSet
  /-- Files that could not be read. -/
  readErrors : PathSet
  /-- Files without copyright information. -/
  filesWithoutCopyright : PathSet
  /-- Files without licensing information. -/
  filesWithoutLicenses : PathSet
  /-- The number of files. -/
  fileTotal : UInt64
  deriving DecidableEq

namespace Snapshot

/-- The sets of files that the number of files bounds, each with its name. -/
def boundedSets (s : Snapshot) : List (String × PathSet) :=
  [("files_without_copyright", s.filesWithoutCopyright),
   ("files_without_licenses", s.filesWithoutLicenses),
   ("read_errors", s.readErrors)]

/-- The message about a set of files with more members than there are files. -/
def violation (name : String) (size total : Nat) : String :=
  name ++ " has " ++ toString size ++ " entries but file_total is " ++ toString total

/-- A message for each set of files that has more members than there are files. -/
def violations (s : Snapshot) : List String :=
  s.boundedSets.filterMap fun (name, files) =>
    if s.fileTotal.toNat < files.size then some (violation name files.size s.fileTotal.toNat)
    else none

end Snapshot

end Compliance
