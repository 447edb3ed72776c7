/-
**Summaries.**

A summary lists the license ids of each kind and counts files.

Main definitions:

* `Ratio` — how many files of all have something;
* `Summary`, `Classification.summary` — the nine facts of a summary;
* `Summary.lines` — their labels and texts.
-/

import Compliance.Classification

set_option relaxedAutoImplicit false
set_option autoImplicit false

namespace Compliance

/-- A number of files out of all. -/
structure Ratio where
  /-- How many files. -/
  count : UInt64
  /-- How many there are. -/
  total : UInt64
  deriving DecidableEq, Repr

namespace Ratio

/-- The files that are not missing; none if more are missing than there are. -/
def covered (total : UInt64) (missing : Nat) : Ratio where
  count := .ofNat (total.toNat - missing)
  total := total

/-- The text of a ratio. -/
def text (r : Ratio) : String := toString r.count.toNat ++ " / " ++ toString r.total.toNat

end Ratio

/-- The nine facts of a summary. -/
structure Summary where
  badLicenses : List String
  deprecatedLicenses : List String
  licensesWithoutExtension : List String
  missingLicenses : List String
  unusedLicenses : List String
  usedLicenses : List String
  /-- The number of files that could not be read. -/
  readErrors : UInt64
  /-- The files with copyright information. -/
  withCopyright : Ratio
  /-- The files with licensing information. -/
  withLicensing : Ratio
  deriving DecidableEq, Repr

/-- The summary of a classification. -/
def Classification.summary (c : Classification) : Summary where
  badLicenses := c.badLicenses.keys
  deprecatedLicenses := c.deprecatedLicenses.toList
  licensesWithoutExtension := c.licensesWithoutExtension.keys
  missingLicenses := c.missingLicenses.keys
  unusedLicenses := c.unusedLicenses.toList
  usedLicenses := c.usedLicenses.toList
  readErrors := .ofNat c.readErrors.size
  withCopyright := .covered c.fileTotal c.missingInfo.withoutCopyright
  withLicensing := .covered c.fileTotal c.missingInfo.withoutLicensing

namespace Summary

/-- License ids in one line. -/
def joined (ids : List String) : String := ", ".intercalate ids

/-- The facts of a summary as labels with texts. -/
def lines (s : Summary) : List (String × String) :=
  [("Bad licenses:", joined s.badLicenses),
   ("Deprecated licenses:", joined s.deprecatedLicenses),
   ("Licenses without file extension:", joined s.licensesWithoutExtension),
   ("Missing licenses:", joined s.missingLicenses),
   ("Unused licenses:", joined s.unusedLicenses),
   ("Used licenses:", joined s.usedLicenses),
   ("Read errors:", toString s.readErrors.toNat),
   ("Files with copyright information:", s.withCopyright.text),
   ("Files with license information:", s.withLicensing.text)]

end Summary

end Compliance
