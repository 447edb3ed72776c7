/-
**Reports.**

A report is about a classified snapshot, for one version of the specification.

Main definitions:

* `Report`, `Report.ofSnapshot` — what a report is about;
* `Report.summary`, `Report.compliant` — its summary and its verdict;
* `Format` — the formats of reports.
-/

import Compliance.Summary

set_option relaxedAutoImplicit false
set_option autoImplicit false

namespace Compliance

/-- What a report is about. -/
structure Report where
  /-- The issues. -/
  classification : Classification
  /-- The version of the specification that the verdict names. -/
  specVersion : String
  deriving DecidableEq

namespace Report

/-- The report on a snapshot. -/
def ofSnapshot (s : Snapshot) (specVersion : String) : Report := ⟨s.classify, specVersion⟩

/-- The summary of a report. -/
def summary (r : Report) : Summary := r.classification.summary

/-- The verdict of a report. -/
def compliant (r : Report) : Bool := r.classification.compliant

end Report

/-- The formats of reports. -/
inductive Format
  /-- Text for readers. -/
  | plain
  /-- A JSON record. -/
  | json
  deriving DecidableEq, Repr

namespace Format

/-- The name of a format. -/
def name : Format → String
  | plain => "plain"
  | json => "json"

/-- The format with a name. -/
def ofName? (name : String) : Option Format :=
  if name = "plain" then some plain else if name = "json" then some json else none

end Format

end Compliance
