/-
**Runs.**

A run reads a snapshot, classifies it and writes the report.  The snapshot is read before the place
of the report is opened, since opening a file creates or empties it: a bad snapshot leaves every file
as it was.  In which order a run does all that is told here once, for any machine that it may run on.

Main definitions:

* `Machine` — what a run asks of the machine it runs on;
* `Config.runOn` — what a run does on a machine;
* `exitStatus` — the status that a verdict gives.
-/

import Compliance.Log
import Compliance.Report.Rendering

set_option relaxedAutoImplicit false
set_option autoImplicit false

namespace Compliance

/-- The exit status of a verdict. -/
def exitStatus (compliant : Bool) : Nat := if compliant then 0 else 1

/-! ### Events of a run -/

/-- What is told of a snapshot that has been read. -/
def Snapshot.events (s : Snapshot) : List Event :=
  s.violations.map .inconsistent ++
    [.loaded s.fileTotal.toNat s.filesWithoutCopyright.size s.filesWithoutLicenses.size
      s.readErrors.size]

/-- What is told of a report that is being written. -/
def Report.events (r : Report) (format : Format) : List Event :=
  .classified r.compliant ::
    match format with
    | .plain => [.sectionsWritten r.classification.active.length]
    | .json => []

/-! ### Machines -/

/-- What a run asks of the machine it runs on. -/
structure Machine (m : Type → Type) where
  /-- An opened place for a report. -/
  Outlet : Type
  /-- Tells events. -/
  tell : List Event → m Unit
  /-- Reads the snapshot of a source. -/
  load : Source → m (Except Failure Snapshot)
  /-- Opens the place of a report; a file is created there, or emptied. -/
  openTarget : Target → m (Except Failure Outlet)
  /-- Writes a report to an opened place: the verdict, or the failure. -/
  write : Outlet → Format → Report → m (Except Failure Bool)

/-- Runs with the given settings on a machine. -/
def Config.runOn {m : Type → Type} [Monad m] (machine : Machine m) (c : Config) :
    m (Except Failure Bool) := do
  machine.tell [.loading c.source]
  match ← machine.load c.source with
  | .error failure => return .error failure
  | .ok snapshot =>
    machine.tell (snapshot.events ++ [.opening c.target])
    match ← machine.openTarget c.target with
    | .error failure => return .error failure
    | .ok outlet =>
      let report := Report.ofSnapshot snapshot c.specVersion
      machine.tell (report.events c.format)
      machine.write outlet c.format report

end Compliance
