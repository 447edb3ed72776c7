/-
**Failures of a run.**

A run fails if the snapshot cannot be read or makes no sense, or if the report cannot be written.

Main definitions:

* `Failure` — why a run failed;
* `Failure.message` — its wording.
-/

set_option relaxedAutoImplicit false
set_option autoImplicit false

namespace Compliance

/-- Why a run failed. -/
inductive Failure
  /-- The snapshot could not be read. -/
  | input (source reason : String)
  /-- The snapshot is not one. -/
  | parse (source detail : String)
  /-- The report's file could not be opened. -/
  | openSink (path reason : String)
  /-- The report could not be written. -/
  | sink (reason : String)
  deriving DecidableEq, Repr

/-- The wording of a failure. -/
def Failure.message : Failure → String
  | input source reason => "failed to read analysis snapshot from " ++ source ++ ": " ++ reason
  | parse source detail => "failed to parse analysis snapshot from " ++ source ++ ": " ++ detail
  | openSink path reason => "failed to open report output " ++ path ++ ": " ++ reason
  | sink reason => "failed to write report: " ++ reason

end Compliance
