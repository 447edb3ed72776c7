/-
**Rendering reports.**

A report is rendered as steps, in either format, and delivered to a sink.  The verdict counts only
once all of the report has been delivered and the sink has been flushed.

Main definitions:

* `Report.steps`, `Report.text` — the steps of a report and their text;
* `Report.deliver` — what reaches a sink, and the verdict or the sink's failure.
-/

import Compliance.Report.Plain
import Compliance.Report.Record

set_option relaxedAutoImplicit false
set_option autoImplicit false

namespace Compliance.Report

/-- The steps that write a JSON report. -/
def jsonSteps (r : Report) : List Step := [.line r.record.text, .flush]

/-- The steps that write a report. -/
def steps (r : Report) : Format → List Step
  | .plain => r.plainSteps
  | .json => r.jsonSteps

/-- The text of a report. -/
def text (r : Report) (format : Format) : String := Step.textOf (r.steps format)

/-- Writes a report to a sink and flushes it: the bytes that reached the sink, and the verdict or
the failure. -/
def deliver (r : Report) (format : Format) (sink : Sink) :
    List UInt8 × Except Sink.Failure Bool :=
  let delivery := Step.performUntilFailure sink (r.steps format ++ [.flush])
  match delivery.failure with
  | some failure => (delivery.bytes, .error failure)
  | none => (delivery.bytes, .ok r.compliant)

end Compliance.Report
