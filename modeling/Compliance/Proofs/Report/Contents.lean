/-
**What a plain report consists of.**

What can be said of every line of a plain report is said of a few kinds of lines.  The sections, the
summary and the recommendations are taken apart here, so that such a fact needs a word on each kind
and no second look at how the report is put together.

Main results:

* `Step.mem_listing` — the steps of a listing;
* `Classification.mem_sections`, `Classification.mem_recommendations`, `Report.mem_summarySteps` — the
  steps of the parts of a report;
* `Report.mem_plainSteps` — the steps of the whole report.
-/

import Compliance.Report.Plain

set_option relaxedAutoImplicit false
set_option autoImplicit false

namespace Compliance

variable {step : Step}

/-- A listing has a line that leads in, bullets and an empty line. -/
theorem Step.mem_listing {lead : String} {items : List String} :
    step ∈ listing lead items ↔
      step = .line lead ∨ (∃ item ∈ items, .bullet item = step) ∨ step = .blank := by
  rw [listing, List.cons_append, List.mem_cons, List.mem_append, List.mem_map, List.mem_singleton]

namespace Classification

variable {c : Classification}

/-- The sections have headings, the details of active categories and empty lines. -/
theorem mem_sections :
    step ∈ c.sections ↔ ∃ category ∈ c.active,
      step = .heading category.title ∨ step ∈ c.details category ∨ step = .blank := by
  simp only [sections, List.mem_flatMap, sectionOf, List.cons_append, List.mem_cons, List.mem_append,
    List.not_mem_nil, or_false]

/-- The recommendations have an empty line, a heading and the advice on active categories. -/
theorem mem_recommendations :
    step ∈ c.recommendations ↔ c.compliant = false ∧
      (step = .blank ∨ step = .heading "RECOMMENDATIONS" ∨
        ∃ category ∈ c.active, .wrapped category.advice = step) := by
  rw [recommendations]
  cases c.compliant with
  | true => exact iff_of_false List.not_mem_nil fun h => Bool.noConfusion h.1
  | false =>
      rw [if_neg Bool.false_ne_true, List.mem_cons, List.mem_cons, List.mem_map, eq_self, true_and]

end Classification

namespace Report

/-- The summary has a heading, a line for each label and an empty line. -/
theorem mem_summarySteps {s : Summary} :
    step ∈ summarySteps s ↔
      step = .heading "SUMMARY" ∨ (∃ line ∈ s.lines, .labeled line.1 line.2 = step) ∨
        step = .blank := by
  rw [summarySteps, List.cons_append, List.mem_cons, List.mem_append, List.mem_map,
    List.mem_singleton]

/-- A plain report has sections, a summary, the sentence with the verdict and recommendations, and is
flushed. -/
theorem mem_plainSteps {r : Report} :
    step ∈ r.plainSteps ↔
      step ∈ r.classification.sections ∨ step ∈ summarySteps r.summary ∨
        step = .line (verdict r.compliant r.specVersion) ∨
        step ∈ r.classification.recommendations ∨ step = .flush := by
  rw [plainSteps, List.append_assoc, List.append_assoc, List.mem_append, List.mem_append,
    List.cons_append, List.mem_cons, List.mem_append, List.mem_singleton]

end Report

end Compliance
