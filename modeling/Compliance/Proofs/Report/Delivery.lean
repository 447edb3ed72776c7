/-
**What reaches a sink.**

A sink without a limit takes every step of a report, so the bytes delivered to it are those of the
report's text, and the verdict counts.  A sink with a limit takes pieces one after the other as it
takes them joined, so what reaches it of a report is the front of the report's text, wherever the
text is cut into pieces and wherever the limit is.  On any sink, a verdict that counts is that of
the report, and all of the report has been delivered before.

Main definitions:

* `Sink.writeEach` — pieces written up to the first failure;
* `Sink.send` — the same, with the sink flushed in the end.

Main results:

* `Step.performUntilFailure_unlimited` — steps deliver their text;
* `Report.deliver_unlimited` — **a report is delivered whole**, with its verdict;
* `Report.deliver_eq_ok` — whatever the sink, only the report's own verdict is returned;
* `Sink.writeEach_eq` — **how bytes are cut into pieces does not show**;
* `Report.deliver_eq_send` — what any sink gets of a report;
* `Report.delivers_front` — a report that does not fit is cut at the limit and has no verdict.
-/

import Compliance.Proofs.Report.Contents
import Compliance.Proofs.Text.Utf8
import Compliance.Report.Rendering
import Compliance.Snapshot.Document

set_option relaxedAutoImplicit false
set_option autoImplicit false

namespace Compliance

namespace Step

theorem perform_unlimited (step : Step) :
    step.perform .unlimited = ⟨step.bytes, none, .unlimited⟩ := by
  cases step <;> rfl

@[simp] theorem textOf_append (steps later : List Step) :
    textOf (steps ++ later) = textOf steps ++ textOf later := by
  induction steps with
  | nil => simp
  | cons step steps ih => simp [ih, String.append_assoc]

/-- Steps deliver their text to a sink without a limit. -/
theorem performUntilFailure_unlimited (steps : List Step) :
    performUntilFailure .unlimited steps =
      ⟨Text.bytes (textOf steps), none, .unlimited⟩ := by
  induction steps with
  | nil => rfl
  | cons step steps ih =>
      rw [performUntilFailure, perform_unlimited]
      simp [ih, bytes]

end Step

namespace Report

/-- **A report is delivered whole** to a sink without a limit, and its verdict counts. -/
theorem deliver_unlimited (r : Report) (format : Format) :
    r.deliver format .unlimited = (Text.bytes (r.text format), .ok r.compliant) := by
  simp [deliver, Step.performUntilFailure_unlimited, text]

/-- Whatever the sink, a verdict that is returned is that of the report. -/
theorem deliver_eq_ok {r : Report} {format : Format} {sink : Sink} {verdict : Bool}
    (h : (r.deliver format sink).2 = .ok verdict) : verdict = r.compliant := by
  rw [deliver] at h
  cases failure : (Step.performUntilFailure sink (r.steps format ++ [.flush])).failure with
  | some f =>
      simp only [failure] at h
      cases h
  | none =>
      simp only [failure] at h
      exact (Except.ok.inj h).symm

end Report

/-! ### One delivery after the other -/

namespace Sink

/-- A delivery, counting the bytes that the sink took before. -/
def Delivery.after (bytes : List UInt8) (d : Delivery) : Delivery :=
  ⟨bytes ++ d.bytes, d.failure, d.sink⟩

/-- A delivery and, if it did not fail, another one to the sink that it leaves. -/
def Delivery.andThen (d : Delivery) (more : Sink → Delivery) : Delivery :=
  match d.failure with
  | some _ => d
  | none => (more d.sink).after d.bytes

theorem Delivery.andThen_of_failure {d : Delivery} {failure : Failure}
    (h : d.failure = some failure) (more : Sink → Delivery) : d.andThen more = d := by
  rw [andThen, h]

theorem Delivery.andThen_of_success {d : Delivery} (h : d.failure = none)
    (more : Sink → Delivery) : d.andThen more = (more d.sink).after d.bytes := by
  rw [andThen, h]

theorem Delivery.andThen_assoc (d : Delivery) (more last : Sink → Delivery) :
    (d.andThen more).andThen last = d.andThen fun sink => (more sink).andThen last := by
  cases failed : d.failure with
  | some failure =>
      rw [andThen_of_failure failed, andThen_of_failure failed, andThen_of_failure failed]
  | none =>
      rw [andThen_of_success failed, andThen_of_success failed]
      cases failedLater : (more d.sink).failure with
      | some failure =>
          have failedAfter : ((more d.sink).after d.bytes).failure = some failure := failedLater
          rw [andThen_of_failure failedAfter, andThen_of_failure failedLater]
      | none =>
          have wentOn : ((more d.sink).after d.bytes).failure = none := failedLater
          rw [andThen_of_success wentOn, andThen_of_success failedLater]
          simp only [after, List.append_assoc]

/-! ### Pieces -/

/-- Writes pieces one after the other, up to the first failure. -/
def writeEach (sink : Sink) : List (List UInt8) → Delivery
  | [] => ⟨[], none, sink⟩
  | piece :: pieces => (sink.write piece).andThen fun sink => sink.writeEach pieces

/-- Writes pieces and then flushes the sink. -/
def send (sink : Sink) (pieces : List (List UInt8)) : Delivery :=
  (sink.writeEach pieces).andThen flush

/-- Two pieces are taken as they are taken joined: the second one is offered only if the first one
has been taken whole, and then there is room for what is left of both. -/
theorem write_append (sink : Sink) (front back : List UInt8) :
    sink.write (front ++ back) = (sink.write front).andThen fun sink => sink.write back := by
  obtain ⟨room, fails⟩ := sink
  cases room with
  | none => rfl
  | some n =>
      by_cases fits : front.length ≤ n
      · have left : (front ++ back).length ≤ n ↔ back.length ≤ n - front.length := by
          rw [List.length_append]
          omega
        have room : n - (front ++ back).length = n - front.length - back.length := by
          rw [List.length_append]
          omega
        rw [Delivery.andThen_of_success ((failure_write_eq_none_iff rfl _).2 fits)]
        simp only [write, Delivery.after, List.take_append, left, room]
      · have closed : ¬ (front ++ back).length ≤ n := by
          rw [List.length_append]
          omega
        have cut : (front ++ back).take n = front.take n :=
          List.take_append_of_le_length (by omega)
        have full : n - (front ++ back).length = n - front.length := by
          rw [List.length_append]
          omega
        have failed : (write ⟨some n, fails⟩ front).failure = some .closed := if_neg fits
        rw [Delivery.andThen_of_failure failed]
        simp only [write, if_neg fits, if_neg closed, cut, full]

/-- **How bytes are cut into pieces does not show.** -/
theorem writeEach_eq (sink : Sink) (pieces : List (List UInt8)) :
    sink.writeEach pieces = sink.write pieces.flatten := by
  induction pieces generalizing sink with
  | nil => rw [List.flatten_nil, write_nil, writeEach]
  | cons piece pieces ih =>
      rw [List.flatten_cons, write_append, writeEach]
      simp only [ih]

end Sink

namespace Step

theorem performUntilFailure_cons (sink : Sink) (step : Step) (steps : List Step) :
    performUntilFailure sink (step :: steps) =
      (step.perform sink).andThen fun sink => performUntilFailure sink steps := rfl

/-- Steps up to the first failure, and then more of them. -/
theorem performUntilFailure_append (sink : Sink) (steps more : List Step) :
    performUntilFailure sink (steps ++ more) =
      (performUntilFailure sink steps).andThen fun sink => performUntilFailure sink more := by
  induction steps generalizing sink with
  | nil => rfl
  | cons step steps ih =>
      rw [List.cons_append, performUntilFailure_cons, performUntilFailure_cons,
        Sink.Delivery.andThen_assoc]
      simp only [ih]

/-- A step other than flushing writes its bytes. -/
theorem perform_of_ne_flush {step : Step} (h : step ≠ .flush) (sink : Sink) :
    step.perform sink = sink.write step.bytes := by
  cases step with
  | flush => exact absurd rfl h
  | heading title => rfl
  | bullet item => rfl
  | labeled label value => rfl
  | line text => rfl
  | blank => rfl
  | wrapped text => rfl

/-- Steps that do not flush write their bytes as pieces. -/
theorem performUntilFailure_eq_writeEach {steps : List Step} (h : .flush ∉ steps) (sink : Sink) :
    performUntilFailure sink steps = sink.writeEach (steps.map bytes) := by
  induction steps generalizing sink with
  | nil => rfl
  | cons step steps ih =>
      rw [List.mem_cons, not_or] at h
      rw [performUntilFailure_cons, perform_of_ne_flush (Ne.symm h.1), List.map_cons,
        Sink.writeEach]
      simp only [ih h.2]

/-- The pieces that steps write make up their text. -/
theorem flatten_map_bytes (steps : List Step) :
    (steps.map bytes).flatten = Text.bytes (textOf steps) := by
  induction steps with
  | nil => rfl
  | cons step steps ih =>
      rw [List.map_cons, List.flatten_cons, ih, textOf_cons, Text.bytes_append, bytes]

end Step

/-! ### Steps that do not flush -/

theorem Step.flush_not_mem_listing (lead : String) (items : List String) :
    .flush ∉ Step.listing lead items := by
  intro h
  rcases mem_listing.1 h with h | ⟨_, _, h⟩ | h
  · cases h
  · cases h
  · cases h

theorem Step.flush_not_mem_licenseListings (files : StringMap StringSet) :
    .flush ∉ Step.licenseListings files := by
  intro h
  obtain ⟨⟨license, paths⟩, _, h⟩ := List.mem_flatMap.1 h
  exact flush_not_mem_listing _ _ h

theorem Step.flush_not_mem_listingUnlessEmpty (lead : String) (items : StringSet) :
    .flush ∉ Step.listingUnlessEmpty lead items := by
  unfold listingUnlessEmpty
  split
  · exact List.not_mem_nil
  · exact flush_not_mem_listing _ _

theorem Classification.flush_not_mem_details (c : Classification) (category : Category) :
    .flush ∉ c.details category := by
  cases category with
  | badLicenses => exact Step.flush_not_mem_licenseListings _
  | deprecatedLicenses => exact Step.flush_not_mem_listing _ _
  | licensesWithoutExtension => exact Step.flush_not_mem_listing _ _
  | missingLicenses => exact Step.flush_not_mem_licenseListings _
  | unusedLicenses => exact Step.flush_not_mem_listing _ _
  | readErrors => exact Step.flush_not_mem_listing _ _
  | missingCopyrightOrLicensing =>
      rw [details, List.mem_append, List.mem_append]
      rintro ((h | h) | h)
      · exact Step.flush_not_mem_listingUnlessEmpty _ _ h
      · exact Step.flush_not_mem_listingUnlessEmpty _ _ h
      · exact Step.flush_not_mem_listingUnlessEmpty _ _ h

theorem Classification.flush_not_mem_sections (c : Classification) : .flush ∉ c.sections := by
  intro h
  obtain ⟨category, _, h | h | h⟩ := mem_sections.1 h
  · cases h
  · exact c.flush_not_mem_details category h
  · cases h

theorem Classification.flush_not_mem_recommendations (c : Classification) :
    .flush ∉ c.recommendations := by
  intro h
  rcases (mem_recommendations.1 h).2 with h | h | ⟨_, _, h⟩
  · cases h
  · cases h
  · cases h

theorem Report.flush_not_mem_summarySteps (s : Summary) : .flush ∉ summarySteps s := by
  intro h
  rcases mem_summarySteps.1 h with h | ⟨_, _, h⟩ | h
  · cases h
  · cases h
  · cases h

namespace Report

/-- A report is written first and flushed then. -/
theorem exists_steps_eq (r : Report) (format : Format) :
    ∃ body, r.steps format = body ++ [.flush] ∧ .flush ∉ body := by
  cases format with
  | json => exact ⟨[.line r.record.text], rfl, by simp⟩
  | plain =>
      refine ⟨_, rfl, ?_⟩
      rw [List.mem_append, List.mem_append, List.mem_cons]
      rintro ((h | h) | h | h)
      · exact r.classification.flush_not_mem_sections h
      · exact flush_not_mem_summarySteps _ h
      · cases h
      · exact r.classification.flush_not_mem_recommendations h

/-! ### Reports on any sink -/

/-- A report that a sink was given: the bytes that it took, and the verdict or the failure. -/
def outcome (r : Report) (d : Sink.Delivery) : List UInt8 × Except Sink.Failure Bool :=
  (d.bytes, match d.failure with
    | some failure => .error failure
    | none => .ok r.compliant)

/-- **What any sink gets of a report**, however the text of the report is cut into pieces. -/
theorem deliver_eq_send (r : Report) (format : Format) (sink : Sink) {pieces : List (List UInt8)}
    (whole : pieces.flatten = Text.bytes (r.text format)) :
    r.deliver format sink = r.outcome (sink.send pieces) := by
  obtain ⟨body, steps, flushless⟩ := r.exists_steps_eq format
  have text : Text.bytes (r.text format) = (body.map Step.bytes).flatten := by
    rw [Report.text, steps, Step.textOf_append, Step.flatten_map_bytes, Step.textOf_cons,
      Step.text_flush, Step.textOf_nil, String.append_empty, String.append_empty]
  have twice : ∀ sink : Sink, Step.performUntilFailure sink [.flush, .flush] = sink.flush := by
    rintro ⟨room, fails⟩
    cases fails <;> rfl
  have delivered :
      Step.performUntilFailure sink (r.steps format ++ [.flush]) = sink.send pieces := by
    rw [steps, List.append_assoc, Step.performUntilFailure_append,
      Step.performUntilFailure_eq_writeEach flushless, Sink.writeEach_eq, ← text, ← whole,
      ← Sink.writeEach_eq, Sink.send]
    exact congrArg _ (funext twice)
  rw [deliver, delivered, outcome]
  cases (sink.send pieces).failure <;> rfl

/-- The outcome of a report that is offered to a sink in one piece. -/
theorem outcome_send (r : Report) (sink : Sink) (bytes : List UInt8) :
    r.outcome (sink.send [bytes]) =
      ((sink.write bytes).bytes, match (sink.write bytes).failure with
        | some failure => .error failure
        | none => if sink.flushFails then .error .flushFailed else .ok r.compliant) := by
  rw [Sink.send, Sink.writeEach_eq, List.flatten_singleton]
  cases failed : (sink.write bytes).failure with
  | some failure => rw [Sink.Delivery.andThen_of_failure failed, outcome, failed]
  | none =>
      have flushed : (sink.write bytes).sink.flushFails = sink.flushFails := by
        obtain ⟨room, fails⟩ := sink
        cases room <;> rfl
      rw [Sink.Delivery.andThen_of_success failed, outcome, Sink.Delivery.after, Sink.flush,
        flushed, List.append_nil]
      cases sink.flushFails <;> rfl

/-- What a sink with a limit gets of a report. -/
theorem deliver_limited (r : Report) (format : Format) (n : Nat) (flushFails : Bool) :
    r.deliver format ⟨some n, flushFails⟩ =
      ((Text.bytes (r.text format)).take n,
        if n < (Text.bytes (r.text format)).length then .error .closed
        else if flushFails then .error .flushFailed else .ok r.compliant) := by
  rw [deliver_eq_send r format _ (List.flatten_singleton), outcome_send,
    Sink.bytes_write_of_room rfl]
  by_cases fits : (Text.bytes (r.text format)).length ≤ n
  · rw [(Sink.failure_write_eq_none_iff rfl _).2 fits, if_neg (Nat.not_lt.2 fits)]
  · have failed : (Sink.write ⟨some n, flushFails⟩ (Text.bytes (r.text format))).failure =
        some .closed := if_neg fits
    rw [failed, if_pos (Nat.not_le.1 fits)]

/-- A verdict is returned only behind a report that was delivered whole and flushed. -/
theorem delivered_of_ok {r : Report} {format : Format} {sink : Sink} {verdict : Bool}
    (h : (r.deliver format sink).2 = .ok verdict) :
    (r.deliver format sink).1 = Text.bytes (r.text format) ∧ sink.flushFails = false := by
  obtain ⟨room, fails⟩ := sink
  rw [deliver_eq_send r format _ (List.flatten_singleton), outcome_send] at h ⊢
  cases failed : (Sink.write ⟨room, fails⟩ (Text.bytes (r.text format))).failure with
  | some failure =>
      rw [failed] at h
      cases h
  | none =>
      rw [failed] at h
      cases fails with
      | true => cases h
      | false =>
          refine ⟨?_, rfl⟩
          cases room with
          | none => rfl
          | some n =>
              rw [Sink.failure_write_eq_none_iff rfl] at failed
              rw [Sink.bytes_write_of_room rfl, List.take_of_length_le failed]

/-- **A report that does not fit is cut at the limit and has no verdict.**  A sink without a limit
gets the whole report.  A sink with less room gets the front of it and fails as closed; one with
enough room gets all of it, and fails only if it cannot be flushed; else the verdict is returned.
So no verdict comes before all of the report has been delivered and flushed, whatever the sink; and
what a sink gets does not depend on the pieces in which the report is written. -/
theorem delivers_front (s : Snapshot) (specVersion : String) (format : Format) :
    ∃ whole, (ofSnapshot s specVersion).deliver format .unlimited =
        (whole, .ok s.classify.compliant) ∧
      (∀ n flushFails, n < whole.length →
        (ofSnapshot s specVersion).deliver format ⟨some n, flushFails⟩ =
          (whole.take n, .error .closed)) ∧
      (∀ n, whole.length ≤ n →
        (ofSnapshot s specVersion).deliver format ⟨some n, true⟩ =
          (whole, .error .flushFailed)) ∧
      (∀ n, whole.length ≤ n →
        (ofSnapshot s specVersion).deliver format ⟨some n, false⟩ =
          (whole, .ok s.classify.compliant)) ∧
      (∀ sink verdict, ((ofSnapshot s specVersion).deliver format sink).2 = .ok verdict →
        ((ofSnapshot s specVersion).deliver format sink).1 = whole ∧ sink.flushFails = false ∧
          verdict = s.classify.compliant) ∧
      (∀ sink pieces, pieces.flatten = whole →
        (ofSnapshot s specVersion).deliver format sink =
          (ofSnapshot s specVersion).outcome (sink.send pieces)) := by
  refine ⟨_, deliver_unlimited _ format, ?_, ?_, ?_, ?_, ?_⟩
  · intro n flushFails short
    rw [deliver_limited, if_pos short]
  · intro n fits
    rw [deliver_limited, if_neg (Nat.not_lt.2 fits), if_pos rfl, List.take_of_length_le fits]
  · intro n fits
    rw [deliver_limited, if_neg (Nat.not_lt.2 fits), if_neg Bool.false_ne_true,
      List.take_of_length_le fits]
    rfl
  · intro sink verdict returned
    obtain ⟨bytes, flushed⟩ := delivered_of_ok returned
    exact ⟨bytes, flushed, deliver_eq_ok returned⟩
  · intro sink pieces whole
    exact deliver_eq_send _ format sink whole

/-- Of the report on an empty document, a sink with room for nine bytes gets the first heading. -/
theorem delivers_first_heading :
    9 < (Text.bytes ((ofSnapshot (.ofDocument []) "3.3").text .plain)).length ∧
      (ofSnapshot (.ofDocument []) "3.3").deliver .plain ⟨some 9, true⟩ =
        (Text.bytes "# SUMMARY", .error .closed) := by
  obtain ⟨whole, delivered, cut, _⟩ := delivers_front (.ofDocument []) "3.3" .plain
  rw [deliver_unlimited] at delivered
  cases delivered
  have long : 9 < (Text.bytes ((ofSnapshot (.ofDocument []) "3.3").text .plain)).length := by
    decide +kernel
  have front : (Text.bytes ((ofSnapshot (.ofDocument []) "3.3").text .plain)).take 9 =
      Text.bytes "# SUMMARY" := by
    decide +kernel
  exact ⟨long, (cut 9 true long).trans (by rw [front])⟩

end Report

end Compliance
