/-
**Steps that go on after a failure.**

A sink that is full refuses whatever holds a byte.  Steps performed one after the other go on all the
same, each of them up to its own first failure, so what reaches the sink is settled by its room alone:
after some steps, there is left of the room what their texts leave of it.  Every step other than
flushing writes at least a line feed, and that is why such a step fails exactly if what has been
written with it is longer than the room, be it that the room ends within the step, at its start or
long before.

A step may be written in any pieces, so a sink may also take a piece in several goes, and whether the
sink can be flushed may differ from one time to the next.

Main definitions:

* `Step.pieces` — the pieces in which the lines of a step are written;
* `Attempt` — a step at a sink: the pieces in which it is written, and whether flushing fails then;
* `Attempt.performEach`, `Attempt.sinkAfter` — what attempts deliver, and the sink that they leave.

Main results:

* `Step.bytes_ne_nil` — every step other than flushing writes something;
* `Attempt.perform_eq` — an attempt is its step, however the step is cut;
* `Attempt.room_sinkAfter` — the room that attempts leave;
* `Attempt.performEach_limited` — **what each of several steps does to a sink with a limit**.
-/

import Compliance.Proofs.Report.Delivery
import Compliance.Proofs.Text.Wrap

set_option relaxedAutoImplicit false
set_option autoImplicit false

namespace Compliance

/-! ### Sinks -/

namespace Sink

/-- The bytes that several deliveries brought. -/
def delivered (ds : List Delivery) : List UInt8 := ds.flatMap (·.bytes)

theorem bytes_write_of_no_limit {sink : Sink} (h : sink.room = none) (bytes : List UInt8) :
    (sink.write bytes).bytes = bytes := by
  simp [write, h]

theorem room_write (sink : Sink) (bytes : List UInt8) :
    (sink.write bytes).sink.room = sink.room.map (· - bytes.length) := by
  obtain ⟨room, fails⟩ := sink
  cases room <;> rfl

/-- A sink with the same room that can be flushed or cannot. -/
def withFlush (sink : Sink) (flushFails : Bool) : Sink := ⟨sink.room, flushFails⟩

@[simp] theorem room_withFlush (sink : Sink) (flushFails : Bool) :
    (sink.withFlush flushFails).room = sink.room := rfl

@[simp] theorem flushFails_withFlush (sink : Sink) (flushFails : Bool) :
    (sink.withFlush flushFails).flushFails = flushFails := rfl

theorem flushFails_write (sink : Sink) (bytes : List UInt8) :
    (sink.write bytes).sink.flushFails = sink.flushFails := by
  obtain ⟨room, fails⟩ := sink
  cases room <;> rfl

end Sink

/-! ### Steps and their pieces -/

namespace Step

/-- The pieces in which the lines of a step are written. -/
def pieces : Step → List String
  | heading title => ["# ", title, "\n", "\n"]
  | bullet item => ["* ", item, "\n"]
  | labeled label value =>
    if value = "" then ["* ", label, "\n"] else ["* ", label, " ", value, "\n"]
  | line text => [text, "\n"]
  | blank => ["\n"]
  | wrapped text =>
    (Text.wrapParagraph text pageWidth "* " "  ").flatMap fun line => [line, "\n"]
  | flush => []

theorem join_pieces (step : Step) : String.join step.pieces = step.text := by
  have ended : ∀ lines : List String,
      String.join (lines.flatMap fun line => [line, "\n"]) = textOfLines lines := by
    intro lines
    induction lines with
    | nil => rfl
    | cons line lines ih =>
        simp [ih, textOfLines, String.push_eq_append, String.append_assoc]
  cases step with
  | heading title =>
      simp [pieces, text, lines, textOfLines, String.push_eq_append, String.append_assoc]
  | bullet item =>
      simp [pieces, text, lines, textOfLines, String.push_eq_append, String.append_assoc]
  | labeled label value =>
      by_cases empty : value = ""
      · simp [pieces, text, lines, textOfLines, String.push_eq_append, String.append_assoc, empty]
      · simp [pieces, text, lines, textOfLines, String.push_eq_append, String.append_assoc, empty]
  | line words => exact ended [words]
  | blank => rfl
  | wrapped words => exact ended _
  | flush => rfl

/-- The pieces of a step make up its bytes. -/
theorem flatten_pieces (step : Step) : (step.pieces.map Text.bytes).flatten = step.bytes := by
  have joined : ∀ texts : List String,
      (texts.map Text.bytes).flatten = Text.bytes (String.join texts) := by
    intro texts
    induction texts with
    | nil => rfl
    | cons text texts ih => simp [ih]
  rw [joined, step.join_pieces, bytes]

theorem lines_ne_nil {step : Step} (h : step ≠ .flush) : step.lines ≠ [] := by
  cases step with
  | flush => exact absurd rfl h
  | wrapped text => exact Text.Margin.wrap_ne_nil _ text
  | heading title => exact List.cons_ne_nil _ _
  | bullet item => exact List.cons_ne_nil _ _
  | labeled label value => exact List.cons_ne_nil _ _
  | line text => exact List.cons_ne_nil _ _
  | blank => exact List.cons_ne_nil _ _

/-- **A step other than flushing writes something**, a line feed at least. -/
theorem bytes_ne_nil {step : Step} (h : step ≠ .flush) : step.bytes ≠ [] := by
  obtain ⟨line, later, lines⟩ := List.exists_cons_of_ne_nil (lines_ne_nil h)
  intro none
  have empty : step.text = "" := Text.bytes_injective none
  rw [text, lines] at empty
  simp [textOfLines] at empty

/-- A step leaves the room that its bytes leave. -/
theorem room_perform (sink : Sink) (step : Step) :
    (step.perform sink).sink.room = sink.room.map (· - step.bytes.length) := by
  by_cases h : step = .flush
  · rw [h]
    exact Option.map_id'.symm
  · rw [perform_of_ne_flush h, sink.room_write]

theorem flushFails_perform (sink : Sink) (step : Step) :
    (step.perform sink).sink.flushFails = sink.flushFails := by
  by_cases h : step = .flush
  · rw [h]
    rfl
  · rw [perform_of_ne_flush h, sink.flushFails_write]

/-- A sink with a limit takes the front of what a step writes. -/
theorem bytes_perform_of_room {sink : Sink} {n : Nat} (room : sink.room = some n) (step : Step) :
    (step.perform sink).bytes = step.bytes.take n := by
  by_cases h : step = .flush
  · rw [h]
    exact List.take_nil.symm
  · rw [perform_of_ne_flush h, Sink.bytes_write_of_room room]

theorem bytes_perform_of_no_limit {sink : Sink} (room : sink.room = none) (step : Step) :
    (step.perform sink).bytes = step.bytes := by
  by_cases h : step = .flush
  · rw [h]
    rfl
  · rw [perform_of_ne_flush h, Sink.bytes_write_of_no_limit room]

end Step

/-! ### Attempts -/

/-- A step at a sink. -/
structure Attempt where
  /-- The step. -/
  step : Step
  /-- The pieces in which it is written. -/
  pieces : List (List UInt8)
  /-- The pieces make up what the step writes. -/
  flatten_pieces : pieces.flatten = step.bytes
  /-- Whether the sink cannot be flushed at that time. -/
  flushFails : Bool

namespace Attempt

open Sink (Delivery delivered)

variable {sink sink' : Sink} {n : Nat} {a : Attempt} {attempts : List Attempt}

/-- A step in the pieces in which its lines are written. -/
def ofStep (step : Step) (flushFails : Bool) : Attempt :=
  ⟨step, step.pieces.map Text.bytes, step.flatten_pieces, flushFails⟩

/-- The bytes that several attempts offer. -/
def offered (attempts : List Attempt) : List UInt8 := attempts.flatMap (·.step.bytes)

/-- What an attempt delivers: it stops at the first piece that is not taken whole. -/
def perform (sink : Sink) (a : Attempt) : Delivery :=
  if a.step = .flush then (sink.withFlush a.flushFails).flush
  else (sink.withFlush a.flushFails).writeEach a.pieces

/-- What each of several attempts delivers, failures or not. -/
def performEach (sink : Sink) : List Attempt → List Delivery
  | [] => []
  | a :: attempts => a.perform sink :: performEach (a.perform sink).sink attempts

/-- The sink that several attempts leave. -/
def sinkAfter (sink : Sink) (attempts : List Attempt) : Sink :=
  attempts.foldl (fun sink a => (a.perform sink).sink) sink

/-! ### One attempt -/

/-- **An attempt is its step**, in whatever pieces the step is written. -/
theorem perform_eq (sink : Sink) (a : Attempt) :
    a.perform sink = a.step.perform (sink.withFlush a.flushFails) := by
  by_cases h : a.step = .flush
  · rw [perform, if_pos h, h]
    rfl
  · rw [perform, if_neg h, Sink.writeEach_eq, a.flatten_pieces, Step.perform_of_ne_flush h]

theorem room_perform (sink : Sink) (a : Attempt) :
    (a.perform sink).sink.room = sink.room.map (· - a.step.bytes.length) := by
  rw [a.perform_eq, Step.room_perform, Sink.room_withFlush]

theorem bytes_perform_of_room (room : sink.room = some n) (a : Attempt) :
    (a.perform sink).bytes = a.step.bytes.take n := by
  have found : (sink.withFlush a.flushFails).room = some n := room
  rw [a.perform_eq, Step.bytes_perform_of_room found]

theorem bytes_perform_of_no_limit (room : sink.room = none) (a : Attempt) :
    (a.perform sink).bytes = a.step.bytes := by
  have found : (sink.withFlush a.flushFails).room = none := room
  rw [a.perform_eq, Step.bytes_perform_of_no_limit found]

/-- Of the sink that it finds, an attempt depends on the room only. -/
theorem perform_congr (same : sink.room = sink'.room) : a.perform sink = a.perform sink' := by
  rw [perform_eq, perform_eq, Sink.withFlush, same, Sink.withFlush]

/-- A step that writes fails exactly if the sink has no room for all of it. -/
theorem failure_perform_of_ne_flush (h : a.step ≠ .flush) (room : sink.room = some n) :
    (a.perform sink).failure ≠ none ↔ n < a.step.bytes.length := by
  have found : (sink.withFlush a.flushFails).room = some n := room
  rw [perform_eq, Step.perform_of_ne_flush h, ne_eq, Sink.failure_write_eq_none_iff found,
    Nat.not_le]

/-- Flushing fails exactly if the sink cannot be flushed then. -/
theorem failure_perform_of_flush (h : a.step = .flush) :
    (a.perform sink).failure ≠ none ↔ a.flushFails = true := by
  rw [perform, if_pos h, Sink.flush]
  cases a.flushFails <;> simp

theorem bytes_perform_of_flush (h : a.step = .flush) : (a.perform sink).bytes = [] := by
  rw [perform, if_pos h]
  rfl

/-- Flushing leaves the room as it is. -/
theorem room_perform_of_flush (h : a.step = .flush) : (a.perform sink).sink.room = sink.room := by
  rw [perform, if_pos h]
  rfl

/-! ### Several attempts -/

theorem performEach_congr (same : sink.room = sink'.room) :
    performEach sink attempts = performEach sink' attempts := by
  cases attempts with
  | nil => rfl
  | cons a attempts => rw [performEach, performEach, perform_congr same]

theorem performEach_append (sink : Sink) (attempts later : List Attempt) :
    performEach sink (attempts ++ later) =
      performEach sink attempts ++ performEach (sinkAfter sink attempts) later := by
  induction attempts generalizing sink with
  | nil => rfl
  | cons a attempts ih =>
      rw [List.cons_append, performEach, ih]
      rfl

/-- Attempts whose sink can be flushed always or never are steps that go on after a failure. -/
theorem performEach_eq (same : ∀ a ∈ attempts, a.flushFails = sink.flushFails) :
    performEach sink attempts = Step.performEach sink (attempts.map (·.step)) := by
  induction attempts generalizing sink with
  | nil => rfl
  | cons a attempts ih =>
      have first : a.perform sink = a.step.perform sink := by
        rw [a.perform_eq, same a List.mem_cons_self]
        rfl
      have later : ∀ b ∈ attempts, b.flushFails = (a.step.perform sink).sink.flushFails := by
        intro b hb
        rw [Step.flushFails_perform]
        exact same b (List.mem_cons_of_mem _ hb)
      rw [performEach, first, ih later]
      rfl

/-- **The room that attempts leave** is what the bytes leave that they offer, taken or not. -/
theorem room_sinkAfter (sink : Sink) (attempts : List Attempt) :
    (sinkAfter sink attempts).room = sink.room.map (· - (offered attempts).length) := by
  induction attempts generalizing sink with
  | nil => exact Option.map_id'.symm
  | cons a attempts ih =>
      have counted : (offered (a :: attempts)).length =
          a.step.bytes.length + (offered attempts).length := List.length_append
      rw [sinkAfter, List.foldl_cons, ← sinkAfter, ih, room_perform, Option.map_map, counted]
      simp only [Function.comp_def, Nat.sub_sub]

/-- A sink without a limit takes everything. -/
theorem delivered_performEach_of_no_limit (room : sink.room = none) :
    delivered (performEach sink attempts) = offered attempts := by
  induction attempts generalizing sink with
  | nil => rfl
  | cons a attempts ih =>
      have left : (a.perform sink).sink.room = none := by rw [room_perform, room, Option.map_none]
      rw [performEach, delivered, List.flatMap_cons, ← delivered, ih left,
        bytes_perform_of_no_limit room]
      rfl

/-- A sink with a limit takes the front of everything. -/
theorem delivered_performEach_of_room (room : sink.room = some n) :
    delivered (performEach sink attempts) = (offered attempts).take n := by
  -- the room shrinks by what is offered, so that nothing is taken once something was refused
  induction attempts generalizing sink n with
  | nil => exact List.take_nil.symm
  | cons a attempts ih =>
      have left : (a.perform sink).sink.room = some (n - a.step.bytes.length) := by
        rw [room_perform, room, Option.map_some]
      rw [performEach, delivered, List.flatMap_cons, ← delivered, ih left,
        bytes_perform_of_room room, ← List.take_append]
      rfl

/-! ### A sink with a limit -/

/-- **What each of several steps does to a sink with a limit.**  What the steps deliver is the front
of what they deliver to a sink without a limit.  A step that writes fails exactly if what reaches a
sink without a limit up to and with that step is longer than the limit.  Flushing fails exactly if the
sink cannot be flushed then, delivers nothing and changes nothing that comes later.  That holds in
whatever pieces the steps are written, and so for the steps as they are. -/
theorem performEach_limited (attempts : List Attempt) (n : Nat) (flushFails : Bool) :
    ((∀ a ∈ attempts, a.flushFails = flushFails) →
        performEach ⟨some n, flushFails⟩ attempts =
          Step.performEach ⟨some n, flushFails⟩ (attempts.map (·.step))) ∧
      delivered (performEach ⟨some n, flushFails⟩ attempts) =
        (delivered (performEach ⟨none, flushFails⟩ attempts)).take n ∧
      ∀ before a after, attempts = before ++ a :: after →
        ∃ d later, performEach ⟨some n, flushFails⟩ attempts =
            performEach ⟨some n, flushFails⟩ before ++ d :: later ∧
          (a.step ≠ .flush → (d.failure ≠ none ↔
            n < (delivered (performEach ⟨none, flushFails⟩ (before ++ [a]))).length)) ∧
          (a.step = .flush → (d.failure ≠ none ↔ a.flushFails = true) ∧ d.bytes = [] ∧
            performEach ⟨some n, flushFails⟩ (before ++ after) =
              performEach ⟨some n, flushFails⟩ before ++ later) := by
  refine ⟨fun same => performEach_eq same, ?_, ?_⟩
  · rw [delivered_performEach_of_room rfl, delivered_performEach_of_no_limit rfl]
  · rintro before a after rfl
    have room : (sinkAfter ⟨some n, flushFails⟩ before).room =
        some (n - (offered before).length) := room_sinkAfter _ _
    refine ⟨_, _, performEach_append _ _ _, ?_, ?_⟩
    · intro writes
      -- a step without bytes would not fail, however little room is left
      have something : 0 < a.step.bytes.length :=
        List.length_pos_iff.2 (Step.bytes_ne_nil writes)
      have total : (offered (before ++ [a])).length =
          (offered before).length + a.step.bytes.length := by
        simp [offered]
      rw [failure_perform_of_ne_flush writes room, delivered_performEach_of_no_limit rfl, total]
      omega
    · intro flushes
      refine ⟨failure_perform_of_flush flushes, bytes_perform_of_flush flushes, ?_⟩
      rw [performEach_append, performEach_congr (room_perform_of_flush flushes)]

/-- A heading, a flush that fails and an empty line. -/
def flushedBetween : List Attempt :=
  [ofStep (.heading "A") false, ofStep .flush true, ofStep (.line "") false]

/-- With room for the heading only, the flush fails without a trace, and the empty line fails. -/
theorem performEach_flushedBetween :
    delivered (performEach ⟨some 5, false⟩ flushedBetween) = Text.bytes "# A\n\n" ∧
      (∃ d later, performEach ⟨some 5, false⟩ flushedBetween =
          performEach ⟨some 5, false⟩ [ofStep (.heading "A") false] ++ d :: later ∧
        d.failure ≠ none ∧
        performEach ⟨some 5, false⟩ [ofStep (.heading "A") false, ofStep (.line "") false] =
          performEach ⟨some 5, false⟩ [ofStep (.heading "A") false] ++ later) ∧
      ∃ d later, performEach ⟨some 5, false⟩ flushedBetween =
          performEach ⟨some 5, false⟩ [ofStep (.heading "A") false, ofStep .flush true] ++
            d :: later ∧
        d.failure ≠ none := by
  obtain ⟨-, front, each⟩ := performEach_limited flushedBetween 5 false
  refine ⟨?_, ?_, ?_⟩
  · rw [front]
    decide +kernel
  · obtain ⟨d, later, run, -, flushes⟩ := each [ofStep (.heading "A") false] (ofStep .flush true)
      [ofStep (.line "") false] rfl
    obtain ⟨failed, -, rest⟩ := flushes rfl
    exact ⟨d, later, run, failed.2 rfl, rest⟩
  · obtain ⟨d, later, run, writes, -⟩ := each [ofStep (.heading "A") false, ofStep .flush true]
      (ofStep (.line "") false) [] rfl
    exact ⟨d, later, run, (writes (by decide)).2 (by decide +kernel)⟩

end Attempt

end Compliance
