/-
**Steps of a page.**

A page is written step by step.  Each step is a few lines, or the wish to flush the sink.

Main definitions:

* `Step` — a heading, a bullet, a line and so on;
* `Step.lines`, `Step.text` — the lines of a step and their text;
* `Step.perform` — what a step delivers to a sink;
* `Step.performEach`, `Step.performUntilFailure` — several steps, on or up to the first failure.
-/

import Compliance.Sink
import Compliance.Text.Utf8
import Compliance.Text.Wrap

set_option relaxedAutoImplicit false
set_option autoImplicit false

namespace Compliance

/-- A step in writing a page. -/
inductive Step
  /-- A heading and an empty line. -/
  | heading (title : String)
  /-- An item after a star. -/
  | bullet (item : String)
  /-- A label and a value after a star; the label alone if the value is empty. -/
  | labeled (label value : String)
  /-- A line of text. -/
  | line (text : String)
  /-- An empty line. -/
  | blank
  /-- A paragraph after a star. -/
  | wrapped (text : String)
  /-- Nothing, but the sink is flushed. -/
  | flush
  deriving DecidableEq, Repr

namespace Step

/-- The columns that a paragraph may take. -/
def pageWidth : Nat := 80

/-- The lines of a step. -/
def lines : Step → List String
  | heading title => ["# " ++ title, ""]
  | bullet item => ["* " ++ item]
  | labeled label value => [if value = "" then "* " ++ label else "* " ++ label ++ " " ++ value]
  | line text => [text]
  | blank => [""]
  | wrapped text => Text.wrapParagraph text pageWidth "* " "  "
  | flush => []

/-- The text of lines, each with a line feed at its end. -/
def textOfLines (lines : List String) : String := String.join (lines.map (·.push '\n'))

/-- The text of a step. -/
def text (s : Step) : String := textOfLines s.lines

@[simp] theorem text_flush : text flush = "" := rfl

/-- The text of several steps. -/
def textOf (steps : List Step) : String := String.join (steps.map text)

@[simp] theorem textOf_nil : textOf [] = "" := rfl

@[simp] theorem textOf_cons (step : Step) (steps : List Step) :
    textOf (step :: steps) = step.text ++ textOf steps := by
  simp [textOf]

/-- The bytes of a step. -/
def bytes (s : Step) : List UInt8 := Text.bytes s.text

/-- What a step delivers to a sink. -/
def perform (sink : Sink) : Step → Sink.Delivery
  | flush => sink.flush
  | step => sink.write step.bytes

/-- What each of several steps delivers, failures or not. -/
def performEach (sink : Sink) : List Step → List Sink.Delivery
  | [] => []
  | step :: steps =>
    let delivery := step.perform sink
    delivery :: performEach delivery.sink steps

/-- What several steps deliver up to the first failure. -/
def performUntilFailure (sink : Sink) : List Step → Sink.Delivery
  | [] => ⟨[], none, sink⟩
  | step :: steps =>
    let delivery := step.perform sink
    match delivery.failure with
    | some _ => delivery
    | none =>
      let later := performUntilFailure delivery.sink steps
      { later with bytes := delivery.bytes ++ later.bytes }

end Step

end Compliance
