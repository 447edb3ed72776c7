/-
**Configurations.**

Options are checked and resolved before anything is read or written: at most one of them may choose
the format, and the version of the specification must not be blank.

Main definitions:

* `Target` — where a report goes;
* `Config`, `Options.resolve` — the settings of a run, as options give them;
* `ConfigFault` — why options give none.
-/

import Compliance.Options
import Compliance.Source
import Compliance.Text.Blank

set_option relaxedAutoImplicit false
set_option autoImplicit false

namespace Compliance

/-- Where a report goes. -/
inductive Target
  | stdout
  | file (path : String)
  /-- Nowhere; the report is thrown away. -/
  | discard
  deriving DecidableEq, Repr

/-- The settings of a run. -/
structure Config where
  /-- The format of the report. -/
  format : Format
  /-- Where the snapshot comes from. -/
  source : Source
  /-- Where the report goes. -/
  target : Target
  /-- The version of the specification, without blanks at its ends. -/
  specVersion : String
  deriving DecidableEq, Repr

/-- Why options give no settings. -/
inductive ConfigFault
  /-- More than one option chooses the format. -/
  | formatConflict
  /-- The version of the specification is blank. -/
  | blankVersion
  deriving DecidableEq, Repr

/-- The wording of a fault. -/
def ConfigFault.message : ConfigFault → String
  | formatConflict => "Cannot combine --json, --plain and --format; choose one output format"
  | blankVersion => "--spec-version must not be empty"

namespace Options

/-- How many options choose the format. -/
def formatChoices (o : Options) : Nat := [o.json, o.plain, o.format.isSome].count true

/-- The format that options choose; plain if none does. -/
def outputFormat (o : Options) : Format :=
  if o.json then .json else if o.plain then .plain else o.format.getD .plain

/-- Where the report goes. -/
def target (o : Options) : Target :=
  if o.quiet then .discard else match o.output with
    | some path => .file path
    | none => .stdout

/-- The settings that options give. -/
def resolve (o : Options) : Except ConfigFault Config :=
  if 1 < o.formatChoices then .error .formatConflict
  else if Text.trim o.specVersion = "" then .error .blankVersion
  else .ok
    { format := o.outputFormat
      source := Source.ofArgument o.input
      target := o.target
      specVersion := Text.trim o.specVersion }

end Options

end Compliance
