/-
**Usage.**

Where arguments give no options, the program prints why, or what was asked for instead of a run: help
or its version.  The layout of the help is the program's own.

Main definitions:

* `Switch.about`, `Switch.usage` — an option in the help;
* `UsageFault.text` — what is printed where arguments give no options.
-/

import Compliance.Options

set_option relaxedAutoImplicit false
set_option autoImplicit false

namespace Compliance

namespace Switch

/-- What an option is for. -/
def about : Switch → String
  | quiet => "Prevents output; the exit code still reports compliance"
  | json => "Formats output as JSON"
  | plain => "Formats output as plain text"
  | format => "Formats output using the chosen formatter; a bare --format means plain"
  | input => "Analysis snapshot (JSON) to report on; \"-\" or absent reads stdin"
  | output => "Write the report to this file instead of stdout"
  | specVersion => "REUSE Specification version quoted in the verdict"
  | help => "Print help"
  | version => "Print version"

/-- What the value of an option is called. -/
def valueName? : Switch → Option String
  | format => some "[<FORMAT>]"
  | input | output => some "<PATH>"
  | specVersion => some "<VERSION>"
  | _ => none

/-- An option in the help: its spellings, its value and what it is for. -/
def usage (switch : Switch) : String :=
  let letter := match switch.letter? with
    | some c => "-" ++ c.toString ++ ", "
    | none => "    "
  let spelling := "  " ++ letter ++ "--" ++ switch.long ++
    (switch.valueName?.map fun name => " " ++ name).getD ""
  spelling ++ "".pushn ' ' (32 - spelling.length) ++ switch.about ++ "\n"

end Switch

namespace UsageFault

/-- What is printed where arguments give no options. -/
def text : UsageFault → String
  | unknownArgument => "error: unexpected argument found\n"
  | tooManyValues => "error: unexpected value for an option found\n"
  | invalidValue => "error: invalid or missing value for an option\n"
  | argumentConflict => "error: an option cannot be used multiple times\n"
  | helpWanted =>
    "Report copyright and licensing compliance of an analyzed project\n\n" ++
    "Usage: reuse-lint [OPTIONS]\n\n" ++
    "Options:\n" ++ String.join (Switch.all.map Switch.usage)
  | versionWanted => "reuse-lint 0.1.0\n"

end UsageFault

end Compliance
