/-
**Log lines.**

A run tells what it does in events.  Each event has a level, and a log shows the events up to a
level of its own, without the control sequences in their texts.

Main definitions:

* `Level` — how much a log shows;
* `Event` — what a run tells;
* `Event.line`, `Log.text` — the line of an event and the text of a log.
-/

import Compliance.Config
import Compliance.Text.Control
import Compliance.Text.Quoted

set_option relaxedAutoImplicit false
set_option autoImplicit false

namespace Compliance

/-! ### Levels -/

/-- How much a log shows. -/
inductive Level
  | off
  | error
  | warn
  | info
  | debug
  | trace
  deriving DecidableEq, Repr

namespace Level

/-- All levels, from the one that shows least. -/
def all : List Level := [off, error, warn, info, debug, trace]

/-- The name of a level. -/
def name : Level → String
  | off => "off"
  | error => "error"
  | warn => "warn"
  | info => "info"
  | debug => "debug"
  | trace => "trace"

/-- The level with a name. -/
def ofName? (name : String) : Option Level := all.find? (·.name = name)

/-- The rank of a level among all. -/
def rank (l : Level) : Nat := all.idxOf l

/-- The level of a log that nothing is said about. -/
def standard : Level := error

end Level

/-! ### Events -/

/-- What a run tells. -/
inductive Event
  /-- Options are being resolved. -/
  | resolving
  /-- A format is chosen. -/
  | formatChosen (format : Format)
  /-- A file for the report is ignored, as the report is thrown away. -/
  | outputIgnored (path : String)
  /-- It is known where the report goes. -/
  | targetChosen (target : Target)
  /-- A snapshot is being read. -/
  | loading (source : Source)
  /-- A snapshot is inconsistent. -/
  | inconsistent (violation : String)
  /-- A snapshot has been read; some of its sizes are told. -/
  | loaded (files withoutCopyright withoutLicenses readErrors : Nat)
  /-- The place of the report is being opened. -/
  | opening (target : Target)
  /-- The verdict is known. -/
  | classified (compliant : Bool)
  /-- The sections of a plain report have been written. -/
  | sectionsWritten (count : Nat)
  deriving DecidableEq, Repr

/-- How a target is shown in a log. -/
def Target.shown : Target → String
  | stdout => "Stdout"
  | file path => "File(" ++ Text.quote path ++ ")"
  | discard => "Discard"

namespace Event

/-- The level of an event. -/
def level : Event → Level
  | inconsistent _ => .warn
  | _ => .debug

/-- The part of the program that an event comes from. -/
def area : Event → String
  | resolving | formatChosen _ | outputIgnored _ | targetChosen _ => "reuse_lint::config"
  | loading _ | inconsistent _ | loaded .. => "reuse_lint::input"
  | opening _ | classified _ => "reuse_lint::runner"
  | sectionsWritten _ => "reuse_lint::report::plain"

/-- The text of an event. -/
def text : Event → String
  | resolving => "Building lint config from CLI args"
  | formatChosen format => "Output format: " ++ format.name
  | outputIgnored path => "Quiet mode: ignoring --output " ++ path
  | targetChosen target => "Report output: " ++ target.shown
  | loading source => "Loading analysis snapshot from " ++ source.name
  | inconsistent violation => "Inconsistent analysis snapshot: " ++ violation
  | loaded files withoutCopyright withoutLicenses readErrors =>
    "Snapshot: " ++ toString files ++ " files, " ++ toString withoutCopyright ++
      " without copyright, " ++ toString withoutLicenses ++ " without licenses, " ++
      toString readErrors ++ " read errors"
  | opening target => "Opening report sink " ++ target.shown
  | classified compliant => "Classified snapshot: compliant = " ++ toString compliant
  | sectionsWritten count => "Rendered " ++ toString count ++ " issue section(s)"

/-- A text within a log line: lines after the first are indented by four columns. -/
def indented (text : String) : String :=
  String.join (text.toList.map fun c => if c = '\n' then "\n    " else c.toString)

/-- The name of a level in a log line, five columns wide. -/
def label (level : Level) : String :=
  let name := level.name.toList.map Char.toUpper
  String.ofList (name ++ List.replicate (5 - name.length) ' ')

/-- The line of an event, as a terminal shows it. -/
def line (e : Event) : String :=
  Text.Control.strip ("[" ++ label e.level ++ " " ++ e.area ++ "] " ++ indented e.text ++ "\n")

end Event

/-- The text of the events that a log of a level shows. -/
def Log.text (level : Level) (events : List Event) : String :=
  String.join ((events.filter (·.level.rank ≤ level.rank)).map Event.line)

end Compliance
