/-
**Sources of snapshots.**

A snapshot comes from standard input or from a file.

Main definitions:

* `Source`, `Source.ofArgument` — where a snapshot comes from;
* `Supply` — the bytes that reading delivers, and how it stops;
* `Source.load` — the snapshot, or the failure to read it.
-/

import Compliance.Failure
import Compliance.Snapshot.Document

set_option relaxedAutoImplicit false
set_option autoImplicit false

namespace Compliance

/-- Where a snapshot comes from. -/
inductive Source
  | stdin
  | file (path : String)
  deriving DecidableEq, Repr

/-- What reading delivers: some bytes, and then the end or a device's failure with its reason. -/
structure Supply where
  /-- The bytes delivered. -/
  bytes : List UInt8
  /-- Why reading fails after them, if it does. -/
  failure : Option String
  deriving DecidableEq, Repr

/-- What comes after the bytes of a supply. -/
def Supply.ending (s : Supply) : Json.Ending := if s.failure.isSome then .broken else .finished

namespace Source

/-- The source that an argument names; `-` is standard input, and so is no argument at all. -/
def ofArgument : Option String → Source
  | some path => if path = "-" then stdin else file path
  | none => stdin

/-- What a source is called in messages. -/
def name : Source → String
  | stdin => "<stdin>"
  | file path => path

/-- The failure that a fault in the bytes of a source is. -/
def failureOf (source : Source) (supply : Supply) (fault : Json.Fault) : Failure :=
  match fault.cause with
  | .deviceFailed => .input source.name (supply.failure.getD "")
  | _ => .parse source.name (fault.describe supply.bytes)

/-- Reads the snapshot of a source. -/
def load (source : Source) (supply : Supply) : Except Failure Snapshot :=
  match Snapshot.read supply.ending supply.bytes with
  | .ok snapshot => .ok snapshot
  | .error fault => .error (source.failureOf supply fault)

end Source

end Compliance
