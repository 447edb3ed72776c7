/-
**The command line.**

Arguments are parsed and resolved, and then a run takes place.  The exit status is zero for a
compliant project and where help or the version is asked for, and one otherwise.

Main definitions:

* `Options.events` — what is told while options are resolved;
* `CommandLine.runOn` — what the program does on a machine;
* `Conclusion` — how the program ends, and what it says then;
* `Outcome`, `CommandLine.run` — all that the program does in a world.
-/

import Compliance.Usage
import Compliance.World

set_option relaxedAutoImplicit false
set_option autoImplicit false

namespace Compliance

/-- What is told while options are resolved. -/
def Options.events (o : Options) : List Event :=
  match o.resolve with
  | .error _ => [.resolving]
  | .ok config =>
    let ignored : List Event := match o.quiet, o.output with
      | true, some path => [.outputIgnored path]
      | _, _ => []
    .resolving :: .formatChosen config.format :: ignored ++ [.targetChosen config.target]

/-- How the program ends. -/
inductive Conclusion
  /-- The arguments give no options. -/
  | usage (fault : UsageFault)
  /-- The options give no settings. -/
  | misconfigured (fault : ConfigFault)
  /-- A run takes place. -/
  | ran (result : Except Failure Bool)

namespace Conclusion

/-- The exit status. -/
def exitStatus : Conclusion → Nat
  | usage fault => if fault.isError then 1 else 0
  | misconfigured _ => 1
  | ran (.ok compliant) => Compliance.exitStatus compliant
  | ran (.error _) => 1

/-- What is said on standard output in place of a report: help and the version. -/
def notice : Conclusion → String
  | usage fault => if fault.isError then "" else fault.text
  | _ => ""

/-- What is said on standard error after the log. -/
def complaint : Conclusion → String
  | usage fault => if fault.isError then fault.text else ""
  | misconfigured fault => "error: Configuration error: " ++ fault.message ++ "\n"
  | ran (.error failure) => "error: " ++ failure.message ++ "\n"
  | ran (.ok _) => ""

end Conclusion

/-- Runs the program with the given arguments and environment on a machine. -/
def CommandLine.runOn {m : Type → Type} [Monad m] (machine : Machine m) (args : List String)
    (environment : Option String) : m Conclusion := do
  match Options.parse environment args with
  | .error fault => return .usage fault
  | .ok options =>
    machine.tell options.events
    match options.resolve with
    | .error fault => return .misconfigured fault
    | .ok config => return .ran (← config.runOn machine)

/-- All that the program does. -/
structure Outcome where
  /-- How it ends. -/
  conclusion : Conclusion
  /-- What it tells. -/
  events : List Event
  /-- What reaches standard output of the report. -/
  stdout : List UInt8
  /-- The files afterwards. -/
  tree : FileTree

namespace Outcome

/-- The exit status. -/
def exitStatus (o : Outcome) : Nat := o.conclusion.exitStatus

/-- All that reaches standard output: the report, or what is said in place of one. -/
def printed (o : Outcome) : List UInt8 := o.stdout ++ Text.bytes o.conclusion.notice

/-- What reaches standard error, with a log of the given level. -/
def stderr (o : Outcome) (level : Level) : String :=
  Log.text level o.events ++ o.conclusion.complaint

end Outcome

/-- Runs the program with the given arguments and environment in a world. -/
def CommandLine.run (args : List String) (environment : Option String) (w : World) : Outcome :=
  let (conclusion, p) := (runOn World.machine args environment).run (.start w)
  ⟨conclusion, p.events, p.stdout, p.world.tree⟩

end Compliance
