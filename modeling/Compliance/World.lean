/-
**Worlds.**

A world is a machine as far as a run can see and change it: its files, what standard input delivers,
and how the place of a report takes bytes.  Every step of a run finds the world as the steps before
have left it.  Opening a file changes the world at once, before anything is written: a file that is
not there is created, and one that is there is emptied.

Main definitions:

* `World` — what a run can see and change;
* `World.load`, `World.open` — reads a snapshot, and opens the place of a report;
* `Progress`, `World.machine` — a run under way, and its steps;
* `Run`, `Config.run` — what a run does in a world.
-/

import Compliance.FileTree
import Compliance.Run

set_option relaxedAutoImplicit false
set_option autoImplicit false

namespace Compliance

/-- What a run can see and change. -/
structure World where
  /-- The files. -/
  tree : FileTree
  /-- What standard input delivers. -/
  stdin : Supply
  /-- How the place of the report takes bytes, other than nowhere, which takes everything. -/
  sink : Sink

/-! ### Reading and writing -/

/-- The snapshot of a source. -/
def World.load (w : World) : Source → Except Failure Snapshot
  | .stdin => Source.stdin.load w.stdin
  | .file path =>
    match w.tree.read path with
    | .ok bytes => (Source.file path).load ⟨bytes, none⟩
    | .error refusal => .error (.input path refusal.message)

/-- An opened place for a report. -/
inductive Outlet
  | stdout
  | file (place : FileTree.Place)
  | discard

/-- What opening the place of a report leads to. -/
structure Opened where
  /-- The opened place. -/
  outlet : Outlet
  /-- The files once it is open. -/
  tree : FileTree

/-- Opens the place of a report.  A file is created there, or emptied. -/
def World.open (w : World) : Target → Except Failure Opened
  | .stdout => .ok ⟨.stdout, w.tree⟩
  | .file path =>
    match w.tree.place path with
    | .ok place => .ok ⟨.file place, w.tree.create place⟩
    | .error refusal => .error (.openSink path refusal.message)
  | .discard => .ok ⟨.discard, w.tree⟩

/-- The sink behind an opened place. -/
def World.sinkOf (w : World) : Outlet → Sink
  | .discard => .unlimited
  | _ => w.sink

/-- What reaches standard output of bytes delivered to a place. -/
def Outlet.stdoutBytes (bytes : List UInt8) : Outlet → List UInt8
  | stdout => bytes
  | _ => []

/-- The files after bytes have been delivered to a place. -/
def Outlet.treeAfter (tree : FileTree) (bytes : List UInt8) : Outlet → FileTree
  | file place => tree.overwrite place bytes
  | _ => tree

/-! ### Steps -/

/-- A run under way. -/
structure Progress where
  /-- The world as it is now. -/
  world : World
  /-- What has been told. -/
  events : List Event
  /-- What has reached standard output of the report. -/
  stdout : List UInt8

namespace Progress

/-- Nothing is done yet. -/
def start (w : World) : Progress := ⟨w, [], []⟩

/-- More is told. -/
def tell (p : Progress) (events : List Event) : Progress :=
  { p with events := p.events ++ events }

/-- The files are others. -/
def withTree (p : Progress) (tree : FileTree) : Progress :=
  { p with world := { p.world with tree := tree } }

/-- Opens the place of a report. -/
def openTarget (p : Progress) (target : Target) : Except Failure Outlet × Progress :=
  match p.world.open target with
  | .error failure => (.error failure, p)
  | .ok opened => (.ok opened.outlet, p.withTree opened.tree)

/-- Writes a report to an opened place. -/
def write (p : Progress) (outlet : Outlet) (format : Format) (r : Report) :
    Except Failure Bool × Progress :=
  let (bytes, result) := r.deliver format (p.world.sinkOf outlet)
  (result.mapError fun failure => .sink failure.message,
    { p.withTree (outlet.treeAfter p.world.tree bytes) with
      stdout := p.stdout ++ outlet.stdoutBytes bytes })

end Progress

/-- The steps of a run in a world. -/
def World.machine : Machine (StateM Progress) where
  Outlet := Outlet
  tell events := modify (·.tell events)
  load source := return (← get).world.load source
  openTarget target := modifyGet (·.openTarget target)
  write outlet format r := modifyGet (·.write outlet format r)

/-! ### Runs -/

/-- What a run does. -/
structure Run where
  /-- What it tells. -/
  events : List Event
  /-- The verdict, or why there is none. -/
  result : Except Failure Bool
  /-- What reaches standard output. -/
  stdout : List UInt8
  /-- The files afterwards. -/
  tree : FileTree

/-- Runs with the given settings. -/
def Config.run (c : Config) (w : World) : Run :=
  let (result, p) := (c.runOn World.machine).run (.start w)
  ⟨p.events, result, p.stdout, p.world.tree⟩

end Compliance
