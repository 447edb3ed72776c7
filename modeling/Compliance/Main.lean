/-
**The program.**

The program takes the steps of `CommandLine.runOn` on the files and streams of the machine it runs on.

Main definitions:

* `Program.supplyOf`, `Program.deliver` — reads a snapshot's bytes, and writes a report's;
* `Program.machine` — the steps of a run on files and streams;
* `main` — the program.
-/

import Compliance.CommandLine

set_option relaxedAutoImplicit false
set_option autoImplicit false

namespace Compliance.Program

/-- The environment variable that gives the version of the specification. -/
def versionVariable : String := "REUSE_LINT_SPEC_VERSION"

/-- The environment variable that gives the level of the log. -/
def levelVariable : String := "RUST_LOG"

/-- The wording of a machine's refusal. -/
def reason (e : IO.Error) : String :=
  match e with
  | .noFileOrDirectory _ code details => details ++ " (os error " ++ toString code ++ ")"
  | .inappropriateType _ code details => details ++ " (os error " ++ toString code ++ ")"
  | .permissionDenied _ code details => details ++ " (os error " ++ toString code ++ ")"
  | .invalidArgument _ code details => details ++ " (os error " ++ toString code ++ ")"
  | other => toString other

/-- What a stream delivers after the bytes already read. -/
partial def drain (stream : IO.FS.Stream) (read : ByteArray) : IO Supply := do
  match ← (stream.read 65536).toBaseIO with
  | .error e => return ⟨read.toList, some (reason e)⟩
  | .ok chunk =>
    if chunk.isEmpty then return ⟨read.toList, none⟩ else drain stream (read ++ chunk)

/-- What a source delivers; a file that cannot be opened delivers nothing. -/
def supplyOf : Source → IO Supply
  | .stdin => do drain (← IO.getStdin) .empty
  | .file path => do
    match ← (IO.FS.Handle.mk path .read).toBaseIO with
    | .error e => return ⟨[], some (reason e)⟩
    | .ok handle => drain (IO.FS.Stream.ofHandle handle) .empty

/-- Shows events in the log. -/
def tell (level : Level) (events : List Event) : IO Unit := do
  (← IO.getStderr).putStr (Log.text level events)

/-- Writes bytes to a stream and flushes it. -/
def writeAll (stream : IO.FS.Stream) (bytes : List UInt8) : IO Unit := do
  stream.write (ByteArray.mk bytes.toArray)
  stream.flush

/-- Opens the place of a report: what writes bytes there, or the failure. -/
def openTarget : Target → IO (Except Failure (List UInt8 → IO Unit))
  | .stdout => do
    let stdout ← IO.getStdout
    return .ok (writeAll stdout)
  | .file path => do
    match ← (IO.FS.Handle.mk path .write).toBaseIO with
    | .error e => return .error (.openSink path (reason e))
    | .ok handle => return .ok (writeAll (IO.FS.Stream.ofHandle handle))
  | .discard => return .ok fun _ => return ()

/-- Writes a report where it goes: the verdict, or the failure. -/
def deliver (write : List UInt8 → IO Unit) (format : Format) (report : Report) :
    IO (Except Failure Bool) := do
  let (bytes, result) := report.deliver format .unlimited
  match ← (write bytes).toBaseIO with
  | .error e => return .error (.sink (reason e))
  | .ok () => return result.mapError fun failure => .sink failure.message

/-- The machine that the program runs on, with a log of the given level. -/
def machine (level : Level) : Machine IO where
  Outlet := List UInt8 → IO Unit
  tell := tell level
  load source := return source.load (← supplyOf source)
  openTarget := openTarget
  write := deliver

/-- Runs the program and returns its exit status. -/
def start (args : List String) : IO UInt32 := do
  let environment ← IO.getEnv versionVariable
  let level := ((← IO.getEnv levelVariable).bind Level.ofName?).getD .standard
  let conclusion ← CommandLine.runOn (machine level) args environment
  (← IO.getStdout).putStr conclusion.notice
  (← IO.getStderr).putStr conclusion.complaint
  return conclusion.exitStatus.toUInt32

end Compliance.Program

/-- The program. -/
def main (args : List String) : IO UInt32 := Compliance.Program.start args
