/-
**Runs in a world.**

A run loads its snapshot in the world as it finds it, and so far nothing has changed.  Then it opens
the place of its report, which may create or empty a file, and what it writes there comes into the
world that opening has left.  So a run that ends before the place opens leaves every file as it was,
and since a file is empty once it is open, the report is all that it holds in the end.

Main definitions:

* `World.bytes?` — what a source delivers, if it can be read to its end;
* `Run.Wrote` — a run that has written a report to an opened place.

Main results:

* `World.load_eq_ok`, `World.open_file` — which snapshots are loaded, and how files are opened;
* `Config.runOn_of_load_error`, `Config.runOn_of_open_error`, `Config.runOn_of_opened` — the steps that
  a run takes, and the world that they leave;
* `Config.run_cases` — **all that a run can do**: it fails and changes nothing, or it writes a report;
* `Run.Wrote.whole`, `Run.Wrote.of_ok`, `Run.Wrote.of_error` — what is written, and why it may not be.
-/

import Compliance.Proofs.FileTree
import Compliance.Proofs.Report.Delivery
import Compliance.World

set_option relaxedAutoImplicit false
set_option autoImplicit false

namespace Compliance

/-! ### Loading -/

/-- An input whose device fails is never read whole. -/
theorem Json.whole_broken {α : Type} {item : Json.Reader α} {s : List UInt8} {x : α} :
    Json.whole item .broken s ≠ .ok x := by
  intro h
  obtain ⟨⟨value, rest⟩, _, h⟩ := bind_eq_ok.1 h
  obtain ⟨_, looked, h⟩ := bind_eq_ok.1 h
  cases left : Json.skipBlank rest with
  | nil =>
      rw [left] at looked
      cases looked
  | cons b bs =>
      rw [left] at h
      cases h

theorem Snapshot.read_broken {s : List UInt8} {snapshot : Snapshot} :
    Snapshot.read .broken s ≠ .ok snapshot := by
  intro h
  unfold Snapshot.read Document.read at h
  cases whole : Json.whole (Json.entries schema) .broken s with
  | error fault =>
      rw [whole] at h
      cases h
  | ok d => exact Json.whole_broken whole

/-- What a source delivers, if it can be read to its end. -/
def World.bytes? (w : World) : Source → Option (List UInt8)
  | .stdin => if w.stdin.failure.isNone then some w.stdin.bytes else none
  | .file path => (w.tree.read path).toOption

/-- A source gives a snapshot exactly if it delivers one to its end. -/
theorem Source.load_eq_ok {source : Source} {supply : Supply} {snapshot : Snapshot} :
    source.load supply = .ok snapshot ↔
      supply.failure = none ∧ Snapshot.read .finished supply.bytes = .ok snapshot := by
  obtain ⟨bytes, failure⟩ := supply
  unfold load
  cases failure with
  | some reason =>
      refine iff_of_false ?_ (fun h => Option.some_ne_none _ h.1)
      cases decoded : Snapshot.read .broken bytes with
      | error fault =>
          rw [Supply.ending, Option.isSome_some, if_pos rfl, decoded]
          intro h
          cases h
      | ok s => exact absurd decoded Snapshot.read_broken
  | none =>
      rw [Supply.ending, Option.isSome_none, if_neg Bool.false_ne_true, eq_self, true_and]
      cases Snapshot.read .finished bytes with
      | error fault =>
          refine iff_of_false ?_ ?_
          · intro h
            cases h
          · intro h
            cases h
      | ok s => rw [Except.ok.injEq, Except.ok.injEq]

/-- A fault other than the device's failure is an error of the input. -/
theorem Source.failureOf_of_ne {source : Source} {supply : Supply} {fault : Json.Fault}
    (h : fault.cause ≠ .deviceFailed) :
    source.failureOf supply fault = .parse source.name (fault.describe supply.bytes) := by
  unfold failureOf
  split
  · exact absurd ‹_› h
  · rfl

theorem Source.load_eq_error {source : Source} {supply : Supply} {fault : Json.Fault}
    (h : Snapshot.read supply.ending supply.bytes = .error fault) :
    source.load supply = .error (source.failureOf supply fault) := by
  rw [load, h]

/-- What a source delivers to its end is all that is loaded from it. -/
theorem World.load_of_bytes? {w : World} {source : Source} {bytes : List UInt8}
    (h : w.bytes? source = some bytes) : w.load source = source.load ⟨bytes, none⟩ := by
  cases source with
  | stdin =>
      rw [bytes?] at h
      rw [load]
      cases stdin : w.stdin with
      | mk delivered failure =>
          rw [stdin] at h
          cases failure with
          | none =>
              have same : delivered = bytes := Option.some.inj h
              rw [same]
          | some reason => cases h
  | file path =>
      rw [bytes?] at h
      rw [load]
      cases read : w.tree.read path with
      | error refusal =>
          rw [read] at h
          cases h
      | ok found =>
          rw [read] at h
          have same : found = bytes := Option.some.inj h
          rw [same]

/-- A snapshot is loaded exactly if its source delivers it. -/
theorem World.load_eq_ok {w : World} {source : Source} {snapshot : Snapshot} :
    w.load source = .ok snapshot ↔
      ∃ bytes, w.bytes? source = some bytes ∧ Snapshot.read .finished bytes = .ok snapshot := by
  cases source with
  | stdin =>
      rw [load, Source.load_eq_ok, bytes?]
      cases w.stdin.failure with
      | none => simp
      | some reason => simp
  | file path =>
      rw [load, bytes?]
      cases w.tree.read path with
      | error refusal => simp [Except.toOption]
      | ok bytes => simp [Except.toOption, Source.load_eq_ok]

/-! ### Opening -/

/-- A file is opened at the place of its path.  It is empty then, so what is written to it is all that
it holds. -/
theorem World.open_file {w : World} {path : String} {opened : Opened}
    (h : w.open (.file path) = .ok opened) :
    ∃ place, w.tree.place path = .ok place ∧ opened.outlet = .file place ∧
      ∀ bytes, opened.outlet.treeAfter opened.tree bytes = w.tree.write place bytes := by
  simp only [World.open] at h
  cases placed : w.tree.place path with
  | error refusal =>
      rw [placed] at h
      cases h
  | ok place =>
      rw [placed] at h
      cases h
      exact ⟨place, rfl, rfl, FileTree.overwrite_create w.tree place⟩

/-! ### Steps -/

namespace Progress

/-- The same, with more told before. -/
def behind (events : List Event) (p : Progress) : Progress :=
  { p with events := events ++ p.events }

theorem tell_tell (p : Progress) (events more : List Event) :
    (p.tell events).tell more = p.tell (events ++ more) := by
  simp only [tell, List.append_assoc]

theorem openTarget_of_error {p : Progress} {target : Target} {failure : Failure}
    (h : p.world.open target = .error failure) : p.openTarget target = (.error failure, p) := by
  rw [openTarget, h]

theorem openTarget_of_ok {p : Progress} {target : Target} {opened : Opened}
    (h : p.world.open target = .ok opened) :
    p.openTarget target = (.ok opened.outlet, p.withTree opened.tree) := by
  rw [openTarget, h]

theorem tell_behind (p : Progress) (before events : List Event) :
    (p.behind before).tell events = (p.tell events).behind before := by
  simp only [tell, behind, List.append_assoc]

theorem withTree_behind (p : Progress) (before : List Event) (tree : FileTree) :
    (p.behind before).withTree tree = (p.withTree tree).behind before :=
  rfl

theorem write_behind (p : Progress) (before : List Event) (outlet : Outlet) (format : Format)
    (r : Report) :
    (p.behind before).write outlet format r = (p.write outlet format r).map id (.behind before) :=
  rfl

theorem tell_start (w : World) (events : List Event) :
    (start w).tell events = (start w).behind events := by
  simp only [tell, behind, start, List.nil_append, List.append_nil]

end Progress

section Machine

variable {α β : Type} {p : Progress}

theorem World.run_bind (first : StateM Progress α) (next : α → StateM Progress β) :
    (first >>= next).run p = (next (first.run p).1).run (first.run p).2 :=
  rfl

theorem World.run_pure (x : α) : (pure x : StateM Progress α).run p = (x, p) :=
  rfl

theorem World.run_tell (events : List Event) : (machine.tell events).run p = ((), p.tell events) :=
  rfl

theorem World.run_load (source : Source) : (machine.load source).run p = (p.world.load source, p) :=
  rfl

theorem World.run_openTarget (target : Target) :
    (machine.openTarget target).run p = p.openTarget target :=
  rfl

theorem World.run_write (outlet : Outlet) (format : Format) (r : Report) :
    (machine.write outlet format r).run p = p.write outlet format r :=
  rfl

end Machine

namespace Config

variable {c : Config} {p : Progress} {failure : Failure} {snapshot : Snapshot} {opened : Opened}

/-- What is told before the place of the report is opened. -/
def eventsBefore (c : Config) (snapshot : Snapshot) : List Event :=
  .loading c.source :: (snapshot.events ++ [.opening c.target])

/-- A run without a snapshot ends with the world as it found it. -/
theorem runOn_of_load_error (h : p.world.load c.source = .error failure) :
    (c.runOn World.machine).run p = (.error failure, p.tell [.loading c.source]) := by
  have failed : (p.tell [.loading c.source]).world.load c.source = .error failure := h
  simp only [runOn, World.run_bind, World.run_tell, World.run_load, failed]
  rfl

/-- So does a run that cannot open the place of its report. -/
theorem runOn_of_open_error (loaded : p.world.load c.source = .ok snapshot)
    (h : p.world.open c.target = .error failure) :
    (c.runOn World.machine).run p = (.error failure, p.tell (c.eventsBefore snapshot)) := by
  have read : (p.tell [.loading c.source]).world.load c.source = .ok snapshot := loaded
  have refused : ∀ events, (p.tell events).openTarget c.target = (.error failure, p.tell events) :=
    fun _ => Progress.openTarget_of_error h
  simp only [runOn, World.run_bind, World.run_tell, World.run_load, read, World.run_openTarget,
    Progress.tell_tell, refused]
  rfl

/-- A run that opens the place of its report writes there, in the world that opening has left. -/
theorem runOn_of_opened (loaded : p.world.load c.source = .ok snapshot)
    (h : p.world.open c.target = .ok opened) :
    (c.runOn World.machine).run p =
      (((p.tell (c.eventsBefore snapshot)).withTree opened.tree).tell
        ((Report.ofSnapshot snapshot c.specVersion).events c.format)).write opened.outlet c.format
          (Report.ofSnapshot snapshot c.specVersion) := by
  have read : (p.tell [.loading c.source]).world.load c.source = .ok snapshot := loaded
  have opens : ∀ events, (p.tell events).openTarget c.target =
      (.ok opened.outlet, (p.tell events).withTree opened.tree) :=
    fun _ => Progress.openTarget_of_ok h
  simp only [runOn, World.run_bind, World.run_tell, World.run_load, read, World.run_openTarget,
    Progress.tell_tell, opens, World.run_write]
  rfl

/-- What was told before a run stays in front and changes nothing else. -/
theorem runOn_behind (c : Config) (p : Progress) (before : List Event) :
    (c.runOn World.machine).run (p.behind before) =
      ((c.runOn World.machine).run p).map id (.behind before) := by
  -- a run goes by the world alone, so it goes the same way
  cases loaded : p.world.load c.source with
  | error failure =>
      have loaded' : (p.behind before).world.load c.source = .error failure := loaded
      rw [runOn_of_load_error loaded, runOn_of_load_error loaded', p.tell_behind]
      rfl
  | ok snapshot =>
      have loaded' : (p.behind before).world.load c.source = .ok snapshot := loaded
      cases opened : p.world.open c.target with
      | error failure =>
          have opened' : (p.behind before).world.open c.target = .error failure := opened
          rw [runOn_of_open_error loaded opened, runOn_of_open_error loaded' opened', p.tell_behind]
          rfl
      | ok place =>
          have opened' : (p.behind before).world.open c.target = .ok place := opened
          rw [runOn_of_opened loaded opened, runOn_of_opened loaded' opened', p.tell_behind,
            Progress.withTree_behind, Progress.tell_behind, Progress.write_behind]

end Config

/-! ### Runs -/

/-- The end of a run that has written a report to an opened place: what its sink took is there, and
the verdict or the failure is the sink's. -/
structure Run.Wrote (run : Run) (report : Report) (w : World) (format : Format) (opened : Opened) :
    Prop where
  result : run.result = (report.deliver format (w.sinkOf opened.outlet)).2.mapError fun failure =>
    .sink failure.message
  stdout : run.stdout =
    opened.outlet.stdoutBytes (report.deliver format (w.sinkOf opened.outlet)).1
  tree : run.tree =
    opened.outlet.treeAfter opened.tree (report.deliver format (w.sinkOf opened.outlet)).1

namespace Config

/-- A run without a snapshot fails and leaves every file as it was. -/
theorem run_of_load_error {c : Config} {w : World} {failure : Failure}
    (h : w.load c.source = .error failure) :
    (c.run w).result = .error failure ∧ (c.run w).stdout = [] ∧ (c.run w).tree = w.tree := by
  have ran := runOn_of_load_error (c := c) (p := .start w) h
  rw [run, ran]
  exact ⟨rfl, rfl, rfl⟩

/-- **All that a run can do**: it fails and leaves every file as it was, since the snapshot is not
loaded or the place of the report does not open; or it writes the report on what it has loaded, to the
place that is open then. -/
theorem run_cases (c : Config) (w : World) :
    (∃ failure, (w.load c.source = .error failure ∨
        (∃ snapshot, w.load c.source = .ok snapshot) ∧ w.open c.target = .error failure) ∧
      (c.run w).result = .error failure ∧ (c.run w).stdout = [] ∧ (c.run w).tree = w.tree) ∨
    (∃ snapshot opened, w.load c.source = .ok snapshot ∧ w.open c.target = .ok opened ∧
      (c.run w).Wrote (Report.ofSnapshot snapshot c.specVersion) w c.format opened) := by
  cases loaded : w.load c.source with
  | error failure => exact .inl ⟨failure, .inl rfl, run_of_load_error loaded⟩
  | ok snapshot =>
      cases opens : w.open c.target with
      | error failure =>
          have ran := runOn_of_open_error (c := c) (p := .start w) loaded opens
          refine .inl ⟨failure, .inr ⟨⟨snapshot, rfl⟩, rfl⟩, ?_⟩
          rw [run, ran]
          exact ⟨rfl, rfl, rfl⟩
      | ok opened =>
          have ran := runOn_of_opened (c := c) (p := .start w) loaded opens
          refine .inr ⟨snapshot, opened, rfl, rfl, ?_⟩
          rw [run, ran]
          exact ⟨rfl, rfl, rfl⟩

end Config

namespace Run.Wrote

variable {run : Run} {report : Report} {w : World} {format : Format} {opened : Opened}

/-- Where everything is taken, the report is written whole. -/
theorem whole (wrote : run.Wrote report w format opened) (h : w.sink = .unlimited) :
    run.result = .ok report.compliant ∧
      run.stdout = opened.outlet.stdoutBytes (Text.bytes (report.text format)) ∧
      run.tree = opened.outlet.treeAfter opened.tree (Text.bytes (report.text format)) := by
  have sink : w.sinkOf opened.outlet = .unlimited := by
    cases opened.outlet with
    | discard => rfl
    | stdout => exact h
    | file place => exact h
  obtain ⟨result, stdout, tree⟩ := wrote
  rw [sink, Report.deliver_unlimited] at result stdout tree
  exact ⟨result, stdout, tree⟩

/-- So it is where the run has a verdict. -/
theorem of_ok (wrote : run.Wrote report w format opened) {verdict : Bool}
    (h : run.result = .ok verdict) :
    verdict = report.compliant ∧
      run.stdout = opened.outlet.stdoutBytes (Text.bytes (report.text format)) ∧
      run.tree = opened.outlet.treeAfter opened.tree (Text.bytes (report.text format)) := by
  obtain ⟨result, stdout, tree⟩ := wrote
  rw [h] at result
  cases delivered : (report.deliver format (w.sinkOf opened.outlet)).2 with
  | error failure =>
      rw [delivered] at result
      cases result
  | ok compliant =>
      rw [delivered] at result
      cases result
      rw [(Report.delivered_of_ok delivered).1] at stdout tree
      exact ⟨Report.deliver_eq_ok delivered, stdout, tree⟩

/-- What ends a run once the place of its report is open is the failure of the sink. -/
theorem of_error (wrote : run.Wrote report w format opened) {failure : Failure}
    (h : run.result = .error failure) : ∃ reason, failure = .sink reason := by
  have result := wrote.result
  rw [h] at result
  cases delivered : (report.deliver format (w.sinkOf opened.outlet)).2 with
  | error refused =>
      rw [delivered] at result
      cases result
      exact ⟨_, rfl⟩
  | ok compliant =>
      rw [delivered] at result
      cases result

end Run.Wrote

end Compliance
