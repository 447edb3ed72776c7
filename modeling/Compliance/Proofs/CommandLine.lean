/-
**Fail-safe runs.**

A run goes through five gates: the arguments must parse, they must give settings, the snapshot must
be delivered to its end, it must be one, and the place of the report must open.  What stands at that
place is lost as it opens, so the other gates come first, and a run that ends at a gate changes
nothing.  Behind the last gate the report is written whole, from the bytes that were delivered before
the place was opened, and no other file changes.

Main definitions:

* `CommandLine.Ready` — a run with all gates open;
* `Conclusion.IsEarly` — how a run ends that has written nothing.

Main results:

* `CommandLine.stopped_or_ready`, `CommandLine.run_cases` — **all that a run can do**: it ends at a
  gate and changes nothing, or it is ready and writes a report;
* `CommandLine.run_fail_safe` — what this means for the exit status, standard output and files.
-/

import Compliance.CommandLine
import Compliance.Proofs.Report.Verdict
import Compliance.Proofs.Run

set_option relaxedAutoImplicit false
set_option autoImplicit false

namespace Compliance

/-- A conclusion without a verdict that is not the failure of a sink: an error before anything is
written, or help. -/
def Conclusion.IsEarly : Conclusion → Prop
  | .usage _ => True
  | .misconfigured _ => True
  | .ran (.error (.sink _)) => False
  | .ran (.error _) => True
  | .ran (.ok _) => False

namespace CommandLine

variable {args : List String} {environment : Option String} {w : World}

theorem run_usage {fault : UsageFault} (h : Options.parse environment args = .error fault) :
    run args environment w = ⟨.usage fault, [], [], w.tree⟩ := by
  rw [run, runOn, h]
  rfl

theorem run_misconfigured {options : Options} {fault : ConfigFault}
    (parsed : Options.parse environment args = .ok options)
    (h : options.resolve = .error fault) :
    run args environment w = ⟨.misconfigured fault, options.events, [], w.tree⟩ := by
  simp only [run, runOn, parsed, h]
  rfl

theorem run_resolved {options : Options} {config : Config}
    (parsed : Options.parse environment args = .ok options) (h : options.resolve = .ok config) :
    run args environment w =
      ⟨.ran (config.run w).result, options.events ++ (config.run w).events, (config.run w).stdout,
        (config.run w).tree⟩ := by
  have told := config.runOn_behind (.start w) options.events
  rw [← Progress.tell_start] at told
  simp only [run, runOn, parsed, h, World.run_bind, World.run_tell, told, World.run_pure, Config.run]
  rfl

/-- A run with all gates open: the arguments parse and give settings, the source delivers a snapshot
to its end, and the place of the report opens. -/
structure Ready (args : List String) (environment : Option String) (w : World) (options : Options)
    (config : Config) (bytes : List UInt8) (snapshot : Snapshot) (opened : Opened) : Prop where
  parsed : Options.parse environment args = .ok options
  resolved : options.resolve = .ok config
  delivered : w.bytes? config.source = some bytes
  decoded : Snapshot.read .finished bytes = .ok snapshot
  opens : w.open config.target = .ok opened

/-- Help or the version is asked for. -/
def AsksForHelp (args : List String) (environment : Option String) : Prop :=
  ∃ fault, Options.parse environment args = .error fault ∧ fault.isError = false

/-- The end of a run at a gate: there is no verdict, nothing is written and no file changes. -/
structure Stopped (args : List String) (environment : Option String) (w : World) : Prop where
  notReady : ∀ options config bytes snapshot opened,
    ¬ Ready args environment w options config bytes snapshot opened
  noVerdict : ∀ verdict, (run args environment w).conclusion ≠ .ran (.ok verdict)
  status : (run args environment w).exitStatus = 0 ∧ AsksForHelp args environment ∨
    (run args environment w).exitStatus = 1 ∧ ¬ AsksForHelp args environment
  stdout : (run args environment w).stdout = []
  tree : (run args environment w).tree = w.tree

/-- The end of a run behind all gates: the report of the snapshot is written. -/
structure Written (args : List String) (environment : Option String) (w : World) (config : Config)
    (snapshot : Snapshot) (opened : Opened) : Prop where
  verdict : (run args environment w).conclusion = .ran (.ok snapshot.classify.compliant)
  stdout : (run args environment w).stdout = opened.outlet.stdoutBytes
    (Text.bytes ((Report.ofSnapshot snapshot config.specVersion).text config.format))
  tree : (run args environment w).tree = opened.outlet.treeAfter opened.tree
    (Text.bytes ((Report.ofSnapshot snapshot config.specVersion).text config.format))

theorem not_asksForHelp {options : Options} (h : Options.parse environment args = .ok options) :
    ¬ AsksForHelp args environment := by
  rintro ⟨fault, parsed, _⟩
  cases h.symm.trans parsed

theorem stopped_of_usage {fault : UsageFault}
    (h : Options.parse environment args = .error fault) : Stopped args environment w where
  notReady := fun _ _ _ _ _ ready => by cases h.symm.trans ready.parsed
  noVerdict := fun _ => by rw [run_usage h]; exact Conclusion.noConfusion
  status := by
    rw [run_usage h, Outcome.exitStatus, Conclusion.exitStatus]
    cases kind : fault.isError with
    | false => exact .inl ⟨rfl, fault, h, kind⟩
    | true =>
        refine .inr ⟨rfl, ?_⟩
        rintro ⟨other, parsed, asks⟩
        cases h.symm.trans parsed
        exact Bool.false_ne_true (asks.symm.trans kind)
  stdout := by rw [run_usage h]
  tree := by rw [run_usage h]

theorem stopped_of_misconfigured {options : Options} {fault : ConfigFault}
    (parsed : Options.parse environment args = .ok options)
    (h : options.resolve = .error fault) : Stopped args environment w where
  notReady := fun _ _ _ _ _ ready => by
    cases parsed.symm.trans ready.parsed
    cases h.symm.trans ready.resolved
  noVerdict := fun _ => by rw [run_misconfigured parsed h]; exact Conclusion.noConfusion
  status := .inr ⟨by rw [run_misconfigured parsed h]; rfl, not_asksForHelp parsed⟩
  stdout := by rw [run_misconfigured parsed h]
  tree := by rw [run_misconfigured parsed h]

/-- A closed gate leaves no way to be ready, as a run is determined by what it is given. -/
theorem stopped_of_failure {options : Options} {config : Config} {failure : Failure}
    (parsed : Options.parse environment args = .ok options)
    (resolved : options.resolve = .ok config)
    (gate : w.load config.source = .error failure ∨
      (∃ snapshot, w.load config.source = .ok snapshot) ∧ w.open config.target = .error failure)
    (result : (config.run w).result = .error failure) (stdout : (config.run w).stdout = [])
    (tree : (config.run w).tree = w.tree) : Stopped args environment w where
  notReady := fun _ _ _ _ _ ready => by
    cases parsed.symm.trans ready.parsed
    cases resolved.symm.trans ready.resolved
    rcases gate with failed | ⟨_, failed⟩
    · cases failed.symm.trans (World.load_eq_ok.2 ⟨_, ready.delivered, ready.decoded⟩)
    · cases failed.symm.trans ready.opens
  noVerdict := fun _ same => by
    rw [run_resolved parsed resolved, result] at same
    cases same
  status := .inr ⟨by rw [run_resolved parsed resolved, result]; rfl, not_asksForHelp parsed⟩
  stdout := by rw [run_resolved parsed resolved, stdout]
  tree := by rw [run_resolved parsed resolved, tree]

/-- **All that a run can do**, whatever the sink: it ends at a gate and changes nothing, or all gates
are open and the report is written as far as the sink takes it. -/
theorem stopped_or_ready (args : List String) (environment : Option String) (w : World) :
    Stopped args environment w ∨ ∃ options config bytes snapshot opened,
      Ready args environment w options config bytes snapshot opened ∧
      (config.run w).Wrote (Report.ofSnapshot snapshot config.specVersion) w config.format
        opened := by
  cases parsed : Options.parse environment args with
  | error fault => exact .inl (stopped_of_usage parsed)
  | ok options =>
      cases resolved : options.resolve with
      | error fault => exact .inl (stopped_of_misconfigured parsed resolved)
      | ok config =>
          rcases config.run_cases w with
            ⟨failure, gate, result, stdout, tree⟩ | ⟨snapshot, opened, loaded, opens, wrote⟩
          · exact .inl (stopped_of_failure parsed resolved gate result stdout tree)
          · obtain ⟨bytes, delivered, decoded⟩ := World.load_eq_ok.1 loaded
            exact .inr ⟨options, config, bytes, snapshot, opened,
              ⟨parsed, resolved, delivered, decoded, opens⟩, wrote⟩

/-- With a sink that takes everything the report is written whole. -/
theorem run_cases (args : List String) (environment : Option String) {w : World}
    (h : w.sink = .unlimited) :
    Stopped args environment w ∨ ∃ options config bytes snapshot opened,
      Ready args environment w options config bytes snapshot opened ∧
      Written args environment w config snapshot opened := by
  rcases stopped_or_ready args environment w with
    stopped | ⟨options, config, bytes, snapshot, opened, ready, wrote⟩
  · exact .inl stopped
  · obtain ⟨result, stdout, tree⟩ := wrote.whole h
    have ran := run_resolved (w := w) ready.parsed ready.resolved
    refine .inr ⟨options, config, bytes, snapshot, opened, ready, ?_, ?_, ?_⟩
    · rw [ran, result]
      rfl
    · rw [ran, stdout]
    · rw [ran, tree]

/-- An early end writes nothing and changes no file, whatever the sink. -/
theorem early_unchanged (h : (run args environment w).conclusion.IsEarly) :
    (run args environment w).stdout = [] ∧ (run args environment w).tree = w.tree := by
  rcases stopped_or_ready args environment w with stopped | ⟨_, config, _, _, _, ready, wrote⟩
  · exact ⟨stopped.stdout, stopped.tree⟩
  -- behind the last gate only the sink fails, and that is not early
  · exfalso
    rw [run_resolved ready.parsed ready.resolved] at h
    cases result : (config.run w).result with
    | ok verdict =>
        rw [result] at h
        exact h
    | error failure =>
        obtain ⟨reason, rfl⟩ := wrote.of_error result
        rw [result] at h
        exact h

/-- What is printed in place of a report is help and the version. -/
theorem printed_eq_stdout (h : ¬ AsksForHelp args environment) :
    (run args environment w).printed = (run args environment w).stdout := by
  have silent : (run args environment w).conclusion.notice = "" := by
    cases parsed : Options.parse environment args with
    | error fault =>
        rw [run_usage parsed]
        cases kind : fault.isError with
        | false => exact absurd ⟨fault, parsed, kind⟩ h
        | true => rw [Conclusion.notice, if_pos kind]
    | ok options =>
        cases resolved : options.resolve with
        | error fault =>
            rw [run_misconfigured parsed resolved]
            rfl
        | ok config =>
            rw [run_resolved parsed resolved]
            rfl
  rw [Outcome.printed, silent]
  exact List.append_nil _

/-- The same arguments in the same world give one snapshot. -/
theorem Ready.snapshot_eq {options options' : Options} {config config' : Config}
    {bytes bytes' : List UInt8} {snapshot snapshot' : Snapshot} {opened opened' : Opened}
    (ready : Ready args environment w options config bytes snapshot opened)
    (ready' : Ready args environment w options' config' bytes' snapshot' opened') :
    snapshot = snapshot' := by
  cases ready.parsed.symm.trans ready'.parsed
  cases ready.resolved.symm.trans ready'.resolved
  cases ready.delivered.symm.trans ready'.delivered
  cases ready.decoded.symm.trans ready'.decoded
  rfl

/-- The exit status of a run that writes its report. -/
theorem Written.exitStatus {config : Config} {snapshot : Snapshot} {opened : Opened}
    (written : Written args environment w config snapshot opened) :
    (run args environment w).exitStatus = if snapshot.classify.compliant then 0 else 1 := by
  rw [Outcome.exitStatus, written.verdict]
  rfl

/-- The exit status is zero if help or the version is asked for, and for a clear snapshot. -/
theorem exitStatus_eq_zero_iff (h : w.sink = .unlimited) :
    (run args environment w).exitStatus = 0 ↔
      AsksForHelp args environment ∨ ∃ options config bytes snapshot opened,
        Ready args environment w options config bytes snapshot opened ∧ snapshot.Clear := by
  rcases run_cases args environment h with
    stopped | ⟨options, config, bytes, snapshot, opened, ready, written⟩
  · rcases stopped.status with ⟨status, asks⟩ | ⟨status, asksNot⟩
    · exact iff_of_true status (.inl asks)
    · refine iff_of_false (by omega) ?_
      rintro (asks | ⟨_, _, _, _, _, ready, _⟩)
      · exact asksNot asks
      · exact stopped.notReady _ _ _ _ _ ready
  · rw [written.exitStatus]
    constructor
    · intro status
      refine .inr ⟨options, config, bytes, snapshot, opened, ready, ?_⟩
      rw [← Snapshot.compliant_classify_iff]
      by_contra notCompliant
      rw [if_neg notCompliant] at status
      cases status
    · rintro (asks | ⟨_, _, _, _, _, ready', clear⟩)
      · exact absurd asks (not_asksForHelp ready.parsed)
      · rw [if_pos]
        rw [Snapshot.compliant_classify_iff, ready.snapshot_eq ready']
        exact clear

theorem exitStatus_eq_zero_or_one (h : w.sink = .unlimited) :
    (run args environment w).exitStatus = 0 ∨ (run args environment w).exitStatus = 1 := by
  rcases run_cases args environment h with stopped | ⟨_, _, _, _, _, _, written⟩
  · rcases stopped.status with ⟨status, _⟩ | ⟨status, _⟩
    · exact .inl status
    · exact .inr status
  · rw [written.exitStatus]
    split
    · exact .inl rfl
    · exact .inr rfl

theorem target_eq {options : Options} {config : Config} (h : options.resolve = .ok config) :
    config.target = options.target := by
  unfold Options.resolve at h
  split at h
  · cases h
  · split at h
    · cases h
    · cases h
      rfl

/-- What a quiet run does with its report. -/
theorem Written.quiet {options : Options} {config : Config} {bytes : List UInt8}
    {snapshot : Snapshot} {opened : Opened}
    (written : Written args environment w config snapshot opened)
    (ready : Ready args environment w options config bytes snapshot opened)
    (quiet : options.quiet = true) :
    (run args environment w).stdout = [] ∧ (run args environment w).tree = w.tree := by
  have opens := ready.opens
  rw [target_eq ready.resolved, Options.target, if_pos quiet] at opens
  cases opens
  exact ⟨written.stdout, written.tree⟩

/-- What a run does with its report that goes to standard output. -/
theorem Written.toStdout {options : Options} {config : Config} {bytes : List UInt8}
    {snapshot : Snapshot} {opened : Opened}
    (written : Written args environment w config snapshot opened)
    (ready : Ready args environment w options config bytes snapshot opened)
    (loud : options.quiet = false) (output : options.output = none) :
    (run args environment w).stdout =
        Text.bytes ((Report.ofSnapshot snapshot config.specVersion).text config.format) ∧
      (run args environment w).tree = w.tree := by
  have opens := ready.opens
  rw [target_eq ready.resolved, Options.target, loud, output] at opens
  cases opens
  exact ⟨written.stdout, written.tree⟩

/-- What a run does with its report that goes to a file. -/
theorem Written.toFile {options : Options} {config : Config} {bytes : List UInt8}
    {snapshot : Snapshot} {opened : Opened}
    (written : Written args environment w config snapshot opened)
    (ready : Ready args environment w options config bytes snapshot opened)
    (loud : options.quiet = false) {path : String} (output : options.output = some path) :
    (run args environment w).stdout = [] ∧
      (run args environment w).tree.read path =
        .ok (Text.bytes ((Report.ofSnapshot snapshot config.specVersion).text config.format)) ∧
      (run args environment w).tree.here = w.tree.here ∧
      ∃ place, w.tree.place path = .ok place ∧
        ∀ other, other ≠ place →
          (run args environment w).tree.stands? other = w.tree.stands? other := by
  have opens := ready.opens
  rw [target_eq ready.resolved, Options.target, loud, output] at opens
  obtain ⟨place, placed, outlet, after⟩ := World.open_file opens
  have stdout : (run args environment w).stdout = [] := by
    rw [written.stdout, outlet]
    rfl
  rw [written.tree, after]
  refine ⟨stdout, FileTree.read_write placed _, rfl, place, placed, ?_⟩
  intro other apart
  exact FileTree.stands?_write_of_ne apart _

/-- **Runs are fail-safe.**  Let every write succeed.  The exit status is zero exactly if help or the
version is asked for, or all gates are open and the snapshot is clear; else it is one.  A run that
ends early prints no report and, help aside, nothing else, and leaves every file as it was, the place
of the report included, whatever the sink.  A run with a verdict prints or writes just the report on
the bytes that the source had before the run: nowhere, to standard output or to the named file, and no
other file changes. -/
theorem run_fail_safe (args : List String) (environment : Option String) (tree : FileTree)
    (stdin : Supply) :
    ((run args environment ⟨tree, stdin, .unlimited⟩).exitStatus = 0 ↔
      AsksForHelp args environment ∨ ∃ options config bytes snapshot opened,
        Ready args environment ⟨tree, stdin, .unlimited⟩ options config bytes snapshot opened ∧
        snapshot.Clear) ∧
    ((run args environment ⟨tree, stdin, .unlimited⟩).exitStatus = 0 ∨
      (run args environment ⟨tree, stdin, .unlimited⟩).exitStatus = 1) ∧
    (∀ sink, (run args environment ⟨tree, stdin, sink⟩).conclusion.IsEarly →
      (run args environment ⟨tree, stdin, sink⟩).stdout = [] ∧
      (¬ AsksForHelp args environment →
        (run args environment ⟨tree, stdin, sink⟩).printed = []) ∧
      (run args environment ⟨tree, stdin, sink⟩).tree = tree) ∧
    (∀ verdict, (run args environment ⟨tree, stdin, .unlimited⟩).conclusion = .ran (.ok verdict) →
      ∃ options config bytes snapshot opened,
        Ready args environment ⟨tree, stdin, .unlimited⟩ options config bytes snapshot opened ∧
        (options.quiet = true →
          (run args environment ⟨tree, stdin, .unlimited⟩).printed = [] ∧
          (run args environment ⟨tree, stdin, .unlimited⟩).tree = tree) ∧
        (options.quiet = false → options.output = none →
          (run args environment ⟨tree, stdin, .unlimited⟩).printed =
            Text.bytes ((Report.ofSnapshot snapshot config.specVersion).text config.format) ∧
          (run args environment ⟨tree, stdin, .unlimited⟩).tree = tree) ∧
        (∀ path, options.quiet = false → options.output = some path →
          (run args environment ⟨tree, stdin, .unlimited⟩).printed = [] ∧
          (run args environment ⟨tree, stdin, .unlimited⟩).tree.read path =
            .ok (Text.bytes ((Report.ofSnapshot snapshot config.specVersion).text config.format)) ∧
          (run args environment ⟨tree, stdin, .unlimited⟩).tree.here = tree.here ∧
          ∃ place, tree.place path = .ok place ∧ ∀ other, other ≠ place →
            (run args environment ⟨tree, stdin, .unlimited⟩).tree.stands? other =
              tree.stands? other)) := by
  refine ⟨exitStatus_eq_zero_iff rfl, exitStatus_eq_zero_or_one rfl, ?_, ?_⟩
  · intro sink early
    obtain ⟨stdout, unchanged⟩ := early_unchanged early
    refine ⟨stdout, fun asksNot => ?_, unchanged⟩
    rw [printed_eq_stdout asksNot, stdout]
  · intro verdict concluded
    rcases run_cases args environment (w := ⟨tree, stdin, .unlimited⟩) rfl with
      stopped | ⟨options, config, bytes, snapshot, opened, ready, written⟩
    · exact absurd concluded (stopped.noVerdict verdict)
    · refine ⟨options, config, bytes, snapshot, opened, ready, ?_⟩
      rw [printed_eq_stdout (not_asksForHelp ready.parsed)]
      exact ⟨written.quiet ready, written.toStdout ready,
        fun path loud output => written.toFile ready loud output⟩

/-- A world with a snapshot in one file. -/
def unusedInFile : World where
  tree := FileTree.empty.addFile ["a.json"] (Text.bytes "\x7b\"unused_licenses\":[\"MIT\"]\x7d")
  stdin := ⟨[], none⟩
  sink := .unlimited

/-- A report that takes the place of its own snapshot is the report on that snapshot.  A report that
has no snapshot takes no place. -/
theorem report_over_snapshot :
    (run ["-i", "a.json", "-o", "./a.json"] none unusedInFile).conclusion = .ran (.ok false) ∧
    (∃ snapshot, unusedInFile.load (.file "a.json") = .ok snapshot ∧
      (run ["-i", "a.json", "-o", "./a.json"] none unusedInFile).tree.read "./a.json" =
        .ok (Text.bytes ((Report.ofSnapshot snapshot "3.3").text .plain))) ∧
    (run ["-i", "b.json", "-o", "a.json"] none unusedInFile).conclusion.IsEarly ∧
    (run ["-i", "b.json", "-o", "a.json"] none unusedInFile).tree = unusedInFile.tree := by
  have concluded : (run ["-i", "a.json", "-o", "./a.json"] none unusedInFile).conclusion =
      .ran (.ok false) := rfl
  have parsed : Options.parse none ["-i", "a.json", "-o", "./a.json"] = .ok
      ⟨false, false, false, none, some "a.json", some "./a.json", "3.3"⟩ := rfl
  obtain ⟨options, config, bytes, snapshot, opened, ready, _, _, file⟩ :=
    (run_fail_safe ["-i", "a.json", "-o", "./a.json"] none unusedInFile.tree ⟨[], none⟩).2.2.2
      false concluded
  cases parsed.symm.trans ready.parsed
  cases ready.resolved
  have missing : (run ["-i", "b.json", "-o", "a.json"] none unusedInFile).conclusion =
      .ran (.error (.input "b.json" "No such file or directory (os error 2)")) := rfl
  have early : (run ["-i", "b.json", "-o", "a.json"] none unusedInFile).conclusion.IsEarly := by
    rw [missing]
    trivial
  obtain ⟨_, _, kept⟩ := (run_fail_safe ["-i", "b.json", "-o", "a.json"] none unusedInFile.tree
    ⟨[], none⟩).2.2.1 .unlimited early
  exact ⟨concluded,
    ⟨snapshot, World.load_eq_ok.2 ⟨bytes, ready.delivered, ready.decoded⟩,
      (file "./a.json" rfl rfl).2.1⟩, early, kept⟩

end CommandLine

end Compliance
