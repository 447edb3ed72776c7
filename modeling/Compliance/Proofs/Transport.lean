/-
**What a snapshot comes from and where its report goes.**

The same bytes make the same run, whether they come from standard input or from a file, and whether
the report goes to standard output, to a file or nowhere.  Only the name of the source shows, in the
message of a load error.  So `--quiet` in front of arguments keeps the exit status of every run that
has no trouble with the place of its report.

Main definitions:

* `Conclusion.Alike` — conclusions that differ in the name of a source only;
* `Conclusion.AtSink` — trouble with the place of the report;
* `Outcome.Shows` — where the bytes of a report are after a run;
* `CommandLine.Given` — a run that gets its bytes and can write its report.

Main results:

* `Config.run_result` — **the result of a run is that of loading its snapshot**;
* `CommandLine.transport_irrelevant` — what this means for pairs of runs.
-/

import Compliance.Proofs.Options
import Compliance.Proofs.Snapshot.Cut

set_option relaxedAutoImplicit false
set_option autoImplicit false

namespace Compliance

/-! ### Loading -/

/-- What makes a verdict of a snapshot that has been loaded. -/
def verdictOf (loaded : Except Failure Snapshot) : Except Failure Bool :=
  loaded.map fun snapshot => snapshot.classify.compliant

namespace Conclusion

/-- Conclusions that differ in the name of a source only. -/
inductive Alike (source source' : Source) : Conclusion → Conclusion → Prop
  | misconfigured (fault : ConfigFault) :
      Alike source source' (.misconfigured fault) (.misconfigured fault)
  | verdict (compliant : Bool) : Alike source source' (.ran (.ok compliant)) (.ran (.ok compliant))
  | malformed (detail : String) :
      Alike source source' (.ran (.error (.parse source.name detail)))
        (.ran (.error (.parse source'.name detail)))

variable {source source' : Source}

theorem Alike.exitStatus_eq {c c' : Conclusion} (h : Alike source source' c c') :
    c.exitStatus = c'.exitStatus := by
  cases h with
  | misconfigured fault => rfl
  | verdict compliant => rfl
  | malformed detail => rfl

/-- The same bytes give the same verdict from every source, or are malformed in the same way. -/
theorem alike_load (source source' : Source) (bytes : List UInt8) :
    Alike source source' (.ran (verdictOf (source.load ⟨bytes, none⟩)))
      (.ran (verdictOf (source'.load ⟨bytes, none⟩))) := by
  cases decoded : Snapshot.read .finished bytes with
  | ok snapshot =>
      rw [Source.load_eq_ok.2 ⟨rfl, decoded⟩, Source.load_eq_ok.2 ⟨rfl, decoded⟩]
      exact .verdict _
  | error fault =>
      have malformed : ∀ from' : Source, from'.load ⟨bytes, none⟩ =
          .error (.parse from'.name (fault.describe bytes)) := by
        intro from'
        rw [@Source.load_eq_error from' ⟨bytes, none⟩ fault decoded,
          Source.failureOf_of_ne (Snapshot.ne_deviceFailed_of_read decoded)]
      rw [malformed, malformed]
      exact .malformed _

/-- The place of the report does not open, or it does not take the report. -/
def AtSink : Conclusion → Prop
  | ran (.error (.openSink _ _)) => True
  | ran (.error (.sink _)) => True
  | _ => False

end Conclusion

/-- A snapshot that is not loaded is no trouble with the place of the report. -/
theorem World.not_atSink_of_load {w : World} {source : Source} {failure : Failure}
    (h : w.load source = .error failure) : ¬ (Conclusion.ran (.error failure)).AtSink := by
  have fromSupply : ∀ {source : Source} {supply : Supply},
      source.load supply = .error failure → ¬ (Conclusion.ran (.error failure)).AtSink := by
    intro source supply failed
    unfold Source.load at failed
    split at failed
    · cases failed
    · cases failed
      unfold Source.failureOf
      split
      · exact id
      · exact id
  cases source with
  | stdin => exact fromSupply h
  | file path =>
      rw [load] at h
      split at h
      · exact fromSupply h
      · cases h
        exact id

theorem World.atSink_of_open {w : World} {target : Target} {failure : Failure}
    (h : w.open target = .error failure) : (Conclusion.ran (.error failure)).AtSink := by
  cases target with
  | stdout => cases h
  | discard => cases h
  | file path =>
      simp only [World.open] at h
      split at h
      · cases h
      · cases h
        exact trivial

/-! ### Runs -/

/-- **The result of a run is that of loading its snapshot**, unless the place of the report makes
trouble. -/
theorem Config.run_result {c : Config} {w : World}
    (h : ¬ (Conclusion.ran (c.run w).result).AtSink) :
    (c.run w).result = verdictOf (w.load c.source) := by
  rcases c.run_cases w with
    ⟨failure, failed | ⟨_, refused⟩, result, _, _⟩ | ⟨snapshot, opened, loaded, _, wrote⟩
  · rw [result, failed]
    rfl
  · rw [result] at h
    exact absurd (World.atSink_of_open refused) h
  · cases result : (c.run w).result with
    | error failure =>
        obtain ⟨reason, rfl⟩ := wrote.of_error result
        rw [result] at h
        exact absurd trivial h
    | ok verdict =>
        rw [loaded, (wrote.of_ok result).1]
        rfl

/-- A run that throws its report away has a result, whatever the sink, and leaves all as it was. -/
theorem Config.run_discard {c : Config} (w : World) (h : c.target = .discard) :
    (c.run w).result = verdictOf (w.load c.source) ∧ (c.run w).stdout = [] ∧
      (c.run w).tree = w.tree := by
  rcases c.run_cases w with
    ⟨failure, failed | ⟨_, refused⟩, result, stdout, tree⟩ | ⟨snapshot, opened, loaded, opens, wrote⟩
  · rw [result, failed]
    exact ⟨rfl, stdout, tree⟩
  · rw [h] at refused
    cases refused
  · rw [h] at opens
    cases opens
    obtain ⟨result, stdout, tree⟩ := wrote
    rw [World.sinkOf, Report.deliver_unlimited] at result
    rw [result, loaded]
    exact ⟨rfl, stdout, tree⟩

/-- A run does not end for the place of its report if that opens and takes everything. -/
theorem Config.not_atSink {c : Config} {w : World} (opens : ∃ opened, w.open c.target = .ok opened)
    (h : w.sink = .unlimited) : ¬ (Conclusion.ran (c.run w).result).AtSink := by
  obtain ⟨opened, opens⟩ := opens
  rcases c.run_cases w with
    ⟨failure, failed | ⟨_, refused⟩, result, _, _⟩ | ⟨snapshot, _, _, _, wrote⟩
  · rw [result]
    exact World.not_atSink_of_load failed
  · cases opens.symm.trans refused
  · rw [(wrote.whole h).1]
    exact id

theorem Options.source_eq {o : Options} {config : Config} (h : o.resolve = .ok config) :
    config.source = Source.ofArgument o.input := by
  unfold Options.resolve at h
  split at h
  · cases h
  · split at h
    · cases h
    · cases h
      rfl

namespace CommandLine

variable {args args' : List String} {environment environment' : Option String} {w w' : World}
  {options options' : Options} {bytes : List UInt8}

/-- A run that gets bytes from its source and can write its report. -/
structure Given (args : List String) (environment : Option String) (w : World) (options : Options)
    (bytes : List UInt8) : Prop where
  /-- The arguments give options. -/
  parsed : Options.parse environment args = .ok options
  /-- The source delivers the bytes to their end. -/
  delivered : w.bytes? (Source.ofArgument options.input) = some bytes
  /-- The place of the report opens. -/
  opens : ∃ opened, w.open options.target = .ok opened
  /-- It takes everything. -/
  takes : w.sink = .unlimited

/-- The conclusion of such a run. -/
theorem Given.conclusion_eq (given : Given args environment w options bytes) {config : Config}
    (resolved : options.resolve = .ok config) :
    (run args environment w).conclusion =
      .ran (verdictOf ((Source.ofArgument options.input).load ⟨bytes, none⟩)) := by
  rw [run_resolved given.parsed resolved]
  have opens : ∃ opened, w.open config.target = .ok opened := by
    rw [target_eq resolved]
    exact given.opens
  have result := Config.run_result (Config.not_atSink opens given.takes)
  rw [Options.source_eq resolved, World.load_of_bytes? given.delivered] at result
  exact congrArg Conclusion.ran result

/-- The same bytes make runs conclude alike. -/
theorem Given.alike (given : Given args environment w options bytes)
    (given' : Given args' environment' w' options' bytes) (asks : options.AskAlike options') :
    Conclusion.Alike (Source.ofArgument options.input) (Source.ofArgument options'.input)
      (run args environment w).conclusion (run args' environment' w').conclusion := by
  have resolved' := asks.resolve
  cases resolved : options.resolve with
  | error fault =>
      rw [resolved] at resolved'
      rw [run_misconfigured given.parsed resolved, run_misconfigured given'.parsed resolved']
      exact .misconfigured fault
  | ok config =>
      rw [resolved] at resolved'
      rw [given.conclusion_eq resolved, given'.conclusion_eq resolved']
      exact Conclusion.alike_load _ _ bytes

end CommandLine

/-- Where the bytes of a report are after a run: on standard output, in a file or nowhere. -/
def Outcome.Shows (o : Outcome) (before : FileTree) (report : List UInt8) : Target → Prop
  | .stdout => o.stdout = report ∧ o.tree = before
  | .file path => o.stdout = [] ∧ o.tree.read path = .ok report
  | .discard => o.stdout = [] ∧ o.tree = before

namespace CommandLine

variable {args args' : List String} {environment environment' : Option String} {w w' : World}
  {options options' : Options} {bytes : List UInt8}

/-- Where the report of a run is that has a verdict. -/
theorem Given.shows (given : Given args environment w options bytes) {snapshot : Snapshot}
    {config : Config} (resolved : options.resolve = .ok config)
    (decoded : Snapshot.read .finished bytes = .ok snapshot) :
    (run args environment w).Shows w.tree
      (Text.bytes ((Report.ofSnapshot snapshot config.specVersion).text config.format))
      options.target := by
  rcases run_cases args environment given.takes with
    stopped | ⟨options', config', bytes', snapshot', opened, ready, written⟩
  · exfalso
    obtain ⟨opened, opens⟩ := given.opens
    refine stopped.notReady options config bytes snapshot opened ⟨given.parsed, resolved, ?_, decoded, ?_⟩
    · rw [Options.source_eq resolved]
      exact given.delivered
    · rw [target_eq resolved]
      exact opens
  · cases given.parsed.symm.trans ready.parsed
    cases resolved.symm.trans ready.resolved
    have delivered := ready.delivered
    rw [Options.source_eq resolved, given.delivered] at delivered
    cases delivered
    cases decoded.symm.trans ready.decoded
    unfold Options.target
    cases quiet : options.quiet with
    | true => exact written.quiet ready quiet
    | false =>
        cases output : options.output with
        | none => exact written.toStdout ready quiet output
        | some path =>
            obtain ⟨stdout, file, _⟩ := written.toFile ready quiet output
            exact ⟨stdout, file⟩

/-- `--quiet` in front keeps the exit status and leaves all as it was. -/
theorem run_quiet (h : Switch.quiet ∉ Argument.named (args.map Argument.ofString))
    (untroubled : ¬ (run args environment w).conclusion.AtSink) :
    (run ("--quiet" :: args) environment w).exitStatus = (run args environment w).exitStatus ∧
      (run ("--quiet" :: args) environment w).stdout = [] ∧
      (run ("--quiet" :: args) environment w).tree = w.tree := by
  have parsed' := Options.parse_quiet environment h
  cases parsed : Options.parse environment args with
  | error fault =>
      rw [parsed] at parsed'
      rw [run_usage parsed, run_usage parsed']
      exact ⟨rfl, rfl, rfl⟩
  | ok options =>
      rw [parsed] at parsed'
      have resolved' := options.askAlike_quieted.resolve
      cases resolved : options.resolve with
      | error fault =>
          rw [resolved] at resolved'
          rw [run_misconfigured parsed resolved, run_misconfigured parsed' resolved']
          exact ⟨by rw [Outcome.exitStatus, Outcome.exitStatus], rfl, rfl⟩
      | ok config =>
          have discards : options.quieted.resolve =
              .ok ⟨config.format, config.source, .discard, config.specVersion⟩ := by
            rw [resolved', resolved, Options.source_eq resolved]
            rfl
          rw [run_resolved parsed resolved] at untroubled ⊢
          rw [run_resolved parsed' discards]
          obtain ⟨result, stdout, tree⟩ := Config.run_discard
            (c := ⟨config.format, config.source, .discard, config.specVersion⟩) w rfl
          refine ⟨?_, stdout, tree⟩
          rw [Outcome.exitStatus, Outcome.exitStatus, result, Config.run_result untroubled]

/-- **Neither the way of the snapshot nor that of the report changes the result.**  Let two runs ask
for the same format and version, get the same bytes, from standard input or from a file, and be able
to write their reports, to standard output, to a file or nowhere.  They conclude alike and with the
same exit status; if there is a verdict, the bytes of the report are the same wherever they are.  And
`--quiet` in front of arguments without it keeps the exit status of every run that has no trouble with
the place of its report, prints no report and leaves every file as it was, whatever the sink. -/
theorem transport_irrelevant :
    (∀ (args args' : List String) (environment environment' : Option String) (w w' : World)
      (options options' : Options) (bytes : List UInt8),
      Given args environment w options bytes → Given args' environment' w' options' bytes →
      options.AskAlike options' →
      Conclusion.Alike (Source.ofArgument options.input) (Source.ofArgument options'.input)
        (run args environment w).conclusion (run args' environment' w').conclusion ∧
      (run args environment w).exitStatus = (run args' environment' w').exitStatus ∧
      ∀ verdict, (run args environment w).conclusion = .ran (.ok verdict) →
        ∃ report, (run args environment w).Shows w.tree report options.target ∧
          (run args' environment' w').Shows w'.tree report options'.target) ∧
    (∀ (args : List String) (environment : Option String) (w : World),
      Switch.quiet ∉ Argument.named (args.map Argument.ofString) →
      ¬ (run args environment w).conclusion.AtSink →
      (run ("--quiet" :: args) environment w).exitStatus = (run args environment w).exitStatus ∧
      (run ("--quiet" :: args) environment w).stdout = [] ∧
      (run ("--quiet" :: args) environment w).tree = w.tree) := by
  refine ⟨?_, fun _ _ _ => run_quiet⟩
  intro args args' environment environment' w w' options options' bytes given given' asks
  have alike := given.alike given' asks
  refine ⟨alike, alike.exitStatus_eq, ?_⟩
  intro verdict concluded
  cases resolved : options.resolve with
  | error fault =>
      rw [run_misconfigured given.parsed resolved] at concluded
      cases concluded
  | ok config =>
      have resolved' := asks.resolve
      rw [resolved] at resolved'
      rw [given.conclusion_eq resolved] at concluded
      cases loaded : (Source.ofArgument options.input).load ⟨bytes, none⟩ with
      | error failure =>
          rw [loaded] at concluded
          cases concluded
      | ok snapshot =>
          have decoded := (Source.load_eq_ok.1 loaded).2
          have shown := given'.shows resolved' decoded
          exact ⟨_, given.shows resolved decoded, shown⟩

/-- The world whose standard input delivers what the file of `unusedInFile` holds. -/
def unusedOnStdin : World where
  tree := FileTree.empty
  stdin := ⟨Text.bytes "\x7b\"unused_licenses\":[\"MIT\"]\x7d", none⟩
  sink := .unlimited

/-- A snapshot with an unused license gives one report, in a file or on standard output, and the same
exit status without a report. -/
theorem unused_however_given :
    (∃ report,
      (run ["-i", "a.json", "-o", "b.txt"] none unusedInFile).tree.read "b.txt" = .ok report ∧
      (run ["--input=-"] none unusedOnStdin).stdout = report) ∧
    (run ["--input=-"] none unusedOnStdin).exitStatus = 1 ∧
    (run ["--quiet", "-i", "a.json", "-o", "b.txt"] none unusedInFile).exitStatus = 1 := by
  have concluded : (run ["-i", "a.json", "-o", "b.txt"] none unusedInFile).conclusion =
      .ran (.ok false) := rfl
  have given : Given ["-i", "a.json", "-o", "b.txt"] none unusedInFile
      ⟨false, false, false, none, some "a.json", some "b.txt", "3.3"⟩
      (Text.bytes "\x7b\"unused_licenses\":[\"MIT\"]\x7d") := ⟨rfl, rfl, ⟨_, rfl⟩, rfl⟩
  have given' : Given ["--input=-"] none unusedOnStdin
      ⟨false, false, false, none, some "-", none, "3.3"⟩
      (Text.bytes "\x7b\"unused_licenses\":[\"MIT\"]\x7d") := ⟨rfl, rfl, ⟨_, rfl⟩, rfl⟩
  obtain ⟨_, status, shows⟩ := transport_irrelevant.1 _ _ _ _ _ _ _ _ _ given given'
    ⟨rfl, rfl, rfl, rfl⟩
  obtain ⟨report, file, stdout⟩ := shows false concluded
  have quiet := transport_irrelevant.2 ["-i", "a.json", "-o", "b.txt"] none unusedInFile
    (by decide) (by rw [concluded]; exact id)
  have fails : (run ["-i", "a.json", "-o", "b.txt"] none unusedInFile).exitStatus = 1 := by
    rw [Outcome.exitStatus, concluded]
    rfl
  exact ⟨⟨report, file.2, stdout.1⟩, status.symm.trans fails, quiet.1.trans fails⟩

end CommandLine

end Compliance
