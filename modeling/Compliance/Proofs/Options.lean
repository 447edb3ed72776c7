/-
**Arguments after an option that throws the report away.**

Scanning keeps the options it has met and the one that waits for a value.  An option with no value
that is met before all others changes nothing else: what later arguments mean does not depend on it,
unless they name it once more.

Main definitions:

* `Argument.switches`, `Argument.named` — the options that arguments name;
* `Options.quieted`, `Scan.quietly` — options and a scan that have met `--quiet` before all else;
* `Scan.Unaffected` — a step of scanning that treats both alike.

Main results:

* `Scan.unaffected_arguments` — **scanning goes on as without it**;
* `Options.parse_quiet` — what arguments give with `--quiet` in front;
* `Options.AskAlike.resolve` — the settings of options that differ in where the snapshot comes from and
  where the report goes.
-/

import Compliance.Config
import Compliance.Proofs.Except

set_option relaxedAutoImplicit false
set_option autoImplicit false

namespace Compliance

/-! ### What arguments name -/

/-- The options that letters after one dash name.  What follows an option that takes a value is its
value. -/
def Switch.ofLetters : List Char → List Switch
  | [] => []
  | c :: cs =>
    match ofLetter? c with
    | none => []
    | some switch => switch :: if switch.takesValue then [] else ofLetters cs

/-- The options that an argument names. -/
def Argument.switches : Argument → List Switch
  | long name _ => (Switch.ofLong? name).toList
  | letters cs => Switch.ofLetters cs
  | terminator => []
  | value _ => []

/-- The options that arguments name.  After two dashes alone there are none. -/
def Argument.named : List Argument → List Switch
  | [] => []
  | terminator :: _ => []
  | arg :: args => arg.switches ++ named args

/-- The same options, with the report thrown away. -/
def Options.quieted (o : Options) : Options := { o with quiet := true }

namespace Scan

/-- A scan that has met `--quiet` before all that it has met. -/
def quietly (scan : Scan) : Scan where
  options := scan.options.quieted
  given := scan.given ++ [.quiet]
  waiting := scan.waiting

/-- No option waits that takes no value. -/
def Orderly (scan : Scan) : Prop := ∀ waiting ∈ scan.waiting, waiting.1.takesValue = true

variable {scan : Scan} {switch : Switch}

theorem orderly_idle (o : Options) (given : List Switch) : (⟨o, given, none⟩ : Scan).Orderly := by
  intro waiting none
  cases none

/-- The option that waits is not the one without a value. -/
theorem Orderly.ne_quiet (h : scan.Orderly) {value : Option String}
    (waiting : scan.waiting = some (switch, value)) : switch ≠ .quiet := by
  rintro rfl
  cases h _ waiting

/-! ### One option -/

theorem choose_quieted (o : Options) (switch : Switch) (value : String) :
    choose o.quieted switch value = (choose o switch value).map Options.quieted := by
  cases switch with
  | format =>
      unfold choose
      cases Format.ofName? value with
      | none => rfl
      | some format => rfl
  | input =>
      unfold choose
      cases nonEmpty value with
      | error fault => rfl
      | ok path => rfl
  | output =>
      unfold choose
      cases nonEmpty value with
      | error fault => rfl
      | ok path => rfl
  | _ => rfl

/-- Makes an option count with the value that it has got. -/
def add (scan : Scan) (switch : Switch) (value : String) : Except UsageFault Scan :=
  if switch ∈ scan.given then .error .argumentConflict
  else (choose scan.options switch value).map fun options =>
    ⟨options, switch :: scan.given, none⟩

theorem apply_eq (scan : Scan) (switch : Switch) (value : Option String) :
    scan.apply switch value = value.elim (valueWithout switch) .ok >>= scan.add switch := by
  have added : ∀ value, scan.apply switch (some value) = scan.add switch value := by
    intro value
    change (if switch ∈ scan.given then _ else _ : Except UsageFault Scan) = _
    unfold add
    split
    · rfl
    · cases choose scan.options switch value with
      | error fault => rfl
      | ok options => rfl
  cases value with
  | some value => exact added value
  | none =>
      change valueWithout switch >>= (fun value => scan.apply switch (some value)) = _
      simp only [added]
      rfl

theorem mem_given_quietly (other : switch ≠ .quiet) :
    switch ∈ scan.quietly.given ↔ switch ∈ scan.given := by
  rw [quietly, List.mem_append, List.mem_singleton, or_iff_left other]

theorem add_quietly (other : switch ≠ .quiet) (value : String) :
    scan.quietly.add switch value = (scan.add switch value).map quietly := by
  unfold add
  by_cases given : switch ∈ scan.given
  · rw [if_pos ((mem_given_quietly other).2 given), if_pos given]
    rfl
  · rw [if_neg (mt (mem_given_quietly other).1 given), if_neg given]
    have chosen : choose scan.quietly.options switch value =
        (choose scan.options switch value).map Options.quieted := choose_quieted _ _ _
    rw [chosen]
    cases choose scan.options switch value with
    | error fault => rfl
    | ok options => rfl

/-! ### Steps of scanning -/

/-- A step of scanning that `--quiet` in front does not affect. -/
structure Unaffected (step : Scan → Except UsageFault Scan) : Prop where
  quietly : ∀ scan, scan.Orderly → step scan.quietly = (step scan).map Scan.quietly
  orderly : ∀ scan scan', scan.Orderly → step scan = .ok scan' → scan'.Orderly

/-- Two steps that are not affected, one after the other. -/
theorem Unaffected.bind {step next : Scan → Except UsageFault Scan} (h : Unaffected step)
    (h' : Unaffected next) : Unaffected fun scan => step scan >>= next where
  quietly := fun scan orderly => by
    simp only [h.quietly scan orderly]
    cases stepped : step scan with
    | error fault => rfl
    | ok scan' => exact h'.quietly scan' (h.orderly scan scan' orderly stepped)
  orderly := fun scan last orderly stepped => by
    obtain ⟨scan', first, second⟩ := bind_eq_ok.1 stepped
    exact h'.orderly scan' last (h.orderly scan scan' orderly first) second

theorem unaffected_ok : Unaffected .ok where
  quietly := fun _ _ => rfl
  orderly := fun _ _ orderly same => by
    cases same
    exact orderly

theorem unaffected_error (fault : UsageFault) : Unaffected fun _ => .error fault where
  quietly := fun _ _ => rfl
  orderly := fun _ _ _ stepped => by cases stepped

theorem unaffected_apply (other : switch ≠ .quiet) (value : Option String) :
    Unaffected fun scan => scan.apply switch value where
  quietly := fun scan _ => by
    rw [apply_eq, apply_eq]
    cases value.elim (valueWithout switch) .ok with
    | error fault => rfl
    | ok value => exact add_quietly other value
  orderly := fun scan scan' _ applied => by
    -- no option waits after one has been made to count
    rw [apply_eq] at applied
    obtain ⟨given, _, added⟩ := bind_eq_ok.1 applied
    unfold add at added
    split at added
    · cases added
    · cases chosen : choose scan.options switch given with
      | error fault =>
          rw [chosen] at added
          cases added
      | ok options =>
          rw [chosen] at added
          cases added
          exact orderly_idle _ _

theorem unaffected_settle : Unaffected settle where
  quietly := fun scan orderly => by
    unfold settle
    cases waiting : scan.waiting with
    | none =>
        have same : scan.quietly.waiting = none := waiting
        rw [same]
        rfl
    | some pair =>
        have same : scan.quietly.waiting = some pair := waiting
        rw [same]
        exact (unaffected_apply (orderly.ne_quiet waiting) pair.2).quietly
          ⟨scan.options, scan.given, none⟩ (orderly_idle _ _)
  orderly := fun scan scan' orderly settled => by
    unfold settle at settled
    cases waiting : scan.waiting with
    | none =>
        rw [waiting] at settled
        cases settled
        exact orderly
    | some pair =>
        rw [waiting] at settled
        exact (unaffected_apply (orderly.ne_quiet waiting) pair.2).orderly _ scan'
          (orderly_idle _ _) settled

/-- An option that takes a value waits for it. -/
theorem unaffected_wait (h : switch.takesValue = true) (value : Option String) :
    Unaffected fun scan => .ok { scan with waiting := some (switch, value) } where
  quietly := fun _ _ => rfl
  orderly := fun scan scan' _ stepped => by
    cases stepped
    intro waiting held
    cases held
    exact h

theorem unaffected_long {name : String} {value : Option String}
    (h : Switch.quiet ∉ (Argument.long name value).switches) :
    Unaffected fun scan => scan.long name value := by
  unfold long
  cases named : Switch.ofLong? name with
  | none => exact unaffected_error _
  | some switch =>
      have other : switch ≠ .quiet := by
        rintro rfl
        rw [Argument.switches, named] at h
        exact h (List.mem_singleton_self _)
      by_cases takes : switch.takesValue = true
      · simp only [takes, if_true]
        cases value with
        | none => exact unaffected_settle.bind (unaffected_wait takes none)
        | some value => exact unaffected_settle.bind (unaffected_apply other _)
      · simp only [takes]
        cases value with
        | none => exact unaffected_settle.bind (unaffected_apply other none)
        | some value => exact unaffected_error _

theorem unaffected_letters {cs : List Char} (h : Switch.quiet ∉ Switch.ofLetters cs) :
    Unaffected fun scan => scan.letters cs := by
  induction cs with
  | nil => exact unaffected_ok
  | cons c cs ih =>
      unfold letters
      rw [Switch.ofLetters] at h
      cases named : Switch.ofLetter? c with
      | none => exact unaffected_error _
      | some switch =>
          rw [named] at h
          obtain ⟨other, later⟩ := not_or.1 (mt List.mem_cons.2 h)
          refine unaffected_settle.bind ?_
          by_cases takes : switch.takesValue = true
          · simp only [takes, if_true]
            by_cases last : cs = []
            · simp only [last, if_true]
              exact unaffected_wait takes none
            · simp only [last, if_false]
              exact unaffected_apply (Ne.symm other) _
          · rw [if_neg takes] at later
            simp only [takes]
            exact (unaffected_apply (Ne.symm other) none).bind (ih later)

theorem unaffected_value (text : String) : Unaffected fun scan => scan.value text where
  quietly := fun scan _ => by
    unfold value
    have same : scan.quietly.waiting = scan.waiting := rfl
    rw [same]
    split
    · rfl
    · rfl
  orderly := fun scan scan' orderly stepped => by
    unfold value at stepped
    split at stepped
    · rename_i switch waiting
      cases stepped
      intro pair held
      cases held
      exact orderly (switch, none) waiting
    · cases stepped

/-- **Scanning goes on as without `--quiet` in front.** -/
theorem unaffected_arguments {args : List Argument} (h : Switch.quiet ∉ Argument.named args) :
    Unaffected fun scan => scan.arguments args := by
  induction args with
  | nil => exact unaffected_settle
  | cons arg args ih =>
      cases arg with
      | terminator =>
          unfold arguments
          by_cases last : args = []
          · simp only [last, if_true]
            exact unaffected_settle
          · simp only [last, if_false]
            exact unaffected_error _
      | long name value =>
          obtain ⟨here, later⟩ := not_or.1 (mt List.mem_append.2 h)
          exact (unaffected_long here).bind (ih later)
      | letters cs =>
          obtain ⟨here, later⟩ := not_or.1 (mt List.mem_append.2 h)
          exact (unaffected_letters here).bind (ih later)
      | value text =>
          obtain ⟨_, later⟩ := not_or.1 (mt List.mem_append.2 h)
          exact (unaffected_value text).bind (ih later)

end Scan

/-! ### Options and settings -/

namespace Options

/-- With `--quiet` in front, arguments that do not name it give the same options, but quiet, or are
at fault in the same way. -/
theorem parse_quiet {args : List String} (environment : Option String)
    (h : Switch.quiet ∉ Argument.named (args.map Argument.ofString)) :
    parse environment ("--quiet" :: args) = (parse environment args).map quieted := by
  have scanned := (Scan.unaffected_arguments h).quietly ⟨initial environment, [], none⟩
    (Scan.orderly_idle _ _)
  change (Scan.arguments (Scan.quietly ⟨initial environment, [], none⟩)
    (args.map Argument.ofString) >>= fun scan => Except.ok scan.options) = _
  rw [scanned, parse]
  cases Scan.arguments ⟨initial environment, [], none⟩ (args.map Argument.ofString) with
  | error fault => rfl
  | ok scan => rfl

/-- Options that choose the format in one way and name one version of the specification. -/
structure AskAlike (o o' : Options) : Prop where
  json : o'.json = o.json
  plain : o'.plain = o.plain
  format : o'.format = o.format
  specVersion : o'.specVersion = o.specVersion

theorem askAlike_quieted (o : Options) : AskAlike o o.quieted := ⟨rfl, rfl, rfl, rfl⟩

/-- Options that ask alike give the same settings, but for where the snapshot comes from and where
the report goes, or are at fault in the same way. -/
theorem AskAlike.resolve {o o' : Options} (h : AskAlike o o') :
    o'.resolve = o.resolve.map fun config =>
      { config with source := Source.ofArgument o'.input, target := o'.target } := by
  have choices : o'.formatChoices = o.formatChoices := by
    rw [formatChoices, formatChoices, h.json, h.plain, h.format]
  have format : o'.outputFormat = o.outputFormat := by
    rw [outputFormat, outputFormat, h.json, h.plain, h.format]
  unfold Options.resolve
  rw [choices, h.specVersion, format]
  by_cases conflict : 1 < o.formatChoices
  · rw [if_pos conflict, if_pos conflict]
    rfl
  · rw [if_neg conflict, if_neg conflict]
    by_cases blank : Text.trim o.specVersion = ""
    · rw [if_pos blank, if_pos blank]
      rfl
    · rw [if_neg blank, if_neg blank]
      rfl

end Options

end Compliance
