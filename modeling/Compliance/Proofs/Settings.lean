/-
**Settings however they are written.**

A setting is an option with its value.  It may be written by the option's name or by its letter, with
its value behind an equals sign or as an argument of its own, and letters may stand together after
one dash.  Scanning keeps to one invariant: once the option that waits counts, the scan has met just
the settings that have been written so far.  Every option that is met makes the one that waits count
first, so a phrase of arguments adds its settings and nothing else, and what arguments give is told by
the settings that they write, in whatever order and words.

Main definitions:

* `Setting`, `Setting.format?` — an option with its value, and the format that it chooses;
* `Phrase`, `Written` — the ways to write settings as arguments;
* `Options.Carry` — options with just these settings;
* `Options.Decided` — what becomes of them;
* `Scan.Has` — a scan that has met just these settings.

Main results:

* `Scan.Has.phrase` — **a phrase adds its settings**;
* `Options.Carry.unique` — settings tell the options;
* `Options.parse_reworded` — **neither the order of settings nor their wording matters**.
-/

import Compliance.Proofs.Options
import Compliance.Proofs.Text.LineEnds
import Mathlib.Data.List.Forall2

set_option relaxedAutoImplicit false
set_option autoImplicit false

namespace Compliance

/-! ### Settings -/

/-- An option of a run, with its value if it takes one. -/
inductive Setting
  | quiet
  | json
  | plain
  | format (format : Format)
  | input (path : String)
  | output (path : String)
  | specVersion (version : String)
  deriving DecidableEq, Repr

namespace Setting

/-- The option of a setting. -/
def switch : Setting → Switch
  | quiet => .quiet
  | json => .json
  | plain => .plain
  | format _ => .format
  | input _ => .input
  | output _ => .output
  | specVersion _ => .specVersion

/-- The value of a setting, as it is written. -/
def value? : Setting → Option String
  | format f => some f.name
  | input path => some path
  | output path => some path
  | specVersion version => some version
  | _ => none

/-- The format that a setting chooses. -/
def format? : Setting → Option Format
  | json => some .json
  | plain => some .plain
  | format f => some f
  | _ => none

/-- A setting whose path, if it has one, is not empty. -/
def Filled : Setting → Prop
  | input path => path ≠ ""
  | output path => path ≠ ""
  | _ => True

/-- The options with one setting more. -/
def set (o : Options) : Setting → Options
  | quiet => { o with quiet := true }
  | json => { o with json := true }
  | plain => { o with plain := true }
  | format f => { o with format := some f }
  | input path => { o with input := some path }
  | output path => { o with output := some path }
  | specVersion version => { o with specVersion := version }

theorem takesValue_switch (s : Setting) : s.switch.takesValue = s.value?.isSome := by
  cases s <;> rfl

/-- A setting chooses a format if its option does. -/
theorem isSome_format? (s : Setting) :
    s.format?.isSome = decide (s.switch ∈ [.json, .plain, .format]) := by
  cases s <;> rfl

/-- An option that has only one setting is met exactly if that setting is. -/
theorem mem_switches_iff {settings : List Setting} {switch : Switch} {t : Setting}
    (is : t.switch = switch) (only : ∀ s : Setting, s.switch = switch → s = t) :
    switch ∈ settings.map Setting.switch ↔ t ∈ settings := by
  rw [List.mem_map]
  constructor
  · rintro ⟨s, hs, same⟩
    rwa [← only s same]
  · exact fun mem => ⟨t, mem, is⟩

/-- An option that counts with the value of a setting makes that setting. -/
theorem choose_eq {s : Setting} (h : s.Filled) (o : Options) :
    Scan.choose o s.switch (s.value?.getD "") = .ok (s.set o) := by
  have filled : ∀ {path : String}, path ≠ "" → Scan.nonEmpty path = .ok path := fun h => if_neg h
  cases s with
  | format f => cases f <;> rfl
  | input path => exact congrArg (Except.map _) (filled h)
  | output path => exact congrArg (Except.map _) (filled h)
  | _ => rfl

end Setting

theorem Switch.ofLong?_long (switch : Switch) : ofLong? switch.long = some switch := by
  cases switch <;> decide

theorem Switch.ofLetter?_letter {switch : Switch} {c : Char} (h : switch.letter? = some c) :
    ofLetter? c = some switch := by
  cases switch <;> cases h <;> decide

/-! ### Ways to write settings -/

/-- A value that may be an argument of its own. -/
def StandsAlone (value : String) : Prop := value = "-" ∨ value.toList.head? ≠ some '-'

/-- The letter of an option without a value. -/
def Setting.Flag (c : Char) (s : Setting) : Prop := s.value? = none ∧ s.switch.letter? = some c

/-- The ways to write settings by arguments that belong together. -/
inductive Phrase : List String → List Setting → Prop
  /-- An option without a value, by its name. -/
  | flag {s : Setting} (valueless : s.value? = none) : Phrase ["--" ++ s.switch.long] [s]
  /-- An option by its name, and its value as an argument of its own. -/
  | named {s : Setting} {value : String} (valued : s.value? = some value)
      (alone : StandsAlone value) : Phrase ["--" ++ s.switch.long, value] [s]
  /-- An option by its name, and its value behind an equals sign. -/
  | assigned {s : Setting} {value : String} (valued : s.value? = some value) :
      Phrase ["--" ++ s.switch.long ++ "=" ++ value] [s]
  /-- The option for the format without a value, which stands for the plain one. -/
  | bare : Phrase ["--" ++ Switch.format.long] [.format .plain]
  /-- The letters of options without values. -/
  | cluster {cs : List Char} {flags : List Setting} (filled : flags ≠ [])
      (letters : List.Forall₂ Setting.Flag cs flags) : Phrase ["-" ++ String.ofList cs] flags
  /-- Such letters, if any, the letter of an option with a value, and the value as an argument of its
  own. -/
  | clusterNamed {cs : List Char} {flags : List Setting} {s : Setting} {c : Char} {value : String}
      (letters : List.Forall₂ Setting.Flag cs flags) (letter : s.switch.letter? = some c)
      (valued : s.value? = some value) (alone : StandsAlone value) :
      Phrase ["-" ++ String.ofList (cs ++ [c]), value] (flags ++ [s])
  /-- The same letters with the value behind an equals sign. -/
  | clusterAssigned {cs : List Char} {flags : List Setting} {s : Setting} {c : Char}
      {value : String} (letters : List.Forall₂ Setting.Flag cs flags)
      (letter : s.switch.letter? = some c) (valued : s.value? = some value) :
      Phrase ["-" ++ String.ofList (cs ++ [c]) ++ "=" ++ value] (flags ++ [s])
  /-- The same letters with the value right behind them. -/
  | clusterAttached {cs : List Char} {flags : List Setting} {s : Setting} {c : Char}
      {value : String} (letters : List.Forall₂ Setting.Flag cs flags)
      (letter : s.switch.letter? = some c) (valued : s.value? = some value) (filled : value ≠ "")
      (attached : value.toList.head? ≠ some '=') :
      Phrase ["-" ++ String.ofList (cs ++ [c]) ++ value] (flags ++ [s])

/-- Arguments that write settings, phrase by phrase. -/
inductive Written : List String → List Setting → Prop
  | nil : Written [] []
  | append {args later : List String} {settings more : List Setting} (phrase : Phrase args settings)
      (written : Written later more) : Written (args ++ later) (settings ++ more)

/-! ### Kinds of arguments -/

namespace Argument

variable {s : String}

/-- The name of an option, after two dashes. -/
theorem ofString_name (switch : Switch) : ofString ("--" ++ switch.long) = .long switch.long none := by
  cases switch <;> rfl

/-- The name of an option, an equals sign and a value, after two dashes. -/
theorem ofString_assigned (switch : Switch) (value : String) :
    ofString ("--" ++ switch.long ++ "=" ++ value) = .long switch.long (some value) := by
  have chars : ("--" ++ switch.long ++ "=" ++ value).toList =
      '-' :: '-' :: (switch.long.toList ++ '=' :: value.toList) := by
    simp
  have unequal : switch.long.toList.all (· ≠ '=') = true := by
    cases switch <;> decide
  have letters : ∀ c ∈ switch.long.toList, decide (c ≠ '=') = true := List.all_eq_true.1 unequal
  have rest : (switch.long.toList ++ '=' :: value.toList).dropWhile (· ≠ '=') =
      '=' :: value.toList := by
    rw [List.dropWhile_append_of_pos letters, List.dropWhile_cons_of_neg (by decide)]
  have front : (switch.long.toList ++ '=' :: value.toList).takeWhile (· ≠ '=') =
      switch.long.toList := by
    rw [List.takeWhile_append_of_pos letters, List.takeWhile_cons_of_neg (by decide),
      List.append_nil]
  have long : ofString ("--" ++ switch.long ++ "=" ++ value) =
      .ofLongText (switch.long.toList ++ '=' :: value.toList) := by
    rw [ofString, chars]
    cases switch <;> rfl
  rw [long, ofLongText, rest, front]
  simp only [String.ofList_toList]

/-- A dash and letters. -/
theorem ofString_letters {c : Char} {cs : List Char} (h : s.toList = '-' :: c :: cs)
    (letter : c ≠ '-') : ofString s = .letters (c :: cs) := by
  rw [ofString, h]
  split
  · rename_i same
    exact absurd (List.cons.inj (List.cons.inj same).2).1 letter
  · rename_i same
    exact absurd (List.cons.inj (List.cons.inj same).2).1 letter
  · rename_i same
    cases same
  · rename_i same
    rw [(List.cons.inj same).2]
  · rename_i other
    exact absurd rfl (other _)

theorem ne_dash_of_letter {switch : Switch} {c : Char} (h : switch.letter? = some c) : c ≠ '-' := by
  cases switch <;> cases h <;> decide

/-- A dash, letters of options without values if there are any, the letter of another option, and
what follows. -/
theorem ofString_cluster {cs more : List Char} {flags : List Setting} {switch : Switch} {c : Char}
    (letters : List.Forall₂ Setting.Flag cs flags) (letter : switch.letter? = some c)
    (h : s.toList = '-' :: (cs ++ c :: more)) : ofString s = .letters (cs ++ c :: more) := by
  cases letters with
  | nil => exact ofString_letters h (ne_dash_of_letter letter)
  | cons flag _ => exact ofString_letters h (ne_dash_of_letter flag.2)

/-- A value that stands alone. -/
theorem ofString_value (h : StandsAlone s) : ofString s = .value s := by
  rcases h with rfl | plain
  · rfl
  · rw [ofString]
    cases chars : s.toList with
    | nil => rfl
    | cons c cs =>
        rw [chars, List.head?_cons, Ne, Option.some.injEq] at plain
        split
        · rename_i same
          exact absurd (List.cons.inj same).1 plain
        · rename_i same
          exact absurd (List.cons.inj same).1 plain
        · rfl
        · rename_i same
          exact absurd (List.cons.inj same).1 plain
        · rfl

end Argument

/-! ### Options with just some settings -/

/-- Options with just these settings.  The version comes from the environment if none of them gives
it. -/
structure Options.Carry (o : Options) (environment : Option String) (settings : List Setting) :
    Prop where
  quiet : o.quiet = true ↔ .quiet ∈ settings
  json : o.json = true ↔ .json ∈ settings
  plain : o.plain = true ↔ .plain ∈ settings
  format : ∀ f, o.format = some f ↔ .format f ∈ settings
  input : ∀ path, o.input = some path ↔ .input path ∈ settings
  output : ∀ path, o.output = some path ↔ .output path ∈ settings
  specVersion : ∀ version, o.specVersion = version ↔ .specVersion version ∈ settings ∨
    (∀ other, .specVersion other ∉ settings) ∧ version = (initial environment).specVersion

namespace Options.Carry

variable {o o' : Options} {environment : Option String} {settings settings' done : List Setting}
  {s : Setting}

/-- **Settings tell the options**, in whatever order they are. -/
theorem unique (h : o.Carry environment settings) (h' : o'.Carry environment settings')
    (same : ∀ s, s ∈ settings ↔ s ∈ settings') : o = o' := by
  have quiet : o.quiet = o'.quiet := Bool.eq_iff_iff.2 (by rw [h.quiet, h'.quiet, same])
  have json : o.json = o'.json := Bool.eq_iff_iff.2 (by rw [h.json, h'.json, same])
  have plain : o.plain = o'.plain := Bool.eq_iff_iff.2 (by rw [h.plain, h'.plain, same])
  have format : o.format = o'.format := Option.ext fun f => by rw [h.format, h'.format, same]
  have input : o.input = o'.input := Option.ext fun path => by rw [h.input, h'.input, same]
  have output : o.output = o'.output := Option.ext fun path => by rw [h.output, h'.output, same]
  have version : o.specVersion = o'.specVersion := by
    rw [h.specVersion]
    simp only [same]
    exact (h'.specVersion _).1 rfl
  cases o
  cases o'
  simp_all

/-- Where nothing is written there are no settings. -/
theorem initial (environment : Option String) :
    (Options.initial environment).Carry environment [] := by
  constructor <;> simp [Options.initial, eq_comm]

/-- One setting more, of an option that was not met before. -/
theorem set (h : o.Carry environment done) (new : s.switch ∉ done.map Setting.switch) :
    (s.set o).Carry environment (done ++ [s]) := by
  have absent : ∀ t : Setting, t.switch = s.switch → t ∉ done := fun t same mem =>
    new (same ▸ List.mem_map_of_mem mem)
  -- the option of the setting is told by it alone, and the others are as they were
  constructor
  case quiet =>
      cases s with
      | quiet => simp [Setting.set]
      | _ => simpa [Setting.set] using h.quiet
  case json =>
      cases s with
      | json => simp [Setting.set]
      | _ => simpa [Setting.set] using h.json
  case plain =>
      cases s with
      | plain => simp [Setting.set]
      | _ => simpa [Setting.set] using h.plain
  case format =>
      intro f
      cases s with
      | format g => simp [Setting.set, absent (.format f) rfl, eq_comm]
      | _ => simpa [Setting.set] using h.format f
  case input =>
      intro path
      cases s with
      | input other => simp [Setting.set, absent (.input path) rfl, eq_comm]
      | _ => simpa [Setting.set] using h.input path
  case output =>
      intro path
      cases s with
      | output other => simp [Setting.set, absent (.output path) rfl, eq_comm]
      | _ => simpa [Setting.set] using h.output path
  case specVersion =>
      intro version
      cases s with
      | specVersion other =>
          have given : ¬∀ v, Setting.specVersion v ∉ done ++ [.specVersion other] :=
            fun none => none other (by simp)
          rw [or_iff_left fun without => given without.1]
          simp [Setting.set, absent (.specVersion version) rfl, eq_comm]
      | _ => simpa [Setting.set] using h.specVersion version

end Options.Carry

/-! ### Scans of just some settings -/

namespace Scan

/-- An idle scan with just these settings. -/
structure Holds (scan : Scan) (environment : Option String) (done : List Setting) : Prop where
  options : scan.options.Carry environment done
  given : ∀ switch, switch ∈ scan.given ↔ switch ∈ done.map Setting.switch
  idle : scan.waiting = none

/-- A scan that has met just these settings, once the option that waits counts. -/
def Has (scan : Scan) (environment : Option String) (done : List Setting) : Prop :=
  ∃ settled, scan.settle = .ok settled ∧ settled.Holds environment done

variable {scan settled : Scan} {environment : Option String} {done : List Setting} {s : Setting}
  {value : Option String}

theorem Holds.settle (h : settled.Holds environment done) : settled.settle = .ok settled := by
  rw [Scan.settle, h.idle]

theorem Holds.has (h : settled.Holds environment done) : settled.Has environment done :=
  ⟨settled, h.settle, h⟩

/-- Nothing has been met at the start. -/
theorem holds_initial (environment : Option String) :
    (⟨Options.initial environment, [], none⟩ : Scan).Holds environment [] where
  options := .initial environment
  given := by simp
  idle := rfl

/-- An option that was not met before counts with the value of its setting, or without one that says
the same. -/
theorem Holds.apply (h : settled.Holds environment done) (filled : s.Filled)
    (new : s.switch ∉ done.map Setting.switch)
    (reads : value.elim (valueWithout s.switch) .ok = .ok (s.value?.getD "")) :
    ∃ next, settled.apply s.switch value = .ok next ∧ next.Holds environment (done ++ [s]) := by
  refine ⟨⟨s.set settled.options, s.switch :: settled.given, none⟩, ?_, ?_⟩
  · rw [apply_eq, reads, ok_bind, add, if_neg (mt (h.given _).1 new), Setting.choose_eq filled]
    rfl
  · refine ⟨h.options.set new, fun switch => ?_, rfl⟩
    rw [List.mem_cons, h.given, List.map_append, List.mem_append, List.map_singleton,
      List.mem_singleton, or_comm]

/-- A setting with a value reads as it. -/
theorem reads_value {v : String} (valued : s.value? = some v) :
    (some v).elim (valueWithout s.switch) .ok = .ok (s.value?.getD "") := by
  rw [valued]
  rfl

/-- A setting without a value needs none. -/
theorem reads_none (valueless : s.value? = none) :
    (none : Option String).elim (valueWithout s.switch) .ok = .ok (s.value?.getD "") := by
  cases s with
  | quiet => rfl
  | json => rfl
  | plain => rfl
  | _ => cases valueless

/-- The option for the format alone reads as the plain one. -/
theorem reads_bare : (none : Option String).elim (valueWithout .format) .ok =
    .ok ((Setting.format .plain).value?.getD "") := rfl

/-- An option that waits with its value counts once it is settled. -/
theorem Holds.has_waiting (h : settled.Holds environment done) (filled : s.Filled)
    (new : s.switch ∉ done.map Setting.switch)
    (reads : value.elim (valueWithout s.switch) .ok = .ok (s.value?.getD "")) :
    ({ settled with waiting := some (s.switch, value) } : Scan).Has environment (done ++ [s]) := by
  obtain ⟨next, applied, holds⟩ := h.apply filled new reads
  refine ⟨next, ?_, holds⟩
  have idle : ({ settled with waiting := none } : Scan) = settled := by
    rw [← h.idle]
  rw [Scan.settle, ← applied, ← idle]

/-! ### Steps of scanning -/

theorem filled_of_valueless (valueless : s.value? = none) : s.Filled := by
  cases s with
  | input path => cases valueless
  | output path => cases valueless
  | _ => trivial

/-- Of settings with different options, each has one that those before it have not. -/
theorem new_of_once {later : List Setting} (once : ((done ++ s :: later).map Setting.switch).Nodup) :
    s.switch ∉ done.map Setting.switch := by
  rw [List.map_append, List.map_cons, List.nodup_append] at once
  exact fun mem => once.2.2 _ mem _ List.mem_cons_self rfl

/-- The long name of an option, behind which a value may be attached, makes the option that waits
count. -/
theorem long_of_settle (settles : scan.settle = .ok settled) {switch : Switch} :
    scan.long switch.long value =
      if switch.takesValue then
        match value with
        | some _ => settled.apply switch value
        | none => .ok { settled with waiting := some (switch, none) }
      else if value.isSome then .error .tooManyValues
      else settled.apply switch none := by
  rw [long, Switch.ofLong?_long]
  simp only [settles, ok_bind]
  rfl

/-- So does a letter; and one of an option that takes a value takes all that follows. -/
theorem letters_of_settle (settles : scan.settle = .ok settled) {switch : Switch} {c : Char}
    (letter : switch.letter? = some c) (cs : List Char) :
    scan.letters (c :: cs) =
      if switch.takesValue then
        if cs = [] then .ok { settled with waiting := some (switch, none) }
        else settled.apply switch (some (attached cs))
      else settled.apply switch none >>= fun next => next.letters cs := by
  rw [letters, Switch.ofLetter?_letter letter]
  simp only [settles, ok_bind]
  rfl

/-- Letters of options without values add their settings. -/
theorem Has.flags {cs : List Char} {flags : List Setting}
    (letters : List.Forall₂ Setting.Flag cs flags) (h : scan.Has environment done)
    (once : ((done ++ flags).map Setting.switch).Nodup) :
    ∃ next : Scan, (∀ more, scan.letters (cs ++ more) = next.letters more) ∧
      next.Has environment (done ++ flags) := by
  induction letters generalizing scan done with
  | nil => exact ⟨scan, fun _ => rfl, by rwa [List.append_nil]⟩
  | @cons c s cs flags flag _ ih =>
      obtain ⟨settled, settles, holds⟩ := h
      obtain ⟨next, applied, holds⟩ :=
        holds.apply (filled_of_valueless flag.1) (new_of_once once) (reads_none flag.1)
      have shift : done ++ s :: flags = done ++ [s] ++ flags := by simp
      rw [shift] at once ⊢
      obtain ⟨last, same, has⟩ := ih holds.has once
      have valueless : s.switch.takesValue = false := by rw [s.takesValue_switch, flag.1]; rfl
      refine ⟨last, fun more => ?_, has⟩
      rw [List.cons_append, letters_of_settle settles flag.2, valueless, applied, ← same]
      rfl

/-! ### Phrases -/

variable {flags settings : List Setting} {cs : List Char} {c : Char} {v : String}

/-- The letter of an option with a value, behind other letters, waits for the value or takes it. -/
theorem Has.lastLetter (letters : List.Forall₂ Setting.Flag cs flags)
    (letter : s.switch.letter? = some c) (valued : s.value? = some v)
    (h : scan.Has environment done) (once : ((done ++ flags).map Setting.switch).Nodup) :
    ∃ settled : Scan, settled.Holds environment (done ++ flags) ∧
      scan.letters (cs ++ [c]) = .ok { settled with waiting := some (s.switch, none) } ∧
      ∀ d ds, scan.letters (cs ++ c :: d :: ds) =
        settled.apply s.switch (some (attached (d :: ds))) := by
  have takes : s.switch.takesValue = true := by rw [s.takesValue_switch, valued]; rfl
  obtain ⟨next, same, settled, settles, holds⟩ := Has.flags letters h once
  refine ⟨settled, holds, ?_, fun d ds => ?_⟩
  · rw [same, letters_of_settle settles letter, takes]
    rfl
  · rw [same, letters_of_settle settles letter, takes]
    rfl

/-- Letters whose last one takes a value that is attached to it add their settings. -/
theorem Has.attachedCluster {arg : String} {d : Char} {ds : List Char}
    (letters : List.Forall₂ Setting.Flag cs flags) (letter : s.switch.letter? = some c)
    (valued : s.value? = some (attached (d :: ds))) (text : arg.toList = '-' :: (cs ++ c :: d :: ds))
    (h : scan.Has environment done) (once : ((done ++ flags ++ [s]).map Setting.switch).Nodup)
    (filled : s.Filled) (rest : List Argument) :
    ∃ next : Scan, scan.arguments (Argument.ofString arg :: rest) = next.arguments rest ∧
      next.Has environment (done ++ flags ++ [s]) := by
  obtain ⟨settled, holds, _, takes⟩ := Has.lastLetter letters letter valued h
    (once.sublist ((List.sublist_append_left _ _).map _))
  obtain ⟨next, applied, holds⟩ := holds.apply filled (new_of_once once) (reads_value valued)
  refine ⟨next, ?_, holds.has⟩
  rw [Argument.ofString_cluster letters letter text, arguments, takes, applied]
  rfl

/-- **A phrase adds its settings** to what a scan has met. -/
theorem Has.phrase {args : List String} (phrase : Phrase args settings)
    (h : scan.Has environment done) (once : ((done ++ settings).map Setting.switch).Nodup)
    (filled : ∀ s ∈ settings, s.Filled) (rest : List Argument) :
    ∃ next : Scan, scan.arguments (args.map Argument.ofString ++ rest) = next.arguments rest ∧
      next.Has environment (done ++ settings) := by
  cases phrase with
  | @flag s valueless =>
      obtain ⟨settled, settles, holds⟩ := h
      obtain ⟨next, applied, holds⟩ :=
        holds.apply (filled_of_valueless valueless) (new_of_once once) (reads_none valueless)
      have takesNone : s.switch.takesValue = false := by rw [s.takesValue_switch, valueless]; rfl
      refine ⟨next, ?_, holds.has⟩
      rw [List.map_singleton, List.singleton_append, Argument.ofString_name, arguments,
        long_of_settle settles, takesNone, applied]
      rfl
  | @named s v valued alone =>
      obtain ⟨settled, settles, holds⟩ := h
      have takes : s.switch.takesValue = true := by rw [s.takesValue_switch, valued]; rfl
      refine ⟨_, ?_, holds.has_waiting (filled s List.mem_cons_self) (new_of_once once)
        (reads_value valued)⟩
      rw [List.map_cons, List.map_singleton, Argument.ofString_name, Argument.ofString_value alone,
        List.cons_append, arguments, long_of_settle settles, takes]
      rfl
  | @assigned s v valued =>
      obtain ⟨settled, settles, holds⟩ := h
      obtain ⟨next, applied, holds⟩ :=
        holds.apply (filled s List.mem_cons_self) (new_of_once once) (reads_value valued)
      have takes : s.switch.takesValue = true := by rw [s.takesValue_switch, valued]; rfl
      refine ⟨next, ?_, holds.has⟩
      rw [List.map_singleton, List.singleton_append, Argument.ofString_assigned, arguments,
        long_of_settle settles, takes, applied]
      rfl
  | bare =>
      -- the option goes on waiting; no value follows, so it counts as the plain format
      obtain ⟨settled, settles, holds⟩ := h
      have filled : (Setting.format .plain).Filled := trivial
      refine ⟨_, ?_, holds.has_waiting filled (new_of_once once) reads_bare⟩
      rw [List.map_singleton, List.singleton_append, Argument.ofString_name, arguments,
        long_of_settle settles]
      rfl
  | cluster some letters =>
      obtain ⟨next, same, has⟩ := Has.flags letters h once
      refine ⟨next, ?_, has⟩
      cases letters with
      | nil => exact absurd rfl some
      | @cons c s cs flags flag letters =>
          have text : ("-" ++ String.ofList (c :: cs)).toList = '-' :: c :: cs := by simp
          rw [List.map_singleton, List.singleton_append,
            Argument.ofString_letters text (Argument.ne_dash_of_letter flag.2), arguments,
            ← List.append_nil (c :: cs), same]
          rfl
  | @clusterNamed cs flags s c v letters letter valued alone =>
      rw [← List.append_assoc] at once ⊢
      obtain ⟨settled, holds, waits, _⟩ := Has.lastLetter letters letter valued h
        (once.sublist ((List.sublist_append_left _ _).map _))
      have text : ("-" ++ String.ofList (cs ++ [c])).toList = '-' :: (cs ++ [c]) := by simp
      refine ⟨_, ?_, holds.has_waiting (filled s (by simp)) (new_of_once once)
        (reads_value valued)⟩
      rw [List.map_cons, List.map_singleton, Argument.ofString_cluster letters letter text,
        Argument.ofString_value alone, List.cons_append, arguments, waits]
      rfl
  | @clusterAssigned cs flags s c v letters letter valued =>
      rw [← List.append_assoc] at once ⊢
      have value : attached ('=' :: v.toList) = v := String.ofList_toList
      exact Has.attachedCluster letters letter (by rwa [value]) (by simp) h once
        (filled s (by simp)) rest
  | @clusterAttached cs flags s c v letters letter valued some plain =>
      rw [← List.append_assoc] at once ⊢
      obtain ⟨d, ds, chars⟩ := List.exists_cons_of_ne_nil (mt String.toList_eq_nil_iff.1 some)
      have value : attached (d :: ds) = v := by
        rw [chars, List.head?_cons, Ne, Option.some.injEq] at plain
        rw [attached, ← chars, String.ofList_toList]
        exact fun _ same => plain (List.cons.inj same).1
      exact Has.attachedCluster letters letter (by rwa [value]) (by simp [chars]) h once
        (filled s (by simp)) rest

/-- **Arguments that write settings make a scan of these settings.** -/
theorem Has.written {args : List String} (written : Written args settings)
    (h : scan.Has environment done) (once : ((done ++ settings).map Setting.switch).Nodup)
    (filled : ∀ s ∈ settings, s.Filled) :
    ∃ last : Scan, scan.arguments (args.map Argument.ofString) = .ok last ∧
      last.Holds environment (done ++ settings) := by
  induction written generalizing scan done with
  | nil =>
      obtain ⟨settled, settles, holds⟩ := h
      exact ⟨settled, settles, by rwa [List.append_nil]⟩
  | @append args later settings more phrase _ ih =>
      rw [← List.append_assoc] at once ⊢
      obtain ⟨next, same, has⟩ := h.phrase phrase
        (once.sublist ((List.sublist_append_left _ _).map _))
        (fun s hs => filled s (List.mem_append_left _ hs)) (later.map Argument.ofString)
      rw [List.map_append, same]
      exact ih has once fun s hs => filled s (List.mem_append_right _ hs)

end Scan

/-! ### What arguments give -/

namespace Options

variable {environment : Option String} {settings settings' : List Setting}
  {args args' : List String} {o : Options}

/-- Arguments that write settings give the options with just these settings. -/
theorem parse_written (environment : Option String) (written : Written args settings)
    (once : (settings.map Setting.switch).Nodup) (filled : ∀ s ∈ settings, s.Filled) :
    ∃ o, parse environment args = .ok o ∧ o.Carry environment settings := by
  obtain ⟨last, scanned, holds⟩ :=
    (Scan.holds_initial environment).has.written written once filled
  refine ⟨last.options, ?_, holds.options⟩
  rw [parse, scanned]
  rfl

/-- As many options choose the format as settings do. -/
theorem Carry.formatChoices_eq (h : o.Carry environment settings)
    (once : (settings.map Setting.switch).Nodup) :
    o.formatChoices = (settings.filterMap Setting.format?).length := by
  have json : o.json = decide (Switch.json ∈ settings.map Setting.switch) := by
    rw [Bool.eq_iff_iff, h.json, decide_eq_true_iff]
    exact (Setting.mem_switches_iff rfl (by rintro ⟨⟩ ⟨⟩; rfl)).symm
  have plain : o.plain = decide (Switch.plain ∈ settings.map Setting.switch) := by
    rw [Bool.eq_iff_iff, h.plain, decide_eq_true_iff]
    exact (Setting.mem_switches_iff rfl (by rintro ⟨⟩ ⟨⟩; rfl)).symm
  have format : o.format.isSome = decide (Switch.format ∈ settings.map Setting.switch) := by
    rw [Bool.eq_iff_iff, Option.isSome_iff_exists, decide_eq_true_iff, List.mem_map]
    constructor
    · rintro ⟨f, chosen⟩
      exact ⟨_, (h.format f).1 chosen, rfl⟩
    · rintro ⟨s, hs, same⟩
      cases s <;> cases same
      exact ⟨_, (h.format _).2 hs⟩
  -- both sides count three options: those that choose the format, and those that settings have
  have choosing : ([.json, .plain, .format] : List Switch).Nodup := by decide
  have perm : ((settings.map Setting.switch).filter (· ∈ [.json, .plain, .format])).Perm
      (([.json, .plain, .format] : List Switch).filter (· ∈ settings.map Setting.switch)) := by
    rw [List.perm_ext_iff_of_nodup (once.filter _) (choosing.filter _)]
    intro switch
    simp only [List.mem_filter, decide_eq_true_iff]
    exact and_comm
  calc o.formatChoices
      = [.json, .plain, .format].countP (· ∈ settings.map Setting.switch) := by
        rw [formatChoices, json, plain, format]
        simp only [List.count_cons, List.count_nil, List.countP_cons, List.countP_nil, beq_iff_eq]
    _ = (settings.map Setting.switch).countP (· ∈ [.json, .plain, .format]) := by
        rw [List.countP_eq_length_filter, List.countP_eq_length_filter, perm.length_eq]
    _ = (settings.filterMap Setting.format?).length := by
        rw [List.length_filterMap_eq_countP, List.countP_map]
        simp only [Setting.isSome_format?]
        rfl

/-- The format of options is one that settings choose, or the plain one if they choose none. -/
theorem Carry.outputFormat_mem (h : o.Carry environment settings) :
    o.outputFormat ∈ settings.filterMap Setting.format? ∨
      settings.filterMap Setting.format? = [] ∧ o.outputFormat = .plain := by
  have chosen : ∀ {s f}, s ∈ settings → s.format? = some f →
      f ∈ settings.filterMap Setting.format? := fun mem chooses =>
    List.mem_filterMap.2 ⟨_, mem, chooses⟩
  rw [outputFormat]
  by_cases json : o.json = true
  · rw [if_pos json]
    exact .inl (chosen (h.json.1 json) rfl)
  by_cases plain : o.plain = true
  · rw [if_neg json, if_pos plain]
    exact .inl (chosen (h.plain.1 plain) rfl)
  rw [if_neg json, if_neg plain]
  cases format : o.format with
  | some f => exact .inl (chosen ((h.format f).1 format) rfl)
  | none =>
      refine .inr ⟨List.filterMap_eq_nil_iff.2 fun s hs => ?_, rfl⟩
      cases s with
      | json => exact absurd (h.json.2 hs) json
      | plain => exact absurd (h.plain.2 hs) plain
      | format f => cases format.symm.trans ((h.format f).2 hs)
      | _ => rfl

/-- What becomes of options with just these settings. -/
structure Decided (o : Options) (settings : List Setting) : Prop where
  /-- They are refused for a conflict exactly if several settings choose the format. -/
  conflict : o.resolve = .error .formatConflict ↔
    1 < (settings.filterMap Setting.format?).length
  /-- Else they are refused exactly if the version is blank. -/
  blank : o.resolve = .error .blankVersion ↔
    (settings.filterMap Setting.format?).length ≤ 1 ∧ ∀ c ∈ o.specVersion.toList, Text.isBlank c = true
  /-- The format of a run is the one that a setting chooses, or the plain one. -/
  format : ∀ config, o.resolve = .ok config →
    settings.filterMap Setting.format? = [config.format] ∨
      settings.filterMap Setting.format? = [] ∧ config.format = .plain
  /-- The version of a run says something, and has no blank at either end. -/
  version : ∀ config, o.resolve = .ok config →
    config.specVersion ≠ "" ∧ Text.startsBlank config.specVersion = false ∧
      Text.endsBlank config.specVersion = false

/-- Options are refused for one reason, or give their format and their version without blanks at its
ends. -/
theorem resolve_cases (o : Options) :
    (o.resolve = .error .formatConflict ∧ 1 < o.formatChoices) ∨
    (o.resolve = .error .blankVersion ∧ o.formatChoices ≤ 1 ∧ Text.trim o.specVersion = "") ∨
    ∃ config, o.resolve = .ok config ∧ o.formatChoices ≤ 1 ∧ Text.trim o.specVersion ≠ "" ∧
      config.format = o.outputFormat ∧ config.specVersion = Text.trim o.specVersion := by
  unfold resolve
  by_cases conflict : 1 < o.formatChoices
  · rw [if_pos conflict]
    exact .inl ⟨rfl, conflict⟩
  rw [if_neg conflict]
  by_cases blank : Text.trim o.specVersion = ""
  · rw [if_pos blank]
    exact .inr (.inl ⟨rfl, Nat.not_lt.1 conflict, blank⟩)
  · rw [if_neg blank]
    exact .inr (.inr ⟨_, rfl, Nat.not_lt.1 conflict, blank, rfl, rfl⟩)

theorem Carry.decided (h : o.Carry environment settings)
    (once : (settings.map Setting.switch).Nodup) : o.Decided settings := by
  have choices := h.formatChoices_eq once
  rcases o.resolve_cases with ⟨refused, several⟩ | ⟨refused, few, blank⟩ |
    ⟨config, resolved, few, filled, format, version⟩
  · rw [choices] at several
    constructor
    · exact iff_of_true refused several
    · exact iff_of_false (by simp [refused]) fun few => absurd several (Nat.not_lt.2 few.1)
    · intro config resolved
      cases refused.symm.trans resolved
    · intro config resolved
      cases refused.symm.trans resolved
  · rw [choices] at few
    constructor
    · exact iff_of_false (by simp [refused]) (Nat.not_lt.2 few)
    · exact iff_of_true refused ⟨few, Text.trim_eq_empty_iff.1 blank⟩
    · intro config resolved
      cases refused.symm.trans resolved
    · intro config resolved
      cases refused.symm.trans resolved
  · rw [choices] at few
    constructor
    · exact iff_of_false (by simp [resolved]) (Nat.not_lt.2 few)
    · exact iff_of_false (by simp [resolved]) fun refused =>
        filled (Text.trim_eq_empty_iff.2 refused.2)
    · intro config' resolved'
      cases resolved.symm.trans resolved'
      rw [format]
      refine h.outputFormat_mem.imp_left fun mem => ?_
      obtain ⟨f, only⟩ := List.length_eq_one_iff.1
        (le_antisymm few (List.length_pos_of_mem mem))
      rw [only, List.mem_singleton] at mem
      rw [only, mem]
    · intro config' resolved'
      cases resolved.symm.trans resolved'
      rw [version]
      exact ⟨filled, Text.startsBlank_trim _, Text.endsBlank_trim _⟩

/-- **Neither the order of settings nor their wording matters.**  Let two lists of arguments write the
same settings, each of another option, in any order and in any words.  They give the same options,
which have just these settings, and so the same configuration or the same refusal.  If there is a
configuration, its format is the one that a setting chooses, or the plain one if none does, and its
version says something and has no blank at either end. -/
theorem parse_reworded (environment : Option String) (once : (settings.map Setting.switch).Nodup)
    (filled : ∀ s ∈ settings, s.Filled) (same : settings.Perm settings')
    (written : Written args settings) (written' : Written args' settings') :
    ∃ o, parse environment args = .ok o ∧ parse environment args' = .ok o ∧
      o.Carry environment settings ∧ o.Decided settings := by
  obtain ⟨o, parsed, carry⟩ := parse_written environment written once filled
  obtain ⟨o', parsed', carry'⟩ := parse_written environment written'
    ((same.map _).nodup_iff.1 once) fun s hs => filled s (same.mem_iff.2 hs)
  have eq : o = o' := carry.unique carry' fun s => same.mem_iff
  rw [← eq] at parsed'
  exact ⟨o, parsed, parsed', carry, carry.decided once⟩

/-- Four settings in two orders and wordings, one of which has the option for the format alone. -/
theorem parse_four_settings :
    Written ["-qi", "a b", "--format", "-o=-"]
        [.quiet, .input "a b", .format .plain, .output "-"] ∧
      Written ["--output", "-", "--format=plain", "--input=a b", "--quiet"]
        [.output "-", .format .plain, .input "a b", .quiet] ∧
      ∃ o config, parse (some " 3.0") ["-qi", "a b", "--format", "-o=-"] = .ok o ∧
        parse (some " 3.0") ["--output", "-", "--format=plain", "--input=a b", "--quiet"] = .ok o ∧
        o = ⟨true, false, false, some .plain, some "a b", some "-", " 3.0"⟩ ∧
        o.resolve = .ok config ∧ config.format = .plain ∧ config.specVersion = "3.0" := by
  have letters : Phrase ["-qi", "a b"] [.quiet, .input "a b"] :=
    @Phrase.clusterNamed ['q'] [.quiet] (.input "a b") 'i' "a b" (.cons ⟨rfl, rfl⟩ .nil) rfl rfl
      (.inr (by decide))
  have alone : Phrase ["--format"] [.format .plain] := .bare
  have letter : Phrase ["-o=-"] [.output "-"] :=
    @Phrase.clusterAssigned [] [] (.output "-") 'o' "-" .nil rfl rfl
  have output : Phrase ["--output", "-"] [.output "-"] :=
    @Phrase.named (.output "-") "-" rfl (.inl rfl)
  have format : Phrase ["--format=plain"] [.format .plain] :=
    @Phrase.assigned (.format .plain) "plain" rfl
  have input : Phrase ["--input=a b"] [.input "a b"] :=
    @Phrase.assigned (.input "a b") "a b" rfl
  have quiet : Phrase ["--quiet"] [.quiet] := @Phrase.flag .quiet rfl
  have written : Written ["-qi", "a b", "--format", "-o=-"]
      [.quiet, .input "a b", .format .plain, .output "-"] :=
    .append letters (.append alone (.append letter .nil))
  have written' : Written ["--output", "-", "--format=plain", "--input=a b", "--quiet"]
      [.output "-", .format .plain, .input "a b", .quiet] :=
    .append output (.append format (.append input (.append quiet .nil)))
  obtain ⟨o, parsed, parsed', carry, decided⟩ := parse_reworded (some " 3.0") (by decide)
    (by simp [Setting.Filled]) (List.reverse_perm _).symm written written'
  have options : o = ⟨true, false, false, some .plain, some "a b", some "-", " 3.0"⟩ :=
    (Except.ok.inj parsed).symm
  subst options
  refine ⟨written, written', _, _, parsed, parsed', rfl, rfl, ?_, rfl⟩
  rcases decided.format _ rfl with chosen | ⟨none, _⟩
  · exact (List.cons.inj chosen).1.symm
  · cases none

end Options

end Compliance
