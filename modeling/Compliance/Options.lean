/-
**Command line options.**

Arguments are scanned from left to right.  An option has a long spelling and perhaps a letter, and
letters may stand together after one dash.  An option that takes a value without having one attached
waits for it: the next argument that is no option becomes its value, and the option counts when the
next option is met or the arguments end.

Main definitions:

* `Switch` — the options by name;
* `Argument` — the kinds of arguments;
* `UsageFault` — why arguments are refused, or what they ask for instead of a run;
* `Options`, `Options.parse` — the options that arguments give.
-/

import Compliance.Report

set_option relaxedAutoImplicit false
set_option autoImplicit false

namespace Compliance

/-! ### The options -/

/-- The options by name. -/
inductive Switch
  | quiet
  | json
  | plain
  | format
  | input
  | output
  | specVersion
  | help
  | version
  deriving DecidableEq, Repr

namespace Switch

/-- All options. -/
def all : List Switch :=
  [quiet, json, plain, format, input, output, specVersion, help, version]

/-- The long spelling of an option, without its dashes. -/
def long : Switch → String
  | quiet => "quiet"
  | json => "json"
  | plain => "plain"
  | format => "format"
  | input => "input"
  | output => "output"
  | specVersion => "spec-version"
  | help => "help"
  | version => "version"

/-- The letter of an option, if it has one. -/
def letter? : Switch → Option Char
  | quiet => some 'q'
  | json => some 'j'
  | plain => some 'p'
  | format => none
  | input => some 'i'
  | output => some 'o'
  | specVersion => none
  | help => some 'h'
  | version => some 'V'

/-- Whether an option takes a value. -/
def takesValue : Switch → Bool
  | format | input | output | specVersion => true
  | _ => false

/-- The option with a long spelling. -/
def ofLong? (name : String) : Option Switch := all.find? (·.long = name)

/-- The option with a letter. -/
def ofLetter? (c : Char) : Option Switch := all.find? (·.letter? = some c)

end Switch

/-- The options of a run. -/
structure Options where
  /-- Whether the report is thrown away. -/
  quiet : Bool
  /-- Whether the JSON format is asked for by its own option. -/
  json : Bool
  /-- Whether the plain format is asked for by its own option. -/
  plain : Bool
  /-- The format asked for by name. -/
  format : Option Format
  /-- The file of the snapshot. -/
  input : Option String
  /-- The file of the report. -/
  output : Option String
  /-- The version of the specification, as it was given. -/
  specVersion : String
  deriving DecidableEq, Repr

/-- Why arguments give no options. -/
inductive UsageFault
  /-- An argument that means nothing. -/
  | unknownArgument
  /-- A value for an option that takes none. -/
  | tooManyValues
  /-- A value that an option cannot take, or none where it needs one. -/
  | invalidValue
  /-- An option given twice. -/
  | argumentConflict
  /-- Help is asked for. -/
  | helpWanted
  /-- The version of the program is asked for. -/
  | versionWanted
  deriving DecidableEq, Repr

/-- Whether arguments are at fault, rather than asking for help or the version. -/
def UsageFault.isError : UsageFault → Bool
  | helpWanted | versionWanted => false
  | _ => true

/-! ### Arguments -/

/-- An argument by its kind. -/
inductive Argument
  /-- Two dashes and a name, with a value if one is attached by an equals sign. -/
  | long (name : String) (value : Option String)
  /-- A dash and letters. -/
  | letters (cs : List Char)
  /-- Two dashes alone, after which there are no options. -/
  | terminator
  /-- Anything else. -/
  | value (text : String)
  deriving DecidableEq, Repr

/-- The name and the value of a long option's text. -/
def Argument.ofLongText (cs : List Char) : Argument :=
  match cs.dropWhile (· ≠ '=') with
  | [] => .long (String.ofList cs) none
  | _ :: rest => .long (String.ofList (cs.takeWhile (· ≠ '='))) (some (String.ofList rest))

/-- The kind of an argument. -/
def Argument.ofString (s : String) : Argument :=
  match s.toList with
  | ['-', '-'] => .terminator
  | '-' :: '-' :: cs => .ofLongText cs
  | ['-'] => .value s
  | '-' :: cs => .letters cs
  | _ => .value s

/-! ### Scanning -/

/-- What scanning has found so far. -/
structure Scan where
  /-- The options that count so far. -/
  options : Options
  /-- Their names. -/
  given : List Switch
  /-- The option that waits, with its value if it has got one. -/
  waiting : Option (Switch × Option String)

namespace Scan

/-- A value that must not be empty. -/
def nonEmpty (value : String) : Except UsageFault String :=
  if value = "" then .error .invalidValue else .ok value

/-- The options with one option more and its value.  Without one, the format is plain. -/
def choose (o : Options) (switch : Switch) (value : String) : Except UsageFault Options :=
  match switch with
  | .quiet => .ok { o with quiet := true }
  | .json => .ok { o with json := true }
  | .plain => .ok { o with plain := true }
  | .format =>
    match Format.ofName? value with
    | some format => .ok { o with format := some format }
    | none => .error .invalidValue
  | .input => (nonEmpty value).map fun path => { o with input := some path }
  | .output => (nonEmpty value).map fun path => { o with output := some path }
  | .specVersion => .ok { o with specVersion := value }
  | .help => .error .helpWanted
  | .version => .error .versionWanted

/-- The value of an option that has got none, if it may do without. -/
def valueWithout (switch : Switch) : Except UsageFault String :=
  match switch with
  | .format => .ok Format.plain.name
  | .input | .output | .specVersion => .error .invalidValue
  | _ => .ok ""

/-- Makes an option count: it must have a value if it needs one, and not be given before. -/
def apply (scan : Scan) (switch : Switch) (value : Option String) : Except UsageFault Scan := do
  let value ← match value with
    | some value => pure value
    | none => valueWithout switch
  if switch ∈ scan.given then throw .argumentConflict
  let options ← choose scan.options switch value
  return { options, given := switch :: scan.given, waiting := none }

/-- Makes the option that waits count. -/
def settle (scan : Scan) : Except UsageFault Scan :=
  match scan.waiting with
  | some (switch, value) => { scan with waiting := none }.apply switch value
  | none => .ok scan

/-- Meets an option by its long name.  A value that it cannot take is refused before the option that
waits counts. -/
def long (scan : Scan) (name : String) (value : Option String) : Except UsageFault Scan :=
  match Switch.ofLong? name with
  | none => .error .unknownArgument
  | some switch =>
    if switch.takesValue then do
      let scan ← scan.settle
      match value with
      | some _ => scan.apply switch value
      | none => return { scan with waiting := some (switch, none) }
    else if value.isSome then .error .tooManyValues
    else do
      let scan ← scan.settle
      scan.apply switch none

/-- The value attached to a letter: what follows it, less an equals sign at its front. -/
def attached : List Char → String
  | '=' :: cs => String.ofList cs
  | cs => String.ofList cs

/-- Meets options by their letters.  The first one that takes a value takes all that follows. -/
def letters (scan : Scan) : List Char → Except UsageFault Scan
  | [] => .ok scan
  | c :: cs =>
    match Switch.ofLetter? c with
    | none => .error .unknownArgument
    | some switch => do
      let scan ← scan.settle
      if switch.takesValue then
        if cs = [] then return { scan with waiting := some (switch, none) }
        else scan.apply switch (some (attached cs))
      else
        let scan ← scan.apply switch none
        letters scan cs

/-- Meets a value, which an option must be waiting for. -/
def value (scan : Scan) (text : String) : Except UsageFault Scan :=
  match scan.waiting with
  | some (switch, none) => .ok { scan with waiting := some (switch, some text) }
  | _ => .error .unknownArgument

/-- Scans arguments to their end. -/
def arguments (scan : Scan) : List Argument → Except UsageFault Scan
  | [] => scan.settle
  | .long name value :: rest => do
    let scan ← scan.long name value
    scan.arguments rest
  | .letters cs :: rest => do
    let scan ← scan.letters cs
    scan.arguments rest
  | .terminator :: rest => if rest = [] then scan.settle else .error .unknownArgument
  | .value text :: rest => do
    let scan ← scan.value text
    scan.arguments rest

end Scan

namespace Options

/-- The version of the specification unless another one is given. -/
def defaultVersion : String := "3.3"

/-- The options where no argument is given.  The version comes from the environment, if it is set
there. -/
def initial (environment : Option String) : Options where
  quiet := false
  json := false
  plain := false
  format := none
  input := none
  output := none
  specVersion := environment.getD defaultVersion

/-- The options that arguments give. -/
def parse (environment : Option String) (args : List String) : Except UsageFault Options := do
  let scan ← Scan.arguments ⟨initial environment, [], none⟩ (args.map Argument.ofString)
  return scan.options

end Options

end Compliance
