/-
**Records in JSON.**

A record has named fields, each with a type of its own.  It is written as an object, whose unknown
members are passed over, or as an array of its fields in the order of their declaration.

Main definitions:

* `Schema` — the fields of a record, and how each is read;
* `Entry` — a field with its value, or a member that the record does not know;
* `entries` — reads a record as its entries, in the order in which they stand;
* `Entry.value?` — the value of a field among entries;
* `record` — reads a record all of whose fields must be given.
-/

import Compliance.Json.Skip
import Compliance.Json.Typed

set_option relaxedAutoImplicit false
set_option autoImplicit false

namespace Compliance.Json

/-- The fields of a record and how they are read. -/
structure Schema where
  /-- The name of the record in messages. -/
  name : String
  /-- The fields. -/
  Field : Type
  /-- Fields can be told apart. -/
  decidableField : DecidableEq Field
  /-- The fields in the order of their declaration. -/
  fields : List Field
  /-- Every field is declared. -/
  mem_fields : ∀ f, f ∈ fields
  /-- The key of a field. -/
  key : Field → String
  /-- The type of a field's values. -/
  Value : Field → Type
  /-- Reads the value of a field. -/
  read : (f : Field) → Reader (Value f)

namespace Schema

instance (S : Schema) : DecidableEq S.Field := S.decidableField

/-- What a record is called in a message. -/
def expectation (S : Schema) : String := "struct " ++ S.name

/-- What an array of too few fields is measured against in a message. -/
def lengthExpectation (S : Schema) : String :=
  S.expectation ++ " with " ++ toString S.fields.length ++ " elements"

/-- The field with a key. -/
def field? (S : Schema) (key : String) : Option S.Field := S.fields.find? (S.key · = key)

end Schema

/-- What stands in a record: a field with its value, or an unknown member. -/
inductive Entry (S : Schema)
  /-- A field with its value. -/
  | known (f : S.Field) (value : S.Value f)
  /-- A member whose key is not that of a field. -/
  | unknown (key : String)

namespace Entry

variable {S : Schema}

/-- The field of an entry. -/
def field? : Entry S → Option S.Field
  | known f _ => some f
  | unknown _ => none

/-- The value that an entry gives to a field. -/
def valueOf? (f : S.Field) : Entry S → Option (S.Value f)
  | known g value => if h : g = f then some (h ▸ value) else none
  | unknown _ => none

@[simp] theorem valueOf?_known (f : S.Field) (value : S.Value f) :
    valueOf? f (known f value) = some value := by
  simp [valueOf?]

theorem valueOf?_known_of_ne {f g : S.Field} (h : g ≠ f) (value : S.Value g) :
    valueOf? f (known g value) = none := by
  simp [valueOf?, h]

@[simp] theorem valueOf?_unknown (f : S.Field) (key : String) :
    valueOf? f (unknown key : Entry S) = none := rfl

/-- The value of a field among entries. -/
def value? (entries : List (Entry S)) (f : S.Field) : Option (S.Value f) :=
  entries.findSome? (valueOf? f)

end Entry

/-! ### Entries -/

/-- Reads the members of a record up to the closing brace.  `given` holds the fields given before.
A field given twice is a fault at the byte after its second key.  The second argument bounds the
number of members. -/
def recordMembersWithin (S : Schema) (ending : Ending) :
    Nat → List S.Field → Bool → List UInt8 → Except Fault (List (Entry S) × List UInt8)
  | 0, _, _, s => .error (.before .expectedValue s)
  | fuel + 1, given, first, s => do
    match ← nextMember ending first s with
    | .closed rest => return ([], rest)
    | .more s =>
      let (key, s) ← literal ending s
      match S.field? key with
      | some f =>
        if f ∈ given then throw (.seeing (.duplicateField key) (skipBlank s))
        let s ← colon ending s
        let (value, s) ← S.read f ending s
        let (entries, rest) ← recordMembersWithin S ending fuel (f :: given) false s
        return (.known f value :: entries, rest)
      | none =>
        let s ← colon ending s
        let s ← skip ending s
        let (entries, rest) ← recordMembersWithin S ending fuel given false s
        return (.unknown key :: entries, rest)

/-- Reads the given fields as the elements of an array: the entries up to the last field or to the
closing bracket, whichever comes first. -/
def recordElements (S : Schema) (ending : Ending) :
    Bool → List S.Field → List UInt8 → Except Fault (List (Entry S) × List UInt8)
  | _, [], s => (closeList ending s).map ([], ·)
  | first, f :: fs, s => do
    match ← nextElement ending first s with
    | .closed rest => return ([], rest)
    | .more s =>
      let (value, s) ← S.read f ending s
      let (entries, rest) ← recordElements S ending false fs s
      return (.known f value :: entries, rest)

/-- The two ways to write a record. -/
inductive Form
  | object
  | array
  deriving DecidableEq, Repr

/-- Reads a record as its entries and tells how it was written. -/
def formedEntries (S : Schema) : Reader (Form × List (Entry S)) := fun ending s =>
  match skipBlank s with
  | [] => .error (ending.stop (.endWithin .value))
  | b :: s =>
    if b = byte '{' then do
      let (entries, rest) ← recordMembersWithin S ending (s.length + 1) [] true s
      return ((.object, entries), rest)
    else if b = byte '[' then do
      let (entries, rest) ← recordElements S ending true S.fields s
      return ((.array, entries), rest)
    else .error (mismatch ending S.expectation (b :: s))

/-- Reads a record as its entries. -/
def entries (S : Schema) : Reader (List (Entry S)) := mapped (·.2) (formedEntries S)

/-! ### Complete records -/

/-- The first field without a value. -/
def missing? {S : Schema} (entries : List (Entry S)) : Option S.Field :=
  S.fields.find? fun f => (Entry.value? entries f).isNone

theorem isSome_value?_of_missing?_eq_none {S : Schema} {entries : List (Entry S)}
    (h : missing? entries = none) (f : S.Field) : (Entry.value? entries f).isSome = true := by
  have := List.find?_eq_none.1 h f (S.mem_fields f)
  simpa [Option.isSome_iff_ne_none] using this

/-- The cause of a record that lacks a field, by the way it was written. -/
def incomplete (S : Schema) (form : Form) (given : Nat) (f : S.Field) : Cause :=
  match form with
  | .object => .missingField (S.key f)
  | .array => .invalidLength given S.lengthExpectation

/-- Reads a record all of whose fields must be given.  A field that is not given is a fault at the
closing byte. -/
def record (S : Schema) : Reader ((f : S.Field) → S.Value f) := fun ending s => do
  let ((form, entries), rest) ← formedEntries S ending s
  match h : missing? entries with
  | some f => throw (.before (incomplete S form entries.length f) rest)
  | none =>
    return (fun f => (Entry.value? entries f).get (isSome_value?_of_missing?_eq_none h f), rest)

end Compliance.Json
