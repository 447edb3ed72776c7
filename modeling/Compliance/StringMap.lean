/-
**Ordered maps with string keys.**

A map is kept as its entries in strictly ascending order of their keys.  Putting a key that is
there already replaces its value, so in a list of entries the last one for a key counts.

Main definitions:

* `StringMap` — entries in strictly ascending order of their keys;
* `StringMap.insert`, `StringMap.ofList` — building maps;
* `StringMap.map`, `StringMap.keys`, `StringMap.values`, `StringMap.get?` — views.

Main results:

* `StringMap.get?_insert_self`, `StringMap.get?_insert_of_ne` — what is found after an insertion.
-/

set_option relaxedAutoImplicit false
set_option autoImplicit false

namespace Compliance

/-- A map from strings, as its entries in strictly ascending order of their keys. -/
structure StringMap (α : Type) where
  /-- The entries in ascending order of their keys. -/
  toList : List (String × α)
  /-- Each key is below all later ones. -/
  ascending : toList.Pairwise (·.1 < ·.1)

namespace StringMap

variable {α β : Type}

instance [DecidableEq α] : DecidableEq (StringMap α) := fun m n =>
  decidable_of_iff (m.toList = n.toList) ⟨fun h => by cases m; cases n; congr, fun h => h ▸ rfl⟩

/-- The number of keys. -/
def size (m : StringMap α) : Nat := m.toList.length

/-- Whether the map has no key. -/
def isEmpty (m : StringMap α) : Bool := m.toList.isEmpty

/-- The map without keys. -/
def empty : StringMap α := ⟨[], List.Pairwise.nil⟩

instance : EmptyCollection (StringMap α) := ⟨empty⟩
instance : Inhabited (StringMap α) := ⟨empty⟩

@[simp] theorem toList_empty : (∅ : StringMap α).toList = [] := rfl

/-- The keys in ascending order. -/
def keys (m : StringMap α) : List String := m.toList.map (·.1)

/-- The values in the order of their keys. -/
def values (m : StringMap α) : List α := m.toList.map (·.2)

/-- The value of a key. -/
def get? (m : StringMap α) (key : String) : Option α := m.toList.lookup key

/-! ### Insertion -/

/-- Puts an entry in its place in an ascending list, instead of one with the same key. -/
def place (key : String) (value : α) : List (String × α) → List (String × α)
  | [] => [(key, value)]
  | e :: es =>
    if key < e.1 then (key, value) :: e :: es
    else if key = e.1 then (key, value) :: es
    else e :: place key value es

theorem key_of_mem_place {key : String} {value : α} {es : List (String × α)} {e : String × α}
    (h : e ∈ place key value es) : e.1 = key ∨ e ∈ es := by
  induction es with
  | nil => simp_all [place]
  | cons d ds ih => simp only [place] at h; grind

theorem place_ascending {key : String} {value : α} {es : List (String × α)}
    (h : es.Pairwise (·.1 < ·.1)) : (place key value es).Pairwise (·.1 < ·.1) := by
  induction es with
  | nil => simp [place]
  | cons d ds ih =>
    obtain ⟨below, rest⟩ := List.pairwise_cons.1 h
    simp only [place]
    split
    · rename_i lt
      exact List.pairwise_cons.2 ⟨fun z hz => by
        rcases List.mem_cons.1 hz with rfl | hz
        · exact lt
        · exact String.lt_trans lt (below z hz), h⟩
    · split
      · rename_i eq
        exact List.pairwise_cons.2 ⟨fun z hz => eq ▸ below z hz, rest⟩
      · rename_i notLt ne
        have above : d.1 < key := Std.lt_of_le_of_ne (String.not_lt.1 notLt) (Ne.symm ne)
        refine List.pairwise_cons.2 ⟨fun z hz => ?_, ih rest⟩
        rcases key_of_mem_place hz with e | hz
        · exact e ▸ above
        · exact below z hz

/-- The map with a value for a key, instead of any that it had. -/
def insert (key : String) (value : α) (m : StringMap α) : StringMap α :=
  ⟨place key value m.toList, place_ascending m.ascending⟩

theorem lookup_place_self (key : String) (value : α) (es : List (String × α)) :
    (place key value es).lookup key = some value := by
  induction es with
  | nil => simp [place]
  | cons d ds ih =>
    simp only [place]
    split
    · simp
    · split
      · simp
      · rename_i ne
        have apart : (key == d.1) = false := beq_false_of_ne ne
        rw [List.lookup_cons, apart, ih]

theorem lookup_place_of_ne {key other : String} (h : other ≠ key) (value : α)
    (es : List (String × α)) : (place key value es).lookup other = es.lookup other := by
  have apart : (other == key) = false := beq_false_of_ne h
  induction es with
  | nil => simp [place, List.lookup_cons, apart]
  | cons d ds ih =>
    simp only [place]
    split
    · rw [List.lookup_cons, apart]
    · split
      · rename_i eq
        rw [List.lookup_cons, List.lookup_cons, apart, ← eq, apart]
      · rw [List.lookup_cons, List.lookup_cons, ih]

/-- The value put for a key is found. -/
@[simp] theorem get?_insert_self (key : String) (value : α) (m : StringMap α) :
    (m.insert key value).get? key = some value := lookup_place_self key value m.toList

/-- The values of other keys stay. -/
theorem get?_insert_of_ne {key other : String} (h : other ≠ key) (value : α) (m : StringMap α) :
    (m.insert key value).get? other = m.get? other := lookup_place_of_ne h value m.toList

/-- The map of a list of entries; of several for one key the last one counts. -/
def ofList (entries : List (String × α)) : StringMap α :=
  entries.foldl (fun m e => m.insert e.1 e.2) ∅

/-! ### Values -/

/-- The map with each value replaced by a function of it. -/
def map (f : α → β) (m : StringMap α) : StringMap β :=
  ⟨m.toList.map fun e => (e.1, f e.2), m.ascending.map _ fun _ _ h => h⟩

@[simp] theorem toList_map (f : α → β) (m : StringMap α) :
    (m.map f).toList = m.toList.map fun e => (e.1, f e.2) := rfl

@[simp] theorem keys_map (f : α → β) (m : StringMap α) : (m.map f).keys = m.keys := by
  simp [keys, Function.comp_def]

end StringMap

end Compliance
