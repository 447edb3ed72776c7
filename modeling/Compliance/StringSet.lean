/-
**Ordered sets of strings.**

A set of strings is kept as its elements in strictly ascending order, so two sets with the same
elements are equal.  Strings are compared by their code points, which is also the order of their
UTF-8 bytes.

Main definitions:

* `StringSet` — a strictly ascending list of strings;
* `StringSet.insert`, `StringSet.ofList` — building sets;
* `StringSet.inter`, `StringSet.diff` — intersection and difference.

Main results:

* `StringSet.mem_ofList` — a set built from a list has the elements of the list;
* `StringSet.ext_mem` — sets with the same elements are equal.
-/

set_option relaxedAutoImplicit false
set_option autoImplicit false

namespace Compliance

/-- A set of strings, as its elements in strictly ascending order. -/
structure StringSet where
  /-- The elements in ascending order. -/
  toList : List String
  /-- Each element is below all later ones. -/
  ascending : toList.Pairwise (· < ·)
  deriving DecidableEq

namespace StringSet

instance : Membership String StringSet := ⟨fun s x => x ∈ s.toList⟩

theorem mem_def {s : StringSet} {x : String} : x ∈ s ↔ x ∈ s.toList := Iff.rfl

instance (s : StringSet) (x : String) : Decidable (x ∈ s) :=
  inferInstanceAs (Decidable (x ∈ s.toList))

/-- The number of elements. -/
def size (s : StringSet) : Nat := s.toList.length

/-- Whether the set has no element. -/
def isEmpty (s : StringSet) : Bool := s.toList.isEmpty

/-- The set without elements. -/
def empty : StringSet := ⟨[], List.Pairwise.nil⟩

instance : EmptyCollection StringSet := ⟨empty⟩
instance : Inhabited StringSet := ⟨empty⟩

@[simp] theorem toList_empty : (∅ : StringSet).toList = [] := rfl

/-! ### Insertion -/

/-- Puts a string in its place in an ascending list, unless it is there. -/
def place (x : String) : List String → List String
  | [] => [x]
  | y :: ys => if x < y then x :: y :: ys else if x = y then y :: ys else y :: place x ys

@[simp] theorem mem_place {x z : String} {ys : List String} : z ∈ place x ys ↔ z = x ∨ z ∈ ys := by
  induction ys with
  | nil => simp [place]
  | cons y ys ih => simp only [place]; grind

theorem place_ascending {x : String} {ys : List String} (h : ys.Pairwise (· < ·)) :
    (place x ys).Pairwise (· < ·) := by
  induction ys with
  | nil => simp [place]
  | cons y ys ih =>
    obtain ⟨below, rest⟩ := List.pairwise_cons.1 h
    simp only [place]
    split
    · rename_i lt
      exact List.pairwise_cons.2 ⟨fun z hz => by
        rcases List.mem_cons.1 hz with rfl | hz
        · exact lt
        · exact String.lt_trans lt (below z hz), h⟩
    · split
      · exact h
      · rename_i notLt ne
        have above : y < x :=
          Std.lt_of_le_of_ne (String.not_lt.1 notLt) (Ne.symm ne)
        refine List.pairwise_cons.2 ⟨fun z hz => ?_, ih rest⟩
        rcases mem_place.1 hz with rfl | hz
        · exact above
        · exact below z hz

/-- The set with one string more. -/
def insert (x : String) (s : StringSet) : StringSet :=
  ⟨place x s.toList, place_ascending s.ascending⟩

@[simp] theorem mem_insert {x z : String} {s : StringSet} : z ∈ s.insert x ↔ z = x ∨ z ∈ s :=
  mem_place

/-- The set of the strings in a list. -/
def ofList (xs : List String) : StringSet := xs.foldr insert ∅

@[simp] theorem ofList_nil : ofList [] = ∅ := rfl

@[simp] theorem ofList_cons (x : String) (xs : List String) :
    ofList (x :: xs) = (ofList xs).insert x := rfl

@[simp] theorem mem_ofList {z : String} {xs : List String} : z ∈ ofList xs ↔ z ∈ xs := by
  induction xs with
  | nil => simp [mem_def]
  | cons x xs ih => simp [ih]

/-! ### Intersection and difference -/

/-- The elements that satisfy a test. -/
def filter (test : String → Bool) (s : StringSet) : StringSet :=
  ⟨s.toList.filter test, s.ascending.filter test⟩

@[simp] theorem mem_filter {test : String → Bool} {s : StringSet} {x : String} :
    x ∈ s.filter test ↔ x ∈ s ∧ test x = true := List.mem_filter

/-- The elements that two sets share. -/
def inter (s t : StringSet) : StringSet := s.filter (· ∈ t)

/-- The elements of the first set that the second one lacks. -/
def diff (s t : StringSet) : StringSet := s.filter (· ∉ t)

@[simp] theorem mem_inter {s t : StringSet} {x : String} : x ∈ s.inter t ↔ x ∈ s ∧ x ∈ t := by
  simp [inter]

@[simp] theorem mem_diff {s t : StringSet} {x : String} : x ∈ s.diff t ↔ x ∈ s ∧ x ∉ t := by
  simp [diff]

/-! ### Extensionality -/

/-- Sets with the same elements are equal. -/
theorem ext_mem {s t : StringSet} (h : ∀ x, x ∈ s ↔ x ∈ t) : s = t := by
  obtain ⟨xs, hx⟩ := s
  obtain ⟨ys, hy⟩ := t
  simp only [mem_def] at h
  congr 1
  induction xs generalizing ys with
  | nil => cases ys with
    | nil => rfl
    | cons y ys => exact absurd ((h y).2 (by simp)) (by simp)
  | cons x xs ih => cases ys with
    | nil => exact absurd ((h x).1 (by simp)) (by simp)
    | cons y ys =>
      obtain ⟨bx, rx⟩ := List.pairwise_cons.1 hx
      obtain ⟨by', ry⟩ := List.pairwise_cons.1 hy
      have eq : x = y := by
        rcases List.mem_cons.1 ((h x).1 (by simp)) with e | hxy
        · exact e
        · rcases List.mem_cons.1 ((h y).2 (by simp)) with e | hyx
          · exact e.symm
          · exact absurd (bx y hyx) (String.lt_asymm (by' x hxy))
      subst eq
      congr 1
      refine ih rx ys ry fun z => ?_
      have := h z
      simp only [List.mem_cons] at this
      constructor
      · intro hz
        rcases this.1 (Or.inr hz) with rfl | hz'
        · exact absurd (bx z hz) (String.lt_irrefl z)
        · exact hz'
      · intro hz
        rcases this.2 (Or.inr hz) with rfl | hz'
        · exact absurd (by' z hz) (String.lt_irrefl z)
        · exact hz'

end StringSet

end Compliance
