/-
**Paths and sets of paths.**

A path is written as a text with `/` between its components.  Two paths are the same if they have
the same components once empty ones are dropped, and `.` too unless it is the first one of a
relative path; how a path was spelled is kept.  A set of paths keeps the first spelling of each.

Main definitions:

* `Path.Route` — where a path leads: from the root or not, and its components;
* `Path` — a spelling with its route;
* `PathSet`, `PathSet.ofList` — paths with different routes, in the order they were given.

Main results:

* `PathSet.exists_mem_ofList` — every path of a list has a path of the same route in its set.
-/

import Compliance.StringSet

set_option relaxedAutoImplicit false
set_option autoImplicit false

namespace Compliance

namespace Path

/-- The parts of a path's spelling between slashes. -/
def parts (spelling : String) : List String :=
  (spelling.toList.splitOnP (· == '/')).map String.ofList

/-- Where a path leads. -/
structure Route where
  /-- Whether the path starts at the root. -/
  absolute : Bool
  /-- The components that lead on. -/
  steps : List String
  deriving DecidableEq, Repr

/-- Whether a part leads on: neither empty nor `.`. -/
def leadsOn (part : String) : Bool := part ≠ "" && part ≠ "."

/-- The route of a path with the given parts.  An empty first part before others stands for the
root, and a first part `.` is a component of its own. -/
def Route.ofParts : List String → Route
  | "" :: part :: parts => ⟨true, (part :: parts).filter leadsOn⟩
  | "." :: parts => ⟨false, "." :: parts.filter leadsOn⟩
  | parts => ⟨false, parts.filter leadsOn⟩

/-- The route of a spelled path. -/
def Route.ofSpelling (spelling : String) : Route := .ofParts (parts spelling)

end Path

/-- A path as it was spelled. -/
structure Path where
  /-- The text of the path. -/
  spelling : String
  /-- Where the path leads. -/
  route : Path.Route
  /-- The route is that of the spelling. -/
  route_eq : route = Path.Route.ofSpelling spelling

namespace Path

/-- The path with the given spelling. -/
def ofSpelling (spelling : String) : Path := ⟨spelling, Route.ofSpelling spelling, rfl⟩

@[simp] theorem spelling_ofSpelling (s : String) : (ofSpelling s).spelling = s := rfl

theorem ext_spelling {p q : Path} (h : p.spelling = q.spelling) : p = q := by
  obtain ⟨s, r, hr⟩ := p
  obtain ⟨t, u, hu⟩ := q
  cases h
  cases hr.trans hu.symm
  rfl

instance : DecidableEq Path := fun p q =>
  decidable_of_iff (p.spelling = q.spelling) ⟨ext_spelling, fun h => h ▸ rfl⟩

instance : Inhabited Path := ⟨ofSpelling ""⟩

end Path

/-- A set of paths: no two of them have the same route. -/
structure PathSet where
  /-- The paths in the order of their first mention. -/
  toList : List Path
  /-- No two paths have the same route. -/
  apart : toList.Pairwise fun p q => p.route ≠ q.route
  deriving DecidableEq

namespace PathSet

/-- The set without paths. -/
def empty : PathSet := ⟨[], List.Pairwise.nil⟩

instance : EmptyCollection PathSet := ⟨empty⟩
instance : Inhabited PathSet := ⟨empty⟩

/-- The number of paths. -/
def size (s : PathSet) : Nat := s.toList.length

/-- Whether the set has no path. -/
def isEmpty (s : PathSet) : Bool := s.toList.isEmpty

/-- The first path of each route. -/
def firsts : List Path → List Path
  | [] => []
  | p :: ps => p :: (firsts ps).filter fun q => q.route ≠ p.route

theorem firsts_sublist (ps : List Path) : (firsts ps).Sublist ps := by
  induction ps with
  | nil => exact List.Sublist.refl _
  | cons p ps ih => exact (List.filter_sublist.trans ih).cons_cons p

theorem firsts_apart (ps : List Path) :
    (firsts ps).Pairwise fun p q => p.route ≠ q.route := by
  induction ps with
  | nil => exact List.Pairwise.nil
  | cons p ps ih =>
    refine List.pairwise_cons.2 ⟨fun q hq => ?_, ih.filter _⟩
    have := (List.mem_filter.1 hq).2
    exact fun h => by simp [h] at this

theorem exists_mem_firsts {p : Path} {ps : List Path} (h : p ∈ ps) :
    ∃ q ∈ firsts ps, q.route = p.route := by
  induction ps with
  | nil => simp at h
  | cons r ps ih =>
    by_cases same : p.route = r.route
    · exact ⟨r, by simp [firsts], same.symm⟩
    · rcases List.mem_cons.1 h with rfl | h
      · exact absurd rfl same
      · obtain ⟨q, hq, e⟩ := ih h
        exact ⟨q, by simp [firsts, hq, e, same], e⟩

/-- The set of the paths in a list, each as it was first spelled. -/
def ofList (ps : List Path) : PathSet := ⟨firsts ps, firsts_apart ps⟩

/-- Every path of a list has a path of the same route in its set. -/
theorem exists_mem_ofList {p : Path} {ps : List Path} (h : p ∈ ps) :
    ∃ q ∈ (ofList ps).toList, q.route = p.route := exists_mem_firsts h

/-- The spellings of the paths, in order. -/
def spellings (s : PathSet) : StringSet := .ofList (s.toList.map (·.spelling))

end PathSet

end Compliance
