/-
**Files and spellings in a split.**

Two sets of paths are split three ways by the spellings of their paths.  A path is in a set however
it is spelled there, so the split is one of files only as far as both sets spell a file in the same
way.  A file that they spell differently is listed twice: as lacking copyright information only, and
as lacking licensing information only.

Main definitions:

* `StringSet.Names` — a set of spellings names a path;
* `MissingInfo.Partitions` — each part names the files that it is meant for;
* `MissingInfo.NamesOnce` — no two parts name the same file.

Main results:

* `MissingInfo.split_eq` — what two sets share, and what each of them lacks of the other;
* `MissingInfo.names_both`, `MissingInfo.names_copyrightOnly`, `MissingInfo.names_licensingOnly` —
  which files each part of a split names;
* `MissingInfo.split_partitions_iff` — **a split is one of files exactly if no file is spelled in two
  ways**.
-/

import Compliance.Classification
import Compliance.Proofs.Collections
import Compliance.Snapshot.Document

set_option relaxedAutoImplicit false
set_option autoImplicit false

namespace Compliance

/-! ### Paths in sets -/

/-- A path is in a set if the set has a path of the same route, however that one is spelled. -/
instance : Membership Path PathSet := ⟨fun s p => ∃ q ∈ s.toList, q.route = p.route⟩

theorem PathSet.mem_iff {s : PathSet} {p : Path} : p ∈ s ↔ ∃ q ∈ s.toList, q.route = p.route :=
  Iff.rfl

theorem PathSet.mem_of_mem_toList {s : PathSet} {p : Path} (h : p ∈ s.toList) : p ∈ s := ⟨p, h, rfl⟩

/-- A set has the spelling of a path among its spellings exactly if it has the path itself. -/
theorem PathSet.spelling_mem_spellings {s : PathSet} {p : Path} :
    p.spelling ∈ s.spellings ↔ p ∈ s.toList := by
  rw [mem_spellings, List.mem_map]
  constructor
  · rintro ⟨q, hq, same⟩
    rwa [← Path.ext_spelling same]
  · intro hp
    exact ⟨p, hp, rfl⟩

/-- A set of spellings names a path if one of them leads the same way. -/
def StringSet.Names (s : StringSet) (p : Path) : Prop :=
  ∃ x ∈ s, Path.Route.ofSpelling x = p.route

/-- Some of the spellings of a set of paths name the paths that lead the way of one of them. -/
theorem PathSet.names_filter_spellings {s : PathSet} {test : String → Bool} {p : Path} :
    (s.spellings.filter test).Names p ↔
      ∃ q ∈ s.toList, test q.spelling = true ∧ q.route = p.route := by
  constructor
  · rintro ⟨x, hx, route⟩
    obtain ⟨mem, passed⟩ := StringSet.mem_filter.1 hx
    obtain ⟨q, hq, rfl⟩ := List.mem_map.1 (mem_spellings.1 mem)
    exact ⟨q, hq, passed, q.route_eq.trans route⟩
  · rintro ⟨q, hq, passed, route⟩
    refine ⟨q.spelling, ?_, q.route_eq.symm.trans route⟩
    exact StringSet.mem_filter.2 ⟨spelling_mem_spellings.2 hq, passed⟩

/-- The spellings that two sets share name the files that both have in the same spelling. -/
theorem PathSet.names_inter_spellings {s t : PathSet} {p : Path} :
    (s.spellings.inter t.spellings).Names p ↔
      ∃ q ∈ s.toList, q ∈ t.toList ∧ q.route = p.route := by
  refine names_filter_spellings.trans ?_
  simp only [decide_eq_true_eq, spelling_mem_spellings]

/-- The spellings that one set has and another one lacks name the files that the first one has in such
a spelling. -/
theorem PathSet.names_diff_spellings {s t : PathSet} {p : Path} :
    (s.spellings.diff t.spellings).Names p ↔
      ∃ q ∈ s.toList, q ∉ t.toList ∧ q.route = p.route := by
  refine names_filter_spellings.trans ?_
  simp only [decide_eq_true_eq, spelling_mem_spellings]

namespace MissingInfo

/-! ### The parts of a split -/

/-- A split is what two sets share, and what each of them lacks of the other. -/
theorem split_eq (copyright licensing : StringSet) :
    split copyright licensing =
      ⟨copyright.inter licensing, copyright.diff licensing, licensing.diff copyright⟩ := by
  have licensingOnly : licensing.diff (copyright.inter licensing) = licensing.diff copyright := by
    rw [StringSet.inter_comm, StringSet.diff_inter]
  rw [split, StringSet.diff_inter, licensingOnly]

variable {A B : PathSet} {p : Path}

/-- The first part names the files that both sets have in the same spelling. -/
theorem names_both :
    (split A.spellings B.spellings).both.Names p ↔
      ∃ q ∈ A.toList, q ∈ B.toList ∧ q.route = p.route := by
  rw [split_eq, PathSet.names_inter_spellings]

/-- The second part names the files that the first set has in a spelling that the second one
lacks. -/
theorem names_copyrightOnly :
    (split A.spellings B.spellings).copyrightOnly.Names p ↔
      ∃ q ∈ A.toList, q ∉ B.toList ∧ q.route = p.route := by
  rw [split_eq, PathSet.names_diff_spellings]

/-- The third part names the files that the second set has in a spelling that the first one
lacks. -/
theorem names_licensingOnly :
    (split A.spellings B.spellings).licensingOnly.Names p ↔
      ∃ q ∈ B.toList, q ∉ A.toList ∧ q.route = p.route := by
  rw [split_eq, PathSet.names_diff_spellings]

/-! ### Splits of files -/

/-- Each part names the files that it is meant for: those of both sets, and those of one of them
only. -/
structure Partitions (m : MissingInfo) (A B : PathSet) : Prop where
  both : ∀ p, m.both.Names p ↔ p ∈ A ∧ p ∈ B
  copyrightOnly : ∀ p, m.copyrightOnly.Names p ↔ p ∈ A ∧ p ∉ B
  licensingOnly : ∀ p, m.licensingOnly.Names p ↔ p ∈ B ∧ p ∉ A

/-- No two parts name the same file. -/
structure NamesOnce (m : MissingInfo) : Prop where
  both_copyrightOnly : ∀ p, ¬ (m.both.Names p ∧ m.copyrightOnly.Names p)
  both_licensingOnly : ∀ p, ¬ (m.both.Names p ∧ m.licensingOnly.Names p)
  copyrightOnly_licensingOnly : ∀ p, ¬ (m.copyrightOnly.Names p ∧ m.licensingOnly.Names p)

/-- Parts that name the files that they are meant for never name the same one. -/
theorem Partitions.namesOnce {m : MissingInfo} (h : m.Partitions A B) : m.NamesOnce where
  both_copyrightOnly := fun p ⟨inBoth, inOne⟩ =>
    ((h.copyrightOnly p).1 inOne).2 ((h.both p).1 inBoth).2
  both_licensingOnly := fun p ⟨inBoth, inOne⟩ =>
    ((h.licensingOnly p).1 inOne).2 ((h.both p).1 inBoth).1
  copyrightOnly_licensingOnly := fun p ⟨inOne, inOther⟩ =>
    ((h.copyrightOnly p).1 inOne).2 ((h.licensingOnly p).1 inOther).1

/-- Two sets that spell each file in the same way have the same paths wherever they have the same
file. -/
theorem mem_iff_of_spelledOnce (once : Path.SpelledOnce (A.toList ++ B.toList)) {q : Path}
    (hq : q ∈ A.toList) : q ∈ B ↔ q ∈ B.toList := by
  constructor
  · rintro ⟨r, hr, route⟩
    have same : q = r :=
      once q (List.mem_append_left _ hq) r (List.mem_append_right _ hr) route.symm
    rwa [same]
  · exact PathSet.mem_of_mem_toList

theorem spelledOnce_symm (once : Path.SpelledOnce (A.toList ++ B.toList)) :
    Path.SpelledOnce (B.toList ++ A.toList) := by
  intro p hp q hq
  rw [List.mem_append, or_comm, ← List.mem_append] at hp hq
  exact once p hp q hq

/-- A set has a file that some path of another set names: membership, looked at from there. -/
theorem mem_congr {s : PathSet} {q : Path} (route : q.route = p.route) : q ∈ s ↔ p ∈ s := by
  rw [PathSet.mem_iff, PathSet.mem_iff, route]

/-- A split of sets that spell each file in the same way is one of files. -/
theorem partitions_split (once : Path.SpelledOnce (A.toList ++ B.toList)) :
    (split A.spellings B.spellings).Partitions A B where
  both := fun p => by
    rw [names_both]
    constructor
    · rintro ⟨q, hA, hB, route⟩
      exact ⟨⟨q, hA, route⟩, ⟨q, hB, route⟩⟩
    · rintro ⟨⟨q, hA, route⟩, inB⟩
      exact ⟨q, hA, (mem_iff_of_spelledOnce once hA).1 ((mem_congr route).2 inB), route⟩
  copyrightOnly := fun p => by
    rw [names_copyrightOnly]
    constructor
    · rintro ⟨q, hA, hB, route⟩
      refine ⟨⟨q, hA, route⟩, fun inB => hB ?_⟩
      exact (mem_iff_of_spelledOnce once hA).1 ((mem_congr route).2 inB)
    · rintro ⟨⟨q, hA, route⟩, notB⟩
      exact ⟨q, hA, fun hB => notB ⟨q, hB, route⟩, route⟩
  licensingOnly := fun p => by
    rw [names_licensingOnly]
    constructor
    · rintro ⟨q, hB, hA, route⟩
      refine ⟨⟨q, hB, route⟩, fun inA => hA ?_⟩
      exact (mem_iff_of_spelledOnce (spelledOnce_symm once) hB).1 ((mem_congr route).2 inA)
    · rintro ⟨⟨q, hB, route⟩, notA⟩
      exact ⟨q, hB, fun hA => notA ⟨q, hA, route⟩, route⟩

/-- **A file that is spelled in two ways is listed twice**, as lacking each kind of information only,
and not as lacking both. -/
theorem names_of_two_spellings {a b : Path} (hA : a ∈ A.toList) (hB : b ∈ B.toList)
    (route : a.route = b.route) (ne : a ≠ b) :
    (split A.spellings B.spellings).copyrightOnly.Names a ∧
      (split A.spellings B.spellings).licensingOnly.Names a ∧
      ¬ (split A.spellings B.spellings).both.Names a := by
  -- within one set a file has one spelling, so neither set has the other's
  have notB : a ∉ B.toList := fun h => ne (PathSet.eq_of_route_eq h hB route)
  have notA : b ∉ A.toList := fun h => ne (PathSet.eq_of_route_eq hA h route)
  refine ⟨names_copyrightOnly.2 ⟨a, hA, notB, rfl⟩, names_licensingOnly.2 ⟨b, hB, notA, route.symm⟩,
    fun named => ?_⟩
  obtain ⟨q, hqA, hqB, same⟩ := names_both.1 named
  rw [PathSet.eq_of_route_eq hqA hA same] at hqB
  exact notB hqB

/-- A split that lists no file twice is one of sets that spell each file in the same way. -/
theorem spelledOnce_of_namesOnce (h : (split A.spellings B.spellings).NamesOnce) :
    Path.SpelledOnce (A.toList ++ B.toList) := by
  have across : ∀ {a b : Path}, a ∈ A.toList → b ∈ B.toList → a.route = b.route → a = b := by
    intro a b hA hB route
    by_contra ne
    obtain ⟨inOne, inOther, _⟩ := names_of_two_spellings hA hB route ne
    exact h.copyrightOnly_licensingOnly a ⟨inOne, inOther⟩
  intro p hp q hq route
  rcases List.mem_append.1 hp with hp | hp
  · rcases List.mem_append.1 hq with hq | hq
    · exact PathSet.eq_of_route_eq hp hq route
    · exact across hp hq route
  · rcases List.mem_append.1 hq with hq | hq
    · exact (across hq hp route.symm).symm
    · exact PathSet.eq_of_route_eq hp hq route

/-- **A split is one of files exactly if no file is spelled in two ways.**  For any two sets of
paths, the parts of their split name the files of both sets, of the first one only and of the second
one only, exactly if the sets spell each file that they share in the same way; and exactly then no
file is listed in two parts. -/
theorem split_partitions_iff (A B : PathSet) :
    ((split A.spellings B.spellings).Partitions A B ↔ Path.SpelledOnce (A.toList ++ B.toList)) ∧
    ((split A.spellings B.spellings).NamesOnce ↔ Path.SpelledOnce (A.toList ++ B.toList)) :=
  ⟨⟨fun h => spelledOnce_of_namesOnce h.namesOnce, partitions_split⟩,
    ⟨spelledOnce_of_namesOnce, fun once => (partitions_split once).namesOnce⟩⟩

/-- **One file in two spellings** is split into two files, each of which lacks one kind of
information only. -/
theorem not_partitions_two_spellings :
    ∃ s, Snapshot.read .finished (Text.bytes
        "\x7b\"files_without_copyright\":[\"a/b\"],\"files_without_licenses\":[\"a//b\"]\x7d") =
        .ok s ∧
      Path.ofSpelling "a/b" ∈ s.filesWithoutCopyright ∧
      Path.ofSpelling "a/b" ∈ s.filesWithoutLicenses ∧
      s.classify.missingInfo = ⟨∅, .ofList ["a/b"], .ofList ["a//b"]⟩ ∧
      ¬ s.classify.missingInfo.NamesOnce ∧
      ¬ s.classify.missingInfo.Partitions s.filesWithoutCopyright s.filesWithoutLicenses := by
  have same : (Path.ofSpelling "a//b").route = (Path.ofSpelling "a/b").route := by decide
  refine ⟨_, rfl, ⟨_, List.mem_cons_self, rfl⟩, ⟨_, List.mem_cons_self, same⟩, by decide, ?_⟩
  have twice : ¬ NamesOnce ⟨∅, .ofList ["a/b"], .ofList ["a//b"]⟩ := fun once =>
    once.copyrightOnly_licensingOnly (.ofSpelling "a/b")
      ⟨⟨"a/b", by decide, rfl⟩, ⟨"a//b", by decide, same⟩⟩
  exact ⟨twice, fun h => twice h.namesOnce⟩

end MissingInfo

end Compliance
