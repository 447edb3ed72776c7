/-
**Writing a file changes that file only.**

A file is written at the place that its path leads to, which is no directory.  So directories stay
what they are, every path is followed as before, and the path that was written at leads to what was
written.

Main results:

* `FileTree.stands?_write_self`, `FileTree.stands?_write_of_ne` — what stands where after writing;
* `FileTree.place_eq_ok` — what it means that a file may be written at a path;
* `FileTree.read_write` — **what is written at a path is read at it**;
* `FileTree.overwrite_create` — what is written to a file that was opened is all that it holds;
* `FileTree.place_write_congr`, `FileTree.read_write_congr` — what of a tree depends on the bytes that
  were written.
-/

import Compliance.FileTree
import Compliance.Proofs.Except

set_option relaxedAutoImplicit false
set_option autoImplicit false

namespace Compliance.FileTree

variable {t : FileTree} {place : Place}

/-! ### Entries -/

theorem lookup_filter_of_ne {files : List (List String × List UInt8)} {other : Place}
    (h : other ≠ place) : (files.filter (·.1 ≠ place)).lookup other = files.lookup other := by
  induction files with
  | nil => rfl
  | cons file files ih =>
      by_cases written : file.1 = place
      · have apart : (other == file.1) = false := beq_false_of_ne fun e => h (e.trans written)
        rw [List.filter_cons_of_neg (by simp [written]), ih, List.lookup_cons, apart]
      · rw [List.filter_cons_of_pos (by simp [written]), List.lookup_cons, List.lookup_cons, ih]

/-- Where a file was written, it stands. -/
theorem stands?_write_self (h : place ≠ []) (bytes : List UInt8) :
    (t.write place bytes).stands? place = some (.file bytes) := by
  obtain ⟨name, names, rfl⟩ := List.exists_cons_of_ne_nil h
  simp [stands?, write]

/-- Elsewhere nothing changes. -/
theorem stands?_write_of_ne {other : Place} (h : other ≠ place) (bytes : List UInt8) :
    (t.write place bytes).stands? other = t.stands? other := by
  cases other with
  | nil => rfl
  | cons name names =>
      have apart : ((name :: names) == place) = false := beq_false_of_ne h
      have same : (t.write place bytes).files.lookup (name :: names) =
          t.files.lookup (name :: names) := by
        rw [write, List.lookup_cons, apart, lookup_filter_of_ne h]
      simp only [stands?, same]
      rfl

/-- A directory stays one when a file is written where no directory is. -/
theorem stands?_write_directory (h : t.stands? place ≠ some .directory) {dir : Place}
    (hdir : t.stands? dir = some .directory) (bytes : List UInt8) :
    (t.write place bytes).stands? dir = some .directory := by
  have elsewhere : dir ≠ place := by
    rintro rfl
    exact h hdir
  rw [stands?_write_of_ne elsewhere, hdir]

/-! ### Following paths -/

/-- A part is followed from a directory only. -/
theorem followPart_eq_ok {dir dest : Place} {part : String} (h : t.followPart dir part = .ok dest) :
    t.stands? dir = some .directory := by
  unfold followPart at h
  split at h
  · cases h
  · cases h
  · assumption

theorem followPart_write (h : t.stands? place ≠ some .directory) {dir dest : Place} {part : String}
    (followed : t.followPart dir part = .ok dest) (bytes : List UInt8) :
    (t.write place bytes).followPart dir part = .ok dest := by
  have directory := followPart_eq_ok followed
  rw [followPart, stands?_write_directory h directory]
  rwa [followPart, directory] at followed

theorem followParts_write (h : t.stands? place ≠ some .directory) {parts : List String}
    {dir dest : Place} (followed : t.followParts dir parts = .ok dest) (bytes : List UInt8) :
    (t.write place bytes).followParts dir parts = .ok dest := by
  induction parts generalizing dir with
  | nil => exact followed
  | cons part parts ih =>
      rw [followParts, List.foldlM_cons, bind_eq_ok] at followed ⊢
      obtain ⟨next, first, others⟩ := followed
      exact ⟨next, followPart_write h first bytes, ih others⟩

theorem followParts_append (front back : List String) (dir : Place) :
    t.followParts dir (front ++ back) =
      t.followParts dir front >>= fun next => t.followParts next back := by
  rw [followParts, List.foldlM_append]
  rfl

/-! ### Writing and reading -/

/-- A file may be written under a name if there is no directory under it. -/
theorem placeIn_eq_ok {dir : Place} {name : String} {beforeSlash : Bool}
    (h : t.placeIn dir name beforeSlash = .ok place) :
    t.stands? dir = some .directory ∧ name ≠ "." ∧ name ≠ ".." ∧ beforeSlash = false ∧
      seek dir name = .ok place ∧ t.stands? place ≠ some .directory := by
  unfold placeIn at h
  split at h
  · cases h
  · cases h
  · rename_i directory
    split at h
    · cases h
    · rename_i named
      simp only [Bool.or_eq_true, decide_eq_true_eq, not_or, Bool.not_eq_true] at named
      obtain ⟨⟨notDot, notDots⟩, last⟩ := named
      obtain ⟨found, sought, h⟩ := bind_eq_ok.1 h
      by_cases taken : t.stands? found = some .directory
      · rw [if_pos taken] at h
        cases h
      · rw [if_neg taken] at h
        cases h
        exact ⟨directory, notDot, notDots, last, sought, taken⟩

/-- What is left of a list without its last empty texts, if nothing is dropped. -/
theorem eq_append_of_dropWhile {parts before : List String} {name : String}
    (h : parts.reverse.dropWhile (· = "") = name :: before) (last : parts.getLast? ≠ some "") :
    parts = before.reverse ++ [name] ∧ name ≠ "" := by
  rcases List.eq_nil_or_concat parts with rfl | ⟨front, lastPart, rfl⟩
  · cases h
  · rw [List.concat_eq_append] at *
    rw [List.getLast?_concat, ne_eq, Option.some.injEq] at last
    rw [List.reverse_append, List.reverse_singleton, List.singleton_append,
      List.dropWhile_cons_of_neg (by simpa using last)] at h
    obtain ⟨rfl, rfl⟩ := List.cons.inj h
    rw [List.reverse_reverse]
    exact ⟨rfl, last⟩

/-- A file may be written at a path if the path leads through directories to a name, under which
there is no directory. -/
theorem place_eq_ok {path : String} (h : t.place path = .ok place) :
    checkPath path = .ok () ∧ ∃ front name dir, Path.parts path = front ++ [name] ∧ name ≠ "" ∧
      t.followParts (t.startOf path) front = .ok dir ∧ t.placeIn dir name false = .ok place := by
  obtain ⟨_, checked, h⟩ := bind_eq_ok.1 h
  refine ⟨checked, ?_⟩
  simp only at h
  split at h
  · cases h
  · rename_i name before stripped
    obtain ⟨dir, followed, h⟩ := bind_eq_ok.1 h
    have last := (placeIn_eq_ok h).2.2.2.1
    rw [last] at h
    obtain ⟨parts, named⟩ := eq_append_of_dropWhile stripped (by simpa using last)
    exact ⟨before.reverse, name, dir, parts, named, followed, h⟩

theorem followPart_seek {dir : Place} {name : String} (hdir : t.stands? dir = some .directory)
    (named : name ≠ "") (notDot : name ≠ ".") (notDots : name ≠ "..") :
    t.followPart dir name = seek dir name := by
  rw [followPart, hdir]
  simp [named, notDot, notDots]

theorem seek_eq_ok {dir : Place} {name : String} (h : seek dir name = .ok place) :
    place = dir ++ [name] := by
  unfold seek at h
  split at h
  · cases h
  · exact (Except.ok.inj h).symm

/-- **What is written at a path is read at it.** -/
theorem read_write {path : String} (h : t.place path = .ok place) (bytes : List UInt8) :
    (t.write place bytes).read path = .ok bytes := by
  obtain ⟨checked, front, name, dir, parts, named, followed, found⟩ := place_eq_ok h
  -- the path leads through directories, which writing keeps, to the name that was written under
  obtain ⟨directory, notDot, notDots, _, sought, free⟩ := placeIn_eq_ok found
  have reached : (t.write place bytes).follow path = .ok place := by
    rw [follow, checked, ok_bind, parts, followParts_append]
    have start : (t.write place bytes).startOf path = t.startOf path := rfl
    rw [start, followParts_write free followed, ok_bind]
    have last : t.followPart dir name = .ok place := by
      rw [followPart_seek directory named notDot notDots, sought]
    rw [followParts, List.foldlM_cons, followPart_write free last]
    rfl
  have stands : (t.write place bytes).stands? place = some (.file bytes) := by
    refine stands?_write_self ?_ bytes
    rw [seek_eq_ok sought]
    exact List.append_ne_nil_of_right_ne_nil _ (List.cons_ne_nil _ _)
  rw [FileTree.read, reached, ok_bind, stands]
  rfl

/-! ### Opening and writing -/

/-- What was written at a place before is lost. -/
theorem write_write (t : FileTree) (place : Place) (bytes bytes' : List UInt8) :
    (t.write place bytes).write place bytes' = t.write place bytes' := by
  simp [write, List.filter_filter]

/-- What is written to a file that was opened is all that it holds. -/
theorem overwrite_create (t : FileTree) (place : Place) (bytes : List UInt8) :
    (t.create place).overwrite place bytes = t.write place bytes := by
  have empty : (t.create place).files.lookup place = some [] := by
    rw [create, write, List.lookup_cons_self]
  rw [overwrite, empty, Option.getD_some, List.drop_nil, List.append_nil, create, write_write]

/-! ### What was written -/

variable {bytes bytes' : List UInt8}

/-- Whether a place is a directory does not depend on the bytes that were written. -/
theorem stands?_write_congr (other : Place) :
    (t.write place bytes).stands? other = (t.write place bytes').stands? other ∨
      (t.write place bytes).stands? other = some (.file bytes) ∧
        (t.write place bytes').stands? other = some (.file bytes') := by
  by_cases written : other = place
  · subst written
    by_cases root : other = []
    · subst root
      exact .inl rfl
    · exact .inr ⟨stands?_write_self root bytes, stands?_write_self root bytes'⟩
  · exact .inl (by rw [stands?_write_of_ne written, stands?_write_of_ne written])

theorem followPart_write_congr (dir : Place) (part : String) :
    (t.write place bytes).followPart dir part = (t.write place bytes').followPart dir part := by
  unfold followPart
  rcases stands?_write_congr dir with same | ⟨file, file'⟩
  · rw [same]
  · rw [file, file']

theorem followParts_write_congr :
    (t.write place bytes).followParts = (t.write place bytes').followParts := by
  funext dir parts
  have step : (t.write place bytes).followPart = (t.write place bytes').followPart := by
    funext dir part
    exact followPart_write_congr dir part
  rw [followParts, followParts, step]

/-- Where a file may be written does not depend on the bytes that were written. -/
theorem place_write_congr (path : String) :
    (t.write place bytes).place path = (t.write place bytes').place path := by
  have start : (t.write place bytes).startOf path = (t.write place bytes').startOf path := rfl
  have inDirectory : (t.write place bytes).placeIn = (t.write place bytes').placeIn := by
    funext dir name beforeSlash
    have taken : ∀ found, (t.write place bytes).stands? found = some .directory ↔
        (t.write place bytes').stands? found = some .directory := by
      intro found
      rcases stands?_write_congr found with same | ⟨file, file'⟩
      · rw [same]
      · simp [file, file']
    unfold placeIn
    simp only [taken]
    rcases stands?_write_congr dir with same | ⟨file, file'⟩
    · rw [same]
    · rw [file, file']
  have followed : (t.write place bytes).followParts = (t.write place bytes').followParts :=
    followParts_write_congr
  unfold FileTree.place
  rw [start, followed, inDirectory]

/-- What is read at a path does not depend on the bytes that were written, or it is these bytes. -/
theorem read_write_congr (path : String) :
    (t.write place bytes).read path = (t.write place bytes').read path ∨
      (t.write place bytes).read path = .ok bytes ∧
        (t.write place bytes').read path = .ok bytes' := by
  have start : (t.write place bytes).startOf path = (t.write place bytes').startOf path := rfl
  have parts : (t.write place bytes).followParts = (t.write place bytes').followParts :=
    followParts_write_congr
  have followed : (t.write place bytes).follow path = (t.write place bytes').follow path := by
    rw [follow, follow, start, parts]
  rw [FileTree.read, FileTree.read, followed]
  cases (t.write place bytes').follow path with
  | error refusal => exact .inl rfl
  | ok found =>
      rw [ok_bind, ok_bind]
      rcases stands?_write_congr found with same | ⟨file, file'⟩
      · rw [same]
        exact .inl rfl
      · rw [file, file']
        exact .inr ⟨rfl, rfl⟩

end Compliance.FileTree
