/-
**Coverage.**

A report says of how many files there is copyright information, and of how many there is licensing
information.  It subtracts the files that are listed as lacking it, those that lack both kinds and those
that lack only this one, from the number of all files.  A message is given if the set of files that
lack it is larger than that number.  The message counts paths, and the report adds up two numbers of
spellings; they agree, so that the subtraction is exact unless there is a message for the set.

Main definitions:

* `Information` — the two kinds of information;
* `Snapshot.Warned` — a message is given for a set of files;
* `Information.Covered` — what a report says of the coverage with it.

Main results:

* `Snapshot.warned_iff` — when a message is given;
* `Information.coverage_exact` — **the coverage is exact unless a message is given, and else it is none**.
-/

import Compliance.Proofs.Snapshot.Tally

set_option relaxedAutoImplicit false
set_option autoImplicit false

namespace Compliance

/-- The kinds of information that files can lack. -/
inductive Information
  | copyright
  | licensing
  deriving DecidableEq, Repr

namespace Information

/-- The name of the set of files that lack it. -/
def key : Information → String
  | copyright => "files_without_copyright"
  | licensing => "files_without_licenses"

/-- The files of a snapshot that lack it. -/
def files (s : Snapshot) : Information → PathSet
  | copyright => s.filesWithoutCopyright
  | licensing => s.filesWithoutLicenses

/-- The files that lack only it. -/
def only (m : MissingInfo) : Information → StringSet
  | copyright => m.copyrightOnly
  | licensing => m.licensingOnly

/-- The coverage with it in a summary. -/
def ratio (summary : Summary) : Information → Ratio
  | copyright => summary.withCopyright
  | licensing => summary.withLicensing

end Information

namespace Snapshot

/-! ### Messages -/

/-- A message is given for a set of files, which it starts with the name of. -/
def Warned (s : Snapshot) (name : String) : Prop :=
  ∃ message ∈ s.violations, ∃ rest, message = name ++ " has " ++ rest

/-- The name at the start of a message ends at a space. -/
theorem takeWhile_named {name : String} (h : ∀ c ∈ name.toList, c ≠ ' ') (rest : String) :
    (name ++ " has " ++ rest).toList.takeWhile (· ≠ ' ') = name.toList := by
  have whole : (name ++ " has " ++ rest).toList =
      name.toList ++ ' ' :: ("has ".toList ++ rest.toList) := by simp
  rw [whole, List.takeWhile_append_of_pos (by simpa using h), List.takeWhile_cons]
  simp

theorem name_not_space {s : Snapshot} {name : String} {files : PathSet}
    (h : (name, files) ∈ s.boundedSets) : ∀ c ∈ name.toList, c ≠ ' ' := by
  have letters : (name.toList.all fun c => decide (c ≠ ' ')) = true := by
    simp only [boundedSets, List.mem_cons, List.not_mem_nil, or_false, Prod.mk.injEq] at h
    rcases h with ⟨rfl, _⟩ | ⟨rfl, _⟩ | ⟨rfl, _⟩
    all_goals decide
  exact fun c hc => of_decide_eq_true (List.all_eq_true.1 letters c hc)

theorem eq_of_name_eq {s : Snapshot} {name : String} {files files' : PathSet}
    (h : (name, files) ∈ s.boundedSets) (h' : (name, files') ∈ s.boundedSets) : files = files' := by
  have once : (s.boundedSets.map (·.1)).Nodup := by
    show ["files_without_copyright", "files_without_licenses", "read_errors"].Nodup
    decide
  have found := (StringMap.lookup_eq_some_iff once).2 h
  exact Option.some.inj (found.symm.trans ((StringMap.lookup_eq_some_iff once).2 h'))

/-- **A message is given for a set of files if it has more members than there are files.** -/
theorem warned_iff {s : Snapshot} {name : String} {files : PathSet}
    (h : (name, files) ∈ s.boundedSets) :
    s.Warned name ↔ s.fileTotal.toNat < files.size := by
  constructor
  · rintro ⟨message, hmessage, rest, rfl⟩
    obtain ⟨⟨name', files'⟩, h', said⟩ := List.mem_filterMap.1 hmessage
    simp only [Option.ite_none_right_eq_some, Option.some.injEq] at said
    obtain ⟨exceeds, said⟩ := said
    rw [violation, String.append_assoc, String.append_assoc] at said
    -- two sets have different names, and neither name has a space
    have same := congrArg (fun m => m.toList.takeWhile (· ≠ ' ')) said
    simp only [takeWhile_named (name_not_space h), takeWhile_named (name_not_space h')] at same
    rw [String.toList_injective same] at h'
    rwa [eq_of_name_eq h h']
  · intro exceeds
    refine ⟨violation name files.size s.fileTotal.toNat, ?_, ?_⟩
    · exact List.mem_filterMap.2 ⟨(name, files), h, if_pos exceeds⟩
    · exact ⟨toString files.size ++ " entries but file_total is " ++ toString s.fileTotal.toNat,
        by simp only [violation, String.append_assoc]⟩

end Snapshot

namespace Information

/-! ### What is subtracted -/

variable (s : Snapshot)

theorem mem_boundedSets (x : Information) : (x.key, x.files s) ∈ s.boundedSets := by
  cases x with
  | copyright => exact List.mem_cons_self
  | licensing => exact List.mem_cons_of_mem _ List.mem_cons_self

/-- The files that lack both kinds of information and those that lack only one are all that lack it. -/
theorem size_both_add_size_only (x : Information) :
    s.classify.missingInfo.both.size + (x.only s.classify.missingInfo).size =
      (x.files s).size := by
  cases x with
  | copyright => exact (MissingInfo.withoutCopyright_split _ _).trans (PathSet.size_spellings _)
  | licensing => exact (MissingInfo.withoutLicensing_split _ _).trans (PathSet.size_spellings _)

theorem ratio_summary (x : Information) :
    x.ratio s.classify.summary = .covered s.fileTotal (x.files s).size := by
  rw [Snapshot.summary_classify]
  cases x with
  | copyright => rfl
  | licensing => rfl

/-! ### Coverage -/

/-- What a report says of the coverage with a kind of information. -/
structure Covered (x : Information) (s : Snapshot) : Prop where
  /-- The sum of what is subtracted does not overflow: it is the number of paths in the set. -/
  sum : (UInt64.ofNat s.classify.missingInfo.both.size +
    UInt64.ofNat (x.only s.classify.missingInfo).size).toNat = (x.files s).size
  /-- This is the number of the files that are listed. -/
  listed : s.classify.missingInfo.both.size + (x.only s.classify.missingInfo).size =
    (x.files s).size
  /-- The coverage is out of all files. -/
  total : (x.ratio s.classify.summary).total = s.fileTotal
  bounded : (x.ratio s.classify.summary).count.toNat ≤ s.fileTotal.toNat
  /-- Without a message it is exact. -/
  exact : ¬s.Warned x.key → (x.ratio s.classify.summary).count.toNat +
    (s.classify.missingInfo.both.size + (x.only s.classify.missingInfo).size) = s.fileTotal.toNat
  /-- With a message more files are listed than there are, and none is covered. -/
  saturated : s.Warned x.key →
    s.fileTotal.toNat <
        s.classify.missingInfo.both.size + (x.only s.classify.missingInfo).size ∧
      (x.ratio s.classify.summary).count = 0

/-- **The coverage is exact unless a message is given for the set, and then it is none.** -/
theorem coverage_exact (x : Information) (small : (x.files s).size < 2 ^ 64) : x.Covered s := by
  have listed := size_both_add_size_only s x
  have count : (x.ratio s.classify.summary).count.toNat =
      s.fileTotal.toNat - (x.files s).size := by
    have below : s.fileTotal.toNat - (x.files s).size < 2 ^ 64 :=
      Nat.lt_of_le_of_lt (Nat.sub_le _ _) s.fileTotal.toNat_lt
    rw [ratio_summary, Ratio.covered, UInt64.toNat_ofNat_of_lt' below]
  have warned := Snapshot.warned_iff (mem_boundedSets s x)
  constructor
  case sum =>
    have word : UInt64.size = 2 ^ 64 := rfl
    rw [UInt64.toNat_add, UInt64.toNat_ofNat_of_lt' (by omega), UInt64.toNat_ofNat_of_lt' (by omega),
      listed, Nat.mod_eq_of_lt small]
  case listed => exact listed
  case total => rw [ratio_summary, Ratio.covered]
  case bounded =>
    rw [count]
    exact Nat.sub_le _ _
  case exact =>
    intro silent
    rw [warned] at silent
    omega
  case saturated =>
    intro message
    have exceeds := warned.1 message
    refine ⟨by omega, UInt64.toNat_inj.1 ?_⟩
    rw [count, Nat.sub_eq_zero_of_le (Nat.le_of_lt exceeds)]
    rfl

/-- A file that lacks both kinds of information and one that lacks copyright information, of one file
in all: there is a message about copyright information, and none about licensing information. -/
def oneOfTwo : Snapshot.Document :=
  [.known .filesWithoutCopyright [.ofSpelling "a", .ofSpelling "b"],
   .known .filesWithoutLicenses [.ofSpelling "b"], .known .fileTotal 1]

theorem coverage_exact_oneOfTwo :
    copyright.Covered (Snapshot.ofDocument oneOfTwo) ∧
      licensing.Covered (Snapshot.ofDocument oneOfTwo) ∧
      (Snapshot.ofDocument oneOfTwo).Warned "files_without_copyright" ∧
      ¬(Snapshot.ofDocument oneOfTwo).Warned "files_without_licenses" := by
  refine ⟨coverage_exact _ copyright (by decide), coverage_exact _ licensing (by decide), ?_, ?_⟩
  · exact (Snapshot.warned_iff (mem_boundedSets _ copyright)).2 (by decide)
  · exact fun warned => absurd ((Snapshot.warned_iff (mem_boundedSets _ licensing)).1 warned) (by decide)

end Information

end Compliance
