/-
**What is listed of a document.**

An array of paths can name one file in several ways and repeatedly.  What is reported of it has each
file once, in the spelling that came first, and the reported spellings are sorted.  Sets of paths are
kept by where the paths lead, and the spellings of a set are sorted as texts; so it has to be seen that
no two spellings of a set are equal or lead the same way.

Files that lack information are split, and the two parts that one array is split into list its files
when they are sorted together.  Of several lists of files for one license id the last one counts.

Main definitions:

* `Path.denoted` — where a spelled path leads, by its start and its components;
* `Listed` — what is reported of an array of paths;
* `IdsListed`, `FilesListed` — what is reported of license ids, and of files by license id;
* `Snapshot.Document.Classified` — what is reported of a document.

Main results:

* `Path.Route.ofSpelling_eq` — routes are where paths lead;
* `PathSet.listed_ofList` — **no file of an array is dropped or listed twice**;
* `Snapshot.Document.classified_ofDocument` — a classified document lists what stands in the document.
-/

import Compliance.Proofs.Report.Consistent
import Compliance.Proofs.Snapshot.Order
import Compliance.Proofs.Snapshot.Tally

set_option relaxedAutoImplicit false
set_option autoImplicit false

namespace Compliance

namespace Path

/-! ### Where paths lead -/

/-- Where a spelled path leads.  A slash at its start makes it absolute.  Its components are the parts
between slashes, without empty ones and without `.`, but for a `.` at the start of a relative path. -/
def denoted (spelling : String) : Route where
  absolute := spelling.toList.head? = some '/'
  steps :=
    (if spelling.toList.head? ≠ some '/' ∧ (parts spelling).head? = some "." then ["."] else []) ++
      (parts spelling).filter fun part => part ≠ "" ∧ part ≠ "."

theorem Route.ofParts_of_ne {first : String} (filled : first ≠ "") (parts : List String) :
    ofParts (first :: parts) =
      ⟨false, (if first = "." then ["."] else []) ++ (first :: parts).filter leadsOn⟩ := by
  by_cases here : first = "."
  · subst here
    rfl
  · rw [if_neg here, List.nil_append]
    unfold ofParts
    split
    · rename_i same
      exact absurd (List.cons.inj same).1 filled
    · rename_i same
      exact absurd (List.cons.inj same).1 here
    · rfl

/-- **Routes are where paths lead.** -/
theorem Route.ofSpelling_eq (spelling : String) : ofSpelling spelling = denoted spelling := by
  have leads : (fun part => decide (part ≠ "" ∧ part ≠ ".")) = leadsOn := by
    funext part
    simp [leadsOn]
  rw [denoted, leads, ofSpelling]
  -- the first part is empty exactly if the spelling starts with a slash, or is empty
  cases cs : spelling.toList with
  | nil =>
      have none : parts spelling = [""] := by simp [parts, cs]
      rw [none]
      rfl
  | cons c cs' =>
      obtain ⟨part, rest, split⟩ := List.exists_cons_of_ne_nil (List.splitOnP_ne_nil (· == '/') cs')
      by_cases slash : c = '/'
      · have all : parts spelling = "" :: String.ofList part :: rest.map String.ofList := by
          simp [parts, cs, slash, List.splitOnP_cons_eq_if_modifyHead, split]
        rw [all, slash]
        simp [ofParts, leadsOn]
      · have all : parts spelling = String.ofList (c :: part) :: rest.map String.ofList := by
          simp [parts, cs, slash, List.splitOnP_cons_eq_if_modifyHead, split]
        rw [all, ofParts_of_ne (by simp)]
        simp [slash]

end Path

/-! ### Arrays of paths -/

/-- What is reported of an array of paths: each path that it names, in the first spelling of it. -/
structure Listed (reported array : List String) : Prop where
  ascending : Text.Ascending reported
  /-- What is reported is the first spelling of its path. -/
  first : ∀ x ∈ reported, ∃ before after, array = before ++ x :: after ∧
    ∀ y ∈ before, Path.denoted y ≠ Path.denoted x
  /-- No two spellings are of the same path. -/
  apart : reported.Pairwise fun x y => Path.denoted x ≠ Path.denoted y
  /-- Each path is reported once. -/
  complete : ∀ y ∈ array, ∃! x, x ∈ reported ∧ Path.denoted x = Path.denoted y

namespace PathSet

theorem route_eq_denoted (p : Path) : p.route = Path.denoted p.spelling :=
  p.route_eq.trans (Path.Route.ofSpelling_eq p.spelling)

/-- A path is kept if no path before it leads the same way. -/
theorem exists_before_of_mem_firsts {ps : List Path} {p : Path} (h : p ∈ firsts ps) :
    ∃ before after, ps = before ++ p :: after ∧ ∀ q ∈ before, q.route ≠ p.route := by
  induction ps with
  | nil => cases h
  | cons first ps ih =>
      rcases List.mem_cons.1 h with rfl | h
      · exact ⟨[], ps, rfl, fun q hq => absurd hq List.not_mem_nil⟩
      · obtain ⟨kept, apart⟩ := List.mem_filter.1 h
        obtain ⟨before, after, rfl, earlier⟩ := ih kept
        refine ⟨first :: before, after, rfl, ?_⟩
        intro q hq
        rcases List.mem_cons.1 hq with rfl | hq
        · exact fun same => of_decide_eq_true apart same.symm
        · exact earlier q hq

/-- Spellings of a set that lead the same way are one. -/
theorem eq_of_denoted_eq {s : PathSet} {x y : String} (hx : x ∈ s.spellings) (hy : y ∈ s.spellings)
    (same : Path.denoted x = Path.denoted y) : x = y := by
  obtain ⟨p, hp, rfl⟩ := List.mem_map.1 (mem_spellings.1 hx)
  obtain ⟨q, hq, rfl⟩ := List.mem_map.1 (mem_spellings.1 hy)
  rw [← route_eq_denoted, ← route_eq_denoted] at same
  rw [eq_of_route_eq hp hq same]

/-- **No file of an array is dropped or listed twice.** -/
theorem listed_ofList (ps : List Path) :
    Listed (ofList ps).spellings.toList (ps.map (·.spelling)) := by
  constructor
  case ascending => exact (ofList ps).spellings.ascending_bytes
  case first =>
    intro x hx
    obtain ⟨p, hp, rfl⟩ := List.mem_map.1 (mem_spellings.1 hx)
    obtain ⟨before, after, split, earlier⟩ := exists_before_of_mem_firsts hp
    refine ⟨before.map (·.spelling), after.map (·.spelling), by simp [split], ?_⟩
    intro y hy
    obtain ⟨q, hq, rfl⟩ := List.mem_map.1 hy
    rw [← route_eq_denoted, ← route_eq_denoted]
    exact earlier q hq
  case apart =>
    -- spellings are sorted as texts, so that equal ones would stand below themselves
    refine List.Pairwise.imp_of_mem ?_ (ofList ps).spellings.ascending
    intro x y hx hy below same
    rw [eq_of_denoted_eq hx hy same] at below
    exact String.lt_irrefl y below
  case complete =>
    intro y hy
    obtain ⟨p, hp, rfl⟩ := List.mem_map.1 hy
    obtain ⟨q, hq, route⟩ := exists_mem_ofList hp
    have listed : q.spelling ∈ (ofList ps).spellings :=
      mem_spellings.2 (List.mem_map.2 ⟨q, hq, rfl⟩)
    have same : Path.denoted q.spelling = Path.denoted p.spelling := by
      rw [← route_eq_denoted, ← route_eq_denoted, route]
    refine ⟨q.spelling, ⟨listed, same⟩, ?_⟩
    rintro x ⟨hx, also⟩
    exact eq_of_denoted_eq hx listed (also.trans same.symm)

end PathSet

/-! ### Arrays that are split -/

/-- The elements of two sets, sorted together. -/
def StringSet.merged (s t : StringSet) : List String := (s.toList ++ t.toList).mergeSort (· ≤ ·)

/-- What a set shares with another one and what it lacks there are all that it has. -/
theorem StringSet.merged_inter_diff (s t : StringSet) : (s.inter t).merged (s.diff t) = s.toList := by
  have parts : ((s.inter t).toList ++ (s.diff t).toList).Perm s.toList := by
    have both := List.filter_append_perm (fun x => decide (x ∈ t)) s.toList
    simp only [← decide_not] at both
    exact both
  exact eq_of_perm_of_le ((List.mergeSort_perm _ _).trans parts) (pairwise_mergeSort_le _)
    (s.ascending.imp fun below => String.not_lt.1 (String.lt_asymm below))

namespace MissingInfo

theorem merged_copyright (copyright licensing : StringSet) :
    (split copyright licensing).both.merged (split copyright licensing).copyrightOnly =
      copyright.toList := by
  rw [split_eq]
  exact StringSet.merged_inter_diff copyright licensing

theorem merged_licensing (copyright licensing : StringSet) :
    (split copyright licensing).both.merged (split copyright licensing).licensingOnly =
      licensing.toList := by
  rw [split_eq, StringSet.inter_comm]
  exact StringSet.merged_inter_diff licensing copyright

end MissingInfo

/-! ### License ids and their files -/

/-- What is reported of license ids. -/
structure IdsListed (reported ids : List String) : Prop where
  ascending : Text.Ascending reported
  mem_iff : ∀ id, id ∈ reported ↔ id ∈ ids

/-- What is reported of files by license id.  Of several entries for an id the last one counts. -/
structure FilesListed (reported : StringMap StringSet) (entries : List (String × List Path)) :
    Prop where
  ids : IdsListed reported.keys (entries.map (·.1))
  files : ∀ before id files after, entries = before ++ (id, files) :: after →
    id ∉ after.map (·.1) →
      ∃ listed, reported.get? id = some listed ∧ Listed listed.toList (files.map (·.spelling))

theorem idsListed_ofList (ids : List String) : IdsListed (StringSet.ofList ids).toList ids :=
  ⟨(StringSet.ofList ids).ascending_bytes, fun _ => StringSet.mem_ofList⟩

theorem idsListed_keys {α : Type} (entries : List (String × α)) :
    IdsListed (StringMap.ofList entries).keys (entries.map (·.1)) :=
  ⟨StringMap.ascending_keys _, fun _ => StringMap.mem_keys_ofList⟩

theorem filesListed_licenseFiles (entries : List (String × List Path)) :
    FilesListed ((Snapshot.licenseFiles entries).map PathSet.spellings) entries := by
  constructor
  case ids =>
    rw [StringMap.keys_map, Snapshot.licenseFiles, StringMap.keys_map]
    exact idsListed_keys entries
  case files =>
    intro before id files after split last
    have found : (StringMap.ofList entries).get? id = some files :=
      StringMap.get?_ofList_eq_some_iff.2 ⟨before, after, split, last⟩
    refine ⟨(PathSet.ofList files).spellings, ?_, PathSet.listed_ofList files⟩
    rw [StringMap.get?_map, Snapshot.licenseFiles, StringMap.get?_map, found]
    rfl

/-! ### Documents -/

namespace Snapshot.Document

/-- What is reported of a document. -/
structure Classified (d : Document) (c : Classification) : Prop where
  readErrors : Listed c.readErrors.toList ((d.valueOf .readErrors).map (·.spelling))
  /-- Files that lack both kinds of information and those that lack copyright information only. -/
  withoutCopyright : Listed (c.missingInfo.both.merged c.missingInfo.copyrightOnly)
    ((d.valueOf .filesWithoutCopyright).map (·.spelling))
  /-- Files that lack both kinds of information and those that lack licensing information only. -/
  withoutLicensing : Listed (c.missingInfo.both.merged c.missingInfo.licensingOnly)
    ((d.valueOf .filesWithoutLicenses).map (·.spelling))
  badLicenses : FilesListed c.badLicenses (d.valueOf .badLicenses)
  missingLicenses : FilesListed c.missingLicenses (d.valueOf .missingLicenses)
  licensesWithoutExtension :
    IdsListed c.licensesWithoutExtension.keys ((d.valueOf .licensesWithoutExtension).map (·.1))
  deprecatedLicenses : IdsListed c.deprecatedLicenses.toList (d.valueOf .deprecatedLicenses)
  unusedLicenses : IdsListed c.unusedLicenses.toList (d.valueOf .unusedLicenses)
  usedLicenses : IdsListed c.usedLicenses.toList (d.valueOf .usedLicenses)

/-- **A classified document lists what stands in the document**, each file and each license id
once. -/
theorem classified_ofDocument (d : Document) : d.Classified (ofDocument d).classify := by
  constructor
  case readErrors => exact PathSet.listed_ofList _
  case withoutCopyright =>
    have parts := MissingInfo.merged_copyright (ofDocument d).filesWithoutCopyright.spellings
      (ofDocument d).filesWithoutLicenses.spellings
    rw [classify, parts]
    exact PathSet.listed_ofList _
  case withoutLicensing =>
    have parts := MissingInfo.merged_licensing (ofDocument d).filesWithoutCopyright.spellings
      (ofDocument d).filesWithoutLicenses.spellings
    rw [classify, parts]
    exact PathSet.listed_ofList _
  case badLicenses => exact filesListed_licenseFiles _
  case missingLicenses => exact filesListed_licenseFiles _
  case licensesWithoutExtension =>
    rw [classify, StringMap.keys_map]
    exact idsListed_keys _
  case deprecatedLicenses => exact idsListed_ofList _
  case unusedLicenses => exact idsListed_ofList _
  case usedLicenses => exact idsListed_ofList _

end Snapshot.Document

end Compliance
