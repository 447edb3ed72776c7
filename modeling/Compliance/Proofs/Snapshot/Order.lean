/-
**What the order of a document means.**

A document gives sets as arrays and maps as objects, so the order of their elements and members is
accidental.  What a report tells of a field does not depend on that order, with one exception: a set
of paths keeps the first spelling of each path.  So reports are independent of the order of a document
exactly if the document spells every path in one way within each of its sets.

Main definitions:

* `Snapshot.Field.Reordered`, `Snapshot.Document.Reordered` — documents that differ in order only;
* `Snapshot.Document.KeysDistinct`, `Snapshot.Document.SpelledOnce` — documents that give no key twice
  in an object, and no path in two spellings in an array;
* `Snapshot.Field.told` — what a report tells of a field.

Main results:

* `Snapshot.Field.told_eq_of_reordered` — what is told does not depend on the order, for paths that
  are spelled once;
* `Snapshot.Field.exists_reordered_told_ne` — **and it does otherwise**;
* `Snapshot.Document.reports_eq_iff` — both for whole reports.
-/

import Compliance.Proofs.Report.RoundTrip
import Compliance.Proofs.Snapshot.Document

set_option relaxedAutoImplicit false
set_option autoImplicit false

namespace Compliance.Snapshot

/-! ### Reordered values -/

/-- Files by license id in another order, both of the ids and of the files of each. -/
def FilesReordered (es ds : List (String × List Path)) : Prop :=
  ∃ cs, es.Perm cs ∧ List.Forall₂ (fun c d => c.1 = d.1 ∧ c.2.Perm d.2) cs ds

theorem FilesReordered.refl (es : List (String × List Path)) : FilesReordered es es :=
  ⟨es, .refl es, List.forall₂_same.2 fun _ _ => ⟨rfl, .refl _⟩⟩

namespace Field

/-- Values of a field that differ only in the order of sets and of the members of objects. -/
def Reordered : (f : Field) → f.Value → f.Value → Prop
  | badLicenses, es, ds => FilesReordered es ds
  | deprecatedLicenses, xs, ys => xs.Perm ys
  | licensesWithoutExtension, es, ds => es.Perm ds
  | missingLicenses, es, ds => FilesReordered es ds
  | unusedLicenses, xs, ys => xs.Perm ys
  | usedLicenses, xs, ys => xs.Perm ys
  | readErrors, ps, qs => ps.Perm qs
  | filesWithoutCopyright, ps, qs => ps.Perm qs
  | filesWithoutLicenses, ps, qs => ps.Perm qs
  | fileTotal, n, m => n = m

theorem Reordered.refl (f : Field) (value : f.Value) : f.Reordered value value := by
  cases f with
  | badLicenses => exact FilesReordered.refl value
  | missingLicenses => exact FilesReordered.refl value
  | fileTotal => exact rfl
  | _ => exact List.Perm.refl value

/-- No key is given twice in the object that stands for a field. -/
def KeysDistinct : (f : Field) → f.Value → Prop
  | badLicenses, es => (es.map (·.1)).Nodup
  | licensesWithoutExtension, es => (es.map (·.1)).Nodup
  | missingLicenses, es => (es.map (·.1)).Nodup
  | _, _ => True

/-- No path is spelled in two ways in one of the arrays that stand for a field. -/
def SpelledOnce : (f : Field) → f.Value → Prop
  | badLicenses, es => ∀ e ∈ es, Path.SpelledOnce e.2
  | missingLicenses, es => ∀ e ∈ es, Path.SpelledOnce e.2
  | readErrors, ps => Path.SpelledOnce ps
  | filesWithoutCopyright, ps => Path.SpelledOnce ps
  | filesWithoutLicenses, ps => Path.SpelledOnce ps
  | _, _ => True

/-! ### What is told of a field -/

/-- The type of what a report tells of a field. -/
abbrev Told : Field → Type
  | badLicenses => StringMap StringSet
  | deprecatedLicenses => StringSet
  | licensesWithoutExtension => StringMap String
  | missingLicenses => StringMap StringSet
  | unusedLicenses => StringSet
  | usedLicenses => StringSet
  | readErrors => StringSet
  | filesWithoutCopyright => StringSet
  | filesWithoutLicenses => StringSet
  | fileTotal => UInt64

/-- What a report tells of the value of a field. -/
def told : (f : Field) → f.Value → f.Told
  | badLicenses, es => (licenseFiles es).map PathSet.spellings
  | deprecatedLicenses, xs => .ofList xs
  | licensesWithoutExtension, es => (StringMap.ofList es).map Path.spelling
  | missingLicenses, es => (licenseFiles es).map PathSet.spellings
  | unusedLicenses, xs => .ofList xs
  | usedLicenses, xs => .ofList xs
  | readErrors, ps => (PathSet.ofList ps).spellings
  | filesWithoutCopyright, ps => (PathSet.ofList ps).spellings
  | filesWithoutLicenses, ps => (PathSet.ofList ps).spellings
  | fileTotal, n => n

end Field

theorem ofList_eq_of_perm {xs ys : List String} (h : xs.Perm ys) :
    StringSet.ofList xs = StringSet.ofList ys :=
  StringSet.ofList_congr fun _ => h.mem_iff

theorem spellings_eq_of_perm {ps qs : List Path} (h : ps.Perm qs) (once : Path.SpelledOnce ps) :
    (PathSet.ofList ps).spellings = (PathSet.ofList qs).spellings := by
  have once' : Path.SpelledOnce qs := fun p hp q hq => once p (h.mem_iff.2 hp) q (h.mem_iff.2 hq)
  rw [PathSet.spellings_ofList once, PathSet.spellings_ofList once']
  exact ofList_eq_of_perm (h.map _)

/-- The spellings of files by license id can be taken list by list. -/
theorem map_spellings_licenseFiles (es : List (String × List Path)) :
    (licenseFiles es).map PathSet.spellings =
      StringMap.ofList (es.map fun e => (e.1, (PathSet.ofList e.2).spellings)) := by
  rw [licenseFiles, StringMap.map_ofList, StringMap.map_ofList, List.map_map]
  rfl

theorem licenseFiles_eq_of_reordered {es ds : List (String × List Path)}
    (h : FilesReordered es ds) (distinct : (es.map (·.1)).Nodup)
    (once : ∀ e ∈ es, Path.SpelledOnce e.2) :
    (licenseFiles es).map PathSet.spellings = (licenseFiles ds).map PathSet.spellings := by
  obtain ⟨cs, perm, same⟩ := h
  have spelled : cs.map (fun e => (e.1, (PathSet.ofList e.2).spellings)) =
      ds.map (fun e => (e.1, (PathSet.ofList e.2).spellings)) := by
    have once' : ∀ c ∈ cs, Path.SpelledOnce c.2 := fun c hc => once c (perm.mem_iff.2 hc)
    clear perm
    induction same with
    | nil => rfl
    | @cons c d cs ds hcd _ ih =>
        rw [List.map_cons, List.map_cons, hcd.1,
          spellings_eq_of_perm hcd.2 (once' c List.mem_cons_self),
          ih fun e he => once' e (List.mem_cons_of_mem _ he)]
  rw [map_spellings_licenseFiles, map_spellings_licenseFiles, ← spelled]
  refine StringMap.ofList_perm (perm.map _) ?_
  rw [List.map_map]
  exact distinct

/-- What is told does not depend on the order, if paths are spelled once. -/
theorem Field.told_eq_of_reordered {f : Field} {value value' : f.Value}
    (h : f.Reordered value value') (distinct : f.KeysDistinct value)
    (once : f.SpelledOnce value) : f.told value = f.told value' := by
  cases f with
  | badLicenses => exact licenseFiles_eq_of_reordered h distinct once
  | deprecatedLicenses => exact ofList_eq_of_perm h
  | licensesWithoutExtension =>
      exact congrArg (StringMap.map Path.spelling) (StringMap.ofList_perm h distinct)
  | missingLicenses => exact licenseFiles_eq_of_reordered h distinct once
  | unusedLicenses => exact ofList_eq_of_perm h
  | usedLicenses => exact ofList_eq_of_perm h
  | readErrors => exact spellings_eq_of_perm h once
  | filesWithoutCopyright => exact spellings_eq_of_perm h once
  | filesWithoutLicenses => exact spellings_eq_of_perm h once
  | fileTotal => exact h

/-- Without repeated ids the spellings of the files of a license id are found under it. -/
theorem get?_spellings_licenseFiles {es : List (String × List Path)}
    (distinct : (es.map (·.1)).Nodup) {license : String} {files : List Path}
    (h : (license, files) ∈ es) :
    ((licenseFiles es).map PathSet.spellings).get? license =
      some (PathSet.ofList files).spellings := by
  rw [licenseFiles, StringMap.get?_map, StringMap.get?_map,
    StringMap.get?_ofList_of_mem distinct h]
  rfl

/-- Files of one license id in another order can be told apart, if a path among them is spelled
twice. -/
theorem exists_filesReordered {es : List (String × List Path)} (distinct : (es.map (·.1)).Nodup)
    {e : String × List Path} (he : e ∈ es) (twice : ¬ Path.SpelledOnce e.2) :
    ∃ ds, FilesReordered es ds ∧
      (licenseFiles ds).map PathSet.spellings ≠ (licenseFiles es).map PathSet.spellings := by
  obtain ⟨license, files⟩ := e
  obtain ⟨files', perm, ne⟩ := PathSet.exists_perm_spellings_ne twice
  obtain ⟨front, back, rfl⟩ := List.append_of_mem he
  have distinct' : ((front ++ (license, files') :: back).map (·.1)).Nodup := by
    rwa [List.map_append, List.map_cons] at distinct ⊢
  -- only the files of this id change their order, and they are what is found under it
  refine ⟨front ++ (license, files') :: back, ⟨_, .refl _, ?_⟩, fun eq => ne ?_⟩
  · refine List.rel_append (List.forall₂_same.2 fun _ _ => ⟨rfl, .refl _⟩) (.cons ⟨rfl, perm⟩ ?_)
    exact List.forall₂_same.2 fun _ _ => ⟨rfl, .refl _⟩
  · have found := get?_spellings_licenseFiles distinct' (List.mem_append_right _ List.mem_cons_self)
    rw [eq, get?_spellings_licenseFiles distinct he] at found
    exact (Option.some.inj found).symm

/-- **If a path is spelled twice, some other order tells another spelling.** -/
theorem Field.exists_reordered_told_ne {f : Field} {value : f.Value}
    (distinct : f.KeysDistinct value) (twice : ¬ f.SpelledOnce value) :
    ∃ value', f.Reordered value value' ∧ f.told value' ≠ f.told value := by
  have files : ∀ {es : List (String × List Path)}, ¬ (∀ e ∈ es, Path.SpelledOnce e.2) →
      ∃ e ∈ es, ¬ Path.SpelledOnce e.2 := by
    intro es h
    simpa only [not_forall, exists_prop] using h
  cases f with
  | badLicenses =>
      obtain ⟨e, he, twice⟩ := files twice
      exact exists_filesReordered distinct he twice
  | missingLicenses =>
      obtain ⟨e, he, twice⟩ := files twice
      exact exists_filesReordered distinct he twice
  | readErrors => exact PathSet.exists_perm_spellings_ne twice
  | filesWithoutCopyright => exact PathSet.exists_perm_spellings_ne twice
  | filesWithoutLicenses => exact PathSet.exists_perm_spellings_ne twice
  | _ => exact absurd trivial twice

/-! ### Reordered documents -/

/-- Entries that differ only in the order of sets and of the members of objects. -/
inductive EntryReordered : Json.Entry schema → Json.Entry schema → Prop
  | known {f : Field} {value value' : f.Value} :
      f.Reordered value value' → EntryReordered (.known f value) (.known f value')
  | unknown (key : String) : EntryReordered (.unknown key) (.unknown key)

theorem EntryReordered.refl (e : Json.Entry schema) : EntryReordered e e := by
  cases e with
  | known f value => exact .known (Field.Reordered.refl f value)
  | unknown key => exact .unknown key

/-- The value of a field that is not given. -/
def Field.absent : (f : Field) → f.Value
  | badLicenses => []
  | deprecatedLicenses => []
  | licensesWithoutExtension => []
  | missingLicenses => []
  | unusedLicenses => []
  | usedLicenses => []
  | readErrors => []
  | filesWithoutCopyright => []
  | filesWithoutLicenses => []
  | fileTotal => 0

namespace Document

/-- Documents that differ only in the order of sets and of the members of objects. -/
def Reordered (d d' : Document) : Prop := ∃ c, d.Perm c ∧ List.Forall₂ EntryReordered c d'

/-- No key is given twice in an object that stands for a field. -/
def KeysDistinct (d : Document) : Prop :=
  ∀ (f : Field) (value : f.Value), .known f value ∈ d → f.KeysDistinct value

/-- No path is spelled in two ways in one array. -/
def SpelledOnce (d : Document) : Prop :=
  ∀ (f : Field) (value : f.Value), .known f value ∈ d → f.SpelledOnce value

/-- What stands for a field, or what it is if it is not given. -/
def valueOf (d : Document) (f : Field) : f.Value := (d.value? f).getD f.absent

variable {d d' : Document}

/-- Reordered documents give the same fields. -/
theorem Reordered.fields (h : d.Reordered d') :
    (Json.Entry.fields d).Perm (Json.Entry.fields d') := by
  obtain ⟨c, perm, same⟩ := h
  have eq : Json.Entry.fields c = Json.Entry.fields d' := by
    clear perm
    induction same with
    | nil => rfl
    | cons he _ ih =>
        cases he with
        | known _ => rw [Json.Entry.fields_known, Json.Entry.fields_known, ih]
        | unknown key => rw [Json.Entry.fields_unknown, Json.Entry.fields_unknown, ih]
  rw [← eq]
  exact perm.filterMap _

/-- A field of a reordered document has a reordered value. -/
theorem Reordered.known (h : d.Reordered d') {f : Field} {value : f.Value}
    (hf : .known f value ∈ d) : ∃ value', .known f value' ∈ d' ∧ f.Reordered value value' := by
  obtain ⟨c, perm, same⟩ := h
  have hc := perm.mem_iff.1 hf
  clear perm hf
  induction same with
  | nil => cases hc
  | cons he _ ih =>
      rcases List.mem_cons.1 hc with rfl | hc
      · cases he with
        | known reordered => exact ⟨_, List.mem_cons_self, reordered⟩
      · obtain ⟨value', hf, reordered⟩ := ih hc
        exact ⟨value', List.mem_cons_of_mem _ hf, reordered⟩

theorem Reordered.unknown (h : d.Reordered d') {key : String}
    (hkey : Json.Entry.unknown key ∈ d') : Json.Entry.unknown key ∈ d := by
  obtain ⟨c, perm, same⟩ := h
  refine perm.mem_iff.2 ?_
  clear perm
  induction same with
  | nil => cases hkey
  | cons he _ ih =>
      rcases List.mem_cons.1 hkey with rfl | hkey
      · cases he with
        | unknown => exact List.mem_cons_self
      · exact List.mem_cons_of_mem _ (ih hkey)

theorem Reordered.sound (h : d.Reordered d') (sound : Json.Entry.Sound d) :
    Json.Entry.Sound d' where
  once := h.fields.nodup_iff.1 sound.once
  unknown := fun key hkey => sound.unknown key (h.unknown hkey)

theorem valueOf_of_mem (sound : Json.Entry.Sound d) {f : Field} {value : f.Value}
    (h : .known f value ∈ d) : d.valueOf f = value := by
  rw [valueOf, value?, (Json.Entry.value?_eq_some_iff sound.once).2 h]
  rfl

theorem valueOf_of_not_mem (sound : Json.Entry.Sound d) {f : Field}
    (h : f ∉ Json.Entry.fields d) : d.valueOf f = f.absent := by
  cases found : d.value? f with
  | none => rw [valueOf, found, Option.getD_none]
  | some value =>
      have mem := (Json.Entry.value?_eq_some_iff sound.once).1 found
      exact absurd (Json.Entry.mem_fields_iff.2 ⟨value, mem⟩) h

/-- What is told of a document, by field. -/
def told (d : Document) (f : Field) : f.Told := f.told (d.valueOf f)

/-- What is told does not depend on the order, if paths are spelled once. -/
theorem told_eq_of_reordered (h : d.Reordered d') (sound : Json.Entry.Sound d)
    (distinct : d.KeysDistinct) (once : d.SpelledOnce) (f : Field) : d.told f = d'.told f := by
  -- a field is given by one entry in both documents, or by none in either
  by_cases given : f ∈ Json.Entry.fields d
  · obtain ⟨value, hf⟩ := Json.Entry.mem_fields_iff.1 given
    obtain ⟨value', hf', reordered⟩ := h.known hf
    rw [told, told, valueOf_of_mem sound hf, valueOf_of_mem (h.sound sound) hf']
    exact Field.told_eq_of_reordered reordered (distinct f value hf) (once f value hf)
  · have given' : f ∉ Json.Entry.fields d' := fun hf => given (h.fields.mem_iff.2 hf)
    rw [told, told, valueOf_of_not_mem sound given, valueOf_of_not_mem (h.sound sound) given']

/-- If a path is spelled twice, some other order tells another spelling. -/
theorem exists_reordered_told_ne (sound : Json.Entry.Sound d) (distinct : d.KeysDistinct)
    (twice : ¬ d.SpelledOnce) :
    ∃ d' f, d.Reordered d' ∧ d'.told f ≠ d.told f ∧ f ≠ .licensesWithoutExtension := by
  simp only [SpelledOnce, not_forall] at twice
  obtain ⟨f, value, hf, twice⟩ := twice
  obtain ⟨value', reordered, ne⟩ := Field.exists_reordered_told_ne (distinct f value hf) twice
  obtain ⟨front, back, rfl⟩ := List.append_of_mem hf
  have h : Reordered (front ++ .known f value :: back) (front ++ .known f value' :: back) := by
    refine ⟨_, .refl _, List.rel_append ?_ (.cons (.known reordered) ?_)⟩
    · exact List.forall₂_same.2 fun e _ => .refl e
    · exact List.forall₂_same.2 fun e _ => .refl e
  refine ⟨_, f, h, ?_, ?_⟩
  · rw [told, told, valueOf_of_mem sound hf,
      valueOf_of_mem (h.sound sound) (List.mem_append_right _ List.mem_cons_self)]
    exact ne
  · rintro rfl
    exact twice trivial

end Document

/-! ### Reports -/

/-- The classification of a snapshot of which the given things are told. -/
def classificationOf (told : (f : Field) → f.Told) : Classification where
  badLicenses := told .badLicenses
  deprecatedLicenses := told .deprecatedLicenses
  licensesWithoutExtension := told .licensesWithoutExtension
  missingLicenses := told .missingLicenses
  unusedLicenses := told .unusedLicenses
  usedLicenses := told .usedLicenses
  readErrors := told .readErrors
  missingInfo := .split (told .filesWithoutCopyright) (told .filesWithoutLicenses)
  fileTotal := told .fileTotal

/-- Reports are about what is told of a document. -/
theorem classify_ofDocument (d : Document) : (ofDocument d).classify = classificationOf d.told :=
  rfl

/-- A set that was split is put together again by what the other set has and what it lacks. -/
theorem mem_iff_mem_split (copyright licensing : StringSet) (x : String) :
    (x ∈ copyright ↔ x ∈ (MissingInfo.split copyright licensing).both ∨
      x ∈ (MissingInfo.split copyright licensing).copyrightOnly) ∧
    (x ∈ licensing ↔ x ∈ (MissingInfo.split copyright licensing).both ∨
      x ∈ (MissingInfo.split copyright licensing).licensingOnly) := by
  simp only [MissingInfo.split, StringSet.mem_inter, StringSet.mem_diff]
  by_cases hc : x ∈ copyright
  · by_cases hl : x ∈ licensing
    · simp [hc, hl]
    · simp [hc, hl]
  · by_cases hl : x ∈ licensing
    · simp [hc, hl]
    · simp [hc, hl]

theorem eq_of_split_eq {copyright licensing copyright' licensing' : StringSet}
    (h : MissingInfo.split copyright licensing = .split copyright' licensing') :
    copyright = copyright' ∧ licensing = licensing' := by
  constructor
  · refine StringSet.ext_mem fun x => ?_
    rw [(mem_iff_mem_split copyright licensing x).1, h,
      ← (mem_iff_mem_split copyright' licensing' x).1]
  · refine StringSet.ext_mem fun x => ?_
    rw [(mem_iff_mem_split copyright licensing x).2, h,
      ← (mem_iff_mem_split copyright' licensing' x).2]

/-- A record shows all that is told of a document, except which license id has which text without an
extension. -/
theorem told_eq_of_record_eq {told told' : (f : Field) → f.Told} {specVersion : String}
    (h : (Report.mk (classificationOf told) specVersion).record =
      (Report.mk (classificationOf told') specVersion).record) {f : Field}
    (hf : f ≠ .licensesWithoutExtension) : told f = told' f := by
  have missing := eq_of_split_eq (congrArg Record.missingInfo h)
  cases f with
  | badLicenses => exact congrArg Record.badLicenses h
  | deprecatedLicenses => exact congrArg Record.deprecatedLicenses h
  | licensesWithoutExtension => exact absurd rfl hf
  | missingLicenses => exact congrArg Record.missingLicenses h
  | unusedLicenses => exact congrArg Record.unusedLicenses h
  | usedLicenses => exact congrArg Record.usedLicenses h
  | readErrors => exact congrArg Record.readErrors h
  | filesWithoutCopyright => exact missing.1
  | filesWithoutLicenses => exact missing.2
  | fileTotal => exact congrArg (fun r => r.summary.withCopyright.total) h

/-- What a report on a document delivers. -/
def Document.report (d : Document) (format : Format) (specVersion : String) : List UInt8 :=
  ((Report.ofSnapshot (ofDocument d) specVersion).deliver format .unlimited).1

/-- **Reports are independent of the order of an input exactly if it spells paths once.**  Let an
input give no key twice in an object.  Then all inputs that differ from it in the order of sets and
of members only have its reports, in either format and for every version, exactly if no two spellings
of one path stand in one array. -/
theorem Document.reports_eq_iff {input : List UInt8} {d : Document}
    (accepted : Document.read .finished input = .ok d) (distinct : d.KeysDistinct) :
    (∀ (input' : List UInt8) (d' : Document), Document.read .finished input' = .ok d' →
      d.Reordered d' → ∀ format specVersion,
        d'.report format specVersion = d.report format specVersion) ↔ d.SpelledOnce := by
  have sound := Document.sound_of_read accepted
  constructor
  · intro same
    by_contra twice
    -- an order that tells another spelling has another record, which the JSON report shows
    obtain ⟨d', f, reordered, ne, hf⟩ := Document.exists_reordered_told_ne sound distinct twice
    have equal := same _ d' (Document.read_text (reordered.sound sound)) reordered .json ""
    have records := Record.read_delivered (Report.ofSnapshot (ofDocument d') "")
    rw [← Document.report, equal, Document.report, Record.read_delivered] at records
    have records' : (Report.mk (classificationOf d.told) "").record =
        (Report.mk (classificationOf d'.told) "").record := Except.ok.inj records
    exact ne (told_eq_of_record_eq records' hf).symm
  · intro once input' d' _ reordered format specVersion
    have told : d'.told = d.told :=
      funext fun f => (Document.told_eq_of_reordered reordered sound distinct once f).symm
    rw [Document.report, Document.report, Report.ofSnapshot, Report.ofSnapshot,
      classify_ofDocument, classify_ofDocument, told]

/-- The document that gives one set of files, those that could not be read. -/
def Document.unreadable (spellings : List String) : Document :=
  [.known .readErrors (spellings.map Path.ofSpelling)]

theorem Document.keysDistinct_unreadable (spellings : List String) :
    (unreadable spellings).KeysDistinct := by
  intro f value h
  cases List.mem_singleton.1 h
  trivial

theorem Document.reports_eq_of_two_files :
    Document.read .finished (Text.bytes "\x7b\"read_errors\":[\"a\",\"b\"]\x7d") =
      .ok (Document.unreadable ["a", "b"]) ∧
    ∀ (input' : List UInt8) (d' : Document), Document.read .finished input' = .ok d' →
      (Document.unreadable ["a", "b"]).Reordered d' → ∀ format specVersion,
        d'.report format specVersion =
          (Document.unreadable ["a", "b"]).report format specVersion := by
  have accepted : Document.read .finished (Text.bytes "\x7b\"read_errors\":[\"a\",\"b\"]\x7d") =
      .ok (Document.unreadable ["a", "b"]) := rfl
  refine ⟨accepted, (reports_eq_iff accepted (keysDistinct_unreadable _)).2 ?_⟩
  intro f value h
  cases List.mem_singleton.1 h
  intro p hp q hq
  revert p q
  decide

/-- **Two spellings of one path in either order give different reports.** -/
theorem Document.reports_ne_of_two_spellings :
    Document.read .finished (Text.bytes "\x7b\"read_errors\":[\"a/b\",\"a//b\"]\x7d") =
      .ok (Document.unreadable ["a/b", "a//b"]) ∧
    Document.read .finished (Text.bytes "\x7b\"read_errors\":[\"a//b\",\"a/b\"]\x7d") =
      .ok (Document.unreadable ["a//b", "a/b"]) ∧
    (Document.unreadable ["a/b", "a//b"]).Reordered (Document.unreadable ["a//b", "a/b"]) ∧
    (Document.unreadable ["a/b", "a//b"]).KeysDistinct ∧
    (Document.unreadable ["a/b", "a//b"]).report .plain "3.3" ≠
      (Document.unreadable ["a//b", "a/b"]).report .plain "3.3" ∧
    (Document.unreadable ["a/b", "a//b"]).report .json "3.3" ≠
      (Document.unreadable ["a//b", "a/b"]).report .json "3.3" := by
  refine ⟨rfl, rfl, ?_, keysDistinct_unreadable _, ?_, ?_⟩
  · refine ⟨_, .refl _, .cons (.known ?_) .nil⟩
    exact List.Perm.swap _ _ _
  · decide +kernel
  · decide +kernel

end Compliance.Snapshot
