/-
**Documents that say the same in other words.**

A document can be changed without a change of what it says: its arrays are sets and its objects are
maps, so order and repetitions are accidental; a field that is empty or zero can be left out, and what
the record does not know can be added; and one path has many spellings.  The messages about
inconsistent counts, the active categories, the verdict, the exit status and the whole summary
survive all of these changes.  Reports survive those that keep the spelling of paths, if no array
spells a path in two ways.

Main definitions:

* `SameElements`, `MembersRestated` — arrays and objects that say the same;
* `Snapshot.Field.Restated`, `Snapshot.Document.Restated` — fields and documents that say the same, up
  to a relation of their paths;
* `World.Swaps` — worlds that differ in one document only.

Main results:

* `Snapshot.Document.Restated.valueOf` — **a document that says the same has fields that do**;
* `Snapshot.Document.tally_eq_of_restated`, `Snapshot.Document.told_eq_of_restated` — what is counted
  and what is told of them;
* `Snapshot.Document.facts_eq_of_restated` — what this means for the facts of a report, for the exit
  status and for the report itself.
-/

import Compliance.Proofs.CommandLine
import Compliance.Proofs.Snapshot.Order
import Compliance.Proofs.Snapshot.Tally

set_option relaxedAutoImplicit false
set_option autoImplicit false

namespace Compliance

/-! ### Arrays and objects -/

section Collections

variable {α β : Type} {R : α → α → Prop}

/-- Lists whose elements correspond to each other.  Neither order nor repetitions count. -/
structure SameElements (R : α → α → Prop) (xs ys : List α) : Prop where
  left : ∀ x ∈ xs, ∃ y ∈ ys, R x y
  right : ∀ y ∈ ys, ∃ x ∈ xs, R x y

theorem sameElements_equivalence (h : Equivalence R) : Equivalence (SameElements R) where
  refl := fun xs => ⟨fun x hx => ⟨x, hx, h.refl x⟩, fun x hx => ⟨x, hx, h.refl x⟩⟩
  symm := fun same => by
    constructor
    · intro y hy
      obtain ⟨x, hx, related⟩ := same.right y hy
      exact ⟨x, hx, h.symm related⟩
    · intro x hx
      obtain ⟨y, hy, related⟩ := same.left x hx
      exact ⟨y, hy, h.symm related⟩
  trans := fun first second => by
    constructor
    · intro x hx
      obtain ⟨y, hy, related⟩ := first.left x hx
      obtain ⟨z, hz, related'⟩ := second.left y hy
      exact ⟨z, hz, h.trans related related'⟩
    · intro z hz
      obtain ⟨y, hy, related⟩ := second.right z hz
      obtain ⟨x, hx, related'⟩ := first.right y hy
      exact ⟨x, hx, h.trans related' related⟩

theorem SameElements.mem_iff {xs ys : List α} (h : SameElements Eq xs ys) (x : α) :
    x ∈ xs ↔ x ∈ ys := by
  constructor
  · intro hx
    obtain ⟨y, hy, rfl⟩ := h.left x hx
    exact hy
  · intro hy
    obtain ⟨y, hx, rfl⟩ := h.right x hy
    exact hx

/-- Members of an object that say the same: values are restated, or members whose names are distinct
are put in another order. -/
inductive MembersRestated (R : α → α → Prop) : List (String × α) → List (String × α) → Prop
  | values {es ds : List (String × α)} :
      List.Forall₂ (fun e d => e.1 = d.1 ∧ R e.2 d.2) es ds → MembersRestated R es ds
  | order {es ds : List (String × α)} :
      (es.map (·.1)).Nodup → es.Perm ds → MembersRestated R es ds
  | trans {es ds cs : List (String × α)} :
      MembersRestated R es ds → MembersRestated R ds cs → MembersRestated R es cs

theorem MembersRestated.symm (h : ∀ {x y}, R x y → R y x) {es ds : List (String × α)}
    (restated : MembersRestated R es ds) : MembersRestated R ds es := by
  induction restated with
  | values same =>
      refine .values (same.flip.imp fun d e related => ?_)
      exact ⟨related.1.symm, h related.2⟩
  | order distinct perm => exact .order ((perm.map (·.1)).nodup_iff.1 distinct) perm.symm
  | trans _ _ first second => exact .trans second first

theorem membersRestated_equivalence (h : Equivalence R) : Equivalence (MembersRestated R) where
  refl := fun _ => .values (List.forall₂_same.2 fun e _ => ⟨rfl, h.refl e.2⟩)
  symm := fun restated => restated.symm h.symm
  trans := .trans

/-- What is taken from values that are restated one by one is the same, if it is for each value that
has a given property. -/
theorem map_eq_of_values {P : α → Prop} {f : α → β} (kept : ∀ {x y}, R x y → (P x ↔ P y))
    (same : ∀ {x y}, R x y → P x → f x = f y) {es ds : List (String × α)}
    (h : List.Forall₂ (fun e d => e.1 = d.1 ∧ R e.2 d.2) es ds) :
    ((∀ e ∈ es, P e.2) ↔ ∀ d ∈ ds, P d.2) ∧
      ((∀ e ∈ es, P e.2) → es.map (fun e => (e.1, f e.2)) = ds.map fun d => (d.1, f d.2)) := by
  induction h with
  | nil => exact ⟨Iff.rfl, fun _ => rfl⟩
  | cons first _ ih =>
      rw [List.forall_mem_cons, List.forall_mem_cons, kept first.2, ih.1]
      refine ⟨Iff.rfl, ?_⟩
      rintro ⟨hd, hds⟩
      rw [List.map_cons, List.map_cons, first.1, same first.2 ((kept first.2).2 hd),
        ih.2 (ih.1.2 hds)]

/-- What is taken from the values of an object does not depend on how it is stated, if it does not for
each value that has a given property. -/
theorem MembersRestated.map_ofList {P : α → Prop} {f : α → β}
    (kept : ∀ {x y}, R x y → (P x ↔ P y)) (same : ∀ {x y}, R x y → P x → f x = f y)
    {es ds : List (String × α)} (h : MembersRestated R es ds) :
    ((∀ e ∈ es, P e.2) ↔ ∀ d ∈ ds, P d.2) ∧
      ((∀ e ∈ es, P e.2) → (StringMap.ofList es).map f = (StringMap.ofList ds).map f) := by
  simp only [StringMap.map_ofList]
  induction h with
  | values related =>
      obtain ⟨all, equal⟩ := map_eq_of_values (P := P) (f := f) kept same related
      exact ⟨all, fun h => congrArg StringMap.ofList (equal h)⟩
  | order distinct perm =>
      refine ⟨forall_congr' fun e => by rw [perm.mem_iff], fun _ => ?_⟩
      refine StringMap.ofList_perm (perm.map _) ?_
      rw [List.map_map]
      exact distinct
  | trans _ _ first second =>
      exact ⟨first.1.trans second.1, fun h => (first.2 h).trans (second.2 (first.1.1 h))⟩

/-- The keys of an object do not depend on how its values are stated. -/
theorem MembersRestated.keys_ofList {es ds : List (String × α)} (h : MembersRestated R es ds) :
    (StringMap.ofList es).keys = (StringMap.ofList ds).keys := by
  have forgotten := (h.map_ofList (P := fun _ => True) (f := fun _ => ()) (fun _ => Iff.rfl)
    (fun _ _ => rfl)).2 fun _ _ => trivial
  have keys := congrArg StringMap.keys forgotten
  rwa [StringMap.keys_map, StringMap.keys_map] at keys

end Collections

/-! ### Paths -/

/-- Paths that lead the same way, however they are spelled. -/
def Path.SameRoute (p q : Path) : Prop := p.route = q.route

theorem Path.sameRoute_equivalence : Equivalence Path.SameRoute :=
  ⟨fun _ => rfl, fun h => Eq.symm h, fun h h' => Eq.trans h h'⟩

/-- The routes of a set are those of the paths that it was built from. -/
theorem PathSet.mem_routes_ofList {ps : List Path} {r : Path.Route} :
    r ∈ (ofList ps).toList.map (·.route) ↔ r ∈ ps.map (·.route) := by
  rw [List.mem_map, List.mem_map]
  constructor
  · rintro ⟨p, hp, rfl⟩
    exact ⟨p, (firsts_sublist ps).subset hp, rfl⟩
  · rintro ⟨p, hp, rfl⟩
    exact exists_mem_ofList hp

/-- **Sets of the same files have the same size**, however these are spelled. -/
theorem PathSet.size_ofList_eq {ps qs : List Path} (h : SameElements Path.SameRoute ps qs) :
    (ofList ps).size = (ofList qs).size := by
  have nodup : ∀ s : PathSet, (s.toList.map (·.route)).Nodup := by
    intro s
    rw [List.Nodup, List.pairwise_map]
    exact s.apart
  have routes : ∀ r, r ∈ ps.map (·.route) ↔ r ∈ qs.map (·.route) := by
    intro r
    rw [List.mem_map, List.mem_map]
    constructor
    · rintro ⟨p, hp, rfl⟩
      obtain ⟨q, hq, same⟩ := h.left p hp
      exact ⟨q, hq, same.symm⟩
    · rintro ⟨q, hq, rfl⟩
      obtain ⟨p, hp, same⟩ := h.right q hq
      exact ⟨p, hp, same⟩
  have perm : ((ofList ps).toList.map (·.route)).Perm ((ofList qs).toList.map (·.route)) := by
    refine (List.perm_ext_iff_of_nodup (nodup _) (nodup _)).2 fun r => ?_
    rw [mem_routes_ofList, mem_routes_ofList]
    exact routes r
  have length := perm.length_eq
  rwa [List.length_map, List.length_map] at length

theorem Path.spelledOnce_iff {ps qs : List Path} (h : SameElements Eq ps qs) :
    Path.SpelledOnce ps ↔ Path.SpelledOnce qs := by
  simp only [Path.SpelledOnce, h.mem_iff]

/-- The same paths have the same spellings, if they are spelled once. -/
theorem PathSet.spellings_ofList_eq {ps qs : List Path} (h : SameElements Eq ps qs)
    (once : Path.SpelledOnce ps) : (ofList ps).spellings = (ofList qs).spellings := by
  rw [spellings_ofList once, spellings_ofList ((Path.spelledOnce_iff h).1 once)]
  refine StringSet.ofList_congr fun x => ?_
  simp only [List.mem_map, h.mem_iff]

namespace Snapshot

/-! ### Fields -/

namespace Field

variable {R : Path → Path → Prop}

/-- Values of a field that say the same, up to a relation of paths: sets in another order and with
other repetitions, members of objects in another order, and related paths. -/
def Restated (R : Path → Path → Prop) : (f : Field) → f.Value → f.Value → Prop
  | badLicenses => MembersRestated (SameElements R)
  | deprecatedLicenses => SameElements Eq
  | licensesWithoutExtension => MembersRestated R
  | missingLicenses => MembersRestated (SameElements R)
  | unusedLicenses => SameElements Eq
  | usedLicenses => SameElements Eq
  | readErrors => SameElements R
  | filesWithoutCopyright => SameElements R
  | filesWithoutLicenses => SameElements R
  | fileTotal => Eq

theorem restated_equivalence (h : Equivalence R) (f : Field) : Equivalence (f.Restated R) := by
  have ids : Equivalence (SameElements (Eq : String → String → Prop)) :=
    sameElements_equivalence eq_equivalence
  have paths := sameElements_equivalence h
  cases f with
  | badLicenses => exact membersRestated_equivalence paths
  | deprecatedLicenses => exact ids
  | licensesWithoutExtension => exact membersRestated_equivalence h
  | missingLicenses => exact membersRestated_equivalence paths
  | unusedLicenses => exact ids
  | usedLicenses => exact ids
  | readErrors => exact paths
  | filesWithoutCopyright => exact paths
  | filesWithoutLicenses => exact paths
  | fileTotal => exact eq_equivalence

theorem ofList_eq_of_restated {xs ys : List String} (h : SameElements Eq xs ys) :
    StringSet.ofList xs = StringSet.ofList ys := StringSet.ofList_congr h.mem_iff

/-- The spellings of files by license id do not depend on how these are stated, if every path is
spelled once. -/
theorem licenseFiles_eq_of_restated {es ds : List (String × List Path)}
    (h : MembersRestated (SameElements Eq) es ds) (once : ∀ e ∈ es, Path.SpelledOnce e.2) :
    (licenseFiles es).map PathSet.spellings = (licenseFiles ds).map PathSet.spellings := by
  have told := (h.map_ofList (P := Path.SpelledOnce) (f := fun ps => (PathSet.ofList ps).spellings)
    Path.spelledOnce_iff PathSet.spellings_ofList_eq).2 once
  rwa [StringMap.map_ofList, StringMap.map_ofList, ← map_spellings_licenseFiles,
    ← map_spellings_licenseFiles] at told

/-- **What is told of a field does not depend on how it is stated**, if its paths keep their spelling
and are spelled once. -/
theorem told_eq_of_restated {f : Field} {value value' : f.Value} (h : f.Restated Eq value value')
    (once : f.SpelledOnce value) : f.told value = f.told value' := by
  cases f with
  | badLicenses => exact licenseFiles_eq_of_restated h once
  | deprecatedLicenses => exact ofList_eq_of_restated h
  | licensesWithoutExtension =>
      exact (h.map_ofList (P := fun _ => True) (fun _ => Iff.rfl)
        (fun same _ => congrArg Path.spelling same)).2 fun _ _ => trivial
  | missingLicenses => exact licenseFiles_eq_of_restated h once
  | unusedLicenses => exact ofList_eq_of_restated h
  | usedLicenses => exact ofList_eq_of_restated h
  | readErrors => exact PathSet.spellings_ofList_eq h once
  | filesWithoutCopyright => exact PathSet.spellings_ofList_eq h once
  | filesWithoutLicenses => exact PathSet.spellings_ofList_eq h once
  | fileTotal => exact h

theorem spelledOnce_absent (f : Field) : f.SpelledOnce f.absent := by
  cases f with
  | badLicenses => exact fun _ h => absurd h List.not_mem_nil
  | missingLicenses => exact fun _ h => absurd h List.not_mem_nil
  | readErrors => exact fun _ h => absurd h List.not_mem_nil
  | filesWithoutCopyright => exact fun _ h => absurd h List.not_mem_nil
  | filesWithoutLicenses => exact fun _ h => absurd h List.not_mem_nil
  | _ => exact trivial

end Field

/-! ### Documents -/

namespace Document

open Json (Entry)

variable {R : Path → Path → Prop} {d d' : Document}

/-- Documents that say the same, up to a relation of paths. -/
inductive Restated (R : Path → Path → Prop) : Document → Document → Prop
  /-- Members are put in another order. -/
  | order {d d' : Document} : d.Perm d' → Restated R d d'
  /-- The value of a field is restated. -/
  | value {f : Field} {value value' : f.Value} (d : Document) :
      f.Restated R value value' → Restated R (.known f value :: d) (.known f value' :: d)
  /-- A member that the record does not know is added. -/
  | unknown {key : String} (d : Document) :
      schema.field? key = none → Restated R d (.unknown key :: d)
  /-- A field that is empty or zero is left out. -/
  | omitted {f : Field} (d : Document) :
      f ∉ Entry.fields d → Restated R (.known f f.absent :: d) d
  | symm {d d' : Document} : Restated R d d' → Restated R d' d
  | trans {d d' d'' : Document} : Restated R d d' → Restated R d' d'' → Restated R d d''

/-! ### The fields of restated documents -/

theorem sound_of_perm (h : d.Perm d') (sound : Entry.Sound d) : Entry.Sound d' where
  once := (h.filterMap _).nodup_iff.1 sound.once
  unknown := fun key hkey => sound.unknown key (h.mem_iff.2 hkey)

theorem sound_known_iff {f : Field} {value : f.Value} :
    Entry.Sound (.known f value :: d : Document) ↔ f ∉ Entry.fields d ∧ Entry.Sound d := by
  constructor
  · intro sound
    have once := sound.once
    rw [Entry.fields_known, List.nodup_cons] at once
    exact ⟨once.1, once.2, fun key hkey => sound.unknown key (List.mem_cons_of_mem _ hkey)⟩
  · rintro ⟨new, sound⟩
    exact Json.sound_known value sound new

theorem sound_unknown_iff {key : String} (h : schema.field? key = none) :
    Entry.Sound (.unknown key :: d : Document) ↔ Entry.Sound d := by
  constructor
  · intro sound
    exact ⟨sound.once, fun other hother => sound.unknown other (List.mem_cons_of_mem _ hother)⟩
  · exact Json.sound_unknown h

/-- Documents that say the same are sound together. -/
theorem Restated.sound_iff (h : d.Restated R d') : Entry.Sound d ↔ Entry.Sound d' := by
  induction h with
  | order perm => exact ⟨sound_of_perm perm, sound_of_perm perm.symm⟩
  | value d _ => rw [sound_known_iff, sound_known_iff]
  | unknown d key => exact (sound_unknown_iff key).symm
  | omitted d new => rw [sound_known_iff, and_iff_right new]
  | symm _ ih => exact ih.symm
  | trans _ _ first second => exact first.trans second

theorem valueOf_of_perm (h : d.Perm d') (sound : Entry.Sound d) (f : Field) :
    d.valueOf f = d'.valueOf f := by
  have same : d.value? f = d'.value? f := by
    refine Option.ext fun value => ?_
    rw [value?, value?, Entry.value?_eq_some_iff sound.once,
      Entry.value?_eq_some_iff (sound_of_perm h sound).once, h.mem_iff]
  rw [valueOf, valueOf, same]

theorem valueOf_known_self {f : Field} (value : f.Value) (d : Document) :
    valueOf (.known f value :: d) f = value := by
  rw [valueOf, value?, Entry.value?, List.findSome?_cons, Entry.valueOf?_known]
  rfl

theorem valueOf_known_of_ne {f g : Field} (h : g ≠ f) (value : g.Value) (d : Document) :
    valueOf (.known g value :: d) f = d.valueOf f := by
  rw [valueOf, value?, Entry.value?, List.findSome?_cons, Entry.valueOf?_known_of_ne h]
  rfl

/-- **A document that says the same has fields that do.** -/
theorem Restated.valueOf (hR : Equivalence R) (h : d.Restated R d') (sound : Entry.Sound d)
    (f : Field) : f.Restated R (d.valueOf f) (d'.valueOf f) := by
  have equivalence := Field.restated_equivalence hR f
  induction h with
  | order perm =>
      rw [valueOf_of_perm perm sound]
      exact equivalence.refl _
  | @value g value value' d restated =>
      by_cases same : g = f
      · subst same
        rw [valueOf_known_self, valueOf_known_self]
        exact restated
      · rw [valueOf_known_of_ne same, valueOf_known_of_ne same]
        exact equivalence.refl _
  | unknown d key => exact equivalence.refl _
  | @omitted g d new =>
      by_cases same : g = f
      · subst same
        rw [valueOf_known_self, valueOf_of_not_mem (sound_known_iff.1 sound).2 new]
        exact equivalence.refl _
      · rw [valueOf_known_of_ne same]
        exact equivalence.refl _
  | symm restated ih => exact equivalence.symm (ih (restated.sound_iff.2 sound))
  | trans restated _ first second =>
      exact equivalence.trans (first sound) (second (restated.sound_iff.1 sound))

/-! ### What is counted and what is told -/

/-- **What is counted does not depend on how a document is stated**, nor on how it spells paths. -/
theorem tally_eq_of_restated (h : d.Restated Path.SameRoute d') (sound : Entry.Sound d) :
    (ofDocument d).tally = (ofDocument d').tally := by
  have fields := h.valueOf Path.sameRoute_equivalence sound
  have files : ∀ {es ds : List (String × List Path)},
      MembersRestated (SameElements Path.SameRoute) es ds →
      (licenseFiles es).keys = (licenseFiles ds).keys := by
    intro es ds restated
    rw [licenseFiles, licenseFiles, StringMap.keys_map, StringMap.keys_map]
    exact restated.keys_ofList
  have bad := files (fields .badLicenses)
  have deprecated := Field.ofList_eq_of_restated (fields .deprecatedLicenses)
  have extensionless := MembersRestated.keys_ofList (fields .licensesWithoutExtension)
  have missing := files (fields .missingLicenses)
  have unused := Field.ofList_eq_of_restated (fields .unusedLicenses)
  have used := Field.ofList_eq_of_restated (fields .usedLicenses)
  have errors := PathSet.size_ofList_eq (fields .readErrors)
  have copyright := PathSet.size_ofList_eq (fields .filesWithoutCopyright)
  have licensing := PathSet.size_ofList_eq (fields .filesWithoutLicenses)
  have total := fields .fileTotal
  exact Tally.ext bad deprecated extensionless missing unused used errors copyright licensing total

theorem spelledOnce_valueOf (sound : Entry.Sound d) (once : d.SpelledOnce) (f : Field) :
    f.SpelledOnce (d.valueOf f) := by
  by_cases given : f ∈ Entry.fields d
  · obtain ⟨value, hf⟩ := Entry.mem_fields_iff.1 given
    rw [valueOf_of_mem sound hf]
    exact once f value hf
  · rw [valueOf_of_not_mem sound given]
    exact f.spelledOnce_absent

/-- **What is told does not depend on how a document is stated**, if paths keep their spelling and are
spelled once. -/
theorem told_eq_of_restated (h : d.Restated Eq d') (sound : Entry.Sound d) (once : d.SpelledOnce) :
    d.told = d'.told := by
  funext f
  exact Field.told_eq_of_restated (h.valueOf eq_equivalence sound f) (spelledOnce_valueOf sound once f)

end Document

end Snapshot

/-! ### Exit statuses -/

/-- Worlds that differ in one document only: what a source delivers in one of them, it delivers in the
other too, or they deliver the one document and the other; and the same places open. -/
structure World.Swaps (input input' : List UInt8) (w w' : World) : Prop where
  sources : ∀ source, w.bytes? source = w'.bytes? source ∨
    w.bytes? source = some input ∧ w'.bytes? source = some input'
  targets : ∀ target, (∃ opened, w.open target = .ok opened) ↔ ∃ opened, w'.open target = .ok opened

namespace World

variable {input input' : List UInt8}

theorem Swaps.symm {w w' : World} (h : Swaps input input' w w') : Swaps input' input w' w where
  sources := fun source => (h.sources source).imp Eq.symm And.symm
  targets := fun target => (h.targets target).symm

theorem swaps_stdin (tree : FileTree) (sink : Sink) :
    Swaps input input' ⟨tree, ⟨input, none⟩, sink⟩ ⟨tree, ⟨input', none⟩, sink⟩ where
  sources := fun source => by
    cases source with
    | stdin => exact .inr ⟨rfl, rfl⟩
    | file path => exact .inl rfl
  targets := fun target => Iff.rfl

theorem swaps_file (tree : FileTree) (place : FileTree.Place) (stdin : Supply) (sink : Sink) :
    Swaps input input' ⟨tree.write place input, stdin, sink⟩
      ⟨tree.write place input', stdin, sink⟩ where
  sources := fun source => by
    cases source with
    | stdin => exact .inl rfl
    | file path =>
        rcases FileTree.read_write_congr path with same | ⟨read, read'⟩
        · exact .inl (congrArg Except.toOption same)
        · exact .inr ⟨congrArg Except.toOption read, congrArg Except.toOption read'⟩
  targets := fun target => by
    cases target with
    | stdout => exact iff_of_true ⟨_, rfl⟩ ⟨_, rfl⟩
    | discard => exact iff_of_true ⟨_, rfl⟩ ⟨_, rfl⟩
    | file path =>
        have same : (tree.write place input).place path = (tree.write place input').place path :=
          FileTree.place_write_congr path
        simp only [World.open, same]
        split
        · exact iff_of_true ⟨_, rfl⟩ ⟨_, rfl⟩
        · rfl

end World

namespace CommandLine

variable {args : List String} {environment : Option String} {input input' : List UInt8}
  {s s' : Snapshot} {w w' : World}

/-- A run that is ready is ready after the swap too, with the same snapshot or with the other one. -/
theorem Ready.swap (decoded : Snapshot.read .finished input = .ok s)
    (decoded' : Snapshot.read .finished input' = .ok s') (swaps : World.Swaps input input' w w')
    {options : Options} {config : Config} {bytes : List UInt8} {snapshot : Snapshot}
    {opened : Opened} (ready : Ready args environment w options config bytes snapshot opened) :
    ∃ bytes' snapshot' opened',
      Ready args environment w' options config bytes' snapshot' opened' ∧
        (snapshot' = snapshot ∨ snapshot = s ∧ snapshot' = s') := by
  obtain ⟨opened', opens⟩ := (swaps.targets config.target).1 ⟨opened, ready.opens⟩
  rcases swaps.sources config.source with same | ⟨delivered, delivered'⟩
  · exact ⟨bytes, snapshot, opened', ⟨ready.parsed, ready.resolved,
      same.symm.trans ready.delivered, ready.decoded, opens⟩, .inl rfl⟩
  · refine ⟨input', s', opened', ⟨ready.parsed, ready.resolved, delivered', decoded', opens⟩,
      .inr ⟨?_, rfl⟩⟩
    cases delivered.symm.trans ready.delivered
    exact Except.ok.inj (ready.decoded.symm.trans decoded)

/-- **Worlds that differ in a document with the same verdict give the same exit status.** -/
theorem exitStatus_eq_of_swaps (decoded : Snapshot.read .finished input = .ok s)
    (decoded' : Snapshot.read .finished input' = .ok s') (clear : s.Clear ↔ s'.Clear)
    (swaps : World.Swaps input input' w w') (h : w.sink = .unlimited) (h' : w'.sink = .unlimited) :
    (run args environment w).exitStatus = (run args environment w').exitStatus := by
  have zero : (run args environment w).exitStatus = 0 ↔
      (run args environment w').exitStatus = 0 := by
    rw [exitStatus_eq_zero_iff h, exitStatus_eq_zero_iff h']
    refine or_congr Iff.rfl ⟨?_, ?_⟩
    · rintro ⟨options, config, bytes, snapshot, opened, ready, isClear⟩
      obtain ⟨bytes', snapshot', opened', ready', rfl | ⟨rfl, rfl⟩⟩ := ready.swap decoded decoded' swaps
      · exact ⟨options, config, bytes', _, opened', ready', isClear⟩
      · exact ⟨options, config, bytes', _, opened', ready', clear.1 isClear⟩
    · rintro ⟨options, config, bytes, snapshot, opened, ready, isClear⟩
      obtain ⟨bytes', snapshot', opened', ready', rfl | ⟨rfl, rfl⟩⟩ :=
        ready.swap decoded' decoded swaps.symm
      · exact ⟨options, config, bytes', _, opened', ready', isClear⟩
      · exact ⟨options, config, bytes', _, opened', ready', clear.2 isClear⟩
  have status : (run args environment w).exitStatus = 0 ∨ (run args environment w).exitStatus = 1 :=
    exitStatus_eq_zero_or_one h
  have status' :
      (run args environment w').exitStatus = 0 ∨ (run args environment w').exitStatus = 1 :=
    exitStatus_eq_zero_or_one h'
  omega

end CommandLine

namespace Snapshot.Document

/-! ### Facts of a report -/

/-- **The facts of a report survive other words.**  Let two inputs be documents that say the same, up
to the spelling of paths.  Then the messages about inconsistent counts, the active categories, the
verdict and the summary are the same; so is the exit status, whatever the arguments, if the inputs
are what standard input delivers or what stands in a file.  If paths keep their spelling and no array
spells a path in two ways, both have the same reports, in either format and for every version. -/
theorem facts_eq_of_restated {input input' : List UInt8} {d d' : Document}
    (accepted : read .finished input = .ok d) (accepted' : read .finished input' = .ok d')
    (restated : d.Restated Path.SameRoute d') :
    (ofDocument d).violations = (ofDocument d').violations ∧
    (ofDocument d).classify.active = (ofDocument d').classify.active ∧
    (ofDocument d).classify.compliant = (ofDocument d').classify.compliant ∧
    (ofDocument d).classify.summary = (ofDocument d').classify.summary ∧
    (∀ args environment tree,
      (CommandLine.run args environment ⟨tree, ⟨input, none⟩, .unlimited⟩).exitStatus =
        (CommandLine.run args environment ⟨tree, ⟨input', none⟩, .unlimited⟩).exitStatus) ∧
    (∀ args environment (tree : FileTree) place stdin,
      (CommandLine.run args environment ⟨tree.write place input, stdin, .unlimited⟩).exitStatus =
        (CommandLine.run args environment
          ⟨tree.write place input', stdin, .unlimited⟩).exitStatus) ∧
    (d.Restated Eq d' → d.SpelledOnce → ∀ format specVersion,
      d.report format specVersion = d'.report format specVersion) := by
  have sound := sound_of_read accepted
  have tally := tally_eq_of_restated restated sound
  have compliant := compliant_eq_of_tally_eq tally
  have clear : (ofDocument d).Clear ↔ (ofDocument d').Clear := by
    rw [← compliant_classify_iff, ← compliant_classify_iff, compliant]
  have decoded : Snapshot.read .finished input = .ok (ofDocument d) := by
    rw [Snapshot.read, accepted]
    rfl
  have decoded' : Snapshot.read .finished input' = .ok (ofDocument d') := by
    rw [Snapshot.read, accepted']
    rfl
  refine ⟨?_, active_eq_of_tally_eq tally, compliant, ?_, ?_, ?_, ?_⟩
  · rw [violations_eq, violations_eq, tally]
  · rw [summary_classify, summary_classify, tally]
  · intro args environment tree
    exact CommandLine.exitStatus_eq_of_swaps decoded decoded' clear (World.swaps_stdin tree _) rfl rfl
  · intro args environment tree place stdin
    exact CommandLine.exitStatus_eq_of_swaps decoded decoded' clear
      (World.swaps_file tree place stdin _) rfl rfl
  · intro kept once format specVersion
    rw [report, report, Report.ofSnapshot, Report.ofSnapshot, classify_ofDocument,
      classify_ofDocument, told_eq_of_restated kept sound once]

/-- A document with two unreadable files and the number of all files, one less than that. -/
def twoUnreadable (first second : String) : Document :=
  [.known .readErrors [.ofSpelling first, .ofSpelling second], .known .fileTotal 1]

/-- The same document with a field that the record does not know, and with its second file given
twice. -/
def twoUnreadableAnew (first second : String) : Document :=
  [.unknown "x", .known .fileTotal 1,
   .known .readErrors [.ofSpelling second, .ofSpelling first, .ofSpelling second]]

theorem restated_twoUnreadable {R : Path → Path → Prop} {first first' second : String}
    (h : R (.ofSpelling first) (.ofSpelling first'))
    (h' : R (.ofSpelling second) (.ofSpelling second)) :
    (twoUnreadable first second).Restated R (twoUnreadableAnew first' second) := by
  have files : Field.readErrors.Restated R [.ofSpelling first, .ofSpelling second]
      [.ofSpelling second, .ofSpelling first', .ofSpelling second] := by
    constructor
    · simp [h, h']
    · simp [h, h']
  refine (Restated.value _ files).trans ((Restated.order (.swap _ _ _)).trans ?_)
  exact .unknown _ (by decide)

theorem facts_of_twoUnreadable :
    read .finished (Text.bytes "\x7b\"read_errors\":[\"a/b\",\"c\"],\"file_total\":1\x7d") =
      .ok (twoUnreadable "a/b" "c") ∧
    read .finished (Text.bytes
        "\x7b\"x\":[],\"file_total\":1,\"read_errors\":[\"c\",\"a//b\",\"c\"]\x7d") =
      .ok (twoUnreadableAnew "a//b" "c") ∧
    (ofDocument (twoUnreadableAnew "a//b" "c")).violations =
      ["read_errors has 2 entries but file_total is 1"] ∧
    (twoUnreadableAnew "a/b" "c").report .plain "3.3" =
      (twoUnreadable "a/b" "c").report .plain "3.3" := by
  have accepted : read .finished
      (Text.bytes "\x7b\"read_errors\":[\"a/b\",\"c\"],\"file_total\":1\x7d") =
      .ok (twoUnreadable "a/b" "c") := rfl
  have respelled : read .finished (Text.bytes
      "\x7b\"x\":[],\"file_total\":1,\"read_errors\":[\"c\",\"a//b\",\"c\"]\x7d") =
      .ok (twoUnreadableAnew "a//b" "c") := rfl
  have kept : read .finished (Text.bytes
      "\x7b\"x\":[],\"file_total\":1,\"read_errors\":[\"c\",\"a/b\",\"c\"]\x7d") =
      .ok (twoUnreadableAnew "a/b" "c") := rfl
  have once : (twoUnreadable "a/b" "c").SpelledOnce := by
    intro f value hf
    rcases List.mem_cons.1 hf with hf | hf
    · cases hf
      intro p hp q hq
      revert p q
      decide
    · cases List.mem_singleton.1 hf
      trivial
  obtain ⟨violations, _⟩ := facts_eq_of_restated accepted respelled
    (restated_twoUnreadable (by rfl) (by rfl))
  obtain ⟨_, _, _, _, _, _, reports⟩ := facts_eq_of_restated accepted kept
    (restated_twoUnreadable (by rfl) (by rfl))
  refine ⟨accepted, respelled, violations.symm.trans (by decide), ?_⟩
  exact (reports (restated_twoUnreadable rfl rfl) once .plain "3.3").symm

end Snapshot.Document

end Compliance
