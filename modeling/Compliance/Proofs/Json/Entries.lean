/-
**Which entries a record can give.**

No field is given twice in the text of a record, and what is passed over as unknown has a key that is
not that of a field.  These two are the only conditions: entries that satisfy them are spelled by a
text.  As a field has at most one entry, its value does not depend on the order of the entries.

Main definitions:

* `Entry.Sound` — entries that a text can give.

Main results:

* `sound_of_entries` — **entries that are read are sound**;
* `Entry.value?_eq_some_iff` — the value of a field is the one in its entry.
-/

import Compliance.Proofs.Json.Spelling

set_option relaxedAutoImplicit false
set_option autoImplicit false

namespace Compliance.Json

variable {S : Schema}

/-- Entries that a text can give: no field is given twice, and unknown members are not fields. -/
structure Entry.Sound (es : List (Entry S)) : Prop where
  once : (Entry.fields es).Nodup
  unknown : ∀ key, Entry.unknown key ∈ es → S.field? key = none

namespace Entry

theorem mem_fields_iff {f : S.Field} {es : List (Entry S)} :
    f ∈ Entry.fields es ↔ ∃ value, known f value ∈ es := by
  rw [Entry.fields, List.mem_filterMap]
  constructor
  · rintro ⟨e, he, eq⟩
    cases e with
    | known g value =>
        cases eq
        exact ⟨value, he⟩
    | unknown key => cases eq
  · rintro ⟨value, he⟩
    exact ⟨_, he, rfl⟩

/-- The value of a field is the one in its entry. -/
theorem value?_eq_some_iff {es : List (Entry S)} (once : (Entry.fields es).Nodup) {f : S.Field}
    {value : S.Value f} : value? es f = some value ↔ known f value ∈ es := by
  induction es with
  | nil => simp [value?]
  | cons e es ih =>
      rw [value?, List.findSome?_cons, List.mem_cons]
      cases e with
      | known g other =>
          rw [Entry.fields_known, List.nodup_cons] at once
          by_cases same : g = f
          · subst same
            rw [valueOf?_known]
            constructor
            · intro h
              cases h
              exact .inl rfl
            · rintro (h | h)
              · cases h
                rfl
              · exact absurd (mem_fields_iff.2 ⟨value, h⟩) once.1
          · rw [valueOf?_known_of_ne same]
            refine (ih once.2).trans ⟨.inr, ?_⟩
            rintro (h | h)
            · cases h
              exact absurd rfl same
            · exact h
      | unknown key =>
          refine (ih once).trans ⟨.inr, ?_⟩
          rintro (h | h)
          · cases h
          · exact h

end Entry

/-! ### Reading -/

theorem sound_nil : Entry.Sound ([] : List (Entry S)) where
  once := List.nodup_nil
  unknown := fun _ h => absurd h List.not_mem_nil

theorem sound_known {f : S.Field} (value : S.Value f) {es : List (Entry S)} (h : Entry.Sound es)
    (new : f ∉ Entry.fields es) : Entry.Sound (.known f value :: es) where
  once := by
    rw [Entry.fields_known]
    exact List.nodup_cons.2 ⟨new, h.once⟩
  unknown := fun key hk => by
    rcases List.mem_cons.1 hk with hk | hk
    · cases hk
    · exact h.unknown key hk

theorem sound_unknown {key : String} (hkey : S.field? key = none) {es : List (Entry S)}
    (h : Entry.Sound es) : Entry.Sound (.unknown key :: es) where
  once := h.once
  unknown := fun other hk => by
    rcases List.mem_cons.1 hk with hk | hk
    · cases hk
      exact hkey
    · exact h.unknown other hk

/-- Members that are read are sound, and give none of the fields given before. -/
theorem sound_of_recordMembersWithin {ending : Ending} {fuel : Nat} {given : List S.Field}
    {first : Bool} {s rest : List UInt8} {es : List (Entry S)}
    (h : recordMembersWithin S ending fuel given first s = .ok (es, rest)) :
    Entry.Sound es ∧ ∀ f ∈ given, f ∉ Entry.fields es := by
  -- a field is new when it is read, and then counts as given for the members after it
  induction fuel generalizing given first s es with
  | zero => cases h
  | succ fuel ih =>
      rw [recordMembersWithin] at h
      obtain ⟨next, _, h⟩ := bind_eq_ok.1 h
      cases next with
      | closed left =>
          cases h
          exact ⟨sound_nil, fun _ _ => List.not_mem_nil⟩
      | more s =>
          obtain ⟨⟨key, s⟩, _, h⟩ := bind_eq_ok.1 h
          cases known : S.field? key with
          | some f =>
              simp only [known] at h
              split at h
              · cases h
              · rename_i new
                obtain ⟨_, _, h⟩ := bind_eq_ok.1 h
                obtain ⟨⟨value, _⟩, _, h⟩ := bind_eq_ok.1 h
                obtain ⟨⟨es', rest'⟩, others, h⟩ := bind_eq_ok.1 h
                cases h
                obtain ⟨sound, apart⟩ := ih others
                refine ⟨sound_known value sound (apart f List.mem_cons_self), fun g hg => ?_⟩
                rw [Entry.fields_known, List.mem_cons]
                rintro (rfl | later)
                · exact new hg
                · exact apart g (List.mem_cons_of_mem _ hg) later
          | none =>
              simp only [known] at h
              obtain ⟨_, _, h⟩ := bind_eq_ok.1 h
              obtain ⟨_, _, h⟩ := bind_eq_ok.1 h
              obtain ⟨⟨es', rest'⟩, others, h⟩ := bind_eq_ok.1 h
              cases h
              obtain ⟨sound, apart⟩ := ih others
              exact ⟨sound_unknown known sound, apart⟩

/-- Elements that are read give the fields that they stand for, in order. -/
theorem sound_of_recordElements {ending : Ending} {first : Bool} {fs : List S.Field}
    (distinct : fs.Nodup) {s rest : List UInt8} {es : List (Entry S)}
    (h : recordElements S ending first fs s = .ok (es, rest)) :
    Entry.Sound es ∧ ∀ f ∈ Entry.fields es, f ∈ fs := by
  -- an element stands for the next field, and the fields left are distinct from it
  induction fs generalizing first s es with
  | nil =>
      rw [recordElements] at h
      cases closed : closeList ending s with
      | error fault =>
          rw [closed] at h
          cases h
      | ok left =>
          rw [closed] at h
          cases h
          exact ⟨sound_nil, fun _ hf => hf⟩
  | cons f fs ih =>
      rw [recordElements] at h
      obtain ⟨next, _, h⟩ := bind_eq_ok.1 h
      cases next with
      | closed left =>
          cases h
          exact ⟨sound_nil, fun _ hf => absurd hf List.not_mem_nil⟩
      | more s =>
          obtain ⟨⟨value, _⟩, _, h⟩ := bind_eq_ok.1 h
          obtain ⟨⟨es', rest'⟩, others, h⟩ := bind_eq_ok.1 h
          cases h
          obtain ⟨notLater, distinct⟩ := List.nodup_cons.1 distinct
          obtain ⟨sound, among⟩ := ih distinct others
          refine ⟨sound_known value sound fun later => notLater (among f later), fun g hg => ?_⟩
          rw [Entry.fields_known, List.mem_cons] at hg
          rcases hg with rfl | hg
          · exact List.mem_cons_self
          · exact List.mem_cons_of_mem _ (among g hg)

/-- **Entries that are read are sound.** -/
theorem sound_of_entries (distinct : S.fields.Nodup) {ending : Ending} {s rest : List UInt8}
    {es : List (Entry S)} (h : entries S ending s = .ok (es, rest)) : Entry.Sound es := by
  rw [entries, mapped] at h
  cases read : formedEntries S ending s with
  | error fault =>
      rw [read] at h
      cases h
  | ok result =>
      obtain ⟨⟨form, es'⟩, rest'⟩ := result
      rw [read] at h
      cases h
      unfold formedEntries at read
      split at read
      · cases read
      · split at read
        · obtain ⟨⟨_, _⟩, members, read⟩ := bind_eq_ok.1 read
          cases read
          exact (sound_of_recordMembersWithin members).1
        · split at read
          · obtain ⟨⟨_, _⟩, elements, read⟩ := bind_eq_ok.1 read
            cases read
            exact (sound_of_recordElements distinct elements).1
          · cases read

end Compliance.Json
