/-
**What spells a value.**

A text spells a value for a reader if the reader takes exactly that text and gives that value,
whatever blanks come before and whatever can follow.  Spellings are put together along layouts: if
each part of a container spells its part of a value, then the container spells the whole.

Main definitions:

* `Spells`, `Skips` — a text read as a value, and a text passed over as one;
* `SpellsEntry` — a member read as an entry of a record.

Main results:

* `spells_text`, `spells_count`, `spells_flag` — scalars;
* `spells_list`, `spells_dict`, `spells_entries` — **containers are read part by part**;
* `spells_record` — a record whose members give every field;
* `whole_of_spells` — a whole input with nothing but blanks around a value.
-/

import Compliance.Json.Record
import Compliance.Proofs.Json.Counting

set_option relaxedAutoImplicit false
set_option autoImplicit false

namespace Compliance.Json

/-- A text that a reader takes as a value: it starts like one, and it is read up to its end after
any blanks and before anything that can follow. -/
structure Spells {α : Type} (item : Reader α) (c : List UInt8) (x : α) : Prop where
  /-- The text starts like a value. -/
  starts : StartsValue c
  /-- The text is read, and nothing after it. -/
  reads : ∀ {ending : Ending} {w rest : List UInt8}, Blanks w → Follows ending rest →
    item ending (w ++ (c ++ rest)) = .ok (x, rest)

namespace Spells

variable {α β : Type} {item : Reader α} {c : List UInt8} {x : α}

theorem reads_here (h : Spells item c x) {ending : Ending} {rest : List UInt8}
    (hr : Follows ending rest) : item ending (c ++ rest) = .ok (x, rest) :=
  h.reads Blanks.nil hr

theorem mapped (h : Spells item c x) (f : α → β) : Spells (Json.mapped f item) c (f x) where
  starts := h.starts
  reads := fun hw hr => by rw [Json.mapped, h.reads hw hr]; rfl

end Spells

/-! ### Scalars -/

theorem spells_text {l : List UInt8} {s : String} (h : SpellsLiteral l s) (expected : String) :
    Spells (text expected) (byte '"' :: l) s where
  starts := ⟨byte '"', l, rfl, by decide, by decide⟩
  reads := fun {ending w rest} hw _ => by
    rw [text, skipBlank_append hw, List.cons_append, skipBlank_of_not_isBlank (by decide)]
    simp only [if_true]
    exact h ending rest

theorem spells_count (n : UInt64) : Spells count (Text.bytes (toString n.toNat)) n where
  starts := by
    obtain ⟨d, ds, text, digits, -⟩ := exists_digits n.toNat
    obtain ⟨notBlank, notBracket, -⟩ := isDigit_apart (digits d List.mem_cons_self)
    exact ⟨d, ds, text, notBlank, notBracket⟩
  reads := fun hw hr => count_toString n hw hr

theorem word_append (ending : Ending) (ws s : List UInt8) : word ending ws (ws ++ s) = .ok s := by
  induction ws with
  | nil => rfl
  | cons b ws ih => rw [List.cons_append, word, if_pos rfl, ih]

theorem spells_flag (b : Bool) : Spells flag (Text.bytes (if b then "true" else "false")) b where
  starts := by cases b <;> exact ⟨_, _, rfl, by decide, by decide⟩
  reads := fun {ending w rest} hw _ => by
    cases b with
    | true =>
        have text : Text.bytes (if true then "true" else "false") = byte 't' :: trueTail := by
          decide
        rw [text, flag, skipBlank_append hw, List.cons_append,
          skipBlank_of_not_isBlank (by decide)]
        simp only [if_true, word_append]
        rfl
    | false =>
        have text : Text.bytes (if false then "true" else "false") = byte 'f' :: falseTail := by
          decide
        have other : byte 'f' ≠ byte 't' := by decide
        rw [text, flag, skipBlank_append hw, List.cons_append,
          skipBlank_of_not_isBlank (by decide)]
        simp only [if_neg other, if_true, word_append]
        rfl

/-! ### Lists -/

section Containers

variable {α : Type} {item : Reader α}

theorem elementsWithin_of_layout {first : Bool} {t : List UInt8} {cs : List (List UInt8)}
    (h : ListLayout first t cs) {xs : List α} (hs : List.Forall₂ (Spells item) cs xs) {fuel : Nat}
    (hf : cs.length < fuel) (ending : Ending) (rest : List UInt8) :
    elementsWithin item ending fuel first (t ++ rest) = .ok (xs, rest) := by
  -- the layout is followed element by element, and each one takes one unit of fuel
  induction h generalizing xs fuel with
  | close hw =>
      obtain ⟨k, rfl⟩ : ∃ k, fuel = k + 1 := ⟨fuel - 1, by omega⟩
      cases hs
      rw [List.append_assoc, elementsWithin, List.singleton_append, nextElement_close hw]
      rfl
  | first hw hc h ih =>
      obtain ⟨k, rfl⟩ : ∃ k, fuel = k + 1 := ⟨fuel - 1, by omega⟩
      rcases hs with _ | ⟨hx, hxs⟩
      simp only [List.append_assoc, elementsWithin, nextElement_first hw hc, ok_bind,
        hx.reads_here (h.follows ending rest)]
      rw [ih hxs (Nat.lt_of_succ_lt_succ hf)]
      rfl
  | later hw hw' hc h ih =>
      obtain ⟨k, rfl⟩ : ∃ k, fuel = k + 1 := ⟨fuel - 1, by omega⟩
      rcases hs with _ | ⟨hx, hxs⟩
      simp only [List.append_assoc, List.cons_append, elementsWithin,
        nextElement_later hw hw' hc, ok_bind, hx.reads_here (h.follows ending rest)]
      rw [ih hxs (Nat.lt_of_succ_lt_succ hf)]
      rfl

/-- **A list is read element by element.** -/
theorem spells_list {t : List UInt8} {cs : List (List UInt8)} (h : ListLayout true t cs)
    {xs : List α} (hs : List.Forall₂ (Spells item) cs xs) :
    Spells (list item) (byte '[' :: t) xs where
  starts := ⟨byte '[', t, rfl, by decide, by decide⟩
  reads := fun {ending w rest} hw _ => by
    rw [list, skipBlank_append hw, List.cons_append, skipBlank_of_not_isBlank (by decide)]
    simp only [if_true]
    exact elementsWithin_of_layout h hs (h.length_lt_append rest) ending rest

/-! ### Objects with arbitrary keys -/

theorem membersWithin_of_layout {first : Bool} {t : List UInt8} {ms : List (String × List UInt8)}
    (h : ObjectLayout first t ms) {es : List (String × α)}
    (hs : List.Forall₂ (fun m e => m.1 = e.1 ∧ Spells item m.2 e.2) ms es) {fuel : Nat}
    (hf : ms.length < fuel) (ending : Ending) (rest : List UInt8) :
    membersWithin item ending fuel first (t ++ rest) = .ok (es, rest) := by
  induction h generalizing es fuel with
  | close hw =>
      obtain ⟨k, rfl⟩ : ∃ k, fuel = k + 1 := ⟨fuel - 1, by omega⟩
      cases hs
      rw [List.append_assoc, membersWithin, List.singleton_append, nextMember_close hw]
      rfl
  | first hw hk hw' hc h ih =>
      obtain ⟨k, rfl⟩ : ∃ k, fuel = k + 1 := ⟨fuel - 1, by omega⟩
      rcases hs with _ | @⟨_, ⟨key, x⟩, _, es, ⟨rfl, hx⟩, hes⟩
      obtain ⟨l, v, rfl, hl, hv⟩ := hk
      simp only [List.append_assoc, List.cons_append, membersWithin, nextMember_first hw, ok_bind,
        hl ending, List.nil_append, colon_blanks hv, hx.reads hw' (h.follows ending rest)]
      rw [ih hes (Nat.lt_of_succ_lt_succ hf)]
      rfl
  | later hw hw' hk hw'' hc h ih =>
      obtain ⟨k, rfl⟩ : ∃ k, fuel = k + 1 := ⟨fuel - 1, by omega⟩
      rcases hs with _ | @⟨_, ⟨key, x⟩, _, es, ⟨rfl, hx⟩, hes⟩
      obtain ⟨l, v, rfl, hl, hv⟩ := hk
      simp only [List.append_assoc, List.cons_append, membersWithin, nextMember_later hw hw',
        ok_bind, hl ending, List.nil_append, colon_blanks hv,
        hx.reads hw'' (h.follows ending rest)]
      rw [ih hes (Nat.lt_of_succ_lt_succ hf)]
      rfl

/-- **An object is read member by member.** -/
theorem spells_dict {t : List UInt8} {ms : List (String × List UInt8)}
    (h : ObjectLayout true t ms) {es : List (String × α)}
    (hs : List.Forall₂ (fun m e => m.1 = e.1 ∧ Spells item m.2 e.2) ms es) :
    Spells (dict item) (byte '{' :: t) es where
  starts := ⟨byte '{', t, rfl, by decide, by decide⟩
  reads := fun {ending w rest} hw _ => by
    rw [dict, skipBlank_append hw, List.cons_append, skipBlank_of_not_isBlank (by decide)]
    simp only [if_true]
    exact membersWithin_of_layout h hs (h.length_lt_append rest) ending rest

end Containers

/-! ### Records -/

/-- A text that is passed over as a value, after any blanks and before anything that can follow. -/
def Skips (c : List UInt8) : Prop :=
  ∀ {ending : Ending} {w rest : List UInt8}, Blanks w → Follows ending rest →
    skip ending (w ++ (c ++ rest)) = .ok rest

/-- A member of an object as an entry of a record: a field whose value is spelled, or a member that
the record does not know. -/
inductive SpellsEntry (S : Schema) : String × List UInt8 → Entry S → Prop
  | known {key : String} {f : S.Field} {c : List UInt8} {value : S.Value f} :
      S.field? key = some f → Spells (S.read f) c value → SpellsEntry S (key, c) (.known f value)
  | unknown {key : String} {c : List UInt8} :
      S.field? key = none → Skips c → SpellsEntry S (key, c) (.unknown key)

section Records

variable {S : Schema}

/-- The fields that entries give, in their order. -/
def Entry.fields (es : List (Entry S)) : List S.Field := es.filterMap Entry.field?

@[simp] theorem Entry.fields_known (f : S.Field) (value : S.Value f) (es : List (Entry S)) :
    Entry.fields (.known f value :: es) = f :: Entry.fields es := rfl

@[simp] theorem Entry.fields_unknown (key : String) (es : List (Entry S)) :
    Entry.fields (.unknown key :: es) = Entry.fields es := rfl

/-- The step of a record at a member that gives one of its fields. -/
theorem recordMembersWithin_known {ending : Ending} {first : Bool} {s s₁ s₂ s₃ s₄ : List UInt8}
    {key : String} {f : S.Field} {value : S.Value f} {given : List S.Field}
    (hn : nextMember ending first s = .ok (.more s₁)) (hl : literal ending s₁ = .ok (key, s₂))
    (hf : S.field? key = some f) (new : f ∉ given) (hc : colon ending s₂ = .ok s₃)
    (hv : S.read f ending s₃ = .ok (value, s₄)) (fuel : Nat) :
    recordMembersWithin S ending (fuel + 1) given first s =
      (recordMembersWithin S ending fuel (f :: given) false s₄).map
        fun (es, rest) => (.known f value :: es, rest) := by
  rw [recordMembersWithin, hn]
  simp only [ok_bind, hl, hf, if_neg new, hc, hv]
  show (Except.ok PUnit.unit >>= fun _ => _) = _
  rw [ok_bind]
  cases recordMembersWithin S ending fuel (f :: given) false s₄ <;> rfl

/-- The step of a record at a member that it does not know. -/
theorem recordMembersWithin_unknown {ending : Ending} {first : Bool}
    {s s₁ s₂ s₃ s₄ : List UInt8} {key : String} {given : List S.Field}
    (hn : nextMember ending first s = .ok (.more s₁)) (hl : literal ending s₁ = .ok (key, s₂))
    (hf : S.field? key = none) (hc : colon ending s₂ = .ok s₃) (hv : skip ending s₃ = .ok s₄)
    (fuel : Nat) :
    recordMembersWithin S ending (fuel + 1) given first s =
      (recordMembersWithin S ending fuel given false s₄).map
        fun (es, rest) => (.unknown key :: es, rest) := by
  rw [recordMembersWithin, hn]
  simp only [ok_bind, hl, hf, hc, hv]
  cases recordMembersWithin S ending fuel given false s₄ <;> rfl

/-- What follows the start of a member is the same for a first and for a later member: its entry is
read, and then the members after it, which give other fields. -/
theorem recordMembersWithin_member {l v w c t : List UInt8} {key : String}
    {ms : List (String × List UInt8)} {e : Entry S} {es : List (Entry S)} {given : List S.Field}
    {ending : Ending} {first : Bool} {s rest : List UInt8} {fuel : Nat}
    (he : SpellsEntry S (key, c) e) (hl : SpellsLiteral l key) (hv : Blanks v) (hw : Blanks w)
    (h : ObjectLayout false t ms) (once : (Entry.fields (e :: es)).Nodup)
    (apart : ∀ f ∈ given, f ∉ Entry.fields (e :: es))
    (hn : nextMember ending first s =
      .ok (.more (l ++ (v ++ byte ':' :: (w ++ (c ++ (t ++ rest)))))))
    (later : ∀ {given}, (Entry.fields es).Nodup → (∀ f ∈ given, f ∉ Entry.fields es) →
      recordMembersWithin S ending fuel given false (t ++ rest) = .ok (es, rest)) :
    recordMembersWithin S ending (fuel + 1) given first s = .ok (e :: es, rest) := by
  cases he with
  | @known _ f _ value hk hx =>
      rw [Entry.fields_known] at once apart
      obtain ⟨new, once⟩ := List.nodup_cons.1 once
      rw [recordMembersWithin_known hn (hl ending _) hk
        (fun hg => apart f hg List.mem_cons_self) (colon_blanks hv ending _)
        (hx.reads hw (h.follows ending rest)), later once fun g hg => ?_]
      · rfl
      · rcases List.mem_cons.1 hg with rfl | hg
        · exact new
        · exact fun hm => apart g hg (List.mem_cons_of_mem _ hm)
  | unknown hk hx =>
      rw [recordMembersWithin_unknown hn (hl ending _) hk (colon_blanks hv ending _)
        (hx hw (h.follows ending rest)), later once apart]
      rfl

theorem recordMembersWithin_of_layout {first : Bool} {t : List UInt8}
    {ms : List (String × List UInt8)} (h : ObjectLayout first t ms) {es : List (Entry S)}
    (hs : List.Forall₂ (SpellsEntry S) ms es) (once : (Entry.fields es).Nodup)
    {given : List S.Field} (apart : ∀ f ∈ given, f ∉ Entry.fields es) {fuel : Nat}
    (hf : ms.length < fuel) (ending : Ending) (rest : List UInt8) :
    recordMembersWithin S ending fuel given first (t ++ rest) = .ok (es, rest) := by
  induction h generalizing es given fuel with
  | close hw =>
      obtain ⟨k, rfl⟩ : ∃ k, fuel = k + 1 := ⟨fuel - 1, by omega⟩
      cases hs
      rw [List.append_assoc, recordMembersWithin, List.singleton_append, nextMember_close hw]
      rfl
  | first hw hk hw' hc h ih =>
      obtain ⟨k, rfl⟩ : ∃ k, fuel = k + 1 := ⟨fuel - 1, by omega⟩
      rcases hs with _ | ⟨he, hes⟩
      obtain ⟨l, v, rfl, hl, hv⟩ := hk
      refine recordMembersWithin_member he hl hv hw' h once apart ?_ fun once apart =>
        ih hes once apart (Nat.lt_of_succ_lt_succ hf)
      simp only [List.append_assoc, List.cons_append, List.nil_append]
      exact nextMember_first hw ending _
  | later hw hw' hk hw'' hc h ih =>
      obtain ⟨k, rfl⟩ : ∃ k, fuel = k + 1 := ⟨fuel - 1, by omega⟩
      rcases hs with _ | ⟨he, hes⟩
      obtain ⟨l, v, rfl, hl, hv⟩ := hk
      refine recordMembersWithin_member he hl hv hw'' h once apart ?_ fun once apart =>
        ih hes once apart (Nat.lt_of_succ_lt_succ hf)
      simp only [List.append_assoc, List.cons_append, List.nil_append]
      exact nextMember_later hw hw' ending _

/-- **A record is read entry by entry**, if no field is given twice. -/
theorem formedEntries_of_layout {t : List UInt8} {ms : List (String × List UInt8)}
    (h : ObjectLayout true t ms) {es : List (Entry S)}
    (hs : List.Forall₂ (SpellsEntry S) ms es) (once : (Entry.fields es).Nodup) :
    Spells (formedEntries S) (byte '{' :: t) (.object, es) where
  starts := ⟨byte '{', t, rfl, by decide, by decide⟩
  reads := fun {ending w rest} hw _ => by
    rw [formedEntries, skipBlank_append hw, List.cons_append,
      skipBlank_of_not_isBlank (by decide)]
    simp only [if_true, ok_bind, recordMembersWithin_of_layout h hs once
      (fun _ hg => absurd hg List.not_mem_nil) (h.length_lt_append rest) ending rest]
    rfl

theorem spells_entries {t : List UInt8} {ms : List (String × List UInt8)}
    (h : ObjectLayout true t ms) {es : List (Entry S)}
    (hs : List.Forall₂ (SpellsEntry S) ms es) (once : (Entry.fields es).Nodup) :
    Spells (entries S) (byte '{' :: t) es :=
  (formedEntries_of_layout h hs once).mapped (·.2)

/-- A record whose members give every field is read as the values that they give. -/
theorem spells_record {t : List UInt8} {ms : List (String × List UInt8)}
    (h : ObjectLayout true t ms) {es : List (Entry S)}
    (hs : List.Forall₂ (SpellsEntry S) ms es) (once : (Entry.fields es).Nodup)
    {value : (f : S.Field) → S.Value f} (given : ∀ f, Entry.value? es f = some (value f)) :
    Spells (record S) (byte '{' :: t) value where
  starts := ⟨byte '{', t, rfl, by decide, by decide⟩
  reads := fun {ending w rest} hw hr => by
    have complete : missing? es = none := by
      refine List.find?_eq_none.2 fun f _ => ?_
      simp [given f]
    rw [record, (formedEntries_of_layout h hs once).reads hw hr, ok_bind]
    simp only
    split
    · rename_i f hm
      rw [complete] at hm
      cases hm
    · refine congrArg (fun v => Except.ok (v, rest)) (funext fun f => ?_)
      simp [given f]

end Records

/-! ### Whole inputs -/

/-- A whole input with nothing but blanks around a value. -/
theorem whole_of_spells {α : Type} {item : Reader α} {c : List UInt8} {x : α}
    (h : Spells item c x) {w w' : List UInt8} (hw : Blanks w) (hw' : Blanks w') :
    whole item .finished (w ++ (c ++ w')) = .ok x := by
  have follows : Follows .finished w' := by
    have := Follows.blanks hw' (show Follows .finished [] from rfl)
    rwa [List.append_nil] at this
  rw [whole, h.reads hw follows, ok_bind]
  simp only [skipBlank_eq_nil hw']
  rfl

end Compliance.Json
