/-
**What is refused as a value.**

A text is refused for a reader if the reader finds the same fault in it wherever it stands.  A record is
refused for the first of its members that is: the members before it are read as entries, and those
after it do not matter.

Main definitions:

* `Refuses` — a text that is refused as a value;
* `RefusesMember` — members of a record of which one is refused.

Main results:

* `refuses_dict_of_array` — an array is refused where an object is expected;
* `refuses_entries` — **a record is refused if one of its members is**;
* `whole_of_refuses` — a whole input that starts with what is refused.
-/

import Compliance.Proofs.Json.Spelling

set_option relaxedAutoImplicit false
set_option autoImplicit false

namespace Compliance.Json

/-- A text that is refused as a value for a given cause, after any blanks and before anything. -/
def Refuses {α : Type} (item : Reader α) (c : List UInt8) (cause : Cause) : Prop :=
  ∀ (ending : Ending) {w : List UInt8} (rest : List UInt8), Blanks w →
    ∃ unread, item ending (w ++ (c ++ rest)) = .error ⟨cause, unread⟩

theorem Refuses.mapped {α β : Type} {item : Reader α} {c : List UInt8} {cause : Cause}
    (h : Refuses item c cause) (f : α → β) : Refuses (Json.mapped f item) c cause := by
  intro ending w rest hw
  obtain ⟨unread, refused⟩ := h ending rest hw
  refine ⟨unread, ?_⟩
  rw [Json.mapped, refused]
  rfl

/-- An array is refused where an object is expected. -/
theorem refuses_dict_of_array {α : Type} (item : Reader α) (t : List UInt8) :
    Refuses (dict item) (byte '[' :: t) (.invalidType .sequence "a map") := by
  intro ending w rest hw
  refine ⟨(t ++ rest).length, ?_⟩
  rw [dict, skipBlank_append hw, List.cons_append, skipBlank_of_not_isBlank (by decide)]
  rfl

/-! ### Records -/

section Record

variable {S : Schema} {cause : Cause}

/-- Members of a record of which one is refused, where the given fields stand before them: the first
such member is a field that was not given before, and those before it are read as entries. -/
inductive RefusesMember (S : Schema) (cause : Cause) :
    List S.Field → List (String × List UInt8) → Prop
  /-- A field whose value is refused. -/
  | here {given : List S.Field} {key : String} {f : S.Field} {c : List UInt8}
      {ms : List (String × List UInt8)} :
      S.field? key = some f → f ∉ given → Refuses (S.read f) c cause →
      RefusesMember S cause given ((key, c) :: ms)
  /-- A field whose value is read. -/
  | known {given : List S.Field} {key : String} {f : S.Field} {c : List UInt8}
      {value : S.Value f} {ms : List (String × List UInt8)} :
      S.field? key = some f → f ∉ given → Spells (S.read f) c value →
      RefusesMember S cause (f :: given) ms → RefusesMember S cause given ((key, c) :: ms)
  /-- A member that the record does not know. -/
  | unknown {given : List S.Field} {key : String} {c : List UInt8}
      {ms : List (String × List UInt8)} :
      S.field? key = none → Skips c → RefusesMember S cause given ms →
      RefusesMember S cause given ((key, c) :: ms)

/-- What follows the start of a member is the same for a first and for a later member: it is refused,
or it is read and one after it is refused. -/
theorem recordMembersWithin_refused {l v w c t : List UInt8} {key : String}
    {ms : List (String × List UInt8)} {given : List S.Field} {ending : Ending} {first : Bool}
    {s rest : List UInt8} {fuel : Nat} (h : RefusesMember S cause given ((key, c) :: ms))
    (hl : SpellsLiteral l key) (hv : Blanks v) (hw : Blanks w) (layout : ObjectLayout false t ms)
    (hn : nextMember ending first s =
      .ok (.more (l ++ (v ++ byte ':' :: (w ++ (c ++ (t ++ rest)))))))
    (later : ∀ {given}, RefusesMember S cause given ms → ∃ unread,
      recordMembersWithin S ending fuel given false (t ++ rest) = .error ⟨cause, unread⟩) :
    ∃ unread, recordMembersWithin S ending (fuel + 1) given first s = .error ⟨cause, unread⟩ := by
  cases h with
  | here hk new refused =>
      obtain ⟨unread, fault⟩ := refused ending (t ++ rest) hw
      refine ⟨unread, ?_⟩
      rw [recordMembersWithin, hn]
      simp only [ok_bind, hl ending, hk, if_neg new, colon_blanks hv, fault]
      rfl
  | known hk new spelled refused =>
      obtain ⟨unread, fault⟩ := later refused
      refine ⟨unread, ?_⟩
      rw [recordMembersWithin_known hn (hl ending _) hk new (colon_blanks hv ending _)
        (spelled.reads hw (layout.follows ending rest)), fault]
      rfl
  | unknown hk skips refused =>
      obtain ⟨unread, fault⟩ := later refused
      refine ⟨unread, ?_⟩
      rw [recordMembersWithin_unknown hn (hl ending _) hk (colon_blanks hv ending _)
        (skips hw (layout.follows ending rest)), fault]
      rfl

theorem recordMembersWithin_of_refuses {first : Bool} {t : List UInt8}
    {ms : List (String × List UInt8)} (layout : ObjectLayout first t ms) {given : List S.Field}
    (h : RefusesMember S cause given ms) {fuel : Nat} (hf : ms.length < fuel) (ending : Ending)
    (rest : List UInt8) :
    ∃ unread,
      recordMembersWithin S ending fuel given first (t ++ rest) = .error ⟨cause, unread⟩ := by
  -- the layout is followed member by member, up to the one that is refused
  induction layout generalizing given fuel with
  | close hw => cases h
  | first hw hk hw' hc layout ih =>
      obtain ⟨k, rfl⟩ : ∃ k, fuel = k + 1 := ⟨fuel - 1, by omega⟩
      obtain ⟨l, v, rfl, hl, hv⟩ := hk
      refine recordMembersWithin_refused h hl hv hw' layout ?_ fun refused =>
        ih refused (Nat.lt_of_succ_lt_succ hf)
      simp only [List.append_assoc, List.cons_append, List.nil_append]
      exact nextMember_first hw ending _
  | later hw hw' hk hw'' hc layout ih =>
      obtain ⟨k, rfl⟩ : ∃ k, fuel = k + 1 := ⟨fuel - 1, by omega⟩
      obtain ⟨l, v, rfl, hl, hv⟩ := hk
      refine recordMembersWithin_refused h hl hv hw'' layout ?_ fun refused =>
        ih refused (Nat.lt_of_succ_lt_succ hf)
      simp only [List.append_assoc, List.cons_append, List.nil_append]
      exact nextMember_later hw hw' ending _

/-- **A record is refused if one of its members is.** -/
theorem refuses_entries {t : List UInt8} {ms : List (String × List UInt8)}
    (layout : ObjectLayout true t ms) (h : RefusesMember S cause [] ms) :
    Refuses (entries S) (byte '{' :: t) cause := by
  refine Refuses.mapped ?_ _
  intro ending w rest hw
  obtain ⟨unread, fault⟩ :=
    recordMembersWithin_of_refuses layout h (layout.length_lt_append rest) ending rest
  refine ⟨unread, ?_⟩
  rw [formedEntries, skipBlank_append hw, List.cons_append, skipBlank_of_not_isBlank (by decide)]
  simp only [if_true, fault]
  rfl

end Record

/-! ### Whole inputs -/

/-- A whole input that starts with what is refused. -/
theorem whole_of_refuses {α : Type} {item : Reader α} {c : List UInt8} {cause : Cause}
    (h : Refuses item c cause) (ending : Ending) (rest : List UInt8) :
    ∃ unread, whole item ending (c ++ rest) = .error ⟨cause, unread⟩ := by
  obtain ⟨unread, refused⟩ := h ending rest Blanks.nil
  rw [List.nil_append] at refused
  refine ⟨unread, ?_⟩
  rw [whole, refused]
  rfl

end Compliance.Json
