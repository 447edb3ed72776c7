/-
**The layout of printed values.**

A value is printed with each element or member on a line of its own.  Its text is laid out by the
texts of its parts, one level of nesting deeper, so whatever spells the parts spells the whole.

Main results:

* `startsValue_prettyAt` — printed values start like values;
* `listLayout_array`, `objectLayout_object` — **printed containers are laid out by their parts**;
* `spells_array`, `spells_object`, `spells_fields` — what printed containers spell.
-/

import Mathlib.Data.List.Forall2
import Compliance.Proofs.Json.Quoting
import Compliance.Proofs.Json.Spelling

set_option relaxedAutoImplicit false
set_option autoImplicit false

namespace Compliance.Json

open Text (bytes bytes_append)

/-! ### Texts of single values -/

theorem blanks_newline (depth : Nat) : Blanks (bytes (newline depth)) := by
  intro b hb
  rw [newline, Text.bytes_ofList, List.flatMap_cons, List.flatMap_replicate] at hb
  rcases List.mem_append.1 hb with hb | hb
  · obtain rfl := List.mem_singleton.1 hb
    rfl
  · obtain ⟨l, hl, hb⟩ := List.mem_flatten.1 hb
    rw [(List.mem_replicate.1 hl).2] at hb
    obtain rfl := List.mem_singleton.1 hb
    rfl

theorem blanks_space : Blanks [0x20] := Blanks.cons rfl Blanks.nil

theorem spells_quoted (s expected : String) : Spells (text expected) (bytes (quoted s)) s := by
  rw [bytes_quoted]
  exact spells_text (spellsLiteral_quoted s) expected

/-- A literal and a colon are the text of a key. -/
theorem spellsKey_quoted (key : String) : SpellsKey (bytes (quoted key) ++ [byte ':']) key :=
  ⟨literalText key, [], by rw [bytes_quoted]; rfl, spellsLiteral_quoted key, Blanks.nil⟩

/-- Printed values start like values. -/
theorem startsValue_prettyAt (t : Tree) (depth : Nat) : StartsValue (bytes (t.prettyAt depth)) := by
  cases t with
  | text s =>
      rw [Tree.prettyAt]
      exact (spells_quoted s "").starts
  | count n =>
      rw [Tree.prettyAt]
      exact (spells_count n).starts
  | flag b =>
      rw [Tree.prettyAt]
      exact (spells_flag b).starts
  | array items =>
      cases items with
      | nil =>
          rw [Tree.prettyAt]
          exact ⟨byte '[', [byte ']'], rfl, by decide, by decide⟩
      | cons x xs =>
          simp only [Tree.prettyAt, bytes_append, List.append_assoc]
          exact ⟨byte '[', _, rfl, by decide, by decide⟩
  | object members =>
      cases members with
      | nil =>
          rw [Tree.prettyAt]
          exact ⟨byte '{', [byte '}'], rfl, by decide, by decide⟩
      | cons m ms =>
          simp only [Tree.prettyAt, bytes_append, List.append_assoc]
          exact ⟨byte '{', _, rfl, by decide, by decide⟩

/-! ### Lists -/

theorem listLayout_items (depth : Nat) (xs : List Tree) :
    ListLayout false (bytes (Tree.prettyItems depth xs))
      (xs.map fun x => bytes (x.prettyAt (depth + 1))) := by
  induction xs with
  | nil =>
      rw [Tree.prettyItems, bytes_append]
      exact .close (blanks_newline depth)
  | cons x xs ih =>
      simp only [Tree.prettyItems, bytes_append, List.append_assoc, List.map_cons]
      exact .later Blanks.nil (blanks_newline (depth + 1)) (startsValue_prettyAt x _) ih

/-- **A printed list is laid out by its elements.** -/
theorem listLayout_array (depth : Nat) (xs : List Tree) :
    ∃ t, bytes ((Tree.array xs).prettyAt depth) = byte '[' :: t ∧
      ListLayout true t (xs.map fun x => bytes (x.prettyAt (depth + 1))) := by
  cases xs with
  | nil =>
      rw [Tree.prettyAt]
      exact ⟨[byte ']'], rfl, .close Blanks.nil⟩
  | cons x xs =>
      simp only [Tree.prettyAt, bytes_append, List.append_assoc, List.map_cons]
      exact ⟨_, rfl, .first (blanks_newline (depth + 1)) (startsValue_prettyAt x _)
        (listLayout_items depth xs)⟩

/-- What a printed list spells, by what its elements spell. -/
theorem spells_array {α : Type} {item : Reader α} {tree : α → Tree}
    (h : ∀ x depth, Spells item (bytes ((tree x).prettyAt depth)) x) (xs : List α) (depth : Nat) :
    Spells (list item) (bytes ((Tree.array (xs.map tree)).prettyAt depth)) xs := by
  obtain ⟨t, text, layout⟩ := listLayout_array depth (xs.map tree)
  rw [text]
  refine spells_list layout ?_
  rw [List.map_map, List.forall₂_map_left_iff]
  exact List.forall₂_same.2 fun x _ => h x (depth + 1)

/-! ### Objects -/

theorem objectLayout_members (depth : Nat) (ms : List (String × Tree)) :
    ObjectLayout false (bytes (Tree.prettyMembers depth ms))
      (ms.map fun m => (m.1, bytes (m.2.prettyAt (depth + 1)))) := by
  induction ms with
  | nil =>
      rw [Tree.prettyMembers, bytes_append]
      exact .close (blanks_newline depth)
  | cons m ms ih =>
      obtain ⟨key, x⟩ := m
      have layout := ObjectLayout.later Blanks.nil (blanks_newline (depth + 1))
        (spellsKey_quoted key) blanks_space (startsValue_prettyAt x (depth + 1)) ih
      simp only [Tree.prettyMembers, bytes_append, List.append_assoc, List.map_cons] at layout ⊢
      exact layout

/-- **A printed object is laid out by its members.** -/
theorem objectLayout_object (depth : Nat) (ms : List (String × Tree)) :
    ∃ t, bytes ((Tree.object ms).prettyAt depth) = byte '{' :: t ∧
      ObjectLayout true t (ms.map fun m => (m.1, bytes (m.2.prettyAt (depth + 1)))) := by
  cases ms with
  | nil =>
      rw [Tree.prettyAt]
      exact ⟨[byte '}'], rfl, .close Blanks.nil⟩
  | cons m ms =>
      obtain ⟨key, x⟩ := m
      have layout := ObjectLayout.first (blanks_newline (depth + 1)) (spellsKey_quoted key)
        blanks_space (startsValue_prettyAt x (depth + 1)) (objectLayout_members depth ms)
      simp only [Tree.prettyAt, bytes_append, List.append_assoc, List.map_cons] at layout ⊢
      exact ⟨_, rfl, layout⟩

/-- What a printed object with arbitrary keys spells, by what its values spell. -/
theorem spells_object {α : Type} {item : Reader α} {tree : α → Tree}
    (h : ∀ x depth, Spells item (bytes ((tree x).prettyAt depth)) x) (es : List (String × α))
    (depth : Nat) :
    Spells (dict item)
      (bytes ((Tree.object (es.map fun e => (e.1, tree e.2))).prettyAt depth)) es := by
  obtain ⟨t, text, layout⟩ := objectLayout_object depth (es.map fun e => (e.1, tree e.2))
  rw [text]
  refine spells_dict layout ?_
  rw [List.map_map, List.forall₂_map_left_iff]
  exact List.forall₂_same.2 fun e _ => ⟨rfl, h e.2 (depth + 1)⟩

/-- What a printed record spells, by what its fields spell: each field is written once, under its
key, and the keys can be told apart. -/
theorem spells_fields (S : Schema) (tree : S.Field → Tree) (value : (f : S.Field) → S.Value f)
    (once : S.fields.Nodup) (keys : ∀ f, S.field? (S.key f) = some f)
    (h : ∀ f depth, Spells (S.read f) (bytes ((tree f).prettyAt depth)) (value f)) (depth : Nat) :
    Spells (record S)
      (bytes ((Tree.object (S.fields.map fun f => (S.key f, tree f))).prettyAt depth)) value := by
  obtain ⟨t, text, layout⟩ := objectLayout_object depth (S.fields.map fun f => (S.key f, tree f))
  have fields : ∀ fs : List S.Field,
      Entry.fields (fs.map fun f => (Entry.known f (value f) : Entry S)) = fs := by
    intro fs
    induction fs with
    | nil => rfl
    | cons f fs ih => rw [List.map_cons, Entry.fields_known, ih]
  have values : ∀ (fs : List S.Field) (f : S.Field), f ∈ fs →
      Entry.value? (fs.map fun f => (Entry.known f (value f) : Entry S)) f = some (value f) := by
    intro fs f hf
    induction fs with
    | nil => exact absurd hf List.not_mem_nil
    | cons g fs ih =>
        rw [List.map_cons, Entry.value?, List.findSome?_cons]
        by_cases e : g = f
        · subst e
          simp
        · rw [Entry.valueOf?_known_of_ne e]
          exact ih ((List.mem_cons.1 hf).resolve_left (Ne.symm e))
  have entries : List.Forall₂ (SpellsEntry S)
      ((S.fields.map fun f => (S.key f, tree f)).map
        fun e => (e.1, bytes (e.2.prettyAt (depth + 1))))
      (S.fields.map fun f => .known f (value f)) := by
    rw [List.map_map, List.forall₂_map_left_iff, List.forall₂_map_right_iff]
    exact List.forall₂_same.2 fun f _ => .known (keys f) (h f (depth + 1))
  rw [text]
  -- every field has an entry, so none is missing, and its value is the one that is found
  exact spells_record layout entries ((fields _).symm ▸ once) fun f => values _ f (S.mem_fields f)

end Compliance.Json
