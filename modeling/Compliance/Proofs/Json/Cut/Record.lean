/-
**Records that are cut off.**

A value that nobody asked for is passed over in turns, with a stack of open containers.  A turn for a
value or a closing byte takes at least one byte, and a turn for an opening is followed by one for a
value, so the turns do not run out before the bytes do.

Main definitions:

* `Turn.cost` — how many turns a turn stands for, besides two for each byte.

Main results:

* `steady_skip` — **passing over a value is steady**;
* `steady_entries` — **a record is steady** if its fields are.
-/

import Compliance.Json.Record
import Compliance.Proofs.Json.Cut.Value

set_option relaxedAutoImplicit false
set_option autoImplicit false

namespace Compliance.Json

open Leaves (left extend)

/-! ### Passing over a value -/

theorem Within.map {β γ : Type} [Leaves β] [Leaves γ] {ending : Ending} {k n : Nat}
    {y : Except Fault β} (h : Within ending k n y) {f : β → γ} (keeps : ∀ b, left (f b) = left b) :
    Within ending k n (y.map f) := by
  cases y with
  | ok b =>
      show left (f b) + k ≤ n
      rw [keeps]
      exact h
  | error fault => exact h

/-- A value without parts opens nothing. -/
theorem Advancing.opensNothing {r : Ending → List UInt8 → Except Fault (List UInt8)}
    (h : Advancing r) : Advancing fun ending s => (r ending s).map ((none : Option Frame), ·) where
  steady := fun ending s t => (h.steady ending s t).map (fun _ => rfl) (fun _ => rfl)
  takes := fun ending s => (h.takes ending s).map (fun _ => rfl)

/-- A value that is passed over, or the opening of a container, takes a byte. -/
theorem advancing_skipStart : Advancing skipStart := by
  have tail := fun w ws => (steady_word w ws).advancing.opensNothing
  have number := advancing_skipNumber.opensNothing
  have text := steady_skipLiteral.advancing.opensNothing
  refine Advancing.afterBlank (by simp) fun ending b s t => ?_
  split
  · exact (tail _ _).behind ending s t
  split
  · exact (tail _ _).behind ending s t
  split
  · exact (tail _ _).behind ending s t
  split
  · exact number.behind ending s t
  split
  · exact ⟨number.steady ending (b :: s) t, number.takes ending (b :: s)⟩
  split
  · exact text.behind ending s t
  split
  · exact ⟨.value (Nat.le_succ _), Nat.le_refl _⟩
  split
  · exact ⟨.value (Nat.le_succ _), Nat.le_refl _⟩
  · exact ⟨.flawSeeing (s := b :: s) rfl (Nat.le_refl _), within_flaw rfl (Nat.le_refl _)⟩

theorem Frame.isFlaw_noSeparator (frame : Frame) : frame.noSeparator.isFlaw = true := by
  cases frame <;> rfl

theorem steady_skipKey (frame : Frame) : Steady 0 fun ending s => frame.skipKey ending s := by
  cases frame with
  | list => exact fun ending s t => .value (Nat.le_refl _)
  | object =>
      refine Steady.afterBlank (by simp) fun ending b s t => ?_
      split
      · have key := steady_skipLiteral.seq (steady_colon.weaken (Nat.zero_le 1))
        exact (key ending s t).mono (Nat.le_succ _)
      · exact .flawSeeing (s := b :: s) rfl (Nat.le_refl _)

/-- How many turns a turn stands for, besides two for each byte. -/
def Turn.cost : Turn → Nat
  | value => 1
  | opened => 2
  | followed => 1

/-- What comes next in an open container, unless it is a value. -/
theorem skipWithin_part (ending : Ending) (fuel : Nat) {turn : Turn} (h : turn ≠ .value)
    (frame : Frame) (frames : List Frame) (s : List UInt8) :
    skipWithin ending (fuel + 1) turn (frame :: frames) s =
      afterBlank (ending.stop (.endWithin frame.part)) (fun b s =>
        if b = frame.closer then skipWithin ending fuel .followed frames s
        else if turn = .opened then
          frame.skipKey ending (b :: s) >>= skipWithin ending fuel .value (frame :: frames)
        else if b = byte ',' then
          frame.skipKey ending s >>= skipWithin ending fuel .value (frame :: frames)
        else .error (.seeing frame.noSeparator (b :: s))) s := by
  cases turn with
  | value => exact absurd rfl h
  | opened => rfl
  | followed => rfl

/-- Where no container is open, nothing is left to pass over. -/
theorem skipWithin_nil (ending : Ending) (fuel : Nat) {turn : Turn} (h : turn ≠ .value)
    (s : List UInt8) : skipWithin ending (fuel + 1) turn [] s = .ok s := by
  cases turn with
  | value => exact absurd rfl h
  | opened => rfl
  | followed => rfl

theorem Turn.cost_pos (turn : Turn) : 0 < turn.cost := by
  cases turn <;> simp [cost]

section Turns

variable {ending : Ending} {fuel fuel' : Nat} {t : List UInt8}
  (front : ∀ turn frames (s : List UInt8), 2 * s.length + turn.cost ≤ fuel →
    2 * (s.length + t.length) + turn.cost ≤ fuel' →
    Foretells ending 0 s.length t (skipWithin .broken fuel turn frames s)
      (skipWithin ending fuel' turn frames (s ++ t)))
  (behind : ∀ turn frames (s : List UInt8), 2 * s.length + turn.cost ≤ fuel' →
    Within ending 0 s.length (skipWithin ending fuel' turn frames s))

include front behind

/-- The turn of a value, where the turns after it are foretold. -/
theorem foretells_skipValue {frames : List Frame} {s : List UInt8} (enough : 2 * s.length ≤ fuel)
    (enough' : 2 * (s.length + t.length) ≤ fuel') :
    Foretells ending 0 s.length t (skipWithin .broken (fuel + 1) .value frames s)
      (skipWithin ending (fuel' + 1) .value frames (s ++ t)) := by
  simp only [Turn.cost] at front behind
  rw [skipWithin, skipWithin]
  refine (advancing_skipStart.steady ending s t).bind ?_ ?_
  · rintro ⟨frame, s'⟩ read bound
    have less : s'.length < s.length := advancing_skipStart.left_lt read
    cases frame with
    | none =>
        exact (front .followed frames s' (by simp only; omega) (by simp only; omega)).mono bound
    | some frame =>
        exact (front .opened (frame :: frames) s' (by simp only; omega) (by simp only; omega)).mono
          bound
  · rintro ⟨frame, s'⟩ read bound
    have less : s'.length < (s ++ t).length := advancing_skipStart.left_lt read
    rw [List.length_append] at less
    cases frame with
    | none => exact (behind .followed frames s' (by simp only; omega)).mono bound
    | some frame => exact (behind .opened (frame :: frames) s' (by simp only; omega)).mono bound

/-- A key, if there is one, and the value after it. -/
theorem foretells_skipMember (frame : Frame) (frames : List Frame) {s : List UInt8}
    (enough : 2 * s.length + 1 ≤ fuel) (enough' : 2 * (s.length + t.length) + 1 ≤ fuel') :
    Foretells ending 0 s.length t
      (frame.skipKey .broken s >>= skipWithin .broken fuel .value (frame :: frames))
      (frame.skipKey ending (s ++ t) >>= skipWithin ending fuel' .value (frame :: frames)) := by
  simp only [Turn.cost] at front behind
  refine (steady_skipKey frame ending s t).bind ?_ ?_
  · intro s' _ bound
    have : s'.length ≤ s.length := bound
    exact (front .value (frame :: frames) s' (by simp only; omega) (by simp only; omega)).mono bound
  · intro s' _ bound
    have : s'.length ≤ t.length := bound
    exact (behind .value (frame :: frames) s' (by simp only; omega)).mono bound

/-- Any other turn, where the turns after it are foretold. -/
theorem foretells_skipPart {turn : Turn} (h : turn ≠ .value) {frames : List Frame}
    {s : List UInt8} (enough : 2 * s.length + turn.cost ≤ fuel + 1)
    (enough' : 2 * (s.length + t.length) + turn.cost ≤ fuel' + 1) :
    Foretells ending 0 s.length t (skipWithin .broken (fuel + 1) turn frames s)
      (skipWithin ending (fuel' + 1) turn frames (s ++ t)) := by
  cases frames with
  | nil =>
      rw [skipWithin_nil .broken fuel h, skipWithin_nil ending fuel' h]
      exact .value (Nat.le_refl _)
  | cons frame frames =>
      rw [skipWithin_part .broken fuel h, skipWithin_part ending fuel' h]
      have positive := turn.cost_pos
      have later : ∀ s : List UInt8, 2 * s.length + 1 ≤ fuel' →
          Within ending 0 s.length
            (frame.skipKey ending s >>= skipWithin ending fuel' .value (frame :: frames)) :=
        fun s enough' => ((steady_skipKey frame).within ending s).bind fun s' bound => by
          have : s'.length ≤ s.length := bound
          exact (behind .value (frame :: frames) s' (by simp only [Turn.cost]; omega)).mono bound
      refine Foretells.afterBlank (by simp) (fun b s' bound => ?_) fun b t' bound => ?_
      · split
        · refine (front .followed frames s' ?_ ?_).mono (Nat.le_succ _)
          · simp only [Turn.cost]
            omega
          · simp only [Turn.cost]
            omega
        split
        · rename_i opened
          subst opened
          simp only [Turn.cost] at enough enough'
          refine @foretells_skipMember ending fuel fuel' t front behind frame frames (b :: s') ?_ ?_
          · rw [List.length_cons]
            omega
          · rw [List.length_cons]
            omega
        split
        · refine (foretells_skipMember front behind frame frames ?_ ?_).mono (Nat.le_succ _)
          · omega
          · omega
        · exact .flawSeeing (s := b :: s') frame.isFlaw_noSeparator (Nat.le_refl _)
      · split
        · refine (behind .followed frames t' ?_).mono (Nat.le_succ _)
          simp only [Turn.cost]
          omega
        split
        · rename_i opened
          subst opened
          simp only [Turn.cost] at enough enough'
          refine later (b :: t') ?_
          rw [List.length_cons]
          omega
        split
        · exact (later t' (by omega)).mono (Nat.le_succ _)
        · exact within_flaw frame.isFlaw_noSeparator (Nat.le_refl _)

end Turns

theorem foretells_skipWithin (ending : Ending) {fuel fuel' : Nat} {turn : Turn}
    {frames : List Frame} {s t : List UInt8} (enough : 2 * s.length + turn.cost ≤ fuel)
    (enough' : 2 * (s.length + t.length) + turn.cost ≤ fuel') :
    Foretells ending 0 s.length t (skipWithin .broken fuel turn frames s)
      (skipWithin ending fuel' turn frames (s ++ t)) := by
  have positive := turn.cost_pos
  induction fuel' generalizing fuel turn frames s t with
  | zero => omega
  | succ fuel' ih =>
      obtain ⟨fuel, rfl⟩ : ∃ m, fuel = m + 1 := ⟨fuel - 1, by omega⟩
      -- what is behind the front is passed over as if it were all of the input
      have behind : ∀ turn frames (s : List UInt8), 2 * s.length + turn.cost ≤ fuel' →
          Within ending 0 s.length (skipWithin ending fuel' turn frames s) :=
        fun turn frames s enough' => by
          have found := (@ih turn.cost turn frames [] s (by simp) (by simpa using enough')
            turn.cost_pos).within
          rwa [List.length_nil, Nat.zero_add] at found
      have front := fun turn frames s enough enough' =>
        @ih fuel turn frames s t enough enough' turn.cost_pos
      by_cases value : turn = .value
      · subst value
        simp only [Turn.cost] at enough enough'
        exact foretells_skipValue front behind (by omega) (by omega)
      · exact foretells_skipPart front behind value enough enough'

/-- **Passing over a value is steady.** -/
theorem steady_skip : Steady 0 skip := by
  intro ending s t
  rw [skip, skip]
  refine foretells_skipWithin ending (Nat.le_succ _) ?_
  rw [List.length_append]
  exact Nat.le_succ _

/-! ### Records -/

section Record

variable {S : Schema}

/-- Reads what follows the key of a member: a field's value, or something that is passed over. -/
def afterKey (S : Schema) (given : List S.Field) (key : String) :
    Reader (Entry S × List S.Field) := fun ending s =>
  match S.field? key with
  | some f =>
    if given.contains f then .error (.seeing (.duplicateField key) (skipBlank s))
    else colon ending s >>= mapped (fun value => (.known f value, f :: given)) (S.read f) ending
  | none => do
    let s ← colon ending s
    let s ← skip ending s
    return ((.unknown key, given), s)

/-- Reads a member of a record from its key on. -/
def recordMember (S : Schema) (given : List S.Field) : Reader (Entry S × List S.Field) :=
  fun ending s => do
    let (key, s) ← literal ending s
    afterKey S given key ending s

/-- The members of a record are a sequence whose state is the fields given before. -/
theorem recordMembersWithin_eq (ending : Ending) (fuel : Nat) (given : List S.Field) (first : Bool)
    (s : List UInt8) :
    recordMembersWithin S ending fuel given first s =
      sequenceWithin nextMember (recordMember S) ending fuel given first s := by
  induction fuel generalizing given first s with
  | zero => rfl
  | succ fuel ih =>
      rw [recordMembersWithin, sequenceWithin]
      cases nextMember ending first s with
      | error fault => rfl
      | ok found =>
          cases found with
          | closed rest => rfl
          | more s =>
              simp only [ok_bind, recordMember, afterKey]
              cases literal ending s with
              | error fault => rfl
              | ok key =>
                  simp only [ok_bind]
                  cases S.field? key.1 with
                  | some f =>
                      simp only [List.contains_iff_mem]
                      split
                      · rfl
                      · cases colon ending key.2 with
                        | error fault => rfl
                        | ok s =>
                            simp only [ok_bind, mapped]
                            cases S.read f ending s with
                            | error fault => rfl
                            | ok value => simp only [Except.map, ok_bind, ih]
                  | none =>
                      cases colon ending key.2 with
                      | error fault => rfl
                      | ok s =>
                          simp only [ok_bind]
                          cases skip ending s with
                          | error fault => rfl
                          | ok s => simp only [ok_bind, pure_bind, ih]

theorem steady_afterKey (h : ∀ f, Steady 0 (S.read f)) (given : List S.Field) (key : String) :
    Steady 0 (afterKey S given key) := by
  intro ending s t
  simp only [afterKey]
  cases S.field? key with
  | some f =>
      simp only
      split
      · refine .flaw rfl rfl ?_
        have := length_skipBlank_le (s ++ t)
        rw [List.length_append] at this
        simp only [Fault.seeing]
        omega
      · exact steady_colon.seq ((h f).mapped _) ending s t
  | none =>
      have passed : Steady 0 fun ending s => do
          let s ← skip ending s
          return (((Entry.unknown key : Entry S), given), s) := fun ending s t => by
        refine (steady_skip ending s t).bind ?_ ?_
        · exact fun _ _ bound => .value bound
        · exact fun _ _ bound => bound
      exact steady_colon.seq passed ending s t

theorem advancing_recordMember (h : ∀ f, Steady 0 (S.read f)) (given : List S.Field) :
    Advancing (recordMember S given) :=
  steady_literal.advance (steady_afterKey h given)

/-- A record that is written as an array is read field by field. -/
theorem steady_recordElements (h : ∀ f, Steady 0 (S.read f)) (fs : List S.Field) (first : Bool) :
    Steady 1 fun ending s => recordElements S ending first fs s := by
  induction fs generalizing first with
  | nil =>
      intro ending s t
      exact (steady_closeList ending s t).map (fun _ => rfl) (fun _ => rfl)
  | cons f fs ih =>
      have item := (h f).bind fun value => (ih false).bind_pure (Entry.known f value :: ·)
      intro ending s t
      simp only [recordElements]
      refine (steady_nextElement first ending s t).bind ?_ ?_
      · rintro (rest | s) _ bound
        · exact .value bound
        · exact (item ending s t).mono bound
      · rintro (rest | s) _ bound
        · exact bound
        · exact (item.within ending s).mono bound

theorem steady_formedEntries (h : ∀ f, Steady 0 (S.read f)) : Steady 1 (formedEntries S) := by
  have object : Steady 1 fun ending s =>
      recordMembersWithin S ending (s.length + 1) [] true s := fun ending s t => by
    simp only [recordMembersWithin_eq]
    exact foretells_sequenceWithin steady_nextMember (advancing_recordMember h) ending
      (Nat.lt_succ_self _) (by rw [List.length_append]; exact Nat.lt_succ_self _)
  refine Steady.afterBlank (by simp) fun ending b s t => ?_
  split
  · exact (object.bind_pure (Form.object, ·) ending s t).mono (Nat.le_succ _)
  split
  · exact ((steady_recordElements h S.fields true).bind_pure (Form.array, ·) ending s t).mono
      (Nat.le_succ _)
  · exact foretells_mismatch S.expectation ending b s t

/-- **A record is steady** if its fields are: it ends with its closing byte. -/
theorem steady_entries (h : ∀ f, Steady 0 (S.read f)) : Steady 1 (entries S) :=
  (steady_formedEntries h).mapped (·.2)

end Record

end Compliance.Json
