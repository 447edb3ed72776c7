/-
**Values that are cut off.**

A container is closed by its last byte, so nothing behind it matters.  Lists, objects and records are
sequences of items, which differ only in what an item is and in what may stand between two of them.

Main definitions:

* `reported` — the fault that a value of another type makes;
* `sequenceWithin` — reads items up to the closing byte of a container.

Main results:

* `steady_text`, `steady_count` — **scalars are steady**;
* `foretells_sequenceWithin` — sequences of steady items are steady;
* `steady_list`, `steady_dict` — **lists and objects are steady** if their elements are.
-/

import Compliance.Json.Typed
import Compliance.Proofs.Json.Cut.Numeral

set_option relaxedAutoImplicit false
set_option autoImplicit false

namespace Compliance.Json

open Leaves (left extend)

variable {α : Type} {k : Nat}

theorem Steady.mapped {γ : Type} {item : Reader α} (h : Steady k item) (f : α → γ) :
    Steady k (Json.mapped f item) :=
  fun ending s t => (h ending s t).map (fun _ => rfl) (fun _ => rfl)

/-! ### Values of another type -/

section Reported

variable {β γ : Type}

/-- The fault of a value that is not wanted, unless the value itself is faulty. -/
def reported (fault : β → Fault) : Except Fault β → Fault
  | .ok x => fault x
  | .error f => f

section Found

variable (fault : Found × Nat → Fault) (ending : Ending) (s : List UInt8)

theorem reported_foundWord (found : Found) (tail : List UInt8) :
    reported fault (foundWord ending found tail s) =
      reported (fun rest => fault (found, rest.length)) (word ending tail s) := by
  rw [foundWord]
  cases word ending tail s <;> rfl

theorem reported_foundNumber (negative : Bool) :
    reported fault (foundNumber ending negative s) =
      reported (fun x => fault (.number x.1, x.2.length - 1)) (number negative ending s) := by
  rw [foundNumber]
  cases number negative ending s <;> rfl

theorem reported_foundText :
    reported fault (do
      let (t, rest) ← literal ending s
      return (.text t, rest.length)) =
      reported (fun x => fault (.text x.1, x.2.length)) (literal ending s) := by
  cases literal ending s <;> rfl

end Found

theorem mismatch_eq_reported (ending : Ending) (expected : String) (s : List UInt8) :
    mismatch ending expected s =
      reported (fun x => ⟨.invalidType x.1 expected, x.2⟩) (offender ending s) := by
  rw [mismatch]
  cases offender ending s <;> rfl

/-- A value that is not wanted makes a flaw, and so does a faulty one. -/
theorem Foretells.reported [Leaves β] [Leaves γ] {ending : Ending} {k k' n : Nat} {t : List UInt8}
    {x y : Except Fault β} (h : Foretells ending k n t x y) {fault : β → Fault}
    (flaw : ∀ b, (fault b).cause.isFlaw = true)
    (unread : ∀ b, (fault b).unread ≤ left b + k - 1) :
    Foretells ending k' n t (.error (Json.reported fault x) : Except Fault γ)
      (.error (Json.reported fault y)) := by
  cases h with
  | @value b bound =>
      refine .flaw (flaw _) (flaw _) ?_
      have := unread (extend b t)
      rw [Leaves.left_extend] at this
      simp only [Json.reported]
      omega
  | flaw f g unread => exact .flaw f g unread
  | starved device within =>
      refine .starved device ?_
      cases y with
      | ok b =>
          refine within_flaw (flaw b) ?_
          have := unread b
          have : left b + k ≤ t.length := within
          simp only [Json.reported]
          omega
      | error fault => exact within

/-- A value of another type is read as far as a message needs it, and makes a flaw then. -/
theorem foretells_mismatch [Leaves γ] {k : Nat} (expected : String) (ending : Ending) (b : UInt8)
    (s t : List UInt8) :
    Foretells ending k (s.length + 1) t
      (.error (mismatch .broken expected (b :: s)) : Except Fault γ)
      (.error (mismatch ending expected (b :: (s ++ t)))) := by
  have tail : ∀ found w ws, Foretells ending k (s.length + 1) t
      (.error (reported (fun x => ⟨.invalidType x.1 expected, x.2⟩)
        (foundWord .broken found (w :: ws) s)) : Except Fault γ)
      (.error (reported (fun x => ⟨.invalidType x.1 expected, x.2⟩)
        (foundWord ending found (w :: ws) (s ++ t)))) := fun found w ws => by
    rw [reported_foundWord, reported_foundWord]
    exact ((steady_word w ws ending s t).reported (fun _ => rfl) (fun _ => Nat.le_refl _)).mono
      (Nat.le_succ _)
  have numeral : ∀ negative (s : List UInt8), Foretells ending k s.length t
      (.error (reported (fun x => ⟨.invalidType x.1 expected, x.2⟩)
        (foundNumber .broken negative s)) : Except Fault γ)
      (.error (reported (fun x => ⟨.invalidType x.1 expected, x.2⟩)
        (foundNumber ending negative (s ++ t)))) := fun negative s => by
    rw [reported_foundNumber, reported_foundNumber]
    exact (steady_number negative ending s t).reported (fun _ => rfl) (fun _ => Nat.le_refl _)
  simp only [mismatch_eq_reported, offender]
  split
  · exact tail _ _ _
  split
  · exact tail _ _ _
  split
  · exact tail _ _ _
  split
  · exact (numeral true s).mono (Nat.le_succ _)
  split
  · exact numeral false (b :: s)
  split
  · rw [reported_foundText, reported_foundText]
    exact ((steady_literal ending s t).reported (fun _ => rfl) (fun _ => Nat.le_refl _)).mono
      (Nat.le_succ _)
  have further : (s ++ t).length ≤ s.length + 1 + t.length - 1 := by
    rw [List.length_append]
    omega
  split
  · exact .flaw rfl rfl further
  split
  · exact .flaw rfl rfl further
  · exact .flaw rfl rfl further

end Reported

/-! ### Scalars -/

/-- **A string is steady.** -/
theorem steady_text (expected : String) : Steady 1 (text expected) := by
  refine Steady.afterBlank (by simp) fun ending b s t => ?_
  split
  · exact (steady_literal ending s t).mono (Nat.le_succ _)
  · exact foretells_mismatch expected ending b s t

theorem isFlaw_of_countOf {n : Number} {cause : Cause} (h : countOf n = .error cause) :
    cause.isFlaw = true := by
  cases n with
  | natural n => cases h
  | negative n =>
      cases h
      rfl
  | floating x =>
      cases h
      rfl

theorem steady_countNumber (negative : Bool) : Steady 0 (countNumber negative) := by
  intro ending s t
  refine (steady_number negative ending s t).bind ?_ ?_
  · rintro ⟨n, rest⟩ _ bound
    simp only [left, extend] at bound ⊢
    cases counted : countOf n with
    | ok c => exact .value bound
    | error cause =>
        exact .flawSeeing (isFlaw_of_countOf counted) bound
  · rintro ⟨n, rest⟩ _ bound
    simp only [left] at bound ⊢
    cases counted : countOf n with
    | ok c => exact bound
    | error cause =>
        refine within_flaw (isFlaw_of_countOf counted) ?_
        simp only [Fault.seeing]
        omega

/-- **A count is steady.** -/
theorem steady_count : Steady 0 count := by
  refine Steady.afterBlank (by simp) fun ending b s t => ?_
  split
  · exact (steady_countNumber true ending s t).mono (Nat.le_succ _)
  split
  · exact steady_countNumber false ending (b :: s) t
  · exact foretells_mismatch countName ending b s t

/-! ### Parts of containers -/

theorem steady_nextElement (first : Bool) :
    Steady 0 fun ending s => nextElement ending first s := by
  refine Steady.afterBlank (by simp) fun ending b s t => ?_
  split
  · exact .value (Nat.le_refl _)
  split
  · exact .value (Nat.le_refl _)
  split
  · have later : Steady 0 fun ending => afterBlank (ending.stop (.endWithin .value)) fun c s =>
        if c = byte ']' then .error (.seeing .trailingComma (c :: s))
        else .ok (Next.more (c :: s)) := by
      refine Steady.afterBlank (by simp) fun ending c s t => ?_
      split
      · exact .flawSeeing (s := c :: s) rfl (Nat.le_refl _)
      · exact .value (Nat.le_refl _)
    exact (later ending s t).mono (Nat.le_succ _)
  · exact .flawSeeing (s := b :: s) rfl (Nat.le_refl _)

/-- What follows a comma after the last wanted element. -/
def afterLastComma (s : List UInt8) : Except Fault (List UInt8) :=
  match skipBlank s with
  | [] => .error ⟨.trailingCharacters, 0⟩
  | c :: s =>
    .error (.seeing (if c = byte ']' then .trailingComma else .trailingCharacters) (c :: s))

/-- A comma after the last wanted element is a flaw, even if the device fails then. -/
theorem flaw_afterLastComma (s : List UInt8) :
    ∃ fault, afterLastComma s = .error fault ∧ fault.cause.isFlaw = true ∧
      fault.unread ≤ s.length := by
  rw [afterLastComma]
  cases next : skipBlank s with
  | nil => exact ⟨_, rfl, rfl, Nat.zero_le _⟩
  | cons c s' =>
      have := length_le_of_skipBlank next
      refine ⟨_, rfl, ?_, Nat.le_trans (Nat.sub_le _ 1) this⟩
      simp only [Fault.seeing]
      split <;> rfl

theorem steady_closeList : Steady 1 closeList := by
  refine Steady.afterBlank (by simp) fun ending b s t => ?_
  split
  · exact .value (Nat.le_refl _)
  split
  · obtain ⟨f, made, flaw, _⟩ := flaw_afterLastComma s
    obtain ⟨g, made', flaw', unread⟩ := flaw_afterLastComma (s ++ t)
    change Foretells ending 1 (s.length + 1) t (afterLastComma s) (afterLastComma (s ++ t))
    rw [made, made']
    rw [List.length_append] at unread
    exact .flaw flaw flaw' (by omega)
  · exact .flawSeeing (s := b :: s) rfl (Nat.le_refl _)

/-- The key of a member, from its opening quote on. -/
theorem foretells_memberStart (c : UInt8) (s t : List UInt8) (ending : Ending) :
    Foretells ending 0 (s.length + 1) t
      (if c = byte '"' then .ok (Next.more s)
        else if c = byte '}' then .error (.seeing .trailingComma (c :: s))
        else .error (.seeing .keyNotText (c :: s)))
      (if c = byte '"' then .ok (Next.more (s ++ t))
        else if c = byte '}' then .error (.seeing .trailingComma (c :: (s ++ t)))
        else .error (.seeing .keyNotText (c :: (s ++ t)))) := by
  split
  · exact .value (Nat.le_succ _)
  split
  · exact .flawSeeing (s := c :: s) rfl (Nat.le_refl _)
  · exact .flawSeeing (s := c :: s) rfl (Nat.le_refl _)

theorem steady_nextMember (first : Bool) :
    Steady 0 fun ending s => nextMember ending first s := by
  refine Steady.afterBlank (by simp) fun ending b s t => ?_
  split
  · exact .value (Nat.le_refl _)
  cases first with
  | true => exact foretells_memberStart b s t ending
  | false =>
      simp only [Bool.not_false, Bool.true_and, Bool.false_eq_true, if_false]
      split
      · exact .flawSeeing (s := b :: s) rfl (Nat.le_refl _)
      · have later : Steady 0 fun ending => afterBlank (ending.stop (.endWithin .value)) fun c s =>
            if c = byte '"' then .ok (Next.more s)
            else if c = byte '}' then .error (.seeing .trailingComma (c :: s))
            else .error (.seeing .keyNotText (c :: s)) :=
          Steady.afterBlank (by simp) fun ending c s t => foretells_memberStart c s t ending
        exact (later ending s t).mono (Nat.le_succ _)

theorem steady_colon : Steady 1 colon := by
  refine Steady.afterBlank (by simp) fun ending b s t => ?_
  split
  · exact .value (Nat.le_refl _)
  · exact .flawSeeing (s := b :: s) rfl (Nat.le_refl _)

/-! ### Sequences -/

section Sequence

variable {σ : Type} {next : Ending → Bool → List UInt8 → Except Fault Next}
  {item : σ → Reader (α × σ)}

/-- Reads items up to the closing byte of a container.  Each item is read in a state that the one
before it leaves.  The first number bounds how many there are. -/
def sequenceWithin (next : Ending → Bool → List UInt8 → Except Fault Next)
    (item : σ → Reader (α × σ)) (ending : Ending) :
    Nat → σ → Bool → List UInt8 → Except Fault (List α × List UInt8)
  | 0, _, _, s => .error (.before .expectedValue s)
  | fuel + 1, state, first, s => do
    match ← next ending first s with
    | .closed rest => return ([], rest)
    | .more s =>
      let ((x, state), s) ← item state ending s
      let (xs, rest) ← sequenceWithin next item ending fuel state false s
      return (x :: xs, rest)

/-- **A sequence is steady** if its items are and take a byte each. -/
theorem foretells_sequenceWithin
    (hnext : ∀ first, Steady 0 fun ending s => next ending first s)
    (hitem : ∀ state, Advancing (item state)) (ending : Ending) {fuel fuel' : Nat} {state : σ}
    {first : Bool} {s t : List UInt8} (enough : s.length < fuel)
    (enough' : s.length + t.length < fuel') :
    Foretells ending 1 s.length t (sequenceWithin next item .broken fuel state first s)
      (sequenceWithin next item ending fuel' state first (s ++ t)) := by
  induction fuel' generalizing fuel state first s t with
  | zero => omega
  | succ fuel' ih =>
      obtain ⟨fuel, rfl⟩ : ∃ m, fuel = m + 1 := ⟨fuel - 1, by omega⟩
      -- what is behind the front is read as if it were all of the input
      have behind : ∀ x state (s : List UInt8), s.length < fuel' → Within ending 1 s.length (do
          let (xs, rest) ← sequenceWithin next item ending fuel' state false s
          return (x :: xs, rest)) := fun x state s enough' => by
        have found := (@ih 1 state false [] s Nat.one_pos (by simpa using enough')).within
        rw [List.length_nil, Nat.zero_add] at found
        exact found.bind fun _ bound => bound
      rw [sequenceWithin, sequenceWithin]
      refine (hnext first ending s t).bind ?_ ?_
      · rintro (rest | s) _ bound
        · exact .value bound
        · have : s.length ≤ _ := bound
          refine (((hitem state).steady ending s t).bind ?_ ?_).mono bound
          · rintro ⟨⟨x, state'⟩, s'⟩ read taken
            have less : s'.length < s.length := (hitem state).left_lt read
            have others := @ih fuel state' false s' t (by omega) (by omega)
            refine Foretells.mono ?_ taken
            refine others.bind ?_ ?_
            · exact fun _ _ bound => .value bound
            · exact fun _ _ bound => bound
          · rintro ⟨⟨x, state'⟩, s'⟩ read taken
            have less : s'.length < (s ++ t).length := (hitem state).left_lt read
            rw [List.length_append] at less
            exact (behind x state' s' (by omega)).mono taken
      · rintro (rest | s) _ bound
        · exact bound
        · have : s.length ≤ _ := bound
          refine (((hitem state).takes ending s).bind ?_).mono bound
          rintro ⟨⟨x, state⟩, s⟩ taken
          simp only [left] at taken
          exact (behind x state s (by omega)).mono (Nat.le_of_succ_le taken)

end Sequence

/-! ### Lists and objects -/

/-- Elements are a sequence without a state. -/
theorem elementsWithin_eq (item : Reader α) (ending : Ending) (fuel : Nat) (first : Bool)
    (s : List UInt8) :
    elementsWithin item ending fuel first s =
      sequenceWithin nextElement (fun _ => mapped (·, ()) item) ending fuel () first s := by
  induction fuel generalizing first s with
  | zero => rfl
  | succ fuel ih =>
      rw [elementsWithin, sequenceWithin]
      cases nextElement ending first s with
      | error fault => rfl
      | ok found =>
          cases found with
          | closed rest => rfl
          | more s =>
              simp only [ok_bind, mapped]
              cases item ending s with
              | error fault => rfl
              | ok x =>
                  simp only [Except.map, ok_bind, ih]

theorem steady_elements {item : Reader α} (h : Steady 1 item) : Steady 1 (elements item) := by
  intro ending s t
  rw [elements, elements, elementsWithin_eq, elementsWithin_eq]
  exact foretells_sequenceWithin steady_nextElement (fun _ => (h.mapped _).advancing) ending
    (Nat.lt_succ_self _) (by rw [List.length_append]; exact Nat.lt_succ_self _)

/-- **A list is steady** if its elements are. -/
theorem steady_list {item : Reader α} (h : Steady 1 item) : Steady 1 (list item) := by
  refine Steady.afterBlank (by simp) fun ending b s t => ?_
  split
  · exact (steady_elements h ending s t).mono (Nat.le_succ _)
  · exact foretells_mismatch "a sequence" ending b s t

/-- Reads a member from its key on. -/
def member (item : Reader α) : Reader (String × α) := fun ending s => do
  let (key, s) ← literal ending s
  let s ← colon ending s
  mapped (key, ·) item ending s

/-- Members are a sequence without a state. -/
theorem membersWithin_eq (item : Reader α) (ending : Ending) (fuel : Nat) (first : Bool)
    (s : List UInt8) :
    membersWithin item ending fuel first s =
      sequenceWithin nextMember (fun _ => mapped (·, ()) (member item)) ending fuel () first s := by
  induction fuel generalizing first s with
  | zero => rfl
  | succ fuel ih =>
      rw [membersWithin, sequenceWithin]
      cases nextMember ending first s with
      | error fault => rfl
      | ok found =>
          cases found with
          | closed rest => rfl
          | more s =>
              simp only [ok_bind, mapped, member]
              cases literal ending s with
              | error fault => rfl
              | ok key =>
                  simp only [ok_bind]
                  cases colon ending key.2 with
                  | error fault => rfl
                  | ok s =>
                      simp only [ok_bind]
                      cases item ending s with
                      | error fault => rfl
                      | ok value => simp only [Except.map, ok_bind, ih]

/-- A member is steady if its value is, and its key takes a byte. -/
theorem advancing_member {item : Reader α} (h : Steady 0 item) : Advancing (member item) :=
  steady_literal.advance fun key => steady_colon.seq (h.mapped (key, ·))

theorem Advancing.mapped {γ : Type} {item : Reader α} (h : Advancing item) (f : α → γ) :
    Advancing (Json.mapped f item) where
  steady := h.steady.mapped f
  takes := fun ending s => by
    have found := h.takes ending s
    rw [Json.mapped]
    cases read : item ending s with
    | ok x =>
        rw [read] at found
        exact found
    | error fault =>
        rw [read] at found
        exact found

theorem steady_members {item : Reader α} (h : Steady 0 item) : Steady 1 (members item) := by
  intro ending s t
  rw [members, members, membersWithin_eq, membersWithin_eq]
  exact foretells_sequenceWithin steady_nextMember (fun _ => (advancing_member h).mapped _) ending
    (Nat.lt_succ_self _) (by rw [List.length_append]; exact Nat.lt_succ_self _)

/-- **An object with arbitrary keys is steady** if its values are. -/
theorem steady_dict {item : Reader α} (h : Steady 0 item) : Steady 1 (dict item) := by
  refine Steady.afterBlank (by simp) fun ending b s t => ?_
  split
  · exact (steady_members h ending s t).mono (Nat.le_succ _)
  · exact foretells_mismatch "a map" ending b s t

end Compliance.Json
