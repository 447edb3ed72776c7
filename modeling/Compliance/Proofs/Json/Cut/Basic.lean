/-
**Inputs that are cut off.**

A device may deliver the front of an input and then fail.  What a reader makes of that front foretells
what it makes of every input that starts with it.  If it gives a value, then it gives that value, and
leaves what comes after the front.  If it finds a flaw, then it finds one.  If it meets the failed
device, then it needs a byte behind the front, and whatever goes wrong goes wrong there.

Main definitions:

* `Cause.isFlaw` — syntax and type errors, as opposed to an input that stops too early;
* `Leaves` — results with bytes left over;
* `Within` — a result that was found in so many bytes;
* `Foretells` — what a front says about an input that goes on;
* `Steady` — readers of which each front foretells every longer input;
* `Advancing` — steady readers that take at least one byte.

Main results:

* `Foretells.bind`, `Foretells.flawBefore`, `Foretells.flawSeeing` — what two steps, and what flaws in
  the front, foretell;
* `Steady.seq`, `Steady.bind`, `Steady.afterBlank` — steady readers one after the other, and one that
  starts at the first byte after blanks;
* `steady_literal`, `steady_skipLiteral` — **string literals are steady**.
-/

import Compliance.Json.Container
import Compliance.Proofs.Except

set_option relaxedAutoImplicit false
set_option autoImplicit false

namespace Compliance.Json

/-! ### Flaws -/

/-- Whether a cause is a syntax or a type error, and not that the input stops too early. -/
def Cause.isFlaw : Cause → Bool
  | deviceFailed => false
  | endWithin _ => false
  | _ => true

theorem Cause.ne_deviceFailed_of_isFlaw {c : Cause} (h : c.isFlaw = true) : c ≠ .deviceFailed := by
  rintro rfl
  cases h

/-! ### What is left of an input -/

/-- Results of a reader with bytes left over. -/
class Leaves (β : Type) where
  /-- How many bytes are left, at least. -/
  left : β → Nat
  /-- The result with more bytes left. -/
  extend : β → List UInt8 → β
  left_extend : ∀ x t, left (extend x t) = left x + t.length

open Leaves (left extend)

instance : Leaves (List UInt8) where
  left := List.length
  extend := (· ++ ·)
  left_extend := fun _ _ => List.length_append

instance {α : Type} : Leaves (α × List UInt8) where
  left := fun x => x.2.length
  extend := fun x t => (x.1, x.2 ++ t)
  left_extend := fun _ _ => List.length_append

/-- A container that has closed has taken its closing byte. -/
instance : Leaves Next where
  left
    | .closed s => s.length + 1
    | .more s => s.length
  extend x t :=
    match x with
    | .closed s => .closed (s ++ t)
    | .more s => .more (s ++ t)
  left_extend := fun x t => by
    cases x with
    | closed s =>
        simp only [List.length_append]
        exact Nat.add_right_comm _ _ _
    | more s => exact List.length_append

variable {β γ : Type} [Leaves β] [Leaves γ] {ending : Ending} {k k' n m : Nat} {t : List UInt8}

/-- A result that was found in `n` bytes: a value leaves at most all but `k` of them, and for a fault
at least one of them was looked at.  Only a device that can fail has failed. -/
def Within (ending : Ending) (k n : Nat) : Except Fault β → Prop
  | .ok x => left x + k ≤ n
  | .error f => f.unread ≤ n - 1 ∧ (ending = .finished → f.cause ≠ .deviceFailed)

/-- What a reader makes of `n` bytes on a device that fails then, and what it makes of the same bytes
with `t` and the given ending after them. -/
inductive Foretells (ending : Ending) (k n : Nat) (t : List UInt8) :
    Except Fault β → Except Fault β → Prop
  /-- A value stays the same, and `t` is left. -/
  | value {x : β} : left x + k ≤ n → Foretells ending k n t (.ok x) (.ok (extend x t))
  /-- A flaw stays a flaw, although it may be another one. -/
  | flaw {f g : Fault} : f.cause.isFlaw = true → g.cause.isFlaw = true →
      g.unread ≤ n + t.length - 1 → Foretells ending k n t (.error f) (.error g)
  /-- If the failed device was met, then all depends on `t`. -/
  | starved {f : Fault} {y : Except Fault β} : f.cause = .deviceFailed →
      Within ending k t.length y → Foretells ending k n t (.error f) y

/-- A reader of which each front foretells every longer input. -/
def Steady (k : Nat) (r : Ending → List UInt8 → Except Fault β) : Prop :=
  ∀ ending s t, Foretells ending k s.length t (r .broken s) (r ending (s ++ t))

/-! ### Bounds -/

theorem Within.mono {y : Except Fault β} (h : Within ending k n y) (hn : n ≤ m) :
    Within ending k m y := by
  cases y with
  | ok x => exact Nat.le_trans h hn
  | error f => exact ⟨Nat.le_trans h.1 (Nat.sub_le_sub_right hn 1), h.2⟩

theorem Within.weaken {y : Except Fault β} (h : Within ending k n y) (hk : k' ≤ k) :
    Within ending k' n y := by
  cases y with
  | ok x => exact Nat.le_trans (Nat.add_le_add_left hk _) h
  | error f => exact h

/-- A byte that was taken before counts as taken. -/
theorem Within.later {y : Except Fault β} (h : Within ending k n y) :
    Within ending (k + 1) (n + 1) y := by
  cases y with
  | ok x => exact Nat.succ_le_succ h
  | error f => exact ⟨Nat.le_trans h.1 (Nat.sub_le_sub_right (Nat.le_succ n) 1), h.2⟩

/-- The fault of an input that stops too early looks at all of it. -/
theorem within_stop {cause : Cause} (h : cause ≠ .deviceFailed) :
    Within ending k n (.error (ending.stop cause) : Except Fault β) := by
  cases ending with
  | finished => exact ⟨Nat.zero_le _, fun _ => h⟩
  | broken => exact ⟨Nat.zero_le _, fun e => by cases e⟩

theorem within_flaw {f : Fault} (flaw : f.cause.isFlaw = true) (unread : f.unread ≤ n - 1) :
    Within ending k n (.error f : Except Fault β) :=
  ⟨unread, fun _ => Cause.ne_deviceFailed_of_isFlaw flaw⟩

/-- Two steps find their result in the bytes in which the first one finds its own. -/
theorem Within.bind {x : Except Fault β} {f : β → Except Fault γ} (h : Within ending k' n x)
    (next : ∀ b, left b + k' ≤ n → Within ending k n (f b)) : Within ending k n (x >>= f) := by
  cases x with
  | ok b => exact next b h
  | error fault => exact h

/-! ### Fronts -/

namespace Foretells

variable {x y : Except Fault β}

theorem mono (h : Foretells ending k n t x y) (hn : n ≤ m) : Foretells ending k m t x y := by
  cases h with
  | value left => exact .value (Nat.le_trans left hn)
  | flaw f g unread => exact .flaw f g (by omega)
  | starved device within => exact .starved device within

theorem weaken (h : Foretells ending k n t x y) (hk : k' ≤ k) : Foretells ending k' n t x y := by
  cases h with
  | value left => exact .value (by omega)
  | flaw f g unread => exact .flaw f g unread
  | starved device within => exact .starved device (within.weaken hk)

/-- What is foretold is found in the bytes of the input. -/
theorem within (h : Foretells ending k n t x y) : Within ending k (n + t.length) y := by
  cases h with
  | @value x bound =>
      show left (extend x t) + k ≤ n + t.length
      rw [Leaves.left_extend]
      omega
  | flaw f g unread => exact within_flaw g unread
  | starved device within => exact within.mono (Nat.le_add_left _ _)

/-- A front that stops too early foretells whatever comes of the bytes after it. -/
theorem stop {cause : Cause} (h : Within ending k t.length y) :
    Foretells ending k n t (.error (Ending.broken.stop cause)) y :=
  .starved rfl h

/-- **Two steps one after the other.**  The second one goes on where the first one stopped, in the
front or behind it. -/
theorem bind {f g : β → Except Fault γ} (h : Foretells ending k' n t x y)
    (same : ∀ b, x = .ok b → left b + k' ≤ n → Foretells ending k n t (f b) (g (extend b t)))
    (later : ∀ b, y = .ok b → left b + k' ≤ t.length → Within ending k t.length (g b)) :
    Foretells ending k n t (x >>= f) (y >>= g) := by
  cases h with
  | @value b bound => exact same b rfl bound
  | flaw f g unread => exact .flaw f g unread
  | starved device within =>
      refine .starved device ?_
      cases y with
      | ok b => exact later b rfl within
      | error fault => exact within

/-- A flaw that leaves the bytes `s` of the front unread leaves those behind it, too. -/
theorem flawBefore {cause : Cause} {s : List UInt8} (flaw : cause.isFlaw = true)
    (taken : s.length + 1 ≤ n) :
    Foretells ending k n t (.error (.before cause s) : Except Fault β)
      (.error (.before cause (s ++ t))) := by
  refine .flaw flaw flaw ?_
  simp only [Fault.before, List.length_append]
  omega

/-- So does one for which the first of them is looked at. -/
theorem flawSeeing {cause : Cause} {s : List UInt8} (flaw : cause.isFlaw = true)
    (given : s.length ≤ n) :
    Foretells ending k n t (.error (.seeing cause s) : Except Fault β)
      (.error (.seeing cause (s ++ t))) := by
  refine .flaw flaw flaw ?_
  simp only [Fault.seeing, List.length_append]
  omega

/-- A function of the result that keeps what is left. -/
theorem map {f : β → γ} (h : Foretells ending k n t x y) (keeps : ∀ b, left (f b) = left b)
    (extended : ∀ b, f (extend b t) = extend (f b) t) :
    Foretells ending k n t (x.map f) (y.map f) := by
  cases h with
  | @value b bound =>
      show Foretells ending k n t (.ok (f b)) (.ok (f (extend b t)))
      rw [extended]
      exact .value (by rw [keeps]; exact bound)
  | flaw f g unread => exact .flaw f g unread
  | starved device within =>
      refine .starved device ?_
      cases y with
      | ok b =>
          show left (f b) + k ≤ t.length
          rw [keeps]
          exact within
      | error fault => exact within

end Foretells

namespace Steady

variable {r : Ending → List UInt8 → Except Fault β}

/-- A steady reader finds its result in the bytes that it is given. -/
theorem within (h : Steady k r) (ending : Ending) (s : List UInt8) :
    Within ending k s.length (r ending s) := by
  have found := (h ending [] s).within
  rwa [List.length_nil, Nat.zero_add] at found

theorem weaken (h : Steady k r) (hk : k' ≤ k) : Steady k' r :=
  fun ending s t => (h ending s t).weaken hk

/-- A reader that goes on with the bytes that another one left. -/
theorem seq {p : Ending → List UInt8 → Except Fault (List UInt8)} (hp : Steady k' p)
    (hr : Steady k r) : Steady k fun ending s => p ending s >>= r ending := by
  intro ending s t
  refine (hp ending s t).bind ?_ ?_
  · exact fun s _ bound => (hr ending s t).mono (Nat.le_of_add_right_le bound)
  · exact fun s _ bound => (hr.within ending s).mono (Nat.le_of_add_right_le bound)

/-- A reader that goes on with the value that another one gave and the bytes that it left. -/
theorem bind {α : Type} {q : Reader α} {r : α → Ending → List UInt8 → Except Fault β}
    (hq : Steady k' q) (hr : ∀ a, Steady k (r a)) :
    Steady k fun ending s => q ending s >>= fun x => r x.1 ending x.2 := by
  intro ending s t
  refine (hq ending s t).bind ?_ ?_
  · exact fun x _ bound => (hr x.1 ending x.2 t).mono (Nat.le_of_add_right_le bound)
  · exact fun x _ bound => ((hr x.1).within ending x.2).mono (Nat.le_of_add_right_le bound)

/-- A function of the value keeps what is left. -/
theorem bind_pure {α γ : Type} {q : Reader α} (hq : Steady k q) (f : α → γ) :
    Steady k fun ending s => do
      let (a, rest) ← q ending s
      return (f a, rest) := by
  intro ending s t
  refine (hq ending s t).bind ?_ ?_
  · exact fun _ _ bound => .value bound
  · exact fun _ _ bound => bound

end Steady

/-- A steady reader that takes at least one byte, in the front or behind it. -/
structure Advancing (r : Ending → List UInt8 → Except Fault β) : Prop where
  steady : Steady 0 r
  takes : ∀ ending s, Within ending 1 s.length (r ending s)

theorem Advancing.left_lt {r : Ending → List UInt8 → Except Fault β} (h : Advancing r) {s : List UInt8}
    {x : β} (read : r ending s = .ok x) : left x < s.length := by
  have found := h.takes ending s
  rwa [read] at found

namespace Steady

variable {r : Ending → List UInt8 → Except Fault β}

theorem advancing (h : Steady 1 r) : Advancing r :=
  ⟨h.weaken (Nat.zero_le 1), h.within⟩

/-- After a reader that takes a byte another one need not take any. -/
theorem advance {α : Type} {q : Reader α} {r : α → Ending → List UInt8 → Except Fault β}
    (hq : Steady 1 q) (hr : ∀ a, Steady 0 (r a)) :
    Advancing fun ending s => q ending s >>= fun x => r x.1 ending x.2 where
  steady := hq.bind hr
  takes := fun ending s => (hq.within ending s).bind fun x bound =>
    ((hr x.1).within ending x.2).later.mono bound

end Steady

/-! ### The first byte after blanks -/

/-- Passes over blanks and goes on with the first byte after them; `missing` is the fault of an input
that has nothing more. -/
def afterBlank {α : Type} (missing : Fault) (body : UInt8 → List UInt8 → Except Fault α)
    (s : List UInt8) : Except Fault α :=
  match skipBlank s with
  | [] => .error missing
  | b :: s => body b s

/-- What is after blanks is there in every longer input, too. -/
theorem skipBlank_append_of_cons {b : UInt8} {s s' : List UInt8} (h : skipBlank s = b :: s')
    (t : List UInt8) : skipBlank (s ++ t) = b :: (s' ++ t) := by
  rw [skipBlank, List.dropWhile_append, ← skipBlank, h]
  rfl

theorem skipBlank_append_of_nil {s : List UInt8} (h : skipBlank s = []) (t : List UInt8) :
    skipBlank (s ++ t) = skipBlank t := by
  rw [skipBlank, List.dropWhile_append, ← skipBlank, h]
  rfl

theorem length_le_of_skipBlank {b : UInt8} {s s' : List UInt8} (h : skipBlank s = b :: s') :
    s'.length + 1 ≤ s.length :=
  List.length_cons ▸ h ▸ length_skipBlank_le s

theorem Within.afterBlank {cause : Cause} {body : UInt8 → List UInt8 → Except Fault β}
    {s : List UInt8} (stops : cause ≠ .deviceFailed)
    (h : ∀ b s', s'.length + 1 ≤ s.length → Within ending k (s'.length + 1) (body b s')) :
    Within ending k s.length (Json.afterBlank (ending.stop cause) body s) := by
  rw [Json.afterBlank]
  cases found : skipBlank s with
  | nil => exact within_stop stops
  | cons b s' =>
      have bound := length_le_of_skipBlank found
      exact (h b s' bound).mono bound

/-- The first byte after blanks is in the front, or else it is the first one behind it. -/
theorem Foretells.afterBlank {cause : Cause} {f g : UInt8 → List UInt8 → Except Fault β}
    {s : List UInt8} (stops : cause ≠ .deviceFailed)
    (front : ∀ b s', s'.length + 1 ≤ s.length →
      Foretells ending k (s'.length + 1) t (f b s') (g b (s' ++ t)))
    (behind : ∀ b t', t'.length + 1 ≤ t.length → Within ending k (t'.length + 1) (g b t')) :
    Foretells ending k s.length t (Json.afterBlank (Ending.broken.stop cause) f s)
      (Json.afterBlank (ending.stop cause) g (s ++ t)) := by
  rw [Json.afterBlank, Json.afterBlank]
  cases found : skipBlank s with
  | cons b s' =>
      have bound := length_le_of_skipBlank found
      rw [skipBlank_append_of_cons found]
      exact (front b s' bound).mono bound
  | nil =>
      rw [skipBlank_append_of_nil found]
      exact Foretells.stop (Within.afterBlank stops behind)

/-- **A reader that is steady from the first byte on is steady after blanks.** -/
theorem Steady.afterBlank {cause : Cause} {body : Ending → UInt8 → List UInt8 → Except Fault β}
    (stops : cause ≠ .deviceFailed)
    (h : ∀ ending b s t,
      Foretells ending k (s.length + 1) t (body .broken b s) (body ending b (s ++ t))) :
    Steady k fun ending => Json.afterBlank (ending.stop cause) (body ending) := by
  intro ending s t
  refine Foretells.afterBlank stops (fun b s' _ => h ending b s' t) fun b t' _ => ?_
  have found := (h ending b [] t').within
  rwa [List.length_nil, Nat.zero_add, Nat.add_comm] at found

/-- A reader that takes a byte from the first one on takes one after blanks. -/
theorem Advancing.afterBlank {cause : Cause} {body : Ending → UInt8 → List UInt8 → Except Fault β}
    (stops : cause ≠ .deviceFailed)
    (h : ∀ ending b s t,
      Foretells ending 0 (s.length + 1) t (body .broken b s) (body ending b (s ++ t)) ∧
        Within ending 1 (s.length + 1) (body ending b s)) :
    Advancing fun ending => Json.afterBlank (ending.stop cause) (body ending) where
  steady := Steady.afterBlank stops fun ending b s t => (h ending b s t).1
  takes := fun ending _ => Within.afterBlank stops fun b s _ => (h ending b s []).2

/-- What is read behind a byte that was looked at. -/
theorem Advancing.behind {r : Ending → List UInt8 → Except Fault β} (h : Advancing r)
    (ending : Ending) (s t : List UInt8) :
    Foretells ending 0 (s.length + 1) t (r .broken s) (r ending (s ++ t)) ∧
      Within ending 1 (s.length + 1) (r ending s) :=
  ⟨(h.steady ending s t).mono (Nat.le_succ _), (h.takes ending s).mono (Nat.le_succ _)⟩

/-! ### Words -/

theorem within_word (ending : Ending) (w : UInt8) (ws s : List UInt8) :
    Within ending 1 s.length (word ending (w :: ws) s) := by
  induction s generalizing w ws with
  | nil => exact within_stop (by simp)
  | cons b s ih =>
      rw [word]
      split
      · cases ws with
        | nil => exact Nat.le_refl _
        | cons w' ws => exact (ih w' ws).mono (Nat.le_succ _)
      · exact within_flaw rfl (Nat.le_refl _)

/-- The rest of a word is taken whole, or the input is cut off in it. -/
theorem steady_word (w : UInt8) (ws : List UInt8) :
    Steady 1 fun ending s => word ending (w :: ws) s := by
  intro ending s t
  induction s generalizing w ws with
  | nil => exact Foretells.stop (within_word ending w ws t)
  | cons b s ih =>
      simp only [List.cons_append, word]
      split
      · cases ws with
        | nil => exact .value (Nat.le_refl _)
        | cons w' ws => exact (ih w' ws).mono (Nat.le_succ _)
      · exact .flawBefore rfl (Nat.le_refl _)

/-! ### String literals -/

namespace Owed

theorem isFlaw_of_ofUnit {unit : Nat} {cause : Cause} (h : ofUnit unit = .error cause) :
    cause.isFlaw = true := by
  unfold ofUnit at h
  split at h
  · cases h
    rfl
  · split at h <;> cases h

theorem isFlaw_of_ofPartner {leading unit : Nat} {cause : Cause}
    (h : ofPartner leading unit = .error cause) : cause.isFlaw = true := by
  unfold ofPartner at h
  split at h
  · cases h
  · cases h
    rfl

theorem isFlaw_of_addDigit {read : List UInt8} {b : UInt8} {more : List UInt8 → Owed}
    {unit : Nat → Except Cause (List UInt8 × Owed)} {cause : Cause}
    (flaw : ∀ n cause, unit n = .error cause → cause.isFlaw = true)
    (h : addDigit read b more unit = .error cause) : cause.isFlaw = true := by
  unfold addDigit at h
  split at h
  · cases h
  · split at h
    · exact flaw _ _ h
    · cases h
      rfl

/-- What the machine of a literal cannot take is a flaw. -/
theorem isFlaw_of_take {pairs : Bool} {owed : Owed} {b : UInt8} {cause : Cause}
    (h : owed.take pairs b = .error cause) : cause.isFlaw = true := by
  cases owed with
  | nothing =>
      simp only [take] at h
      split at h
      · cases h
      · split at h
        · cases h
          rfl
        · cases h
  | escape =>
      simp only [take] at h
      split at h
      · cases h
      · split at h
        · cases h
        · cases h
          rfl
  | digits read =>
      refine isFlaw_of_addDigit (fun n cause hn => ?_) h
      split at hn
      · exact isFlaw_of_ofUnit hn
      · cases hn
  | partner leading =>
      simp only [take] at h
      split at h
      · cases h
      · cases h
        rfl
  | partnerKind leading =>
      simp only [take] at h
      split at h
      · cases h
      · cases h
        rfl
  | partnerDigits leading read => exact isFlaw_of_addDigit (fun _ _ => isFlaw_of_ofPartner) h

end Owed

theorem within_literalBytes (pairs : Bool) (ending : Ending) (owed : Owed) (read s : List UInt8) :
    Within ending 1 s.length (literalBytes pairs ending owed read s) := by
  induction s generalizing owed read with
  | nil => exact within_stop (by simp)
  | cons b s ih =>
      rw [literalBytes]
      split
      · exact Nat.le_refl _
      · split
        · exact (ih _ _).mono (Nat.le_succ _)
        · rename_i refused
          exact within_flaw (Owed.isFlaw_of_take refused) (Nat.le_refl _)

/-- A literal is read up to its closing quote, or the input is cut off in it. -/
theorem steady_literalBytes (pairs : Bool) (owed : Owed) (read : List UInt8) :
    Steady 1 fun ending s => literalBytes pairs ending owed read s := by
  intro ending s t
  induction s generalizing owed read with
  | nil => exact Foretells.stop (within_literalBytes pairs ending owed read t)
  | cons b s ih =>
      simp only [List.cons_append, literalBytes]
      split
      · exact .value (Nat.le_refl _)
      · cases taken : owed.take pairs b with
        | ok result => exact (ih _ _).mono (Nat.le_succ _)
        | error cause => exact .flawBefore (Owed.isFlaw_of_take taken) (Nat.le_refl _)

/-- **A literal is steady**: it ends with its closing quote. -/
theorem steady_literal : Steady 1 literal := by
  intro ending s t
  refine (steady_literalBytes true .nothing [] ending s t).bind ?_ ?_
  · rintro ⟨decoded, rest⟩ _ bound
    simp only [left, extend] at bound ⊢
    split
    · exact .value bound
    · exact .flawBefore rfl bound
  · rintro ⟨decoded, rest⟩ _ bound
    simp only [left] at bound ⊢
    split
    · exact bound
    · exact within_flaw rfl (by simp only [Fault.before]; omega)

theorem steady_skipLiteral : Steady 1 skipLiteral := by
  intro ending s t
  refine (steady_literalBytes false .nothing [] ending s t).bind ?_ ?_
  · rintro ⟨decoded, rest⟩ _ bound
    exact .value bound
  · rintro ⟨decoded, rest⟩ _ bound
    exact bound

end Compliance.Json
