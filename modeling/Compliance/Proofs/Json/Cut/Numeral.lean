/-
**Numbers that are cut off.**

A number ends where the next byte is no part of it, so a number at the end of a front is read on.  Only
an exponent can be found too great before it ends: the digits after the one with which it becomes too
great do not matter any more.

Main definitions:

* `Finisher` — what is done with a numeral once its exponent has been read.

Main results:

* `Numeral.overflow?_append_of_some`, `Numeral.overflow?_append_of_none` — where an exponent with more
  digits becomes too great;
* `steady_number`, `advancing_skipNumber` — **numbers are steady**.
-/

import Compliance.Json.Numeral
import Compliance.Proofs.Json.Cut.Basic

set_option relaxedAutoImplicit false
set_option autoImplicit false

namespace Compliance.Json

open Leaves (left extend)

variable {β : Type} [Leaves β] {ending : Ending} {t : List UInt8}

/-! ### Digits -/

theorem length_afterDigits_le (s : List UInt8) : (afterDigits s).length ≤ s.length :=
  (List.dropWhile_suffix isDigit).length_le

theorem length_frontDigits_add (s : List UInt8) :
    (frontDigits s).length + (afterDigits s).length = s.length := by
  rw [frontDigits, afterDigits, List.length_map, ← List.length_append,
    List.takeWhile_append_dropWhile]

/-- Digits that end within a front are the digits of every longer input. -/
theorem digits_append_of_cons {b : UInt8} {s s' : List UInt8} (h : afterDigits s = b :: s')
    (t : List UInt8) :
    frontDigits (s ++ t) = frontDigits s ∧ afterDigits (s ++ t) = b :: (s' ++ t) := by
  have notAll : (s.takeWhile isDigit).length ≠ s.length := by
    have parts := length_frontDigits_add s
    rw [frontDigits, List.length_map, h] at parts
    simp only [List.length_cons] at parts
    omega
  constructor
  · rw [frontDigits, List.takeWhile_append, if_neg notAll, frontDigits]
  · rw [afterDigits, List.dropWhile_append, ← afterDigits, h]
    rfl

/-- Digits up to the end of a front are followed by those after it. -/
theorem digits_append_of_nil {s : List UInt8} (h : afterDigits s = []) (t : List UInt8) :
    frontDigits (s ++ t) = frontDigits s ++ frontDigits t ∧
      afterDigits (s ++ t) = afterDigits t := by
  have all : s.takeWhile isDigit = s := by
    have parts : s.takeWhile isDigit ++ afterDigits s = s := List.takeWhile_append_dropWhile
    rwa [h, List.append_nil] at parts
  constructor
  · rw [frontDigits, List.takeWhile_append, if_pos (congrArg List.length all), List.map_append,
      frontDigits, frontDigits, all]
  · rw [afterDigits, List.dropWhile_append, ← afterDigits, h]
    rfl

/-- Looking at the next byte and going on with it. -/
theorem foretells_look {k n : Nat} {s : List UInt8} {x y : Except Fault β}
    (front : s ≠ [] → Foretells ending k n t x y)
    (behind : s = [] → Within ending k t.length (look ending t >>= fun _ => y)) :
    Foretells ending k n t (look .broken s >>= fun _ => x)
      (look ending (s ++ t) >>= fun _ => y) := by
  cases s with
  | nil => exact .starved rfl (behind rfl)
  | cons b s =>
      have looked : look ending (b :: s ++ t) = .ok () := by cases ending <;> rfl
      rw [looked]
      exact front (List.cons_ne_nil b s)

theorem within_look {k n : Nat} {s : List UInt8} {y : Except Fault β}
    (h : Within ending k n y) : Within ending k n (look ending s >>= fun _ => y) := by
  cases s with
  | nil =>
      cases ending with
      | finished => exact h
      | broken => exact ⟨Nat.zero_le _, fun e => by cases e⟩
  | cons b s =>
      have looked : look ending (b :: s) = .ok () := by cases ending <;> rfl
      rw [looked]
      exact h

/-! ### Digits before the point -/

theorem within_wholeDigits {missing : Cause} (stops : missing ≠ .deviceFailed) (ending : Ending)
    (s : List UInt8) : Within ending 1 s.length (wholeDigits missing ending s) := by
  cases s with
  | nil => exact within_stop stops
  | cons b s =>
      rw [wholeDigits]
      split
      · refine within_look ?_
        cases s with
        | nil => exact Nat.le_refl _
        | cons d s =>
            simp only [List.head?_cons]
            split
            · exact within_flaw rfl (Nat.le_succ _)
            · exact Nat.le_refl _
      · split
        · exact within_look (Nat.succ_le_succ (length_afterDigits_le s))
        · exact within_flaw rfl (Nat.le_refl _)

/-- The digits before the point, if there is a byte after them. -/
theorem foretells_wholeDigits {missing : Cause} (stops : missing ≠ .deviceFailed) (ending : Ending)
    (s t : List UInt8) :
    Foretells ending 0 s.length t (wholeDigits missing .broken s)
      (wholeDigits missing ending (s ++ t)) := by
  cases s with
  | nil => exact Foretells.stop ((within_wholeDigits stops ending t).weaken (Nat.zero_le 1))
  | cons b s =>
      simp only [List.cons_append, wholeDigits]
      split
      · cases s with
        | nil =>
            refine .starved rfl (within_look ?_)
            cases t with
            | nil => exact Nat.le_refl _
            | cons d t =>
                simp only [List.nil_append, List.head?_cons]
                split
                · exact within_flaw rfl (Nat.le_refl _)
                · exact Nat.le_refl _
        | cons d s =>
            refine foretells_look (fun _ => ?_) (fun h => absurd h (List.cons_ne_nil d s))
            simp only [List.cons_append, List.head?_cons]
            split
            · exact .flawSeeing (s := d :: s) rfl (Nat.le_succ _)
            · exact .value (Nat.le_succ _)
      · split
        · cases rest : afterDigits s with
          | nil =>
              rw [(digits_append_of_nil rest t).1, (digits_append_of_nil rest t).2]
              exact .starved rfl (within_look (length_afterDigits_le t))
          | cons c s' =>
              rw [(digits_append_of_cons rest t).1, (digits_append_of_cons rest t).2]
              refine foretells_look (s := c :: s') (fun _ => .value ?_)
                (fun h => absurd h (List.cons_ne_nil c s'))
              have := length_afterDigits_le s
              rw [rest] at this
              simp only [left, List.length_cons] at this ⊢
              omega
        · exact .flawBefore rfl (Nat.le_refl _)

/-- A byte after the digits has been looked at. -/
theorem ne_nil_of_wholeDigits {missing : Cause} {s rest : List UInt8} {ds : List Nat}
    (h : wholeDigits missing .broken s = .ok (ds, rest)) : rest ≠ [] := by
  rintro rfl
  cases s with
  | nil => cases h
  | cons b s =>
      rw [wholeDigits] at h
      split at h
      · cases s with
        | nil => cases h
        | cons d s =>
            obtain ⟨_, _, h⟩ := bind_eq_ok.1 h
            simp only [List.head?_cons] at h
            split at h <;> cases h
      · split at h
        · obtain ⟨_, looked, h⟩ := bind_eq_ok.1 h
          rw [(Prod.mk.inj (Except.ok.inj h)).2] at looked
          cases looked
        · cases h

/-! ### Digits after the point -/

/-- What is read after a point. -/
def afterPoint (missing : Cause) : Reader (Option (List Nat)) := fun ending s =>
  if frontDigits s = [] then
    .error (if s = [] then ending.stop missing else .seeing .invalidNumber s)
  else do
    let rest := afterDigits s
    look ending rest
    return (some (frontDigits s), rest)

theorem fractionDigits_cons (missing : Cause) (ending : Ending) (b : UInt8) (s : List UInt8) :
    fractionDigits missing ending (b :: s) =
      if b = byte '.' then afterPoint missing ending s else .ok (none, b :: s) := rfl

theorem within_afterPoint {missing : Cause} (stops : missing ≠ .deviceFailed) (ending : Ending)
    (s : List UInt8) : Within ending 0 s.length (afterPoint missing ending s) := by
  rw [afterPoint]
  split
  · split
    · exact within_stop stops
    · exact within_flaw rfl (Nat.le_refl _)
  · exact within_look (length_afterDigits_le s)

theorem within_fractionDigits {missing : Cause} (stops : missing ≠ .deviceFailed) (ending : Ending)
    (s : List UInt8) : Within ending 0 s.length (fractionDigits missing ending s) := by
  cases s with
  | nil => exact Nat.le_refl _
  | cons b s =>
      rw [fractionDigits_cons]
      split
      · exact (within_afterPoint stops ending s).mono (Nat.le_succ _)
      · exact Nat.le_refl _

/-- A front without digits, unless it is empty, starts with another byte. -/
theorem frontDigits_cons_eq_nil_iff {b : UInt8} {s : List UInt8} :
    frontDigits (b :: s) = [] ↔ isDigit b = false := by
  rw [frontDigits, List.map_eq_nil_iff, List.takeWhile_cons]
  cases isDigit b <;> simp

theorem foretells_afterPoint {missing : Cause} (stops : missing ≠ .deviceFailed) (ending : Ending)
    (s t : List UInt8) :
    Foretells ending 0 s.length t (afterPoint missing .broken s)
      (afterPoint missing ending (s ++ t)) := by
  cases s with
  | nil => exact .starved rfl (within_afterPoint stops ending t)
  | cons b s =>
      cases digit : isDigit b with
      | false =>
          have none : ∀ u, frontDigits (b :: u) = [] := fun u =>
            frontDigits_cons_eq_nil_iff.2 digit
          simp only [afterPoint, List.cons_append, none, if_true, List.cons_ne_nil, if_false]
          exact .flawSeeing (s := b :: s) rfl (Nat.le_refl _)
      | true =>
          have nonempty : ∀ u, frontDigits (b :: u) ≠ [] := fun u h => by
            rw [frontDigits_cons_eq_nil_iff, digit] at h
            cases h
          have found := nonempty (s ++ t)
          rw [← List.cons_append] at found
          simp only [afterPoint, if_neg (nonempty s), if_neg found]
          cases rest : afterDigits (b :: s) with
          | nil =>
              rw [(digits_append_of_nil rest t).2]
              exact .starved rfl (within_look (length_afterDigits_le t))
          | cons c s' =>
              rw [(digits_append_of_cons rest t).1, (digits_append_of_cons rest t).2]
              refine foretells_look (s := c :: s') (fun _ => .value ?_)
                (fun h => absurd h (List.cons_ne_nil c s'))
              have := length_afterDigits_le (b :: s)
              rwa [rest] at this

/-- A point and the digits after it, if a byte is left of the front. -/
theorem foretells_fractionDigits {missing : Cause} (stops : missing ≠ .deviceFailed)
    (ending : Ending) {s : List UInt8} (h : s ≠ []) (t : List UInt8) :
    Foretells ending 0 s.length t (fractionDigits missing .broken s)
      (fractionDigits missing ending (s ++ t)) := by
  cases s with
  | nil => exact absurd rfl h
  | cons b s =>
      simp only [List.cons_append, fractionDigits_cons]
      split
      · exact (foretells_afterPoint stops ending s t).mono (Nat.le_succ _)
      · exact .value (Nat.le_refl _)

theorem ne_nil_of_fractionDigits {missing : Cause} {s rest : List UInt8}
    {fraction : Option (List Nat)} (hs : s ≠ [])
    (h : fractionDigits missing .broken s = .ok (fraction, rest)) : rest ≠ [] := by
  cases s with
  | nil => exact absurd rfl hs
  | cons b s =>
      rw [fractionDigits_cons] at h
      split at h
      · rw [afterPoint] at h
        split at h
        · cases h
        · obtain ⟨_, looked, h⟩ := bind_eq_ok.1 h
          rintro rfl
          rw [(Prod.mk.inj (Except.ok.inj h)).2] at looked
          cases looked
      · cases h
        exact List.cons_ne_nil b s

/-! ### Exponents -/

/-- The number of bytes that the digits of an exponent take. -/
def exponentWidth : Option Exponent → Nat
  | none => 0
  | some e => e.digits.length

/-- What is done with a numeral once its exponent has been read.  The digits of the exponent count as
bytes that have been looked at, and at the end of a front there may be more of them. -/
structure Finisher (finish : Option Exponent → Ending → List UInt8 → Except Fault β) : Prop where
  within : ∀ ending e s, Within ending 0 (exponentWidth e + s.length) (finish e ending s)
  foretells : ∀ ending e s t, s ≠ [] →
    Foretells ending 0 (exponentWidth e + s.length) t (finish e .broken s) (finish e ending (s ++ t))
  grows : ∀ ending negative ds t, Foretells ending 0 ds.length t
    (finish (some ⟨negative, ds⟩) .broken [])
    (finish (some ⟨negative, ds ++ frontDigits t⟩) ending (afterDigits t))

/-- What is read after the sign of an exponent. -/
def afterSign (missing : Cause) (negative : Bool) : Reader (Option Exponent) := fun ending s =>
  match s with
  | [] => .error (ending.stop missing)
  | d :: rest =>
    if isDigit d then .ok (some ⟨negative, frontDigits (d :: rest)⟩, afterDigits rest)
    else .error (.before .invalidNumber rest)

theorem exponentDigits_cons (missing : Cause) (ending : Ending) (b : UInt8) (s : List UInt8) :
    exponentDigits missing ending (b :: s) =
      if b = byte 'e' || b = byte 'E' then
        afterSign missing (exponentSign s).1 ending (exponentSign s).2
      else .ok (none, b :: s) := by
  rw [exponentDigits]
  rfl

theorem length_exponentSign_le (s : List UInt8) : (exponentSign s).2.length ≤ s.length := by
  cases s with
  | nil => exact Nat.le_refl _
  | cons b s =>
      rw [exponentSign]
      split
      · exact Nat.le_succ _
      · split
        · exact Nat.le_succ _
        · exact Nat.le_refl _

theorem exponentSign_cons_append (b : UInt8) (s t : List UInt8) :
    (exponentSign (b :: s ++ t)).1 = (exponentSign (b :: s)).1 ∧
      (exponentSign (b :: s ++ t)).2 = (exponentSign (b :: s)).2 ++ t := by
  simp only [List.cons_append, exponentSign]
  split
  · exact ⟨rfl, rfl⟩
  · split
    · exact ⟨rfl, rfl⟩
    · exact ⟨rfl, rfl⟩

/-- The digits of an exponent and what comes after them. -/
theorem exponentWidth_frontDigits {d : UInt8} {rest : List UInt8} (digit : isDigit d = true)
    (negative : Bool) :
    exponentWidth (some ⟨negative, frontDigits (d :: rest)⟩) + (afterDigits rest).length =
      (d :: rest).length := by
  have parts := length_frontDigits_add (d :: rest)
  rw [afterDigits, List.dropWhile_cons, if_pos digit] at parts
  exact parts

section Finisher

variable {finish : Option Exponent → Ending → List UInt8 → Except Fault β} {missing : Cause}

theorem Finisher.within_afterSign (h : Finisher finish) (stops : missing ≠ .deviceFailed)
    (negative : Bool) (ending : Ending) (s : List UInt8) :
    Within ending 0 s.length
      (afterSign missing negative ending s >>= fun x => finish x.1 ending x.2) := by
  cases s with
  | nil => exact within_stop stops
  | cons d rest =>
      rw [afterSign]
      split
      · rename_i digit
        rw [← exponentWidth_frontDigits digit negative]
        exact h.within ending _ _
      · exact within_flaw rfl (Nat.le_refl _)

theorem Finisher.foretells_afterSign (h : Finisher finish) (stops : missing ≠ .deviceFailed)
    (negative : Bool) (ending : Ending) (s t : List UInt8) :
    Foretells ending 0 s.length t
      (afterSign missing negative .broken s >>= fun x => finish x.1 .broken x.2)
      (afterSign missing negative ending (s ++ t) >>= fun x => finish x.1 ending x.2) := by
  cases s with
  | nil => exact Foretells.stop (h.within_afterSign stops negative ending t)
  | cons d rest =>
      simp only [List.cons_append, afterSign]
      cases digit : isDigit d with
      | false => exact .flawBefore rfl (Nat.le_refl _)
      | true =>
          have width := @exponentWidth_frontDigits d rest digit negative
          have front : afterDigits (d :: rest) = afterDigits rest := by
            rw [afterDigits, List.dropWhile_cons, if_pos digit]
            rfl
          simp only [if_true, ok_bind]
          cases left : afterDigits rest with
          | nil =>
              rw [left] at width front
              rw [← List.cons_append, (digits_append_of_nil front t).1,
                (digits_append_of_nil left t).2, ← width]
              exact h.grows ending negative _ t
          | cons c s' =>
              rw [left] at width front
              rw [← List.cons_append, (digits_append_of_cons front t).1,
                (digits_append_of_cons left t).2, ← width]
              exact h.foretells ending _ (c :: s') t (List.cons_ne_nil c s')

theorem Finisher.within_exponentDigits (h : Finisher finish) (stops : missing ≠ .deviceFailed)
    (ending : Ending) (s : List UInt8) :
    Within ending 0 s.length
      (exponentDigits missing ending s >>= fun x => finish x.1 ending x.2) := by
  cases s with
  | nil => exact h.within ending none []
  | cons b s =>
      rw [exponentDigits_cons]
      split
      · refine (h.within_afterSign stops _ ending _).mono ?_
        exact Nat.le_succ_of_le (length_exponentSign_le s)
      · have found := h.within ending none (b :: s)
        rwa [exponentWidth, Nat.zero_add] at found

theorem Finisher.foretells_exponentDigits (h : Finisher finish) (stops : missing ≠ .deviceFailed)
    (ending : Ending) {s : List UInt8} (hs : s ≠ []) (t : List UInt8) :
    Foretells ending 0 s.length t
      (exponentDigits missing .broken s >>= fun x => finish x.1 .broken x.2)
      (exponentDigits missing ending (s ++ t) >>= fun x => finish x.1 ending x.2) := by
  cases s with
  | nil => exact absurd rfl hs
  | cons b s =>
      simp only [List.cons_append, exponentDigits_cons]
      split
      · cases s with
        | nil =>
            refine Foretells.stop ((h.within_afterSign stops _ ending _).mono ?_)
            exact length_exponentSign_le t
        | cons c s =>
            rw [(exponentSign_cons_append c s t).1, (exponentSign_cons_append c s t).2]
            refine (h.foretells_afterSign stops _ ending _ t).mono ?_
            exact Nat.le_succ_of_le (length_exponentSign_le (c :: s))
      · have found := h.foretells ending none (b :: s) t (List.cons_ne_nil b s)
        rwa [exponentWidth, Nat.zero_add] at found

end Finisher

/-! ### Numerals -/

/-- What follows the digits before the point is found in the bytes after them. -/
theorem within_afterWhole {finish : Numeral → Ending → List UInt8 → Except Fault β} {missing : Cause}
    (stops : missing ≠ .deviceFailed) {negative : Bool} {whole : List Nat}
    (h : ∀ fraction, Finisher fun e => finish ⟨negative, whole, fraction, e⟩) (ending : Ending)
    (s : List UInt8) :
    Within ending 0 s.length (do
      let x ← fractionDigits missing ending s
      let y ← exponentDigits missing ending x.2
      finish ⟨negative, whole, x.1, y.1⟩ ending y.2) := by
  refine (within_fractionDigits stops ending s).bind ?_
  rintro ⟨fraction, s⟩ bound
  exact ((h fraction).within_exponentDigits stops ending s).mono bound

/-- A numeral takes at least one byte. -/
theorem within_numeral {finish : Numeral → Ending → List UInt8 → Except Fault β} {missing : Cause}
    (stops : missing ≠ .deviceFailed) (negative : Bool)
    (h : ∀ whole fraction, Finisher fun e => finish ⟨negative, whole, fraction, e⟩)
    (ending : Ending) (s : List UInt8) :
    Within ending 1 s.length
      (numeral missing negative ending s >>= fun x => finish x.1 ending x.2) := by
  simp only [numeral, bind_assoc, pure_bind]
  refine (within_wholeDigits stops ending s).bind ?_
  rintro ⟨whole, s⟩ bound
  exact (within_afterWhole stops (h whole) ending s).later.mono bound

/-- **A numeral is steady**, whatever finishes it: its three parts are read in turn, and each one ends
at a byte that is looked at. -/
theorem steady_numeral {finish : Numeral → Ending → List UInt8 → Except Fault β} {missing : Cause}
    (stops : missing ≠ .deviceFailed) (negative : Bool)
    (h : ∀ whole fraction, Finisher fun e => finish ⟨negative, whole, fraction, e⟩) :
    Steady 0 fun ending s =>
      numeral missing negative ending s >>= fun x => finish x.1 ending x.2 := by
  intro ending s t
  simp only [numeral, bind_assoc, pure_bind]
  refine (foretells_wholeDigits stops ending s t).bind ?_ ?_
  · rintro ⟨whole, s⟩ read bound
    refine ((foretells_fractionDigits stops ending (ne_nil_of_wholeDigits read) t).bind ?_ ?_).mono
      bound
    · rintro ⟨fraction, s⟩ readFraction bound
      have goesOn := ne_nil_of_fractionDigits (ne_nil_of_wholeDigits read) readFraction
      exact ((h whole fraction).foretells_exponentDigits stops ending goesOn t).mono bound
    · rintro ⟨fraction, s⟩ _ bound
      exact ((h whole fraction).within_exponentDigits stops ending s).mono bound
  · rintro ⟨whole, s⟩ _ bound
    exact (within_afterWhole stops (h whole) ending s).mono bound

/-- What is done with a number that is passed over: the byte after it is looked at. -/
def passed (_ : Numeral) (ending : Ending) (s : List UInt8) : Except Fault (List UInt8) := do
  look ending s
  return s

theorem finisher_passed (whole : List Nat) (fraction : Option (List Nat)) :
    Finisher fun e => passed ⟨false, whole, fraction, e⟩ where
  within := fun _ _ _ => within_look (Nat.le_add_left _ _)
  foretells := fun _ _ _ _ hs =>
    foretells_look (fun _ => .value (Nat.le_add_left _ _)) (fun h => absurd h hs)
  grows := fun _ _ _ t => .starved rfl (within_look (length_afterDigits_le t))

/-- **Passing over a number is steady**, and takes a byte. -/
theorem advancing_skipNumber : Advancing skipNumber where
  steady := by
    have stops : Cause.invalidNumber ≠ .deviceFailed := by simp
    exact steady_numeral stops false finisher_passed
  takes := within_numeral (by simp) false finisher_passed

/-! ### Exponents that become too great -/

theorem gather_append (limit n : Nat) (ds es : List Nat) :
    gather limit n (ds ++ es) =
      match gather limit n ds with
      | (m, []) => gather limit m es
      | (m, d :: later) => (m, d :: later ++ es) := by
  induction ds generalizing n with
  | nil => rfl
  | cons d ds ih =>
      rw [List.cons_append, gather, gather]
      split
      · exact ih _
      · rfl

theorem length_gather_le (limit n : Nat) (ds : List Nat) :
    (gather limit n ds).2.length ≤ ds.length := by
  induction ds generalizing n with
  | nil => exact Nat.le_refl _
  | cons d ds ih =>
      rw [gather]
      split
      · exact Nat.le_succ_of_le (ih _)
      · exact Nat.le_refl _

namespace Numeral

variable {negative minus : Bool} {whole : List Nat} {fraction : Option (List Nat)} {ds es : List Nat}
  {later : Nat}

/-- The digit with which an exponent becomes too great is one of its digits. -/
theorem lt_of_overflow? (h : overflow? ⟨negative, whole, fraction, some ⟨minus, ds⟩⟩ = some later) :
    later < ds.length := by
  have bound := length_gather_le maxExponent 0 ds
  simp only [overflow?, Option.bind_eq_bind, Option.bind_some] at h
  split at h
  · rename_i gathered
    rw [gathered] at bound
    split at h
    · cases h
      exact bound
    · cases h
  · cases h

/-- An exponent that is too great stays so with more digits. -/
theorem overflow?_append_of_some
    (h : overflow? ⟨negative, whole, fraction, some ⟨minus, ds⟩⟩ = some later) (es : List Nat) :
    overflow? ⟨negative, whole, fraction, some ⟨minus, ds ++ es⟩⟩ = some (later + es.length) := by
  simp only [overflow?, Option.bind_eq_bind, Option.bind_some, gather_append] at h ⊢
  split at h
  · rename_i gathered
    rw [gathered]
    split at h
    · rename_i great
      cases h
      have same : allDigits ⟨negative, whole, fraction, some ⟨minus, ds ++ es⟩⟩ =
          allDigits ⟨negative, whole, fraction, some ⟨minus, ds⟩⟩ := rfl
      rw [same]
      simp only [List.cons_append, if_pos great, List.length_append]
    · cases h
  · cases h

/-- An exponent that becomes too great only with more digits does so with one of those. -/
theorem overflow?_append_of_none
    (h : overflow? ⟨negative, whole, fraction, some ⟨minus, ds⟩⟩ = none)
    (great : overflow? ⟨negative, whole, fraction, some ⟨minus, ds ++ es⟩⟩ = some later) :
    later < es.length := by
  simp only [overflow?, Option.bind_eq_bind, Option.bind_some, gather_append] at h great
  have same : allDigits ⟨negative, whole, fraction, some ⟨minus, ds ++ es⟩⟩ =
      allDigits ⟨negative, whole, fraction, some ⟨minus, ds⟩⟩ := rfl
  rw [same] at great
  split at h
  · rename_i gathered
    rw [gathered] at great
    split at h
    · cases h
    · rename_i small
      simp only [List.cons_append, if_neg small] at great
      cases great
  · rename_i m gathered
    rw [gathered] at great
    have bound := length_gather_le maxExponent m es
    simp only at great
    split at great
    · rename_i gathered
      rw [gathered] at bound
      split at great
      · cases great
        exact bound
      · cases great
    · cases great

end Numeral

/-- What gives a numeral its value, unless it is out of range. -/
def valued (n : Numeral) : Reader Number := fun _ rest =>
  match n.value? with
  | some value => .ok (value, rest)
  | none => .error (.seeing .numberOutOfRange rest)

theorem steady_valued (n : Numeral) : Steady 0 (valued n) := by
  intro ending s t
  simp only [valued]
  split
  · exact .value (Nat.le_refl _)
  · exact .flawSeeing rfl (Nat.le_refl _)

/-- What a number does with its numeral. -/
def concluded (n : Numeral) : Reader Number := fun ending rest =>
  match n.overflow? with
  | some later => .error ⟨.numberOutOfRange, rest.length + later⟩
  | none => look ending rest >>= fun _ => valued n ending rest

/-- An exponent can only be too great if there is one. -/
theorem finisher_concluded (negative : Bool) (whole : List Nat) (fraction : Option (List Nat)) :
    Finisher fun e => concluded ⟨negative, whole, fraction, e⟩ where
  within := fun ending e s => by
    simp only [concluded]
    split
    · rename_i later great
      cases e with
      | none => cases great
      | some e =>
          have := Numeral.lt_of_overflow? great
          refine within_flaw rfl ?_
          simp only [exponentWidth]
          omega
    · exact within_look (((steady_valued _).within ending s).mono (Nat.le_add_left _ _))
  foretells := fun ending e s t hs => by
    simp only [concluded]
    split
    · rename_i later great
      cases e with
      | none => cases great
      | some e =>
          have := Numeral.lt_of_overflow? great
          refine .flaw rfl rfl ?_
          simp only [exponentWidth, List.length_append]
          omega
    · refine foretells_look (fun _ => ?_) (fun h => absurd h hs)
      exact (steady_valued _ ending s t).mono (Nat.le_add_left _ _)
  grows := fun ending minus ds t => by
    have parts := length_frontDigits_add t
    simp only [concluded]
    split
    · rename_i later great
      rw [Numeral.overflow?_append_of_some great]
      have := Numeral.lt_of_overflow? great
      refine .flaw rfl rfl ?_
      simp only
      omega
    · rename_i small
      refine .starved rfl ?_
      split
      · rename_i later great
        have := Numeral.overflow?_append_of_none small great
        refine within_flaw rfl ?_
        simp only
        omega
      · exact within_look (((steady_valued _).within ending _).mono (length_afterDigits_le t))

/-- **A number is steady.** -/
theorem steady_number (negative : Bool) : Steady 0 (number negative) :=
  steady_numeral (by simp) negative (finisher_concluded negative)

end Compliance.Json
