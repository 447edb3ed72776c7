/-
**Snapshots that are cut off.**

The object of a snapshot is closed by its last byte.  So the front of a snapshot is no snapshot, unless
only blanks are missing.  A source whose device fails gives none either: what was delivered before has a
flaw, or else the device's failure is what stops the reading.

Main definitions:

* `Snapshot.Flawed` — bytes after which nothing can come that makes them less faulty.

Main results:

* `Json.whole_foretold` — what the front of an input says about the whole of it;
* `Json.eq_of_whole_append` — a value stays the same with more bytes, which must be blank;
* `Snapshot.read_broken_cases` — what a device delivers before it fails;
* `Source.cut_rejected` — **no snapshot that is cut off has a verdict**.
-/

import Compliance.Proofs.CommandLine
import Compliance.Proofs.Json.Cut.Record
import Mathlib.Data.List.DropRight

set_option relaxedAutoImplicit false
set_option autoImplicit false

namespace Compliance

namespace Json

open Leaves (left extend)

variable {α : Type} {item : Reader α} {ending : Ending} {k : Nat} {s t : List UInt8}

/-! ### Whole inputs -/

/-- Reads blanks up to the end of an input. -/
def ended (ending : Ending) (s : List UInt8) : Except Fault (List UInt8) := do
  look ending (skipBlank s)
  if skipBlank s = [] then return [] else throw (.seeing .trailingCharacters (skipBlank s))

theorem ended_of_cons {b : UInt8} {s' : List UInt8} (h : skipBlank s = b :: s') :
    ended ending s = .error (.seeing .trailingCharacters (b :: s')) := by
  rw [ended, h]
  cases ending <;> rfl

theorem within_ended (ending : Ending) (s : List UInt8) :
    Within ending 0 s.length (ended ending s) := by
  cases blank : skipBlank s with
  | nil =>
      rw [ended, blank]
      exact within_look (Nat.zero_le _)
  | cons b s' =>
      rw [ended_of_cons blank]
      exact within_flaw rfl (Nat.sub_le_sub_right (length_le_of_skipBlank blank) 1)

theorem steady_ended : Steady 0 ended := by
  intro ending s t
  cases blank : skipBlank s with
  | nil =>
      rw [ended, blank]
      refine .starved rfl ?_
      rw [ended, skipBlank_append_of_nil blank]
      exact within_ended ending t
  | cons b s' =>
      rw [ended_of_cons blank, ended_of_cons (skipBlank_append_of_cons blank t)]
      exact .flawSeeing (s := b :: s') rfl (length_le_of_skipBlank blank)

/-- Reads a value and the blanks after it, up to the end of the input. -/
def withEnd (item : Reader α) : Reader α := fun ending s => do
  let (x, s) ← item ending s
  (ended ending s).map (x, ·)

theorem steady_withEnd (h : Steady k item) : Steady 0 (withEnd item) := by
  have last : ∀ x : α, Steady 0 fun ending s => (ended ending s).map (x, ·) :=
    fun x ending s t => (steady_ended ending s t).map (fun _ => rfl) (fun _ => rfl)
  exact h.bind last

theorem whole_eq (item : Reader α) (ending : Ending) (s : List UInt8) :
    whole item ending s = (withEnd item ending s).map (·.1) := by
  rw [whole, withEnd]
  cases item ending s with
  | error fault => rfl
  | ok x =>
      simp only [ok_bind, ended]
      cases look ending (skipBlank x.2) with
      | error fault => rfl
      | ok u =>
          simp only [ok_bind]
          split <;> rfl

theorem whole_eq_error {fault : Fault} :
    whole item ending s = .error fault ↔ withEnd item ending s = .error fault := by
  rw [whole_eq]
  cases withEnd item ending s with
  | ok x => exact iff_of_false (by simp [Except.map]) (by simp)
  | error f => simp [Except.map]

/-- A whole input is a value and blanks. -/
theorem exists_blank_of_whole {x : α} (h : whole item ending s = .ok x) :
    ∃ rest, item ending s = .ok (x, rest) ∧ skipBlank rest = [] := by
  rw [whole] at h
  obtain ⟨⟨value, rest⟩, read, h⟩ := bind_eq_ok.1 h
  obtain ⟨_, _, h⟩ := bind_eq_ok.1 h
  split at h
  · rename_i blank
    cases h
    exact ⟨rest, read, blank⟩
  · cases h

/-- **What the front of an input says about the whole of it.**  If it has a flaw, so has the whole.  If
the device fails first, then whatever goes wrong in the whole goes wrong behind the front. -/
theorem whole_foretold (h : Steady k item) (ending : Ending) (s t : List UInt8) :
    ∃ f, whole item .broken s = .error f ∧
      ((f.cause.isFlaw = true ∧
          ∃ g, whole item ending (s ++ t) = .error g ∧ g.cause.isFlaw = true) ∨
        (f.cause = .deviceFailed ∧ ∀ g, whole item ending (s ++ t) = .error g →
          g.unread ≤ t.length - 1 ∧ (ending = .finished → g.cause ≠ .deviceFailed))) := by
  have foretold := steady_withEnd h ending s t
  cases front : withEnd item .broken s with
  | ok x =>
      refine absurd (?_ : whole item .broken s = .ok x.1) whole_broken
      rw [whole_eq, front]
      rfl
  | error f =>
      refine ⟨f, whole_eq_error.2 front, ?_⟩
      simp only [whole_eq_error]
      rw [front] at foretold
      cases all : withEnd item ending (s ++ t) with
      | ok x =>
          rw [all] at foretold
          cases foretold with
          | starved device _ => exact .inr ⟨device, fun _ h => nomatch h⟩
      | error g =>
          rw [all] at foretold
          cases foretold with
          | flaw flaw flaw' _ => exact .inl ⟨flaw, g, rfl, flaw'⟩
          | starved device within =>
              refine .inr ⟨device, fun _ h => ?_⟩
              cases h
              exact within

/-- A value that ends with its last byte stays the same with more bytes after it, and those are
blank. -/
theorem eq_of_whole_append (h : Steady 1 item) {x y : α} (short : whole item .finished s = .ok x)
    (long : whole item ending (s ++ t) = .ok y) : x = y ∧ skipBlank t = [] := by
  obtain ⟨rest, read, blank⟩ := exists_blank_of_whole short
  obtain ⟨rest', read', blank'⟩ := exists_blank_of_whole long
  -- the value did not need the end of the input, so more bytes do not change it
  have front : item .broken s = .ok (x, rest) := by
    have ends := h .finished s []
    rw [List.append_nil, read] at ends
    generalize item .broken s = result at ends
    generalize given : (Except.ok (x, rest) : Except Fault (α × List UInt8)) = value at ends
    cases ends with
    | @value found bound =>
        obtain ⟨value, left⟩ := found
        cases given
        exact congrArg (fun rest => Except.ok (value, rest)) (List.append_nil left).symm
    | flaw _ _ _ => cases given
    | starved _ within =>
        subst given
        exact absurd within (Nat.not_succ_le_zero _)
  have foretold := h ending s t
  rw [front, read'] at foretold
  generalize given : (Except.ok (y, rest') : Except Fault (α × List UInt8)) = value at foretold
  cases foretold with
  | value bound =>
      cases given
      exact ⟨rfl, (skipBlank_append_of_nil blank t).symm.trans blank'⟩

end Json

namespace Snapshot

/-! ### Snapshots -/

theorem steady_readField (f : Field) : Json.Steady 0 (readField f) := by
  have ids := (Json.steady_list (Json.steady_text "a string")).weaken (Nat.zero_le 1)
  have path := (Json.steady_text "path string").mapped Path.ofSpelling
  have paths := (Json.steady_list path).weaken (Nat.zero_le 1)
  have files := (Json.steady_dict paths).weaken (Nat.zero_le 1)
  cases f with
  | badLicenses => exact files
  | deprecatedLicenses => exact ids
  | licensesWithoutExtension =>
      exact (Json.steady_dict (path.weaken (Nat.zero_le 1))).weaken (Nat.zero_le 1)
  | missingLicenses => exact files
  | unusedLicenses => exact ids
  | usedLicenses => exact ids
  | readErrors => exact paths
  | filesWithoutCopyright => exact paths
  | filesWithoutLicenses => exact paths
  | fileTotal => exact Json.steady_count

/-- **A snapshot's record is steady**: it ends with its closing byte. -/
theorem steady_entries : Json.Steady 1 (Json.entries schema) := Json.steady_entries steady_readField

theorem read_eq_ok {ending : Json.Ending} {s : List UInt8} {snapshot : Snapshot} :
    read ending s = .ok snapshot ↔
      ∃ d, Json.whole (Json.entries schema) ending s = .ok d ∧ ofDocument d = snapshot := by
  rw [read, Document.read]
  cases Json.whole (Json.entries schema) ending s <;> simp [Except.map]

theorem read_eq_error {ending : Json.Ending} {s : List UInt8} {fault : Json.Fault} :
    read ending s = .error fault ↔
      Json.whole (Json.entries schema) ending s = .error fault := by
  rw [read, Document.read]
  cases Json.whole (Json.entries schema) ending s <;> simp [Except.map]

/-- Bytes that contain a syntax or type error: whatever comes after them, be it more bytes, the end of
the input or a failing device, reading stops with such an error. -/
def Flawed (p : List UInt8) : Prop :=
  ∀ ending t, ∃ fault, read ending (p ++ t) = .error fault ∧ fault.cause.isFlaw = true

/-- **What a device delivers before it fails** has a flaw, or else the device's failure stops the
reading, and nothing that goes wrong in a longer input goes wrong in what was delivered. -/
theorem read_broken_cases (p : List UInt8) :
    ∃ fault, read .broken p = .error fault ∧
      ((fault.cause.isFlaw = true ∧ Flawed p) ∨
        (fault.cause = .deviceFailed ∧ ¬ Flawed p ∧ ∀ t g, t ≠ [] →
          read .finished (p ++ t) = .error g → g.unread < t.length)) := by
  obtain ⟨fault, front, kind⟩ := Json.whole_foretold steady_entries .broken p []
  have foretold := fun ending t => Json.whole_foretold steady_entries ending p t
  simp only [front, Except.error.injEq, exists_eq_left', ← read_eq_error] at foretold
  refine ⟨fault, read_eq_error.2 front, ?_⟩
  rcases kind with ⟨flaw, _⟩ | ⟨device, _⟩
  · refine .inl ⟨flaw, fun ending t => ?_⟩
    rcases foretold ending t with ⟨_, found⟩ | ⟨device, _⟩
    · exact found
    · exact absurd device (Json.Cause.ne_deviceFailed_of_isFlaw flaw)
  · refine .inr ⟨device, fun flawed => ?_, fun t g goesOn wrong => ?_⟩
    · obtain ⟨g, wrong, flaw⟩ := flawed .broken []
      rw [List.append_nil, read_eq_error, front] at wrong
      cases wrong
      exact Json.Cause.ne_deviceFailed_of_isFlaw flaw device
    · rcases foretold .finished t with ⟨flaw, _⟩ | ⟨_, behind⟩
      · exact absurd device (Json.Cause.ne_deviceFailed_of_isFlaw flaw)
      · have := (behind g wrong).1
        have := List.length_pos_iff.2 goesOn
        omega

/-- On an input that is read to its end no device fails. -/
theorem ne_deviceFailed_of_read {s : List UInt8} {fault : Json.Fault}
    (h : read .finished s = .error fault) : fault.cause ≠ .deviceFailed := by
  obtain ⟨f, _, ⟨_, g, wrong, flaw⟩ | ⟨_, behind⟩⟩ :=
    Json.whole_foretold steady_entries .finished [] s
  · rw [List.nil_append, ← read_eq_error, h] at wrong
    cases wrong
    exact Json.Cause.ne_deviceFailed_of_isFlaw flaw
  · exact (behind fault (read_eq_error.1 h)).2 rfl

/-- A snapshot that goes on after a snapshot goes on with blanks only. -/
theorem length_le_of_read_append {p t : List UInt8} {snapshot snapshot' : Snapshot}
    (short : read .finished p = .ok snapshot) (long : read .finished (p ++ t) = .ok snapshot') :
    ((p ++ t).rdropWhile Json.isBlank).length ≤ p.length := by
  obtain ⟨d, short, _⟩ := read_eq_ok.1 short
  obtain ⟨d', long, _⟩ := read_eq_ok.1 long
  have blank := (Json.eq_of_whole_append steady_entries short long).2
  have passed : ((p ++ t).reverse).dropWhile Json.isBlank = p.reverse.dropWhile Json.isBlank := by
    rw [List.reverse_append, List.dropWhile_append, if_pos]
    rw [List.isEmpty_iff, List.dropWhile_eq_nil_iff]
    intro b hb
    exact List.dropWhile_eq_nil_iff.1 blank b (List.mem_reverse.1 hb)
  rw [List.rdropWhile, passed]
  exact (List.rdropWhile_prefix Json.isBlank p).length_le

end Snapshot

/-! ### Sources -/

namespace Source

/-- The front of a snapshot is no snapshot, unless only blanks are missing. -/
theorem load_front {source : Source} {s p : List UInt8} {snapshot : Snapshot}
    (accepted : source.load ⟨s, none⟩ = .ok snapshot) (front : p <+: s)
    (short : p.length < (s.rdropWhile Json.isBlank).length) :
    ∃ detail, source.load ⟨p, none⟩ = .error (.parse source.name detail) := by
  obtain ⟨t, rfl⟩ := front
  have read := (load_eq_ok.1 accepted).2
  cases front : Snapshot.read .finished p with
  | ok snapshot' => exact absurd (Snapshot.length_le_of_read_append front read) (Nat.not_le.2 short)
  | error fault =>
      have loaded := @load_eq_error source ⟨p, none⟩ fault front
      rw [failureOf_of_ne (Snapshot.ne_deviceFailed_of_read front)] at loaded
      exact ⟨_, loaded⟩

/-- **Cut-off input is never accepted.**  The front of a snapshot is rejected as malformed, unless only
blanks are missing.  If a device delivers some bytes and fails then, these bytes alone decide: if they
have a flaw, the input is rejected as malformed, and else for the device's failure; in that case no
longer input has its error in these bytes.  So a run with a verdict has read a snapshot of which
nothing but blanks is missing. -/
theorem cut_rejected :
    (∀ (source : Source) (s : List UInt8) (snapshot : Snapshot),
      source.load ⟨s, none⟩ = .ok snapshot →
      ∀ p, p <+: s → p.length < (s.rdropWhile Json.isBlank).length →
        ∃ detail, source.load ⟨p, none⟩ = .error (.parse source.name detail)) ∧
    (∀ (source : Source) (s : List UInt8) (n : Nat) (reason : String),
      ∃ fault, Snapshot.read .broken (s.take n) = .error fault ∧
        (Snapshot.Flawed (s.take n) →
          source.load ⟨s.take n, some reason⟩ =
            .error (.parse source.name (fault.describe (s.take n)))) ∧
        (¬ Snapshot.Flawed (s.take n) →
          source.load ⟨s.take n, some reason⟩ = .error (.input source.name reason) ∧
          ∀ t g, t ≠ [] → Snapshot.read .finished (s.take n ++ t) = .error g →
            g.unread < t.length)) ∧
    (∀ (c : Config) (w : World) (verdict : Bool), (c.run w).result = .ok verdict →
      ∃ bytes, w.bytes? c.source = some bytes ∧
        ∀ s snapshot, Snapshot.read .finished s = .ok snapshot → bytes <+: s →
          (s.rdropWhile Json.isBlank).length ≤ bytes.length) := by
  refine ⟨fun source s snapshot accepted p front short => load_front accepted front short, ?_, ?_⟩
  · intro source s n reason
    obtain ⟨fault, broken, kind⟩ := Snapshot.read_broken_cases (s.take n)
    have loaded := @load_eq_error source ⟨s.take n, some reason⟩ fault broken
    refine ⟨fault, broken, fun flawed => ?_, fun clean => ?_⟩
    · rcases kind with ⟨flaw, _⟩ | ⟨_, clean, _⟩
      · rw [loaded, failureOf_of_ne (Json.Cause.ne_deviceFailed_of_isFlaw flaw)]
      · exact absurd flawed clean
    · rcases kind with ⟨_, flawed⟩ | ⟨device, _, behind⟩
      · exact absurd flawed clean
      · refine ⟨?_, behind⟩
        rw [loaded, failureOf, device]
        rfl
  · intro c w verdict returned
    rcases c.run_cases w with ⟨failure, _, failed, _⟩ | ⟨snapshot, _, loaded, _⟩
    · cases failed.symm.trans returned
    · obtain ⟨bytes, delivered, read⟩ := World.load_eq_ok.1 loaded
      refine ⟨bytes, delivered, ?_⟩
      rintro _ _ longer ⟨t, rfl⟩
      exact Snapshot.length_le_of_read_append read longer

/-- A snapshot without its closing brace, from a file that ends there and from a device that fails
there. -/
theorem cut_rejected_unclosed :
    stdin.load ⟨Text.bytes "\x7b\"used_licenses\":[]\x7d\n", none⟩ =
        .ok (.ofDocument [.known .usedLicenses []]) ∧
      (∃ detail, stdin.load ⟨Text.bytes "\x7b\"used_licenses\":[]", none⟩ =
        .error (.parse "<stdin>" detail)) ∧
      ¬ Snapshot.Flawed (Text.bytes "\x7b\"used_licenses\":[]") ∧
      stdin.load ⟨Text.bytes "\x7b\"used_licenses\":[]", some "reset"⟩ =
        .error (.input "<stdin>" "reset") := by
  obtain ⟨front, broken, _⟩ := cut_rejected
  have accepted : stdin.load ⟨Text.bytes "\x7b\"used_licenses\":[]\x7d\n", none⟩ =
      .ok (.ofDocument [.known .usedLicenses []]) := rfl
  have clean : ¬ Snapshot.Flawed (Text.bytes "\x7b\"used_licenses\":[]") := by
    intro flawed
    obtain ⟨fault, wrong, _⟩ := flawed .finished (Text.bytes "\x7d")
    have right : Snapshot.read .finished
        (Text.bytes "\x7b\"used_licenses\":[]" ++ Text.bytes "\x7d") =
          .ok (.ofDocument [.known .usedLicenses []]) := rfl
    cases wrong.symm.trans right
  refine ⟨accepted, front _ _ _ accepted _ ⟨Text.bytes "\x7d\n", rfl⟩ ?_, clean, ?_⟩
  · decide
  · obtain ⟨fault, _, _, failed⟩ := broken stdin (Text.bytes "\x7b\"used_licenses\":[]\x7d\n") 19
      "reset"
    exact (failed clean).1

end Source

end Compliance
