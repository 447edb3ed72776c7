/-
**Reading a plain report.**

A plain report escapes nothing, and a path may look like a heading, like a bullet or like a line that
leads in.  It can be read all the same.  The items of a listing, the listings of a section and the
sections of a report are each written one after the other up to a stop line that none of them starts
with, so a reader knows what every line is for from the lines above it.

Main definitions:

* `Step.SelfDelimiting` — things that are told apart by their lines;
* `Listing.under` — what is listed under a line that leads in.

Main results:

* `Report.outline_eq_of_lines_eq` — **the sections of a report are read back from its lines**;
* `Report.issues_eq_of_text_eq` — **plain reports lose no issue**.
-/

import Compliance.Proofs.Report.Formats

set_option relaxedAutoImplicit false
set_option autoImplicit false

namespace Compliance

/-! ### Lines up to a stop line -/

namespace Step

variable {α : Type} {write : α → List String} {stop : String}

/-- Things that are told apart by their lines, whatever comes after them, none of which starts with
the stop line. -/
structure SelfDelimiting (write : α → List String) (stop : String) : Prop where
  append_inj : ∀ {x y : α} {rest rest' : List String},
    write x ++ rest = write y ++ rest' → x = y ∧ rest = rest'
  starts : ∀ (x : α) (rest rest' : List String), write x ++ rest ≠ stop :: rest'

/-- Several such things are told apart by their lines up to the stop line. -/
theorem SelfDelimiting.flatMap_append_inj (h : SelfDelimiting write stop) {xs ys : List α}
    {rest rest' : List String}
    (same : xs.flatMap write ++ stop :: rest = ys.flatMap write ++ stop :: rest') :
    xs = ys ∧ rest = rest' := by
  induction xs generalizing ys with
  | nil =>
      cases ys with
      | nil => exact ⟨rfl, (List.cons.inj same).2⟩
      | cons y ys =>
          rw [List.flatMap_cons, List.append_assoc] at same
          exact absurd same.symm (h.starts y _ _)
  | cons x xs ih =>
      cases ys with
      | nil =>
          rw [List.flatMap_cons, List.append_assoc] at same
          exact absurd same (h.starts x _ _)
      | cons y ys =>
          rw [List.flatMap_cons, List.flatMap_cons, List.append_assoc, List.append_assoc] at same
          obtain ⟨first, others⟩ := h.append_inj same
          obtain ⟨later, after⟩ := ih others
          exact ⟨by rw [first, later], after⟩

/-- An item is told by its bullet, and no bullet is an empty line. -/
theorem selfDelimiting_bullet : SelfDelimiting (fun item => (bullet item).lines) "" := by
  constructor
  · intro x y rest rest' same
    obtain ⟨line, after⟩ := List.cons.inj same
    exact ⟨(String.append_right_inj _).1 line, after⟩
  · intro x rest rest' same
    have line : "* " ++ x = "" := (List.cons.inj same).1
    simp at line

end Step

/-! ### Listings and sections -/

namespace Listing

/-- The lines of a listing: one that leads in, a bullet for each item and an empty line. -/
theorem flatMap_lines_steps (l : Listing) (rest : List String) :
    l.steps.flatMap Step.lines ++ rest =
      l.lead :: (l.items.flatMap (fun item => (Step.bullet item).lines) ++ "" :: rest) := by
  simp [steps, Step.listing, Step.lines, List.flatMap_append, List.flatMap_map]

theorem selfDelimiting_steps : Step.SelfDelimiting (fun l => (steps l).flatMap Step.lines) "" := by
  constructor
  · intro l k rest rest' same
    rw [flatMap_lines_steps, flatMap_lines_steps] at same
    obtain ⟨lead, after⟩ := List.cons.inj same
    obtain ⟨items, after⟩ := Step.selfDelimiting_bullet.flatMap_append_inj after
    exact ⟨mk.injEq .. ▸ ⟨lead, items⟩, after⟩
  · intro l rest rest' same
    rw [flatMap_lines_steps] at same
    exact l.lead_ne_empty (List.cons.inj same).1

/-- What is listed under a line that leads in. -/
def under (lead : String) (listings : List Listing) : List String :=
  (listings.filter (·.lead = lead)).flatMap (·.items)

variable {lead other : String} {items items' : List String} {h : lead ≠ ""} {h' : other ≠ ""}

@[simp] theorem under_append (listings later : List Listing) :
    under lead (listings ++ later) = under lead listings ++ under lead later := by
  rw [under, under, under, List.filter_append, List.flatMap_append]

@[simp] theorem under_unlessEmpty_self : under lead (unlessEmpty lead items h) = items := by
  cases items with
  | nil => rfl
  | cons item items => simp [under, unlessEmpty]

theorem under_unlessEmpty_of_ne (ne : other ≠ lead) :
    under lead (unlessEmpty other items h') = [] := by
  cases items with
  | nil => rfl
  | cons item items => simp [under, unlessEmpty, ne]

theorem unlessEmpty_inj (same : unlessEmpty lead items h = unlessEmpty lead items' h) :
    items = items' := by
  have listed := congrArg (under lead) same
  rwa [under_unlessEmpty_self, under_unlessEmpty_self] at listed

/-- License ids with their files are told by their listings. -/
theorem map_ofLicense_inj {files files' : StringMap StringSet}
    (same : files.toList.map ofLicense = files'.toList.map ofLicense) : files = files' := by
  have each : ∀ e d : String × StringSet, ofLicense e = ofLicense d → e = d := by
    intro e d same
    have lead := congrArg Listing.lead same
    have items := congrArg Listing.items same
    have id : e.1 = d.1 := (String.append_right_inj _).1 ((String.append_left_inj _).1 lead)
    exact Prod.ext id (StringSet.ext_toList items)
  exact StringMap.ext_toList ((List.map_inj_right each).1 same)

end Listing

namespace Section

theorem title_inj {c d : Category} (same : c.title = d.title) : c = d := by
  cases c <;> cases d <;> first | rfl | exact absurd same (by decide)

/-- The lines of a section: its heading, its listings and an empty line. -/
theorem flatMap_lines_steps (s : Section) (rest : List String) :
    s.steps.flatMap Step.lines ++ rest =
      ("# " ++ s.category.title) :: "" ::
        (s.listings.flatMap (fun l => l.steps.flatMap Step.lines) ++ "" :: rest) := by
  simp [steps, Step.lines, List.flatMap_append, List.flatMap_assoc]

theorem selfDelimiting_steps :
    Step.SelfDelimiting (fun s => (steps s).flatMap Step.lines) "# SUMMARY" := by
  constructor
  · intro s t rest rest' same
    rw [flatMap_lines_steps, flatMap_lines_steps] at same
    obtain ⟨heading, after⟩ := List.cons.inj same
    obtain ⟨listings, after⟩ :=
      Listing.selfDelimiting_steps.flatMap_append_inj (List.cons.inj after).2
    have category := title_inj ((String.append_right_inj _).1 heading)
    exact ⟨mk.injEq .. ▸ ⟨category, listings⟩, after⟩
  · intro s rest rest' same
    rw [flatMap_lines_steps] at same
    have title : s.category.title = "SUMMARY" :=
      (String.append_right_inj "# ").1 (List.cons.inj same).1
    revert title
    cases s.category <;> decide

end Section

/-! ### What a record lists -/

namespace Record

variable {r r' : Record}

theorem mem_outline {s : Section} :
    s ∈ r.outline ↔ r.listings s.category ≠ [] ∧ s.listings = r.listings s.category := by
  constructor
  · intro h
    obtain ⟨category, listed, rfl⟩ := List.mem_map.1 h
    have some := (List.mem_filter.1 listed).2
    exact ⟨by simpa using some, rfl⟩
  · rintro ⟨some, listings⟩
    have listed : s.category ∈ Category.all.filter fun c => !(r.listings c).isEmpty :=
      List.mem_filter.2 ⟨Category.mem_all _, by simpa using some⟩
    refine List.mem_map.2 ⟨s.category, listed, ?_⟩
    rw [← listings]

/-- What is listed in any category is told by the sections. -/
theorem listings_eq_of_outline_eq (h : r.outline = r'.outline) (category : Category) :
    r.listings category = r'.listings category := by
  by_cases some : r.listings category = []
  · by_cases some' : r'.listings category = []
    · rw [some, some']
    · have section' : ⟨category, r'.listings category⟩ ∈ r.outline := by
        rw [h]
        exact mem_outline.2 ⟨some', rfl⟩
      exact absurd some (mem_outline.1 section').1
  · have section' : ⟨category, r.listings category⟩ ∈ r'.outline := by
      rw [← h]
      exact mem_outline.2 ⟨some, rfl⟩
    exact (mem_outline.1 section').2

/-- The files that lack information are told by what is listed of them. -/
theorem missingInfo_eq_of_listings_eq
    (h : r.listings .missingCopyrightOrLicensing = r'.listings .missingCopyrightOrLicensing) :
    r.missingInfo = r'.missingInfo := by
  have listed := fun lead => congrArg (Listing.under lead) h
  have both := listed "The following files have no copyright and licensing information:"
  have copyrightOnly := listed "The following files have no copyright information:"
  have licensingOnly := listed "The following files have no licensing information:"
  simp [listings, Listing.under_unlessEmpty_of_ne] at both copyrightOnly licensingOnly
  exact MissingInfo.mk.injEq .. ▸ ⟨StringSet.ext_toList both, StringSet.ext_toList copyrightOnly,
    StringSet.ext_toList licensingOnly⟩

/-- Records with the same sections list the same issues. -/
theorem issues_eq_of_outline_eq (h : r.outline = r'.outline) :
    r.badLicenses = r'.badLicenses ∧ r.deprecatedLicenses = r'.deprecatedLicenses ∧
      r.missingLicenses = r'.missingLicenses ∧ r.unusedLicenses = r'.unusedLicenses ∧
      r.readErrors = r'.readErrors ∧ r.missingInfo = r'.missingInfo ∧
      r.licensesWithoutExtension = r'.licensesWithoutExtension := by
  have listed := listings_eq_of_outline_eq h
  refine ⟨?_, ?_, ?_, ?_, ?_, ?_, ?_⟩
  · exact Listing.map_ofLicense_inj (listed .badLicenses)
  · exact StringSet.ext_toList (Listing.unlessEmpty_inj (listed .deprecatedLicenses))
  · exact Listing.map_ofLicense_inj (listed .missingLicenses)
  · exact StringSet.ext_toList (Listing.unlessEmpty_inj (listed .unusedLicenses))
  · exact StringSet.ext_toList (Listing.unlessEmpty_inj (listed .readErrors))
  · exact missingInfo_eq_of_listings_eq (listed .missingCopyrightOrLicensing)
  · exact Listing.unlessEmpty_inj (listed .licensesWithoutExtension)

end Record

/-! ### Summaries and verdicts -/

/-- Ratios are told by their text: a slash stands between the digits of its numbers. -/
theorem Ratio.text_inj {q q' : Ratio} (same : q.text = q'.text) : q = q' := by
  have chars : ∀ q : Ratio, q.text.toList = (Nat.toDigits 10 q.count.toNat ++ [' ']) ++
      '/' :: (' ' :: Nat.toDigits 10 q.total.toNat) := by
    intro q
    simp [text]
  have noSlash : ∀ n, '/' ∉ Nat.toDigits 10 n := by
    intro n h
    exact absurd (Nat.isDigit_of_mem_toDigits (by decide) (by decide) h) (by decide)
  have number : ∀ m n : UInt64, Nat.toDigits 10 m.toNat = Nat.toDigits 10 n.toNat → m = n := by
    intro m n digits
    have value := congrArg (fun cs => Nat.ofDigitChars 10 cs 0) digits
    rw [Nat.ofDigitChars_ten_toDigits, Nat.ofDigitChars_ten_toDigits] at value
    exact UInt64.toNat_inj.1 value
  have split := congrArg String.toList same
  rw [chars, chars, List.append_cons_inj_of_notMem (by simp [noSlash]) (by simp [noSlash])] at split
  obtain ⟨count, -, total⟩ := split
  have count := number _ _ (List.append_cancel_right count)
  have total := number _ _ (List.cons.inj total).2
  exact mk.injEq .. ▸ ⟨count, total⟩

/-- The number of files with copyright information and the number of all files are told by the lines
of a summary. -/
theorem Summary.withCopyright_append_inj {s s' : Summary} {rest rest' : List String}
    (same : s.lines.flatMap (fun e => (Step.labeled e.1 e.2).lines) ++ rest =
      s'.lines.flatMap (fun e => (Step.labeled e.1 e.2).lines) ++ rest') :
    s.withCopyright = s'.withCopyright ∧ rest = rest' := by
  have shown : ∀ q : Ratio, q.text ≠ "" := by
    intro q
    simp [Ratio.text]
  -- there are nine lines, and the eighth of them is the one to read
  simp only [lines, List.flatMap_cons, List.flatMap_nil, Step.lines, List.cons_append,
    List.nil_append, List.cons.injEq] at same
  obtain ⟨-, -, -, -, -, -, -, eighth, -, rest⟩ := same
  rw [if_neg (shown _), if_neg (shown _)] at eighth
  exact ⟨Ratio.text_inj ((String.append_right_inj _).1 eighth), rest⟩

namespace Report

/-- The verdict and the version are told by the sentence with the verdict. -/
theorem verdict_inj {c c' : Bool} {v v' : String} (same : verdict c v = verdict c' v') :
    c = c' ∧ v = v' := by
  have first : (verdict c v).toList.head? = (verdict c' v').toList.head? := by rw [same]
  have version : ∀ {before after : String}, before ++ v ++ after = before ++ v' ++ after → v = v' :=
    fun h => (String.append_right_inj _).1 ((String.append_left_inj _).1 h)
  -- the two sentences start with different letters
  cases c with
  | false =>
      cases c' with
      | false => exact ⟨rfl, version same⟩
      | true => simp [verdict] at first
  | true =>
      cases c' with
      | false => simp [verdict] at first
      | true => exact ⟨rfl, version same⟩

/-! ### Whole reports -/

/-- The lines of a plain report: its sections, its summary, its verdict and what follows. -/
theorem flatMap_lines_plainSteps (r : Record) : r.plainSteps.flatMap Step.lines =
    r.outline.flatMap (fun s => s.steps.flatMap Step.lines) ++ "# SUMMARY" ::
      ("" :: (r.summary.lines.flatMap (fun e => (Step.labeled e.1 e.2).lines) ++
        "" :: verdict r.compliant r.specVersion :: r.recommendations.flatMap Step.lines)) := by
  simp [Record.plainSteps, summarySteps, Step.lines, List.flatMap_assoc, List.flatMap_map]

/-- Records with the same lines have the same sections, verdicts, versions and numbers of files. -/
theorem outline_eq_of_lines_eq {r r' : Record}
    (same : r.plainSteps.flatMap Step.lines = r'.plainSteps.flatMap Step.lines) :
    r.outline = r'.outline ∧ r.summary.withCopyright = r'.summary.withCopyright ∧
      r.compliant = r'.compliant ∧ r.specVersion = r'.specVersion := by
  rw [flatMap_lines_plainSteps, flatMap_lines_plainSteps] at same
  obtain ⟨outline, after⟩ := Section.selfDelimiting_steps.flatMap_append_inj same
  obtain ⟨ratio, after⟩ := Summary.withCopyright_append_inj (List.cons.inj after).2
  obtain ⟨sentence, -⟩ := List.cons.inj (List.cons.inj after).2
  obtain ⟨compliant, version⟩ := verdict_inj sentence
  exact ⟨outline, ratio, compliant, version⟩

/-- **Plain reports lose no issue.**  If all license ids, paths and versions are in one line, equal
reports come from snapshots with the same issues, with the same verdict on the same version and with
the same number of files.  Of license texts without an extension, just the license ids may differ. -/
theorem issues_eq_of_text_eq {s s' : Snapshot} {specVersion specVersion' : String}
    (names : ∀ name ∈ s.names, Text.OneLine name) (version : Text.OneLine specVersion)
    (names' : ∀ name ∈ s'.names, Text.OneLine name) (version' : Text.OneLine specVersion')
    (same : (ofSnapshot s specVersion).text .plain = (ofSnapshot s' specVersion').text .plain) :
    s.classify.compliant = s'.classify.compliant ∧ specVersion = specVersion' ∧
      s.fileTotal = s'.fileTotal ∧
      s.classify.badLicenses = s'.classify.badLicenses ∧
      s.classify.deprecatedLicenses = s'.classify.deprecatedLicenses ∧
      s.classify.missingLicenses = s'.classify.missingLicenses ∧
      s.classify.unusedLicenses = s'.classify.unusedLicenses ∧
      s.classify.readErrors = s'.classify.readErrors ∧
      s.classify.missingInfo = s'.classify.missingInfo ∧
      s.classify.extensionlessPaths = s'.classify.extensionlessPaths := by
  have lines := congrArg Text.lines same
  rw [text, text, steps, steps,
    Step.lines_textOf fun step h => (tame_plainSteps names version step h).oneLine,
    Step.lines_textOf fun step h => (tame_plainSteps names' version' step h).oneLine,
    plainSteps_eq_record, plainSteps_eq_record] at lines
  obtain ⟨outline, ratio, compliant, version⟩ :=
    outline_eq_of_lines_eq (List.append_cancel_right lines)
  obtain ⟨bad, deprecated, missing, unused, errors, missingInfo, extensionless⟩ :=
    Record.issues_eq_of_outline_eq outline
  exact ⟨compliant, version, congrArg Ratio.total ratio, bad, deprecated, missing, unused, errors,
    missingInfo, extensionless⟩

/-- Paths that look like a heading and like a bullet are read back, too. -/
theorem issues_twoExtensionless :
    (∀ name ∈ (twoExtensionless "# SUMMARY" "* q").names, Text.OneLine name) ∧
      (∀ name ∈ (twoExtensionless "* q" "# SUMMARY").names, Text.OneLine name) ∧
      Text.OneLine "3.3" ∧
      (ofSnapshot (twoExtensionless "# SUMMARY" "* q") "3.3").text .plain =
        (ofSnapshot (twoExtensionless "* q" "# SUMMARY") "3.3").text .plain ∧
      (twoExtensionless "# SUMMARY" "* q").classify.extensionlessPaths =
        (twoExtensionless "* q" "# SUMMARY").classify.extensionlessPaths := by
  have names : ∀ name ∈ (twoExtensionless "# SUMMARY" "* q").names, Text.OneLine name := by
    decide
  have names' : ∀ name ∈ (twoExtensionless "* q" "# SUMMARY").names, Text.OneLine name := by
    decide
  have version : Text.OneLine "3.3" := by decide
  have same : (ofSnapshot (twoExtensionless "# SUMMARY" "* q") "3.3").text .plain =
      (ofSnapshot (twoExtensionless "* q" "# SUMMARY") "3.3").text .plain := by
    rw [text_plain_eq_record, text_plain_eq_record, record_twoExtensionless_comm]
  obtain ⟨_, _, _, _, _, _, _, _, _, paths⟩ :=
    issues_eq_of_text_eq names version names' version same
  exact ⟨names, names', version, same, paths⟩

end Report

end Compliance
