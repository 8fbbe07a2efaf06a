import AuthClaw.Detection.Patterns

/-!
# The sensitive-data detector

{lit}`inspect` collects the findings of the recognizers and deduplicates them;
{lit}`redact` replaces what is kept.  The recognizers that an enterprise configures,
Presidio and the fingerprint service are parameters.

Main results:

- Theorem {lit}`findingsOf_eq_nil_iff`: a pattern finds something exactly where it
  occurs.
- Theorem {lit}`customFindings_spec`: what is found is a nonempty part of the text.
- Theorem {lit}`dedupe_eq_nil_iff`: of the findings one at least is kept.
- Theorem {lit}`redact_of_no_findings`: a text in which nothing is found is unchanged.
-/

namespace AuthClaw.Detection

open Regex PythonText

/-- `SensitiveDataDetector`, with what it reads from its surroundings. -/
structure Detector where
  unicode : PyUnicode
  py : PyText
  /-- `_policy_config` -/
  config : SensitivePolicy
  /-- `fingerprint` -/
  fingerprint : List Char → String
  /-- `_enterprise_findings` -/
  enterpriseFindings : List Char → List SensitiveFinding
  /-- `_presidio_findings` -/
  presidioFindings : List Char → List SensitiveFinding
  anonymizer : Option (SensitiveFinding → List Char → Option (List Char))

namespace Detector

variable (d : Detector)

/-- `inspect` -/
def inspect (text : List Char) (usePresidio : Bool) : List SensitiveFinding :=
  dedupe (customFindings d.unicode text ++ d.enterpriseFindings text ++
    if usePresidio then d.presidioFindings text else [])

/-- What takes the place of a finding. -/
def replacement (f : SensitiveFinding) : List Char :=
  replacementFor d.py d.unicode.isDigit d.fingerprint d.anonymizer f (f.action d.config)

/-- `redact`, without the metadata. -/
def redact (text : List Char) (usePresidio : Bool) : List Char :=
  let findings := d.inspect text usePresidio
  if findings = [] then text else redactSpans d.replacement text findings

end Detector

/-! ## What is found -/

theorem mem_findingsFrom {p : CustomPattern} {i : Nat} {toks : List (Token Char)}
    {f : SensitiveFinding} (h : f ∈ findingsFrom p i toks) :
    ∃ before groups after, toks = before ++ .hit groups :: after ∧
      f = p.finding (i + (before.flatMap Token.text).length) groups := by
  induction toks generalizing i with
  | nil => cases h
  | cons token toks ih =>
      cases token with
      | skip a =>
          rcases ih h with ⟨before, groups, after, rfl, rfl⟩
          refine ⟨.skip a :: before, groups, after, rfl, ?_⟩
          have hlength : (((Token.skip a) :: before).flatMap Token.text).length =
              1 + (before.flatMap Token.text).length := by
            rw [List.flatMap_cons, List.length_append]
            rfl
          rw [hlength, Nat.add_assoc]
      | hit us =>
          rcases List.mem_cons.mp h with rfl | h
          · exact ⟨[], us, toks, rfl, rfl⟩
          · rcases ih h with ⟨before, groups, after, rfl, rfl⟩
            refine ⟨.hit us :: before, groups, after, rfl, ?_⟩
            have hlength : (((Token.hit us) :: before).flatMap Token.text).length =
                us.flatten.length + (before.flatMap Token.text).length := by
              rw [List.flatMap_cons, List.length_append]
              rfl
            rw [hlength, Nat.add_assoc]

/-- A pattern finds something exactly where it occurs. -/
theorem findingsOf_eq_nil_iff {unicode : PyUnicode} {p : CustomPattern} {text : List Char} :
    findingsOf unicode p text = [] ↔ ¬ Occurs unicode.accepts p.pattern text := by
  rw [← exists_hit_iff]
  unfold findingsOf
  generalize tokens unicode.accepts p.pattern text = toks
  generalize 0 = i
  induction toks generalizing i with
  | nil => simp [findingsFrom]
  | cons token toks ih =>
      cases token with
      | skip a => simpa [findingsFrom] using ih (i + 1)
      | hit us => simp [findingsFrom]

/-- The groups that a pattern captures are not empty. -/
theorem one_le_group {p : CustomPattern} (hp : p ∈ customPatterns) :
    1 ≤ (p.parts.getD p.group .empty).minLength := by
  have hall : ∀ p ∈ customPatterns, 1 ≤ (p.parts.getD p.group .empty).minLength := by
    decide +kernel
  exact hall p hp

theorem matchesParts_getD {unicode : PyUnicode} {rs : List (Regex CharClass)}
    {p q : Option Char} {us : List (List Char)} (h : MatchesParts unicode.accepts rs p us q)
    (n : Nat) : ∃ p' q', Matches unicode.accepts (rs.getD n .empty) p' (us.getD n []) q' := by
  induction rs generalizing p us n with
  | nil =>
      refine ⟨none, none, ?_⟩
      change us = [] at h
      subst h
      rfl
  | cons r rs ih =>
      rcases h with ⟨u, vs, rfl, hr, hrs⟩
      cases n with
      | zero => exact ⟨_, _, hr⟩
      | succ n => exact ih hrs n

theorem flatten_eq_of_getD (us : List (List Char)) (n : Nat) :
    us.flatten = (us.take n).flatten ++ (us.getD n [] ++ (us.drop (n + 1)).flatten) := by
  induction us generalizing n with
  | nil => simp
  | cons u us ih =>
      cases n with
      | zero => rfl
      | succ n =>
          rw [List.flatten_cons, ih n, List.take_succ_cons, List.flatten_cons, List.append_assoc]
          rfl

/-- What the recognizers of the table find is a nonempty part of the text, matched by
the group of a pattern. -/
theorem customFindings_spec {unicode : PyUnicode} {text : List Char} {f : SensitiveFinding}
    (h : f ∈ customFindings unicode text) :
    ∃ p ∈ customPatterns, f ∈ findingsOf unicode p text ∧ f.entityType = p.entityType ∧
      f.start < f.stop ∧ (∃ before after, text = before ++ f.value ++ after ∧
        before.length = f.start ∧ f.value.length = f.stop - f.start) ∧
      ∃ q q', Matches unicode.accepts (p.parts.getD p.group .empty) q f.value q' := by
  rcases List.mem_flatMap.mp h with ⟨p, hp, hf⟩
  refine ⟨p, hp, hf, ?_⟩
  rcases mem_findingsFrom hf with ⟨before, groups, after, htoks, rfl⟩
  have hscan := @scan_tokens _ _ unicode.accepts p.pattern text
  have hmem : Token.hit groups ∈ tokens unicode.accepts p.pattern text := by
    rw [htoks]
    simp
  rcases hscan.matches_of_mem hmem with ⟨q, q', hparts⟩
  rcases matchesParts_getD hparts p.group with ⟨r, r', hmatch⟩
  have hlong := Nat.le_trans (one_le_group hp) hmatch.minLength_le
  refine ⟨rfl, ?_, ⟨before.flatMap Token.text ++ (groups.take p.group).flatten,
    (groups.drop (p.group + 1)).flatten ++ after.flatMap Token.text, ?_, ?_, ?_⟩, r, r', hmatch⟩
  · change _ < _ + (groups.getD p.group []).length
    exact Nat.lt_add_of_pos_right hlong
  · rw [← hscan.flatMap_text, htoks, List.flatMap_append, List.flatMap_cons]
    change _ ++ (groups.flatten ++ _) = _
    rw [flatten_eq_of_getD groups p.group]
    simp [CustomPattern.finding]
  · rw [List.length_append]
    simp [CustomPattern.finding]
  · simp [CustomPattern.finding]

/-! ## What is kept -/

theorem dedupeStep_ne_nil (selected : List SensitiveFinding) (finding : SensitiveFinding)
    (hseparated : Separated selected) (hstarts : StartsBefore selected finding) :
    dedupeStep selected finding ≠ [] := by
  rcases dedupeStep_cases hseparated hstarts with ⟨-, hstep⟩ | ⟨item, hitem, -, -, hcase⟩
  · rw [hstep]
    simp
  · rcases hcase with ⟨-, hstep⟩ | ⟨-, hstep⟩
    · rw [hstep]
      simp
    · rw [hstep]
      exact List.ne_nil_of_mem hitem

/-- Of the findings one at least is kept. -/
theorem dedupe_eq_nil_iff {findings : List SensitiveFinding} :
    dedupe findings = [] ↔ findings = [] := by
  constructor
  · intro h
    have hnone : selectedAfter (sortFindings findings) = [] := by
      apply List.eq_nil_iff_forall_not_mem.mpr
      intro f hf
      have hmem := mem_dedupe.mpr hf
      rw [h] at hmem
      cases hmem
    have hempty : sortFindings findings = [] := by
      rcases List.eq_nil_or_concat (sortFindings findings) with hnil | ⟨done, finding, hsome⟩
      · exact hnil
      · have hsorted := pairwise_sortFindings findings
        rw [List.concat_eq_append] at hsome
        rw [hsome] at hsorted hnone
        rw [selectedAfter_append] at hnone
        exact absurd hnone (dedupeStep_ne_nil _ _
          (selectedAfter_spec (List.pairwise_append.mp hsorted).1).1
          (startsBefore_selectedAfter hsorted))
    apply List.eq_nil_iff_forall_not_mem.mpr
    intro f hf
    have hmem := mem_sortFindings.mpr hf
    rw [hempty] at hmem
    cases hmem
  · rintro rfl
    rfl

/-- A text in which nothing is found is unchanged. -/
theorem Detector.redact_of_no_findings {d : Detector} {text : List Char} {usePresidio : Bool}
    (h : d.inspect text usePresidio = []) : d.redact text usePresidio = text :=
  if_pos h

end AuthClaw.Detection
