import AuthClaw.Detection.Detector
import Mathlib.Data.Rat.Floor

/-!
# The shape of what the detector returns

{lit}`redact` goes over the kept findings from the right, replaces the span of each and notes
what it did; the notes are turned around at the end.

Main results:

- Theorem {lit}`redactFindings_eq`: text and notes of findings that stand in order.
- Theorem {lit}`weave_filter`: what is allowed stays as it stands.
- Theorem {lit}`shape_of_redact`: the kept findings are some of those reported, sorted and
  disjoint, and the text and the notes follow them.
-/

namespace AuthClaw.Detection

open PythonText Regex

/-! ## Notes -/

/-- `round` to a whole number, ties to the even one. -/
def roundHalfEven (x : Rat) : Int :=
  let below := ⌊x⌋
  let rest := x - below
  if rest < 1 / 2 then below
  else if 1 / 2 < rest then below + 1
  else if below % 2 = 0 then below
  else below + 1

/-- What `to_policy_finding` notes, without the time. -/
structure PolicyFinding where
  policyName : String
  policyType : String
  matchedPattern : String
  redactedValue : String
  tokenId : String
  valueHash : String
  confidence : Rat
  action : String
  detector : String
  username : String
deriving DecidableEq

namespace Detector

variable (d : Detector) (username : String)

/-- `to_policy_finding` -/
def toPolicyFinding (f : SensitiveFinding) : PolicyFinding :=
  let token := "tok_" ++ f.entityType ++ "_" ++ d.fingerprint f.value
  { policyName := "Sensitive Data Detection"
    policyType := if f.entityType ∈ secretTypes then "Secret" else "PII"
    matchedPattern := f.entityType
    redactedValue := token
    tokenId := token
    valueHash := d.fingerprint f.value
    confidence := roundHalfEven (f.confidence * 10000) / 10000
    action := f.action d.config
    detector := f.source
    username := username }

/-- The body of the loop of `redact`. -/
def redactStep (done : List Char × List PolicyFinding) (f : SensitiveFinding) :
    List Char × List PolicyFinding :=
  (replaceSpan done.1 f (d.replacement f), done.2 ++ [d.toPolicyFinding username f])

/-- The loop of `redact` over the kept findings, with the notes turned around. -/
def redactFindings (text : List Char) (kept : List SensitiveFinding) :
    List Char × List PolicyFinding :=
  let result := (kept.insertionSort (fun f g => g.start ≤ f.start)).foldl
    (d.redactStep username) (text, [])
  (result.1, result.2.reverse)

/-- `redact`, with the metadata. -/
def redactWithMetadata (text : List Char) (usePresidio : Bool) :
    List Char × List PolicyFinding :=
  let findings := d.inspect text usePresidio
  if findings = [] then (text, []) else d.redactFindings username text findings

end Detector

/-! ## The loop -/

section

variable {d : Detector} {username : String} {text : List Char}
  {findings kept : List SensitiveFinding}

theorem foldl_redactStep (done : List Char × List PolicyFinding) :
    kept.foldl (d.redactStep username) done =
      (kept.foldl (fun redacted f => replaceSpan redacted f (d.replacement f)) done.1,
        done.2 ++ kept.map (d.toPolicyFinding username)) := by
  induction kept generalizing done with
  | nil => rw [List.foldl_nil, List.foldl_nil, List.map_nil, List.append_nil]
  | cons f rest ih =>
      rw [List.foldl_cons, ih, List.foldl_cons, List.map_cons]
      simp only [Detector.redactStep, List.append_assoc, List.singleton_append]

/-- The text is that of `redact`. -/
theorem redactFindings_fst :
    (d.redactFindings username text kept).1 = redactSpans d.replacement text kept := by
  unfold Detector.redactFindings redactSpans
  rw [foldl_redactStep]

theorem redactWithMetadata_fst (usePresidio : Bool) :
    (d.redactWithMetadata username text usePresidio).1 = d.redact text usePresidio := by
  unfold Detector.redactWithMetadata Detector.redact
  dsimp only
  split_ifs
  · rfl
  · exact redactFindings_fst

/-- Text and notes of findings that stand in order. -/
theorem redactFindings_eq (hordered : Ordered kept) (hnonempty : ∀ f ∈ kept, f.start < f.stop)
    (hlength : ∀ f ∈ kept, f.stop ≤ text.length) :
    d.redactFindings username text kept =
      (weave d.replacement text 0 kept, kept.map (d.toPolicyFinding username)) := by
  refine Prod.ext ?_ ?_
  · rw [redactFindings_fst]
    exact redactSpans_eq_weave d.replacement hordered hnonempty hlength
  · unfold Detector.redactFindings
    rw [foldl_redactStep, descending_of_ordered hordered hnonempty]
    simp only [List.nil_append, List.map_reverse, List.reverse_reverse]

/-! ## What is allowed -/

/-- The value of a finding is the text of its span. -/
def Quotes (text : List Char) (f : SensitiveFinding) : Prop :=
  f.value = (text.drop f.start).take (f.stop - f.start)

/-- A finding that is allowed is replaced by its value. -/
theorem replacement_of_allow {f : SensitiveFinding} (h : f.action d.config = "allow") :
    d.replacement f = f.value := by
  unfold Detector.replacement
  rw [h]
  exact replacementFor_allow _ _ _ _ _

/-- Text that is copied may be copied in one piece. -/
theorem weave_add {replacementFor : SensitiveFinding → List Char} {i j : Nat} (hij : i ≤ j)
    (hstart : ∀ f ∈ kept, j ≤ f.start) :
    (text.drop i).take (j - i) ++ weave replacementFor text j kept =
      weave replacementFor text i kept := by
  have hsplit : ∀ k, j ≤ k →
      (text.drop i).take (k - i) = (text.drop i).take (j - i) ++ (text.drop j).take (k - j) := by
    intro k hjk
    rw [show k - i = (j - i) + (k - j) by omega, List.take_add, List.drop_drop,
      show i + (j - i) = j by omega]
  cases kept with
  | nil =>
      have hjoin := List.take_append_drop (j - i) (text.drop i)
      rwa [List.drop_drop, show i + (j - i) = j by omega] at hjoin
  | cons f rest =>
      rw [weave_cons, weave_cons, hsplit f.start (hstart f (by simp))]
      simp only [List.append_assoc]

/-- What is allowed stays as it stands: only the other findings are replaced. -/
theorem weave_filter {i : Nat} (hordered : Ordered kept) (hi : ∀ f ∈ kept, i ≤ f.start)
    (hquotes : ∀ f ∈ kept, Quotes text f) :
    weave d.replacement text i kept =
      weave d.replacement text i (kept.filter (fun f => f.action d.config ≠ "allow")) := by
  induction kept generalizing i with
  | nil => rfl
  | cons f rest ih =>
      rcases List.pairwise_cons.mp hordered with ⟨hfirst, hrest⟩
      have htail := ih hrest hfirst (fun g hg => hquotes g (by simp [hg]))
      have hlater : ∀ g ∈ rest.filter (fun f => f.action d.config ≠ "allow"), f.stop ≤ g.start :=
        fun g hg => hfirst g (List.mem_of_mem_filter hg)
      by_cases hallow : f.action d.config = "allow"
      · rw [List.filter_cons_of_neg (by simpa using hallow), weave_cons,
          replacement_of_allow hallow, hquotes f (by simp), htail, List.append_assoc,
          weave_add f.valid hlater,
          weave_add (hi f (by simp)) (fun g hg => f.valid.trans (hlater g hg))]
      · rw [List.filter_cons_of_pos (by simpa using hallow), weave_cons, weave_cons, htail]

/-! ## What is kept -/

/-- The kept findings are some of the reported ones, each at most as often. -/
theorem dedupe_subperm (findings : List SensitiveFinding) : (dedupe findings).Subperm findings :=
  (dedupe_sublist findings).subperm.trans (List.perm_insertionSort _ findings).subperm

/-- The kept findings are sorted by their starts. -/
theorem pairwise_dedupe (findings : List SensitiveFinding) :
    (dedupe findings).Pairwise (fun f g => f.start ≤ g.start) :=
  ((pairwise_sortFindings findings).sublist (dedupe_sublist findings)).imp
    SensitiveFinding.start_le_of_sortsBefore

/-- Of findings with valid spans, those kept are some of them, sorted and disjoint; the text
is the text between them with their replacements, where an allowed one is its own, and the
notes stand in their order. -/
theorem shape_of_redact (d : Detector) (username : String) (text : List Char)
    (findings : List SensitiveFinding)
    (hspans : ∀ f ∈ findings, f.start < f.stop ∧ f.stop ≤ text.length) :
    (dedupe findings).Subperm findings ∧
      (dedupe findings).Pairwise (fun f g => f.start ≤ g.start) ∧
      (dedupe findings).Pairwise (fun f g => f.stop ≤ g.start) ∧
      d.redactFindings username text (dedupe findings) =
        (weave d.replacement text 0 (dedupe findings),
          (dedupe findings).map (d.toPolicyFinding username)) ∧
      ((∀ f ∈ findings, Quotes text f) →
        (d.redactFindings username text (dedupe findings)).1 =
          weave d.replacement text 0
            ((dedupe findings).filter (fun f => f.action d.config ≠ "allow"))) := by
  have hsub := dedupe_subperm findings
  have hordered : Ordered (dedupe findings) := ordered_dedupe (fun f hf => (hspans f hf).1)
  have hredact : d.redactFindings username text (dedupe findings) =
      (weave d.replacement text 0 (dedupe findings),
        (dedupe findings).map (d.toPolicyFinding username)) :=
    redactFindings_eq hordered (fun f hf => (hspans f (hsub.subset hf)).1)
      (fun f hf => (hspans f (hsub.subset hf)).2)
  refine ⟨hsub, pairwise_dedupe findings, hordered, hredact, ?_⟩
  intro hquotes
  rw [hredact]
  exact weave_filter hordered (fun _ _ => Nat.zero_le _)
    (fun f hf => hquotes f (hsub.subset hf))

end

/-- A detector without recognizers of its own. -/
def plainDetector : Detector where
  unicode := asciiUnicode
  py := asciiText
  config := defaultSensitivePolicy
  fingerprint := fun _ => "0"
  enterpriseFindings := fun _ => []
  presidioFindings := fun _ => []
  anonymizer := none

/-- Three findings in `Ann 123-45-6789`, two of which overlap. -/
def annAndNumber : List SensitiveFinding :=
  [{ entityType := "ssn", start := 4, stop := 15, value := "123-45-6789".toList,
      confidence := 97 / 100, source := "custom", valid := by decide },
    { entityType := "phone", start := 8, stop := 15, value := "45-6789".toList,
      confidence := 80 / 100, source := "custom", valid := by decide },
    { entityType := "person", start := 0, stop := 3, value := "Ann".toList,
      confidence := 85 / 100, source := "presidio", valid := by decide }]

/-- The person and the number are replaced. -/
theorem shape_of_annAndNumber :
    (dedupe annAndNumber).Pairwise (fun f g => f.stop ≤ g.start) ∧
      plainDetector.redactFindings "ada" "Ann 123-45-6789".toList (dedupe annAndNumber) =
        (weave plainDetector.replacement "Ann 123-45-6789".toList 0 (dedupe annAndNumber),
          (dedupe annAndNumber).map (plainDetector.toPolicyFinding "ada")) :=
  have hshape := shape_of_redact plainDetector "ada" "Ann 123-45-6789".toList annAndNumber
    (by decide +kernel)
  ⟨hshape.2.2.1, hshape.2.2.2.1⟩

end AuthClaw.Detection
