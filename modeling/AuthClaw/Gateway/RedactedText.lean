import AuthClaw.Detection.Shape
import AuthClaw.Gateway.Blocking
import AuthClaw.Redaction.Maskers

/-!
# What a redacting decision passes on

The engine answers `REDACT` with the text that the detector has redacted, and the policy node
goes on with that text.  The decision and the text come from two configurations: what the
engine wants redacted may be what the detector is told to keep.

Main results:

- Theorem {lit}`getElem?_mask`: what the mask hides of a value, for every kind of entity.
- Theorem {lit}`inClear_iff`: when a kept finding is read at its place in the redacted text.
- Theorem {lit}`policyNode_message`: the policy node goes on with the redacted text.
- Theorem {lit}`redact_redacts_iff`: a decision to redact keeps no finding in clear exactly when
  the detector hides each of them, or when something asks for more than to redact.
-/

namespace AuthClaw.Gateway

open PythonText AuthClaw.Detection AuthClaw.Redaction AuthClaw.Policy

/-! ## What the mask hides -/

section

variable {isDigit : Char → Bool} {entityType : String} {value : List Char}

/-- Whether the mask hides the character at a position of a value. -/
def hides (isDigit : Char → Bool) (entityType : String) (value : List Char) (i : Nat) (c : Char) :
    Prop :=
  if entityType = "email" ∧ '@' ∈ value then hiddenLocal value i
  else if entityType ∈ numericTypes then
    isDigit c = true ∧ (value.countP isDigit < 4 ∨ hiddenDigit isDigit value i c)
  else value.length ≤ 4 ∨ (0 < i ∧ i + 1 < value.length)

instance (i : Nat) (c : Char) : Decidable (hides isDigit entityType value i c) := by
  unfold hides
  infer_instance

/-- The mask of fewer than four digits hides all of them. -/
theorem getElem?_mask_few (htype : entityType ∈ numericTypes)
    (hdigits : ¬4 ≤ value.countP isDigit) {i : Nat} {c : Char} (h : value[i]? = some c) :
    (mask isDigit entityType value)[i]? = some (if isDigit c = true then '*' else c) := by
  have hemail : ¬(entityType = "email" ∧ '@' ∈ value) := by
    rintro ⟨rfl, -⟩
    exact absurd htype (by decide)
  have hlisted : entityType ∈ ["aadhaar", "credit_card", "phone"] := htype
  unfold mask
  rw [if_neg hemail, if_pos hlisted]
  dsimp only
  rw [if_neg hdigits, getElem?_maskDigits h]
  rcases List.getElem?_eq_some_iff.mp h with ⟨hi, hc⟩
  -- a digit of the value has fewer digits before it than the value has
  have hbefore : isDigit c = true → (value.take i).countP isDigit < value.countP isDigit := by
    intro hdigit
    conv => rhs; rw [← List.take_append_drop i value]
    rw [List.countP_append, List.drop_eq_getElem_cons hi, hc, List.countP_cons_of_pos hdigit]
    omega
  exact congrArg some (if_congr ⟨fun hboth => hboth.1, fun hdigit => ⟨hdigit, hbefore hdigit⟩⟩
    rfl rfl)

/-- The mask has a star in place of what it hides, and leaves the rest. -/
theorem getElem?_mask {i : Nat} {c : Char} (h : value[i]? = some c) :
    (mask isDigit entityType value)[i]? =
      some (if hides isDigit entityType value i c then '*' else c) := by
  unfold hides
  by_cases hemail : entityType = "email" ∧ '@' ∈ value
  · simp only [if_pos hemail]
    rw [hemail.1]
    exact getElem?_mask_address hemail.2 h
  · simp only [if_neg hemail]
    by_cases htype : entityType ∈ numericTypes
    · simp only [if_pos htype]
      by_cases hdigits : 4 ≤ value.countP isDigit
      · rw [getElem?_mask_numeric htype hdigits h]
        refine congrArg some (if_congr ?_ rfl rfl)
        constructor
        · intro hhidden
          exact ⟨hhidden.1, Or.inr hhidden⟩
        · rintro ⟨-, hfew | hhidden⟩
          · omega
          · exact hhidden
      · rw [getElem?_mask_few htype hdigits h]
        refine congrArg some (if_congr ?_ rfl rfl)
        exact ⟨fun hdigit => ⟨hdigit, Or.inl (by omega)⟩, fun hboth => hboth.1⟩
    · simp only [if_neg htype]
      have hlisted : entityType ∉ ["aadhaar", "credit_card", "phone"] := htype
      rcases List.getElem?_eq_some_iff.mp h with ⟨hi, -⟩
      unfold mask
      rw [if_neg hemail, if_neg hlisted]
      by_cases hshort : value.length ≤ 4
      · rw [if_pos hshort, if_pos (Or.inl hshort), stars, List.getElem?_replicate, if_pos hi]
      · rw [if_neg hshort, getElem?_maskMiddle (by omega) h]
        exact congrArg some (if_congr (by omega) rfl rfl)

/-- The mask leaves a value as it is exactly when it finds stars where it would put them. -/
theorem mask_eq_self_iff :
    mask isDigit entityType value = value ↔
      ∀ i c, value[i]? = some c → hides isDigit entityType value i c → c = '*' := by
  constructor
  · intro heq i c hc hhides
    have hmask := @getElem?_mask isDigit entityType value i c hc
    rw [heq, hc, if_pos hhides] at hmask
    exact Option.some.inj hmask
  · intro hall
    refine List.ext_getElem? ?_
    intro i
    cases hc : value[i]? with
    | none =>
        rw [List.getElem?_eq_none_iff] at hc ⊢
        rwa [length_mask]
    | some c =>
        rw [getElem?_mask hc]
        by_cases hhides : hides isDigit entityType value i c
        · rw [if_pos hhides, hall i c hc hhides]
        · rw [if_neg hhides]

end

/-! ## What is written for a finding -/

section

variable (d : Detector) (f : SensitiveFinding)

/-- What is written for a finding that is neither allowed nor masked. -/
def marker : List Char :=
  let action := f.action d.config
  if action = "block" then ("[BLOCKED_" ++ d.py.upper f.entityType ++ "]").toList
  else if action = "require_approval" then
    ("[APPROVAL_REQUIRED_" ++ d.py.upper f.entityType ++ "]").toList
  else if action = "hash" then ("[HASH_" ++ d.fingerprint f.value ++ "]").toList
  else if action = "tokenize" then
    ("[TOKEN_" ++ d.py.upper f.entityType ++ "_" ++ d.fingerprint f.value ++ "]").toList
  else "[REDACTED]".toList

/-- The action of a finding does not hide its value: it keeps it, it masks nothing of it, or
its marker contains it. -/
def Bare : Prop :=
  f.value ≠ [] ∧
    if f.action d.config = "allow" then True
    else if f.action d.config = "mask" then
      ∀ i c, f.value[i]? = some c → hides d.unicode.isDigit f.entityType f.value i c → c = '*'
    else f.value <:+: marker d f

/-- Presidio's anonymizer replaces a value by the text it is given. -/
def AnonymizerReplaces : Prop :=
  ∀ anonymize, d.anonymizer = some anonymize → ∀ (f : SensitiveFinding) (new shown : List Char),
    f.value ≠ [] → new ≠ [] → anonymize f new = some shown → shown = new

variable {d f}

/-- What takes the place of a value, with or without Presidio. -/
theorem replacement_eq (hanonymizer : AnonymizerReplaces d) (hvalue : f.value ≠ []) :
    d.replacement f =
      if f.action d.config = "allow" then f.value
      else if f.action d.config = "mask" then mask d.unicode.isDigit f.entityType f.value
      else marker d f := by
  have hmask : mask d.unicode.isDigit f.entityType f.value ≠ [] := by
    intro hnil
    have hlength := @length_mask d.unicode.isDigit f.entityType f.value
    rw [hnil] at hlength
    exact hvalue (List.length_eq_zero_iff.mp hlength.symm)
  have hanonymized : ∀ shown,
      presidioAnonymizedValue d.unicode.isDigit d.anonymizer f (f.action d.config) = some shown →
        f.action d.config = "mask" ∧ shown = mask d.unicode.isDigit f.entityType f.value ∨
          f.action d.config = "redact" ∧ shown = "[REDACTED]".toList := by
    intro shown hshown
    unfold presidioAnonymizedValue at hshown
    cases hcase : d.anonymizer with
    | none =>
        rw [hcase] at hshown
        cases hshown
    | some anonymize =>
        rw [hcase] at hshown
        dsimp only at hshown
        by_cases hmember : f.action d.config ∈ ["redact", "mask"]
        · rw [if_pos hmember] at hshown
          rcases List.mem_pair.mp hmember with haction | haction
          · rw [if_neg (by rw [haction]; decide)] at hshown
            exact Or.inr ⟨haction, hanonymizer anonymize hcase f _ _ hvalue (by decide) hshown⟩
          · rw [if_pos haction] at hshown
            exact Or.inl ⟨haction, hanonymizer anonymize hcase f _ _ hvalue hmask hshown⟩
        · rw [if_neg hmember] at hshown
          cases hshown
  unfold Detector.replacement replacementFor marker
  dsimp only
  cases hcase : (if f.source = "presidio" then
      presidioAnonymizedValue d.unicode.isDigit d.anonymizer f (f.action d.config)
    else none) with
  | none =>
      dsimp only
      by_cases hallow : f.action d.config = "allow"
      · rw [if_pos hallow, if_pos hallow]
      · rw [if_neg hallow, if_neg hallow]
        by_cases hmasked : f.action d.config = "mask"
        · rw [if_pos hmasked, hmasked]
          rfl
        · rw [if_neg hmasked, if_neg hmasked]
  | some shown =>
      dsimp only
      have hsome : presidioAnonymizedValue d.unicode.isDigit d.anonymizer f
          (f.action d.config) = some shown := by
        by_cases hsource : f.source = "presidio"
        · rwa [if_pos hsource] at hcase
        · rw [if_neg hsource] at hcase
          cases hcase
      rcases hanonymized shown hsome with ⟨haction, rfl⟩ | ⟨haction, rfl⟩
      · rw [haction]
        rfl
      · rw [haction]
        rfl

/-- The text that takes the place of a value contains it exactly when its action does not hide
it. -/
theorem value_infix_replacement_iff (hanonymizer : AnonymizerReplaces d) (hvalue : f.value ≠ []) :
    f.value <:+: d.replacement f ↔ Bare d f := by
  unfold Bare
  rw [replacement_eq hanonymizer hvalue]
  by_cases hallow : f.action d.config = "allow"
  · rw [if_pos hallow, if_pos hallow]
    exact iff_of_true (List.infix_refl _) ⟨hvalue, trivial⟩
  · rw [if_neg hallow, if_neg hallow]
    by_cases hmasked : f.action d.config = "mask"
    · rw [if_pos hmasked, if_pos hmasked, ← mask_eq_self_iff]
      constructor
      · intro hinside
        exact ⟨hvalue, (hinside.eq_of_length (length_mask _ _).symm).symm⟩
      · rintro ⟨-, heq⟩
        rw [heq]
    · rw [if_neg hmasked, if_neg hmasked]
      exact ⟨fun hinside => ⟨hvalue, hinside⟩, fun hboth => hboth.2⟩

/-- Nothing is written for an empty value only. -/
theorem value_of_replacement_nil (hanonymizer : AnonymizerReplaces d)
    (h : d.replacement f = []) : f.value = [] := by
  by_contra hvalue
  rw [replacement_eq hanonymizer hvalue] at h
  by_cases hallow : f.action d.config = "allow"
  · rw [if_pos hallow] at h
    exact hvalue h
  · rw [if_neg hallow] at h
    by_cases hmasked : f.action d.config = "mask"
    · rw [if_pos hmasked] at h
      have hlength := @length_mask d.unicode.isDigit f.entityType f.value
      rw [h] at hlength
      exact hvalue (List.length_eq_zero_iff.mp hlength.symm)
    · rw [if_neg hmasked] at h
      unfold marker at h
      dsimp only at h
      split_ifs at h <;> simp at h

end

/-! ## Where a finding stands in the redacted text -/

section

variable {shown : SensitiveFinding → List Char} {text : List Char} {f : SensitiveFinding}

/-- Where the span of a finding begins in what is written for the text from a position on:
after the text that is copied and what is written for the findings before it. -/
def placeFrom (shown : SensitiveFinding → List Char) :
    Nat → List SensitiveFinding → SensitiveFinding → Nat
  | i, [], f => f.start - i
  | i, g :: before, f => (g.start - i) + (shown g).length + placeFrom shown g.stop before f

/-- At its place stands what is written for a finding, and then the rest. -/
theorem drop_placeFrom {i : Nat} {before after : List SensitiveFinding}
    (hordered : Ordered (before ++ f :: after)) (hi : ∀ g ∈ before ++ f :: after, i ≤ g.start)
    (hlength : ∀ g ∈ before ++ f :: after, g.stop ≤ text.length) :
    (weave shown text i (before ++ f :: after)).drop (placeFrom shown i before f) =
      shown f ++ weave shown text f.stop after := by
  induction before generalizing i with
  | nil =>
      have hstop := hlength f (by simp)
      have hvalid := f.valid
      have hcopied : ((text.drop i).take (f.start - i)).length = f.start - i := by
        rw [List.length_take, List.length_drop]
        omega
      rw [List.nil_append, weave_cons, List.append_assoc]
      exact List.drop_left' hcopied
  | cons g before ih =>
      rcases List.pairwise_cons.mp hordered with ⟨hfirst, hrest⟩
      have hstop := hlength g (by simp)
      have hvalid := g.valid
      have hwritten : ((text.drop i).take (g.start - i) ++ shown g).length =
          (g.start - i) + (shown g).length := by
        rw [List.length_append, List.length_take, List.length_drop]
        omega
      rw [List.cons_append, weave_cons, placeFrom, ← List.drop_drop, List.drop_left' hwritten]
      exact ih hrest hfirst (fun h hh => hlength h (List.mem_cons_of_mem g hh))

/-- Nothing is left of a text only where there was none, as long as no part of it is replaced
by nothing. -/
theorem drop_of_weave_nil {i : Nat} {kept : List SensitiveFinding}
    (hshown : ∀ g ∈ kept, shown g = [] → g.start = g.stop) (hi : ∀ g ∈ kept, i ≤ g.start)
    (hordered : Ordered kept) (h : weave shown text i kept = []) : text.drop i = [] := by
  induction kept generalizing i with
  | nil => exact h
  | cons g rest ih =>
      rcases List.pairwise_cons.mp hordered with ⟨hfirst, hrest⟩
      rw [weave_cons, List.append_eq_nil_iff, List.append_eq_nil_iff] at h
      rcases h with ⟨⟨hcopied, hnone⟩, htail⟩
      have hempty := hshown g (by simp) hnone
      have hlater := ih (fun k hk => hshown k (by simp [hk])) hfirst hrest htail
      have hstart := hi g (by simp)
      rw [← List.take_append_drop (g.start - i) (text.drop i), hcopied, List.drop_drop,
        show i + (g.start - i) = g.stop by omega, hlater]
      rfl

end

/-! ## The redacted text -/

section

variable (d : Detector) (text : List Char)

/-- The kept findings from the left to the right. -/
def leftToRight : List SensitiveFinding :=
  (descending (d.inspect text true)).reverse

/-- The recognizers that the policy file and Presidio add report parts of the text. -/
def ReportsParts : Prop :=
  ∀ f ∈ d.enterpriseFindings text ++ d.presidioFindings text,
    f.stop ≤ text.length ∧ Quotes text f

/-- The value of a kept finding is read in a redacted text, in what stands for its span. -/
def InClear (redacted : List Char) (f : SensitiveFinding) : Prop :=
  f.value ≠ [] ∧ ∃ before after, leftToRight d text = before ++ f :: after ∧
    f.value <:+: (redacted.drop (placeFrom d.replacement 0 before f)).take
      (d.replacement f).length

variable {d text}

theorem mem_leftToRight {f : SensitiveFinding} :
    f ∈ leftToRight d text ↔ f ∈ d.inspect text true := by
  unfold leftToRight
  rw [List.mem_reverse, mem_descending]

/-- What is kept is a part of the text. -/
theorem inspect_quotes (hreports : ReportsParts d text) {f : SensitiveFinding}
    (hf : f ∈ d.inspect text true) : f.stop ≤ text.length ∧ Quotes text f := by
  have hreported := (dedupe_subperm _).subset hf
  rw [if_pos rfl, List.append_assoc] at hreported
  rcases List.mem_append.mp hreported with hcustom | hadded
  · rcases customFindings_spec hcustom with
      ⟨-, -, -, -, hspan, ⟨before, after, rfl, hbefore, hvalue⟩, -⟩
    rw [List.length_append, List.length_append]
    refine ⟨by omega, ?_⟩
    unfold Quotes
    rw [← hvalue, List.append_assoc, ← hbefore, List.drop_left, List.take_left]
  · exact hreports f hadded

theorem ordered_leftToRight : Ordered (leftToRight d text) :=
  ordered_descending ((pairwise_sortFindings _).sublist (dedupe_sublist _)) (separated_dedupe _)

/-- The redacted text, from the left to the right. -/
theorem redact_eq_weave (hreports : ReportsParts d text) :
    d.redact text true = weave d.replacement text 0 (leftToRight d text) := by
  unfold Detector.redact
  dsimp only
  split_ifs with hnone
  · unfold leftToRight
    rw [hnone]
    rfl
  · exact redactSpans_eq_weave_descending d.replacement
      ((pairwise_sortFindings _).sublist (dedupe_sublist _)) (separated_dedupe _)
      (fun f hf => (inspect_quotes hreports hf).1)

/-- A kept finding is read at its place exactly when its action does not hide it. -/
theorem inClear_iff (hreports : ReportsParts d text) (hanonymizer : AnonymizerReplaces d)
    {f : SensitiveFinding} (hf : f ∈ d.inspect text true) :
    InClear d text (d.redact text true) f ↔ Bare d f := by
  have hplace : ∀ before after, leftToRight d text = before ++ f :: after →
      ((d.redact text true).drop (placeFrom d.replacement 0 before f)).take
        (d.replacement f).length = d.replacement f := by
    intro before after hsplit
    have hordered := @ordered_leftToRight d text
    rw [hsplit] at hordered
    have hlength : ∀ g ∈ before ++ f :: after, g.stop ≤ text.length := by
      intro g hg
      rw [← hsplit] at hg
      exact (inspect_quotes hreports (mem_leftToRight.mp hg)).1
    rw [redact_eq_weave hreports, hsplit,
      drop_placeFrom hordered (fun _ _ => Nat.zero_le _) hlength, List.take_left]
  constructor
  · rintro ⟨hvalue, before, after, hsplit, hinside⟩
    rw [hplace before after hsplit] at hinside
    exact (value_infix_replacement_iff hanonymizer hvalue).mp hinside
  · intro hbare
    rcases List.append_of_mem (mem_leftToRight.mpr hf) with ⟨before, after, hsplit⟩
    refine ⟨hbare.1, before, after, hsplit, ?_⟩
    rw [hplace before after hsplit]
    exact (value_infix_replacement_iff hanonymizer hbare.1).mpr hbare

/-- The redacted text is empty for the empty text only. -/
theorem text_of_redact_nil (hreports : ReportsParts d text) (hanonymizer : AnonymizerReplaces d)
    (h : d.redact text true = []) : text = [] := by
  rw [redact_eq_weave hreports] at h
  refine drop_of_weave_nil ?_ (fun _ _ => Nat.zero_le _) ordered_leftToRight h
  intro g hg hnone
  rcases inspect_quotes hreports (mem_leftToRight.mp hg) with ⟨hstop, hquotes⟩
  have hempty := value_of_replacement_nil hanonymizer hnone
  unfold Quotes at hquotes
  rw [hempty] at hquotes
  have hlength := congrArg List.length hquotes
  rw [List.length_nil, List.length_take, List.length_drop] at hlength
  have hvalid := g.valid
  omega

end

/-! ## The decision -/

/-- What the engine reads of a note of the detector. -/
def noteOf (note : Detection.PolicyFinding) : DetectorFinding where
  matchedPattern := note.matchedPattern
  action := note.action
  detector := note.detector
  redactedValue := note.redactedValue
  valueHash := some note.valueHash

/-- The detector as the engine calls it. -/
def detectWith (d : Detector) (username : String) (text : String) :
    String × List DetectorFinding :=
  let result := d.redactWithMetadata username text.toList true
  (String.ofList result.1, result.2.map noteOf)

/-- The inputs of the nodes, with a detector. -/
def withDetector (inputs : Inputs) (d : Detector) (username : String) : Inputs :=
  { inputs with detect := fun _ => detectWith d username }

/-- Some finding asks to block the text, or to have it approved. -/
def AsksForMore (findings : List Policy.PolicyFinding) : Prop :=
  ∃ finding ∈ findings, finding.action = .block ∨ finding.action = .requireApproval

section

variable (inputs : Inputs) (d : Detector) (username : String) (s : AuthState)

/-- What the engine finds in the message. -/
def findingsOfMessage : Except PyError (List Policy.PolicyFinding) :=
  collectFindings inputs.py s.message (detectWith d username s.message).2
    (inputs.policies s.tenant)

/-- The result of the engine on the message. -/
def evaluateMessage : Except PyError EvaluationResult :=
  evaluate inputs.py (detectWith d username) s.message (inputs.policies s.tenant)

/-- A decision to redact passes on the redacted text, and no finding is read in it. -/
def RedactRedacts : Prop :=
  ∀ result, evaluateMessage inputs d username s = .ok result → result.action = .redact →
    result.allowed = true →
      (s.undeclared.securityApproved ≠ some false →
        ∀ s', (policyNode (withDetector inputs d username) s).2 = .ok s' →
          s'.message = result.redactedText) ∧
      ∀ f ∈ d.inspect s.message.toList true,
        ¬InClear d s.message.toList result.redactedText.toList f

/-- Something asks for more than to redact, or each kept finding is hidden by its action. -/
def HidesOrStops : Prop :=
  ∀ findings, findingsOfMessage inputs d username s = .ok findings →
    AsksForMore findings ∨ ∀ f ∈ d.inspect s.message.toList true, ¬Bare d f

variable {inputs d username s}

theorem evaluateMessage_eq_ok {result : EvaluationResult}
    (h : evaluateMessage inputs d username s = .ok result) :
    ∃ findings, findingsOfMessage inputs d username s = .ok findings ∧
      result = resultOf inputs.py (detectWith d username s.message).1
        (detectWith d username s.message).2 (inputs.policies s.tenant) findings := by
  rcases bind_eq_ok h with ⟨findings, hfindings, hresult⟩
  exact ⟨findings, hfindings, (Except.ok.inj hresult).symm⟩

theorem evaluateMessage_of_findings {findings : List Policy.PolicyFinding}
    (h : findingsOfMessage inputs d username s = .ok findings) :
    evaluateMessage inputs d username s =
      .ok (resultOf inputs.py (detectWith d username s.message).1
        (detectWith d username s.message).2 (inputs.policies s.tenant) findings) := by
  unfold evaluateMessage evaluate
  unfold findingsOfMessage at h
  rw [h]
  rfl

/-- The text of a result is that of the detector. -/
theorem toList_redactedText {result : EvaluationResult}
    (h : evaluateMessage inputs d username s = .ok result) :
    result.redactedText.toList = d.redact s.message.toList true := by
  rcases evaluateMessage_eq_ok h with ⟨findings, -, rfl⟩
  change (String.ofList (d.redactWithMetadata username s.message.toList true).1).toList = _
  rw [String.toList_ofList, redactWithMetadata_fst]

/-- The detector notes something where it keeps a finding. -/
theorem notes_ne_nil {f : SensitiveFinding}
    (hf : f ∈ d.inspect s.message.toList true) : (detectWith d username s.message).2 ≠ [] := by
  have hsome : d.inspect s.message.toList true ≠ [] := List.ne_nil_of_mem hf
  unfold detectWith Detector.redactWithMetadata Detector.redactFindings
  dsimp only
  rw [if_neg hsome, foldl_redactStep]
  intro hnil
  rw [List.nil_append, List.map_eq_nil_iff, List.reverse_eq_nil_iff, List.map_eq_nil_iff] at hnil
  have hmem : f ∈ (d.inspect s.message.toList true).insertionSort
      (fun f g => g.start ≤ f.start) := (List.mem_insertionSort _).mpr hf
  rw [hnil] at hmem
  cases hmem

/-- Where nothing asks for more, what is found is redacted. -/
theorem action_of_not_asksForMore {redactedText : String} {items : List DetectorFinding}
    {policies : List TenantPolicy} {findings : List Policy.PolicyFinding} (hitems : items ≠ [])
    (hmild : ¬AsksForMore findings) :
    (resultOf inputs.py redactedText items policies findings).action = .redact ∧
      (resultOf inputs.py redactedText items policies findings).allowed = true := by
  have hfinal : finalAction inputs.py (findings.map Policy.PolicyFinding.action) = .allow ∨
      finalAction inputs.py (findings.map Policy.PolicyFinding.action) = .redact := by
    by_cases hallow : finalAction inputs.py (findings.map Policy.PolicyFinding.action) = .allow
    · exact Or.inl hallow
    · rcases List.mem_map.mp (finalAction_mem inputs.py hallow) with ⟨finding, hmem, haction⟩
      rw [← haction] at hallow ⊢
      cases hcase : finding.action with
      | allow => exact Or.inl rfl
      | redact => exact Or.inr rfl
      | requireApproval => exact absurd ⟨finding, hmem, Or.inr hcase⟩ hmild
      | block => exact absurd ⟨finding, hmem, Or.inl hcase⟩ hmild
  unfold resultOf
  dsimp only
  rcases hfinal with hallow | hredact
  · rw [if_pos ⟨hallow, hitems⟩]
    exact ⟨rfl, rfl⟩
  · rw [hredact, if_neg (fun hboth => by cases hboth.1)]
    exact ⟨rfl, rfl⟩

/-- A decision to redact means that nothing asks for more. -/
theorem not_asksForMore_of_redact {redactedText : String} {items : List DetectorFinding}
    {policies : List TenantPolicy} {findings : List Policy.PolicyFinding}
    (h : (resultOf inputs.py redactedText items policies findings).action = .redact) :
    ¬AsksForMore findings := by
  rintro ⟨finding, hmem, hstrict⟩
  have hle := priority_le_finalAction inputs.py
    (List.mem_map_of_mem hmem : finding.action ∈ findings.map Policy.PolicyFinding.action)
  unfold resultOf at h
  dsimp only at h
  split_ifs at h with hforced
  · rw [hforced.1] at hle
    rcases hstrict with hstrict | hstrict <;> rw [hstrict] at hle <;> exact absurd hle (by decide)
  · rw [h] at hle
    rcases hstrict with hstrict | hstrict <;> rw [hstrict] at hle <;> exact absurd hle (by decide)

/-- An agent that asks to redact sets the message, unless its text is empty. -/
theorem applyEvaluation_message {agent : PolicyAgentResult} (happroved : agent.approved = true)
    (hdecision : agent.policyDecision = .redact) :
    (applyEvaluation inputs agent s).message =
      if agent.redactedText = "" then s.message else agent.redactedText := by
  unfold applyEvaluation
  by_cases hempty : agent.redactedText = ""
  · by_cases hversions : agent.policyVersions.isEmpty = true <;>
      simp [happroved, hempty, hversions]
  · by_cases hversions : agent.policyVersions.isEmpty = true <;>
      simp [happroved, hdecision, hempty, hversions]

/-- What the agent asks the engine. -/
theorem evaluation_withDetector :
    evaluation (withDetector inputs d username) s.tenant s.message =
      policyAgentEvaluate inputs.py (detectWith d username) s.message
        (inputs.policies s.tenant) := by
  unfold evaluation withDetector
  rfl

/-- The policy node goes on with the redacted text. -/
theorem policyNode_message (hreports : ReportsParts d s.message.toList)
    (hanonymizer : AnonymizerReplaces d) {result : EvaluationResult}
    (h : evaluateMessage inputs d username s = .ok result) (haction : result.action = .redact)
    (hsecurity : s.undeclared.securityApproved ≠ some false) {s' : AuthState}
    (hnode : (policyNode (withDetector inputs d username) s).2 = .ok s') :
    s'.message = result.redactedText := by
  have hevaluation : ∃ agent, evaluation (withDetector inputs d username) s.tenant s.message =
      .ok agent ∧ agent.approved = true ∧ agent.policyDecision = .redact ∧
        agent.redactedText = result.redactedText := by
    unfold evaluateMessage at h
    rw [evaluation_withDetector]
    unfold policyAgentEvaluate
    rw [h]
    refine ⟨_, rfl, ?_, haction, rfl⟩
    simp only [haction, reduceCtorEq, decide_false, decide_true, Bool.or_true]
  rcases hevaluation with ⟨agent, hagent, happroved, hdecision, htext⟩
  unfold policyNode at hnode
  dsimp only at hnode
  rw [if_neg (show ¬(policyDefaults s).undeclared.securityApproved = some false from hsecurity),
    show (policyDefaults s).tenant = s.tenant from rfl, hagent] at hnode
  rw [← Except.ok.inj hnode, applyEvaluation_message happroved hdecision, htext]
  by_cases hempty : result.redactedText = ""
  · rw [if_pos hempty]
    -- an empty redacted text is the message itself
    have hnil : d.redact s.message.toList true = [] := by
      rw [← toList_redactedText h, hempty]
      rfl
    have hmessage : s.message = "" :=
      String.toList_inj.mp (text_of_redact_nil hreports hanonymizer hnil)
    rw [hempty]
    exact hmessage
  · rw [if_neg hempty]

/-- Where nothing asks for more, a finding that its action does not hide is read in the text of
a decision to redact. -/
theorem inClear_of_bare (hreports : ReportsParts d s.message.toList)
    (hanonymizer : AnonymizerReplaces d) {findings : List Policy.PolicyFinding}
    (hfindings : findingsOfMessage inputs d username s = .ok findings)
    (hmild : ¬AsksForMore findings) {f : SensitiveFinding}
    (hf : f ∈ d.inspect s.message.toList true) (hbare : Bare d f) :
    ∃ result, evaluateMessage inputs d username s = .ok result ∧ result.action = .redact ∧
      result.allowed = true ∧ InClear d s.message.toList result.redactedText.toList f := by
  have hresult := evaluateMessage_of_findings hfindings
  rcases @action_of_not_asksForMore inputs (detectWith d username s.message).1
    (detectWith d username s.message).2 (inputs.policies s.tenant) findings
    (notes_ne_nil hf) hmild with ⟨haction, hallowed⟩
  refine ⟨_, hresult, haction, hallowed, ?_⟩
  rw [toList_redactedText hresult]
  exact (inClear_iff hreports hanonymizer hf).mpr hbare

end

/-- A decision to redact passes on the redacted text with no finding in it exactly when each kept
finding is hidden by its action, or something asks for more than to redact. -/
theorem redact_redacts_iff (inputs : Inputs) (d : Detector) (username : String) (s : AuthState)
    (hreports : ReportsParts d s.message.toList) (hanonymizer : AnonymizerReplaces d) :
    RedactRedacts inputs d username s ↔ HidesOrStops inputs d username s := by
  constructor
  · intro h findings hfindings
    by_cases hmore : AsksForMore findings
    · exact Or.inl hmore
    · right
      intro f hf hbare
      rcases inClear_of_bare hreports hanonymizer hfindings hmore hf hbare with
        ⟨result, hresult, haction, hallowed, hclear⟩
      exact (h result hresult haction hallowed).2 f hf hclear
  · intro h result hresult haction _
    refine ⟨?_, ?_⟩
    · intro hsecurity s' hnode
      exact policyNode_message hreports hanonymizer hresult haction hsecurity hnode
    · intro f hf hclear
      rw [toList_redactedText hresult] at hclear
      rcases evaluateMessage_eq_ok hresult with ⟨findings, hfindings, rfl⟩
      rcases h findings hfindings with hmore | hhidden
      · exact not_asksForMore_of_redact haction hmore
      · exact hhidden f hf ((inClear_iff hreports hanonymizer hf).mp hclear)

/-- With the defaults an address is redacted. -/
theorem redact_redacts_address :
    ReportsParts plainDetector "a@b.co".toList ∧ AnonymizerReplaces plainDetector ∧
      RedactRedacts bareInputs plainDetector "ada" (chatState "a@b.co") := by
  have hreports : ReportsParts plainDetector "a@b.co".toList := by
    intro f hf
    cases hf
  have hanonymizer : AnonymizerReplaces plainDetector := by
    intro anonymize hsome
    cases hsome
  refine ⟨hreports, hanonymizer,
    (redact_redacts_iff bareInputs plainDetector "ada" (chatState "a@b.co") hreports
      hanonymizer).mpr ?_⟩
  have hhidden : (plainDetector.inspect "a@b.co".toList true).all (fun f =>
      f.action plainDetector.config ≠ "allow" ∧ f.action plainDetector.config ≠ "mask" ∧
        ¬f.value <:+: marker plainDetector f) = true := by
    decide +kernel
  intro findings _
  right
  intro f hf hbare
  have hf := of_decide_eq_true (List.all_eq_true.mp hhidden f hf)
  have hshown := hbare.2
  rw [if_neg hf.1, if_neg hf.2.1] at hshown
  exact hf.2.2 hshown

/-- A detector that is told to keep addresses. -/
def addressKeeper : Detector :=
  { plainDetector with config := { defaultSensitivePolicy with actions := [("email", "allow")] } }

/-- An address that the detector is told to keep stands in clear in the text of a decision to
redact. -/
theorem redact_keeps_address :
    ¬∀ (inputs : Inputs) (d : Detector) (username : String) (s : AuthState),
      ReportsParts d s.message.toList → AnonymizerReplaces d →
        RedactRedacts inputs d username s := by
  intro h
  have hreports : ReportsParts addressKeeper "a@b.co".toList := by
    intro f hf
    cases hf
  have hanonymizer : AnonymizerReplaces addressKeeper := by
    intro anonymize hsome
    cases hsome
  have hkept : (addressKeeper.inspect "a@b.co".toList true).any (fun f =>
      f.value ≠ [] ∧ f.action addressKeeper.config = "allow") = true := by
    decide +kernel
  have hmild : (findingsOfMessage bareInputs addressKeeper "ada" (chatState "a@b.co")).toOption.any
      (fun findings => findings.all (fun finding =>
        finding.action ≠ .block ∧ finding.action ≠ .requireApproval)) = true := by
    decide +kernel
  rcases List.any_eq_true.mp hkept with ⟨f, hf, hallow⟩
  have hallow := of_decide_eq_true hallow
  have hbare : Bare addressKeeper f := by
    refine ⟨hallow.1, ?_⟩
    rw [if_pos hallow.2]
    trivial
  cases hfindings : findingsOfMessage bareInputs addressKeeper "ada" (chatState "a@b.co") with
  | error e =>
      rw [hfindings] at hmild
      cases hmild
  | ok findings =>
      rw [hfindings] at hmild
      have hnone : ¬AsksForMore findings := by
        rintro ⟨finding, hmem, hmore⟩
        have hfinding := of_decide_eq_true (List.all_eq_true.mp hmild finding hmem)
        rcases hmore with hblock | happroval
        · exact hfinding.1 hblock
        · exact hfinding.2 happroval
      have hsmall : ReportsParts addressKeeper (chatState "a@b.co").message.toList := hreports
      rcases inClear_of_bare hsmall hanonymizer hfindings hnone hf hbare with
        ⟨result, hresult, haction, hallowed, hclear⟩
      exact (h bareInputs addressKeeper "ada" (chatState "a@b.co") hsmall hanonymizer result
        hresult haction hallowed).2 f hf hclear

end AuthClaw.Gateway
