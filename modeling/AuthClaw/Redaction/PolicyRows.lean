import AuthClaw.Redaction.Prescan
import AuthClaw.Redaction.Provenance

/-!
# The rows behind a redaction

{lit}`redact_sensitive_data_rich` keeps one row of each type, the last one, and asks it
whether to redact.  Does a further row, or another order of the rows, ever leave in clear
what was masked?

It does as soon as it changes what a type asks for.  A type that no longer asks leaves the
values of its keywords in clear.  A type that begins to ask masks the value of a keyword
inside of an address, and the rest of the address is no longer found.

Main results:

- Theorem {lit}`enforcedTypes_eq_ok_iff`: what the rows ask for, type by type.
- Theorem {lit}`typeAsks_added_iff`: when a further row changes what the types ask for.
- Theorem {lit}`sameRedaction_of_perm`: the order matters only where a type has two rows.
- Theorem {lit}`stays_masked_iff`: what was masked stays masked in every text exactly when
  the types ask for the same.
- Theorem {lit}`second_row_reveals`: a second row takes the redaction of the first away.
-/

namespace AuthClaw.Redaction

open Regex CharClass PythonText AsciiText AuthClaw.Detection AuthClaw.Policy TokenStream

/-! ## What the rows ask for -/

/-- The types that the redactor looks up. -/
def redactedTypes : List String :=
  ["GDPR", "HIPAA", "SOC2"]

/-- `rules.get("pii_redaction", False)` -/
def asksForRedaction (policy : DbPolicy) : Bool :=
  match policy.rules with
  | .obj members => (getKey members "pii_redaction").any Json.truthy
  | _ => false

/-- The rules have a `get`. -/
def readable (policy : DbPolicy) : Bool :=
  match policy.rules with
  | .obj _ => true
  | _ => false

section

variable (policies before after : List DbPolicy)

/-- The active row of the type asks for redaction. -/
def typeAsks (type : String) : Bool :=
  (activeType policies type).any asksForRedaction

/-- The rules of the active rows can be read. -/
def Readable : Prop :=
  ∀ type ∈ redactedTypes, (activeType policies type).all readable = true

instance : Decidable (Readable policies) :=
  inferInstanceAs (Decidable (∀ type ∈ redactedTypes, _))

/-- What the types ask for. -/
def asked : Enforced where
  gdpr := typeAsks policies "GDPR"
  hipaa := typeAsks policies "HIPAA"
  soc2 := typeAsks policies "SOC2"

/-- Where both lists of rows can be read, the types ask for the same. -/
def SameRedaction : Prop :=
  Readable before → Readable after →
    ∀ type ∈ redactedTypes, typeAsks before type = typeAsks after type

variable {policies before after}

theorem piiRedaction_eq_ok_iff {type : String} {b : Bool} :
    piiRedaction policies type = .ok b ↔
      (activeType policies type).all readable = true ∧ typeAsks policies type = b := by
  unfold piiRedaction typeAsks
  cases activeType policies type with
  | none => simp
  | some policy =>
      unfold readable asksForRedaction
      cases hrules : policy.rules <;> simp [hrules]

/-- What the rows ask for, type by type. -/
theorem enforcedTypes_eq_ok_iff {e : Enforced} :
    enforcedTypes policies = .ok e ↔ Readable policies ∧ asked policies = e := by
  constructor
  · intro h
    rcases bind_eq_ok h with ⟨gdpr, hgdpr, h⟩
    rcases bind_eq_ok h with ⟨hipaa, hhipaa, h⟩
    rcases bind_eq_ok h with ⟨soc2, hsoc2, h⟩
    rw [piiRedaction_eq_ok_iff] at hgdpr hhipaa hsoc2
    injection h with h
    rw [← h]
    refine ⟨?_, ?_⟩
    · intro type htype
      simp only [redactedTypes, List.mem_cons, List.not_mem_nil, or_false] at htype
      rcases htype with rfl | rfl | rfl
      · exact hgdpr.1
      · exact hhipaa.1
      · exact hsoc2.1
    · unfold asked
      rw [hgdpr.2, hhipaa.2, hsoc2.2]
  · rintro ⟨hreadable, rfl⟩
    have hask : ∀ type ∈ redactedTypes,
        piiRedaction policies type = .ok (typeAsks policies type) :=
      fun type htype => piiRedaction_eq_ok_iff.mpr ⟨hreadable type htype, rfl⟩
    unfold enforcedTypes
    rw [hask "GDPR" (by decide), hask "HIPAA" (by decide), hask "SOC2" (by decide)]
    rfl

theorem asked_eq_iff : asked before = asked after ↔
    ∀ type ∈ redactedTypes, typeAsks before type = typeAsks after type := by
  simp [asked, redactedTypes]

/-- A further row is the active one of its type when none of the type comes after it. -/
theorem activeType_added (front back : List DbPolicy) (row : DbPolicy) (type : String) :
    activeType (front ++ row :: back) type =
      (activeType back type).or
        (if row.type = type then some row else activeType front type) := by
  unfold activeType
  rw [List.reverse_append, List.reverse_cons, List.find?_append, List.find?_append,
    Option.or_assoc]
  congr 1
  by_cases htype : row.type = type
  · rw [if_pos htype, List.find?_cons_of_pos (by simpa using htype)]
    rfl
  · rw [if_neg htype, List.find?_cons_of_neg (by simpa using htype)]
    rfl

theorem activeType_append (front back : List DbPolicy) (type : String) :
    activeType (front ++ back) type = (activeType back type).or (activeType front type) := by
  unfold activeType
  rw [List.reverse_append, List.find?_append]

theorem activeType_eq_none_iff {type : String} :
    activeType policies type = none ↔ ∀ p ∈ policies, p.type ≠ type := by
  unfold activeType
  simp [List.find?_eq_none]

/-- A further row changes what the redactor looks up exactly when its type is looked up, no
later row has the type, and the rows before it ask for something else. -/
theorem typeAsks_added_iff (front back : List DbPolicy) (row : DbPolicy) :
    (∀ type ∈ redactedTypes,
        typeAsks (front ++ back) type = typeAsks (front ++ row :: back) type) ↔
      (row.type ∈ redactedTypes → (∀ p ∈ back, p.type ≠ row.type) →
        typeAsks front row.type = asksForRedaction row) := by
  constructor
  · intro h htype hlast
    have hsame := h row.type htype
    unfold typeAsks at hsame ⊢
    rw [activeType_added, activeType_append, activeType_eq_none_iff.mpr hlast, if_pos rfl] at hsame
    exact hsame
  · intro h type htype
    unfold typeAsks
    rw [activeType_added, activeType_append]
    cases hback : activeType back type with
    | some p => rfl
    | none =>
        by_cases hrow : row.type = type
        · rw [if_pos hrow]
          subst hrow
          exact h htype (activeType_eq_none_iff.mp hback)
        · rw [if_neg hrow]

theorem activeType_eq_getLast? (policies : List DbPolicy) (type : String) :
    activeType policies type = (policies.filter (fun p => p.type = type)).getLast? := by
  unfold activeType
  rw [List.getLast?_eq_head?_reverse, ← List.filter_reverse, List.head?_filter]

/-- The order matters only where a type has two rows. -/
theorem activeType_of_perm (hperm : before.Perm after) {type : String}
    (hone : (before.filter (fun p => p.type = type)).length ≤ 1) :
    activeType before type = activeType after type := by
  rw [activeType_eq_getLast?, activeType_eq_getLast?]
  have hrows := hperm.filter (fun p => p.type = type)
  generalize before.filter (fun p => p.type = type) = rows at hone hrows
  match rows, hone with
  | [], _ => rw [hrows.nil_eq]
  | [row], _ => rw [List.singleton_perm.mp hrows]

theorem sameRedaction_of_perm (hperm : before.Perm after)
    (hone : ∀ type ∈ redactedTypes, (before.filter (fun p => p.type = type)).length ≤ 1) :
    SameRedaction before after := by
  intro _ _ type htype
  unfold typeAsks
  rw [activeType_of_perm hperm (hone type htype)]

end

/-! ## What stays masked -/

section

variable (redactor : Redactor) (usePresidio : Bool) (text : List Char)

/-- A character of the text that does not come out under the first rows does not come out
under the second ones. -/
def StaysMasked (before after : List DbPolicy) : Prop :=
  ∀ out out', redactTracked redactor before usePresidio text = .ok out →
    redactTracked redactor after usePresidio text = .ok out' →
      ∀ a ∈ track text, a ∉ out → a ∉ out'

variable {redactor usePresidio text} {before after : List DbPolicy}

/-- Rows that ask for the same give the same. -/
theorem stays_masked_of_same (h : SameRedaction before after) :
    StaysMasked redactor usePresidio text before after := by
  intro out out' hout hout' a _ hmasked
  unfold redactTracked at hout hout'
  rcases bind_eq_ok hout with ⟨e, he, hout⟩
  rcases bind_eq_ok hout' with ⟨e', he', hout'⟩
  rw [enforcedTypes_eq_ok_iff] at he he'
  have hsame := asked_eq_iff.mpr (h he.1 he'.1)
  rw [he.2, he'.2] at hsame
  subst hsame
  rw [hout] at hout'
  injection hout' with hout'
  rw [← hout']
  exact hmasked

end

/-! ## Running on ASCII -/

/-- The passes that the types ask for. -/
def policyPasses (e : Enforced) : List PyPass :=
  (if e.gdpr then gdprPasses else []) ++ (if e.hipaa then hipaaPasses else []) ++
    (if e.soc2 then soc2Passes else [])

theorem passes_eq (e : Enforced) : e.passes = policyPasses e ++ baselinePasses :=
  rfl

theorem runPasses_then {α : Type} (redactor : Redactor) (cells : Cells α)
    (passes later : List PyPass) (text : List α) :
    runPasses redactor cells (passes ++ later) text =
      runPasses redactor cells later (runPasses redactor cells passes text) :=
  List.foldl_append

/-- A run of passes on ASCII whose replacements come from the match alone. -/
def runAscii : List PyPass → List Tracked → Option (List Tracked)
  | [], text => some text
  | p :: rest, text =>
      if text.all (fun a => asciiChar a.2) ∧ p.rewrite ∈ [.redacted, .keepKeyword, .pinDigits] then
        runAscii rest (p.sub bareRedactor trackedCells text)
      else none

theorem runAscii_append (passes later : List PyPass) (text : List Tracked) :
    runAscii (passes ++ later) text = (runAscii passes text).bind (runAscii later) := by
  induction passes generalizing text with
  | nil => rfl
  | cons p rest ih =>
      rw [List.cons_append, runAscii, runAscii]
      split
      · exact ih _
      · rfl

section

variable {redactor : Redactor}

/-- The classes agree on ASCII. -/
theorem through_ascii {text : List Tracked} (hascii : text.all (fun a => asciiChar a.2) = true) :
    ∀ a ∈ text, ∀ k, through trackedCells.char redactor.detector.unicode.accepts k a =
      through trackedCells.char bareRedactor.detector.unicode.accepts k a := by
  intro a ha k
  have hchar := List.all_eq_true.mp hascii a ha
  change redactor.detector.unicode.accepts k a.2 = asciiUnicode.accepts k a.2
  rw [accepts_ascii hchar, accepts_ascii hchar]

/-- What is run on ASCII is run by every redactor. -/
theorem runPasses_of_runAscii {passes : List PyPass} {text out : List Tracked}
    (h : runAscii passes text = some out) :
    runPasses redactor trackedCells passes text = out := by
  induction passes generalizing text with
  | nil =>
      injection h
  | cons p rest ih =>
      unfold runAscii at h
      split at h
      · rename_i hp
        have hrewrite : ∀ groups, p.rewrite.apply redactor trackedCells groups =
            p.rewrite.apply bareRedactor trackedCells groups := by
          have hmem := hp.2
          cases hcase : p.rewrite with
          | redacted => exact fun _ => rfl
          | keepKeyword => exact fun _ => rfl
          | pinDigits => exact fun _ => rfl
          | baseline field => simp [hcase] at hmem
        have hsub : p.sub redactor trackedCells text = p.sub bareRedactor trackedCells text := by
          unfold PyPass.sub
          rw [replaceAll_congr (through_ascii hp.1)]
          simp only [hrewrite]
        change runPasses redactor trackedCells rest (p.sub redactor trackedCells text) = out
        rw [hsub]
        exact ih h
      · cases h

/-- The recognizers find on ASCII what the ASCII tables let them find. -/
theorem customFindings_ascii {text : List Char} (hascii : text.all asciiChar = true) :
    customFindings redactor.detector.unicode text = customFindings asciiUnicode text := by
  unfold customFindings findingsOf
  have hsame : ∀ p : CustomPattern, tokens redactor.detector.unicode.accepts p.pattern text =
      tokens asciiUnicode.accepts p.pattern text := by
    intro p
    apply tokens_congr
    intro c hc k
    have hchar := List.all_eq_true.mp hascii c hc
    rw [accepts_ascii hchar, accepts_ascii hchar]
  simp only [hsame]

/-- A text in which the recognizers find nothing reaches the passes as it is. -/
theorem detectorRedact_of_no_findings {usePresidio : Bool} {text : List Char}
    (hascii : text.all asciiChar = true) (hnone : customFindings asciiUnicode text = []) :
    detectorRedact (builtIn redactor) trackedCells usePresidio (track text) = track text := by
  unfold detectorRedact
  simp only
  rw [map_track]
  have hinspect : (builtIn redactor).detector.inspect text usePresidio = [] := by
    unfold Detector.inspect
    rw [dedupe_eq_nil_iff, customFindings_ascii hascii, hnone]
    cases usePresidio with
    | false => rfl
    | true => rfl
  rw [hinspect]
  rfl

end

/-! ## What the baseline passes leave -/

/-- The first baseline pass. -/
def emailPass : PyPass :=
  baselinePass "email" baselineEmail one_le_baselineEmail

/-- The two that follow it. -/
def digitPasses : List PyPass :=
  [baselinePass "aadhaar" baselineAadhaar one_le_baselineAadhaar,
    baselinePass "phone" baselinePhone one_le_baselinePhone]

/-- The policy file has addresses masked. -/
def masksAddresses (redactor : Redactor) : Bool :=
  redactor.detector.py.lower (redactor.baselineAction "email") = "mask"

/-- What the first baseline pass leaves of a text in ASCII. -/
def leftByEmail (masks : Bool) (text : List Tracked) : List Tracked :=
  if masks then emailPass.sub shippedRedactor trackedCells text
  else (tokens (through trackedCells.char asciiUnicode.accepts) emailPass.pattern text).filterMap
    (fun token =>
      match token with
      | .skip a => some a
      | .hit _ => none)

section

variable {redactor : Redactor}

/-- An address that is not masked is replaced as a whole. -/
theorem replaced_of_not_masks (h : masksAddresses redactor = false) (val : List Tracked) :
    ∃ new, applyRedaction redactor trackedCells "email" val (redactor.baselineAction "email") =
      trackedCells.literal new := by
  unfold masksAddresses at h
  rw [decide_eq_false_iff_not] at h
  unfold applyRedaction fallbackRedaction
  simp only [if_neg h, if_true]
  split
  · exact ⟨_, rfl⟩
  · split
    · exact ⟨_, rfl⟩
    · exact ⟨_, rfl⟩

theorem masked_of_masks (h : masksAddresses redactor = true) (val : List Tracked) :
    applyRedaction redactor trackedCells "email" val (redactor.baselineAction "email") =
      applyRedaction shippedRedactor trackedCells "email" val
        (shippedRedactor.baselineAction "email") := by
  unfold masksAddresses at h
  rw [decide_eq_true_eq] at h
  have hshipped : shippedRedactor.detector.py.lower (shippedRedactor.baselineAction "email") =
      "mask" := by
    decide +kernel
  unfold applyRedaction
  simp only [h, hshipped, if_true]

/-- A character with a position is left by the first baseline pass of every redactor alike. -/
theorem mem_emailPass_iff {text : List Tracked}
    (hascii : text.all (fun a => asciiChar a.2) = true) {a : Tracked} (ha : a.1 ≠ none) :
    a ∈ emailPass.sub redactor trackedCells text ↔
      a ∈ leftByEmail (masksAddresses redactor) text := by
  have hsub : emailPass.sub redactor trackedCells text =
      replaceAll (through trackedCells.char asciiUnicode.accepts) emailPass.pattern
        (fun groups => applyRedaction redactor trackedCells "email" groups.flatten
          (redactor.baselineAction "email")) text :=
    replaceAll_congr (through_ascii hascii) _
  rw [hsub]
  unfold leftByEmail
  cases hmasks : masksAddresses redactor with
  | true =>
      simp only [masked_of_masks hmasks]
      rfl
  | false =>
      unfold replaceAll
      rw [if_neg Bool.false_ne_true, List.mem_flatMap, List.mem_filterMap]
      constructor
      · rintro ⟨token, htoken, hmem⟩
        refine ⟨token, htoken, ?_⟩
        cases token with
        | skip b => rw [List.mem_singleton.mp hmem]
        | hit groups =>
            rcases replaced_of_not_masks hmasks groups.flatten with ⟨new, hnew⟩
            simp only [hnew] at hmem
            rcases List.mem_map.mp hmem with ⟨c, -, rfl⟩
            exact absurd rfl ha
      · rintro ⟨token, htoken, hsome⟩
        refine ⟨token, htoken, ?_⟩
        cases token with
        | skip b =>
            injection hsome with hsome
            rw [hsome]
            exact List.mem_singleton_self _
        | hit groups => cases hsome

/-- The characters that are watched are in no match of the later baseline passes. -/
theorem rejects_of_watched {p : PyPass} (hp : p ∈ digitPasses) {c : Char}
    (hc : c ∈ ['a', '@', '.']) : p.Rejects redactor c := by
  have hall : ['a', '@', '.'].all (fun c => asciiChar c && digitPasses.all (fun p =>
      p.parts.all (fun r => r.classes.all (fun k => !k.accepts asciiTables c)))) = true := by
    decide +kernel
  intro r hr k hk
  have hchar := List.all_eq_true.mp hall c hc
  rw [Bool.and_eq_true] at hchar
  rw [accepts_ascii hchar.1]
  have hparts := List.all_eq_true.mp (List.all_eq_true.mp hchar.2 p hp) r hr
  simpa using List.all_eq_true.mp hparts k hk

/-- The baseline passes leave a watched character where the first of them does. -/
theorem mem_baselinePasses_iff {text : List Tracked}
    (hascii : text.all (fun a => asciiChar a.2) = true) {a : Tracked} (ha : a.1 ≠ none)
    (hwatched : a.2 ∈ ['a', '@', '.']) :
    a ∈ runPasses redactor trackedCells baselinePasses text ↔
      a ∈ leftByEmail (masksAddresses redactor) text := by
  rw [← mem_emailPass_iff hascii ha]
  change a ∈ runPasses redactor trackedCells digitPasses
    (emailPass.sub redactor trackedCells text) ↔ _
  constructor
  · intro h
    rcases leaves_runPasses digitPasses _ _ h with hmem | ⟨c, rfl⟩
    · exact hmem
    · exact absurd rfl ha
  · intro h
    unfold digitPasses
    have haadhaar := @rejects_of_watched redactor _ List.mem_cons_self _ hwatched
    have hphone := @rejects_of_watched redactor _ (List.mem_cons_of_mem _ List.mem_cons_self) _
      hwatched
    exact PyPass.mem_sub_of_rejects hphone (PyPass.mem_sub_of_rejects haadhaar h)

end

/-! ## Texts that tell what a type asks for -/

/-- A keyword before a value and before two addresses. -/
def probe (keyword : String) : List Char :=
  (keyword ++ " a " ++ keyword ++ " a@b.c " ++ keyword ++ " a.cd@f.g").toList

/-- The probe with the values of its keywords replaced. -/
def redactedProbe (keyword : String) : List Tracked :=
  let text := track (probe keyword)
  let n := keyword.length
  text.take (n + 1) ++ trackedCells.literal "[REDACTED]" ++ (text.drop (n + 2)).take (n + 2) ++
    trackedCells.literal "[REDACTED]" ++ (text.drop (2 * n + 5)).take (n + 6) ++
    trackedCells.literal "[REDACTED]" ++ text.drop (3 * n + 12)

/-- What the passes of a type that has the keyword make of its probe. -/
def probeAfter (keyword : String) (asks : Bool) : List Tracked :=
  if asks then redactedProbe keyword else track (probe keyword)

/-- The character that comes out only if the type asks, or only if it does not: in the
remains of an address, or the value itself. -/
def watched (keyword : String) (masks asks : Bool) : Tracked :=
  let n := keyword.length
  if asks then if masks then (some (3 * n + 12), '.') else (some (2 * n + 5), '@')
  else (some (n + 1), 'a')

theorem watched_spec (keyword : String) (masks wanted : Bool) :
    (watched keyword masks wanted).1 ≠ none ∧
      (watched keyword masks wanted).2 ∈ ['a', '@', '.'] := by
  cases wanted with
  | false => simp [watched]
  | true =>
      cases masks with
      | false => simp [watched]
      | true => simp [watched]

/-- A keyword whose probe tells what its type asks for: no recognizer finds anything in
it, and the baseline passes leave the watched character only if the type asks as it
should. -/
structure Probe where
  keyword : String
  ascii : (probe keyword).all asciiChar = true
  asciiAfter : ∀ asks, (probeAfter keyword asks).all (fun a => asciiChar a.2) = true
  findsNothing : customFindings asciiUnicode (probe keyword) = []
  watchedThere : ∀ masks wanted : Bool, watched keyword masks wanted ∈ track (probe keyword)
  watchedLeft : ∀ masks asks wanted : Bool,
    watched keyword masks wanted ∈ leftByEmail masks (probeAfter keyword asks) ↔ asks = wanted

/-- A keyword of the type GDPR. -/
def ssnProbe : Probe where
  keyword := "ssn"
  ascii := by decide +kernel
  asciiAfter := by decide +kernel
  findsNothing := by decide +kernel
  watchedThere := by decide +kernel
  watchedLeft := by decide +kernel

/-- A keyword of the type HIPAA. -/
def diagnosisProbe : Probe where
  keyword := "diagnosis"
  ascii := by decide +kernel
  asciiAfter := by decide +kernel
  findsNothing := by decide +kernel
  watchedThere := by decide +kernel
  watchedLeft := by decide +kernel

/-- A keyword of the type SOC2. -/
def pinProbe : Probe where
  keyword := "pin"
  ascii := by decide +kernel
  asciiAfter := by decide +kernel
  findsNothing := by decide +kernel
  watchedThere := by decide +kernel
  watchedLeft := by decide +kernel

theorem runAscii_if (asks : Bool) {passes : List PyPass} {text out : List Tracked}
    (h : runAscii passes text = some out) :
    runAscii (if asks then passes else []) text = some (if asks then out else text) := by
  cases asks with
  | false => rfl
  | true => exact h

theorem runAscii_if_self (asks : Bool) {passes : List PyPass} {text : List Tracked}
    (h : runAscii passes text = some text) :
    runAscii (if asks then passes else []) text = some text := by
  rw [runAscii_if asks h, ite_self]

/-- The other types leave the probe of a GDPR keyword alone. -/
theorem gdpr_probe (e : Enforced) :
    runAscii (policyPasses e) (track (probe "ssn")) = some (probeAfter "ssn" e.gdpr) := by
  have hgdpr : runAscii gdprPasses (track (probe "ssn")) = some (redactedProbe "ssn") := by
    decide +kernel
  have hhipaa : ∀ asks,
      runAscii hipaaPasses (probeAfter "ssn" asks) = some (probeAfter "ssn" asks) := by
    decide +kernel
  have hsoc2 : ∀ asks,
      runAscii soc2Passes (probeAfter "ssn" asks) = some (probeAfter "ssn" asks) := by
    decide +kernel
  unfold policyPasses
  rw [runAscii_append, runAscii_append, runAscii_if e.gdpr hgdpr]
  change ((runAscii _ (probeAfter "ssn" e.gdpr)).bind _) = _
  rw [runAscii_if_self e.hipaa (hhipaa _), Option.bind_some, runAscii_if_self e.soc2 (hsoc2 _)]

/-- The other types leave the probe of a HIPAA keyword alone. -/
theorem hipaa_probe (e : Enforced) :
    runAscii (policyPasses e) (track (probe "diagnosis")) =
      some (probeAfter "diagnosis" e.hipaa) := by
  have hgdpr : runAscii gdprPasses (track (probe "diagnosis")) =
      some (track (probe "diagnosis")) := by
    decide +kernel
  have hhipaa : runAscii hipaaPasses (track (probe "diagnosis")) =
      some (redactedProbe "diagnosis") := by
    decide +kernel
  have hsoc2 : ∀ asks,
      runAscii soc2Passes (probeAfter "diagnosis" asks) = some (probeAfter "diagnosis" asks) := by
    decide +kernel
  unfold policyPasses
  rw [runAscii_append, runAscii_append, runAscii_if_self e.gdpr hgdpr, Option.bind_some,
    runAscii_if e.hipaa hhipaa]
  exact runAscii_if_self e.soc2 (hsoc2 _)

/-- The other types leave the probe of a SOC2 keyword alone. -/
theorem soc2_probe (e : Enforced) :
    runAscii (policyPasses e) (track (probe "pin")) = some (probeAfter "pin" e.soc2) := by
  have hgdpr : runAscii gdprPasses (track (probe "pin")) = some (track (probe "pin")) := by
    decide +kernel
  have hhipaa : runAscii hipaaPasses (track (probe "pin")) = some (track (probe "pin")) := by
    decide +kernel
  have hsoc2 : runAscii soc2Passes (track (probe "pin")) = some (redactedProbe "pin") := by
    decide +kernel
  unfold policyPasses
  rw [runAscii_append, runAscii_append, runAscii_if_self e.gdpr hgdpr, Option.bind_some,
    runAscii_if_self e.hipaa hhipaa, Option.bind_some]
  exact runAscii_if e.soc2 hsoc2

section

variable {redactor : Redactor} {usePresidio : Bool} {before after : List DbPolicy}

/-- The watched character of a probe comes out only if the type asks as it should. -/
theorem Probe.watched_out_iff (p : Probe) {e : Enforced} {asks : Bool}
    (hrun : runAscii (policyPasses e) (track (probe p.keyword)) =
      some (probeAfter p.keyword asks)) (wanted : Bool) :
    watched p.keyword (masksAddresses redactor) wanted ∈
        runPasses (builtIn redactor) trackedCells e.passes
          (detectorRedact (builtIn redactor) trackedCells usePresidio (track (probe p.keyword))) ↔
      asks = wanted := by
  have hpolicy : runPasses (builtIn redactor) trackedCells e.passes (track (probe p.keyword)) =
      runPasses (builtIn redactor) trackedCells baselinePasses (probeAfter p.keyword asks) := by
    rw [passes_eq, runPasses_then, runPasses_of_runAscii hrun]
  rw [detectorRedact_of_no_findings p.ascii p.findsNothing, hpolicy,
    ← p.watchedLeft (masksAddresses redactor) asks wanted]
  have hspec := watched_spec p.keyword (masksAddresses redactor) wanted
  exact @mem_baselinePasses_iff (builtIn redactor) _ (p.asciiAfter asks) _ hspec.1 hspec.2

/-- Where the probe of a type keeps its masked characters, the type asks for the same. -/
theorem Probe.asks_eq_of_stays_masked (p : Probe) {asks : Enforced → Bool}
    (hrun : ∀ e, runAscii (policyPasses e) (track (probe p.keyword)) =
      some (probeAfter p.keyword (asks e)))
    (hbefore : Readable before) (hafter : Readable after)
    (h : StaysMasked (builtIn redactor) usePresidio (probe p.keyword) before after) :
    asks (asked before) = asks (asked after) := by
  have hspec : ∀ policies, Readable policies → ∃ out,
      redactTracked (builtIn redactor) policies usePresidio (probe p.keyword) = .ok out ∧
        ∀ wanted, watched p.keyword (masksAddresses redactor) wanted ∈ out ↔
          asks (asked policies) = wanted := by
    intro policies hreadable
    have henforced := enforcedTypes_eq_ok_iff.mpr ⟨hreadable, rfl⟩
    unfold redactTracked
    rw [henforced]
    exact ⟨_, rfl, fun wanted => p.watched_out_iff (hrun _) wanted⟩
  rcases hspec before hbefore with ⟨out, hout, hclear⟩
  rcases hspec after hafter with ⟨out', hout', hclear'⟩
  by_contra hne
  have hstays := h out out' hout hout' _
    (p.watchedThere (masksAddresses redactor) (asks (asked after)))
  exact hstays (fun hmem => hne ((hclear _).mp hmem)) ((hclear' _).mpr rfl)

/-- Where every probe keeps its masked characters, the types ask for the same. -/
theorem same_of_stays_masked
    (h : ∀ text, StaysMasked (builtIn redactor) usePresidio text before after) :
    SameRedaction before after := by
  intro hbefore hafter
  rw [← asked_eq_iff]
  have hgdpr := ssnProbe.asks_eq_of_stays_masked gdpr_probe hbefore hafter (h _)
  have hhipaa := diagnosisProbe.asks_eq_of_stays_masked hipaa_probe hbefore hafter (h _)
  have hsoc2 := pinProbe.asks_eq_of_stays_masked soc2_probe hbefore hafter (h _)
  change Enforced.mk _ _ _ = Enforced.mk _ _ _
  rw [Enforced.mk.injEq]
  exact ⟨hgdpr, hhipaa, hsoc2⟩

end

/-- What was masked stays masked in every text when the types ask for the same, and, with
the recognizers of the repository alone, only then. -/
theorem stays_masked_iff (redactor : Redactor) (usePresidio : Bool)
    (before after : List DbPolicy) :
    (SameRedaction before after →
        ∀ text, StaysMasked redactor usePresidio text before after) ∧
      ((∀ text, StaysMasked (builtIn redactor) usePresidio text before after) →
        SameRedaction before after) :=
  ⟨fun h _ => stays_masked_of_same h, same_of_stays_masked⟩

/-! ## A second row -/

/-- A row of the type GDPR. -/
def gdprRow (id : Int) (redacts : Bool) : DbPolicy where
  id := id
  name := "GDPR"
  type := "GDPR"
  rules := .obj [("pii_redaction", .bool redacts)]
  tenantId := some 1

/-- A second row of a type takes its redaction away, and so does another order of two. -/
theorem second_row_reveals :
    (¬ ∀ (redactor : Redactor) (text : List Char) (front back : List DbPolicy) (row : DbPolicy),
        StaysMasked redactor true text (front ++ back) (front ++ row :: back)) ∧
      ¬ ∀ (redactor : Redactor) (text : List Char) (before after : List DbPolicy),
        before.Perm after → StaysMasked redactor true text before after := by
  have hreadable : ∀ rows ∈ [[gdprRow 1 true], [gdprRow 1 true, gdprRow 2 false],
      [gdprRow 2 false, gdprRow 1 true]], Readable rows := by
    decide +kernel
  constructor
  · intro h
    have hsame := @same_of_stays_masked shippedRedactor true [gdprRow 1 true]
      [gdprRow 1 true, gdprRow 2 false]
      (fun text => h (builtIn shippedRedactor) text [gdprRow 1 true] [] (gdprRow 2 false))
    have hgdpr := hsame (hreadable _ (by simp)) (hreadable _ (by simp)) "GDPR" (by decide)
    revert hgdpr
    decide +kernel
  · intro h
    have hsame := @same_of_stays_masked shippedRedactor true [gdprRow 2 false, gdprRow 1 true]
      [gdprRow 1 true, gdprRow 2 false]
      (fun text => h (builtIn shippedRedactor) text _ _ (List.Perm.swap _ _ _))
    have hgdpr := hsame (hreadable _ (by simp)) (hreadable _ (by simp)) "GDPR" (by decide)
    revert hgdpr
    decide +kernel

end AuthClaw.Redaction
