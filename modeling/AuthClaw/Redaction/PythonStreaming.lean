import AuthClaw.Detection.Composition
import AuthClaw.Library.Placeholders
import AuthClaw.Library.Streaming
import AuthClaw.Redaction.PythonRedactor

/-!
# The token stream behind the chat

{lit}`stream_redact_sensitive_tokens` holds back the last characters of what has
arrived.  It puts out the rest redacted, or as it is when a cheap test finds no hint;
the asynchronous copy does the same.  Does the stream come out as the redaction of the
whole text?

Main results:

- Theorem {lit}`async_eq_sync`: the two copies agree on every stream.
- Theorem {lit}`redactWith_append`: two texts between which no match lies are redacted
  apart.
- Theorem {lit}`stream_eq_buffer`: a stream comes out as the redaction of the whole text
  when no match crosses what a token puts out.
- Theorem {lit}`name_put_out_in_clear`: a name that is put out before its keyword ends.
-/

namespace AuthClaw.Redaction.TokenStream

open Regex CharClass PythonText Streaming AuthClaw.Detection AuthClaw.Policy

/-! ## The stream -/

/-- `STREAM_HINT_WORDS` -/
def streamHintWords : List String :=
  ["@", "sk-", "akia", "asia", "aroa", "anpa", "aiza", "bearer", "eyj", "api_key", "api-key",
    "secret=", "secret:", "token=", "token:", "access_token", "refresh_token", "password=",
    "password:", "client_secret", "ssn", "social security", "passport", "medical record",
    "patient", "diagnosis", "health history", "routing number", "credit card", "pin ",
    "ignore previous", "reveal system prompt", "developer mode", "jailbreak", "system prompt",
    "hidden_metadata"]

/-- `_stream_needs_redaction_scan` -/
def streamNeedsRedactionScan (unicode : PyUnicode) (value : List Char) : Bool :=
  streamHintWords.any (containsText (unicode.lower value)) || 4 ≤ value.countP unicode.isDigit

/-- `_stream_holdback_size`, given the number in the environment if it is one. -/
def streamHoldbackSize (rawValue : Option Int) : Int :=
  match rawValue with
  | some n => max 64 (min 4096 n)
  | none => 256

/-- `holdback_chars or _stream_holdback_size()` -/
def holdbackOf (holdbackChars rawValue : Option Int) : Int :=
  match holdbackChars with
  | some n => if n = 0 then streamHoldbackSize rawValue else n
  | none => streamHoldbackSize rawValue

section

variable (redactor : Redactor) (policies : List DbPolicy)

/-- `_redact_stream_buffer`, without the findings. -/
def redactStreamBuffer (buffer : List Char) : Except PyError (List Char) :=
  redactSensitiveDataRich redactor policies false buffer

variable (holdback : Int)

/-- `stream_redact_sensitive_tokens` from a pending text on: the texts it yields, one
after the other. -/
def streamRedactSensitiveTokens (pending : List Char) :
    List (Option (List Char)) → Except PyError (List Char)
  | [] => if pending = [] then .ok [] else redactStreamBuffer redactor policies pending
  | none :: rest => streamRedactSensitiveTokens pending rest
  | some token :: rest =>
      let pending := pending ++ token
      if pending.length ≤ holdback then streamRedactSensitiveTokens pending rest
      else if streamNeedsRedactionScan redactor.detector.unicode pending = false then do
        let sliceIdx := (pending.length - holdback).toNat
        let later ← streamRedactSensitiveTokens (pending.drop sliceIdx) rest
        .ok (pending.take sliceIdx ++ later)
      else do
        let redactedPending ← redactStreamBuffer redactor policies pending
        let sliceIdx : Int := redactedPending.length - holdback
        if 0 < sliceIdx then do
          let later ← streamRedactSensitiveTokens (redactedPending.drop sliceIdx.toNat) rest
          .ok (redactedPending.take sliceIdx.toNat ++ later)
        else streamRedactSensitiveTokens pending rest

/-- `async_stream_redact_sensitive_tokens` -/
def asyncStreamRedactSensitiveTokens (pending : List Char) :
    List (Option (List Char)) → Except PyError (List Char)
  | [] => if pending = [] then .ok [] else redactStreamBuffer redactor policies pending
  | none :: rest => asyncStreamRedactSensitiveTokens pending rest
  | some token :: rest =>
      let pending := pending ++ token
      if pending.length ≤ holdback then asyncStreamRedactSensitiveTokens pending rest
      else if streamNeedsRedactionScan redactor.detector.unicode pending = false then do
        let sliceIdx := (pending.length - holdback).toNat
        let later ← asyncStreamRedactSensitiveTokens (pending.drop sliceIdx) rest
        .ok (pending.take sliceIdx ++ later)
      else do
        let redactedPending ← redactStreamBuffer redactor policies pending
        let sliceIdx : Int := redactedPending.length - holdback
        if 0 < sliceIdx then do
          let later ← asyncStreamRedactSensitiveTokens (redactedPending.drop sliceIdx.toNat) rest
          .ok (redactedPending.take sliceIdx.toNat ++ later)
        else asyncStreamRedactSensitiveTokens pending rest

/-- The two copies agree on every stream. -/
theorem async_eq_sync (pending : List Char) (tokens : List (Option (List Char))) :
    asyncStreamRedactSensitiveTokens redactor policies holdback pending tokens =
      streamRedactSensitiveTokens redactor policies holdback pending tokens := by
  induction tokens generalizing pending with
  | nil => rfl
  | cons token rest ih =>
      cases token with
      | none => exact ih pending
      | some token =>
          unfold asyncStreamRedactSensitiveTokens streamRedactSensitiveTokens
          simp only [ih]

end

/-! ## Redacting apart -/

section

variable (redactor : Redactor)

/-- What a class accepts. -/
abbrev accepts : CharClass → Char → Bool :=
  redactor.detector.unicode.accepts

/-- Each pass finds in its two texts what it finds in the two together. -/
def PassesApart : List PyPass → List Char → List Char → Prop
  | [], _, _ => True
  | p :: rest, left, right =>
      tokens (accepts redactor) p.pattern (left ++ right) =
          tokens (accepts redactor) p.pattern left ++ tokens (accepts redactor) p.pattern right ∧
        PassesApart rest (p.sub redactor plainCells left) (p.sub redactor plainCells right)

variable (e : Enforced)

instance decidablePassesApart (passes : List PyPass) (left right : List Char) :
    Decidable (PassesApart redactor passes left right) :=
  match passes with
  | [] => isTrue trivial
  | p :: rest =>
      have := decidablePassesApart rest (p.sub redactor plainCells left)
        (p.sub redactor plainCells right)
      inferInstanceAs (Decidable (_ ∧ _))

/-- No match crosses the cut between the two texts. -/
def CutBetween (left right : List Char) : Prop :=
  FindsApart redactor.detector left right ∧
    PassesApart redactor e.passes (redactor.detector.redact left false)
      (redactor.detector.redact right false)

/-- No pattern matches in the text. -/
def Unmatched (text : List Char) : Prop :=
  (∀ p ∈ customPatterns, ¬ Occurs (accepts redactor) p.pattern text) ∧
    redactor.detector.enterpriseFindings text = [] ∧
    ∀ p ∈ e.passes, ¬ Occurs (accepts redactor) p.pattern text

instance (left right : List Char) : Decidable (CutBetween redactor e left right) :=
  inferInstanceAs (Decidable (_ ∧ _))

instance (text : List Char) : Decidable (Unmatched redactor e text) :=
  inferInstanceAs (Decidable (_ ∧ _ ∧ _))

variable {redactor e}

theorem sub_eq (p : PyPass) (text : List Char) :
    p.sub redactor plainCells text = replaceAll (accepts redactor) p.pattern
      (fun groups => p.rewrite.apply redactor plainCells groups) text :=
  rfl

theorem sub_of_not_occurs {p : PyPass} {text : List Char}
    (h : ¬ Occurs (accepts redactor) p.pattern text) : p.sub redactor plainCells text = text :=
  replaceAll_of_not_occurs h _

theorem runPasses_of_none_occurs {passes : List PyPass} {text : List Char}
    (h : ∀ p ∈ passes, ¬ Occurs (accepts redactor) p.pattern text) :
    runPasses redactor plainCells passes text = text := by
  unfold runPasses
  induction passes with
  | nil => rfl
  | cons p rest ih =>
      rw [List.foldl_cons, sub_of_not_occurs (h p (by simp))]
      exact ih (fun q hq => h q (by simp [hq]))

/-- Two texts between which no match of a pass lies are rewritten apart; the induction
is on the passes. -/
theorem runPasses_append {passes : List PyPass} {left right : List Char}
    (h : PassesApart redactor passes left right) :
    runPasses redactor plainCells passes (left ++ right) =
      runPasses redactor plainCells passes left ++ runPasses redactor plainCells passes right := by
  induction passes generalizing left right with
  | nil => rfl
  | cons p rest ih =>
      rcases h with ⟨htokens, hrest⟩
      have hsub : p.sub redactor plainCells (left ++ right) =
          p.sub redactor plainCells left ++ p.sub redactor plainCells right := by
        rw [sub_eq, sub_eq, sub_eq]
        unfold replaceAll
        rw [htokens, List.flatMap_append]
      change runPasses redactor plainCells rest (p.sub redactor plainCells (left ++ right)) = _
      rw [hsub, ih hrest]
      rfl

/-- Two texts between which no match lies are redacted apart. -/
theorem redactWith_append {left right : List Char} (h : CutBetween redactor e left right) :
    redactWith redactor e false (left ++ right) =
      redactWith redactor e false left ++ redactWith redactor e false right := by
  unfold redactWith
  rw [redact_append h.1, runPasses_append h.2]

theorem inspect_of_unmatched {text : List Char} (h : Unmatched redactor e text) :
    redactor.detector.inspect text false = [] := by
  have hcustom : customFindings redactor.detector.unicode text = [] := by
    unfold customFindings
    rw [List.flatMap_eq_nil_iff]
    exact fun p hp => findingsOf_eq_nil_iff.mpr (h.1 p hp)
  rw [inspect_eq, dedupe_eq_nil_iff, Detector.findings, hcustom, h.2.1]
  rfl

/-- A text in which nothing matches is unchanged. -/
theorem redactWith_of_unmatched {text : List Char} (h : Unmatched redactor e text) :
    redactWith redactor e false text = text := by
  unfold redactWith
  rw [Detector.redact_of_no_findings (inspect_of_unmatched h), runPasses_of_none_occurs h.2.2]

end

/-! ## Safe tokens -/

section

variable (redactor : Redactor) (e : Enforced) (holdback : Int)

/-- What a text of some length puts out. -/
def sliceIdx (length : Nat) : Nat :=
  (length - holdback).toNat

/-- What a token puts out and what it leaves pending. -/
def step (pending : List Char) (token : Option (List Char)) : List Char × List Char :=
  match token with
  | none => ([], pending)
  | some token =>
      let pending := pending ++ token
      if pending.length ≤ holdback then ([], pending)
      else if streamNeedsRedactionScan redactor.detector.unicode pending = false then
        (pending.take (sliceIdx holdback pending.length),
          pending.drop (sliceIdx holdback pending.length))
      else
        let redactedPending := redactWith redactor e false pending
        if holdback < redactedPending.length then
          (redactedPending.take (sliceIdx holdback redactedPending.length),
            redactedPending.drop (sliceIdx holdback redactedPending.length))
        else ([], pending)

/-- What the end of the stream puts out. -/
def finish (pending : List Char) : List Char :=
  if pending = [] then [] else redactWith redactor e false pending

/-- A text that is put out as it is has no match, and none crosses its end. -/
def SafeUnscanned (pending coming : List Char) : Prop :=
  Unmatched redactor e (pending.take (sliceIdx holdback pending.length)) ∧
    CutBetween redactor e (pending.take (sliceIdx holdback pending.length))
      (pending.drop (sliceIdx holdback pending.length) ++ coming)

/-- The pending text can be cut where no match crosses, now or with what is coming:
nothing matches yet after the cut, nothing after the cut is put out, and what is kept of
the part before the cut does not match again. -/
def SafeScanned (pending coming : List Char) : Prop :=
  ∃ settled waiting, pending = settled ++ waiting ∧
    CutBetween redactor e settled waiting ∧ CutBetween redactor e settled (waiting ++ coming) ∧
    Unmatched redactor e waiting ∧
    let redacted := redactWith redactor e false settled
    let slice := sliceIdx holdback (redacted ++ waiting).length
    slice ≤ redacted.length ∧ Unmatched redactor e (redacted.drop slice) ∧
      CutBetween redactor e (redacted.drop slice) (waiting ++ coming)

/-- A token with which something is put out is safe. -/
def SafeToken (pending : List Char) (token : Option (List Char)) (coming : List Char) : Prop :=
  match token with
  | none => True
  | some token =>
      holdback < (pending ++ token).length →
        if streamNeedsRedactionScan redactor.detector.unicode (pending ++ token) = false then
          SafeUnscanned redactor e holdback (pending ++ token) coming
        else
          holdback < (redactWith redactor e false (pending ++ token)).length →
            SafeScanned redactor e holdback (pending ++ token) coming

/-- The text of a token. -/
def tokenText (token : Option (List Char)) : List Char :=
  token.getD []

/-- The recognizers that are configured find nothing in the empty text, and every token
is safe. -/
def SafeStream (tokens : List (Option (List Char))) : Prop :=
  redactor.detector.enterpriseFindings [] = [] ∧
    Throughout tokenText (step redactor e holdback) (SafeToken redactor e holdback) [] tokens

variable {redactor e holdback}

theorem unmatched_nil (h : redactor.detector.enterpriseFindings [] = []) :
    Unmatched redactor e [] := by
  have hnone : ∀ pattern : Pattern CharClass, ¬ Occurs (accepts redactor) pattern [] := by
    intro pattern hoccurs
    rcases (exists_hit_iff pattern []).mpr hoccurs with ⟨us, hmem⟩
    cases hmem
  exact ⟨fun p _ => hnone p.pattern, h, fun p _ => hnone p.pattern⟩

theorem finish_eq (h : redactor.detector.enterpriseFindings [] = []) (pending : List Char) :
    finish redactor e pending = redactWith redactor e false pending := by
  unfold finish
  split
  · rename_i hnil
    rw [hnil, redactWith_of_unmatched (unmatched_nil h)]
  · rfl

/-- A safe token is faithful to the redaction of the whole text. -/
theorem faithful_of_safeToken {pending : List Char} {token : Option (List Char)}
    {coming : List Char} (h : SafeToken redactor e holdback pending token coming) :
    Faithful tokenText (step redactor e holdback) (redactWith redactor e false) pending token
      coming := by
  unfold Faithful
  cases token with
  | none =>
      change [] ++ _ = redactWith redactor e false (pending ++ [] ++ coming)
      rw [List.append_nil]
      rfl
  | some token =>
      change _ = redactWith redactor e false (pending ++ token ++ coming)
      unfold SafeToken at h
      unfold step
      simp only
      by_cases hshort : ((pending ++ token).length : Int) ≤ holdback
      · rw [if_pos hshort]
        rfl
      · rw [if_neg hshort]
        have hsafe := h (Int.lt_of_not_ge hshort)
        by_cases hscan :
            streamNeedsRedactionScan redactor.detector.unicode (pending ++ token) = false
        · -- what is put out as it is would not be changed
          rw [if_pos hscan] at hsafe ⊢
          rcases hsafe with ⟨hunmatched, hcut⟩
          have hwhole := List.take_append_drop (sliceIdx holdback (pending ++ token).length)
            (pending ++ token)
          conv_rhs => rw [← hwhole]
          rw [List.append_assoc, redactWith_append hcut, redactWith_of_unmatched hunmatched]
        · rw [if_neg hscan] at hsafe ⊢
          by_cases hlong : holdback <
              ((redactWith redactor e false (pending ++ token)).length : Int)
          · rw [if_pos hlong]
            rcases hsafe hlong with
              ⟨settled, waiting, hpending, hnow, hlater, hwaiting, hslice, hkept, hcut⟩
            have hredacted : redactWith redactor e false (pending ++ token) =
                redactWith redactor e false settled ++ waiting := by
              rw [hpending, redactWith_append hnow, redactWith_of_unmatched hwaiting]
            simp only [hredacted]
            rw [List.take_append_of_le_length hslice, List.drop_append_of_le_length hslice,
              hpending, List.append_assoc, List.append_assoc]
            exact faithful_of_cut (redactWith_append hlater)
              (List.take_append_drop _ (redactWith redactor e false settled)).symm
              ((redactWith_append hcut).trans (by rw [redactWith_of_unmatched hkept]))
          · rw [if_neg hlong]
            rfl

/-- With rules that can be read, the stream does what its steps do. -/
theorem stream_eq_output {policies : List DbPolicy} (henforced : enforcedTypes policies = .ok e)
    (pending : List Char) (tokens : List (Option (List Char))) :
    streamRedactSensitiveTokens redactor policies holdback pending tokens =
      .ok (output (step redactor e holdback) (finish redactor e) pending tokens) := by
  have hbuffer : ∀ text, redactStreamBuffer redactor policies text =
      .ok (redactWith redactor e false text) := by
    intro text
    unfold redactStreamBuffer redactSensitiveDataRich
    rw [henforced]
    rfl
  induction tokens generalizing pending with
  | nil =>
      unfold streamRedactSensitiveTokens output finish
      rw [hbuffer]
      split
      · rfl
      · rfl
  | cons token rest ih =>
      cases token with
      | none => exact ih pending
      | some token =>
          unfold streamRedactSensitiveTokens output step
          simp only [ih, hbuffer, bind, Except.bind, sliceIdx]
          split
          · rfl
          · split
            · rfl
            · by_cases hlong : holdback <
                  ((redactWith redactor e false (pending ++ token)).length : Int)
              · rw [if_pos hlong, if_pos (Int.sub_pos_of_lt hlong)]
                rfl
              · rw [if_neg hlong, if_neg (fun hpos => hlong (Int.lt_of_sub_pos hpos))]
                rfl

/-- A stream comes out as the redaction of the whole text when every token is safe. -/
theorem stream_eq_buffer (redactor : Redactor) (policies : List DbPolicy) (e : Enforced)
    (henforced : enforcedTypes policies = .ok e) (holdback : Int)
    (tokens : List (Option (List Char))) (h : SafeStream redactor e holdback tokens) :
    streamRedactSensitiveTokens redactor policies holdback [] tokens =
        redactStreamBuffer redactor policies (tokens.flatMap tokenText) ∧
      asyncStreamRedactSensitiveTokens redactor policies holdback [] tokens =
        redactStreamBuffer redactor policies (tokens.flatMap tokenText) := by
  have hrun := output_eq (finish_eq h.1)
    (h.2.imp (fun _ _ _ hsafe => faithful_of_safeToken hsafe))
  have hsync : streamRedactSensitiveTokens redactor policies holdback [] tokens =
      redactStreamBuffer redactor policies (tokens.flatMap tokenText) := by
    rw [stream_eq_output henforced, hrun, List.nil_append]
    unfold redactStreamBuffer redactSensitiveDataRich
    rw [henforced]
    rfl
  exact ⟨hsync, (async_eq_sync redactor policies holdback [] tokens).trans hsync⟩

end

/-! ## An address and a name -/

/-- A redactor without configuration. -/
def bareRedactor : Redactor where
  detector :=
    { unicode := asciiUnicode
      py := asciiText
      config := defaultSensitivePolicy
      fingerprint := fun _ => ""
      enterpriseFindings := fun _ => []
      presidioFindings := fun _ => []
      anonymizer := none }
  fingerprint := fun _ => ""
  redactionRules := []

/-- No policy type asks for redaction. -/
def noneEnforced : Enforced where
  gdpr := false
  hipaa := false
  soc2 := false

/-- The tokens of a text with an address. -/
def addressTokens : List (Option (List Char)) :=
  [some "mail a@b.co now ".toList, none, some "then".toList]

/-- An address that a blank follows is replaced before the rest arrives. -/
theorem address_redacted :
    streamRedactSensitiveTokens bareRedactor [] 3 [] addressTokens =
        redactStreamBuffer bareRedactor [] (addressTokens.flatMap tokenText) ∧
      asyncStreamRedactSensitiveTokens bareRedactor [] 3 [] addressTokens =
        redactStreamBuffer bareRedactor [] (addressTokens.flatMap tokenText) := by
  refine stream_eq_buffer bareRedactor [] noneEnforced rfl 3 addressTokens
    ⟨rfl, ?_, trivial, ?_, trivial⟩
  · intro _
    rw [if_neg (by decide +kernel)]
    intro _
    refine ⟨"mail a@b.co now ".toList, [], rfl, ?_⟩
    decide +kernel
  · intro _
    rw [if_pos (by decide +kernel)]
    refine ⟨?_, ?_⟩ <;> decide +kernel

/-- The test knows no hint for a name, which is put out as it is. -/
theorem name_put_out_in_clear :
    ¬ ∀ (redactor : Redactor) (policies : List DbPolicy) (holdback : Int)
      (tokens : List (Option (List Char))),
      streamRedactSensitiveTokens redactor policies holdback [] tokens =
        redactStreamBuffer redactor policies (tokens.flatMap tokenText) := by
  intro h
  have hsame := h bareRedactor [] 1 [some "name: John".toList, some " Smith".toList]
  revert hsame
  decide +kernel

end AuthClaw.Redaction.TokenStream
