import AuthClaw.Detection.Detector
import AuthClaw.Policy.Loaders

/-!
# The redactor behind the chat

{lit}`redact_sensitive_data_rich` runs the detector, then the patterns of the tenant
policies that ask for it, then the baseline patterns of the policy file.  Only the
text is modelled, not the list of triggered policies.

The passes run over cells, which are characters or carry more than a character, so
that it can be told which characters of a text are still there afterwards.
-/

namespace AuthClaw.Redaction

open Regex CharClass PythonText AuthClaw.Detection AuthClaw.Policy

/-! ## Cells -/

/-- Texts whose elements stand for characters. -/
structure Cells (α : Type) where
  char : α → Char
  written : Char → α
  char_written : ∀ c, char (written c) = c

/-- Characters stand for themselves. -/
def plainCells : Cells Char where
  char := id
  written := id
  char_written _ := rfl

/-- A text that the redactor writes. -/
def Cells.literal {α : Type} (cells : Cells α) (text : String) : List α :=
  text.toList.map cells.written

/-! ## Patterns -/

/-- `\d{m,n}` -/
def digitsBetween (m n : Nat) : Regex CharClass :=
  between (.one digitClass) m n

/-- `.` -/
def anyClass : CharClass :=
  { oneOf "\n" with negated := true }

/-- `(\s+(?:…)?\s*)` -/
def keywordGap (words : List String) : Regex CharClass :=
  seqs [someSpaces, opt (caselessWords words), spaces]

/-- `([A-Za-z0-9_-]+)` in any case. -/
def keywordValue : Regex CharClass :=
  atLeast (alnumAnd "_-").caseless 1

/-- The groups of a keyword pattern. -/
def keywordParts (keywords gap : List String) : List (Regex CharClass) :=
  [seqs [wordBoundary, caselessWords keywords], keywordGap gap, seqs [keywordValue, wordBoundary]]

/-- `GDPR_PATTERNS["ssn_raw"]`, which is also `SOC2_PATTERNS["routing"]`. -/
def nineDigits : Regex CharClass :=
  seqs [wordBoundary, digits 9, wordBoundary]

/-- `GDPR_PATTERNS["passport"]` -/
def passportNumber : Regex CharClass :=
  seqs [wordBoundary, between (.one letterClass) 1 2, digitsBetween 7 9, wordBoundary]

/-- `HIPAA_PATTERNS["medical_record"]` -/
def medicalRecordNumber : Regex CharClass :=
  seqs [wordBoundary, caselessWords ["MR", "EMR", "PT", "PID", "PATIENT", "PATIENTID"],
    caselessMaybe "- ", digitsBetween 4 8, wordBoundary]

/-- `SOC2_PATTERNS["card_digits"]` -/
def cardDigits : Regex CharClass :=
  seqs [wordBoundary, digitsBetween 13 19, wordBoundary]

/-- The groups of `SOC2_PATTERNS["pin_near"]`. -/
def pinNearParts : List (Regex CharClass) :=
  [seqs [wordBoundary, caselessWords ["pin", "pin number", "personal identification number"],
      wordBoundary, between (.one anyClass.caseless) 1 15, wordBoundary],
    digitsBetween 4 6, wordBoundary]

/-- `BASELINE_PATTERNS["email"]` -/
def baselineEmail : Regex CharClass :=
  seqs [atLeast (wordAnd ".-") 1, lits "@", atLeast (wordAnd ".-") 1, lits ".",
    atLeast wordClass 1]

/-- `BASELINE_PATTERNS["aadhaar"]` -/
def baselineAadhaar : Regex CharClass :=
  seqs [wordBoundary, digits 4, maybeDashOrSpace, digits 4, maybeDashOrSpace, digits 4,
    wordBoundary]

/-- `BASELINE_PATTERNS["phone"]` -/
def baselinePhone : Regex CharClass :=
  seqs [wordBoundary, digits 10, wordBoundary]

theorem one_le_baselineEmail : 1 ≤ baselineEmail.minLength := by
  decide +kernel

theorem one_le_baselineAadhaar : 1 ≤ baselineAadhaar.minLength := by
  decide +kernel

theorem one_le_baselinePhone : 1 ≤ baselinePhone.minLength := by
  decide +kernel

/-! ## Passes -/

/-- The redactor, with what it reads from its surroundings. -/
structure Redactor where
  detector : Detector
  /-- `_redaction_fingerprint` -/
  fingerprint : List Char → String
  /-- The `redaction` section of the policy file; empty when there is none. -/
  redactionRules : List (String × String)

section

variable {α : Type} (redactor : Redactor) (cells : Cells α)

/-- The digits of a value except the last of them, as stars. -/
def starDigits (hidden : Nat) : List α → List α
  | [] => []
  | a :: rest =>
      if redactor.detector.unicode.isDigit (cells.char a) then
        (if hidden = 0 then a else cells.written '*') :: starDigits (hidden - 1) rest
      else a :: starDigits hidden rest

/-- `val.split("@", 1)`, masked; the `@` stays in clear. -/
def maskAddress (val : List α) : List α :=
  let name := val.takeWhile (fun a => cells.char a ≠ '@')
  let domain := val.drop name.length
  if 2 < name.length then
    name.take 1 ++ List.replicate (name.length - 2) (cells.written '*') ++
      name.drop (name.length - 1) ++ domain
  else List.replicate name.length (cells.written '*') ++ domain

/-- The last branches of `apply_redaction`. -/
def fallbackRedaction (field : String) (val : List α) : List α :=
  if field = "email" then cells.literal "[REDACTED_EMAIL]"
  else if field = "phone" then cells.literal "[REDACTED_PHONE]"
  else if field = "aadhaar" then cells.literal "[REDACTED_AADHAAR]"
  else if field = "credit_card" then cells.literal "[REDACTED_CARD]"
  else val

/-- `apply_redaction` -/
def applyRedaction (field : String) (val : List α) (action : String) : List α :=
  let actionLower := redactor.detector.py.lower action
  if actionLower = "mask" then
    if field = "email" then
      if val.any (fun a => cells.char a = '@') then maskAddress cells val
      else cells.literal "***"
    else if field = "phone" then cells.literal "******" ++ val.drop (val.length - 4)
    else if field = "aadhaar" ∨ field = "credit_card" then
      starDigits redactor cells
        (val.countP (fun a => redactor.detector.unicode.isDigit (cells.char a)) - 4) val
    else fallbackRedaction cells field val
  else if actionLower = "hash" then
    cells.literal ("[HASH_" ++ redactor.fingerprint (val.map cells.char) ++ "]")
  else if actionLower = "synthetic" then
    if field = "email" then cells.literal "synthetic.email@example.com"
    else if field = "phone" then cells.literal "555-019-9283"
    else if field = "aadhaar" then cells.literal "0000 0000 0000"
    else if field = "credit_card" then cells.literal "4111-1111-1111-1111"
    else fallbackRedaction cells field val
  else fallbackRedaction cells field val

/-- `text.replace(needle, new)`; the number bounds the length of the text. -/
def replaceNeedle (needle : List Char) (new : List α) : Nat → List α → List α
  | 0, rest => rest
  | _ + 1, [] => []
  | n + 1, a :: rest =>
      if needle.isPrefixOf ((a :: rest).map cells.char) then
        new ++ replaceNeedle needle new n ((a :: rest).drop needle.length)
      else a :: replaceNeedle needle new n rest

/-- What a pass writes for a match, given its groups. -/
inductive Rewrite where
  | redacted
  | keepKeyword
  | pinDigits
  | baseline (field : String)
deriving DecidableEq

/-- A substitution of the redactor. -/
structure PyPass where
  parts : List (Regex CharClass)
  rewrite : Rewrite
  consuming : 1 ≤ (parts.map minLength).sum

/-- The compiled expression of a pass. -/
def PyPass.pattern (p : PyPass) : Pattern CharClass where
  parts := p.parts
  consuming := p.consuming

/-- The action that the policy file gives for a baseline field. -/
def Redactor.baselineAction (field : String) : String :=
  (redactor.redactionRules.lookup field).getD "redact"

/-- What a match is replaced by. -/
def Rewrite.apply (groups : List (List α)) : Rewrite → List α
  | .redacted => cells.literal "[REDACTED]"
  | .keepKeyword => groups.getD 0 [] ++ groups.getD 1 [] ++ cells.literal "[REDACTED]"
  | .pinDigits =>
      replaceNeedle cells ((groups.getD 1 []).map cells.char) (cells.literal "[REDACTED]")
        groups.flatten.length groups.flatten
  | .baseline field => applyRedaction redactor cells field groups.flatten
      (redactor.baselineAction field)

/-- `pattern.sub` -/
def PyPass.sub (p : PyPass) (text : List α) : List α :=
  replaceAll (through cells.char redactor.detector.unicode.accepts) p.pattern
    (fun groups => p.rewrite.apply redactor cells groups) text

/-- One substitution after the other. -/
def runPasses (passes : List PyPass) (text : List α) : List α :=
  passes.foldl (fun text p => p.sub redactor cells text) text

end

/-- A pass that writes `[REDACTED]` for its matches. -/
def redactedPass (r : Regex CharClass) (h : 1 ≤ r.minLength) : PyPass where
  parts := [r]
  rewrite := .redacted
  consuming := one_le_single h

/-- The substitutions of a GDPR policy. -/
def gdprPasses : List PyPass :=
  [redactedPass dashedSsn one_le_dashedSsn, redactedPass nineDigits (by decide +kernel),
    redactedPass passportNumber (by decide +kernel),
    { parts := keywordParts ["passport", "ssn", "social security number"]
        ["number", "no", "code", "is", "of", ":"]
      rewrite := .keepKeyword
      consuming := by decide +kernel }]

/-- The substitutions of a HIPAA policy. -/
def hipaaPasses : List PyPass :=
  [redactedPass medicalRecordNumber (by decide +kernel),
    { parts := keywordParts ["medical record", "diagnosis", "diagnoses", "health history",
          "patient identifier", "patient identifiers"]
        ["number", "no", "code", "is", "of", "includes", ":"]
      rewrite := .keepKeyword
      consuming := by decide +kernel }]

/-- The substitutions of a SOC2 policy. -/
def soc2Passes : List PyPass :=
  [redactedPass cardBrand one_le_cardBrand, redactedPass cardDelimited one_le_cardDelimited,
    redactedPass cardDigits (by decide +kernel), redactedPass nineDigits (by decide +kernel),
    { parts := keywordParts ["bank routing", "routing number", "pin", "pin number",
          "personal identification number"]
        ["number", "no", "code", "is", "of", "includes", ":"]
      rewrite := .keepKeyword
      consuming := by decide +kernel },
    { parts := pinNearParts
      rewrite := .pinDigits
      consuming := by decide +kernel }]

/-- A baseline substitution. -/
def baselinePass (field : String) (r : Regex CharClass) (h : 1 ≤ r.minLength) : PyPass where
  parts := [r]
  rewrite := .baseline field
  consuming := one_le_single h

/-- The substitutions of the policy file. -/
def baselinePasses : List PyPass :=
  [baselinePass "email" baselineEmail one_le_baselineEmail,
    baselinePass "aadhaar" baselineAadhaar one_le_baselineAadhaar,
    baselinePass "phone" baselinePhone one_le_baselinePhone]

/-! ## Policies -/

/-- `active_types[type]`: the last row of a type. -/
def activeType (policies : List DbPolicy) (type : String) : Option DbPolicy :=
  policies.reverse.find? (fun p => p.type = type)

/-- Whether the active policy of a type asks for redaction; rules that are not an object
have no `get`. -/
def piiRedaction (policies : List DbPolicy) (type : String) : Except PyError Bool :=
  match activeType policies type with
  | none => .ok false
  | some policy =>
      match policy.rules with
      | .obj members => .ok ((getKey members "pii_redaction").any Json.truthy)
      | _ => .error .attributeError

/-- The policy types that ask for redaction. -/
structure Enforced where
  gdpr : Bool
  hipaa : Bool
  soc2 : Bool
deriving DecidableEq

/-- What the rows ask for. -/
def enforcedTypes (policies : List DbPolicy) : Except PyError Enforced := do
  let gdpr ← piiRedaction policies "GDPR"
  let hipaa ← piiRedaction policies "HIPAA"
  let soc2 ← piiRedaction policies "SOC2"
  .ok { gdpr := gdpr, hipaa := hipaa, soc2 := soc2 }

/-- The substitutions that are run. -/
def Enforced.passes (e : Enforced) : List PyPass :=
  (if e.gdpr then gdprPasses else []) ++ (if e.hipaa then hipaaPasses else []) ++
    (if e.soc2 then soc2Passes else []) ++ baselinePasses

section

variable (redactor : Redactor)

/-- The redacted text, given the policy types that ask for redaction. -/
def redactWith (e : Enforced) (usePresidio : Bool) (text : List Char) : List Char :=
  runPasses redactor plainCells e.passes (redactor.detector.redact text usePresidio)

/-- `redact_sensitive_data_rich`, without the triggered policies. -/
def redactSensitiveDataRich (policies : List DbPolicy) (usePresidio : Bool) (text : List Char) :
    Except PyError (List Char) := do
  let e ← enforcedTypes policies
  .ok (redactWith redactor e usePresidio text)

end

end AuthClaw.Redaction
