import AuthClaw.Detection.Findings
import AuthClaw.Library.PythonText
import Mathlib.Data.List.TakeWhile

/-!
# What happens to a kept finding

{lit}`action_for` chooses an action from the sensitive-data section of the policy
file, and {lit}`replacement_for` the text that takes the place of the value.
Presidio's anonymizer and the fingerprint service are parameters.

Main results:

- Theorem {lit}`replacementFor_allow`: an allowed value stays in clear.
- Theorem {lit}`length_mask`: a masked value keeps its length.
-/

namespace AuthClaw.Detection

open PythonText

/-- `SECRET_TYPES`. -/
def secretTypes : List String :=
  ["openai_api_key", "google_api_key", "aws_access_key", "jwt_token", "bearer_token",
    "api_key_param", "secret_param", "token_param", "access_token", "private_key"]

/-- The `sensitive_data` section, with the defaults of `action_for` filled in. -/
structure SensitivePolicy where
  actions : List (String × String)
  approvalConfidenceThreshold : Rat
  defaultAction : String

/-- The section when the policy file has none. -/
def defaultSensitivePolicy : SensitivePolicy where
  actions := []
  approvalConfidenceThreshold := 101 / 100
  defaultAction := "redact"

/-- `action_for`. -/
def actionFor (config : SensitivePolicy) (entityType : String) (confidence : Rat) : String :=
  match config.actions.lookup entityType with
  | some action => action
  | none =>
      if entityType ∈ secretTypes then (config.actions.lookup "secrets").getD "block"
      else if config.approvalConfidenceThreshold ≤ confidence then "require_approval"
      else config.defaultAction

/-- The action of a finding. -/
def SensitiveFinding.action (config : SensitivePolicy) (f : SensitiveFinding) : String :=
  actionFor config f.entityType f.confidence

/-- `'*' * n`. -/
def stars (n : Nat) : List Char :=
  List.replicate n '*'

/-- The first and the last character of a value, with stars between them. -/
def maskMiddle (value : List Char) : List Char :=
  value.take 1 ++ stars (value.length - 2) ++ value.drop (value.length - 1)

section

variable (py : PyText) (isDigit : Char → Bool) (fingerprint : List Char → String)
  (anonymizer : Option (SensitiveFinding → List Char → Option (List Char)))

/-- The digits of a value except the last `visible` of them, as stars. -/
def maskDigits (hidden : Nat) : List Char → List Char
  | [] => []
  | c :: rest =>
      if isDigit c then
        (if hidden = 0 then c else '*') :: maskDigits (hidden - 1) rest
      else c :: maskDigits hidden rest

/-- `mask`. -/
def mask (entityType : String) (value : List Char) : List Char :=
  if entityType = "email" ∧ '@' ∈ value then
    let name := value.takeWhile (· ≠ '@')
    let domain := value.drop (name.length + 1)
    (if name.length ≤ 2 then stars name.length else maskMiddle name) ++ '@' :: domain
  else if entityType ∈ ["aadhaar", "credit_card", "phone"] then
    let digits := value.countP isDigit
    maskDigits isDigit (if 4 ≤ digits then digits - 4 else digits) value
  else if value.length ≤ 4 then stars value.length
  else maskMiddle value

/-- `_presidio_anonymized_value`. -/
def presidioAnonymizedValue (finding : SensitiveFinding) (action : String) :
    Option (List Char) :=
  match anonymizer with
  | none => none
  | some anonymize =>
      if action ∈ ["redact", "mask"] then
        anonymize finding
          (if action = "mask" then mask isDigit finding.entityType finding.value
            else "[REDACTED]".toList)
      else none

/-- `replacement_for`. -/
def replacementFor (finding : SensitiveFinding) (action : String) : List Char :=
  let anonymized :=
    if finding.source = "presidio" then
      presidioAnonymizedValue isDigit anonymizer finding action
    else none
  match anonymized with
  | some text => text
  | none =>
      if action = "allow" then finding.value
      else if action = "block" then ("[BLOCKED_" ++ py.upper finding.entityType ++ "]").toList
      else if action = "require_approval" then
        ("[APPROVAL_REQUIRED_" ++ py.upper finding.entityType ++ "]").toList
      else if action = "hash" then ("[HASH_" ++ fingerprint finding.value ++ "]").toList
      else if action = "tokenize" then
        ("[TOKEN_" ++ py.upper finding.entityType ++ "_" ++ fingerprint finding.value ++
          "]").toList
      else if action = "mask" then mask isDigit finding.entityType finding.value
      else "[REDACTED]".toList

/-- An allowed value stays in clear. -/
theorem replacementFor_allow (finding : SensitiveFinding) :
    replacementFor py isDigit fingerprint anonymizer finding "allow" = finding.value := by
  have hnone : presidioAnonymizedValue isDigit anonymizer finding "allow" = none := by
    unfold presidioAnonymizedValue
    cases anonymizer with
    | none => rfl
    | some anonymize => exact if_neg (by decide)
  unfold replacementFor
  rw [hnone, ite_self]
  rfl

variable {isDigit}

theorem length_maskDigits (hidden : Nat) (value : List Char) :
    (maskDigits isDigit hidden value).length = value.length := by
  induction value generalizing hidden with
  | nil => rfl
  | cons c rest ih =>
      unfold maskDigits
      by_cases hdigit : isDigit c = true
      · rw [if_pos hdigit, List.length_cons, ih, List.length_cons]
      · rw [if_neg hdigit, List.length_cons, ih, List.length_cons]

theorem length_maskMiddle {value : List Char} (h : 2 ≤ value.length) :
    (maskMiddle value).length = value.length := by
  unfold maskMiddle stars
  simp only [List.length_append, List.length_take, List.length_replicate, List.length_drop]
  omega

/-- A masked value keeps its length. -/
theorem length_mask (entityType : String) (value : List Char) :
    (mask isDigit entityType value).length = value.length := by
  unfold mask
  by_cases hemail : entityType = "email" ∧ '@' ∈ value
  · rw [if_pos hemail]
    simp only
    have hsplit : (value.takeWhile (· ≠ '@')).length < value.length := by
      have hrest : value.dropWhile (· ≠ '@') ≠ [] := by
        intro hnil
        have hall := List.dropWhile_eq_nil_iff.mp hnil '@' hemail.2
        simp at hall
      have hboth := congrArg List.length (@List.takeWhile_append_dropWhile _ (· ≠ '@') value)
      rw [List.length_append] at hboth
      have hpos := List.length_pos_of_ne_nil hrest
      omega
    by_cases hshort : (value.takeWhile (· ≠ '@')).length ≤ 2
    · rw [if_pos hshort]
      simp only [stars, List.length_append, List.length_replicate, List.length_cons,
        List.length_drop]
      omega
    · rw [if_neg hshort]
      simp only [List.length_append, List.length_cons, List.length_drop]
      rw [length_maskMiddle (by omega)]
      omega
  · rw [if_neg hemail]
    by_cases hdigits : entityType ∈ ["aadhaar", "credit_card", "phone"]
    · rw [if_pos hdigits]
      exact length_maskDigits _ _
    · rw [if_neg hdigits]
      by_cases hshort : value.length ≤ 4
      · rw [if_pos hshort]
        exact List.length_replicate
      · rw [if_neg hshort]
        exact length_maskMiddle (by omega)

end

end AuthClaw.Detection
