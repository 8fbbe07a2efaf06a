import AuthClaw.Library.PythonText

/-!
# What a policy server answered

{lit}`_normalize_opa_result` turns the JSON body of an OPA response into a decision.
The body holds the policy object, directly or under {lit}`result`; the object may say
yes or no in several members, and some of them overrule others.

Main results:

- Theorem {lit}`normalizeMembers_allowed`: the normalised flag is false exactly when
  the object refuses.
- Theorem {lit}`normalizeMembers_decision_ne_empty`: the normalised decision is never
  empty.
- Theorem {lit}`normalizeOpaResult_isSome`: only a policy object is normalised.
-/

namespace AuthClaw.Opa

open PythonText

/-! ## The result -/

/-- The result of an OPA evaluation. -/
structure OpaResult where
  allowed : Bool
  decision : String
  reason : Json
  category : Json
  findings : List Json
  riskLevel : Option Json

/-- `value is True`. -/
def isTrue : Option Json → Bool
  | some (.bool true) => true
  | _ => false

/-- `value or default`. -/
def orDefault (value : Option Json) (default : Json) : Json :=
  match value with
  | some v => if v.truthy then v else default
  | none => default

/-- `result.get("allow", result.get("allowed"))`. -/
def allowedValue (members : List (String × Json)) : Option Json :=
  match getKey members "allow" with
  | some v => some v
  | none => getKey members "allowed"

/-- The decisions that refuse when the object carries no flag. -/
def refusingDecisions : List String :=
  ["BLOCK", "DENY", "REQUIRE_APPROVAL"]

/-- The findings: one dictionary stands for a list of one. -/
def findingsOf (members : List (String × Json)) : List Json :=
  match orDefault (orElseJson (getKey members "findings") (getKey members "matched_policies"))
    (.arr []) with
  | .arr items => items
  | .obj finding => [.obj finding]
  | _ => []

section

variable (py : PyText)

/-- `str(result.get("decision") or "").upper()`. -/
def decisionText (members : List (String × Json)) : String :=
  py.upper (py.strOrEmpty (getKey members "decision"))

/-- `allowed`, before the other members overrule it. -/
def flaggedAllowed (members : List (String × Json)) : Bool :=
  match allowedValue members with
  | none => decisionText py members ∉ refusingDecisions
  | some .null => decisionText py members ∉ refusingDecisions
  | some v => v.truthy

/-- `decision` and `allowed` after `block` and `requires_approval`. -/
def verdictOf (members : List (String × Json)) : String × Bool :=
  if isTrue (getKey members "block") then ("BLOCK", false)
  else if isTrue (getKey members "requires_approval") && decisionText py members = "" then
    ("REQUIRE_APPROVAL", false)
  else if decisionText py members = "" then
    (if flaggedAllowed py members then "ALLOW" else "BLOCK", flaggedAllowed py members)
  else (decisionText py members, flaggedAllowed py members)

/-- The result for a policy object. -/
def normalizeMembers (members : List (String × Json)) : OpaResult where
  allowed := (verdictOf py members).2
  decision := (verdictOf py members).1
  reason := orDefault (orElseJson (getKey members "reason") (getKey members "explanation"))
    (.str "OPA policy decision")
  category := orDefault (getKey members "category") (.str "opa")
  findings := findingsOf members
  riskLevel := getKey members "risk_level"

/-- The value of `result`, when the body is a dictionary that has it. -/
def policyValue : Json → Json
  | .obj members =>
      match getKey members "result" with
      | some inner => inner
      | none => .obj members
  | v => v

/-- `_normalize_opa_result`; the empty dictionary is `none`. -/
def normalizeOpaResult (body : Json) : Option OpaResult :=
  match policyValue body with
  | .obj members => some (normalizeMembers py members)
  | _ => none

/-! ## What an object says -/

/-- The flag is not true, or there is none and the decision is a refusing one. -/
def FlagRefuses (members : List (String × Json)) : Prop :=
  match allowedValue members with
  | none => decisionText py members ∈ refusingDecisions
  | some .null => decisionText py members ∈ refusingDecisions
  | some v => v.truthy = false

/-- The object refuses: it blocks, asks for an approval without naming a decision, or
its flag refuses. -/
def Refuses (members : List (String × Json)) : Prop :=
  isTrue (getKey members "block") = true ∨
    (isTrue (getKey members "requires_approval") = true ∧ decisionText py members = "") ∨
    FlagRefuses py members

instance (members : List (String × Json)) : Decidable (FlagRefuses py members) := by
  unfold FlagRefuses
  split <;> infer_instance

instance (members : List (String × Json)) : Decidable (Refuses py members) := by
  unfold Refuses
  infer_instance

/-- The decisions under which the policy module lets a request through. -/
def permissiveDecisions : List String :=
  ["ALLOW", "REDACT"]

/-- The object permits in so many words: a flag is true, or the decision is one that
lets a request through. -/
def Permits (members : List (String × Json)) : Prop :=
  isTrue (getKey members "allow") = true ∨ isTrue (getKey members "allowed") = true ∨
    decisionText py members ∈ permissiveDecisions

instance (members : List (String × Json)) : Decidable (Permits py members) := by
  unfold Permits
  infer_instance

variable {py}

theorem flaggedAllowed_eq_false {members : List (String × Json)} :
    flaggedAllowed py members = false ↔ FlagRefuses py members := by
  unfold flaggedAllowed FlagRefuses
  split
  · simp
  · simp
  · rfl

/-- The normalised flag is false exactly when the object refuses. -/
theorem normalizeMembers_allowed {members : List (String × Json)} :
    (normalizeMembers py members).allowed = false ↔ Refuses py members := by
  unfold Refuses
  rw [← flaggedAllowed_eq_false]
  simp only [normalizeMembers, verdictOf]
  by_cases hblock : isTrue (getKey members "block") = true
  · simp [hblock]
  · by_cases happroval : isTrue (getKey members "requires_approval") = true
    · by_cases hempty : decisionText py members = ""
      · simp [hblock, happroval, hempty]
      · simp [hblock, happroval, hempty]
    · by_cases hempty : decisionText py members = ""
      · simp [hblock, happroval, hempty]
      · simp [hblock, happroval, hempty]

/-- The normalised decision is never empty. -/
theorem normalizeMembers_decision_ne_empty (members : List (String × Json)) :
    (normalizeMembers py members).decision ≠ "" := by
  simp only [normalizeMembers, verdictOf]
  split_ifs with hblock happroval hempty hallowed
  · simp
  · simp
  · simp
  · simp
  · exact hempty

/-- Only a policy object is normalised. -/
theorem normalizeOpaResult_isSome {body : Json} {r : OpaResult} :
    normalizeOpaResult py body = some r ↔
      ∃ members, policyValue body = .obj members ∧ r = normalizeMembers py members := by
  unfold normalizeOpaResult
  cases policyValue body with
  | obj members => simp [eq_comm]
  | _ => simp

end

end AuthClaw.Opa
