import AuthClaw.Library.PythonText

/-!
# Tenant policies and their rules

A tenant policy carries its rules as a JSON object.  The helpers of
{lit}`PolicyEngine` that read such an object: category and action names are
normalised, and list rules accept a single text.

Main results:

- Theorem {lit}`normalizeAction_text`: every action is its own normal form.
- Theorem {lit}`categoryForPolicy_ne_empty`: a policy's category is not empty.
-/

namespace AuthClaw.Policy

open PythonText

/-! ## Actions -/

/-- The governance actions. -/
inductive Action where
  | allow
  | redact
  | requireApproval
  | block
deriving DecidableEq

/-- The `ACTION_...` texts. -/
def Action.text : Action → String
  | .allow => "ALLOW"
  | .redact => "REDACT"
  | .requireApproval => "REQUIRE_APPROVAL"
  | .block => "BLOCK"

/-- `ACTION_PRIORITY`. -/
def Action.priority : Action → Nat
  | .allow => 0
  | .redact => 1
  | .requireApproval => 2
  | .block => 3

/-- The levels of the risk engine and of the policy engine. -/
inductive RiskLevel where
  | low
  | medium
  | high
deriving DecidableEq

/-! ## Policies -/

/-- A policy as the engine reads it. -/
structure TenantPolicy where
  id : Option Int
  name : String
  type : String
  rules : List (String × Json)
  version : Int
  status : String

section

variable (py : PyText)

/-- `_normalize_action`. -/
def normalizeAction (action : Option Json) : Option Action :=
  let key := replaceChar ' ' '_' (replaceChar '-' '_' (py.lower (py.strip (py.strOrEmpty action))))
  if key ∈ ["allow", "allowed"] then some .allow
  else if key ∈ ["redact", "mask", "hash", "tokenize"] then some .redact
  else if key ∈ ["block", "deny", "blocked", "block_or_review"] then some .block
  else if key ∈ ["approval", "require_approval", "approval_required", "human_approval"] then
    some .requireApproval
  else none

/-- `CATEGORY_ALIASES`. -/
def categoryAliases : List (String × String) :=
  [("pii", "PII"), ("personal_data", "PII"), ("secrets", "SECRETS"), ("secret", "SECRETS"),
    ("prompt_injection", "PROMPT_INJECTION"), ("jailbreak", "PROMPT_INJECTION"),
    ("financial", "FINANCIAL_DATA"), ("financial_data", "FINANCIAL_DATA"),
    ("medical", "MEDICAL_DATA"), ("medical_data", "MEDICAL_DATA"), ("legal", "LEGAL_DATA"),
    ("legal_data", "LEGAL_DATA"), ("customer_topic", "CUSTOMER_DEFINED_TOPICS"),
    ("customer_defined_topics", "CUSTOMER_DEFINED_TOPICS"),
    ("data_exfiltration", "DATA_EXFILTRATION"), ("security_bypass", "SECURITY_BYPASS"),
    ("custom", "CUSTOMER_DEFINED_TOPICS")]

/-- `_normalize_category` of a text. -/
def normalizeCategory (category : String) : String :=
  let key := replaceChar '-' '_' (replaceChar ' ' '_' (py.lower (py.strip category)))
  match categoryAliases.lookup key with
  | some name => name
  | none => if key = "" then "" else py.upper key

/-- `_list_rules`. -/
def listRules (rules : List (String × Json)) (key : String) : List String :=
  match getKey rules key with
  | some (.str s) => [s]
  | some (.arr items) => (items.map py.str).filter (fun item => py.strip item != "")
  | some (.obj members) => (members.map Prod.fst).filter (fun item => py.strip item != "")
  | _ => []

/-- A member with a true value. -/
def ruleSet (rules : List (String × Json)) (key : String) : Bool :=
  match getKey rules key with
  | some v => v.truthy
  | none => false

/-- The category names a policy lists, before normalisation. -/
def listedCategories (policy : TenantPolicy) : List String :=
  let rules := policy.rules
  listRules py rules "categories" ++
    (match getKey rules "category" with
      | some (.str s) => [s]
      | _ => []) ++
    (if ruleSet rules "pii_redaction" || contains "pii" (py.lower policy.type) then ["PII"]
      else []) ++
    (if ruleSet rules "secret_detection" then ["SECRETS"] else []) ++
    (if !(listRules py rules "blocked_topics").isEmpty ||
        !(listRules py rules "allowed_topics").isEmpty then
      ["CUSTOMER_DEFINED_TOPICS"]
      else []) ++
    (if normalizeCategory py policy.type = "" then [] else [normalizeCategory py policy.type])

/-- `_policy_categories`: normalised, without duplicates, in text order. -/
def policyCategories (policy : TenantPolicy) : List String :=
  (((listedCategories py policy).map (normalizeCategory py)).filter (· != "")).dedup.insertionSort
    (fun a b => a ≤ b)

/-- `_matching_policy_for_category`: the first policy of the list that covers the
category. -/
def matchingPolicyForCategory (category : String) (policies : List TenantPolicy) :
    Option TenantPolicy :=
  policies.find? (fun policy => normalizeCategory py category ∈ policyCategories py policy)

/-- `_category_for_policy`. -/
def categoryForPolicy (policy : TenantPolicy) : String :=
  match policyCategories py policy with
  | category :: _ => category
  | [] => "CUSTOMER_DEFINED_TOPICS"

/-- `_action_for_category`.  Category rules that are no dictionary have no
`items`. -/
def actionForCategory (category : String) (policy : Option TenantPolicy) :
    Except PyError (Option Action) :=
  match policy with
  | none => .ok none
  | some policy =>
      let categoryKey := py.lower (normalizeCategory py category)
      let entry (members : List (String × Json)) : Option Action :=
        match members.find? (fun m => py.lower (normalizeCategory py m.1) == categoryKey) with
        | some m => normalizeAction py (some m.2)
        | none => normalizeAction py (getKey policy.rules "action")
      match orElseJson (getKey policy.rules "category_actions") (getKey policy.rules "actions") with
      | some (.obj members) => .ok (entry members)
      | some v => if v.truthy then .error .attributeError else .ok (entry [])
      | none => .ok (entry [])

/-- Every action is its own normal form. -/
theorem normalizeAction_text (a : Action) :
    normalizeAction py (some (.str a.text)) = some a := by
  have hascii : isAscii a.text = true := by
    cases a <;> decide
  have hspace : a.text.toList.all (fun c => !asciiSpace c) = true := by
    cases a <;> decide
  have hstrip : py.strip a.text = a.text := by
    apply py.strip_eq_self
    intro c hc
    have hc' : c.toNat < 128 := by simpa using List.all_eq_true.mp hascii c hc
    rw [py.isSpace_ascii c hc']
    simpa using List.all_eq_true.mp hspace c hc
  have hstr : py.strOrEmpty (some (.str a.text)) = a.text := by
    cases a <;> simp [PyText.strOrEmpty, Json.truthy, PyText.str, Action.text]
  have hlower : py.lower a.text = asciiLower a.text :=
    py.lower_ascii a.text hascii
  unfold normalizeAction
  rw [hstr, hstrip, hlower]
  cases a <;> decide

/-- A policy's category is not empty. -/
theorem categoryForPolicy_ne_empty (policy : TenantPolicy) : categoryForPolicy py policy ≠ "" := by
  unfold categoryForPolicy
  cases hcats : policyCategories py policy with
  | nil => simp
  | cons category rest =>
      have hmem : category ∈ policyCategories py policy := by
        rw [hcats]
        simp
      unfold policyCategories at hmem
      rw [List.mem_insertionSort, List.mem_dedup, List.mem_filter] at hmem
      simpa using hmem.2

end

end AuthClaw.Policy
