import AuthClaw.Library.JsonText
import AuthClaw.Library.Rego
import AuthClaw.Opa.Evaluation
import AuthClaw.Redaction.GoRedactor

/-!
# The policy module

{lit}`compile_policy_to_rego` writes a policy module from the keyword lists of a policy;
{lit}`policies/authclaw.rego` is one written by hand.  Both join the text of a request
with the body in its context, lower the case, and look for keywords and patterns.  The
policy server answers a query of the package with everything the module defines.

Main results:

- Theorem {lit}`conditionHolds_eq`: the conditions of both modules in terms of the lists.
- Theorem {lit}`testInput_undefined`: without a text or a body nothing is tested.
-/

namespace AuthClaw.Opa

open PythonText JsonText Regex CharClass Rego Redaction

/-! ## Lists -/

/-- The keyword lists. -/
inductive KeywordList where
  | blocked
  | highRisk
  | mediumRisk
  | promptInjection
  | securityBypass
  | dataExfiltration
deriving DecidableEq

/-- The pattern lists. -/
inductive PatternList where
  | secret
  | pii
  | phi
  | financial
deriving DecidableEq

/-- The patterns of the lists. -/
inductive ModulePattern where
  | jwt
  | awsKey
  | openaiKey
  | anthropicKey
  | sendgridKey
  | googleKey
  | assignment
  | email
  | phone
  | ssn
  | healthTopic
  | cardNumber
  | financialTopic
deriving DecidableEq

/-- The text of a pattern. -/
def ModulePattern.text : ModulePattern → String
  | .jwt => "(?i)\\beyJ[a-z0-9_-]\x7b8,\x7d\\.[a-z0-9_-]\x7b8,\x7d\\.[a-z0-9_-]\x7b8,\x7d\\b"
  | .awsKey => "\\bA(KIA|SIA)[A-Z0-9]\x7b16\x7d\\b"
  | .openaiKey => "\\bsk-[A-Za-z0-9_-]\x7b16,\x7d\\b"
  | .anthropicKey => "\\bsk-ant-[A-Za-z0-9_-]\x7b16,\x7d\\b"
  | .sendgridKey => "\\bSG\\.[A-Za-z0-9_-]\x7b10,\x7d\\.[A-Za-z0-9_-]\x7b10,\x7d\\b"
  | .googleKey => "\\bAIza[0-9A-Za-z_-]\x7b20,\x7d\\b"
  | .assignment => "(?i)\\b(api[_-]?key|secret|access[_-]?token|password)\\s*[:=]\\s*[\"']?" ++
      "[A-Za-z0-9._~+/=-]\x7b12,\x7d"
  | .email => "\\b[A-Za-z0-9._%+\\-]+@[A-Za-z0-9.\\-]+\\.[A-Za-z]\x7b2,\x7d\\b"
  | .phone => "(?i)(?:\\+?\\d\x7b1,3\x7d[\\s.-]?)?(?:\\(?\\d\x7b3,5\x7d\\)?[\\s.-]?)" ++
      "\\d\x7b3,5\x7d[\\s.-]?\\d\x7b3,6\x7d\\b"
  | .ssn => "\\b\\d\x7b3\x7d-\\d\x7b2\x7d-\\d\x7b4\x7d\\b"
  | .healthTopic =>
      "(?i)\\b(patient|medical record|mrn|diagnosis|prescription|treatment plan)\\b"
  | .cardNumber => "\\b(?:\\d[ -]*?)\x7b13,19\x7d\\b"
  | .financialTopic => "(?i)\\b(bank account|routing number|iban|wire transfer)\\b"

/-- The expression of a pattern; most are those of the gateway's redactor. -/
def ModulePattern.regex : ModulePattern → Regex CharClass
  | .jwt => Trigger.jwt.regex
  | .awsKey => Trigger.awsAccessKey.regex
  | .openaiKey => Trigger.openaiApiKey.regex
  | .anthropicKey => Trigger.anthropicApiKey.regex
  | .sendgridKey => Trigger.sendgridApiKey.regex
  | .googleKey => Trigger.googleApiKey.regex
  | .assignment => seqs [wordBoundary,
      alts [seqs [caselessLits "api", maybe "_-", caselessLits "key"], caselessLits "secret",
        seqs [caselessLits "access", maybe "_-", caselessLits "token"], caselessLits "password"],
      spaces, .one (oneOf ":="), spaces, maybeQuote, atLeast (alnumAnd "._~+/=-").caseless 12]
  | .email => Trigger.email.regex
  | .phone => Trigger.phone.regex
  | .ssn => Trigger.ssn.regex
  | .healthTopic => seqs [wordBoundary,
      alts [caselessLits "patient", caselessLits "medical record", caselessLits "mrn",
        caselessLits "diagnosis", caselessLits "prescription", caselessLits "treatment plan"],
      wordBoundary]
  | .cardNumber => Trigger.creditCard.regex
  | .financialTopic => seqs [wordBoundary,
      alts [caselessLits "bank account", caselessLits "routing number", caselessLits "iban",
        caselessLits "wire transfer"], wordBoundary]

theorem ModulePattern.one_le_minLength (pattern : ModulePattern) :
    1 ≤ pattern.regex.minLength := by
  cases pattern <;> decide +kernel

/-- The compiled pattern. -/
def ModulePattern.re (pattern : ModulePattern) : Pattern CharClass :=
  Pattern.ofRegex pattern.regex pattern.one_le_minLength

/-- The patterns of a list, which both modules share. -/
def modulePatterns : PatternList → List ModulePattern
  | .secret => [.jwt, .awsKey, .openaiKey, .anthropicKey, .sendgridKey, .googleKey, .assignment]
  | .pii => [.email, .phone, .ssn]
  | .phi => [.healthTopic]
  | .financial => [.cardNumber, .financialTopic]

/-- `prompt_injection_keywords`. -/
def promptInjectionKeywords : List String :=
  ["ignore previous instructions", "ignore all instructions", "reveal system prompt",
    "show internal system prompts", "forget your instructions", "developer mode", "jailbreak",
    "bypass policy"]

/-- `security_bypass_keywords`. -/
def securityBypassKeywords : List String :=
  ["disable logging", "disable audit logging", "disable monitoring", "disable guardrails",
    "bypass security", "bypass authentication", "disable access control"]

/-- `data_exfiltration_keywords`. -/
def dataExfiltrationKeywords : List String :=
  ["dump database", "export customer data", "export production database", "download all users",
    "reveal secrets", "reveal passwords", "exfiltrate"]

/-! ## Rules -/

/-- What a body of the module looks for: some keyword or some pattern of a list. -/
inductive ModuleTest where
  | keyword (l : KeywordList)
  | pattern (l : PatternList)
deriving DecidableEq

/-- The conditions of the modules. -/
inductive RuleName where
  | keywordBlock
  | promptInjectionBlock
  | securityBypassBlock
  | dataExfiltrationBlock
  | secretBlock
  | block
  | requiresApproval
  | requiresRedaction
  | mediumRisk
deriving DecidableEq

/-- The name of a condition. -/
def RuleName.text : RuleName → String
  | .keywordBlock => "keyword_block"
  | .promptInjectionBlock => "prompt_injection_block"
  | .securityBypassBlock => "security_bypass_block"
  | .dataExfiltrationBlock => "data_exfiltration_block"
  | .secretBlock => "secret_block"
  | .block => "block"
  | .requiresApproval => "requires_approval"
  | .requiresRedaction => "requires_redaction"
  | .mediumRisk => "medium_risk"

/-- `findings contains finding if ...`: the list, and what a finding says. -/
structure FindingRule where
  test : ModuleTest
  policyName : String
  category : String
  action : String

/-- A policy module. -/
structure PolicyModule where
  package : String
  keywords : KeywordList → List String
  conditions : List (Condition RuleName ModuleTest)
  rules : List (CompleteRule RuleName ModuleTest Scalar)
  findings : List FindingRule

/-- A condition with a single test. -/
def asks (name : RuleName) (test : ModuleTest) : Condition RuleName ModuleTest :=
  ⟨name, [.test test]⟩

/-- `allow`. -/
def allowRule : CompleteRule RuleName ModuleTest Scalar where
  name := "allow"
  default := some (.bool true)
  clauses := [⟨.bool false, [.rule .block]⟩, ⟨.bool false, [.rule .requiresApproval]⟩]

/-- `reason`, with the module's own words for a block. -/
def reasonRule (blocked : String) : CompleteRule RuleName ModuleTest Scalar where
  name := "reason"
  default := some (.str "Allowed by AuthClaw OPA policy")
  clauses := [⟨.str blocked, [.rule .block]⟩,
    ⟨.str "High-risk action requires approval", [.notRule .block, .rule .requiresApproval]⟩,
    ⟨.str "Sensitive data requires redaction",
      [.notRule .block, .notRule .requiresApproval, .rule .requiresRedaction]⟩]

/-- `risk_level`. -/
def riskLevelRule : CompleteRule RuleName ModuleTest Scalar where
  name := "risk_level"
  default := none
  clauses := [⟨.str "HIGH", [.rule .block]⟩, ⟨.str "HIGH", [.rule .requiresApproval]⟩,
    ⟨.str "MEDIUM", [.rule .requiresRedaction]⟩,
    ⟨.str "LOW", [.notRule .block, .notRule .requiresApproval, .notRule .requiresRedaction]⟩]

/-- `decision`, with further clauses. -/
def decisionRule (more : List (Clause RuleName ModuleTest Scalar)) :
    CompleteRule RuleName ModuleTest Scalar where
  name := "decision"
  default := some (.str "ALLOW")
  clauses := [⟨.str "BLOCK", [.rule .block]⟩,
    ⟨.str "REQUIRE_APPROVAL", [.notRule .block, .rule .requiresApproval]⟩,
    ⟨.str "REDACT", [.notRule .block, .notRule .requiresApproval, .rule .requiresRedaction]⟩] ++
    more

/-- The findings, which both modules share. -/
def moduleFindings : List FindingRule :=
  [⟨.keyword .blocked, "OPA blocked keyword", "CUSTOMER_DEFINED_TOPICS", "BLOCK"⟩,
    ⟨.keyword .promptInjection, "OPA prompt injection", "PROMPT_INJECTION", "BLOCK"⟩,
    ⟨.keyword .securityBypass, "OPA security bypass", "SECURITY_BYPASS", "BLOCK"⟩,
    ⟨.keyword .dataExfiltration, "OPA data exfiltration", "DATA_EXFILTRATION", "BLOCK"⟩,
    ⟨.pattern .secret, "OPA secret detector", "SECRETS", "BLOCK"⟩,
    ⟨.pattern .pii, "OPA PII detector", "PII", "REDACT"⟩,
    ⟨.pattern .phi, "OPA PHI detector", "MEDICAL_DATA", "REDACT"⟩,
    ⟨.pattern .financial, "OPA financial detector", "FINANCIAL_DATA", "REDACT"⟩]

/-- The conditions of a compiled module. -/
def compiledConditions : List (Condition RuleName ModuleTest) :=
  [asks .block (.keyword .blocked), asks .block (.keyword .promptInjection),
    asks .block (.keyword .securityBypass), asks .block (.keyword .dataExfiltration),
    asks .block (.pattern .secret), asks .requiresApproval (.keyword .highRisk),
    asks .requiresRedaction (.pattern .pii), asks .requiresRedaction (.pattern .phi),
    asks .requiresRedaction (.pattern .financial), asks .mediumRisk (.keyword .mediumRisk)]

/-- A medium risk is redacted, too. -/
def mediumRiskClause : Clause RuleName ModuleTest Scalar :=
  ⟨.str "REDACT", [.notRule .block, .notRule .requiresApproval, .notRule .requiresRedaction,
    .rule .mediumRisk]⟩

/-- The rules of a compiled module. -/
def compiledRules : List (CompleteRule RuleName ModuleTest Scalar) :=
  [allowRule, decisionRule [mediumRiskClause], reasonRule "Blocked by AuthClaw OPA policy",
    riskLevelRule]

/-- The conditions of `policies/authclaw.rego`. -/
def authclawConditions : List (Condition RuleName ModuleTest) :=
  [asks .keywordBlock (.keyword .blocked), asks .promptInjectionBlock (.keyword .promptInjection),
    asks .securityBypassBlock (.keyword .securityBypass),
    asks .dataExfiltrationBlock (.keyword .dataExfiltration), asks .secretBlock (.pattern .secret),
    ⟨.block, [.rule .keywordBlock]⟩, ⟨.block, [.rule .promptInjectionBlock]⟩,
    ⟨.block, [.rule .securityBypassBlock]⟩, ⟨.block, [.rule .dataExfiltrationBlock]⟩,
    ⟨.block, [.rule .secretBlock]⟩, asks .requiresApproval (.keyword .highRisk),
    asks .requiresRedaction (.pattern .pii), asks .requiresRedaction (.pattern .phi),
    asks .requiresRedaction (.pattern .financial)]

/-- The keywords of `policies/authclaw.rego`, which has no medium risks. -/
def authclawKeywords : KeywordList → List String
  | .blocked => ["ignore all instructions", "reveal system prompt", "dump database",
      "disable logging"]
  | .highRisk => ["delete database", "drop table", "export customer data", "production database",
      "admin credentials"]
  | .mediumRisk => []
  | .promptInjection => promptInjectionKeywords
  | .securityBypass => securityBypassKeywords
  | .dataExfiltration => dataExfiltrationKeywords

/-- `policies/authclaw.rego`. -/
def authclawModule : PolicyModule where
  package := "authclaw.policy"
  keywords := authclawKeywords
  conditions := authclawConditions
  rules := [allowRule, decisionRule [], reasonRule "Blocked by OPA enterprise policy",
    riskLevelRule]
  findings := moduleFindings

/-! ## Compilation -/

section

variable (py : PyText)

/-- The items a loop over the value takes; a number or a truth value cannot be looped
over. -/
def pyItems : Option Json → Except PyError (List Json)
  | none => .ok []
  | some (.arr items) => .ok items
  | some (.obj members) => .ok (members.map (fun m => .str m.1))
  | some (.str s) => .ok (s.toList.map (fun c => .str (String.ofList [c])))
  | some _ => .error .other

/-- `sorted({str(item).lower() for item in policy.get(key, [])})`. -/
def keywordsOf (policy : List (String × Json)) (key : String) : Except PyError (List String) := do
  let items ← pyItems (getKey policy key)
  return (items.map (fun item => py.lower (py.str item))).dedup.insertionSort (fun a b => a ≤ b)

/-- `(policy.get("opa") or {}).get("package", "authclaw.policy")`. -/
def packageOf (policy : List (String × Json)) : Except PyError String :=
  match orElseJson (getKey policy "opa") none with
  | none => .ok "authclaw.policy"
  | some (.obj members) =>
      .ok (match getKey members "package" with
        | some v => py.str v
        | none => "authclaw.policy")
  | some _ => .error .attributeError

/-- `compile_policy_to_rego`. -/
def compilePolicyToRego (policy : List (String × Json)) : Except PyError PolicyModule := do
  let blocked ← keywordsOf py policy "blocked_keywords"
  let highRisk ← keywordsOf py policy "high_risk_keywords"
  let mediumRisk ← keywordsOf py policy "medium_risk_keywords"
  let package ← packageOf py policy
  return {
    package := package
    keywords := fun l =>
      match l with
      | .blocked => blocked
      | .highRisk => highRisk
      | .mediumRisk => mediumRisk
      | .promptInjection => promptInjectionKeywords
      | .securityBypass => securityBypassKeywords
      | .dataExfiltration => dataExfiltrationKeywords
    conditions := compiledConditions
    rules := compiledRules
    findings := moduleFindings }

/-- A module of the system: a compiled one or the one written by hand. -/
def IsPolicyModule (m : PolicyModule) : Prop :=
  (∃ policy, compilePolicyToRego py policy = .ok m) ∨ m = authclawModule

end

/-! ## Evaluation -/

/-- What the policy server knows of texts: its lower case, and how it prints a value. -/
structure RegoText where
  unicode : GoUnicode
  /-- `sprintf("%v", [value])` -/
  print : Json → String
  print_str : ∀ s, print (.str s) = s

/-- A member of a value. -/
def memberOf (key : String) : Json → Option Json
  | .obj members => getKey members key
  | _ => none

/-- A class accepts a character. -/
def goAcceptsChar (k : CharClass) (c : Char) : Bool :=
  k.accepts goTables c

/-- `regex.match`. -/
def regexMatch (pattern : ModulePattern) (text : List Char) : Bool :=
  (tokens goAcceptsChar pattern.re text).any (fun token =>
    match token with
    | .skip _ => false
    | .hit _ => true)

section

variable (rt : RegoText)

/-- `lower`. -/
def RegoText.lower (text : String) : List Char :=
  text.toList.map rt.unicode.toLower

/-- `normalized_text` and `body_text` with a space between. -/
def RegoText.join (text body : Json) : List Char :=
  rt.lower (rt.print text) ++ ' ' :: rt.lower (rt.print body)

/-- `input.context.body`. -/
def contextBody (input : Json) : Option Json :=
  (memberOf "context" input).bind (memberOf "body")

/-- `combined_text`, undefined where a member is missing. -/
def joinedText (input : Json) : Option (List Char) :=
  match memberOf "text" input, contextBody input with
  | some text, some body => some (rt.join text body)
  | _, _ => none

variable (m : PolicyModule)

/-- The test of some keyword or some pattern of a list. -/
def testText (text : List Char) : ModuleTest → Bool
  | .keyword l => (m.keywords l).any (fun keyword => containsText text keyword)
  | .pattern l => (modulePatterns l).any (fun pattern => regexMatch pattern text)

/-- A test of the input; a test of an undefined text does not hold. -/
def testInput (input : Json) (test : ModuleTest) : Bool :=
  match joinedText rt input with
  | some text => testText m text test
  | none => false

/-- A condition of the module on an input. -/
def conditionHolds (input : Json) (r : RuleName) : Bool :=
  holds (testInput rt m input) m.conditions r

/-- The findings of one rule. -/
def findingsOfRule (text : List Char) (f : FindingRule) : List Json :=
  let found (matched : String) : Json :=
    .obj [("policy_name", .str f.policyName), ("category", .str f.category),
      ("action", .str f.action), ("matched", .str matched)]
  match f.test with
  | .keyword l =>
      ((m.keywords l).filter (fun keyword => containsText text keyword)).map found
  | .pattern l =>
      ((modulePatterns l).filter (fun pattern => regexMatch pattern text)).map
        (fun pattern => found pattern.text)

/-- A value of a rule in JSON. -/
def scalarJson : Scalar → Json
  | .null => .null
  | .bool b => .bool b
  | .int n => .int n
  | .str s => .str s

/-- What the package defines on an input: the complete rules, the conditions that hold and
the findings.  The lists and the texts are left out. -/
def opaDocument (input : Json) : Except Conflict (List (String × Json)) := do
  let values ← m.rules.mapM (fun rule => do
    let value ← rule.eval (testInput rt m input) (conditionHolds rt m input)
    return (rule.name, value))
  let found := match joinedText rt input with
    | some text => m.findings.flatMap (findingsOfRule m text)
    | none => []
  return values.filterMap (fun v => v.2.map (fun value => (v.1, scalarJson value))) ++
    ([RuleName.keywordBlock, .promptInjectionBlock, .securityBypassBlock, .dataExfiltrationBlock,
      .secretBlock, .block, .requiresApproval, .requiresRedaction, .mediumRisk].filter
        (conditionHolds rt m input)).map (fun r => (r.text, .bool true)) ++
    [("findings", .arr found)]

/-- The policy server: a conflict is an internal error, which the HTTP client raises. -/
def opaServer (input : Json) : Exchange :=
  match opaDocument rt m input with
  | .ok members => .response 200 (.json (.obj [("result", .obj members)]))
  | .error _ => .raised ⟨"HTTPError", true⟩

/-! ## The conditions -/

/-- The tests behind the conditions the rules refer to. -/
def ruleTests : RuleName → List ModuleTest
  | .block => [.keyword .blocked, .keyword .promptInjection, .keyword .securityBypass,
      .keyword .dataExfiltration, .pattern .secret]
  | .requiresApproval => [.keyword .highRisk]
  | .requiresRedaction => [.pattern .pii, .pattern .phi, .pattern .financial]
  | .mediumRisk => [.keyword .mediumRisk]
  | _ => []

/-- The conditions the rules refer to. -/
def mainConditions : List RuleName :=
  [.block, .requiresApproval, .requiresRedaction, .mediumRisk]

theorem compiled_holds (test : ModuleTest → Bool) {r : RuleName} (hr : r ∈ mainConditions) :
    holds test compiledConditions r = (ruleTests r).any test := by
  rw [Bool.eq_iff_iff]
  unfold holds
  rw [decide_eq_true_eq]
  simp only [mainConditions, List.mem_cons, List.not_mem_nil, or_false] at hr
  rcases hr with rfl | rfl | rfl | rfl
  · simp [compiledConditions, asks, derive, mem_deriveOne, bodyHolds, Literal.holds, ruleTests]
    tauto
  · simp [compiledConditions, asks, derive, mem_deriveOne, bodyHolds, Literal.holds, ruleTests]
  · simp [compiledConditions, asks, derive, mem_deriveOne, bodyHolds, Literal.holds, ruleTests]
    tauto
  · simp [compiledConditions, asks, derive, mem_deriveOne, bodyHolds, Literal.holds, ruleTests]

theorem authclaw_holds (test : ModuleTest → Bool) (hmedium : test (.keyword .mediumRisk) = false)
    {r : RuleName} (hr : r ∈ mainConditions) :
    holds test authclawConditions r = (ruleTests r).any test := by
  rw [Bool.eq_iff_iff]
  unfold holds
  rw [decide_eq_true_eq]
  simp only [mainConditions, List.mem_cons, List.not_mem_nil, or_false] at hr
  rcases hr with rfl | rfl | rfl | rfl
  · simp [authclawConditions, asks, derive, mem_deriveOne, bodyHolds, Literal.holds, ruleTests]
    tauto
  · simp [authclawConditions, asks, derive, mem_deriveOne, bodyHolds, Literal.holds, ruleTests]
  · simp [authclawConditions, asks, derive, mem_deriveOne, bodyHolds, Literal.holds, ruleTests]
    tauto
  · simp [authclawConditions, asks, derive, mem_deriveOne, bodyHolds, Literal.holds, ruleTests,
      hmedium]

variable {rt m}

theorem compiled_parts {py : PyText} {policy : List (String × Json)}
    (h : compilePolicyToRego py policy = .ok m) :
    m.conditions = compiledConditions ∧ m.rules = compiledRules := by
  rcases bind_eq_ok h with ⟨_, -, h⟩
  rcases bind_eq_ok h with ⟨_, -, h⟩
  rcases bind_eq_ok h with ⟨_, -, h⟩
  rcases bind_eq_ok h with ⟨_, -, h⟩
  cases h
  exact ⟨rfl, rfl⟩

theorem authclaw_mediumRisk (input : Json) :
    testInput rt authclawModule input (.keyword .mediumRisk) = false := by
  unfold testInput
  split <;> rfl

/-- A condition the rules refer to holds where one of its tests does. -/
theorem conditionHolds_eq {py : PyText} (hm : IsPolicyModule py m) (input : Json) {r : RuleName}
    (hr : r ∈ mainConditions) :
    conditionHolds rt m input r = (ruleTests r).any (testInput rt m input) := by
  rcases hm with ⟨policy, hcompile⟩ | rfl
  · unfold conditionHolds
    rw [(compiled_parts hcompile).1]
    exact compiled_holds _ hr
  · exact authclaw_holds _ (authclaw_mediumRisk input) hr

/-- Without a text in the request, or without a body in its context, nothing is tested. -/
theorem testInput_undefined {input : Json} (h : joinedText rt input = none) (test : ModuleTest) :
    testInput rt m input test = false := by
  unfold testInput
  rw [h]

end

end AuthClaw.Opa
