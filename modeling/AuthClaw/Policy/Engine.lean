import AuthClaw.Policy.Rules

/-!
# The policy engine

{lit}`PolicyEngine.evaluate`: findings of the sensitive-data detector, of the
baseline patterns and of the tenant's topics and keywords, and the strictest of
their actions.  The detector is a parameter.

Main results:

- Theorems {lit}`finalAction_mem` and {lit}`priority_le_finalAction`: the final
  action is the strictest action among the findings.
- Theorem {lit}`collectFindings_category_ne_empty`: every finding names a category.
- Theorem {lit}`policyAgentEvaluate_category_ne_empty`: a decision that does not
  approve names one too.
-/

namespace AuthClaw.Policy

open PythonText

/-! ## Patterns -/

/-- `PROMPT_INJECTION_PATTERNS`. -/
def promptInjectionPatterns : List String :=
  ["ignore previous instructions", "ignore all instructions", "ignore all company policies",
    "bypass policy", "bypass policies", "reveal system prompt", "show internal system prompts",
    "forget your instructions", "developer mode", "jailbreak"]

/-- `SECURITY_BYPASS_PATTERNS`. -/
def securityBypassPatterns : List String :=
  ["disable logging", "disable security logging", "disable monitoring", "disable audit trails",
    "disable audit logging", "disable guardrails", "turn off logging", "turn off monitoring",
    "turn off audit", "bypass security", "disable security", "remove restrictions",
    "bypass authentication", "disable access control"]

/-- `DATA_EXFILTRATION_PATTERNS`. -/
def dataExfiltrationPatterns : List String :=
  ["export customer data", "export all customer data", "export customer record",
    "export every customer", "export production database", "show me every customer ssn",
    "show me every customer's ssn", "show me every customers ssn", "reveal ssn",
    "reveal every customer ssn", "reveal admin passwords", "reveal passwords",
    "reveal hidden admin passwords", "reveal secrets", "dump database", "database dump",
    "download database", "download all users", "extract records", "customer emails",
    "export user data", "exfiltrate", "steal data", "leak data"]

/-- `LEGAL_PATTERNS`. -/
def legalPatterns : List String :=
  ["legal advice", "lawsuit strategy", "privileged communication", "attorney client",
    "contract clause", "settlement agreement"]

/-- `MEDICAL_PATTERNS`. -/
def medicalPatterns : List String :=
  ["diagnosis", "medical record", "patient", "prescription", "treatment plan", "health history"]

/-- `FINANCIAL_PATTERNS`. -/
def financialPatterns : List String :=
  ["bank account", "routing number", "credit card", "wire transfer", "tax id",
    "financial statement"]

/-- `SECRET_TYPES`. -/
def secretTypes : List String :=
  ["openai_api_key", "google_api_key", "aws_access_key", "jwt_token", "bearer_token",
    "api_key_param", "secret_param", "token_param", "access_token", "private_key"]

/-- `ENTITY_CATEGORIES`. -/
def entityCategories : List (String × String) :=
  [("email", "PII"), ("phone", "PII"), ("aadhaar", "PII"), ("pan", "PII"), ("name", "PII"),
    ("address", "PII"), ("ssn", "PII"), ("credit_card", "FINANCIAL_DATA"),
    ("financial_identifier", "FINANCIAL_DATA"), ("iban", "FINANCIAL_DATA"),
    ("medical_identifier", "MEDICAL_DATA")]

/-- `CATEGORY_PRIORITY.get(category, 100)`. -/
def categoryPriority (category : String) : Nat :=
  ([("PROMPT_INJECTION", 0), ("SECURITY_BYPASS", 1), ("DATA_EXFILTRATION", 2), ("SECRETS", 3),
    ("PII", 4), ("FINANCIAL_DATA", 5), ("MEDICAL_DATA", 6), ("LEGAL_DATA", 7),
    ("CUSTOMER_DEFINED_TOPICS", 8)].lookup category).getD 100

/-! ## Findings -/

/-- What the sensitive-data detector reports of one match. -/
structure DetectorFinding where
  matchedPattern : String
  action : String
  detector : String
  redactedValue : String
  valueHash : Option String
deriving DecidableEq

/-- `PolicyFinding`. -/
structure PolicyFinding where
  policyName : String
  policyType : String
  category : String
  action : Action
  matchedPattern : String
  reason : String
  policyId : Option Int
  policyVersion : Int
  redactedValue : String
  valueHash : Option String
  detector : String
deriving DecidableEq

section

variable (py : PyText)

/-- The category of a detected entity. -/
def entityCategory (entity : String) : String :=
  if entity ∈ secretTypes then "SECRETS" else (entityCategories.lookup entity).getD "PII"

/-- The finding for one detector match. -/
def detectorFinding (policies : List TenantPolicy) (item : DetectorFinding) :
    Except PyError PolicyFinding := do
  let entity := py.lower item.matchedPattern
  let category := entityCategory entity
  let policy := matchingPolicyForCategory py category policies
  let categoryAction ← actionForCategory py category policy
  return {
    policyName := (policy.map TenantPolicy.name).getD "Sensitive Data Detection"
    policyType := (policy.map TenantPolicy.type).getD category
    category := category
    action := (categoryAction.or (normalizeAction py (some (.str item.action)))).getD .redact
    matchedPattern := entity
    reason := category ++ " detected by " ++ item.detector
    policyId := policy.bind TenantPolicy.id
    policyVersion := (policy.map TenantPolicy.version).getD 1
    redactedValue := item.redactedValue
    valueHash := item.valueHash
    detector := item.detector }

/-- `_detector_findings`. -/
def detectorFindings (items : List DetectorFinding) (policies : List TenantPolicy) :
    Except PyError (List PolicyFinding) :=
  items.mapM (detectorFinding py policies)

/-- The findings of one baseline defense. -/
def baselineFindings (name policyType category reason : String) (patterns : List String)
    (lowered : String) : List PolicyFinding :=
  (patterns.filter (fun pattern => contains pattern lowered)).map (fun pattern =>
    { policyName := name, policyType := policyType, category := category, action := .block,
      matchedPattern := pattern, reason := reason, policyId := none, policyVersion := 1,
      redactedValue := "N/A", valueHash := none, detector := "policy_engine" })

/-- `_baseline_security_findings`. -/
def baselineSecurityFindings (text : String) : List PolicyFinding :=
  let lowered := py.lower text
  baselineFindings "Baseline Prompt Injection Defense" "prompt_injection" "PROMPT_INJECTION"
      "Prompt injection pattern matched" promptInjectionPatterns lowered ++
    baselineFindings "Baseline Security Bypass Defense" "security_bypass" "SECURITY_BYPASS"
      "Security bypass pattern matched" securityBypassPatterns lowered ++
    baselineFindings "Baseline Data Exfiltration Defense" "data_exfiltration"
      "DATA_EXFILTRATION" "Data exfiltration pattern matched" dataExfiltrationPatterns lowered

/-- `_topic_finding`. -/
def topicFinding (policy : TenantPolicy) (category reason pattern : String) :
    Except PyError PolicyFinding := do
  let categoryAction ← actionForCategory py category (some policy)
  return {
    policyName := policy.name
    policyType := policy.type
    category := category
    action := (categoryAction.or (normalizeAction py (getKey policy.rules "action"))).getD
      .requireApproval
    matchedPattern := pattern
    reason := reason
    policyId := policy.id
    policyVersion := policy.version
    redactedValue := "N/A"
    valueHash := none
    detector := "policy_engine" }

/-- The built-in topics of one category, under the first policy that covers it. -/
def builtInTopicFindings (lowered : String) (policies : List TenantPolicy)
    (builtIn : String × List String) : Except PyError (List PolicyFinding) :=
  match matchingPolicyForCategory py builtIn.1 policies with
  | none => .ok []
  | some policy =>
      (builtIn.2.filter (fun pattern => contains pattern lowered)).mapM
        (topicFinding py policy builtIn.1 "Built-in category topic matched")

/-- The blocked topics a policy lists, and the finding outside its allowed
topics. -/
def customTopicFindings (lowered : String) (policy : TenantPolicy) :
    Except PyError (List PolicyFinding) := do
  let blocked := (listRules py policy.rules "blocked_topics").filter
    (fun topic => contains (py.lower topic) lowered)
  let blockedFindings ← blocked.mapM
    (topicFinding py policy "CUSTOMER_DEFINED_TOPICS" "Tenant blocked topic matched")
  let allowedTopics := listRules py policy.rules "allowed_topics"
  let outside :=
    if allowedTopics.isEmpty || allowedTopics.any (fun topic => contains (py.lower topic) lowered)
    then []
    else ["outside_allowed_topics"]
  let outsideFindings ← outside.mapM
    (topicFinding py policy "CUSTOMER_DEFINED_TOPICS" "Prompt is outside tenant allowed topics")
  return blockedFindings ++ outsideFindings

/-- `_topic_findings`. -/
def topicFindings (text : String) (policies : List TenantPolicy) :
    Except PyError (List PolicyFinding) := do
  let lowered := py.lower text
  let builtIns ← [("FINANCIAL_DATA", financialPatterns), ("MEDICAL_DATA", medicalPatterns),
    ("LEGAL_DATA", legalPatterns)].mapM (builtInTopicFindings py lowered policies)
  let custom ← policies.mapM (customTopicFindings py lowered)
  return builtIns.flatten ++ custom.flatten

/-- The keyword findings of one policy. -/
def policyKeywordFindings (lowered : String) (policy : TenantPolicy) : List PolicyFinding :=
  ((listRules py policy.rules "blocked_keywords").filter
    (fun keyword => contains (py.lower keyword) lowered)).map (fun keyword =>
      { policyName := policy.name, policyType := policy.type,
        category := categoryForPolicy py policy,
        action := (normalizeAction py (getKey policy.rules "action")).getD .block,
        matchedPattern := keyword, reason := "Tenant policy keyword matched",
        policyId := policy.id, policyVersion := policy.version, redactedValue := "N/A",
        valueHash := none, detector := "policy_engine" })

/-- `_keyword_findings`. -/
def keywordFindings (text : String) (policies : List TenantPolicy) : List PolicyFinding :=
  policies.flatMap (policyKeywordFindings py (py.lower text))

/-! ## Evaluation -/

/-- `max` by priority: a later action wins only when it is strictly stricter. -/
def strictest : Action → List Action → Action
  | best, [] => best
  | best, a :: rest => strictest (if best.priority < a.priority then a else best) rest

/-- `_final_action`, which normalises the actions once more. -/
def finalAction (actions : List Action) : Action :=
  match actions.map (fun a => (normalizeAction py (some (.str a.text))).getD .allow) with
  | [] => .allow
  | a :: rest => strictest a rest

/-- `_risk_level`. -/
def riskLevel (final : Action) (findings : List PolicyFinding) : RiskLevel :=
  match final with
  | .block => .high
  | .requireApproval => .high
  | .redact => .medium
  | .allow => if findings.isEmpty then .low else .medium

/-- The first finding of the highest priority. -/
def strongest : PolicyFinding → List PolicyFinding → PolicyFinding
  | best, [] => best
  | best, f :: rest =>
      strongest (if best.action.priority < f.action.priority then f else best) rest

/-- `_reason`. -/
def reasonOf (final : Action) (findings : List PolicyFinding) : String :=
  match final, findings with
  | .allow, _ => "policy_checks_passed"
  | _, [] => "policy_action_required"
  | _, f :: rest => (strongest f rest).reason

/-- One entry of `policy_versions`. -/
structure PolicyVersion where
  policyId : Option Int
  name : String
  version : Int
  status : String
deriving DecidableEq

/-- `PolicyEvaluationResult`. -/
structure EvaluationResult where
  action : Action
  allowed : Bool
  riskLevel : RiskLevel
  redactedText : String
  findings : List PolicyFinding
  policyVersions : List PolicyVersion
  triggeredCategories : List String
  reason : String
deriving DecidableEq

/-- The findings of an evaluation, in the order they are collected. -/
def collectFindings (text : String) (items : List DetectorFinding)
    (policies : List TenantPolicy) : Except PyError (List PolicyFinding) := do
  let detected ← detectorFindings py items policies
  let topics ← topicFindings py text policies
  return detected ++ baselineSecurityFindings py text ++ topics ++ keywordFindings py text policies

/-- The result of an evaluation from its findings. -/
def resultOf (redactedText : String) (items : List DetectorFinding)
    (policies : List TenantPolicy) (findings : List PolicyFinding) : EvaluationResult :=
  let strict := finalAction py (findings.map PolicyFinding.action)
  let final := if strict = .allow ∧ items ≠ [] then .redact else strict
  { action := final
    allowed := final = .allow || final = .redact
    riskLevel := riskLevel final findings
    redactedText := redactedText
    findings := findings
    policyVersions := policies.map (fun policy =>
      { policyId := policy.id, name := policy.name, version := policy.version,
        status := policy.status })
    triggeredCategories := py.sortedSet categoryPriority (findings.map PolicyFinding.category)
    reason := reasonOf final findings }

/-- `PolicyEngine.evaluate` over the active policies; `detect` is the detector's
`redact`. -/
def evaluate (detect : String → String × List DetectorFinding) (text : String)
    (policies : List TenantPolicy) : Except PyError EvaluationResult := do
  let findings ← collectFindings py text (detect text).2 policies
  return resultOf py (detect text).1 (detect text).2 policies findings

/-- `PolicyAgentResult`. -/
structure PolicyAgentResult where
  approved : Bool
  policyDecision : Action
  violatedPolicies : List PolicyFinding
  reason : String
  category : String
  redactedText : String
  riskLevel : RiskLevel
  policyVersions : List PolicyVersion
deriving DecidableEq

/-- `PolicyAgent.evaluate`. -/
def policyAgentEvaluate (detect : String → String × List DetectorFinding) (text : String)
    (policies : List TenantPolicy) : Except PyError PolicyAgentResult := do
  let result ← evaluate py detect text policies
  return {
    approved := result.action = .allow || result.action = .redact
    policyDecision := result.action
    violatedPolicies := result.findings
    reason := result.reason
    category :=
      match result.triggeredCategories with
      | category :: _ => py.lower category
      | [] => ""
    redactedText := result.redactedText
    riskLevel := result.riskLevel
    policyVersions := result.policyVersions }

/-! ## The strictest action -/

theorem strictest_mem (best : Action) (actions : List Action) :
    strictest best actions = best ∨ strictest best actions ∈ actions := by
  induction actions generalizing best with
  | nil => exact Or.inl rfl
  | cons a rest ih =>
      unfold strictest
      by_cases h : best.priority < a.priority
      · rw [if_pos h]
        rcases ih a with heq | hmem
        · exact Or.inr (by rw [heq]; simp)
        · exact Or.inr (List.mem_cons_of_mem _ hmem)
      · rw [if_neg h]
        rcases ih best with heq | hmem
        · exact Or.inl heq
        · exact Or.inr (List.mem_cons_of_mem _ hmem)

theorem priority_le_strictest (best : Action) (actions : List Action) :
    best.priority ≤ (strictest best actions).priority ∧
      ∀ a ∈ actions, a.priority ≤ (strictest best actions).priority := by
  induction actions generalizing best with
  | nil => simp [strictest]
  | cons a rest ih =>
      unfold strictest
      by_cases h : best.priority < a.priority
      · rw [if_pos h]
        rcases ih a with ⟨hbest, hrest⟩
        refine ⟨by omega, ?_⟩
        intro b hb
        rcases List.mem_cons.mp hb with rfl | hb
        · exact hbest
        · exact hrest b hb
      · rw [if_neg h]
        rcases ih best with ⟨hbest, hrest⟩
        refine ⟨hbest, ?_⟩
        intro b hb
        rcases List.mem_cons.mp hb with rfl | hb
        · omega
        · exact hrest b hb

/-- The second normalisation changes no action. -/
theorem map_normalizeAction_text (actions : List Action) :
    actions.map (fun a => (normalizeAction py (some (.str a.text))).getD .allow) = actions := by
  conv_rhs => rw [← List.map_id actions]
  apply List.map_congr_left
  intro a _
  rw [normalizeAction_text]
  rfl

/-- A final action other than {lit}`ALLOW` is the action of a finding. -/
theorem finalAction_mem {actions : List Action} (h : finalAction py actions ≠ .allow) :
    finalAction py actions ∈ actions := by
  unfold finalAction at h ⊢
  rw [map_normalizeAction_text] at h ⊢
  cases actions with
  | nil => exact absurd rfl h
  | cons a rest =>
      simp only
      rcases strictest_mem a rest with heq | hmem
      · rw [heq]
        simp
      · exact List.mem_cons_of_mem _ hmem

/-- No finding is stricter than the final action. -/
theorem priority_le_finalAction {actions : List Action} {a : Action} (ha : a ∈ actions) :
    a.priority ≤ (finalAction py actions).priority := by
  unfold finalAction
  rw [map_normalizeAction_text]
  cases actions with
  | nil => cases ha
  | cons b rest =>
      rcases priority_le_strictest b rest with ⟨hbest, hrest⟩
      rcases List.mem_cons.mp ha with rfl | ha
      · exact hbest
      · exact hrest a ha

/-! ## Categories -/

theorem entityCategory_ne_empty (entity : String) : entityCategory entity ≠ "" := by
  unfold entityCategory
  by_cases hsecret : entity ∈ secretTypes
  · rw [if_pos hsecret]
    decide
  · rw [if_neg hsecret]
    cases hlookup : entityCategories.lookup entity with
    | none => simp
    | some category =>
        rcases List.lookup_eq_some_iff.mp hlookup with ⟨before, after, hsplit, -⟩
        have hmem : (entity, category) ∈ entityCategories := by
          rw [hsplit]
          simp
        have hall : ∀ m ∈ entityCategories, m.2 ≠ "" := by decide
        exact hall _ hmem

theorem topicFinding_category {policy : TenantPolicy} {category reason pattern : String}
    {f : PolicyFinding} (h : topicFinding py policy category reason pattern = .ok f) :
    f.category = category := by
  rcases bind_eq_ok h with ⟨_, -, h⟩
  cases h
  rfl

theorem detectorFindings_category {items : List DetectorFinding} {policies : List TenantPolicy}
    {findings : List PolicyFinding} (h : detectorFindings py items policies = .ok findings)
    {f : PolicyFinding} (hf : f ∈ findings) : f.category ≠ "" := by
  rcases mem_of_mapM_eq_ok h hf with ⟨item, -, hitem⟩
  rcases bind_eq_ok hitem with ⟨_, -, hitem⟩
  cases hitem
  exact entityCategory_ne_empty _

theorem baselineSecurityFindings_category {text : String} {f : PolicyFinding}
    (hf : f ∈ baselineSecurityFindings py text) : f.category ≠ "" := by
  unfold baselineSecurityFindings baselineFindings at hf
  simp only [List.mem_append, List.mem_map] at hf
  rcases hf with (⟨_, -, rfl⟩ | ⟨_, -, rfl⟩) | ⟨_, -, rfl⟩ <;> simp

theorem topicFindings_category {text : String} {policies : List TenantPolicy}
    {findings : List PolicyFinding} (h : topicFindings py text policies = .ok findings)
    {f : PolicyFinding} (hf : f ∈ findings) : f.category ≠ "" := by
  rcases bind_eq_ok h with ⟨builtIns, hbuiltIns, h⟩
  rcases bind_eq_ok h with ⟨custom, hcustom, h⟩
  cases h
  rcases List.mem_append.mp hf with hf | hf
  · rcases List.mem_flatten.mp hf with ⟨found, hfound, hf⟩
    rcases mem_of_mapM_eq_ok hbuiltIns hfound with ⟨builtIn, hmem, hfind⟩
    have hcategory : builtIn.1 ≠ "" := by
      rcases List.mem_cons.mp hmem with rfl | hmem
      · simp
      · rcases List.mem_pair.mp hmem with rfl | rfl <;> simp
    unfold builtInTopicFindings at hfind
    cases hpolicy : matchingPolicyForCategory py builtIn.1 policies with
    | none =>
        rw [hpolicy] at hfind
        cases hfind
        cases hf
    | some policy =>
        rw [hpolicy] at hfind
        rcases mem_of_mapM_eq_ok hfind hf with ⟨_, -, htopic⟩
        rw [topicFinding_category py htopic]
        exact hcategory
  · rcases List.mem_flatten.mp hf with ⟨found, hfound, hf⟩
    rcases mem_of_mapM_eq_ok hcustom hfound with ⟨policy, -, hfind⟩
    rcases bind_eq_ok hfind with ⟨blocked, hblocked, hfind⟩
    rcases bind_eq_ok hfind with ⟨outside, houtside, hfind⟩
    cases hfind
    have htopic : ∃ reason pattern,
        topicFinding py policy "CUSTOMER_DEFINED_TOPICS" reason pattern = .ok f := by
      rcases List.mem_append.mp hf with hf | hf
      · rcases mem_of_mapM_eq_ok hblocked hf with ⟨pattern, -, hpattern⟩
        exact ⟨_, pattern, hpattern⟩
      · rcases mem_of_mapM_eq_ok houtside hf with ⟨pattern, -, hpattern⟩
        exact ⟨_, pattern, hpattern⟩
    rcases htopic with ⟨_, _, htopic⟩
    rw [topicFinding_category py htopic]
    simp

theorem keywordFindings_category {text : String} {policies : List TenantPolicy}
    {f : PolicyFinding} (hf : f ∈ keywordFindings py text policies) : f.category ≠ "" := by
  rcases List.mem_flatMap.mp hf with ⟨policy, -, hf⟩
  rcases List.mem_map.mp hf with ⟨_, -, rfl⟩
  exact categoryForPolicy_ne_empty py policy

/-- Every finding names a category. -/
theorem collectFindings_category_ne_empty {text : String} {items : List DetectorFinding}
    {policies : List TenantPolicy} {findings : List PolicyFinding}
    (h : collectFindings py text items policies = .ok findings) {f : PolicyFinding}
    (hf : f ∈ findings) : f.category ≠ "" := by
  rcases bind_eq_ok h with ⟨detected, hdetected, h⟩
  rcases bind_eq_ok h with ⟨topics, htopics, h⟩
  cases h
  simp only [List.mem_append] at hf
  rcases hf with ((hf | hf) | hf) | hf
  · exact detectorFindings_category py hdetected hf
  · exact baselineSecurityFindings_category py hf
  · exact topicFindings_category py htopics hf
  · exact keywordFindings_category py hf

/-- The agent approves `ALLOW` and `REDACT`. -/
theorem policyAgentEvaluate_approved {detect : String → String × List DetectorFinding}
    {text : String} {policies : List TenantPolicy} {result : PolicyAgentResult}
    (h : policyAgentEvaluate py detect text policies = .ok result) :
    result.approved = true ↔
      result.policyDecision = .allow ∨ result.policyDecision = .redact := by
  rcases bind_eq_ok h with ⟨r, -, h⟩
  cases h
  simp

/-- A request that needs an approval and one that is blocked are not approved. -/
theorem policyAgentEvaluate_refused {detect : String → String × List DetectorFinding}
    {text : String} {policies : List TenantPolicy} {result : PolicyAgentResult}
    (h : policyAgentEvaluate py detect text policies = .ok result) :
    result.approved = false ↔
      result.policyDecision = .requireApproval ∨ result.policyDecision = .block := by
  rw [← Bool.not_eq_true, policyAgentEvaluate_approved py h]
  cases result.policyDecision <;> simp

/-- A decision that does not approve names a category. -/
theorem policyAgentEvaluate_category_ne_empty
    {detect : String → String × List DetectorFinding} {text : String}
    {policies : List TenantPolicy} {result : PolicyAgentResult}
    (h : policyAgentEvaluate py detect text policies = .ok result)
    (hrefused : result.approved = false) : result.category ≠ "" := by
  rcases bind_eq_ok h with ⟨r, hr, h⟩
  rcases bind_eq_ok hr with ⟨findings, hfindings, hr⟩
  cases hr
  cases h
  simp only [Bool.or_eq_false_iff, decide_eq_false_iff_not] at hrefused
  simp only [resultOf] at hrefused ⊢
  have hne : findings ≠ [] := by
    rintro rfl
    simp only [List.map_nil, finalAction] at hrefused
    by_cases hitems : (detect text).2 = []
    · simp [hitems] at hrefused
    · simp [hitems] at hrefused
  have hsorted : py.sortedSet categoryPriority (findings.map PolicyFinding.category) ≠ [] :=
    py.sortedSet_ne_nil categoryPriority (by simpa using hne)
  rcases List.exists_cons_of_ne_nil hsorted with ⟨category, rest, hcons⟩
  rw [hcons]
  simp only
  intro hempty
  have hmem : category ∈ findings.map PolicyFinding.category := by
    rw [← py.mem_sortedSet categoryPriority, hcons]
    simp
  rcases List.mem_map.mp hmem with ⟨f, hf, hcategory⟩
  apply collectFindings_category_ne_empty py hfindings hf
  rw [hcategory]
  exact py.lower_eq_empty _ hempty

end

end AuthClaw.Policy
