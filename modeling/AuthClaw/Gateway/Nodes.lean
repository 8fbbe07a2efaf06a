import AuthClaw.Gateway.State
import AuthClaw.Audit.Writer

/-!
# The nodes of the chat graph

The eleven node functions of the graph.  What a run is given is split in two: the
{lit}`Inputs` a request is judged by (policies, detectors, risk keywords) and the
{lit}`Outcomes` of the calls its nodes make (timeouts, the approval store, the
provider, the retriever, the audit table).  A node yields the events it causes and
the state it returns, or the exception it raises.

Main results:

- Theorem {lit}`blockSeen_iff`: a finding blocks when it names the action.
- Theorems {lit}`applyEvaluation_requireApproval`, {lit}`applyEvaluation_block` and
  {lit}`applyEvaluation_approved`: the flags after each decision.
- Theorem {lit}`llmNode_approved`: an allowed and approved request with a selected
  provider calls it.
-/

namespace AuthClaw.Gateway

open Policy PythonText

/-! ## What a run is given -/

/-- What a request is judged by. -/
structure Inputs where
  py : PyText
  passing : StatePassing
  /-- `PolicyEngine.load_policies`. -/
  policies : Int → List TenantPolicy
  /-- `SensitiveDataDetector.redact`. -/
  detect : Int → String → String × List DetectorFinding
  /-- `redact_sensitive_data_rich`. -/
  redactRich : Int → String → String × List Finding
  highRiskKeywords : List String
  mediumRiskKeywords : List String

/-- How the calls of the nodes end. -/
structure Outcomes where
  riskTimesOut : Bool
  createApproval : Except PyError String
  selectProvider : Except PyError ProviderSelection
  legacyProvider : Except PyError ProviderSelection
  retrieveContext : String → Except PyError String
  historyText : String
  generate : String → Except PyError String
  sanitizeOutput : String → String × List Finding
  recordAudit : Except PyError Int

/-! ## What a run does -/

/-- The nodes of the workflow. -/
inductive Node where
  | orchestrator
  | redact
  | policy
  | risk
  | decision
  | approval
  | providerRouter
  | rag
  | llm
  | responseChecks
  | audit
deriving DecidableEq

/-- The arguments of `create_approval`. -/
structure ApprovalRequest where
  query : String
  riskLevel : RiskLevel
  sessionId : String
  tenantId : Option Int
  requestId : Option String
  reason : String
  policyDecision : Option String
  securityPolicyAction : Option String
  blockCategory : Option String
  blockReason : Option String
deriving DecidableEq

/-- What a run is observed by. -/
inductive Event where
  | visited (node : Node)
  | inspected (findings : List Finding)
  | policyDecided (decision : Action)
  | approvalCreated (request : ApprovalRequest)
  | providerCalled (prompt : String)
  | audited (block : Audit.BlockArgs)
deriving DecidableEq

/-- The events a node causes and the state it returns. -/
abbrev NodeResult := List Event × Except PyError AuthState

section

variable (inputs : Inputs) (outcomes : Outcomes)

/-- `state.get("tenant_id", 1)`. -/
def AuthState.tenant (s : AuthState) : Int :=
  s.tenantId.getD 1

/-- `state.get("username", "admin_user")`. -/
def AuthState.username (s : AuthState) : String :=
  s.undeclared.username.getD "admin_user"

/-! ## Orchestrator -/

/-- The task classification of a message. -/
def taskTypeOf (message : String) : String :=
  let message := inputs.py.lower message
  if contains "gdpr" message then "gdpr"
  else if contains "hipaa" message then "hipaa"
  else if contains "soc2" message then "soc2"
  else "general"

/-- `orchestrator_node`. -/
def orchestratorNode (s : AuthState) : NodeResult :=
  ([], .ok { s with taskType := some (taskTypeOf inputs s.message) })

/-! ## Redaction -/

/-- `SecurityAgent.prompt_injection_terms`. -/
def promptInjectionTerms : List String :=
  ["ignore previous instructions", "ignore all instructions", "reveal system prompt",
    "show internal system prompts", "disable audit", "disable logging", "bypass policies"]

/-- The finding of one prompt-injection term. -/
def termFinding (term : String) : Finding where
  policyName := "Security Agent"
  policyType := "prompt_injection"
  matchedPattern := term
  redactedValue := "N/A"
  action := some "block"

/-- The findings of `SecurityAgent.inspect_input`. -/
def inspectFindings (tenant : Int) (text : String) : List Finding :=
  (inputs.redactRich tenant text).2 ++
    (promptInjectionTerms.filter (fun term => contains term (inputs.py.lower text))).map termFinding

/-- The lowered actions of the findings, with the reader's default. -/
def findingActions (default : String) (findings : List Finding) : List String :=
  findings.map (fun f => inputs.py.lower (f.action.getD default))

/-- Some finding blocks. -/
def blockSeen (findings : List Finding) : Prop :=
  "block" ∈ findingActions inputs "redact" findings

instance (findings : List Finding) : Decidable (blockSeen inputs findings) :=
  inferInstanceAs (Decidable ("block" ∈ _))

/-- What `redact_node` writes before the message. -/
def redactFlags (findings : List Finding) (s : AuthState) : AuthState :=
  let s := { s with undeclared := { s.undeclared with
    securityApproved := some (!decide ("block" ∈ findingActions inputs "" findings))
    securityFindings := some findings
    securityPolicyAction := some "allow" } }
  if blockSeen inputs findings then
    { s with
      allowed := some false
      blockReason := some "Sensitive data policy blocked the request before provider execution."
      blockCategory := some "sensitive_data"
      undeclared := { s.undeclared with
        policyDecision := some "block"
        securityPolicyAction := some "block" } }
  else if "require_approval" ∈ findingActions inputs "redact" findings then
    { s with
      riskLevel := some .high
      undeclared := { s.undeclared with securityPolicyAction := some "require_approval" } }
  else s

/-- `redact_node`. -/
def redactNode (s : AuthState) : NodeResult :=
  let findings := inspectFindings inputs s.tenant s.message
  let marked := redactFlags inputs findings s
  ([.inspected findings],
    .ok { marked with
      triggeredPolicies := some (marked.triggeredPolicies.getD [] ++ findings)
      message := (inputs.redactRich s.tenant s.message).1 })

/-! ## Policy -/

/-- `PolicyFinding.to_dict`, as far as the state's readers use it. -/
def policyFindingEntry (f : PolicyFinding) : Finding where
  policyName := f.policyName
  policyType := f.policyType
  matchedPattern := f.matchedPattern
  redactedValue := f.redactedValue
  action := some (inputs.py.lower f.action.text)

/-- The evaluation the policy node asks for. -/
def evaluation (tenant : Int) (text : String) : Except PyError PolicyAgentResult :=
  policyAgentEvaluate inputs.py (inputs.detect tenant) text (inputs.policies tenant)

/-- The first writes of `policy_node`. -/
def policyDefaults (s : AuthState) : AuthState :=
  { s with
    originalQuery := Audit.orElse s.originalQuery (some s.message)
    triggeredPolicies := some (s.triggeredPolicies.getD []) }

/-- The branch that keeps the Security Agent's block. -/
def preserveSecurityBlock (s : AuthState) : AuthState :=
  { s with
    allowed := some false
    blockReason := some (s.blockReason.getD
      "Sensitive data policy blocked the request before provider execution.")
    blockCategory := some (s.blockCategory.getD "sensitive_data")
    undeclared := { s.undeclared with
      policyDecision := some (s.undeclared.policyDecision.getD "block") } }

/-- The writes of `policy_node` after its evaluation. -/
def applyEvaluation (result : PolicyAgentResult) (s : AuthState) : AuthState :=
  let s := { s with triggeredPolicies := some (s.triggeredPolicies.getD [] ++
    result.violatedPolicies.map (policyFindingEntry inputs)) }
  if result.approved = false ∧ result.category ≠ "" then
    let s :=
      if result.policyDecision = .requireApproval then
        { s with
          allowed := some true
          riskLevel := some .high
          approvalStatus := some .pendingApproval }
      else { s with allowed := some false }
    { s with
      blockReason := some result.reason
      blockCategory := some result.category
      undeclared := { s.undeclared with policyDecision := some result.policyDecision.text } }
  else
    let s :=
      if result.policyDecision = .redact ∧ result.redactedText ≠ "" then
        { s with message := result.redactedText, riskLevel := some result.riskLevel }
      else s
    let s :=
      if result.policyVersions.isEmpty then s
      else { s with undeclared := { s.undeclared with
        policyVersions := some result.policyVersions } }
    { s with
      allowed := some result.approved
      undeclared := { s.undeclared with policyDecision := some result.policyDecision.text } }

/-- `policy_node`. -/
def policyNode (s : AuthState) : NodeResult :=
  let text := s.message
  let s := policyDefaults s
  if s.undeclared.securityApproved = some false then ([], .ok (preserveSecurityBlock s))
  else
    match evaluation inputs s.tenant text with
    | .error e => ([], .error e)
    | .ok result =>
        ([.policyDecided result.policyDecision], .ok (applyEvaluation inputs result s))

/-! ## Risk and decision -/

/-- `calculate_risk`. -/
def calculateRisk (query : String) : RiskLevel :=
  let query := inputs.py.lower query
  if inputs.highRiskKeywords.any (fun word => contains word query) then .high
  else if inputs.mediumRiskKeywords.any (fun word => contains word query) then .medium
  else .low

/-- The level `risk_node` settles on, given the security findings it sees. -/
def riskLevelOf (message : String) (findings : List Finding) : RiskLevel :=
  let level := calculateRisk inputs message
  let actions := findingActions inputs "" findings
  if "block" ∈ actions ∨ "require_approval" ∈ actions then .high
  else if findings ≠ [] ∧ level = .low then .medium
  else level

/-- `risk_node`. -/
def riskNode (s : AuthState) : NodeResult :=
  if outcomes.riskTimesOut then ([], .error .timeoutError)
  else
    ([], .ok { s with
      riskLevel := some (riskLevelOf inputs s.message (s.undeclared.securityFindings.getD [])) })

/-- `DecisionEngine.evaluate`. -/
def decide (s : AuthState) : Decision × String :=
  if s.allowed.getD true = false then (.block, s.blockReason.getD "policy_violation")
  else if s.approvalStatus = some .approved then (.allow, "approval_already_granted")
  else if s.approvalStatus = some .pendingApproval ∨ s.riskLevel = some .high then
    (.requireApproval, "high_risk_request")
  else (.allow, "policy_and_risk_checks_passed")

/-- `decision_node`. -/
def decisionNode (s : AuthState) : NodeResult :=
  ([], .ok { s with
    decision := some (Gateway.decide s).1
    decisionReason := some (Gateway.decide s).2 })

/-! ## Approval -/

/-- `_approval_reason`. -/
def approvalReason (s : AuthState) : String :=
  if s.undeclared.unknownProviderRisk = some true then "unknown_provider_risk"
  else if s.undeclared.securityPolicyAction = some "require_approval" ∨
      s.blockCategory ∈ [some "pii", some "secrets", some "sensitive_data"] then
    "sensitive_data"
  else if s.undeclared.policyDecision ∈ [some "REQUIRE_APPROVAL", some "BLOCK"] ∨
      s.blockReason = some "policy_violation" then
    "policy_violation"
  else "high_risk"

/-- The arguments `approval_node` creates an approval with. -/
def approvalRequest (s : AuthState) (riskLevel : RiskLevel) : ApprovalRequest where
  query := s.message
  riskLevel := riskLevel
  sessionId := s.sessionId.getD ""
  tenantId := s.tenantId
  requestId := s.requestId
  reason := approvalReason s
  policyDecision := s.undeclared.policyDecision
  securityPolicyAction := s.undeclared.securityPolicyAction
  blockCategory := s.blockCategory
  blockReason := s.blockReason

/-- `approval_node`. -/
def approvalNode (s : AuthState) : NodeResult :=
  if s.approvalStatus = some .approved then ([], .ok s)
  else
    match s.riskLevel with
    | none => ([], .error .other)
    | some .high =>
        match outcomes.createApproval with
        | .error e => ([], .error e)
        | .ok approvalId =>
            ([.approvalCreated (approvalRequest s .high)],
              .ok { s with
                approvalId := some approvalId
                approvalStatus := some .pendingApproval
                undeclared := { s.undeclared with approvalReason := some (approvalReason s) } })
    | some _ => ([], .ok { s with approvalStatus := some .approved })

/-! ## Provider -/

/-- `provider_router_node`. -/
def providerRouterNode (s : AuthState) : NodeResult :=
  if s.allowed.getD true = false ∨ s.approvalStatus = some .pendingApproval then ([], .ok s)
  else
    match outcomes.selectProvider with
    | .error e => ([], .error e)
    | .ok selection =>
        ([], .ok { s with
          providerClient := some selection
          provider := some selection.providerName
          model := some selection.model
          routeId := selection.routeId
          providerRouteSource := some selection.source })

/-- `rag_node`. -/
def ragNode (s : AuthState) : NodeResult :=
  match outcomes.retrieveContext s.message with
  | .error e => ([], .error e)
  | .ok context => ([], .ok { s with context := some context })

/-- `_build_prompt`. -/
def buildPrompt (s : AuthState) : String :=
  "\nYou are a compliance assistant.\n\nConversation History:\n" ++ outcomes.historyText ++
    "\n\nCompliance Context:\n" ++ s.context.getD "" ++ "\n\nUser Question:\n" ++ s.message ++ "\n"

/-- `_offline_provider_fallback`. -/
def offlineProviderFallback : String :=
  "[Offline Fallback] The configured model provider is currently unavailable. " ++
    "AuthClaw completed the gateway security, policy, and audit checks, but the " ++
    "upstream LLM call could not be completed. Check the Providers page, API " ++
    "credentials, and outbound network access, then try again."

/-- The text of an exception. -/
def errorText : PyError → String
  | .attributeError => "AttributeError"
  | .valueError => "ValueError"
  | .timeoutError => "Model provider generate call timed out after 30 seconds"
  | .recursionError => "GraphRecursionError"
  | .other => "Exception"

/-- The state after a failed provider call. -/
def offlineState (e : PyError) (s : AuthState) : AuthState :=
  { s with
    response := some offlineProviderFallback
    undeclared := { s.undeclared with
      providerStatus := some "offline_fallback"
      providerError := some (errorText e) } }

/-- The provider call of `llm_node`; an exception ends in the offline text. -/
def callProvider (s : AuthState) : NodeResult :=
  let prompt := buildPrompt outcomes s
  match outcomes.generate prompt with
  | .ok response => ([.providerCalled prompt], .ok { s with response := some response })
  | .error e => ([.providerCalled prompt], .ok (offlineState e s))

/-- `llm_node`. -/
def llmNode (s : AuthState) : NodeResult :=
  if s.approvalStatus = some .pendingApproval then ([], .ok s)
  else
    match s.allowed with
    | none => ([], .error .other)
    | some false => ([], .ok { s with response := some "Policy Violation" })
    | some true =>
        match s.providerClient, outcomes.legacyProvider with
        | some _, _ => callProvider outcomes s
        | none, .ok selection =>
            callProvider outcomes { s with
              provider := some selection.providerName
              model := some selection.model
              providerRouteSource := some "legacy_provider_fallback" }
        | none, .error e => ([], .ok (offlineState e s))

/-- `response_checks_node`. -/
def responseChecksNode (s : AuthState) : NodeResult :=
  let checked := outcomes.sanitizeOutput (s.response.getD "")
  ([], .ok { s with
    triggeredPolicies := some (s.triggeredPolicies.getD [] ++ checked.2)
    response := some checked.1 })

/-! ## Audit -/

/-- The text of a risk level. -/
def riskText : RiskLevel → String
  | .low => "LOW"
  | .medium => "MEDIUM"
  | .high => "HIGH"

/-- `status_to_log`. -/
def statusToLog (s : AuthState) : String :=
  if s.approvalStatus = some .pendingApproval then "pending"
  else if s.allowed.getD true = false then "blocked"
  else
    match s.approvalStatus with
    | some .approved => "APPROVED"
    | some (.other text) => if text = "N/A" then "completed" else text
    | _ => "completed"

/-- One member of every triggered policy, joined without repetition. -/
def joinTriggered (member : Finding → String) (triggered : List Finding) : Option String :=
  if triggered.isEmpty then none
  else some (", ".intercalate (inputs.py.setOrder (triggered.map member)))

/-- The audit block `AuditAgent.record` writes. -/
def auditBlock (s : AuthState) : Audit.BlockArgs :=
  let triggered := s.triggeredPolicies.getD []
  { query := some (s.originalQuery.getD s.message)
    response := some (s.response.getD "BLOCKED BY POLICY")
    allowed := some (s.allowed.getD true)
    riskLevel := some (riskText (s.riskLevel.getD .low))
    approvalStatus := some (statusToLog s)
    approvalId := s.approvalId
    approver := some (if s.approvalStatus = some .pendingApproval then "System" else s.username)
    originalRequest := some (s.originalQuery.getD s.message)
    approvalTimestamp := none
    executionTimestamp := none
    executionStatus := some (statusToLog s)
    policyName := joinTriggered inputs Finding.policyName triggered
    policyType := joinTriggered inputs Finding.policyType triggered
    matchedPattern := joinTriggered inputs Finding.matchedPattern triggered
    redactedValue := joinTriggered inputs Finding.redactedValue triggered
    username := some s.username
    tenantId := some s.tenant }

/-- `audit_node`. -/
def auditNode (s : AuthState) : NodeResult :=
  match outcomes.recordAudit with
  | .error e => ([.audited (auditBlock inputs s)], .error e)
  | .ok recordId =>
      ([.audited (auditBlock inputs s)],
        .ok { s with undeclared := { s.undeclared with auditRecordId := some recordId } })

/-- The function of each node. -/
def runNode : Node → AuthState → NodeResult
  | .orchestrator => orchestratorNode inputs
  | .redact => redactNode inputs
  | .policy => policyNode inputs
  | .risk => riskNode inputs outcomes
  | .decision => decisionNode
  | .approval => approvalNode outcomes
  | .providerRouter => providerRouterNode outcomes
  | .rag => ragNode outcomes
  | .llm => llmNode outcomes
  | .responseChecks => responseChecksNode outcomes
  | .audit => auditNode inputs outcomes

/-! ## What the nodes do -/

/-- A finding blocks when it names the action, whatever a reader's default is. -/
theorem blockSeen_iff (findings : List Finding) :
    blockSeen inputs findings ↔ "block" ∈ findingActions inputs "" findings := by
  have hempty : inputs.py.lower "" = "" := by
    rw [inputs.py.lower_ascii "" (by decide)]
    decide
  have hredact : inputs.py.lower "redact" = "redact" := by
    rw [inputs.py.lower_ascii "redact" (by decide)]
    decide
  unfold blockSeen findingActions
  rw [List.mem_map, List.mem_map]
  constructor
  · rintro ⟨f, hf, haction⟩
    cases h : f.action with
    | none =>
        rw [h, Option.getD_none, hredact] at haction
        simp at haction
    | some action => exact ⟨f, hf, by rw [← haction, h]; rfl⟩
  · rintro ⟨f, hf, haction⟩
    cases h : f.action with
    | none =>
        rw [h, Option.getD_none, hempty] at haction
        simp at haction
    | some action => exact ⟨f, hf, by rw [← haction, h]; rfl⟩

section

variable {result : PolicyAgentResult} (s : AuthState)

/-- After `REQUIRE_APPROVAL` the request is allowed, pending and of high risk. -/
theorem applyEvaluation_requireApproval (hrefused : result.approved = false)
    (hcategory : result.category ≠ "") (hdecision : result.policyDecision = .requireApproval) :
    (applyEvaluation inputs result s).allowed = some true ∧
      (applyEvaluation inputs result s).approvalStatus = some .pendingApproval ∧
      (applyEvaluation inputs result s).message = s.message ∧
      (applyEvaluation inputs result s).undeclared.securityFindings =
        s.undeclared.securityFindings := by
  unfold applyEvaluation
  simp [hrefused, hcategory, hdecision]

/-- After `BLOCK` the request is refused. -/
theorem applyEvaluation_block (hrefused : result.approved = false)
    (hdecision : result.policyDecision ≠ .requireApproval) :
    (applyEvaluation inputs result s).allowed = some false := by
  unfold applyEvaluation
  by_cases hcategory : result.category = ""
  · simp [hrefused, hcategory]
  · simp [hrefused, hcategory, hdecision]

/-- After an approving decision the request is allowed and its status is kept. -/
theorem applyEvaluation_approved (happroved : result.approved = true) :
    (applyEvaluation inputs result s).allowed = some true ∧
      (applyEvaluation inputs result s).approvalStatus = s.approvalStatus := by
  unfold applyEvaluation
  by_cases hredact : result.policyDecision = .redact ∧ result.redactedText ≠ ""
  · by_cases hversions : result.policyVersions.isEmpty = true <;>
      simp [happroved, hredact, hversions]
  · by_cases hversions : result.policyVersions.isEmpty = true <;>
      simp [happroved, hredact, hversions]

/-- The provider call is observed whatever its outcome. -/
theorem callProvider_events (outcomes : Outcomes) :
    (callProvider outcomes s).1 = [.providerCalled (buildPrompt outcomes s)] := by
  unfold callProvider
  cases h : outcomes.generate (buildPrompt outcomes s) <;> simp only [h]

/-- An allowed and approved request with a selected provider calls it and keeps
both flags. -/
theorem llmNode_approved (outcomes : Outcomes) (hallowed : s.allowed = some true)
    (happroved : s.approvalStatus = some .approved) (hclient : s.providerClient ≠ none) :
    ∃ s', llmNode outcomes s = ([.providerCalled (buildPrompt outcomes s)], .ok s') ∧
      s'.allowed = some true ∧ s'.approvalStatus = some .approved := by
  rcases Option.ne_none_iff_exists'.mp hclient with ⟨selection, hselection⟩
  have hcall : llmNode outcomes s = callProvider outcomes s := by
    unfold llmNode
    rw [happroved, hallowed, hselection]
    rfl
  rw [hcall]
  cases hgenerate : outcomes.generate (buildPrompt outcomes s) with
  | ok response =>
      refine ⟨{ s with response := some response }, ?_, hallowed, happroved⟩
      simp only [callProvider, hgenerate]
  | error e =>
      refine ⟨offlineState e s, ?_, hallowed, happroved⟩
      simp only [callProvider, hgenerate]

end

end

end AuthClaw.Gateway
