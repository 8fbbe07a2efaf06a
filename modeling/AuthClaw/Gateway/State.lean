import AuthClaw.Policy.Engine

/-!
# The state of the chat graph

{lit}`AuthState` declares the keys the compiled graph keeps between its nodes.  The
nodes also write and read keys that are not declared; a graph runtime that stores
one channel for each declared key does not hand those on.

Main results:

- Theorem {lit}`carry_declared`: handing a state on keeps every declared key.
-/

namespace AuthClaw.Gateway

open Policy

/-! ## Values -/

/-- The values of `approval_status`. -/
inductive ApprovalStatus where
  | approved
  | pendingApproval
  | other (text : String)
deriving DecidableEq

/-- The decisions of the decision engine. -/
inductive Decision where
  | allow
  | block
  | requireApproval
deriving DecidableEq

/-- The entries of `triggered_policies` and `security_findings`.  An entry of the
database redaction rules carries no action. -/
structure Finding where
  policyName : String
  policyType : String
  matchedPattern : String
  redactedValue : String
  action : Option String
deriving DecidableEq

/-- What `ProviderRouter.select` returns. -/
structure ProviderSelection where
  routeId : Option String
  providerName : String
  model : String
  source : String
deriving DecidableEq

/-! ## The state -/

/-- The keys nodes use although `AuthState` does not declare them. -/
structure Undeclared where
  username : Option String
  securityApproved : Option Bool
  securityFindings : Option (List Finding)
  securityPolicyAction : Option String
  policyDecision : Option String
  policyVersions : Option (List PolicyVersion)
  approvalReason : Option String
  unknownProviderRisk : Option Bool
  auditRecordId : Option Int
  providerStatus : Option String
  providerError : Option String
deriving DecidableEq

/-- No undeclared key is set. -/
def Undeclared.empty : Undeclared where
  username := none
  securityApproved := none
  securityFindings := none
  securityPolicyAction := none
  policyDecision := none
  policyVersions := none
  approvalReason := none
  unknownProviderRisk := none
  auditRecordId := none
  providerStatus := none
  providerError := none

/-- `AuthState`: the declared keys the nodes use, and the undeclared ones. -/
structure AuthState where
  message : String
  sessionId : Option String
  requestId : Option String
  routeId : Option String
  provider : Option String
  providerClient : Option ProviderSelection
  providerRouteSource : Option String
  model : Option String
  decision : Option Decision
  decisionReason : Option String
  allowed : Option Bool
  blockReason : Option String
  blockCategory : Option String
  response : Option String
  context : Option String
  taskType : Option String
  riskLevel : Option RiskLevel
  approvalStatus : Option ApprovalStatus
  approvalId : Option String
  triggeredPolicies : Option (List Finding)
  originalQuery : Option String
  tenantId : Option Int
  undeclared : Undeclared
deriving DecidableEq

/-! ## Handing a state on -/

/-- What the runtime hands from one node to the next: one channel for each declared
key, or the dictionary as the node returned it. -/
inductive StatePassing where
  | schemaChannels
  | wholeDict
deriving DecidableEq

/-- The state the next node receives. -/
def StatePassing.carry : StatePassing → AuthState → AuthState
  | .schemaChannels, s => { s with undeclared := Undeclared.empty }
  | .wholeDict, s => s

/-- What is left of the security findings after they are handed on. -/
def StatePassing.handOn : StatePassing → List Finding → List Finding
  | .schemaChannels, _ => []
  | .wholeDict, findings => findings

/-- Handing a state on keeps every declared key. -/
theorem carry_declared (passing : StatePassing) (s : AuthState) :
    ∃ u, passing.carry s = { s with undeclared := u } := by
  cases passing with
  | schemaChannels => exact ⟨Undeclared.empty, rfl⟩
  | wholeDict => exact ⟨s.undeclared, rfl⟩

section

variable (passing : StatePassing) (s : AuthState)

@[simp]
theorem carry_message : (passing.carry s).message = s.message := by
  cases passing <;> rfl

@[simp]
theorem carry_allowed : (passing.carry s).allowed = s.allowed := by
  cases passing <;> rfl

@[simp]
theorem carry_riskLevel : (passing.carry s).riskLevel = s.riskLevel := by
  cases passing <;> rfl

@[simp]
theorem carry_approvalStatus : (passing.carry s).approvalStatus = s.approvalStatus := by
  cases passing <;> rfl

@[simp]
theorem carry_tenantId : (passing.carry s).tenantId = s.tenantId := by
  cases passing <;> rfl

@[simp]
theorem carry_providerClient : (passing.carry s).providerClient = s.providerClient := by
  cases passing <;> rfl

theorem carry_securityFindings :
    (passing.carry s).undeclared.securityFindings.getD [] =
      passing.handOn (s.undeclared.securityFindings.getD []) := by
  cases passing <;> rfl

theorem handOn_handOn (findings : List Finding) :
    passing.handOn (passing.handOn findings) = passing.handOn findings := by
  cases passing <;> rfl

end

end AuthClaw.Gateway
