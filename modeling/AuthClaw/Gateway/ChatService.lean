import AuthClaw.Gateway.Blocking

/-!
# What a chat is answered and recorded as

{lit}`execute_chat` of {lit}`services/gateway_service.py` runs the graph and registers the request,
and {lit}`chat_completions` of {lit}`main.py` answers from the state the run ends in.  The answer
and the record are read from different members of the state.

Main results:

- Theorem {lit}`coherent_of_run`: a run does not end both refused and waiting for an approval.
- Theorem {lit}`calls_of_not_visits`: only the model node calls a provider.
- Theorem {lit}`chat_accounted`: what each answer says about the run and its record.
-/

namespace AuthClaw.Gateway

open Policy PythonText

/-! ## The service -/

/-- A call of `execute_chat`, with the ids that are drawn in it. -/
structure ChatCall where
  message : String
  sessionId : String
  username : String
  tenantId : Int
  requestId : String
  routeId : Option String
  provider : String
  model : String

/-- The state `execute_chat` starts the graph with. -/
def ChatCall.state (c : ChatCall) : AuthState where
  message := c.message
  sessionId := some c.sessionId
  requestId := some c.requestId
  routeId := c.routeId
  provider := some c.provider
  providerClient := none
  providerRouteSource := none
  model := some c.model
  decision := none
  decisionReason := none
  allowed := none
  blockReason := none
  blockCategory := none
  response := none
  context := none
  taskType := none
  riskLevel := none
  approvalStatus := none
  approvalId := none
  triggeredPolicies := none
  originalQuery := none
  tenantId := some c.tenantId
  undeclared := { Undeclared.empty with username := some c.username }

/-- A row `register_gateway_request` records. -/
structure GatewayRequestRow where
  riskLevel : String
  allowed : Bool
  status : String
  requestId : String
  sessionId : String
  tenantId : Int
  routeId : Option String
  provider : String
  model : String
  decision : Option String

/-- `GatewayExecution`. -/
structure GatewayExecution where
  requestId : String
  tenantId : Int
  sessionId : String
  result : AuthState
  provider : String
  model : String
  routeId : Option String
  decision : Option String

/-- The exceptions of `execute_chat`. -/
inductive ChatFailure where
  /-- `GatewayProviderConfigurationError`. -/
  | providerConfiguration
  /-- `GatewayProviderUnavailableError`. -/
  | providerUnavailable
deriving DecidableEq

/-- The text of a decision. -/
def Decision.text : Decision → String
  | .allow => "ALLOW"
  | .block => "BLOCK"
  | .requireApproval => "REQUIRE_APPROVAL"

/-- `first or second` of a text. -/
def textOr (first : Option String) (second : String) : String :=
  match first with
  | some text => if text = "" then second else text
  | none => second

/-- The status a request is registered with. -/
def registeredStatus (s : AuthState) : String :=
  if s.approvalStatus = some .pendingApproval then "pending_approval"
  else if s.allowed.getD true then "allowed"
  else "blocked"

/-- `execute_chat`: the rows it registers, and how it ends. -/
def executeChat (inputs : Inputs) (outcomes : Outcomes) (c : ChatCall) :
    List GatewayRequestRow × Except ChatFailure GatewayExecution :=
  match (invoke inputs outcomes c.state).result with
  | .error .valueError => ([], .error .providerConfiguration)
  | .error _ =>
      ([⟨"UNKNOWN", false, "provider_unavailable", c.requestId, c.sessionId, c.tenantId, c.routeId,
        c.provider, c.model, some "PROVIDER_UNAVAILABLE"⟩], .error .providerUnavailable)
  | .ok s =>
      let routeId := if (s.routeId.getD "") = "" then c.routeId else s.routeId
      let provider := textOr s.provider c.provider
      let model := textOr s.model c.model
      let decision := s.decision.map Decision.text
      ([⟨riskText (s.riskLevel.getD .low), s.allowed.getD true, registeredStatus s, c.requestId,
        c.sessionId, c.tenantId, routeId, provider, model, decision⟩],
      .ok ⟨c.requestId, c.tenantId, c.sessionId, s, provider, model, routeId, decision⟩)

/-! ## The endpoint -/

/-- What `chat_completions` answers. -/
inductive ChatAnswer where
  /-- 200, with the text of the response. -/
  | content (text : String)
  /-- 403, with the category of the block. -/
  | blocked (category : String)
  /-- 202, with the id of the approval. -/
  | approval (approvalId : Option String)
  /-- 500. -/
  | notConfigured
  /-- 503. -/
  | unavailable
deriving DecidableEq

/-- The answer to an execution. -/
def chatAnswer : Except ChatFailure GatewayExecution → ChatAnswer
  | .error .providerConfiguration => .notConfigured
  | .error .providerUnavailable => .unavailable
  | .ok execution =>
      let s := execution.result
      if s.allowed.getD true = false then .blocked (s.blockCategory.getD "data_exfiltration")
      else if s.approvalStatus = some .pendingApproval then .approval s.approvalId
      else .content (s.response.getD "No response generated")

/-! ## Runs do not end refused and waiting -/

/-- What the state before a node is like, of a request without an approval. -/
def Coherent : Node → AuthState → Prop
  | .orchestrator, s => s.approvalStatus ≠ some .pendingApproval
  | .redact, s => s.approvalStatus ≠ some .pendingApproval
  | .policy, s => s.approvalStatus ≠ some .pendingApproval
  | .audit, s => s.allowed = some true ∨ s.approvalStatus ≠ some .pendingApproval
  | _, s => s.allowed = some true

section

variable {inputs : Inputs} {outcomes : Outcomes} {s s' : AuthState} {n m : Node}
  {events : List Event}

theorem coherent_carry : Coherent n (inputs.passing.carry s) ↔ Coherent n s := by
  cases n <;> simp only [Coherent, carry_allowed, carry_approvalStatus]

/-- The policy node allows what it makes pending. -/
theorem applyEvaluation_pending (result : PolicyAgentResult)
    (h : s.approvalStatus ≠ some .pendingApproval) :
    (applyEvaluation inputs result s).allowed ≠ none ∧
      ((applyEvaluation inputs result s).allowed = some true ∨
        (applyEvaluation inputs result s).approvalStatus ≠ some .pendingApproval) := by
  unfold applyEvaluation
  dsimp only
  split_ifs <;> simp [h]

/-- Every node hands on a state as the next one expects it. -/
theorem coherent_next (hnode : runNode inputs outcomes n s = (events, .ok s'))
    (hnext : nextNode s' n = some m) (h : Coherent n s) : Coherent m s' := by
  cases n with
  | orchestrator =>
      cases hnode
      cases hnext
      exact h
  | redact =>
      cases hnode
      cases hnext
      show (redactFlags inputs _ s).approvalStatus ≠ _
      rw [(redactFlags_kept inputs s _).1]
      exact h
  | policy =>
      have hstate : s'.allowed ≠ none ∧
          (s'.allowed = some true ∨ s'.approvalStatus ≠ some .pendingApproval) := by
        change policyNode inputs s = _ at hnode
        unfold policyNode at hnode
        dsimp only at hnode
        split at hnode
        next =>
          cases hnode
          exact ⟨Option.some_ne_none _, Or.inr h⟩
        next =>
          split at hnode
          next => cases hnode
          next result _ =>
            cases hnode
            exact applyEvaluation_pending result h
      cases hnext
      unfold routeAfterPolicy
      cases hallowed : s'.allowed with
      | none => exact absurd hallowed hstate.1
      | some allowed =>
          cases allowed with
          | true => exact hallowed
          | false => exact hstate.2
  | risk =>
      change riskNode inputs outcomes s = _ at hnode
      unfold riskNode at hnode
      split at hnode
      next => cases hnode
      next =>
        cases hnode
        cases hnext
        exact h
  | decision =>
      cases hnode
      cases hnext
      exact h
  | approval =>
      have hallowed : s'.allowed = some true := by
        change approvalNode outcomes s = _ at hnode
        unfold approvalNode at hnode
        split at hnode
        next =>
          cases hnode
          exact h
        next =>
          split at hnode
          next => cases hnode
          next =>
            split at hnode
            next => cases hnode
            next =>
              cases hnode
              exact h
          next =>
            cases hnode
            exact h
      cases hnext
      unfold routeAfterApproval
      split
      next => exact hallowed
      next => exact Or.inl hallowed
  | providerRouter =>
      cases hnext
      change providerRouterNode outcomes s = _ at hnode
      unfold providerRouterNode at hnode
      split at hnode
      next =>
        cases hnode
        exact h
      next =>
        split at hnode
        next => cases hnode
        next =>
          cases hnode
          exact h
  | rag =>
      cases hnext
      change ragNode outcomes s = _ at hnode
      unfold ragNode at hnode
      split at hnode
      next => cases hnode
      next =>
        cases hnode
        exact h
  | llm =>
      cases hnext
      show s'.allowed = some true
      have hcall : ∀ s : AuthState, s.allowed = some true →
          callProvider outcomes s = (events, .ok s') → s'.allowed = some true := by
        intro s hs heq
        unfold callProvider at heq
        dsimp only at heq
        split at heq
        next =>
          cases heq
          exact hs
        next =>
          cases heq
          exact hs
      change llmNode outcomes s = _ at hnode
      unfold llmNode at hnode
      have hallowed : s.allowed = some true := h
      split at hnode
      next =>
        cases hnode
        exact h
      next =>
        split at hnode
        next hnone => cases hallowed.symm.trans hnone
        next hfalse => cases hallowed.symm.trans hfalse
        split at hnode
        next => exact hcall s h hnode
        next =>
          refine hcall _ ?_ hnode
          exact h
        next =>
          cases hnode
          exact h
  | responseChecks =>
      cases hnode
      cases hnext
      exact Or.inl h
  | audit => cases hnext

/-- A run does not end both refused and waiting for an approval. -/
theorem coherent_of_run {fuel : Nat} {final : AuthState} (h : Coherent n s)
    (hresult : (runFrom inputs outcomes fuel n s).result = .ok final) :
    final.allowed = some true ∨ final.approvalStatus ≠ some .pendingApproval := by
  induction fuel generalizing n s with
  | zero => cases hresult
  | succ fuel ih =>
      unfold runFrom at hresult
      rcases hnode : runNode inputs outcomes n s with ⟨events, result⟩
      rw [hnode] at hresult
      cases result with
      | error e => cases hresult
      | ok s' =>
          dsimp only at hresult
          cases hnext : nextNode (inputs.passing.carry s') n with
          | none =>
              rw [hnext] at hresult
              cases hresult
              cases n <;> cases hnext
              -- the audit node leads to the end
              rw [carry_allowed, carry_approvalStatus]
              change auditNode inputs outcomes s = _ at hnode
              unfold auditNode at hnode
              split at hnode
              next => cases hnode
              next =>
                cases hnode
                exact h
          | some m =>
              rw [hnext] at hresult
              have hnext' : nextNode s' n = some m := by
                rw [← hnext]
                cases n <;> simp only [nextNode, routeAfterPolicy, routeAfterApproval,
                  carry_allowed, carry_approvalStatus]
              exact ih (coherent_carry.mpr (coherent_next hnode hnext' h)) hresult

/-- The other nodes call no provider. -/
theorem runNode_uncalled (hn : n ≠ .llm) {result : Except PyError AuthState} :
    Run.calls ⟨(runNode inputs outcomes n s).1, result⟩ = [] := by
  cases n with
  | orchestrator => rfl
  | redact => rfl
  | policy =>
      change Run.calls ⟨(policyNode inputs s).1, result⟩ = []
      unfold policyNode
      dsimp only
      split
      next => rfl
      next => split <;> rfl
  | risk =>
      change Run.calls ⟨(riskNode inputs outcomes s).1, result⟩ = []
      unfold riskNode
      split <;> rfl
  | decision => rfl
  | approval =>
      change Run.calls ⟨(approvalNode outcomes s).1, result⟩ = []
      unfold approvalNode
      split
      next => rfl
      next =>
        split
        next => rfl
        next => split <;> rfl
        next => rfl
  | providerRouter =>
      change Run.calls ⟨(providerRouterNode outcomes s).1, result⟩ = []
      unfold providerRouterNode
      split
      next => rfl
      next => split <;> rfl
  | rag =>
      change Run.calls ⟨(ragNode outcomes s).1, result⟩ = []
      unfold ragNode
      split <;> rfl
  | llm => exact absurd rfl hn
  | responseChecks => rfl
  | audit =>
      change Run.calls ⟨(auditNode inputs outcomes s).1, result⟩ = []
      unfold auditNode
      split <;> rfl

/-- Only the model node calls a provider. -/
theorem calls_of_not_visits {fuel : Nat}
    (h : ¬(runFrom inputs outcomes fuel n s).visits .llm) :
    (runFrom inputs outcomes fuel n s).calls = [] := by
  induction fuel generalizing n s with
  | zero => rfl
  | succ fuel ih =>
      have hn : n ≠ .llm := by
        rintro rfl
        exact h (runFrom_visits inputs s outcomes fuel .llm)
      rcases hnode : runNode inputs outcomes n s with ⟨events, result⟩
      have hevents (result : Except PyError AuthState) :
          Run.calls ⟨.visited n :: events, result⟩ = [] := by
        have huncalled := @runNode_uncalled inputs outcomes s n hn result
        rw [hnode] at huncalled
        exact huncalled
      cases result with
      | error e =>
          rw [runFrom_error hnode]
          exact hevents _
      | ok s' =>
          cases hnext : nextNode (inputs.passing.carry s') n with
          | none =>
              unfold runFrom
              rw [hnode]
              dsimp only
              rw [hnext]
              exact hevents _
          | some m =>
              rw [runFrom_ok hnode hnext] at h ⊢
              rw [after_visits, not_or] at h
              rw [after_calls, hevents, ih h.2]
              rfl

end

/-! ## Answers and records -/

/-- What an answer says about the run behind it and the rows it left. -/
def Accounted (r : Run) (rows : List GatewayRequestRow) : ChatAnswer → Prop
  | .content _ =>
      r.created = [] ∧ r.calls ≠ [] ∧
        ∃ row, rows = [row] ∧ row.status = "allowed" ∧ row.allowed = true
  | .blocked _ =>
      r.created = [] ∧ r.calls = [] ∧
        ∃ row, rows = [row] ∧ row.status = "blocked" ∧ row.allowed = false
  | .approval _ =>
      r.created.length = 1 ∧ r.calls = [] ∧
        ∃ row, rows = [row] ∧ row.status = "pending_approval" ∧ row.allowed = true
  | .notConfigured => rows = [] ∧ r.result = .error .valueError
  | .unavailable =>
      (∃ row, rows = [row] ∧ row.status = "provider_unavailable" ∧ row.allowed = false) ∧
        ∃ e, e ≠ .valueError ∧ r.result = .error e

section

variable {inputs : Inputs} {outcomes : Outcomes} {c : ChatCall}

/-- A run that raises is accounted for whatever it did. -/
theorem accounted_error {e : PyError}
    (h : (invoke inputs outcomes c.state).result = .error e) :
    Accounted (invoke inputs outcomes c.state) (executeChat inputs outcomes c).1
      (chatAnswer (executeChat inputs outcomes c).2) := by
  unfold executeChat
  cases e with
  | valueError =>
      rw [h]
      exact ⟨rfl, h⟩
  | attributeError =>
      rw [h]
      exact ⟨⟨_, rfl, rfl, rfl⟩, _, by simp, h⟩
  | timeoutError =>
      rw [h]
      exact ⟨⟨_, rfl, rfl, rfl⟩, _, by simp, h⟩
  | recursionError =>
      rw [h]
      exact ⟨⟨_, rfl, rfl, rfl⟩, _, by simp, h⟩
  | other =>
      rw [h]
      exact ⟨⟨_, rfl, rfl, rfl⟩, _, by simp, h⟩

/-- A run that was routed and returns is answered with its text. -/
theorem accounted_routed {final : AuthState}
    (hcreated : (invoke inputs outcomes c.state).created = [])
    (hcalls : (invoke inputs outcomes c.state).calls ≠ [])
    (hresult : (invoke inputs outcomes c.state).result = .ok final)
    (hallowed : final.allowed = some true) (happroved : final.approvalStatus = some .approved) :
    Accounted (invoke inputs outcomes c.state) (executeChat inputs outcomes c).1
      (chatAnswer (executeChat inputs outcomes c).2) := by
  unfold executeChat chatAnswer registeredStatus
  rw [hresult]
  simp [hallowed, happroved, Accounted, hcreated, hcalls]

/-- A run that waits for an approval is answered with it. -/
theorem accounted_pending {final : AuthState}
    (hcreated : (invoke inputs outcomes c.state).created.length = 1)
    (hcalls : (invoke inputs outcomes c.state).calls = [])
    (hresult : (invoke inputs outcomes c.state).result = .ok final)
    (hallowed : final.allowed = some true)
    (hpending : final.approvalStatus = some .pendingApproval) :
    Accounted (invoke inputs outcomes c.state) (executeChat inputs outcomes c).1
      (chatAnswer (executeChat inputs outcomes c).2) := by
  unfold executeChat chatAnswer registeredStatus
  rw [hresult]
  simp [hallowed, hpending, Accounted, hcreated, hcalls]

/-- A refused run is answered with the block, and not registered as waiting. -/
theorem accounted_blocked {final : AuthState}
    (htail : BlockedTail outcomes (invoke inputs outcomes c.state))
    (hresult : (invoke inputs outcomes c.state).result = .ok final) :
    Accounted (invoke inputs outcomes c.state) (executeChat inputs outcomes c).1
      (chatAnswer (executeChat inputs outcomes c).2) := by
  have hallowed : final.allowed = some false := htail.kept final hresult
  have hwaiting : final.approvalStatus ≠ some .pendingApproval := by
    have hstart : Coherent .orchestrator (inputs.passing.carry c.state) :=
      coherent_carry.mpr (by simp [Coherent, ChatCall.state])
    rcases coherent_of_run hstart hresult with htrue | hwaiting
    · rw [hallowed] at htrue
      cases htrue
    · exact hwaiting
  have hcalls : (invoke inputs outcomes c.state).calls = [] :=
    calls_of_not_visits htail.unvisited.2.2
  unfold executeChat chatAnswer registeredStatus
  rw [hresult]
  simp [hallowed, hwaiting, Accounted, htail.noneCreated, hcalls]

/-- A request that waits behind the policy node, or is let through, is accounted
for. -/
theorem accounted_risk {sr : AuthState} {events : List Event}
    (hrun : invoke inputs outcomes c.state =
      (runFrom inputs outcomes 22 .risk sr).after events)
    (hcreated : Run.created ⟨events, (runFrom inputs outcomes 22 .risk sr).result⟩ = [])
    (hcalls : Run.calls ⟨events, (runFrom inputs outcomes 22 .risk sr).result⟩ = [])
    (hallowed : sr.allowed = some true) (hstatus : sr.approvalStatus ≠ some .approved) :
    Accounted (invoke inputs outcomes c.state) (executeChat inputs outcomes c).1
      (chatAnswer (executeChat inputs outcomes c).2) := by
  cases hresult : (invoke inputs outcomes c.state).result with
  | error e => exact accounted_error hresult
  | ok final =>
      have hrest : (runFrom inputs outcomes 22 .risk sr).result = .ok final := by
        rw [← hresult, hrun, after_result]
      by_cases hhigh :
          riskLevelOf inputs sr.message (sr.undeclared.securityFindings.getD []) = .high
      · have htail := @runFrom_risk_pending inputs outcomes 14 sr hallowed hstatus hhigh
        rcases htail.kept final hrest with ⟨hkept, hpending⟩
        refine accounted_pending ?_ ?_ hresult hkept hpending
        · rw [hrun, after_created, hcreated]
          exact htail.created final hrest
        · rw [hrun, after_calls, hcalls]
          exact htail.uncalled.2
      · have htail := @runFrom_risk_routed inputs outcomes 14 sr hallowed (Or.inr hhigh)
        rcases htail.kept final hrest with ⟨hkept, happroved⟩
        refine accounted_routed ?_ ?_ hresult hkept happroved
        · rw [hrun, after_created, hcreated]
          exact htail.noneCreated
        · rw [hrun, after_calls, hcalls]
          exact htail.called final hrest

end

/-- What a chat is answered accounts for what its run did and what is recorded of
it: text only after a provider call, a refusal or an approval only without one. -/
theorem chat_accounted (inputs : Inputs) (outcomes : Outcomes) (c : ChatCall) :
    Accounted (invoke inputs outcomes c.state) (executeChat inputs outcomes c).1
      (chatAnswer (executeChat inputs outcomes c).2) := by
  cases hresult : (invoke inputs outcomes c.state).result with
  | error e => exact accounted_error hresult
  | ok final =>
      by_cases hblocked : BlockHandedOn inputs c.state ∨ PolicyBlocks inputs c.state
      · exact accounted_blocked (invoke_blocked inputs c.state outcomes hblocked) hresult
      · rw [not_or] at hblocked
        rcases hblocked with ⟨hhanded, hpolicy⟩
        cases heval : policyEvaluation inputs c.state with
        | error e =>
            apply accounted_error
            rw [invoke_error inputs c.state outcomes hhanded heval]
        | ok result =>
            rcases policyEvaluation_cases inputs c.state heval with happroved | hpending | hblock
            · rcases invoke_approved inputs c.state outcomes hhanded heval happroved with
                ⟨sr, hrun, hallowed, hstatus⟩
              refine accounted_risk hrun rfl rfl hallowed ?_
              rw [hstatus]
              simp [ChatCall.state]
            · rcases invoke_requireApproval inputs c.state outcomes hhanded heval hpending with
                ⟨sr, hrun, hallowed, hstatus, -⟩
              refine accounted_risk hrun rfl rfl hallowed ?_
              rw [hstatus]
              simp
            · exact absurd ⟨result, heval, hblock⟩ hpolicy

end AuthClaw.Gateway
