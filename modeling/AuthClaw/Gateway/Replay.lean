import AuthClaw.Gateway.ApprovalGate
import AuthClaw.Approvals.Handlers

/-!
# The replay of an approved request

Executing a chat approval runs its query through the graph again, with the status
{lit}`APPROVED` in the state.  The executor concludes from the run returning at all; the
graph may have blocked the request or asked for another approval by then.

Main results:

- Theorems {lit}`replay_approved` and {lit}`replay_requireApproval`: what the replay
  does, by the current decision of the policy.
- Theorem {lit}`executed_iff`: every execution that ends executed was executed exactly
  when the current findings and policies let the query pass.
- Theorem {lit}`executed_although_blocked`: a query blocked since its approval ends
  executed and allowed.
-/

namespace AuthClaw.Gateway

open Policy PythonText Approvals

/-! ## The executor -/

/-- What a replay is given besides its record. -/
structure ReplayContext where
  requestId : String
  /-- `resolve_tenant`, for a record without a tenant. -/
  resolvedTenant : Int
  username : String
  approver : String
  /-- `datetime.fromisoformat`. -/
  timestamp : Instant → Audit.Timestamp

/-- The state `execute_approval` starts the graph with. -/
def approvalState (ctx : ReplayContext) (r : Record) : AuthState where
  message := r.query
  sessionId := some (if r.correlationId = "" then "approval-" ++ r.approvalId else r.correlationId)
  requestId := some ctx.requestId
  routeId := none
  provider := some "AuthClaw Gateway"
  providerClient := none
  providerRouteSource := none
  model := some "authclaw-gateway"
  decision := none
  decisionReason := none
  allowed := none
  blockReason := none
  blockCategory := none
  response := none
  context := none
  taskType := none
  riskLevel := none
  approvalStatus := some .approved
  approvalId := some r.approvalId
  triggeredPolicies := none
  originalQuery := none
  tenantId := some (r.tenantId.getD ctx.resolvedTenant)
  undeclared := { Undeclared.empty with username := some ctx.username }

/-- `execute_approval`: the run of the graph. -/
def executeApproval (inputs : Inputs) (outcomes : Outcomes) (ctx : ReplayContext) (r : Record) :
    Run :=
  invoke inputs outcomes (approvalState ctx r)

/-- How an execution ends: its status, and the audit block it writes. -/
structure ExecutionEnd where
  status : Status
  block : Option Audit.BlockArgs
deriving DecidableEq

/-- The audit block of an execution. -/
def executionBlock (ctx : ReplayContext) (r : Record) (final : AuthState) : Audit.BlockArgs where
  query := some r.query
  response := some (final.response.getD "No response generated")
  allowed := some true
  riskLevel := some r.riskLevel
  approvalStatus := some "executed"
  approvalId := some r.approvalId
  approver := some ctx.approver
  originalRequest := some r.query
  approvalTimestamp := r.approvedAt.map ctx.timestamp
  executionTimestamp := r.executedAt.map ctx.timestamp
  executionStatus := some "executed"
  policyName := none
  policyType := none
  matchedPattern := none
  redactedValue := none
  username := none
  tenantId := r.tenantId

/-- The rest of `execute_request`, after the run; registering the run may raise. -/
def endExecution (ctx : ReplayContext) (r : Record) (registered : Except PyError Unit)
    (run : Run) : ExecutionEnd :=
  match run.result, registered with
  | .ok final, .ok () => { status := .executed, block := some (executionBlock ctx r final) }
  | _, _ => { status := .executionFailed, block := none }

/-! ## What executed means -/

section

variable (inputs : Inputs) (outcomes : Outcomes) (ctx : ReplayContext) (r : Record)

/-- The run was allowed, called the provider, was not blocked and was not queued
again. -/
def Run.Executed (run : Run) : Prop :=
  ∃ final, run.result = .ok final ∧ final.allowed = some true ∧ run.calls ≠ [] ∧
    ¬ run.Blocks inputs ∧ run.created = [] ∧ final.approvalStatus ≠ some .pendingApproval

/-- An execution that ends executed, with an allowed block, was executed. -/
def ExecutedMeansExecuted (registered : Except PyError Unit) : Prop :=
  let run := executeApproval inputs outcomes ctx r
  (endExecution ctx r registered run).status = .executed →
    ∀ block ∈ (endExecution ctx r registered run).block, block.allowed = some true →
      run.Executed inputs

/-- The evaluation of the query raises, so the execution fails. -/
def ReplayRaises : Prop :=
  ¬ BlockHandedOn inputs (approvalState ctx r) ∧
    ∃ e, policyEvaluation inputs (approvalState ctx r) = .error e

/-- No finding blocks, and the policy approves the query or asks for an approval that
the risk of the query does not need. -/
def ReplayPasses : Prop :=
  ¬ blockSeen inputs (seenFindings inputs (approvalState ctx r)) ∧
    ∃ result, policyEvaluation inputs (approvalState ctx r) = .ok result ∧
      (result.approved = true ∨ (result.policyDecision = .requireApproval ∧
        gatedRisk inputs (approvalState ctx r) ≠ .high))

/-- An execution ends executed exactly when its run returns and is registered. -/
theorem endExecution_executed {registered : Except PyError Unit} {run : Run} :
    (endExecution ctx r registered run).status = .executed ↔
      registered = .ok () ∧ ∃ final, run.result = .ok final := by
  unfold endExecution
  cases hresult : run.result with
  | error e => simp
  | ok final =>
      cases registered with
      | error e => simp
      | ok u => simp

/-- The status an execution ends in is the one its handler writes. -/
theorem endExecution_outcomeWrites (args : ClaimArgs) (registered : Except PyError Unit)
    (run : Run) :
    let ending := endExecution ctx r registered run
    (outcomeWrites args (ending.status = .executed)).head? = some (.status ending.status) := by
  unfold endExecution
  cases run.result with
  | error e => rfl
  | ok final =>
      cases registered with
      | error e => rfl
      | ok u => rfl

/-- An execution that ends executed writes an allowed block. -/
theorem endExecution_block {run : Run} {final : AuthState} (hresult : run.result = .ok final) :
    (endExecution ctx r (.ok ()) run).block = some (executionBlock ctx r final) := by
  unfold endExecution
  rw [hresult]

/-! ## What the replay does -/

/-- A run routed to the provider that returns unblocked was executed. -/
theorem executed_of_routed {tail : Run} (htail : RoutedTail outcomes tail) {events : List Event}
    (hcreated : Run.created ⟨events, tail.result⟩ = [])
    (hunblocked : ¬ (tail.after events).Blocks inputs) {final : AuthState}
    (hresult : tail.result = .ok final) : (tail.after events).Executed inputs := by
  rcases htail.kept final hresult with ⟨hallowed, happroved⟩
  refine ⟨final, hresult, hallowed, ?_, hunblocked, ?_, ?_⟩
  · have hcalled := htail.called final hresult
    rw [after_calls]
    simp [hcalled]
  · rw [after_created, hcreated, htail.noneCreated]
    rfl
  · rw [happroved]
    simp

/-- The run of a query the policy approves, from the risk node on. -/
theorem replay_approved {result : PolicyAgentResult}
    (hhanded : ¬ BlockHandedOn inputs (approvalState ctx r))
    (heval : policyEvaluation inputs (approvalState ctx r) = .ok result)
    (happroved : result.approved = true) :
    ∃ tail events, executeApproval inputs outcomes ctx r = tail.after events ∧
      RoutedTail outcomes tail ∧ Run.created ⟨events, tail.result⟩ = [] := by
  rcases invoke_approved inputs (approvalState ctx r) outcomes hhanded heval happroved with
    ⟨sr, hrun, hallowed, hstatus⟩
  exact ⟨_, _, hrun, runFrom_risk_routed hallowed (Or.inl hstatus), rfl⟩

/-- The run of a query that needs an approval again: routed to the provider at lower
risk, queued at high risk. -/
theorem replay_requireApproval {result : PolicyAgentResult}
    (hhanded : ¬ BlockHandedOn inputs (approvalState ctx r))
    (heval : policyEvaluation inputs (approvalState ctx r) = .ok result)
    (hdecision : result.policyDecision = .requireApproval) :
    ∃ tail events, executeApproval inputs outcomes ctx r = tail.after events ∧
      (gatedRisk inputs (approvalState ctx r) ≠ .high → RoutedTail outcomes tail) ∧
      (gatedRisk inputs (approvalState ctx r) = .high → PendingTail outcomes tail) ∧
      Run.created ⟨events, tail.result⟩ = [] := by
  rcases invoke_requireApproval inputs (approvalState ctx r) outcomes hhanded heval hdecision with
    ⟨sr, hrun, hallowed, hpending, hmessage, hfindings⟩
  have hrisk : riskLevelOf inputs sr.message (sr.undeclared.securityFindings.getD []) =
      gatedRisk inputs (approvalState ctx r) := by
    rw [hmessage, hfindings]
    rfl
  refine ⟨_, _, hrun, ?_, ?_, rfl⟩
  · intro hlow
    rw [← hrisk] at hlow
    exact runFrom_risk_routed hallowed (Or.inr hlow)
  · intro hhigh
    rw [← hrisk] at hhigh
    exact runFrom_risk_pending hallowed (by rw [hpending]; simp) hhigh

/-- A replay that passes and returns was executed. -/
theorem executed_of_passes (hpasses : ReplayPasses inputs ctx r) {final : AuthState}
    (hresult : (executeApproval inputs outcomes ctx r).result = .ok final) :
    (executeApproval inputs outcomes ctx r).Executed inputs := by
  rcases hpasses with ⟨hunseen, result, heval, hdecision⟩
  have hhanded : ¬ BlockHandedOn inputs (approvalState ctx r) := fun h => hunseen h.2
  have hpolicy : ¬ PolicyBlocks inputs (approvalState ctx r) := by
    rintro ⟨result', heval', hblock⟩
    rw [heval] at heval'
    cases heval'
    rcases hdecision with happroved | ⟨hpending, -⟩
    · rw [(policyAgentEvaluate_refused inputs.py heval).mpr (Or.inr hblock)] at happroved
      cases happroved
    · rw [hblock] at hpending
      cases hpending
  have hunblocked : ¬ (executeApproval inputs outcomes ctx r).Blocks inputs := by
    intro hblocks
    rcases (invoke_blocks_iff inputs (approvalState ctx r) outcomes).mp hblocks with h | ⟨-, h⟩
    · exact hunseen h
    · exact hpolicy h
  rcases hdecision with happroved | ⟨hpending, hlow⟩
  · rcases replay_approved inputs outcomes ctx r hhanded heval happroved with
      ⟨tail, events, hrun, htail, hcreated⟩
    rw [hrun] at hresult hunblocked ⊢
    exact executed_of_routed inputs outcomes htail hcreated hunblocked hresult
  · rcases replay_requireApproval inputs outcomes ctx r hhanded heval hpending with
      ⟨tail, events, hrun, hrouted, -, hcreated⟩
    rw [hrun] at hresult hunblocked ⊢
    exact executed_of_routed inputs outcomes (hrouted hlow) hcreated hunblocked hresult

/-- A replay whose evaluation does not raise returns when no call fails. -/
theorem replay_returns (hsucceed : outcomes.Succeed) (hraises : ¬ ReplayRaises inputs ctx r) :
    ∃ final, (executeApproval inputs outcomes ctx r).result = .ok final := by
  by_cases hhanded : BlockHandedOn inputs (approvalState ctx r)
  · exact (invoke_blocked inputs (approvalState ctx r) outcomes (Or.inl hhanded)).returns hsucceed
  · cases heval : policyEvaluation inputs (approvalState ctx r) with
    | error e => exact absurd ⟨hhanded, e, heval⟩ hraises
    | ok result =>
        rcases policyEvaluation_cases inputs (approvalState ctx r) heval with
          happroved | hpending | hblock
        · rcases replay_approved inputs outcomes ctx r hhanded heval happroved with
            ⟨tail, events, hrun, htail, -⟩
          rw [hrun]
          exact htail.returns hsucceed
        · rcases replay_requireApproval inputs outcomes ctx r hhanded heval hpending with
            ⟨tail, events, hrun, hrouted, hqueued, -⟩
          rw [hrun]
          by_cases hhigh : gatedRisk inputs (approvalState ctx r) = .high
          · exact (hqueued hhigh).returns hsucceed
          · exact (hrouted hhigh).returns hsucceed
        · exact (invoke_blocked inputs (approvalState ctx r) outcomes
            (Or.inr ⟨result, heval, hblock⟩)).returns hsucceed

/-- An executed replay passes, unless it raises. -/
theorem passes_of_executed (hraises : ¬ ReplayRaises inputs ctx r)
    (hexecuted : (executeApproval inputs outcomes ctx r).Executed inputs) :
    ReplayPasses inputs ctx r := by
  rcases hexecuted with ⟨final, hresult, -, -, hunblocked, hnone, -⟩
  have hblocks := (invoke_blocks_iff inputs (approvalState ctx r) outcomes).not.mp hunblocked
  push Not at hblocks
  rcases hblocks with ⟨hunseen, hpolicy⟩
  have hhanded : ¬ BlockHandedOn inputs (approvalState ctx r) := fun h => hunseen h.2
  cases heval : policyEvaluation inputs (approvalState ctx r) with
  | error e => exact absurd ⟨hhanded, e, heval⟩ hraises
  | ok result =>
      refine ⟨hunseen, result, heval, ?_⟩
      rcases policyEvaluation_cases inputs (approvalState ctx r) heval with
        happroved | hpending | hblock
      · exact Or.inl happroved
      · refine Or.inr ⟨hpending, ?_⟩
        intro hhigh
        rcases replay_requireApproval inputs outcomes ctx r hhanded heval hpending with
          ⟨tail, events, hrun, -, hqueued, -⟩
        rw [hrun] at hresult hnone
        have hone := (hqueued hhigh).created final hresult
        rw [after_created, List.append_eq_nil_iff] at hnone
        rw [hnone.2] at hone
        cases hone
      · exact absurd ⟨result, heval, hblock⟩ (hpolicy hhanded)

end

theorem promptOutcomes_succeed : promptOutcomes.Succeed where
  risk := rfl
  approval := ⟨_, rfl⟩
  provider := ⟨_, rfl⟩
  context := fun _ => ⟨_, rfl⟩
  audit := ⟨_, rfl⟩

/-- Whatever its calls return, an execution that ends executed was executed, exactly
when its replay raises or passes under the current findings and policies. -/
theorem executed_iff (inputs : Inputs) (ctx : ReplayContext) (r : Record) :
    (∀ outcomes registered, ExecutedMeansExecuted inputs outcomes ctx r registered) ↔
      ReplayRaises inputs ctx r ∨ ReplayPasses inputs ctx r := by
  constructor
  · intro hall
    by_cases hraises : ReplayRaises inputs ctx r
    · exact Or.inl hraises
    · right
      rcases replay_returns inputs promptOutcomes ctx r promptOutcomes_succeed hraises with
        ⟨final, hresult⟩
      have hexecuted := hall promptOutcomes (.ok ())
        ((endExecution_executed ctx r).mpr ⟨rfl, final, hresult⟩) (executionBlock ctx r final)
        (endExecution_block ctx r hresult) rfl
      exact passes_of_executed inputs promptOutcomes ctx r hraises hexecuted
  · rintro hcondition outcomes registered hstatus block - -
    rcases (endExecution_executed ctx r).mp hstatus with ⟨-, final, hresult⟩
    rcases hcondition with ⟨hhanded, e, heval⟩ | hpasses
    · unfold executeApproval at hresult
      rw [invoke_error inputs (approvalState ctx r) outcomes hhanded heval] at hresult
      cases hresult
    · exact executed_of_passes inputs outcomes ctx r hpasses hresult

/-! ## A blocked execution -/

/-- A policy adopted after the approval. -/
def ledgerPolicy : TenantPolicy where
  id := some 2
  name := "No ledger exports"
  type := "custom"
  rules := [("blocked_keywords", .arr [.str "ledger"])]
  version := 1
  status := "active"

/-- A deployment with that policy. -/
def ledgerInputs : Inputs :=
  { bareInputs with policies := fun _ => [ledgerPolicy] }

/-- An administrator replays. -/
def sampleContext : ReplayContext where
  requestId := "request-2"
  resolvedTenant := 1
  username := "admin_user"
  approver := "admin@example.com"
  timestamp := fun _ => ⟨2024, 1, 1, 0, 0, 0, 0⟩

/-- The approved record of a query. -/
def approvedRecord : Record :=
  { newRecord "a1" "request-1" "session-1" 30 0
      { query := "export the ledger", riskLevel := "HIGH", sessionId := "", tenantId := some 1,
        requestId := none, reason := none, executionTarget := none } with
    status := .approved
    approvedAt := some 1
    approvedBy := some "admin@example.com" }

/-- A query a policy blocks since its approval ends executed, with an allowed block. -/
theorem executed_although_blocked :
    ¬ ∀ registered, ExecutedMeansExecuted ledgerInputs promptOutcomes sampleContext approvedRecord
      registered := by
  intro h
  have hrefused : (executeApproval ledgerInputs promptOutcomes sampleContext
      approvedRecord).result.toOption.map AuthState.allowed = some (some false) := by
    decide +kernel
  cases hresult : (executeApproval ledgerInputs promptOutcomes sampleContext
      approvedRecord).result with
  | error e =>
      rw [hresult] at hrefused
      cases hrefused
  | ok final =>
      have hstatus := (endExecution_executed sampleContext approvedRecord).mpr
        ⟨rfl, final, hresult⟩
      rcases h (.ok ()) hstatus (executionBlock sampleContext approvedRecord final)
        (endExecution_block sampleContext approvedRecord hresult) rfl with
        ⟨final', hresult', hallowed, -⟩
      rw [hresult] at hresult' hrefused
      cases hresult'
      rw [Except.toOption, Option.map_some, hallowed] at hrefused
      cases hrefused

end AuthClaw.Gateway
