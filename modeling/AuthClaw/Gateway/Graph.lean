import AuthClaw.Gateway.Nodes

/-!
# The compiled graph

The edges and routers of the workflow and the runtime that invokes it: one node
after another, each result handed on, at most twenty-five steps.  The second half
says what the run does from each node on.

Main results:

- Theorem {lit}`runFrom_audit`: from the audit node a run writes one block and
  ends.
- Theorem {lit}`runFrom_providerRouter`: from the provider router an approved
  request creates nothing, and calls the provider when it returns.
- Theorems {lit}`runFrom_risk_pending` and {lit}`runFrom_risk_routed`: from the
  risk node on, by the approval status.
- Theorem {lit}`invoke_eq`: the run up to the policy node's decision.
-/

namespace AuthClaw.Gateway

open Policy PythonText

/-! ## Edges -/

/-- `route_after_policy`. -/
def routeAfterPolicy (s : AuthState) : Node :=
  if s.allowed.getD true then .risk else .audit

/-- `route_after_approval`. -/
def routeAfterApproval (s : AuthState) : Node :=
  if s.approvalStatus = some .approved then .providerRouter else .audit

/-- The node after a node; the audit node leads to the end. -/
def nextNode (s : AuthState) : Node → Option Node
  | .orchestrator => some .redact
  | .redact => some .policy
  | .policy => some (routeAfterPolicy s)
  | .risk => some .decision
  | .decision => some .approval
  | .approval => some (routeAfterApproval s)
  | .providerRouter => some .rag
  | .rag => some .llm
  | .llm => some .responseChecks
  | .responseChecks => some .audit
  | .audit => none

/-! ## Runs -/

/-- What a run did and how it ended. -/
structure Run where
  events : List Event
  result : Except PyError AuthState

/-- A run with events before it. -/
def Run.after (events : List Event) (r : Run) : Run :=
  { r with events := events ++ r.events }

/-- The run visits a node. -/
def Run.visits (r : Run) (n : Node) : Prop :=
  Event.visited n ∈ r.events

/-- The approvals a run creates. -/
def Run.created (r : Run) : List ApprovalRequest :=
  r.events.filterMap (fun e => match e with
    | .approvalCreated request => some request
    | _ => none)

/-- The audit blocks a run writes. -/
def Run.audits (r : Run) : List Audit.BlockArgs :=
  r.events.filterMap (fun e => match e with
    | .audited block => some block
    | _ => none)

/-- The prompts a run sends to the provider. -/
def Run.calls (r : Run) : List String :=
  r.events.filterMap (fun e => match e with
    | .providerCalled prompt => some prompt
    | _ => none)

section

variable (inputs : Inputs) (outcomes : Outcomes)

/-- The run from a node on, within a number of steps. -/
def runFrom : Nat → Node → AuthState → Run
  | 0, _, _ => { events := [], result := .error .recursionError }
  | fuel + 1, n, s =>
      match runNode inputs outcomes n s with
      | (events, .error e) => { events := .visited n :: events, result := .error e }
      | (events, .ok s') =>
          match nextNode (inputs.passing.carry s') n with
          | none =>
              { events := .visited n :: events, result := .ok (inputs.passing.carry s') }
          | some m => (runFrom fuel m (inputs.passing.carry s')).after (.visited n :: events)

/-- The default recursion limit of the runtime. -/
def recursionLimit : Nat := 25

/-- `graph.invoke`: the initial state goes through the same channels. -/
def invoke (s : AuthState) : Run :=
  runFrom inputs outcomes recursionLimit .orchestrator (inputs.passing.carry s)

end

/-! ## Observations of a run with events before it -/

section

variable (events : List Event) (r : Run)

@[simp]
theorem after_result : (r.after events).result = r.result :=
  rfl

@[simp]
theorem after_visits (n : Node) :
    (r.after events).visits n ↔ Event.visited n ∈ events ∨ r.visits n := by
  simp [Run.after, Run.visits]

@[simp]
theorem after_created :
    (r.after events).created = Run.created ⟨events, r.result⟩ ++ r.created := by
  simp [Run.after, Run.created]

@[simp]
theorem after_audits :
    (r.after events).audits = Run.audits ⟨events, r.result⟩ ++ r.audits := by
  simp [Run.after, Run.audits]

@[simp]
theorem after_calls : (r.after events).calls = Run.calls ⟨events, r.result⟩ ++ r.calls := by
  simp [Run.after, Run.calls]

end

section

variable {inputs : Inputs} {outcomes : Outcomes} {fuel : Nat}

/-- A node that raises ends the run. -/
theorem runFrom_error {n : Node} {s : AuthState} {events : List Event} {e : PyError}
    (h : runNode inputs outcomes n s = (events, .error e)) :
    runFrom inputs outcomes (fuel + 1) n s = ⟨.visited n :: events, .error e⟩ := by
  unfold runFrom
  rw [h]

/-- A node that returns hands its state to the next one. -/
theorem runFrom_ok {n m : Node} {s s' : AuthState} {events : List Event}
    (h : runNode inputs outcomes n s = (events, .ok s'))
    (hnext : nextNode (inputs.passing.carry s') n = some m) :
    runFrom inputs outcomes (fuel + 1) n s =
      (runFrom inputs outcomes fuel m (inputs.passing.carry s')).after (.visited n :: events) := by
  conv_lhs => unfold runFrom
  rw [h]
  simp only [hnext]

/-! ## The tails of the graph -/

/-- From the audit node a run writes one block and ends, its flags kept. -/
theorem runFrom_audit (s : AuthState) :
    ∃ result, runFrom inputs outcomes (fuel + 1) .audit s =
        ⟨[.visited .audit, .audited (auditBlock inputs s)], result⟩ ∧
      (∀ final, result = .ok final →
        final.allowed = s.allowed ∧ final.approvalStatus = s.approvalStatus) ∧
      ((∃ id, outcomes.recordAudit = .ok id) → ∃ final, result = .ok final) := by
  cases haudit : outcomes.recordAudit with
  | error e =>
      refine ⟨.error e, ?_, by simp, by simp⟩
      apply runFrom_error
      simp only [runNode, auditNode, haudit]
  | ok id =>
      refine ⟨.ok (inputs.passing.carry
        { s with undeclared := { s.undeclared with auditRecordId := some id } }), ?_, ?_, ?_⟩
      · unfold runFrom
        simp only [runNode, auditNode, haudit, nextNode]
      · intro final hfinal
        cases hfinal
        exact ⟨carry_allowed _ _, carry_approvalStatus _ _⟩
      · intro _
        exact ⟨_, rfl⟩

/-- No call of a node fails. -/
structure Outcomes.Succeed (outcomes : Outcomes) : Prop where
  risk : outcomes.riskTimesOut = false
  approval : ∃ id, outcomes.createApproval = .ok id
  provider : ∃ selection, outcomes.selectProvider = .ok selection
  context : ∀ query, ∃ context, outcomes.retrieveContext query = .ok context
  audit : ∃ id, outcomes.recordAudit = .ok id

/-- What a run of an approved request does from some node on: it creates no
approval, keeps its flags, and returns when no call fails. -/
structure ApprovedTail (outcomes : Outcomes) (r : Run) : Prop where
  noneCreated : r.created = []
  kept : ∀ final, r.result = .ok final →
    final.allowed = some true ∧ final.approvalStatus = some .approved
  returns : outcomes.Succeed → ∃ final, r.result = .ok final

theorem ApprovedTail.cons {r : Run} (h : ApprovedTail outcomes r) (n : Node) :
    ApprovedTail outcomes (r.after [.visited n]) where
  noneCreated := by
    rw [after_created, h.noneCreated]
    rfl
  kept := h.kept
  returns := h.returns

theorem runFrom_responseChecks {s : AuthState} (hallowed : s.allowed = some true)
    (happroved : s.approvalStatus = some .approved) :
    ApprovedTail outcomes (runFrom inputs outcomes (fuel + 2) .responseChecks s) := by
  rw [runFrom_ok rfl rfl]
  apply ApprovedTail.cons
  rcases @runFrom_audit inputs outcomes fuel (inputs.passing.carry _) with
    ⟨result, hrun, hkept, hreturns⟩
  rw [hrun]
  refine ⟨rfl, ?_, fun h => hreturns h.audit⟩
  intro final hfinal
  rcases hkept final hfinal with ⟨h₁, h₂⟩
  rw [carry_allowed] at h₁
  rw [carry_approvalStatus] at h₂
  exact ⟨h₁.trans hallowed, h₂.trans happroved⟩

/-- From the model node an allowed and approved request with a selected provider
calls it. -/
theorem runFrom_llm {s : AuthState} (hallowed : s.allowed = some true)
    (happroved : s.approvalStatus = some .approved) (hclient : s.providerClient ≠ none) :
    ApprovedTail outcomes (runFrom inputs outcomes (fuel + 3) .llm s) ∧
      (runFrom inputs outcomes (fuel + 3) .llm s).calls ≠ [] := by
  rcases llmNode_approved s outcomes hallowed happroved hclient with
    ⟨s', hllm, hallowed', happroved'⟩
  have htail : ApprovedTail outcomes
      (runFrom inputs outcomes (fuel + 2) .responseChecks (inputs.passing.carry s')) :=
    runFrom_responseChecks (by rw [carry_allowed, hallowed'])
      (by rw [carry_approvalStatus, happroved'])
  have hnode : runNode inputs outcomes .llm s = ([.providerCalled (buildPrompt outcomes s)],
      .ok s') := hllm
  rw [runFrom_ok hnode rfl]
  constructor
  · exact ⟨by rw [after_created, htail.noneCreated]; rfl, htail.kept, htail.returns⟩
  · rw [after_calls]
    simp [Run.calls]

/-- From the retriever on, the provider is called when the run returns. -/
theorem runFrom_rag {s : AuthState} (hallowed : s.allowed = some true)
    (happroved : s.approvalStatus = some .approved) (hclient : s.providerClient ≠ none) :
    ApprovedTail outcomes (runFrom inputs outcomes (fuel + 4) .rag s) ∧
      ∀ final, (runFrom inputs outcomes (fuel + 4) .rag s).result = .ok final →
        (runFrom inputs outcomes (fuel + 4) .rag s).calls ≠ [] := by
  cases hcontext : outcomes.retrieveContext s.message with
  | error e =>
      have hrag : runNode inputs outcomes .rag s = ([], .error e) := by
        simp only [runNode, ragNode, hcontext]
      rw [runFrom_error hrag]
      refine ⟨⟨rfl, by simp, ?_⟩, by simp⟩
      intro hsucceed
      rcases hsucceed.context s.message with ⟨context, hok⟩
      rw [hcontext] at hok
      cases hok
  | ok context =>
      have hrag : runNode inputs outcomes .rag s =
          ([], .ok { s with context := some context }) := by
        simp only [runNode, ragNode, hcontext]
      rw [runFrom_ok hrag rfl]
      rcases @runFrom_llm inputs outcomes fuel
        (inputs.passing.carry { s with context := some context })
        (by rw [carry_allowed]; exact hallowed) (by rw [carry_approvalStatus]; exact happroved)
        (by rw [carry_providerClient]; exact hclient) with ⟨htail, hcalls⟩
      refine ⟨htail.cons .rag, ?_⟩
      intro final _
      rw [after_calls]
      simp [hcalls]

/-- From the provider router on, an approved request creates nothing, and calls
the provider when the run returns. -/
theorem runFrom_providerRouter {s : AuthState} (hallowed : s.allowed = some true)
    (happroved : s.approvalStatus = some .approved) :
    ApprovedTail outcomes (runFrom inputs outcomes (fuel + 5) .providerRouter s) ∧
      (runFrom inputs outcomes (fuel + 5) .providerRouter s).visits .providerRouter ∧
      ∀ final, (runFrom inputs outcomes (fuel + 5) .providerRouter s).result = .ok final →
        (runFrom inputs outcomes (fuel + 5) .providerRouter s).calls ≠ [] := by
  cases hselect : outcomes.selectProvider with
  | error e =>
      have hrouter : runNode inputs outcomes .providerRouter s = ([], .error e) := by
        simp [runNode, providerRouterNode, hselect, hallowed, happroved]
      rw [runFrom_error hrouter]
      refine ⟨⟨rfl, by simp, ?_⟩, by simp [Run.visits], by simp⟩
      intro hsucceed
      rcases hsucceed.provider with ⟨selection, hok⟩
      rw [hselect] at hok
      cases hok
  | ok selection =>
      have hrouter : ∃ s', runNode inputs outcomes .providerRouter s = ([], .ok s') ∧
          s'.allowed = some true ∧ s'.approvalStatus = some .approved ∧
          s'.providerClient ≠ none := by
        refine ⟨{ s with
          providerClient := some selection
          provider := some selection.providerName
          model := some selection.model
          routeId := selection.routeId
          providerRouteSource := some selection.source }, ?_, hallowed, happroved, by simp⟩
        simp [runNode, providerRouterNode, hselect, hallowed, happroved]
      rcases hrouter with ⟨s', hrouter, hallowed', happroved', hclient⟩
      rw [runFrom_ok hrouter rfl]
      rcases @runFrom_rag inputs outcomes fuel (inputs.passing.carry s')
        (by rw [carry_allowed, hallowed']) (by rw [carry_approvalStatus, happroved'])
        (by rw [carry_providerClient]; exact hclient) with ⟨htail, hcalls⟩
      refine ⟨htail.cons .providerRouter, ?_, ?_⟩
      · rw [after_visits]
        exact Or.inl (by simp)
      · intro final hfinal
        rw [after_calls]
        have hne := hcalls final hfinal
        simp [hne]

/-- What a run of an approved request does from some node before the provider
router on. -/
structure RoutedTail (outcomes : Outcomes) (r : Run) : Prop extends ApprovedTail outcomes r where
  routed : outcomes.riskTimesOut = false → r.visits .providerRouter
  called : ∀ final, r.result = .ok final → r.calls ≠ []

/-- What a run does that stops for an approval: it stays away from the provider,
and when it returns it has created one approval and is pending. -/
structure PendingTail (outcomes : Outcomes) (r : Run) : Prop where
  unrouted : ¬ r.visits .providerRouter
  uncalled : ¬ r.visits .llm ∧ r.calls = []
  created : ∀ final, r.result = .ok final → r.created.length = 1
  kept : ∀ final, r.result = .ok final →
    final.allowed = some true ∧ final.approvalStatus = some .pendingApproval
  returns : outcomes.Succeed → ∃ final, r.result = .ok final

theorem RoutedTail.cons {r : Run} (h : RoutedTail outcomes r) (n : Node) :
    RoutedTail outcomes (r.after [.visited n]) where
  toApprovedTail := h.toApprovedTail.cons n
  routed := by
    intro hrisk
    rw [after_visits]
    exact Or.inr (h.routed hrisk)
  called := by
    intro final hfinal
    have hne := h.called final hfinal
    rw [after_calls]
    simp [hne]

theorem PendingTail.cons {r : Run} (h : PendingTail outcomes r) {n : Node}
    (hrouter : n ≠ .providerRouter) (hllm : n ≠ .llm) :
    PendingTail outcomes (r.after [.visited n]) where
  unrouted := by
    rw [after_visits]
    simp only [List.mem_singleton, Event.visited.injEq]
    rintro (rfl | hvisit)
    · exact hrouter rfl
    · exact h.unrouted hvisit
  uncalled := by
    rw [after_visits, after_calls, h.uncalled.2]
    simp only [List.mem_singleton, Event.visited.injEq]
    refine ⟨?_, rfl⟩
    rintro (rfl | hvisit)
    · exact hllm rfl
    · exact h.uncalled.1 hvisit
  created := by
    intro final hfinal
    rw [after_created]
    exact h.created final hfinal
  kept := h.kept
  returns := h.returns

/-- The approval node lets an approved request or one of lower risk pass. -/
theorem runFrom_approval_routed {s : AuthState} {level : RiskLevel}
    (hallowed : s.allowed = some true) (hlevel : s.riskLevel = some level)
    (hpass : s.approvalStatus = some .approved ∨ level ≠ .high) :
    RoutedTail outcomes (runFrom inputs outcomes (fuel + 6) .approval s) := by
  have hnode : ∃ s', runNode inputs outcomes .approval s = ([], .ok s') ∧
      s'.allowed = some true ∧ s'.approvalStatus = some .approved := by
    by_cases happroved : s.approvalStatus = some .approved
    · refine ⟨s, ?_, hallowed, happroved⟩
      simp [runNode, approvalNode, happroved]
    · rcases hpass with hpass | hlow
      · exact absurd hpass happroved
      · refine ⟨{ s with approvalStatus := some .approved }, ?_, hallowed, rfl⟩
        cases level with
        | low => simp [runNode, approvalNode, happroved, hlevel]
        | medium => simp [runNode, approvalNode, happroved, hlevel]
        | high => exact absurd rfl hlow
  rcases hnode with ⟨s', hnode, hallowed', happroved'⟩
  have hnext : nextNode (inputs.passing.carry s') .approval = some .providerRouter := by
    simp [nextNode, routeAfterApproval, happroved']
  rw [runFrom_ok hnode hnext]
  rcases @runFrom_providerRouter inputs outcomes fuel (inputs.passing.carry s')
    (by rw [carry_allowed, hallowed']) (by rw [carry_approvalStatus, happroved'])
    with ⟨htail, hvisits, hcalls⟩
  exact RoutedTail.cons ⟨htail, fun _ => hvisits, hcalls⟩ .approval

/-- The approval node stops an unapproved request of high risk. -/
theorem runFrom_approval_pending {s : AuthState} (hallowed : s.allowed = some true)
    (hlevel : s.riskLevel = some .high) (hunapproved : s.approvalStatus ≠ some .approved) :
    PendingTail outcomes (runFrom inputs outcomes (fuel + 6) .approval s) := by
  cases hcreate : outcomes.createApproval with
  | error e =>
      have hnode : runNode inputs outcomes .approval s = ([], .error e) := by
        simp [runNode, approvalNode, hunapproved, hlevel, hcreate]
      rw [runFrom_error hnode]
      refine ⟨by simp [Run.visits], by simp [Run.visits, Run.calls], by simp, by simp, ?_⟩
      intro hsucceed
      rcases hsucceed.approval with ⟨id, hok⟩
      rw [hcreate] at hok
      cases hok
  | ok id =>
      have hnode : ∃ s', runNode inputs outcomes .approval s =
          ([.approvalCreated (approvalRequest s .high)], .ok s') ∧
          s'.allowed = some true ∧ s'.approvalStatus = some .pendingApproval := by
        refine ⟨{ s with
          approvalId := some id
          approvalStatus := some .pendingApproval
          undeclared := { s.undeclared with approvalReason := some (approvalReason s) } },
          ?_, hallowed, rfl⟩
        simp [runNode, approvalNode, hunapproved, hlevel, hcreate]
      rcases hnode with ⟨s', hnode, hallowed', hpending⟩
      have hnext : nextNode (inputs.passing.carry s') .approval = some .audit := by
        simp [nextNode, routeAfterApproval, hpending]
      rw [runFrom_ok hnode hnext]
      rcases @runFrom_audit inputs outcomes (fuel + 4) (inputs.passing.carry s') with
        ⟨result, hrun, hkept, hreturns⟩
      rw [hrun]
      refine ⟨by simp [Run.visits, Run.after], by simp [Run.visits, Run.calls, Run.after], ?_, ?_,
        fun h => hreturns h.audit⟩
      · intro _ _
        simp [Run.created, Run.after]
      · intro final hfinal
        rcases hkept final hfinal with ⟨h₁, h₂⟩
        rw [carry_allowed] at h₁
        rw [carry_approvalStatus] at h₂
        exact ⟨h₁.trans hallowed', h₂.trans hpending⟩

/-- The state the approval node receives after an untimely risk classification did
not occur. -/
theorem runFrom_risk_eq {s : AuthState} (hrisk : outcomes.riskTimesOut = false) :
    ∃ s', runFrom inputs outcomes (fuel + 8) .risk s =
        ((runFrom inputs outcomes (fuel + 6) .approval s').after [.visited .decision]).after
          [.visited .risk] ∧
      s'.allowed = s.allowed ∧ s'.approvalStatus = s.approvalStatus ∧
      s'.riskLevel =
        some (riskLevelOf inputs s.message (s.undeclared.securityFindings.getD [])) := by
  have hnode : runNode inputs outcomes .risk s = ([], .ok { s with
      riskLevel :=
        some (riskLevelOf inputs s.message (s.undeclared.securityFindings.getD [])) }) := by
    simp [runNode, riskNode, hrisk]
  rw [runFrom_ok hnode rfl, runFrom_ok rfl rfl]
  refine ⟨_, rfl, ?_, ?_, ?_⟩
  · rw [carry_allowed]
    exact carry_allowed _ _
  · rw [carry_approvalStatus]
    exact carry_approvalStatus _ _
  · rw [carry_riskLevel]
    exact carry_riskLevel _ _

/-- From the risk node on, an approved request or one of lower risk is routed to
the provider. -/
theorem runFrom_risk_routed {s : AuthState} (hallowed : s.allowed = some true)
    (hpass : s.approvalStatus = some .approved ∨
      riskLevelOf inputs s.message (s.undeclared.securityFindings.getD []) ≠ .high) :
    RoutedTail outcomes (runFrom inputs outcomes (fuel + 8) .risk s) := by
  cases hrisk : outcomes.riskTimesOut with
  | true =>
      have hnode : runNode inputs outcomes .risk s = ([], .error .timeoutError) := by
        simp [runNode, riskNode, hrisk]
      rw [runFrom_error hnode]
      refine ⟨⟨rfl, by simp, ?_⟩, ?_, by simp⟩
      · intro hsucceed
        rw [hsucceed.risk] at hrisk
        cases hrisk
      · intro hfalse
        rw [hfalse] at hrisk
        cases hrisk
  | false =>
      rcases @runFrom_risk_eq inputs outcomes fuel s hrisk with ⟨s', hrun, h₁, h₂, h₃⟩
      rw [hrun]
      have htail := @runFrom_approval_routed inputs outcomes fuel s' _ (h₁.trans hallowed) h₃
        (by rw [h₂]; exact hpass)
      exact (htail.cons .decision).cons .risk

/-- From the risk node on, an unapproved request of high risk stops for an
approval. -/
theorem runFrom_risk_pending {s : AuthState} (hallowed : s.allowed = some true)
    (hunapproved : s.approvalStatus ≠ some .approved)
    (hhigh : riskLevelOf inputs s.message (s.undeclared.securityFindings.getD []) = .high) :
    PendingTail outcomes (runFrom inputs outcomes (fuel + 8) .risk s) := by
  cases hrisk : outcomes.riskTimesOut with
  | true =>
      have hnode : runNode inputs outcomes .risk s = ([], .error .timeoutError) := by
        simp [runNode, riskNode, hrisk]
      rw [runFrom_error hnode]
      refine ⟨by simp [Run.visits], by simp [Run.visits, Run.calls], by simp, by simp, ?_⟩
      intro hsucceed
      rw [hsucceed.risk] at hrisk
      cases hrisk
  | false =>
      rcases @runFrom_risk_eq inputs outcomes fuel s hrisk with ⟨s', hrun, h₁, h₂, h₃⟩
      rw [hrun]
      have htail := @runFrom_approval_pending inputs outcomes fuel s' (h₁.trans hallowed)
        (by rw [h₃, hhigh]) (by rw [h₂]; exact hunapproved)
      exact (htail.cons (by simp) (by simp)).cons (by simp) (by simp)

/-- What a run of a blocked request does from some node on: one audit block that
says so, and nothing else. -/
structure BlockedTail (outcomes : Outcomes) (r : Run) : Prop where
  unvisited : ¬ r.visits .risk ∧ ¬ r.visits .providerRouter ∧ ¬ r.visits .llm
  noneCreated : r.created = []
  auditedOnce : r.events.count (.visited .audit) = 1
  audited : ∃ block, r.audits = [block] ∧ block.allowed = some false
  kept : ∀ final, r.result = .ok final → final.allowed = some false
  returns : outcomes.Succeed → ∃ final, r.result = .ok final

/-- A refused request goes from the policy node to the audit node. -/
theorem runFrom_policy_refused {s s' : AuthState} {events : List Event}
    (hnode : runNode inputs outcomes .policy s = (events, .ok s'))
    (hrefused : s'.allowed = some false)
    (hevents : events = [] ∨ ∃ d, events = [.policyDecided d]) :
    BlockedTail outcomes (runFrom inputs outcomes (fuel + 2) .policy s) := by
  have hnext : nextNode (inputs.passing.carry s') .policy = some .audit := by
    simp [nextNode, routeAfterPolicy, hrefused]
  rw [runFrom_ok hnode hnext]
  rcases @runFrom_audit inputs outcomes fuel (inputs.passing.carry s') with
    ⟨result, hrun, hkept, hreturns⟩
  rw [hrun]
  have hblock : (auditBlock inputs (inputs.passing.carry s')).allowed = some false := by
    simp [auditBlock, hrefused]
  have hfinal : ∀ final, result = .ok final → final.allowed = some false := by
    intro final hfinal
    rw [(hkept final hfinal).1, carry_allowed, hrefused]
  rcases hevents with rfl | ⟨d, rfl⟩
  · exact ⟨by simp [Run.visits, Run.after], by simp [Run.created, Run.after],
      by simp [Run.after], ⟨_, by simp [Run.audits, Run.after], hblock⟩, hfinal,
      fun h => hreturns h.audit⟩
  · exact ⟨by simp [Run.visits, Run.after], by simp [Run.created, Run.after],
      by simp [Run.after], ⟨_, by simp [Run.audits, Run.after], hblock⟩, hfinal,
      fun h => hreturns h.audit⟩

/-! ## The policy node -/

/-- The nodes behind the policy node. -/
def Node.late : Node → Bool
  | .orchestrator => false
  | .redact => false
  | .policy => false
  | _ => true

/-- An event of the redact node or of a policy decision. -/
def Event.early : Event → Bool
  | .inspected _ => true
  | .policyDecided _ => true
  | _ => false

/-- The nodes behind the policy node inspect and decide nothing. -/
theorem runNode_late {n : Node} (hn : n.late = true) (s : AuthState) :
    ∀ e ∈ (runNode inputs outcomes n s).1, e.early = false := by
  cases n with
  | orchestrator => cases hn
  | redact => cases hn
  | policy => cases hn
  | risk =>
      change ∀ e ∈ (riskNode inputs outcomes s).1, e.early = false
      unfold riskNode
      split_ifs <;> simp
  | decision => simp [runNode, decisionNode]
  | approval =>
      change ∀ e ∈ (approvalNode outcomes s).1, e.early = false
      unfold approvalNode
      split_ifs
      · simp
      · split
        · simp
        · split <;> simp [Event.early]
        · simp
  | providerRouter =>
      change ∀ e ∈ (providerRouterNode outcomes s).1, e.early = false
      unfold providerRouterNode
      split_ifs
      · simp
      · split <;> simp
  | rag =>
      change ∀ e ∈ (ragNode outcomes s).1, e.early = false
      unfold ragNode
      split <;> simp
  | llm =>
      change ∀ e ∈ (llmNode outcomes s).1, e.early = false
      unfold llmNode
      split_ifs
      · simp
      · split
        · simp
        · simp
        · split
          · simp [callProvider_events, Event.early]
          · simp [callProvider_events, Event.early]
          · simp
  | responseChecks => simp [runNode, responseChecksNode]
  | audit =>
      change ∀ e ∈ (auditNode inputs outcomes s).1, e.early = false
      unfold auditNode
      split <;> simp [Event.early]

/-- The graph does not return to the policy node. -/
theorem nextNode_late {n m : Node} {s : AuthState} (hn : n.late = true)
    (hnext : nextNode s n = some m) : m.late = true := by
  cases n with
  | orchestrator => cases hn
  | redact => cases hn
  | policy => cases hn
  | approval =>
      simp only [nextNode, routeAfterApproval] at hnext
      split_ifs at hnext
      · cases hnext
        rfl
      · cases hnext
        rfl
  | audit => cases hnext
  | _ =>
      cases hnext
      rfl

/-- Behind the policy node a run inspects and decides nothing. -/
theorem runFrom_late {n : Node} (hn : n.late = true) (s : AuthState) :
    ∀ e ∈ (runFrom inputs outcomes fuel n s).events, e.early = false := by
  induction fuel generalizing n s with
  | zero => simp [runFrom]
  | succ fuel ih =>
      have hnode := @runNode_late inputs outcomes n hn s
      unfold runFrom
      rcases hrun : runNode inputs outcomes n s with ⟨events, result⟩
      rw [hrun] at hnode
      have hvisited : ∀ e ∈ Event.visited n :: events, e.early = false := by
        intro e he
        rcases List.mem_cons.mp he with rfl | he
        · rfl
        · exact hnode e he
      cases result with
      | error e => exact hvisited
      | ok s' =>
          simp only
          cases hnext : nextNode (inputs.passing.carry s') n with
          | none => exact hvisited
          | some m =>
              intro e he
              rcases List.mem_append.mp he with he | he
              · exact hvisited e he
              · exact ih (nextNode_late hn hnext) _ e he

/-- What the policy node inspects and decides is all a run from it does of that
kind. -/
theorem runFrom_policy_early {s : AuthState} {e : Event} (he : e.early = true) :
    e ∈ (runFrom inputs outcomes (fuel + 1) .policy s).events ↔
      e ∈ (runNode inputs outcomes .policy s).1 := by
  have hvisited : e ≠ .visited .policy := by
    rintro rfl
    cases he
  unfold runFrom
  rcases hrun : runNode inputs outcomes .policy s with ⟨events, result⟩
  cases result with
  | error _ => simp [hvisited]
  | ok s' =>
      have hlate : (routeAfterPolicy (inputs.passing.carry s')).late = true := by
        unfold routeAfterPolicy
        split_ifs <;> rfl
      have hrest : e ∉ (runFrom inputs outcomes fuel
          (routeAfterPolicy (inputs.passing.carry s')) (inputs.passing.carry s')).events := by
        intro hmem
        rw [runFrom_late hlate _ e hmem] at he
        cases he
      simp [nextNode, Run.after, hvisited, hrest]

/-- The state the policy node hands on after an evaluation. -/
theorem runFrom_policy_evaluated {s : AuthState} {result : PolicyAgentResult}
    (hunblocked : s.undeclared.securityApproved ≠ some false)
    (heval : evaluation inputs s.tenant s.message = .ok result) :
    runNode inputs outcomes .policy s = ([.policyDecided result.policyDecision],
      .ok (applyEvaluation inputs result (policyDefaults s))) := by
  have hunblocked' : (policyDefaults s).undeclared.securityApproved ≠ some false := hunblocked
  have htenant : (policyDefaults s).tenant = s.tenant := rfl
  change policyNode inputs s = _
  unfold policyNode
  rw [if_neg hunblocked', htenant, heval]

/-- A request that needs approval goes on to the risk node, allowed and
pending. -/
theorem runFrom_policy_requireApproval {s : AuthState} {result : PolicyAgentResult}
    (hunblocked : s.undeclared.securityApproved ≠ some false)
    (heval : evaluation inputs s.tenant s.message = .ok result)
    (hdecision : result.policyDecision = .requireApproval) :
    ∃ sr, runFrom inputs outcomes (fuel + 1) .policy s =
        (runFrom inputs outcomes fuel .risk sr).after
          [.visited .policy, .policyDecided .requireApproval] ∧
      sr.allowed = some true ∧ sr.approvalStatus = some .pendingApproval ∧
      sr.message = s.message ∧ sr.undeclared.securityFindings.getD [] =
        inputs.passing.handOn (s.undeclared.securityFindings.getD []) := by
  have hrefused := (policyAgentEvaluate_refused inputs.py heval).mpr (Or.inl hdecision)
  have hcategory := policyAgentEvaluate_category_ne_empty inputs.py heval hrefused
  rcases applyEvaluation_requireApproval inputs (policyDefaults s) hrefused hcategory hdecision with
    ⟨hallowed, hpending, hmessage, hfindings⟩
  have hnode := @runFrom_policy_evaluated inputs outcomes s result hunblocked heval
  rw [hdecision] at hnode
  have hnext : nextNode (inputs.passing.carry
      (applyEvaluation inputs result (policyDefaults s))) .policy = some .risk := by
    simp [nextNode, routeAfterPolicy, hallowed]
  refine ⟨inputs.passing.carry (applyEvaluation inputs result (policyDefaults s)),
    runFrom_ok hnode hnext, ?_, ?_, ?_, ?_⟩
  · rw [carry_allowed, hallowed]
  · rw [carry_approvalStatus, hpending]
  · rw [carry_message, hmessage]
    rfl
  · rw [carry_securityFindings, hfindings]
    rfl

/-- An approved request goes on to the risk node, allowed and with its status. -/
theorem runFrom_policy_approved {s : AuthState} {result : PolicyAgentResult}
    (hunblocked : s.undeclared.securityApproved ≠ some false)
    (heval : evaluation inputs s.tenant s.message = .ok result)
    (happroved : result.approved = true) :
    ∃ sr, runFrom inputs outcomes (fuel + 1) .policy s =
        (runFrom inputs outcomes fuel .risk sr).after
          [.visited .policy, .policyDecided result.policyDecision] ∧
      sr.allowed = some true ∧ sr.approvalStatus = s.approvalStatus := by
  rcases applyEvaluation_approved inputs (policyDefaults s) happroved with
    ⟨hallowed, hstatus⟩
  have hnode := @runFrom_policy_evaluated inputs outcomes s result hunblocked heval
  have hnext : nextNode (inputs.passing.carry
      (applyEvaluation inputs result (policyDefaults s))) .policy = some .risk := by
    simp [nextNode, routeAfterPolicy, hallowed]
  refine ⟨inputs.passing.carry (applyEvaluation inputs result (policyDefaults s)),
    runFrom_ok hnode hnext, ?_, ?_⟩
  · rw [carry_allowed, hallowed]
  · rw [carry_approvalStatus, hstatus]
    rfl

end

/-! ## The run up to the policy node -/

section

variable (inputs : Inputs) (s : AuthState)

/-- The text behind the redact node. -/
def sanitizedText : String :=
  (inputs.redactRich s.tenant s.message).1

/-- The findings the redact node sees. -/
def seenFindings : List Finding :=
  inspectFindings inputs s.tenant s.message

/-- The policy node learns of a block of the redact node. -/
def BlockHandedOn : Prop :=
  inputs.passing = .wholeDict ∧ blockSeen inputs (seenFindings inputs s)

theorem redactFlags_kept (findings : List Finding) :
    (redactFlags inputs findings s).approvalStatus = s.approvalStatus ∧
      (redactFlags inputs findings s).tenantId = s.tenantId ∧
      (redactFlags inputs findings s).undeclared.securityFindings = some findings ∧
      ((redactFlags inputs findings s).undeclared.securityApproved = some false ↔
        blockSeen inputs findings) := by
  rw [blockSeen_iff]
  unfold redactFlags
  split_ifs <;> simp

/-- The run up to the policy node, and the state that node receives. -/
theorem invoke_eq (outcomes : Outcomes) :
    ∃ sp, invoke inputs outcomes s = (runFrom inputs outcomes 23 .policy sp).after
        [.visited .orchestrator, .visited .redact, .inspected (seenFindings inputs s)] ∧
      sp.message = sanitizedText inputs s ∧ sp.tenant = s.tenant ∧
      sp.approvalStatus = s.approvalStatus ∧
      sp.undeclared.securityFindings.getD [] =
        inputs.passing.handOn (seenFindings inputs s) ∧
      (sp.undeclared.securityApproved = some false ↔ BlockHandedOn inputs s) := by
  let so := inputs.passing.carry { inputs.passing.carry s with
    taskType := some (taskTypeOf inputs (inputs.passing.carry s).message) }
  have hmessage : so.message = s.message := by
    simp [so]
  have htenant : so.tenant = s.tenant := by
    simp [so, AuthState.tenant]
  have hstatus : so.approvalStatus = s.approvalStatus := by
    simp [so]
  have horchestrator : invoke inputs outcomes s =
      (runFrom inputs outcomes 24 .redact so).after [.visited .orchestrator] :=
    runFrom_ok rfl rfl
  rcases redactFlags_kept inputs so (seenFindings inputs s) with
    ⟨hflagStatus, hflagTenant, hflagFindings, hflagBlock⟩
  have hseen : inspectFindings inputs so.tenant so.message = seenFindings inputs s := by
    rw [htenant, hmessage]
    rfl
  rw [horchestrator, runFrom_ok rfl rfl, hseen]
  refine ⟨_, rfl, ?_, ?_, ?_, ?_, ?_⟩
  · rw [carry_message, htenant, hmessage]
    rfl
  · unfold AuthState.tenant at htenant ⊢
    rw [carry_tenantId, ← htenant]
    exact congrArg (fun t => t.getD 1) hflagTenant
  · rw [carry_approvalStatus, ← hstatus]
    exact hflagStatus
  · rw [carry_securityFindings]
    exact congrArg (fun f => inputs.passing.handOn (f.getD [])) hflagFindings
  · unfold BlockHandedOn
    rw [← hflagBlock]
    cases hpassing : inputs.passing with
    | schemaChannels => simp [StatePassing.carry, Undeclared.empty]
    | wholeDict => simp [StatePassing.carry]

/-- The evaluation the policy node asks for, when it asks. -/
def policyEvaluation : Except PyError PolicyAgentResult :=
  evaluation inputs s.tenant (sanitizedText inputs s)

/-- The redact node inspects its findings and nothing else is inspected. -/
theorem inspected_iff (outcomes : Outcomes) (findings : List Finding) :
    .inspected findings ∈ (invoke inputs outcomes s).events ↔
      findings = seenFindings inputs s := by
  rcases invoke_eq inputs s outcomes with ⟨sp, hrun, -⟩
  have hpolicy : .inspected findings ∉ (runFrom inputs outcomes 23 .policy sp).events := by
    rw [runFrom_policy_early rfl]
    change .inspected findings ∉ (policyNode inputs sp).1
    unfold policyNode
    by_cases hblocked : (policyDefaults sp).undeclared.securityApproved = some false
    · rw [if_pos hblocked]
      simp
    · rw [if_neg hblocked]
      split <;> simp
  rw [hrun]
  simp [Run.after, hpolicy]

/-- The policy node decides what the evaluation does, unless a block was handed
on to it. -/
theorem decided_iff (outcomes : Outcomes) (decision : Action) :
    .policyDecided decision ∈ (invoke inputs outcomes s).events ↔
      ¬ BlockHandedOn inputs s ∧
        ∃ result, policyEvaluation inputs s = .ok result ∧ result.policyDecision = decision := by
  rcases invoke_eq inputs s outcomes with ⟨sp, hrun, hmessage, htenant, -, -, hblock⟩
  have hnode : .policyDecided decision ∈ (runNode inputs outcomes .policy sp).1 ↔
      ¬ BlockHandedOn inputs s ∧
        ∃ result, policyEvaluation inputs s = .ok result ∧ result.policyDecision = decision := by
    change .policyDecided decision ∈ (policyNode inputs sp).1 ↔ _
    unfold policyNode policyEvaluation
    have hdefaults : (policyDefaults sp).undeclared.securityApproved = some false ↔
        BlockHandedOn inputs s := hblock
    have htenant' : (policyDefaults sp).tenant = s.tenant := htenant
    by_cases hhanded : BlockHandedOn inputs s
    · rw [if_pos (hdefaults.mpr hhanded)]
      simp [hhanded]
    · rw [if_neg (fun h => hhanded (hdefaults.mp h)), htenant', hmessage]
      cases heval : evaluation inputs s.tenant (sanitizedText inputs s) with
      | error e => simp
      | ok result => simp [hhanded, eq_comm]
  rw [hrun, ← hnode, ← @runFrom_policy_early inputs outcomes 22 sp _ rfl]
  simp [Run.after]

/-- A run blocked by the redact node, where the policy node learns of it, or by
the policy. -/
theorem invoke_blocked (outcomes : Outcomes)
    (h : BlockHandedOn inputs s ∨
      ∃ result, policyEvaluation inputs s = .ok result ∧ result.policyDecision = .block) :
    BlockedTail outcomes (invoke inputs outcomes s) := by
  rcases invoke_eq inputs s outcomes with ⟨sp, hrun, hmessage, htenant, -, -, hblock⟩
  have htail : BlockedTail outcomes (runFrom inputs outcomes 23 .policy sp) := by
    by_cases hhanded : BlockHandedOn inputs s
    · have hnode : runNode inputs outcomes .policy sp =
          ([], .ok (preserveSecurityBlock (policyDefaults sp))) := by
        have happroved : (policyDefaults sp).undeclared.securityApproved = some false :=
          hblock.mpr hhanded
        change policyNode inputs sp = _
        unfold policyNode
        rw [if_pos happroved]
      exact runFrom_policy_refused hnode rfl (Or.inl rfl)
    · rcases h with h | ⟨result, heval, hdecision⟩
      · exact absurd h hhanded
      · unfold policyEvaluation at heval
        rw [← htenant, ← hmessage] at heval
        have hrefused := (policyAgentEvaluate_refused inputs.py heval).mpr (Or.inr hdecision)
        have hnode := @runFrom_policy_evaluated inputs outcomes sp result
          (fun h => hhanded (hblock.mp h)) heval
        exact runFrom_policy_refused hnode
          (applyEvaluation_block inputs (policyDefaults sp) hrefused (by rw [hdecision]; simp))
          (Or.inr ⟨_, rfl⟩)
  rw [hrun]
  refine ⟨?_, ?_, ?_, ?_, htail.kept, htail.returns⟩
  · rcases htail.unvisited with ⟨h₁, h₂, h₃⟩
    simp [h₁, h₂, h₃]
  · rw [after_created, htail.noneCreated]
    rfl
  · have honce := htail.auditedOnce
    simp [Run.after, honce]
  · rcases htail.audited with ⟨block, haudits, hallowed⟩
    refine ⟨block, ?_, hallowed⟩
    rw [after_audits, haudits]
    rfl

/-- A raising evaluation ends the run at the policy node. -/
theorem invoke_error (outcomes : Outcomes) {e : PyError} (hhanded : ¬ BlockHandedOn inputs s)
    (heval : policyEvaluation inputs s = .error e) :
    invoke inputs outcomes s = ⟨[.visited .orchestrator, .visited .redact,
      .inspected (seenFindings inputs s), .visited .policy], .error e⟩ := by
  rcases invoke_eq inputs s outcomes with ⟨sp, hrun, hmessage, htenant, -, -, hblock⟩
  have hnode : runNode inputs outcomes .policy sp = ([], .error e) := by
    unfold policyEvaluation at heval
    have hunblocked : (policyDefaults sp).undeclared.securityApproved ≠ some false :=
      fun h => hhanded (hblock.mp h)
    have htenant' : (policyDefaults sp).tenant = s.tenant := htenant
    change policyNode inputs sp = _
    unfold policyNode
    rw [if_neg hunblocked, htenant', hmessage, heval]
  rw [hrun, runFrom_error hnode]
  rfl

/-- The run of a request that needs approval, up to the risk node. -/
theorem invoke_requireApproval (outcomes : Outcomes) {result : PolicyAgentResult}
    (hhanded : ¬ BlockHandedOn inputs s) (heval : policyEvaluation inputs s = .ok result)
    (hdecision : result.policyDecision = .requireApproval) :
    ∃ sr, invoke inputs outcomes s = (runFrom inputs outcomes 22 .risk sr).after
        [.visited .orchestrator, .visited .redact, .inspected (seenFindings inputs s),
          .visited .policy, .policyDecided .requireApproval] ∧
      sr.allowed = some true ∧ sr.approvalStatus = some .pendingApproval ∧
      sr.message = sanitizedText inputs s ∧ sr.undeclared.securityFindings.getD [] =
        inputs.passing.handOn (seenFindings inputs s) := by
  rcases invoke_eq inputs s outcomes with
    ⟨sp, hrun, hmessage, htenant, -, hfindings, hblock⟩
  unfold policyEvaluation at heval
  rw [← htenant, ← hmessage] at heval
  rcases @runFrom_policy_requireApproval inputs outcomes 22 sp result
    (fun h => hhanded (hblock.mp h)) heval hdecision with
    ⟨sr, hpolicy, hallowed, hpending, hsame, hhandedOn⟩
  refine ⟨sr, ?_, hallowed, hpending, hsame.trans hmessage, ?_⟩
  · rw [hrun, hpolicy]
    rfl
  · rw [hhandedOn, hfindings, handOn_handOn]

/-- The run of a request the policy approves, up to the risk node. -/
theorem invoke_approved (outcomes : Outcomes) {result : PolicyAgentResult}
    (hhanded : ¬ BlockHandedOn inputs s) (heval : policyEvaluation inputs s = .ok result)
    (happroved : result.approved = true) :
    ∃ sr, invoke inputs outcomes s = (runFrom inputs outcomes 22 .risk sr).after
        [.visited .orchestrator, .visited .redact, .inspected (seenFindings inputs s),
          .visited .policy, .policyDecided result.policyDecision] ∧
      sr.allowed = some true ∧ sr.approvalStatus = s.approvalStatus := by
  rcases invoke_eq inputs s outcomes with ⟨sp, hrun, hmessage, htenant, hstatus, -, hblock⟩
  unfold policyEvaluation at heval
  rw [← htenant, ← hmessage] at heval
  rcases @runFrom_policy_approved inputs outcomes 22 sp result
    (fun h => hhanded (hblock.mp h)) heval happroved with ⟨sr, hpolicy, hallowed, hkept⟩
  refine ⟨sr, ?_, hallowed, hkept.trans hstatus⟩
  rw [hrun, hpolicy]
  rfl

end

end AuthClaw.Gateway
