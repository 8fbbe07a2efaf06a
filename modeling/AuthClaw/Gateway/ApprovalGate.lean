import AuthClaw.Gateway.Blocking

/-!
# The approval gate

When the policy asks for an approval, the policy node sets the level to high and
the status to pending.  The risk node computes the level again from the message
and the findings it is handed, and the approval node looks at that level alone.

Main results:

- Theorem {lit}`approval_gate_iff`: every run stops for an approval the policy asks
  for exactly when the recomputed level is high.
- Theorem {lit}`approval_gate_bypassed`: a request outside the allowed topics
  reaches the provider router unapproved.
-/

namespace AuthClaw.Gateway

open Policy PythonText

section

variable (inputs : Inputs) (s : AuthState) (outcomes : Outcomes)

/-- A run in which the policy asks for an approval stays away from the provider
nodes, and when it returns it is pending with one approval created. -/
def Run.StopsForApproval (r : Run) : Prop :=
  .policyDecided .requireApproval ∈ r.events →
    ¬ r.visits .providerRouter ∧ ¬ r.visits .llm ∧
      ∀ final, r.result = .ok final →
        final.approvalStatus = some .pendingApproval ∧ r.created.length = 1

/-- The level the risk node settles on when the policy asks for an approval. -/
def gatedRisk : RiskLevel :=
  riskLevelOf inputs (sanitizedText inputs s) (inputs.passing.handOn (seenFindings inputs s))

/-- The policy node asks for an approval. -/
def ApprovalAsked : Prop :=
  ¬ BlockHandedOn inputs s ∧ ∃ result, policyEvaluation inputs s = .ok result ∧
    result.policyDecision = .requireApproval

/-- A request of high risk stops for the approval the policy asks for. -/
theorem invoke_stops (hasked : ApprovalAsked inputs s) (hhigh : gatedRisk inputs s = .high) :
    (invoke inputs outcomes s).StopsForApproval := by
  rcases hasked with ⟨hhanded, result, heval, hdecision⟩
  rcases invoke_requireApproval inputs s outcomes hhanded heval hdecision with
    ⟨sr, hrun, hallowed, hpending, hmessage, hfindings⟩
  have htail : PendingTail outcomes (runFrom inputs outcomes 22 .risk sr) := by
    apply runFrom_risk_pending hallowed
    · rw [hpending]
      simp
    · rw [hmessage, hfindings]
      exact hhigh
  intro _
  rw [hrun]
  refine ⟨?_, ?_, ?_⟩
  · rw [after_visits]
    simp [htail.unrouted]
  · rw [after_visits]
    simp [htail.uncalled.1]
  · intro final hfinal
    refine ⟨(htail.kept final hfinal).2, ?_⟩
    rw [after_created]
    exact htail.created final hfinal

/-- A request of lower risk passes on although the policy asks for an approval. -/
theorem invoke_passes (hasked : ApprovalAsked inputs s) (hlow : gatedRisk inputs s ≠ .high)
    (hrisk : outcomes.riskTimesOut = false) :
    (invoke inputs outcomes s).visits .providerRouter := by
  rcases hasked with ⟨hhanded, result, heval, hdecision⟩
  rcases invoke_requireApproval inputs s outcomes hhanded heval hdecision with
    ⟨sr, hrun, hallowed, hpending, hmessage, hfindings⟩
  have htail : RoutedTail outcomes (runFrom inputs outcomes 22 .risk sr) := by
    apply runFrom_risk_routed hallowed
    right
    rw [hmessage, hfindings]
    exact hlow
  rw [hrun, after_visits]
  exact Or.inr (htail.routed hrisk)

end

section

variable (inputs : Inputs) (s : AuthState)

/-- Whatever its calls return, a run stops for the approval its policy asks for
exactly when the risk node finds the request to be of high risk again. -/
theorem approval_gate_iff :
    (∀ outcomes, (invoke inputs outcomes s).StopsForApproval) ↔
      (ApprovalAsked inputs s → gatedRisk inputs s = .high) := by
  constructor
  · intro hstops hasked
    by_contra hlow
    have hdecided : .policyDecided .requireApproval ∈
        (invoke inputs promptOutcomes s).events :=
      (decided_iff inputs s promptOutcomes .requireApproval).mpr hasked
    have hrouter := invoke_passes inputs s promptOutcomes hasked hlow rfl
    exact (hstops promptOutcomes hdecided).1 hrouter
  · intro hcondition outcomes hdecided
    have hasked := (decided_iff inputs s outcomes .requireApproval).mp hdecided
    exact invoke_stops inputs s outcomes hasked (hcondition hasked) hdecided

end

/-! ## A passed gate -/

/-- A policy that restricts the topics of a tenant. -/
def refundsPolicy : TenantPolicy where
  id := some 1
  name := "Refunds only"
  type := "custom"
  rules := [("allowed_topics", .arr [.str "refunds"])]
  version := 1
  status := "active"

/-- A deployment with that policy. -/
def refundsInputs : Inputs :=
  { bareInputs with policies := fun _ => [refundsPolicy] }

/-- A request outside the allowed topics needs an approval, and reaches the provider
router without one. -/
theorem approval_gate_bypassed :
    ¬ (invoke refundsInputs promptOutcomes (chatState "hello")).StopsForApproval := by
  intro hstops
  have hdecided : .policyDecided .requireApproval ∈
      (invoke refundsInputs promptOutcomes (chatState "hello")).events := by
    decide +kernel
  have hrouter :
      (invoke refundsInputs promptOutcomes (chatState "hello")).visits .providerRouter := by
    unfold Run.visits
    decide +kernel
  exact (hstops hdecided).1 hrouter

end AuthClaw.Gateway
