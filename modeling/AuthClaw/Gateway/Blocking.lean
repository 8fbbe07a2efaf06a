import AuthClaw.Gateway.Graph

/-!
# Blocked requests

A request is blocked by a finding the redact node sees or by the decision of the
policy node.  The redact node leaves its verdict in keys {lit}`AuthState` does not
declare; with one channel for each declared key the policy node never reads them.

Main results:

- Theorem {lit}`block_kept_iff`: a run keeps every block exactly when the verdict
  is handed on, or no finding blocks, or the policy blocks too.
- Theorem {lit}`block_downgraded`: with the declared channels a blocking finding is
  lost.
-/

namespace AuthClaw.Gateway

open Policy PythonText

/-! ## What a blocked run must do -/

section

variable (inputs : Inputs) (s : AuthState) (outcomes : Outcomes)

/-- The redact node sees a blocking finding, or the policy node decides to block. -/
def Run.Blocks (r : Run) : Prop :=
  (∃ findings, .inspected findings ∈ r.events ∧ blockSeen inputs findings) ∨
    .policyDecided .block ∈ r.events

/-- A run that blocks stays away from the later nodes, creates no approval and
reaches the audit node once, with a block that is not allowed. -/
def Run.KeepsBlock (r : Run) : Prop :=
  r.Blocks inputs →
    (¬ r.visits .risk ∧ ¬ r.visits .providerRouter ∧ ¬ r.visits .llm) ∧
      r.created = [] ∧
      r.events.count (.visited .audit) = 1 ∧
      ∃ block, r.audits = [block] ∧ block.allowed = some false

/-- The policy decides to block what the redact node leaves of the message. -/
def PolicyBlocks : Prop :=
  ∃ result, policyEvaluation inputs s = .ok result ∧ result.policyDecision = .block

theorem invoke_blocks_iff :
    (invoke inputs outcomes s).Blocks inputs ↔
      blockSeen inputs (seenFindings inputs s) ∨
        (¬ BlockHandedOn inputs s ∧ PolicyBlocks inputs s) := by
  unfold Run.Blocks PolicyBlocks
  simp only [inspected_iff, decided_iff]
  constructor
  · rintro (⟨findings, rfl, hblock⟩ | hdecided)
    · exact Or.inl hblock
    · exact Or.inr hdecided
  · rintro (hblock | hdecided)
    · exact Or.inl ⟨_, rfl, hblock⟩
    · exact Or.inr hdecided

/-- What a run that is blocked in effect does. -/
theorem BlockedTail.keepsBlock {r : Run} (h : BlockedTail outcomes r) : r.KeepsBlock inputs :=
  fun _ => ⟨h.unvisited, h.noneCreated, h.auditedOnce, h.audited⟩

/-- A run visits the node it starts at. -/
theorem runFrom_visits (fuel : Nat) (n : Node) :
    (runFrom inputs outcomes (fuel + 1) n s).visits n := by
  unfold runFrom
  rcases runNode inputs outcomes n s with ⟨events, result⟩
  cases result with
  | error e => simp [Run.visits]
  | ok s' =>
      simp only
      cases nextNode (inputs.passing.carry s') n with
      | none => simp [Run.visits]
      | some m => simp [Run.visits, Run.after]

/-- The policy approves, asks for an approval or blocks. -/
theorem policyEvaluation_cases {result : PolicyAgentResult}
    (heval : policyEvaluation inputs s = .ok result) :
    result.approved = true ∨ result.policyDecision = .requireApproval ∨
      result.policyDecision = .block := by
  rw [policyAgentEvaluate_approved inputs.py heval]
  cases hdecision : result.policyDecision with
  | allow => exact Or.inl (Or.inl rfl)
  | redact => exact Or.inl (Or.inr rfl)
  | requireApproval => exact Or.inr (Or.inl rfl)
  | block => exact Or.inr (Or.inr rfl)

/-- A run nothing stops at the policy node goes on to the risk node or raises
before the audit. -/
theorem invoke_unblocked (hhanded : ¬ BlockHandedOn inputs s)
    (hpolicy : ¬ PolicyBlocks inputs s) :
    (invoke inputs outcomes s).visits .risk ∨ (invoke inputs outcomes s).audits = [] := by
  cases heval : policyEvaluation inputs s with
  | error e =>
      right
      rw [invoke_error inputs s outcomes hhanded heval]
      rfl
  | ok result =>
      left
      rcases policyEvaluation_cases inputs s heval with happroved | hpending | hblock
      · rcases invoke_approved inputs s outcomes hhanded heval happroved with ⟨sr, hrun, -⟩
        rw [hrun, after_visits]
        exact Or.inr (runFrom_visits inputs sr outcomes 21 .risk)
      · rcases invoke_requireApproval inputs s outcomes hhanded heval hpending with ⟨sr, hrun, -⟩
        rw [hrun, after_visits]
        exact Or.inr (runFrom_visits inputs sr outcomes 21 .risk)
      · exact absurd ⟨result, heval, hblock⟩ hpolicy

/-- A run keeps every block exactly when the verdict of the redact node is handed on
to the policy node, or that node sees no blocking finding, or the policy blocks the
rest of the message as well. -/
theorem block_kept_iff :
    (invoke inputs outcomes s).KeepsBlock inputs ↔
      inputs.passing = .wholeDict ∨ ¬ blockSeen inputs (seenFindings inputs s) ∨
        PolicyBlocks inputs s := by
  constructor
  · intro hkeeps
    by_contra hnot
    push Not at hnot
    rcases hnot with ⟨hpassing, hseen, hpolicy⟩
    have hhanded : ¬ BlockHandedOn inputs s := fun h => hpassing h.1
    have hblocks : (invoke inputs outcomes s).Blocks inputs :=
      (invoke_blocks_iff inputs s outcomes).mpr (Or.inl hseen)
    rcases hkeeps hblocks with ⟨hunvisited, -, -, block, haudits, -⟩
    rcases invoke_unblocked inputs s outcomes hhanded hpolicy with hrisk | hnone
    · exact hunvisited.1 hrisk
    · rw [hnone] at haudits
      cases haudits
  · intro hcondition hblocks
    have hstopped : BlockHandedOn inputs s ∨ PolicyBlocks inputs s := by
      rcases (invoke_blocks_iff inputs s outcomes).mp hblocks with hseen | ⟨-, hpolicy⟩
      · rcases hcondition with hpassing | hunseen | hpolicy
        · exact Or.inl ⟨hpassing, hseen⟩
        · exact absurd hseen hunseen
        · exact Or.inr hpolicy
      · exact Or.inr hpolicy
    exact (invoke_blocked inputs s outcomes hstopped).keepsBlock inputs outcomes hblocks

end

/-! ## A lost block -/

/-- A deployment without policies whose detectors find nothing, on the declared
channels. -/
def bareInputs : Inputs where
  py := asciiText
  passing := .schemaChannels
  policies := fun _ => []
  detect := fun _ text => (text, [])
  redactRich := fun _ text => (text, [])
  highRiskKeywords := []
  mediumRiskKeywords := []

/-- Calls that all succeed. -/
def promptOutcomes : Outcomes where
  riskTimesOut := false
  createApproval := .ok "approval-1"
  selectProvider :=
    .ok { routeId := none, providerName := "openai", model := "gpt-4o", source := "default" }
  legacyProvider := .error .valueError
  retrieveContext := fun _ => .ok ""
  historyText := ""
  generate := fun _ => .ok "done"
  sanitizeOutput := fun text => (text, [])
  recordAudit := .ok 1

/-- A request as the chat endpoint starts it. -/
def chatState (message : String) : AuthState where
  message := message
  sessionId := some "session-1"
  requestId := some "request-1"
  routeId := none
  provider := none
  providerClient := none
  providerRouteSource := none
  model := none
  decision := none
  decisionReason := none
  allowed := none
  blockReason := none
  blockCategory := none
  response := none
  context := none
  taskType := none
  riskLevel := none
  approvalStatus := none
  approvalId := none
  triggeredPolicies := none
  originalQuery := none
  tenantId := some 1
  undeclared := Undeclared.empty

/-- A message with a prompt-injection term of the redact node which no pattern of the
policy engine covers reaches the risk node. -/
theorem block_downgraded :
    ¬ (invoke bareInputs promptOutcomes (chatState "disable audit")).KeepsBlock bareInputs := by
  intro hkeeps
  have hseen : blockSeen bareInputs (seenFindings bareInputs (chatState "disable audit")) := by
    decide
  have hblocks := (invoke_blocks_iff bareInputs (chatState "disable audit") promptOutcomes).mpr
    (Or.inl hseen)
  have hrisk : (invoke bareInputs promptOutcomes (chatState "disable audit")).visits .risk := by
    unfold Run.visits
    decide
  exact (hkeeps hblocks).1.1 hrisk

end AuthClaw.Gateway
