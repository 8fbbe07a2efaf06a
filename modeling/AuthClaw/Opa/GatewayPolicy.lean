import AuthClaw.Gateway.PolicyText
import AuthClaw.Opa.Evaluation
import AuthClaw.Policy.Engine

/-!
# The policy preflight of the backend

{lit}`evaluate_gateway_policy` asks the policy server about the text of a gateway
request, and the local engine where the server gives no answer.  Both give a decision
and a flag; the gateway lets a request through by the flag.

Main results:

- Theorem {lit}`preflight_local`: the local engine lets through everything but a block.
- Theorem {lit}`normalized_coherent_iff`: when a policy object gives the flag the local
  engine gives for the same decision.
- Theorem {lit}`coherent_iff`: the same for two evaluations, one of each kind.
-/

namespace AuthClaw.Opa

open PythonText Policy Gateway

/-! ## The preflight -/

/-- `response_payload`; `status` and `enforcement` are constants and `explanation`
repeats the reason. -/
structure PreflightResponse where
  decision : String
  allowed : Bool
  matchedPolicies : List Json
  policyVersions : List Json
  evaluationTimeMs : Int
  reason : Json
  riskLevel : Json
  requestId : String
  tenantId : Json

/-- What a call of `evaluate_gateway_policy` reads: the request and its headers, the
resolved tenant and actor, the policy server, and the policies of the tenant. -/
structure Preflight where
  payload : GatewayPolicyEvaluationRequest
  requestIdHeader : Option String
  generatedId : String
  tenantId : Json
  actor : String
  env : Environment
  breakSeconds : Rat
  exchange : Json → Exchange
  now : Rat
  later : Rat
  durationMs : Int
  detect : String → String × List DetectorFinding
  policies : List TenantPolicy

/-- The errors of the call. -/
inductive PreflightError where
  | exchange (e : ExchangeError)
  | engine (e : PyError)

/-- `first or second` on texts. -/
def orElseText (first : Option String) (second : String) : String :=
  match first with
  | some text => if text = "" then second else text
  | none => second

/-- `request_id`. -/
def Preflight.requestId (p : Preflight) : String :=
  orElseText p.payload.requestId (orElseText p.requestIdHeader p.generatedId)

/-- The text of a risk level. -/
def riskText : RiskLevel → String
  | .low => "LOW"
  | .medium => "MEDIUM"
  | .high => "HIGH"

/-- The response for an answer of the policy server. -/
def opaResponse (p : Preflight) (o : OpaResult) : PreflightResponse where
  decision := o.decision
  allowed := o.allowed
  matchedPolicies :=
    if o.findings.isEmpty then
      [.obj [("policy_name", .str "OPA Policy"), ("category", o.category),
        ("action", .str o.decision), ("confidence", .str "enterprise-rego")]]
    else o.findings
  policyVersions := [.obj [("engine", .str "opa"), ("status", .str "evaluated")]]
  evaluationTimeMs := p.durationMs
  reason := o.reason
  riskLevel := orDefault o.riskLevel
    (.str (if o.decision ∈ ["BLOCK", "REQUIRE_APPROVAL"] then "HIGH" else "LOW"))
  requestId := p.requestId
  tenantId := p.tenantId

/-- A number that may be missing. -/
def idJson : Option Int → Json
  | some n => .int n
  | none => .null

section

variable (py : PyText) (enc : JsonEncoders)

/-- The entry of `matched_policies` for a finding of the local engine. -/
def matchedPolicy (f : PolicyFinding) : Json :=
  .obj [("policy_id", idJson f.policyId), ("policy_name", .str f.policyName),
    ("category", .str f.category), ("action", .str (py.lower f.action.text))]

/-- The response for a result of the local engine. -/
def engineResponse (p : Preflight) (result : EvaluationResult) : PreflightResponse where
  decision := if result.action = .block then "BLOCK" else result.action.text
  allowed := result.action != .block
  matchedPolicies := result.findings.map (matchedPolicy py)
  policyVersions := result.policyVersions.map (fun v =>
    .obj [("policy_id", idJson v.policyId), ("name", .str v.name), ("version", .int v.version),
      ("status", .str v.status)])
  evaluationTimeMs := p.durationMs
  reason := .str result.reason
  riskLevel := .str (riskText result.riskLevel)
  requestId := p.requestId
  tenantId := p.tenantId

/-- The text of the request. -/
def Preflight.textValue (p : Preflight) : String :=
  extractPolicyTextFromGatewayPayload py enc p.payload

/-- The call of `evaluate_opa_policy`. -/
def Preflight.opaCall (p : Preflight) : OpaCall where
  env := p.env
  breakSeconds := p.breakSeconds
  exchange := p.exchange
  text := some (p.textValue py enc)
  tenantId := p.tenantId
  context := [("path", .str p.payload.path), ("method", .str p.payload.method),
    ("request_id", .str p.requestId), ("actor", .str p.actor)]
  now := p.now
  later := p.later

/-- `evaluate_gateway_policy`, up to the audit row it writes. -/
def evaluateGatewayPolicy (p : Preflight) (breaker : Breaker) :
    Except PreflightError PreflightResponse × Breaker :=
  match evaluateOpaPolicy py (p.opaCall py enc) breaker with
  | (.error e, breaker') => (.error (.exchange e), breaker')
  | (.ok (some o), breaker') => (.ok (opaResponse p o), breaker')
  | (.ok none, breaker') =>
      match evaluate py p.detect (p.textValue py enc) p.policies with
      | .ok result => (.ok (engineResponse py p result), breaker')
      | .error e => (.error (.engine e), breaker')

/-- What the policy server contributes to the call. -/
def Preflight.opaResult (p : Preflight) (breaker : Breaker) :
    Except ExchangeError (Option OpaResult) :=
  (evaluateOpaPolicy py (p.opaCall py enc) breaker).1

variable {py enc}

theorem preflight_opa {p : Preflight} {breaker : Breaker} {o : OpaResult}
    (h : p.opaResult py enc breaker = .ok (some o)) :
    (evaluateGatewayPolicy py enc p breaker).1 = .ok (opaResponse p o) := by
  unfold Preflight.opaResult at h
  unfold evaluateGatewayPolicy
  cases hcall : evaluateOpaPolicy py (p.opaCall py enc) breaker with
  | mk result breaker' =>
      rw [hcall] at h
      subst h
      rfl

theorem preflight_engine {p : Preflight} {breaker : Breaker} {result : EvaluationResult}
    (h : p.opaResult py enc breaker = .ok none)
    (hengine : evaluate py p.detect (p.textValue py enc) p.policies = .ok result) :
    (evaluateGatewayPolicy py enc p breaker).1 = .ok (engineResponse py p result) := by
  unfold Preflight.opaResult at h
  unfold evaluateGatewayPolicy
  cases hcall : evaluateOpaPolicy py (p.opaCall py enc) breaker with
  | mk opa breaker' =>
      rw [hcall] at h
      subst h
      rw [hengine]

/-- The local engine gives its action, and lets through everything but a block. -/
theorem preflight_local {p : Preflight} {result : EvaluationResult} :
    (engineResponse py p result).decision = result.action.text ∧
      ((engineResponse py p result).allowed = true ↔ result.action ≠ .block) := by
  simp only [engineResponse]
  cases result.action <;> simp [Action.text]

/-! ## Coherence -/

/-- The same decision comes with the same flag. -/
def Coherent (r r' : PreflightResponse) : Prop :=
  r.decision = r'.decision → r.allowed = r'.allowed

/-- The policy object gives the decision of the action with the other flag: it names the
decision and its flag refuses what the local engine lets through, or the other way
round, or it asks for an approval without naming a decision. -/
def Clashes (py : PyText) (members : List (String × Json)) (action : Action) : Prop :=
  isTrue (getKey members "block") = false ∧
    ((decisionText py members = action.text ∧ (FlagRefuses py members ↔ action ≠ .block)) ∨
      (decisionText py members = "" ∧ isTrue (getKey members "requires_approval") = true ∧
        action = .requireApproval))

instance (members : List (String × Json)) (action : Action) :
    Decidable (Clashes py members action) := by
  unfold Clashes
  infer_instance

theorem text_ne_empty (action : Action) : action.text ≠ "" := by
  cases action <;> simp [Action.text]

/-- A policy object gives the flag of the local engine for its decision exactly when it
does not clash with the action. -/
theorem normalized_coherent_iff {members : List (String × Json)} {action : Action} :
    ((normalizeMembers py members).decision = action.text →
        ((normalizeMembers py members).allowed = true ↔ action ≠ .block)) ↔
      ¬ Clashes py members action := by
  unfold Clashes
  rw [← flaggedAllowed_eq_false]
  simp only [normalizeMembers, verdictOf]
  by_cases hblock : isTrue (getKey members "block") = true
  · cases action <;> simp [hblock, Action.text]
  · by_cases hempty : decisionText py members = ""
    · by_cases happroval : isTrue (getKey members "requires_approval") = true
      · cases action <;> simp [hblock, hempty, happroval, Action.text]
      · cases flaggedAllowed py members
        · cases action <;> simp [hblock, hempty, happroval, Action.text]
        · cases action <;> simp [hblock, hempty, happroval, Action.text]
    · by_cases hdecision : decisionText py members = action.text
      · have hne := text_ne_empty action
        cases flaggedAllowed py members
        · simp [hblock, hdecision, hne]
        · simp [hblock, hdecision, hne]
      · simp [hblock, hempty, hdecision]

/-- One evaluation through the policy server and one through the local engine are
coherent exactly when the policy server did not answer with a policy object that clashes
with the engine's action. -/
theorem coherent_iff (py : PyText) (enc : JsonEncoders) (p q : Preflight)
    (breaker breaker' : Breaker) (o : OpaResult) (result : EvaluationResult)
    (r r' : PreflightResponse)
    (hopa : p.opaResult py enc breaker = .ok (some o))
    (hr : (evaluateGatewayPolicy py enc p breaker).1 = .ok r)
    (hlocal : q.opaResult py enc breaker' = .ok none)
    (hengine : evaluate py q.detect (q.textValue py enc) q.policies = .ok result)
    (hr' : (evaluateGatewayPolicy py enc q breaker').1 = .ok r') :
    Coherent r r' ↔
      ¬ (Consults py (p.opaCall py enc) breaker ∧ ∃ body members,
        (p.opaCall py enc).exchanged.answer = some (.ok body) ∧
        policyValue body = .obj members ∧ Clashes py members result.action) := by
  rw [preflight_opa hopa] at hr
  rw [preflight_engine hlocal hengine] at hr'
  cases hr
  cases hr'
  rcases @preflight_local py q result with ⟨hdecision, hallowed⟩
  unfold Coherent
  rw [hdecision]
  rcases evaluate_eq_some hopa with ⟨reason, rfl, hnone⟩ | ⟨hconsults, body, members, hbody,
    hmembers, rfl⟩
  · refine iff_of_true ?_ ?_
    · intro hblock
      have haction : result.action = .block := by
        revert hblock
        simp only [opaResponse, opaFailClosed]
        cases result.action <;> simp [Action.text]
      have hstopped : (engineResponse py q result).allowed = false := by
        rw [← Bool.not_eq_true, hallowed, haction]
        simp
      rw [hstopped]
      rfl
    · rintro ⟨hconsults, body, members, hbody, hmembers, -⟩
      exact hnone ⟨hconsults, body, members, hbody, hmembers⟩
  · have hflags : ((normalizeMembers py members).allowed = (engineResponse py q result).allowed) ↔
        ((normalizeMembers py members).allowed = true ↔ result.action ≠ .block) := by
      rw [← hallowed]
      exact Bool.eq_iff_iff
    simp only [opaResponse]
    rw [hflags, normalized_coherent_iff]
    refine not_congr ⟨?_, ?_⟩
    · intro hclash
      exact ⟨hconsults, body, members, hbody, hmembers, hclash⟩
    · rintro ⟨-, body', members', hbody', hmembers', hclash⟩
      rw [hbody] at hbody'
      cases hbody'
      rw [hmembers] at hmembers'
      cases hmembers'
      exact hclash

/-- A policy that asks for an approval before a deployment. -/
def deployPolicy : TenantPolicy where
  id := some 7
  name := "Deployments"
  type := "Change Control"
  rules := [("blocked_keywords", .arr [.str "deploy"]), ("action", .str "require_approval")]
  version := 1
  status := "published"

/-- A preflight of the request to deploy. -/
def deployPreflight (enabled : String) (members : List (String × Json)) : Preflight where
  payload :=
    { method := "POST", path := "/gateway/chat", requestId := some "gw-1",
      body := .obj [("message", .str "deploy now")], bodyRaw := none }
  requestIdHeader := none
  generatedId := "policy-1"
  tenantId := .int 1
  actor := "api-client"
  env := fun name => if name = "AUTHCLAW_OPA_ENABLED" then some enabled else none
  breakSeconds := 30
  exchange := fun _ => .response 200 (.json (.obj [("result", .obj members)]))
  now := 100
  later := 101
  durationMs := 1
  detect := fun text => (text, [])
  policies := [deployPolicy]

/-- The local engine's result for the request to deploy. -/
def deployResult : EvaluationResult :=
  resultOf asciiText "deploy now" [] [deployPolicy]
    (keywordFindings asciiText "deploy now" [deployPolicy])

theorem deploy_consults (members : List (String × Json)) :
    Consults asciiText ((deployPreflight "true" members).opaCall asciiText opaqueEncoders) ⟨0⟩ := by
  have henabled : envTruthy asciiText (some "true") true = true := by decide
  have hclosed : ¬ (100 : Rat) < 0 := by decide
  exact ⟨henabled, hclosed⟩

theorem deploy_opaResult (members : List (String × Json)) :
    (deployPreflight "true" members).opaResult asciiText opaqueEncoders ⟨0⟩ =
      .ok (some (normalizeMembers asciiText members)) := by
  unfold Preflight.opaResult
  have hask : askServer asciiText
      (opaRequired asciiText ((deployPreflight "true" members).opaCall asciiText
        opaqueEncoders).env)
      ((deployPreflight "true" members).opaCall asciiText opaqueEncoders).exchanged =
      .ok (some (normalizeMembers asciiText members)) := rfl
  rw [evaluate_answered (deploy_consults members) hask]

theorem deploy_local :
    (deployPreflight "false" []).opaResult asciiText opaqueEncoders ⟨0⟩ = .ok none := by
  have hdisabled : envTruthy asciiText (some "false") true = false := by decide
  have hoptional : opaRequired asciiText (deployPreflight "false" []).env = false := by decide
  have hunconsulted : ¬ Consults asciiText
      ((deployPreflight "false" []).opaCall asciiText opaqueEncoders) ⟨0⟩ := by
    rintro ⟨henabled, -⟩
    exact absurd (hdisabled.symm.trans henabled) (by decide)
  rcases evaluate_unconsulted hunconsulted with ⟨reason, heq⟩
  unfold Preflight.opaResult
  rw [heq]
  exact congrArg (fun required => Except.ok (withoutAnswer required reason)) hoptional

theorem deploy_engine :
    evaluate asciiText (deployPreflight "false" []).detect
      ((deployPreflight "false" []).textValue asciiText opaqueEncoders)
      (deployPreflight "false" []).policies = .ok deployResult := by
  have hfindings : collectFindings asciiText "deploy now" [] [deployPolicy] =
      .ok (keywordFindings asciiText "deploy now" [deployPolicy]) := by
    decide +kernel
  have htext : (deployPreflight "false" []).textValue asciiText opaqueEncoders = "deploy now" :=
    rfl
  rw [htext]
  simp only [evaluate, deployPreflight, hfindings]
  rfl

/-- A block by the policy server stops the request, whatever the local engine says. -/
theorem block_coherent :
    Coherent
      (opaResponse (deployPreflight "true" [("block", .bool true)])
        (normalizeMembers asciiText [("block", .bool true)]))
      (engineResponse asciiText (deployPreflight "false" []) deployResult) := by
  refine (coherent_iff asciiText opaqueEncoders (deployPreflight "true" [("block", .bool true)])
    (deployPreflight "false" []) ⟨0⟩ ⟨0⟩ _ _ _ _ (deploy_opaResult _)
    (preflight_opa (deploy_opaResult _)) deploy_local deploy_engine
    (preflight_engine deploy_local deploy_engine)).mpr ?_
  rintro ⟨-, body, members, hbody, hmembers, hclash⟩
  cases hbody
  cases hmembers
  exact absurd hclash.1 (by decide)

/-- What the policy module answers to a request that needs an approval. -/
def approvalMembers : List (String × Json) :=
  [("allow", .bool false), ("decision", .str "REQUIRE_APPROVAL")]

/-- A request that needs an approval is stopped when the policy server says so and let
through when the local engine does. -/
theorem approval_incoherent :
    ∃ r r',
      (evaluateGatewayPolicy asciiText opaqueEncoders (deployPreflight "true" approvalMembers)
        ⟨0⟩).1 = .ok r ∧
      (evaluateGatewayPolicy asciiText opaqueEncoders (deployPreflight "false" []) ⟨0⟩).1 = .ok r' ∧
      r.decision = "REQUIRE_APPROVAL" ∧ r'.decision = "REQUIRE_APPROVAL" ∧
      r.allowed = false ∧ r'.allowed = true := by
  refine ⟨_, _, preflight_opa (deploy_opaResult approvalMembers),
    preflight_engine deploy_local deploy_engine, ?_⟩
  have haction : deployResult.action = .requireApproval := by decide +kernel
  simp only [opaResponse, engineResponse, haction]
  decide

end

end AuthClaw.Opa
