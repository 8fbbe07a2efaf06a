import AuthClaw.Opa.Normalizer

/-!
# Asking the policy server

{lit}`evaluate_opa_policy` asks the policy server over HTTP.  A circuit breaker keeps
it from asking again for a while after a failed exchange.  Where the deployment
requires the policy server, a call without an answer is refused, otherwise it returns
the empty dictionary and the caller goes on with the local engine.

An exchange is what the HTTP client and the JSON decoder make of it: an exception of
theirs, or a status with a decoded body.  The answer may depend on the document sent.

Main results:

- Theorem {lit}`evaluate_unconsulted`: a call that does not ask the server has no
  answer.
- Theorem {lit}`evaluate_breaker`: the breaker is moved exactly by a handled exception.
- Theorem {lit}`evaluate_failsClosed_iff`: a required evaluation fails closed exactly
  when the exchange is decisive.
-/

namespace AuthClaw.Opa

open PythonText

/-! ## Configuration -/

/-- `os.getenv`. -/
abbrev Environment :=
  String → Option String

section

variable (py : PyText)

/-- `_truthy`. -/
def envTruthy (value : Option String) (default : Bool) : Bool :=
  match value with
  | none => default
  | some v => py.lower (py.strip v) ∈ ["1", "true", "yes", "on"]

/-- `opa_enabled`. -/
def opaEnabled (env : Environment) : Bool :=
  envTruthy py (env "AUTHCLAW_OPA_ENABLED") true

/-- `opa_required`. -/
def opaRequired (env : Environment) : Bool :=
  py.lower (py.strip ((env "AUTHCLAW_ENV").getD "development")) ∈ ["production", "prod"] ||
    envTruthy py (env "AUTHCLAW_OPA_REQUIRED") false

end

/-! ## The exchange -/

/-- An exception of the exchange: the name of its class, and whether the class is one
of `URLError`, `TimeoutError`, `ValueError` and `OSError`. -/
structure ExchangeError where
  name : String
  handled : Bool
deriving DecidableEq

/-- The body of a response, once it is read. -/
inductive ResponseBody where
  | unreadable (e : ExchangeError)
  | empty
  | json (v : Json)

/-- `json.loads(response.read().decode("utf-8") or "{}")`. -/
def ResponseBody.value : ResponseBody → Except ExchangeError Json
  | .unreadable e => .error e
  | .empty => .ok (.obj [])
  | .json v => .ok v

/-- What comes back for a request. -/
inductive Exchange where
  | raised (e : ExchangeError)
  | response (status : Int) (body : ResponseBody)

/-- A status outside of the 2xx range. -/
def failedStatus (status : Int) : Bool :=
  status < 200 || 300 ≤ status

/-! ## The evaluation -/

/-- `_opa_fail_closed`. -/
def opaFailClosed (reason : String) : OpaResult where
  allowed := false
  decision := "BLOCK"
  reason := .str reason
  category := .str "opa_enforcement"
  findings := [.obj [("policy_name", .str "OPA enforcement availability"),
    ("category", .str "OPA"), ("action", .str "BLOCK"), ("reason", .str reason),
    ("confidence", .str "fail-closed")]]
  riskLevel := some (.str "HIGH")

/-- What a call returns where the server gave no answer: a refusal when the server is
required, the empty dictionary otherwise. -/
def withoutAnswer (required : Bool) (reason : String) : Option OpaResult :=
  if required then some (opaFailClosed reason) else none

/-- The module globals of a process. -/
structure Breaker where
  disabledUntil : Rat

/-- The document sent to the policy server. -/
def opaInput (text : Option String) (tenantId : Json) (context : List (String × Json)) : Json :=
  .obj [("text", .str (text.getD "")), ("tenant_id", tenantId), ("context", .obj context)]

section

variable (py : PyText)

/-- The call up to its `except` clause. -/
def askServer (required : Bool) : Exchange → Except ExchangeError (Option OpaResult)
  | .raised e => .error e
  | .response status body =>
      if failedStatus status then
        .ok (withoutAnswer required
          ("OPA policy endpoint returned HTTP " ++ status.repr ++ "."))
      else do
        let value ← body.value
        return normalizeOpaResult py value

/-- What a call of `evaluate_opa_policy` reads besides the module globals: the
environment, its arguments, and the clock at its start and when the exchange has
failed. -/
structure OpaCall where
  env : Environment
  breakSeconds : Rat
  exchange : Json → Exchange
  text : Option String
  tenantId : Json
  context : List (String × Json)
  now : Rat
  later : Rat

/-- The exchange of a call, if it asks the server. -/
def OpaCall.exchanged (c : OpaCall) : Exchange :=
  c.exchange (opaInput c.text c.tenantId c.context)

/-- `evaluate_opa_policy`. -/
def evaluateOpaPolicy (c : OpaCall) (breaker : Breaker) :
    Except ExchangeError (Option OpaResult) × Breaker :=
  let required := opaRequired py c.env
  if !opaEnabled py c.env then
    (.ok (withoutAnswer required
      "OPA enforcement is required but AUTHCLAW_OPA_ENABLED is false."), breaker)
  else if c.now < breaker.disabledUntil then
    (.ok (withoutAnswer required
      "OPA enforcement is required but the OPA circuit breaker is open."), breaker)
  else
    match askServer py required c.exchanged with
    | .ok result => (.ok result, breaker)
    | .error e =>
        if e.handled then
          (.ok (withoutAnswer required
            ("OPA enforcement is required but unavailable: " ++ e.name ++ ".")),
            { disabledUntil := c.later + c.breakSeconds })
        else (.error e, breaker)

/-- The call asks the policy server. -/
def Consults (c : OpaCall) (breaker : Breaker) : Prop :=
  opaEnabled py c.env = true ∧ ¬ c.now < breaker.disabledUntil

instance (c : OpaCall) (breaker : Breaker) : Decidable (Consults py c breaker) := by
  unfold Consults
  infer_instance

/-- The `except` clause is reached. -/
def handledError {α : Type} : Except ExchangeError α → Bool
  | .error e => e.handled
  | .ok _ => false

/-! ## Failing closed -/

/-- What a response is read into; a bad status is not read. -/
def Exchange.answer : Exchange → Option (Except ExchangeError Json)
  | .raised e => some (.error e)
  | .response status body => if failedStatus status then none else some body.value

/-- The response carries a policy object that permits in so many words. -/
def ExplicitlyPermitted (x : Exchange) : Prop :=
  ∃ body members, x.answer = some (.ok body) ∧ policyValue body = .obj members ∧
    Permits py members

/-- A call fails closed: it returns a decision, and the decision lets the request
through only where the response says so. -/
def FailsClosed (x : Exchange) (result : Except ExchangeError (Option OpaResult)) : Prop :=
  ∃ r, result = .ok (some r) ∧ r.decision ≠ "" ∧
    (r.allowed = true → ExplicitlyPermitted py x)

/-- An exchange is decisive: it ends in a handled exception or a bad status, or its
body carries a policy object that refuses or permits. -/
def Decisive (x : Exchange) : Prop :=
  match x.answer with
  | none => True
  | some (.error e) => e.handled = true
  | some (.ok value) =>
      ∃ members, policyValue value = .obj members ∧ (Refuses py members ∨ Permits py members)

variable {py}

theorem failsClosed_of_refused {x : Exchange} {r : OpaResult} (hallowed : r.allowed = false)
    (hdecision : r.decision ≠ "") : FailsClosed py x (.ok (some r)) := by
  refine ⟨r, rfl, hdecision, ?_⟩
  intro htrue
  rw [hallowed] at htrue
  cases htrue

theorem failsClosed_withoutAnswer (x : Exchange) (reason : String) :
    FailsClosed py x (.ok (withoutAnswer true reason)) :=
  failsClosed_of_refused rfl (by simp [opaFailClosed])

/-- A response that is not read leaves the call without an answer. -/
theorem askServer_unread {required : Bool} {x : Exchange} (h : x.answer = none) :
    ∃ reason, askServer py required x = .ok (withoutAnswer required reason) := by
  cases x with
  | raised e => cases h
  | response status body =>
      by_cases hstatus : failedStatus status = true
      · refine ⟨"OPA policy endpoint returned HTTP " ++ status.repr ++ ".", ?_⟩
        simp [askServer, hstatus]
      · simp [Exchange.answer, hstatus] at h

/-- A response that is read is normalised, unless reading it fails. -/
theorem askServer_read {required : Bool} {x : Exchange} {value : Except ExchangeError Json}
    (h : x.answer = some value) :
    askServer py required x = value.map (normalizeOpaResult py) := by
  cases x with
  | raised e =>
      cases h
      rfl
  | response status body =>
      by_cases hstatus : failedStatus status = true
      · simp [Exchange.answer, hstatus] at h
      · simp only [Exchange.answer, hstatus, Bool.false_eq_true, if_false,
          Option.some.injEq] at h
        subst h
        simp only [askServer, hstatus, Bool.false_eq_true, if_false]
        cases body.value <;> rfl

/-- A call that does not ask the server has no answer. -/
theorem evaluate_unconsulted {c : OpaCall} {breaker : Breaker} (h : ¬ Consults py c breaker) :
    ∃ reason, evaluateOpaPolicy py c breaker =
      (.ok (withoutAnswer (opaRequired py c.env) reason), breaker) := by
  unfold evaluateOpaPolicy
  cases henabled : opaEnabled py c.env with
  | false => exact ⟨_, rfl⟩
  | true =>
      have hopen : c.now < breaker.disabledUntil := by
        by_contra hclosed
        exact h ⟨henabled, hclosed⟩
      refine ⟨"OPA enforcement is required but the OPA circuit breaker is open.", ?_⟩
      simp [hopen]

/-- A call that asks the server and is answered returns what the answer says. -/
theorem evaluate_answered {c : OpaCall} {breaker : Breaker} {result : Option OpaResult}
    (h : Consults py c breaker)
    (hask : askServer py (opaRequired py c.env) c.exchanged = .ok result) :
    evaluateOpaPolicy py c breaker = (.ok result, breaker) := by
  unfold evaluateOpaPolicy
  simp [h.1, h.2, hask]

/-- A call whose exchange failed is refused when the exception is handled. -/
theorem evaluate_failed {c : OpaCall} {breaker : Breaker} {e : ExchangeError}
    (h : Consults py c breaker)
    (hask : askServer py (opaRequired py c.env) c.exchanged = .error e) :
    evaluateOpaPolicy py c breaker =
      if e.handled then
        (.ok (withoutAnswer (opaRequired py c.env)
          ("OPA enforcement is required but unavailable: " ++ e.name ++ ".")),
          { disabledUntil := c.later + c.breakSeconds })
      else (.error e, breaker) := by
  unfold evaluateOpaPolicy
  simp [h.1, h.2, hask]

/-- The breaker is moved exactly by a handled exception. -/
theorem evaluate_breaker (c : OpaCall) (breaker : Breaker) :
    (evaluateOpaPolicy py c breaker).2 =
      if Consults py c breaker ∧
          handledError (askServer py (opaRequired py c.env) c.exchanged) = true then
        { disabledUntil := c.later + c.breakSeconds }
      else breaker := by
  by_cases hconsults : Consults py c breaker
  · cases hask : askServer py (opaRequired py c.env) c.exchanged with
    | ok r =>
        rw [evaluate_answered hconsults hask, if_neg]
        simp [handledError]
    | error e =>
        rw [evaluate_failed hconsults hask]
        by_cases hhandled : e.handled = true
        · rw [if_pos hhandled, if_pos ⟨hconsults, hhandled⟩]
        · rw [if_neg hhandled, if_neg (fun h => hhandled h.2)]
  · rcases evaluate_unconsulted hconsults with ⟨reason, heq⟩
    rw [heq, if_neg]
    exact fun h => hconsults h.1

theorem eq_opaFailClosed {required : Bool} {reason : String} {o : OpaResult}
    (h : withoutAnswer required reason = some o) : o = opaFailClosed reason := by
  cases required with
  | true => exact (Option.some.inj h).symm
  | false => cases h

/-- What is returned is a refusal without an answer, or the normalised policy object of a
response with a good status. -/
theorem evaluate_eq_some {c : OpaCall} {breaker : Breaker} {o : OpaResult}
    (h : (evaluateOpaPolicy py c breaker).1 = .ok (some o)) :
    (∃ reason, o = opaFailClosed reason ∧
        ¬ (Consults py c breaker ∧ ∃ body members, c.exchanged.answer = some (.ok body) ∧
          policyValue body = .obj members)) ∨
      (Consults py c breaker ∧ ∃ body members, c.exchanged.answer = some (.ok body) ∧
        policyValue body = .obj members ∧ o = normalizeMembers py members) := by
  by_cases hconsults : Consults py c breaker
  · cases hanswer : c.exchanged.answer with
    | none =>
        rcases askServer_unread hanswer with ⟨reason, hask⟩
        rw [evaluate_answered hconsults hask] at h
        exact Or.inl ⟨reason, eq_opaFailClosed (Except.ok.inj h), by simp⟩
    | some value =>
        have hask := @askServer_read py (opaRequired py c.env) _ _ hanswer
        cases value with
        | error e =>
            rw [evaluate_failed hconsults hask] at h
            split_ifs at h with hhandled
            exact Or.inl ⟨_, eq_opaFailClosed (Except.ok.inj h), by simp⟩
        | ok body =>
            rw [evaluate_answered hconsults hask] at h
            rcases normalizeOpaResult_isSome.mp (Except.ok.inj h) with ⟨members, hmembers, ho⟩
            exact Or.inr ⟨hconsults, body, members, rfl, hmembers, ho⟩
  · rcases evaluate_unconsulted hconsults with ⟨reason, heq⟩
    rw [heq] at h
    exact Or.inl ⟨reason, eq_opaFailClosed (Except.ok.inj h), fun hboth => hconsults hboth.1⟩

/-- A normalised policy object fails closed exactly when it refuses or permits. -/
theorem failsClosed_normalizeMembers_iff {x : Exchange} {body : Json}
    {members : List (String × Json)} (hanswer : x.answer = some (.ok body))
    (hmembers : policyValue body = .obj members) :
    FailsClosed py x (.ok (some (normalizeMembers py members))) ↔
      Refuses py members ∨ Permits py members := by
  constructor
  · rintro ⟨r, hr, -, hpermitted⟩
    cases hr
    by_cases hrefuses : Refuses py members
    · exact Or.inl hrefuses
    · right
      have hallowed : (normalizeMembers py members).allowed = true := by
        rw [← Bool.not_eq_false]
        exact fun hfalse => hrefuses (normalizeMembers_allowed.mp hfalse)
      rcases hpermitted hallowed with ⟨body', members', hanswer', hmembers', hpermits⟩
      rw [hanswer] at hanswer'
      cases hanswer'
      rw [hmembers] at hmembers'
      cases hmembers'
      exact hpermits
  · rintro (hrefuses | hpermits)
    · exact failsClosed_of_refused (normalizeMembers_allowed.mpr hrefuses)
        (normalizeMembers_decision_ne_empty members)
    · exact ⟨_, rfl, normalizeMembers_decision_ne_empty members,
        fun _ => ⟨body, members, hanswer, hmembers, hpermits⟩⟩

/-- A decoded body fails closed exactly when it carries an object that refuses or
permits. -/
theorem failsClosed_normalizeOpaResult_iff {x : Exchange} {body : Json}
    (hanswer : x.answer = some (.ok body)) :
    FailsClosed py x (.ok (normalizeOpaResult py body)) ↔
      ∃ members, policyValue body = .obj members ∧
        (Refuses py members ∨ Permits py members) := by
  cases hresult : normalizeOpaResult py body with
  | none =>
      constructor
      · rintro ⟨r, hr, -⟩
        cases hr
      · rintro ⟨members, hmembers, -⟩
        have hsome : normalizeOpaResult py body = some (normalizeMembers py members) :=
          normalizeOpaResult_isSome.mpr ⟨members, hmembers, rfl⟩
        rw [hresult] at hsome
        cases hsome
  | some r =>
      rcases normalizeOpaResult_isSome.mp hresult with ⟨members, hmembers, rfl⟩
      rw [failsClosed_normalizeMembers_iff hanswer hmembers]
      constructor
      · intro h
        exact ⟨members, hmembers, h⟩
      · rintro ⟨members', hmembers', h⟩
        rw [hmembers] at hmembers'
        cases hmembers'
        exact h

/-- A required evaluation that asks the server fails closed exactly when the exchange
is decisive. -/
theorem evaluate_failsClosed_of_consults {c : OpaCall} {breaker : Breaker}
    (hrequired : opaRequired py c.env = true) (hconsults : Consults py c breaker) :
    FailsClosed py c.exchanged (evaluateOpaPolicy py c breaker).1 ↔ Decisive py c.exchanged := by
  unfold Decisive
  cases hanswer : c.exchanged.answer with
  | none =>
      rcases askServer_unread hanswer with ⟨reason, hask⟩
      rw [evaluate_answered hconsults hask, hrequired]
      exact iff_of_true (failsClosed_withoutAnswer _ _) trivial
  | some value =>
      have hask := @askServer_read py (opaRequired py c.env) _ _ hanswer
      cases value with
      | error e =>
          rw [evaluate_failed hconsults hask, hrequired]
          by_cases hhandled : e.handled = true
          · rw [if_pos hhandled]
            exact iff_of_true (failsClosed_withoutAnswer _ _) hhandled
          · rw [if_neg hhandled]
            refine iff_of_false ?_ hhandled
            rintro ⟨r, hr, -⟩
            cases hr
      | ok body =>
          rw [evaluate_answered hconsults hask]
          exact failsClosed_normalizeOpaResult_iff hanswer

/-- A required evaluation fails closed exactly when it does not ask the server or the
exchange is decisive. -/
theorem evaluate_failsClosed_iff (c : OpaCall) (breaker : Breaker)
    (hrequired : opaRequired py c.env = true) :
    FailsClosed py c.exchanged (evaluateOpaPolicy py c breaker).1 ↔
      ¬ Consults py c breaker ∨ Decisive py c.exchanged := by
  by_cases hconsults : Consults py c breaker
  · rw [evaluate_failsClosed_of_consults hrequired hconsults]
    simp [hconsults]
  · rcases evaluate_unconsulted hconsults with ⟨reason, heq⟩
    rw [heq, hrequired]
    exact iff_of_true (failsClosed_withoutAnswer _ _) (Or.inl hconsults)

/-- A production deployment with the defaults. -/
def productionEnv : Environment :=
  fun name => if name = "AUTHCLAW_ENV" then some "production" else none

/-- A call in production that is answered by the exchange. -/
def productionCall (x : Exchange) : OpaCall where
  env := productionEnv
  breakSeconds := 30
  exchange := fun _ => x
  text := some "dump database"
  tenantId := .int 1
  context := []
  now := 100
  later := 101

theorem productionCall_required (x : Exchange) :
    opaRequired asciiText (productionCall x).env = true := by
  have hrequired : opaRequired asciiText productionEnv = true := by decide
  exact hrequired

theorem productionCall_consults (x : Exchange) : Consults asciiText (productionCall x) ⟨0⟩ := by
  have henabled : opaEnabled asciiText productionEnv = true := by decide
  have hclosed : ¬ (100 : Rat) < 0 := by decide
  exact ⟨henabled, hclosed⟩

/-- A server that is down is a refusal. -/
theorem evaluate_failsClosed_unreachable :
    FailsClosed asciiText (productionCall (.raised ⟨"URLError", true⟩)).exchanged
      (evaluateOpaPolicy asciiText (productionCall (.raised ⟨"URLError", true⟩)) ⟨0⟩).1 := by
  have hdecisive : Decisive asciiText (productionCall (.raised ⟨"URLError", true⟩)).exchanged :=
    rfl
  exact (evaluate_failsClosed_iff (productionCall (.raised ⟨"URLError", true⟩)) ⟨0⟩
    (productionCall_required _)).mpr (Or.inr hdecisive)

/-- An empty body lets the request through, and a body that is no object yields the empty
dictionary. -/
theorem evaluate_not_failsClosed :
    opaRequired asciiText productionEnv = true ∧
      ¬ FailsClosed asciiText (productionCall (.response 200 .empty)).exchanged
        (evaluateOpaPolicy asciiText (productionCall (.response 200 .empty)) ⟨0⟩).1 ∧
      ¬ FailsClosed asciiText (productionCall (.response 200 (.json (.arr [])))).exchanged
        (evaluateOpaPolicy asciiText (productionCall (.response 200 (.json (.arr [])))) ⟨0⟩).1 := by
  refine ⟨productionCall_required (.response 200 .empty), ?_, ?_⟩
  · rw [evaluate_failsClosed_of_consults (productionCall_required _) (productionCall_consults _)]
    rintro ⟨members, hmembers, hsays⟩
    cases hmembers
    exact absurd hsays (by decide)
  · rw [evaluate_failsClosed_of_consults (productionCall_required _) (productionCall_consults _)]
    rintro ⟨members, hmembers, -⟩
    cases hmembers

end

end AuthClaw.Opa
