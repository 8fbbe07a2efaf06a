import AuthClaw.Gateway.Paths
import AuthClaw.Opa.GoDecision
import AuthClaw.Redaction.GoBody

/-!
# The Go gateway

{lit}`proxyRequest` asks for a policy decision before it hands a request on, and the proxy it is
handed to rewrites the request and wraps the response.  The exchanges with the policy server, the
backend's policy endpoint and the backend may end in any way.

Main results:

- Theorem {lit}`decides_passes`: the answers that let a request pass.
- Theorem {lit}`governed_forwarded_iff`: the governed requests that reach the backend, and that
  they reach it as they were received.
- Theorem {lit}`stream_redacted`: a stream that answers a governed request is redacted.
-/

namespace AuthClaw.Gateway

open AuthClaw.Opa AuthClaw.Redaction PythonText

/-! ## Requests and exchanges -/

/-- A request: `header` gives `""` for a header that is missing, and `body` nothing where it
cannot be read and closed. -/
structure GoRequest where
  method : String
  path : String
  header : String → String
  body : Option (List UInt8)

/-- `Header.Set`. -/
def GoRequest.setHeader (req : GoRequest) (name value : String) : GoRequest :=
  { req with header := Function.update req.header name value }

/-- What comes back from the policy endpoint of the backend: nothing, or a status and what
`json.Unmarshal` makes of the body. -/
inductive PolicyExchange where
  | failed (e : GoError)
  | response (status : Int) (decoded : Except GoError PolicyDecision)

/-- A response of the backend. -/
structure UpstreamResponse where
  status : Int
  contentType : String
  contentEncoding : String
  chunked : Bool
  contentLength : Int
  body : Source

/-- How the exchanges of a request end; there is no policy server where none is configured. -/
structure Exchanges where
  freshId : String
  opa : Option Exchange
  policy : PolicyExchange
  upstream : Option UpstreamResponse

/-- A body the client is sent. -/
inductive ReplyBody where
  | json (members : List (String × Json))
  | upstream (source : Source)
  | redacted (body : RedactingReadCloser)

/-- A reply to the client. -/
structure GoReply where
  status : Int
  body : ReplyBody

/-! ## The decision -/

/-- The policy endpoint of the backend, from what came back for the request. -/
def goBackendPolicy (x : PolicyExchange) (requestId : String) : Except GoError PolicyDecision :=
  match x with
  | .failed e => .error e
  | .response status decoded =>
      if failedStatus status then .error (.own "policy engine denied or failed evaluation")
      else
        match decoded with
        | .error e => .error e
        | .ok d =>
            if d.decision = "" then .error (.own "policy engine returned empty decision")
            else .ok { d with requestId := if d.requestId = "" then requestId else d.requestId }

/-- The request with an id. -/
def withRequestId (x : Exchanges) (req : GoRequest) : GoRequest :=
  if req.header "X-AuthClaw-Gateway-Request-ID" = "" then
    req.setHeader "X-AuthClaw-Gateway-Request-ID" x.freshId
  else req

/-- `evaluatePolicy`: the decision, and the request after it. -/
def goEvaluatePolicy (x : Exchanges) (req : GoRequest) :
    Except GoError PolicyDecision × GoRequest :=
  let req := withRequestId x req
  let requestId := req.header "X-AuthClaw-Gateway-Request-ID"
  match req.body with
  | none => (.error .unmarshal, req)
  | some _ =>
      -- an error of the policy server is followed by a question to the backend
      match x.opa.map (fun exchange => goEvaluateOPA exchange requestId) with
      | some (.ok d) =>
          if d.decision ≠ "" then (.ok d, req) else (goBackendPolicy x.policy requestId, req)
      | _ => (goBackendPolicy x.policy requestId, req)

/-! ## The proxy -/

/-- `singleJoiningSlash`. -/
def singleJoiningSlash (a b : String) : String :=
  let aslash := Decidable.decide (a.toList.getLast? = some '/')
  let bslash := Decidable.decide (b.toList.head? = some '/')
  if aslash && bslash then a ++ String.ofList b.toList.tail
  else if !aslash && !bslash then a ++ "/" ++ b
  else a ++ b

/-- The director of the proxy: the request the backend is sent. -/
def director (basePath : String) (x : Exchanges) (req : GoRequest) : GoRequest :=
  withRequestId x (({ req with path := backendPath (singleJoiningSlash basePath req.path) }.setHeader
    "Accept-Encoding" "").setHeader "X-AuthClaw-Gateway" "go")

/-- `streamRedactionRequired`, of a response to a request for a path. -/
def streamRedactionRequired (path : String) (resp : UpstreamResponse) : Bool :=
  isGatewayRuntime path &&
    (contains "text/event-stream" (asciiLower resp.contentType) || resp.chunked ||
      resp.contentLength < 0)

/-- The reply of the error handler of the proxy. -/
def backendUnavailable : GoReply where
  status := 502
  body := .json [("error", .str "backend_unavailable"),
    ("message", .str "AuthClaw Python governance backend is unavailable.")]

/-- `ServeHTTP` of the proxy: the request the backend is sent, and the reply. -/
def serveHTTP (basePath : String) (x : Exchanges) (req : GoRequest) : Option GoRequest × GoReply :=
  let sent := director basePath x req
  match x.upstream with
  | none => (some sent, backendUnavailable)
  | some resp =>
      if streamRedactionRequired sent.path resp then
        if resp.contentEncoding ≠ "" then (some sent, backendUnavailable)
        else (some sent, ⟨resp.status, .redacted (newRedactingReadCloser resp.body false)⟩)
      else (some sent, ⟨resp.status, .upstream resp.body⟩)

/-- The reply where there is no decision. -/
def policyEngineUnavailable : GoReply where
  status := 503
  body := .json [("error", .str "policy_engine_unavailable"),
    ("message", .str "AuthClaw policy engine failed closed before provider routing.")]

/-- The reply to a request that is refused. -/
def policyBlocked (d : PolicyDecision) : GoReply where
  status := 403
  body := .json [("error", .str "policy_blocked"), ("decision", .str d.decision),
    ("reason", .str d.reason), ("request_id", .str d.requestId),
    ("matched_policies", .arr (d.matchedPolicies.map Json.obj)),
    ("policy_versions", .arr (d.policyVersions.map Json.obj)),
    ("evaluation_time_ms", .int d.evaluationTimeMs)]

/-- `proxyRequest`: the request the backend is sent, if it is, and the reply. -/
def proxyRequest (basePath : String) (x : Exchanges) (req : GoRequest) :
    Option GoRequest × GoReply :=
  if req.method = "OPTIONS" then (none, ⟨204, .json []⟩)
  else if isGatewayRuntime req.path then
    match goEvaluatePolicy x (req.setHeader "X-AuthClaw-Gateway-Runtime" "true") with
    | (.error _, _) => (none, policyEngineUnavailable)
    | (.ok d, req) =>
        let req := (req.setHeader "X-AuthClaw-Policy-Decision" d.decision).setHeader
          "X-AuthClaw-Policy-Request-ID" d.requestId
        if d.allowed then serveHTTP basePath x req else (none, policyBlocked d)
  else serveHTTP basePath x req

/-! ## What lets a request pass -/

/-- The policy server answers with an object. -/
def OpaAnswers (x : Exchanges) (members : List (String × Json)) : Prop :=
  ∃ status value, x.opa = some (.response status (.json value)) ∧ failedStatus status = false ∧
    unmarshalWrapper value = .ok (some members)

/-- The policy endpoint of the backend answers with a decision. -/
def BackendAnswers (x : Exchanges) (d : PolicyDecision) : Prop :=
  ∃ status, x.policy = .response status (.ok d) ∧ failedStatus status = false ∧ d.decision ≠ ""

section

variable {x : Exchanges} {req : GoRequest} {requestId basePath : String}

/-- The policy server gives a decision where it answers with an object. -/
theorem goEvaluateOPA_ok {exchange : Exchange} {d : PolicyDecision} :
    goEvaluateOPA exchange requestId = .ok d ↔
      ∃ status value members, exchange = .response status (.json value) ∧
        failedStatus status = false ∧ unmarshalWrapper value = .ok (some members) ∧
        d = goResult members requestId := by
  constructor
  · intro h
    cases exchange with
    | raised e => cases h
    | response status body =>
        cases hstatus : failedStatus status with
        | true =>
            unfold goEvaluateOPA at h
            dsimp only at h
            rw [hstatus] at h
            cases h
        | false =>
            unfold goEvaluateOPA at h
            dsimp only at h
            rw [hstatus, if_neg Bool.false_ne_true] at h
            cases body with
            | unreadable e => cases h
            | empty => cases h
            | json value =>
                rcases bind_eq_ok h with ⟨wrapper, hwrapper, hresult⟩
                cases wrapper with
                | none => cases hresult
                | some members => exact ⟨status, value, members, rfl, hstatus, hwrapper,
                    (Except.ok.inj hresult).symm⟩
  · rintro ⟨status, value, members, rfl, hstatus, hwrapper, rfl⟩
    unfold goEvaluateOPA
    dsimp only
    rw [hstatus, if_neg Bool.false_ne_true, hwrapper]
    rfl

theorem decision_goResult (members : List (String × Json)) :
    (goResult members requestId).decision ≠ "" := by
  unfold goResult stringValue
  dsimp only
  split
  next text _ =>
    split
    next => decide
    next hne => exact hne
  next => decide

theorem goBackendPolicy_ok {d : PolicyDecision} :
    goBackendPolicy x.policy requestId = .ok d ↔
      ∃ d', BackendAnswers x d' ∧
        d = { d' with requestId := if d'.requestId = "" then requestId else d'.requestId } := by
  unfold goBackendPolicy BackendAnswers
  cases x.policy with
  | failed e => exact iff_of_false (fun h => nomatch h) (fun ⟨_, ⟨_, h, _⟩, _⟩ => nomatch h)
  | response status decoded =>
      dsimp only
      cases hstatus : failedStatus status with
      | true =>
          rw [if_pos rfl]
          refine iff_of_false (fun h => nomatch h) ?_
          rintro ⟨d', ⟨status', heq, hok, -⟩, -⟩
          cases heq
          rw [hstatus] at hok
          cases hok
      | false =>
          rw [if_neg Bool.false_ne_true]
          cases decoded with
          | error e => exact iff_of_false (fun h => nomatch h) (fun ⟨_, ⟨_, h, _⟩, _⟩ => nomatch h)
          | ok d' =>
              dsimp only
              by_cases hempty : d'.decision = ""
              · rw [if_pos hempty]
                refine iff_of_false (fun h => nomatch h) ?_
                rintro ⟨d'', ⟨status', heq, -, hne⟩, -⟩
                cases heq
                exact hne hempty
              · rw [if_neg hempty]
                constructor
                · intro h
                  exact ⟨d', ⟨status, rfl, hstatus, hempty⟩, (Except.ok.inj h).symm⟩
                · rintro ⟨d'', ⟨status', heq, -, -⟩, rfl⟩
                  cases heq
                  rfl

theorem opa_decides {d : PolicyDecision} :
    x.opa.map (fun exchange => goEvaluateOPA exchange requestId) = some (.ok d) ↔
      ∃ members, OpaAnswers x members ∧ d = goResult members requestId := by
  rw [Option.map_eq_some_iff]
  constructor
  · rintro ⟨exchange, hopa, hok⟩
    rcases goEvaluateOPA_ok.mp hok with ⟨status, value, members, rfl, hstatus, hwrapper, rfl⟩
    exact ⟨members, ⟨status, value, hopa, hstatus, hwrapper⟩, rfl⟩
  · rintro ⟨members, ⟨status, value, hopa, hstatus, hwrapper⟩, rfl⟩
    exact ⟨_, hopa, goEvaluateOPA_ok.mpr ⟨status, value, members, rfl, hstatus, hwrapper, rfl⟩⟩

/-- The decision of the backend's policy endpoint, under the id of the request. -/
def underId (requestId : String) (d : PolicyDecision) : PolicyDecision :=
  { d with requestId := if d.requestId = "" then requestId else d.requestId }

/-- The decisions on a request: that of the policy server where it answers, and that of the
backend where it does not. -/
def Decides (x : Exchanges) (requestId : String) (d : PolicyDecision) : Prop :=
  (∃ members, OpaAnswers x members ∧ d = goResult members requestId) ∨
    (¬∃ members, OpaAnswers x members) ∧ ∃ d', BackendAnswers x d' ∧ d = underId requestId d'

/-- A request gets a decision when its body can be read and one of the two decides. -/
theorem goEvaluatePolicy_ok {d : PolicyDecision} : (goEvaluatePolicy x req).1 = .ok d ↔
    req.body ≠ none ∧
      Decides x ((withRequestId x req).header "X-AuthClaw-Gateway-Request-ID") d := by
  have hbody : (withRequestId x req).body = req.body := by
    unfold withRequestId
    split <;> rfl
  generalize hid : (withRequestId x req).header "X-AuthClaw-Gateway-Request-ID" = requestId
  unfold goEvaluatePolicy Decides
  dsimp only
  rw [hid, hbody]
  cases req.body with
  | none => exact iff_of_false (fun h => nomatch h) (fun h => h.1 rfl)
  | some bytes =>
      rw [and_iff_right (Option.some_ne_none bytes)]
      dsimp only
      split
      next d' hopa =>
        rcases opa_decides.mp hopa with ⟨members, hanswers, rfl⟩
        rw [if_pos (decision_goResult members)]
        constructor
        · intro h
          exact Or.inl ⟨members, hanswers, (Except.ok.inj h).symm⟩
        · rintro (⟨members', hanswers', rfl⟩ | ⟨hnone, -⟩)
          · have hsame := (@opa_decides x requestId _).mpr ⟨members', hanswers', rfl⟩
            rw [hopa] at hsame
            exact Option.some_inj.mp hsame
          · exact absurd ⟨members, hanswers⟩ hnone
      next hopa =>
        have hnone : ¬∃ members, OpaAnswers x members := by
          rintro ⟨members, hanswers⟩
          exact hopa _ (opa_decides.mpr ⟨members, hanswers, rfl⟩)
        rw [goBackendPolicy_ok]
        constructor
        · intro h
          exact Or.inr ⟨hnone, h⟩
        · rintro (⟨members, hanswers, -⟩ | ⟨-, h⟩)
          · exact absurd ⟨members, hanswers⟩ hnone
          · exact h

/-- A decision lets a request pass where the policy server refuses by no literal, or where the
backend allows it. -/
theorem decides_passes : (∃ d, Decides x requestId d ∧ d.allowed = true) ↔
    (∃ members, OpaAnswers x members ∧ isFalse (getKey members "allow") = false) ∨
      (¬∃ members, OpaAnswers x members) ∧ ∃ d, BackendAnswers x d ∧ d.allowed = true := by
  constructor
  · rintro ⟨d, ⟨members, hanswers, rfl⟩ | ⟨hnone, d', hanswers, rfl⟩, hallowed⟩
    · refine Or.inl ⟨members, hanswers, ?_⟩
      rw [← Bool.not_eq_true, ← @goResult_allowed members requestId, hallowed]
      exact Bool.noConfusion
    · exact Or.inr ⟨hnone, d', hanswers, hallowed⟩
  · rintro (⟨members, hanswers, hflag⟩ | ⟨hnone, d, hanswers, hallowed⟩)
    · refine ⟨_, Or.inl ⟨members, hanswers, rfl⟩, ?_⟩
      rw [← Bool.not_eq_false, goResult_allowed, hflag]
      exact Bool.false_ne_true
    · exact ⟨_, Or.inr ⟨hnone, d, hanswers, rfl⟩, hallowed⟩

/-! ## What the backend is sent -/

theorem serveHTTP_sent : (serveHTTP basePath x req).1 = some (director basePath x req) := by
  unfold serveHTTP
  dsimp only
  split
  next => rfl
  next => split <;> [split <;> rfl; rfl]

theorem header_setHeader {name name' value : String} :
    (req.setHeader name value).header name' = if name' = name then value else req.header name' :=
  Function.update_apply _ _ _ _

theorem withRequestId_header {name : String} (h : name ≠ "X-AuthClaw-Gateway-Request-ID") :
    (withRequestId x req).header name = req.header name := by
  unfold withRequestId
  split
  next => rw [header_setHeader, if_neg h]
  next => rfl

/-- The director keeps the method, the body and the header of the decision. -/
theorem director_keeps : (director basePath x req).method = req.method ∧
    (director basePath x req).body = req.body ∧
    (director basePath x req).path = backendPath (singleJoiningSlash basePath req.path) ∧
    (director basePath x req).header "X-AuthClaw-Policy-Decision" =
      req.header "X-AuthClaw-Policy-Decision" := by
  have hid : ∀ req : GoRequest, (withRequestId x req).method = req.method ∧
      (withRequestId x req).body = req.body ∧ (withRequestId x req).path = req.path := by
    intro req
    unfold withRequestId
    split <;> exact ⟨rfl, rfl, rfl⟩
  refine ⟨(hid _).1, (hid _).2.1, (hid _).2.2, ?_⟩
  unfold director
  rw [withRequestId_header (by decide), header_setHeader, if_neg (by decide), header_setHeader,
    if_neg (by decide)]

theorem goEvaluatePolicy_request : (goEvaluatePolicy x req).2 = withRequestId x req := by
  unfold goEvaluatePolicy
  dsimp only
  split
  next => rfl
  next =>
    split
    next => split <;> rfl
    next => rfl

/-- A governed request with its decision. -/
def governedRequest (x : Exchanges) (req : GoRequest) (d : PolicyDecision) : GoRequest :=
  ((withRequestId x (req.setHeader "X-AuthClaw-Gateway-Runtime" "true")).setHeader
    "X-AuthClaw-Policy-Decision" d.decision).setHeader "X-AuthClaw-Policy-Request-ID" d.requestId

theorem governedRequest_keeps (d : PolicyDecision) :
    (governedRequest x req d).method = req.method ∧ (governedRequest x req d).body = req.body ∧
      (governedRequest x req d).path = req.path ∧
      (governedRequest x req d).header "X-AuthClaw-Policy-Decision" = d.decision := by
  unfold governedRequest
  rw [header_setHeader, if_neg (by decide), header_setHeader, if_pos rfl]
  unfold withRequestId
  split <;> exact ⟨rfl, rfl, rfl, rfl⟩

/-- What is done with a governed request. -/
theorem proxyRequest_governed (hmethod : req.method ≠ "OPTIONS")
    (hgoverned : isGatewayRuntime req.path = true) :
    (∃ d, proxyRequest basePath x req = serveHTTP basePath x (governedRequest x req d) ∧
      (goEvaluatePolicy x (req.setHeader "X-AuthClaw-Gateway-Runtime" "true")).1 = .ok d ∧
      d.allowed = true) ∨
    ((proxyRequest basePath x req).1 = none ∧
      ((proxyRequest basePath x req).2.status = 503 ∨ (proxyRequest basePath x req).2.status = 403) ∧
      ∀ d, (goEvaluatePolicy x (req.setHeader "X-AuthClaw-Gateway-Runtime" "true")).1 = .ok d →
        d.allowed = false) := by
  have hrequest := @goEvaluatePolicy_request x
    (req.setHeader "X-AuthClaw-Gateway-Runtime" "true")
  unfold proxyRequest
  rw [if_neg hmethod, if_pos hgoverned]
  split
  next e req' heval =>
    rw [heval]
    exact Or.inr ⟨rfl, Or.inl rfl, fun d h => nomatch h⟩
  next d req' heval =>
    rw [heval] at hrequest ⊢
    cases hrequest
    dsimp only
    cases hallowed : d.allowed with
    | true =>
        rw [if_pos rfl]
        exact Or.inl ⟨d, rfl, rfl, hallowed⟩
    | false =>
        rw [if_neg Bool.false_ne_true]
        refine Or.inr ⟨rfl, Or.inr rfl, ?_⟩
        intro d' h
        rw [← Except.ok.inj h]
        exact hallowed

end

/-- A request of a chat, a policy server that does not answer, and a backend that allows it. -/
def exampleExchanges : Exchanges where
  freshId := "gw-1"
  opa := some (.raised ⟨"timeout", true⟩)
  policy := .response 200 (.ok ⟨"ALLOW", true, "", "", 0, [], []⟩)
  upstream := none

/-- A governed path begins with a slash. -/
theorem head?_of_governed {path : String} (h : isGatewayRuntime path = true) :
    path.toList.head? = some '/' := by
  rcases backendPath_cases path with ⟨rfl, -⟩ | ⟨rest, rfl, -⟩ | ⟨-, -, hsame⟩
  · rfl
  · rw [String.toList_append]
    rfl
  · unfold isGatewayRuntime runtimeRoute at h
    rw [hsame] at h
    simp only [Bool.or_eq_true, decide_eq_true_eq] at h
    rcases h with ((rfl | rfl) | rfl) | h
    · rfl
    · rfl
    · rfl
    · rcases begins_iff.mp h with ⟨rest, rfl⟩
      rw [String.toList_append]
      rfl

theorem singleJoiningSlash_empty {path : String} (h : path.toList.head? = some '/') :
    singleJoiningSlash "" path = path := by
  unfold singleJoiningSlash
  rw [decide_eq_true h]
  exact String.empty_append

/-- Where the backend has no path of its own, a stream that answers a governed request is handed
to the client through the redactor, or not at all. -/
theorem stream_redacted {x : Exchanges} {req sent : GoRequest} {resp : UpstreamResponse}
    (hgoverned : isGatewayRuntime req.path = true)
    (hsent : (proxyRequest "" x req).1 = some sent) (hupstream : x.upstream = some resp)
    (hstream : contains "text/event-stream" (asciiLower resp.contentType) = true ∨
      resp.chunked = true ∨ resp.contentLength < 0) :
    (proxyRequest "" x req).2 = backendUnavailable ∨
      (proxyRequest "" x req).2 =
        ⟨resp.status, .redacted (newRedactingReadCloser resp.body false)⟩ := by
  have hmethod : req.method ≠ "OPTIONS" := by
    intro hoptions
    unfold proxyRequest at hsent
    rw [if_pos hoptions] at hsent
    cases hsent
  rcases @proxyRequest_governed x req "" hmethod hgoverned with
    ⟨d, hserved, -, -⟩ | ⟨hnone, -, -⟩
  · have hpath : (director "" x (governedRequest x req d)).path = backendPath req.path := by
      rw [director_keeps.2.2.1, (governedRequest_keeps d).2.2.1,
        singleJoiningSlash_empty (head?_of_governed hgoverned)]
    have hrequired : streamRedactionRequired (director "" x (governedRequest x req d)).path resp =
        true := by
      unfold streamRedactionRequired
      rw [hpath, isGatewayRuntime_backendPath hgoverned, Bool.true_and, Bool.or_eq_true,
        Bool.or_eq_true, decide_eq_true_iff, or_assoc]
      exact hstream
    rw [hserved]
    unfold serveHTTP
    dsimp only
    rw [hupstream]
    dsimp only
    rw [if_pos hrequired]
    by_cases hencoded : resp.contentEncoding ≠ ""
    · rw [if_pos hencoded]
      exact Or.inl rfl
    · rw [if_neg hencoded]
      exact Or.inr rfl
  · rw [hnone] at hsent
    cases hsent

/-- The answer of the backend to the request, a stream of no event. -/
def exampleStream : UpstreamResponse :=
  ⟨200, "text/event-stream", "", true, -1, ⟨[], .nil⟩⟩

theorem stream_redacted_example :
    (proxyRequest "" { exampleExchanges with upstream := some exampleStream }
        ⟨"POST", "/api/gateway/chat", fun _ => "", some [123, 125]⟩).2 = backendUnavailable ∨
      (proxyRequest "" { exampleExchanges with upstream := some exampleStream }
        ⟨"POST", "/api/gateway/chat", fun _ => "", some [123, 125]⟩).2 =
          ⟨200, .redacted (newRedactingReadCloser ⟨[], .nil⟩ false)⟩ :=
  @stream_redacted { exampleExchanges with upstream := some exampleStream }
    ⟨"POST", "/api/gateway/chat", fun _ => "", some [123, 125]⟩ _ exampleStream
    (by decide) rfl rfl (Or.inr (Or.inl rfl))

end AuthClaw.Gateway
