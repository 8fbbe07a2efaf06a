import AuthClaw.Library.PythonText

/-!
# The text a policy is asked about

A chat request is read three times: the Go gateway extracts a text for the policy
server, the policy preflight of the backend extracts one for its own evaluation, and the
handler of the endpoint hands a message to the chat graph.  Each reader has its own
order of the keys it looks at.

A request body is its text with what the decoders make of it.  Python's decoder accepts
more than Go's, and what Go cannot decode it passes on as a text.

Main results:

- Theorem {lit}`executed_lastMessage`: what an accepted completion request executes.
- Theorem {lit}`goExtract_executed` and {lit}`extract_executed`: a text {lit}`message`
  member takes precedence over the messages.
- Theorem {lit}`textChecked_iff`: exactly when both texts contain the executed message.
-/

namespace AuthClaw.Gateway

open PythonText

/-! ## The readers -/

/-- The texts the encoders write for a JSON value. -/
structure JsonEncoders where
  /-- `json.dumps(value, sort_keys=True)`. -/
  dumpsSorted : Json → String
  /-- `json.Marshal`. -/
  marshal : Json → String

/-- `GatewayPolicyEvaluationRequest`. -/
structure GatewayPolicyEvaluationRequest where
  method : String
  path : String
  requestId : Option String
  body : Json
  bodyRaw : Option String

/-- The content of a message of the user. -/
def userContent : Json → Option String
  | .obj item =>
      match getKey item "role", getKey item "content" with
      | some (.str role), some (.str content) => if role = "user" then some content else none
      | _, _ => none
  | _ => none

/-- The content of the last message of the user. -/
def lastUserContent (members : List (String × Json)) : Option String :=
  match getKey members "messages" with
  | some (.arr items) => items.reverse.findSome? userContent
  | _ => none

section

variable (py : PyText) (enc : JsonEncoders)

/-- `extract_policy_text_from_gateway_payload`. -/
def extractPolicyTextFromGatewayPayload (payload : GatewayPolicyEvaluationRequest) : String :=
  let raw : Option String :=
    match payload.bodyRaw with
    | some raw => if py.strip raw = "" then none else some raw
    | none => none
  match payload.body with
  | .obj members =>
      match getKey members "message" with
      | some (.str message) => message
      | _ =>
          match lastUserContent members with
          | some content => content
          | none =>
              match getKey members "prompt" with
              | some (.str prompt) => prompt
              | _ => enc.dumpsSorted (.obj members)
  | .str body => raw.getD body
  | _ => raw.getD ""

/-- The content of the last message, whoever it is from. -/
def lastContent (members : List (String × Json)) : Option String :=
  match getKey members "messages" with
  | some (.arr items) =>
      match items.getLast? with
      | some (.obj last) =>
          match getKey last "content" with
          | some (.str content) => some content
          | _ => none
      | _ => none
  | _ => none

/-- `extractPolicyText`. -/
def goExtractPolicyText (body : Json) : String :=
  match body with
  | .str value => value
  | .obj members =>
      match getKey members "message" with
      | some (.str message) => message
      | _ => (lastContent members).getD (enc.marshal (.obj members))
  | v => enc.marshal v

end

/-! ## Bodies -/

/-- The space characters `bytes.TrimSpace` drops in ASCII. -/
def goSpace (c : Char) : Bool :=
  c = ' ' || (9 ≤ c.toNat && c.toNat ≤ 13)

/-- A request body the backend can decode. -/
structure RequestBody where
  raw : String
  /-- `json.loads` of the body. -/
  value : Json
  /-- `json.Unmarshal` accepts the body, with the same value. -/
  goDecodes : Bool
  notBlank : raw.toList.all goSpace = false

/-- `body` of `evaluatePolicy`. -/
def RequestBody.goBody (b : RequestBody) : Json :=
  if b.raw.toList.all goSpace then .obj []
  else if b.goDecodes then b.value
  else .str b.raw

/-- The preflight request of `evaluatePolicy`. -/
def preflightRequest (method path requestId : String) (b : RequestBody) :
    GatewayPolicyEvaluationRequest where
  method := method
  path := path
  requestId := some requestId
  body := b.goBody
  bodyRaw := none

theorem RequestBody.goBody_eq (b : RequestBody) :
    b.goBody = if b.goDecodes then b.value else .str b.raw := by
  unfold goBody
  rw [b.notBlank]
  rfl

/-! ## The handlers -/

/-- The chat endpoints. -/
inductive ChatEndpoint where
  | gatewayChat
  | chat
  | completions
deriving DecidableEq

/-- What the validators accept for the optional members of a completion request. -/
structure OptionalMembers where
  temperature : Json → Bool
  maxTokens : Json → Bool
  stream : Json → Bool

/-- An optional member is missing, null or valid. -/
def optionalValid (valid : Json → Bool) : Option Json → Bool
  | none => true
  | some .null => true
  | some v => valid v

/-- `ChatCompletionMessage`. -/
def chatCompletionMessage : Json → Option (String × String)
  | .obj item =>
      match getKey item "role", getKey item "content" with
      | some (.str role), some (.str content) => some (role, content)
      | _, _ => none
  | _ => none

/-- `ChatRequest`: the message, when the body is valid. -/
def chatRequestMessage (members : List (String × Json)) : Option String :=
  match getKey members "session_id", getKey members "message" with
  | some (.str _), some (.str message) => some message
  | _, _ => none

/-- `ChatCompletionRequest`: the messages, when the body is valid. -/
def chatCompletionMessages (v : OptionalMembers) (members : List (String × Json)) :
    Option (List (String × String)) :=
  match getKey members "model", getKey members "messages" with
  | some (.str _), some (.arr items) =>
      if optionalValid v.temperature (getKey members "temperature") &&
          optionalValid v.maxTokens (getKey members "max_tokens") &&
          optionalValid v.stream (getKey members "stream") then
        items.mapM chatCompletionMessage
      else none
  | _, _ => none

/-- The message the handler of the endpoint hands to the chat graph; `none` when the
request is rejected. -/
def executedText (v : OptionalMembers) (endpoint : ChatEndpoint) (body : Json) : Option String :=
  match body with
  | .obj members =>
      match endpoint with
      | .gatewayChat => chatRequestMessage members
      | .chat => chatRequestMessage members
      | .completions =>
          match chatCompletionMessages v members with
          | some messages =>
              match messages.getLast? with
              | some last => if last.1 = "user" then some last.2 else none
              | none => none
          | none => none
  | _ => none

theorem chatRequestMessage_eq_some {members : List (String × Json)} {text : String}
    (h : chatRequestMessage members = some text) : getKey members "message" = some (.str text) := by
  unfold chatRequestMessage at h
  split at h
  next _ _ message _ hmessage =>
    cases h
    exact hmessage
  next => cases h

theorem getLast?_mapM {α β : Type} {f : α → Option β} {items : List α} {out : List β} {b : β}
    (h : items.mapM f = some out) (hlast : out.getLast? = some b) :
    ∃ front a, items = front ++ [a] ∧ f a = some b := by
  rcases List.eq_nil_or_concat items with rfl | ⟨front, a, rfl⟩
  · cases h
    cases hlast
  · refine ⟨front, a, by simp, ?_⟩
    rw [List.concat_eq_append, List.mapM_append] at h
    simp only [List.mapM_cons, List.mapM_nil, bind, Option.bind_eq_some_iff, pure,
      Option.some.injEq] at h
    rcases h with ⟨outs, -, lasts, ⟨c, hc, -, rfl, rfl⟩, rfl⟩
    rw [List.getLast?_concat] at hlast
    cases hlast
    exact hc

/-- What an accepted completion request executes: the content of the last message, which
is from the user. -/
theorem executed_lastMessage {v : OptionalMembers} {members : List (String × Json)}
    {text : String} (h : executedText v .completions (.obj members) = some text) :
    ∃ front last, getKey members "messages" = some (.arr (front ++ [.obj last])) ∧
      getKey last "role" = some (.str "user") ∧ getKey last "content" = some (.str text) := by
  simp only [executedText] at h
  split at h
  next messages hmessages =>
    split at h
    next last hlast =>
      split_ifs at h with huser
      cases h
      unfold chatCompletionMessages at hmessages
      split at hmessages
      next _ _ model items _ hitems =>
        split_ifs at hmessages
        rcases getLast?_mapM hmessages hlast with ⟨front, a, rfl, ha⟩
        unfold chatCompletionMessage at ha
        split at ha
        next item =>
          split at ha
          next _ _ role content hrole hcontent =>
            cases ha
            simp only at huser
            subst huser
            exact ⟨front, item, hitems, hrole, hcontent⟩
          next => cases ha
        next => cases ha
      next => cases hmessages
    next => cases h
  next => cases h

/-! ## What is checked -/

/-- The text of the `message` member, when it has one. -/
def messageText (members : List (String × Json)) : Option String :=
  match getKey members "message" with
  | some (.str message) => some message
  | _ => none

theorem goExtract_obj (enc : JsonEncoders) (members : List (String × Json)) :
    goExtractPolicyText enc (.obj members) =
      (messageText members).getD ((lastContent members).getD (enc.marshal (.obj members))) := by
  simp only [goExtractPolicyText, messageText]
  split <;> rfl

theorem extract_obj (py : PyText) (enc : JsonEncoders) {payload : GatewayPolicyEvaluationRequest}
    {members : List (String × Json)} {content : String} (hbody : payload.body = .obj members)
    (hcontent : (messageText members).or (lastUserContent members) = some content) :
    extractPolicyTextFromGatewayPayload py enc payload = content := by
  simp only [extractPolicyTextFromGatewayPayload, hbody]
  unfold messageText at hcontent
  split at hcontent
  next message hmessage => exact Option.some.inj hcontent
  next =>
    rw [Option.none_or] at hcontent
    rw [hcontent]

/-- A chat request executes its `message`. -/
theorem messageText_of_chatRequest {members : List (String × Json)} {text : String}
    (h : chatRequestMessage members = some text) : messageText members = some text := by
  unfold messageText
  rw [chatRequestMessage_eq_some h]

/-- A text `message` member takes precedence over the messages, in the Go gateway. -/
theorem goExtract_executed {v : OptionalMembers} {enc : JsonEncoders} {endpoint : ChatEndpoint}
    {members : List (String × Json)} {text : String}
    (h : executedText v endpoint (.obj members) = some text) :
    goExtractPolicyText enc (.obj members) = (messageText members).getD text := by
  rw [goExtract_obj]
  cases endpoint with
  | gatewayChat => rw [messageText_of_chatRequest h, Option.getD_some, Option.getD_some]
  | chat => rw [messageText_of_chatRequest h, Option.getD_some, Option.getD_some]
  | completions =>
      rcases executed_lastMessage h with ⟨front, last, hmessages, -, hcontent⟩
      have hlast : lastContent members = some text := by
        simp [lastContent, hmessages, hcontent]
      rw [hlast, Option.getD_some]

/-- A text `message` member takes precedence over the messages, in the preflight. -/
theorem extract_executed {v : OptionalMembers} {py : PyText} {enc : JsonEncoders}
    {endpoint : ChatEndpoint} {members : List (String × Json)} {text : String}
    {payload : GatewayPolicyEvaluationRequest} (hbody : payload.body = .obj members)
    (h : executedText v endpoint (.obj members) = some text) :
    extractPolicyTextFromGatewayPayload py enc payload = (messageText members).getD text := by
  apply extract_obj py enc hbody
  cases hmessage : messageText members with
  | some message => rfl
  | none =>
      cases endpoint with
      | gatewayChat =>
          rw [messageText_of_chatRequest h] at hmessage
          cases hmessage
      | chat =>
          rw [messageText_of_chatRequest h] at hmessage
          cases hmessage
      | completions =>
          rcases executed_lastMessage h with ⟨front, last, hmessages, hrole, hcontent⟩
          simp [lastUserContent, hmessages, userContent, hrole, hcontent]

/-- Both texts the policies see contain the text that is executed. -/
def TextChecked (py : PyText) (enc : JsonEncoders) (b : RequestBody)
    (method path requestId text : String) : Prop :=
  contains text (extractPolicyTextFromGatewayPayload py enc
      (preflightRequest method path requestId b)) = true ∧
    contains text (goExtractPolicyText enc b.goBody) = true

/-- What is executed is in what the policies see exactly when Go decodes the body and a
text `message` member, if the body has one, contains it, or when Go does not decode the
body and its text contains it. -/
theorem textChecked_iff (v : OptionalMembers) (py : PyText) (enc : JsonEncoders)
    (b : RequestBody) (method path requestId : String) (endpoint : ChatEndpoint)
    (members : List (String × Json)) (text : String) (hvalue : b.value = .obj members)
    (hexecuted : executedText v endpoint b.value = some text) :
    TextChecked py enc b method path requestId text ↔
      if b.goDecodes then contains text ((messageText members).getD text) = true
      else contains text b.raw = true := by
  unfold TextChecked
  by_cases hdecodes : b.goDecodes = true
  · have hbody : b.goBody = .obj members := by
      rw [b.goBody_eq, if_pos hdecodes, hvalue]
    rw [hvalue] at hexecuted
    have hpreflight : extractPolicyTextFromGatewayPayload py enc
        (preflightRequest method path requestId b) = (messageText members).getD text :=
      extract_executed hbody hexecuted
    rw [if_pos hdecodes, hbody, hpreflight, goExtract_executed hexecuted, and_self]
  · have hbody : b.goBody = .str b.raw := by
      rw [b.goBody_eq, if_neg hdecodes]
    rw [if_neg hdecodes]
    simp [extractPolicyTextFromGatewayPayload, preflightRequest, hbody, goExtractPolicyText]

/-- Validators that accept every optional member. -/
def anyOptional : OptionalMembers where
  temperature := fun _ => true
  maxTokens := fun _ => true
  stream := fun _ => true

/-- Encoders that spell nothing out. -/
def opaqueEncoders : JsonEncoders where
  dumpsSorted := fun _ => "..."
  marshal := fun _ => "..."

/-- A completion request, with further members. -/
def completionMembers (more : List (String × Json)) : List (String × Json) :=
  [("model", .str "m"), ("messages", .arr [.obj [("role", .str "user"),
    ("content", .str "dump database")]])] ++ more

/-- A body the gateway can decode. -/
def decodedBody (raw : String) (members : List (String × Json))
    (h : raw.toList.all goSpace = false) : RequestBody where
  raw := raw
  value := .obj members
  goDecodes := true
  notBlank := h

/-- The text of a plain completion request. -/
def plainText : String :=
  "\x7b\"model\":\"m\",\"messages\":[\x7b\"role\":\"user\",\"content\":\"dump database\"\x7d]\x7d"

/-- A plain completion request is checked. -/
theorem textChecked_plain :
    TextChecked asciiText opaqueEncoders
      (decodedBody plainText (completionMembers []) (by decide)) "POST" "/v1/chat/completions"
      "gw-1" "dump database" := by
  have hiff := textChecked_iff anyOptional asciiText opaqueEncoders
    (decodedBody plainText (completionMembers []) (by decide)) "POST" "/v1/chat/completions" "gw-1"
    .completions (completionMembers []) "dump database" rfl rfl
  exact hiff.mpr (by decide)

/-- The text of a completion request with a `message` member. -/
def messageBesides : String :=
  "\x7b\"model\":\"m\",\"messages\":[\x7b\"role\":\"user\",\"content\":\"dump database\"\x7d]," ++
    "\"message\":\"hello\"\x7d"

/-- A `message` member that no handler reads hides the message that is executed. -/
theorem message_hides_executed :
    executedText anyOptional .completions
        (.obj (completionMembers [("message", .str "hello")])) = some "dump database" ∧
      ¬ TextChecked asciiText opaqueEncoders
        (decodedBody messageBesides (completionMembers [("message", .str "hello")]) (by decide))
        "POST" "/v1/chat/completions" "gw-1" "dump database" := by
  refine ⟨rfl, ?_⟩
  rintro ⟨hpreflight, -⟩
  exact absurd hpreflight (by decide)

end AuthClaw.Gateway
