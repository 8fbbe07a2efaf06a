import AuthClaw.Library.PythonText
import Mathlib.Logic.Function.Basic

/-!
# The event pipeline

{lit}`EventPipeline` stores an event under its identifier before it delivers it to
Kafka and ClickHouse.  A delivery counts its attempts in the record, from those stored
to the configured number, and marks the record delivered or a dead letter.  Dead letters
are queued again with no attempts.

A call is one step: the statements of a call and its attempts to publish run to the end.
The history notes what happened to the records, the latest first.

Main results:

- Theorem {lit}`loopOf_succeeds` and {lit}`loopOf_fails`: what the loop over the attempts
  comes to.
- Theorem {lit}`deliverEvent_eq`: what a delivery does to the record it finds.
-/

namespace AuthClaw.Events

open PythonText

/-! ## The tables -/

/-- `event_delivery_records.status`. -/
inductive Status where
  | queued
  | delivered
  | deadLetter
deriving DecidableEq

/-- A row of `event_delivery_records`; times are in microseconds. -/
structure DeliveryRecord where
  eventId : String
  tenantId : Option Int
  stream : String
  topic : String
  source : String
  status : Status
  attempts : Nat
  payload : String
  createdAt : Int
  updatedAt : Int
  deliveredAt : Option Int
  nextRetryAt : Option Int
  errorMessage : Option String

/-- A row of `event_dead_letters`. -/
structure DeadLetter where
  eventId : String
  tenantId : Option Int
  stream : String
  topic : String
  payload : String
  errorMessage : Option String
  attempts : Nat
  createdAt : Int

/-- Where an event is published. -/
inductive SinkName where
  | kafka (topic : String)
  | clickhouse
deriving DecidableEq

/-- What happens to a record. -/
inductive Happening where
  | queued (id : String)
  | published (sink : SinkName) (id payload : String)
  | failed (id : String)
  | marked (id : String) (status : Status)
deriving DecidableEq

/-- The tables, with the identifiers in use and the history, the latest first. -/
structure World where
  records : String → Option DeliveryRecord
  ids : List String
  deadLetters : String → Option DeadLetter
  history : List Happening

/-- No event is recorded. -/
def World.empty : World where
  records := fun _ => none
  ids := []
  deadLetters := fun _ => none
  history := []

/-- A row is written. -/
def World.put (w : World) (r : DeliveryRecord) : World :=
  { w with records := Function.update w.records r.eventId (some r) }

/-- Something happens. -/
def World.note (w : World) (new : List Happening) : World :=
  { w with history := new ++ w.history }

/-! ## The pipeline -/

/-- `EventPipeline`. -/
structure EventPipeline where
  kafkaAuditTopic : String
  kafkaAnalyticsTopic : String
  kafkaDlqTopic : String
  clickhouseEnabled : Bool
  maxAttempts : Int

/-- A sink during a call: whether its address is set, whether it is required, and the
error of its request at an attempt. -/
structure Sink where
  configured : Bool
  required : Bool
  refusal : Nat → Option String

/-- The sinks during a call. -/
structure Sinks where
  kafka : Sink
  clickhouse : Sink

/-- The request of an attempt to a sink: whether it was made, or the error raised. -/
def Sink.send (sink : Sink) (missing : String) (attempt : Nat) : Except String Bool :=
  if sink.configured then
    match sink.refusal attempt with
    | some e => .error e
    | none => .ok true
  else if sink.required then .error missing
  else .ok false

/-- `_publish_kafka_rest`. -/
def publishKafkaRest (sinks : Sinks) (attempt : Nat) : Except String Bool :=
  sinks.kafka.send "Kafka REST/MSK endpoint is required but KAFKA_REST_URL is not configured"
    attempt

/-- `_write_clickhouse`. -/
def writeClickhouse (sinks : Sinks) (attempt : Nat) : Except String Bool :=
  sinks.clickhouse.send "ClickHouse endpoint is required but CLICKHOUSE_HTTP_URL is not configured"
    attempt

/-- `"; ".join(errors[-3:]) if errors else None`. -/
def errorText (errors : List String) : Option String :=
  if errors = [] then none
  else some (String.intercalate "; " (errors.drop (errors.length - 3)))

section

variable (p : EventPipeline) (sinks : Sinks)

/-- The `try` block of an attempt, with what was published. -/
def publishOnce (r : DeliveryRecord) (attempt : Nat) : Except String Unit × List Happening :=
  match publishKafkaRest sinks attempt with
  | .error e => (.error e, [])
  | .ok made =>
      let first := if made then [.published (.kafka r.topic) r.eventId r.payload] else []
      if p.clickhouseEnabled then
        match writeClickhouse sinks attempt with
        | .error e => (.error e, first)
        | .ok made =>
            (.ok (), (if made then [.published .clickhouse r.eventId r.payload] else []) ++ first)
      else (.ok (), first)

/-- The variables of the loop over the attempts, with the history. -/
structure LoopState where
  attempts : Nat
  errors : List String
  delivered : Bool
  history : List Happening

/-- The variables after an attempt that failed. -/
def LoopState.failedWith (l : LoopState) (r : DeliveryRecord) (e : String)
    (sent : List Happening) : LoopState :=
  { l with
    attempts := l.attempts + 1
    errors := l.errors ++ [e]
    history := .failed r.eventId :: (sent ++ l.history) }

/-- The loop over the attempts, for the number of them that are left. -/
def deliveryLoop (r : DeliveryRecord) : Nat → LoopState → LoopState
  | 0, l => l
  | left + 1, l =>
      match publishOnce p sinks r (l.attempts + 1) with
      | (.ok _, sent) =>
          { l with attempts := l.attempts + 1, delivered := true, history := sent ++ l.history }
      | (.error e, sent) => deliveryLoop r left (l.failedWith r e sent)

/-- What `deliver_event` returns; a record may be missing. -/
inductive DeliveryResult where
  | missing (eventId : String)
  | finished (status : Status) (eventId : String) (attempts : Nat) (errorMessage : Option String)

/-- The update of a record after the loop. -/
def DeliveryRecord.finish (r : DeliveryRecord) (l : LoopState) (now : Int) : DeliveryRecord :=
  { r with
    status := if l.delivered then .delivered else .deadLetter
    attempts := l.attempts
    deliveredAt := if l.delivered then some now else r.deliveredAt
    errorMessage := errorText l.errors
    nextRetryAt := if l.delivered then some now else none
    updatedAt := now }

@[simp]
theorem DeliveryRecord.finish_eventId (r : DeliveryRecord) (l : LoopState) (now : Int) :
    (r.finish l now).eventId = r.eventId :=
  rfl

/-- The dead letter of a record: a second one keeps its payload. -/
def putDeadLetter (w : World) (r : DeliveryRecord) (l : LoopState) (now : Int) : World :=
  let letter : DeadLetter :=
    match w.deadLetters r.eventId with
    | some old => { old with errorMessage := errorText l.errors, attempts := l.attempts }
    | none => {
        eventId := r.eventId
        tenantId := r.tenantId
        stream := r.stream
        topic := p.kafkaDlqTopic
        payload := r.payload
        errorMessage := errorText l.errors
        attempts := l.attempts
        createdAt := now }
  { w with deadLetters := Function.update w.deadLetters r.eventId (some letter) }

/-- The loop of a record. -/
def loopOf (r : DeliveryRecord) (history : List Happening) : LoopState :=
  deliveryLoop p sinks r (p.maxAttempts - r.attempts).toNat
    { attempts := r.attempts, errors := [], delivered := false, history := history }

/-- `deliver_event`. -/
def deliverEvent (eventId : String) (now : Int) (w : World) : DeliveryResult × World :=
  match w.records eventId with
  | none => (.missing eventId, w)
  | some r =>
      let l := loopOf p sinks r w.history
      let r' := r.finish l now
      let w' := { w.put r' with history := .marked eventId r'.status :: l.history }
      (.finished r'.status eventId l.attempts (errorText l.errors),
        if l.delivered then w' else putDeadLetter p w' r l now)

end

/-! ## Recording -/

/-- What the pipeline computes with: the interpreter, the texts of events, hashes and
numbers, and the tenants that exist. -/
structure Setting where
  py : PyText
  /-- `json.dumps(event, sort_keys=True, default=str)`. -/
  dumps : List (String × Json) → String
  /-- `hashlib.sha256(payload.encode("utf-8")).hexdigest()`. -/
  sha256 : String → String
  /-- `int(value)`; a {lit}`TypeError` is a {lit}`valueError` here. -/
  toInt : Json → Except PyError Int
  tenants : Int → Bool

/-- Why `record_and_deliver` raises. -/
inductive RecordError where
  | python (e : PyError)
  | database
deriving DecidableEq

section

variable (t : Setting)

/-- `str(event.get("event_type") or "event")`. -/
def eventSource (event : List (String × Json)) : String :=
  match orElseJson (getKey event "event_type") none with
  | some v => t.py.str v
  | none => "event"

/-- `_event_id`. -/
def eventIdOf (event : List (String × Json)) : String :=
  match orElseJson (getKey event "event_id")
      (orElseJson (getKey event "request_id") (orElseJson (getKey event "record_id") none)) with
  | some explicit => eventSource t event ++ ":" ++ t.py.str explicit
  | none =>
      eventSource t event ++ ":sha256-" ++ String.ofList ((t.sha256 (t.dumps event)).toList.take 32)

/-- `_event_tenant`. -/
def eventTenant (event : List (String × Json)) : Except PyError (Option Int) :=
  match getKey event "tenant_id" with
  | none => .ok none
  | some .null => .ok none
  | some (.str "") => .ok none
  | some v =>
      match t.toInt v with
      | .ok n => .ok (some n)
      | .error .valueError => .ok none
      | .error e => .error e

/-- A text in a column of a length: what is too long is refused, but for spaces at the
end, which are dropped. -/
def columnText (limit : Nat) (text : String) : Option String :=
  if text.toList.contains (Char.ofNat 0) then none
  else if text.length ≤ limit then some text
  else if (text.toList.drop limit).all (fun c => c = ' ') then
    some (String.ofList (text.toList.take limit))
  else none

theorem columnText_eq_some {limit : Nat} {text out : String}
    (h : columnText limit text = some out) :
    out.length ≤ limit ∧ (text.length ≤ limit → out = text) := by
  unfold columnText at h
  split_ifs at h with hnul hshort hspaces
  · cases h
    exact ⟨hshort, fun _ => rfl⟩
  · cases h
    refine ⟨?_, fun hlength => absurd hlength hshort⟩
    rw [String.length_ofList, List.length_take]
    exact Nat.min_le_left _ _

theorem columnText_length {limit : Nat} {text out : String}
    (h : columnText limit text = some out) : out.length = min limit text.length := by
  unfold columnText at h
  split_ifs at h with hnul hshort hspaces
  · cases h
    exact (Nat.min_eq_right hshort).symm
  · cases h
    rw [String.length_ofList, List.length_take, String.length_toList]

/-- A text that does not fill its column is stored as it is. -/
theorem columnText_of_lt {limit : Nat} {text out : String}
    (h : columnText limit text = some out) (hlength : out.length < limit) :
    text = out := by
  unfold columnText at h
  split_ifs at h with hnul hshort hspaces
  · cases h
    rfl
  · cases h
    rw [String.length_ofList, List.length_take] at hlength
    rw [← String.length_toList] at hshort
    omega

/-- A text that is stored without its end starts the same. -/
theorem columnText_head {limit : Nat} {text out : String} (hlimit : 0 < limit)
    (h : columnText limit text = some out) :
    out.toList.head? = text.toList.head? := by
  unfold columnText at h
  split_ifs at h with hnul hshort hspaces
  · cases h
    rfl
  · cases h
    rw [String.toList_ofList, List.head?_take, if_neg (by omega)]

/-- A longer column takes what a shorter one does. -/
theorem columnText_mono {limit limit' : Nat} {text : String} (hle : limit ≤ limit')
    (h : columnText limit text ≠ none) : columnText limit' text ≠ none := by
  unfold columnText at h ⊢
  split_ifs at h with hnul hshort hspaces
  · exact absurd rfl h
  · rw [if_neg hnul, if_pos (hshort.trans hle)]
    exact Option.some_ne_none _
  · have hspaces' : (text.toList.drop limit').all (fun c => c = ' ') = true := by
      rw [List.all_eq_true] at hspaces ⊢
      intro c hc
      exact hspaces c (List.drop_subset_drop_left text.toList hle hc)
    rw [if_neg hnul, if_pos hspaces']
    split_ifs
    · exact Option.some_ne_none _
    · exact Option.some_ne_none _
  · exact absurd rfl h

/-- The row of an event as the table takes it. -/
def storedRow (topic stream : String) (event : List (String × Json)) (tenantId : Option Int)
    (now : Int) : Option DeliveryRecord := do
  let eventId ← columnText 160 (eventIdOf t event)
  let stream ← columnText 50 stream
  let topic ← columnText 160 topic
  let source ← columnText 100 (eventSource t event)
  if tenantId.all (fun n => -2147483648 ≤ n && n < 2147483648) then
    some {
      eventId := eventId
      tenantId := tenantId
      stream := stream
      topic := topic
      source := source
      status := .queued
      attempts := 0
      payload := t.dumps event
      createdAt := now
      updatedAt := now
      deliveredAt := none
      nextRetryAt := none
      errorMessage := none }
  else none

/-- `payload = EXCLUDED.payload, updated_at = NOW()`. -/
def DeliveryRecord.overwrite (old row : DeliveryRecord) : DeliveryRecord :=
  { old with payload := row.payload, updatedAt := row.updatedAt }

/-- `INSERT ... ON CONFLICT (event_id) DO UPDATE`: a row in the table keeps all but its
payload, a new one needs its tenant. -/
def upsert (row : DeliveryRecord) (w : World) : Option World :=
  match w.records row.eventId with
  | some old => some (w.put (old.overwrite row))
  | none =>
      if row.tenantId.all t.tenants then
        some (({ w with ids := w.ids ++ [row.eventId] }.put row).note [.queued row.eventId])
      else none

/-- A call of `record_and_deliver`: its arguments, the times of its statements and the
sinks while it is made. -/
structure RecordCall where
  event : List (String × Json)
  stream : String
  now : Int
  later : Int
  sinks : Sinks

variable (p : EventPipeline)

/-- `topic` of a stream. -/
def streamTopic (stream : String) : String :=
  if stream = "audit" then p.kafkaAuditTopic else p.kafkaAnalyticsTopic

/-- The row of a call. -/
def rowOf (c : RecordCall) : Except RecordError DeliveryRecord :=
  match eventTenant t c.event with
  | .error e => .error (.python e)
  | .ok tenantId =>
      match storedRow t (streamTopic p c.stream) c.stream c.event tenantId c.now with
      | some row => .ok row
      | none => .error .database

/-- The tables after the event of the call is stored. -/
def storeEvent (c : RecordCall) (w : World) : Except RecordError World := do
  let row ← rowOf t p c
  match upsert t row w with
  | some w' => .ok w'
  | none => .error .database

/-- `record_and_deliver`. -/
def recordAndDeliver (c : RecordCall) (w : World) : Except RecordError DeliveryResult × World :=
  match storeEvent t p c w with
  | .error e => (.error e, w)
  | .ok w' =>
      let d := deliverEvent p c.sinks (eventIdOf t c.event) c.later w'
      (.ok d.1, d.2)

end

/-! ## Retrying -/

/-- `status = 'queued', attempts = 0`. -/
def DeliveryRecord.requeued (r : DeliveryRecord) : DeliveryRecord :=
  { r with status := .queued, attempts := 0 }

/-- The update before a delivery is retried. -/
def requeue (eventId : String) (w : World) : World :=
  match w.records eventId with
  | some r => (w.put r.requeued).note [.queued eventId]
  | none => w

/-- The identifiers of the dead letters. -/
def World.dead (w : World) : List String :=
  w.ids.filter (fun id => (w.records id).any (fun r => decide (r.status = .deadLetter)))

/-- When a record was last updated. -/
def World.updatedAt (w : World) (id : String) : Int :=
  ((w.records id).map DeliveryRecord.updatedAt).getD 0

/-- The rows a retry may select: as many dead letters as the limit allows, those updated
first, in that order. -/
def Selects (w : World) (limit : Nat) (ids : List String) : Prop :=
  ids.Nodup ∧ (∀ id ∈ ids, id ∈ w.dead) ∧ ids.length = min limit w.dead.length ∧
    ids.Pairwise (fun a b => w.updatedAt a ≤ w.updatedAt b) ∧
    ∀ id ∈ w.dead, id ∉ ids → ∀ a ∈ ids, w.updatedAt a ≤ w.updatedAt id

instance (w : World) (limit : Nat) (ids : List String) : Decidable (Selects w limit ids) := by
  unfold Selects
  infer_instance

/-- A call of `retry_dead_letters`: its limit, the rows selected, the times of the
deliveries and the sinks while it is made. -/
structure RetryCall where
  limit : Nat
  ids : List String
  later : String → Int
  sinks : Sinks

/-- What `retry_dead_letters` returns. -/
structure RetryResult where
  retried : Nat
  delivered : Nat
  failed : Nat
deriving DecidableEq

/-- `result["status"] == "delivered"`. -/
def DeliveryResult.isDelivered : DeliveryResult → Bool
  | .missing _ => false
  | .finished status _ _ _ => status = .delivered

/-- The loop over the selected rows, with the numbers of deliveries and failures. -/
def retryLoop (p : EventPipeline) (c : RetryCall) :
    List String → Nat × Nat → World → (Nat × Nat) × World
  | [], counts, w => (counts, w)
  | id :: ids, counts, w =>
      let d := deliverEvent p c.sinks id (c.later id) (requeue id w)
      let counts' :=
        if d.1.isDelivered then (counts.1 + 1, counts.2) else (counts.1, counts.2 + 1)
      retryLoop p c ids counts' d.2

/-- `retry_dead_letters`. -/
def retryDeadLetters (p : EventPipeline) (c : RetryCall) (w : World) : RetryResult × World :=
  let out := retryLoop p c c.ids (0, 0) w
  (⟨c.ids.length, out.1.1, out.1.2⟩, out.2)

/-! ## The loop over the attempts -/

section

variable {p : EventPipeline} {sinks : Sinks} {r : DeliveryRecord}

/-- Every sink that is used takes the event at the attempt. -/
def attemptSucceeds (p : EventPipeline) (sinks : Sinks) (attempt : Nat) : Bool :=
  (publishKafkaRest sinks attempt).isOk &&
    (!p.clickhouseEnabled || (writeClickhouse sinks attempt).isOk)

/-- The sinks an event of a topic is sent to. -/
def sinksInUse (p : EventPipeline) (sinks : Sinks) (topic : String) : List SinkName :=
  (if sinks.kafka.configured then [.kafka topic] else []) ++
    (if p.clickhouseEnabled && sinks.clickhouse.configured then [.clickhouse] else [])

/-- What attempts to publish a record come to: so many failed. -/
structure Tries (r : DeliveryRecord) (new : List Happening) (failures : Nat) : Prop where
  entries : ∀ h ∈ new, h = .failed r.eventId ∨ ∃ sink, h = .published sink r.eventId r.payload
  count : new.count (.failed r.eventId) = failures

theorem Sink.send_configured {sink : Sink} {missing : String} {attempt : Nat} {made : Bool}
    (h : sink.send missing attempt = .ok made) : made = sink.configured := by
  unfold Sink.send at h
  split_ifs at h with hconfigured hrequired
  · split at h
    next => cases h
    next =>
      cases h
      exact hconfigured.symm
  · cases h
    simpa using hconfigured

/-- What is published to one sink, when it is. -/
theorem tries_published (sink : SinkName) (made : Bool) :
    Tries r (if made then [.published sink r.eventId r.payload] else []) 0 := by
  cases made with
  | false => exact ⟨by simp, rfl⟩
  | true => exact ⟨fun h hh => Or.inr ⟨sink, by simpa using hh⟩, rfl⟩

theorem Tries.append {new sent : List Happening} {n k : Nat} (hnew : Tries r new n)
    (hsent : Tries r sent k) : Tries r (new ++ sent) (n + k) where
  entries := by
    intro h hh
    rcases List.mem_append.mp hh with hh | hh
    · exact hnew.entries h hh
    · exact hsent.entries h hh
  count := by
    rw [List.count_append, hnew.count, hsent.count]

/-- An attempt that succeeds publishes to every sink in use. -/
theorem publishOnce_succeeds {attempt : Nat} (h : attemptSucceeds p sinks attempt = true) :
    ∃ sent, publishOnce p sinks r attempt = (.ok (), sent) ∧ Tries r sent 0 ∧
      ∀ sink ∈ sinksInUse p sinks r.topic, .published sink r.eventId r.payload ∈ sent := by
  unfold attemptSucceeds at h
  rw [Bool.and_eq_true] at h
  cases hkafka : publishKafkaRest sinks attempt with
  | error e =>
      rw [hkafka] at h
      cases h.1
  | ok made =>
      have hmade : made = sinks.kafka.configured := Sink.send_configured hkafka
      cases henabled : p.clickhouseEnabled with
      | false =>
          refine ⟨_, by simp only [publishOnce, hkafka, henabled]; rfl, tries_published _ made, ?_⟩
          intro sink hsink
          simpa [sinksInUse, henabled, ← hmade] using hsink
      | true =>
          rw [henabled] at h
          cases hclick : writeClickhouse sinks attempt with
          | error e =>
              rw [hclick] at h
              cases h.2
          | ok made' =>
              have hmade' : made' = sinks.clickhouse.configured := Sink.send_configured hclick
              refine ⟨_, by simp only [publishOnce, hkafka, henabled, hclick]; rfl,
                (tries_published _ made').append (tries_published _ made), ?_⟩
              intro sink hsink
              have hused : (made = true ∧ sink = .kafka r.topic) ∨
                  (made' = true ∧ sink = .clickhouse) := by
                simpa [sinksInUse, henabled, ← hmade, ← hmade'] using hsink
              rcases hused with ⟨rfl, rfl⟩ | ⟨rfl, rfl⟩
              · exact List.mem_append_right _ (by simp)
              · exact List.mem_append_left _ (by simp)

/-- An attempt that does not succeed raises an error. -/
theorem publishOnce_fails {attempt : Nat} (h : attemptSucceeds p sinks attempt = false) :
    ∃ e sent, publishOnce p sinks r attempt = (.error e, sent) ∧ Tries r sent 0 := by
  cases hkafka : publishKafkaRest sinks attempt with
  | error e => exact ⟨e, [], by simp only [publishOnce, hkafka], ⟨by simp, rfl⟩⟩
  | ok made =>
      have hclickhouse : p.clickhouseEnabled = true ∧
          (writeClickhouse sinks attempt).isOk = false := by
        simpa [attemptSucceeds, hkafka, Except.isOk, Except.toBool] using h
      cases hclick : writeClickhouse sinks attempt with
      | error e =>
          refine ⟨e, _, by simp only [publishOnce, hkafka, hclickhouse.1, hclick]; rfl,
            tries_published _ made⟩
      | ok made' =>
          rw [hclick] at hclickhouse
          cases hclickhouse.2

theorem Tries.failed {sent : List Happening} {k : Nat} (h : Tries r sent k) :
    Tries r (.failed r.eventId :: sent) (k + 1) where
  entries := by
    intro x hx
    rcases List.mem_cons.mp hx with rfl | hx
    · exact Or.inl rfl
    · exact h.entries x hx
  count := by
    rw [List.count_cons_self, h.count]

/-- An attempt that does not succeed leaves the rest of the loop. -/
theorem deliveryLoop_failed_first {left : Nat} {l : LoopState}
    (h : attemptSucceeds p sinks (l.attempts + 1) = false) :
    ∃ e sent, deliveryLoop p sinks r (left + 1) l =
        deliveryLoop p sinks r left (l.failedWith r e sent) ∧ Tries r sent 0 := by
  rcases publishOnce_fails (r := r) h with ⟨e, sent, honce, htries⟩
  exact ⟨e, sent, by simp only [deliveryLoop, honce], htries⟩

/-- The loop ends with the first attempt that succeeds. -/
theorem deliveryLoop_succeeds {left : Nat} {l : LoopState}
    (h : ∃ k, l.attempts < k ∧ k ≤ l.attempts + left ∧ attemptSucceeds p sinks k = true) :
    ∃ failures new, failures < left ∧
      (deliveryLoop p sinks r left l).delivered = true ∧
      (deliveryLoop p sinks r left l).attempts = l.attempts + failures + 1 ∧
      (deliveryLoop p sinks r left l).history = new ++ l.history ∧
      Tries r new failures ∧
      ∀ sink ∈ sinksInUse p sinks r.topic, .published sink r.eventId r.payload ∈ new := by
  induction left generalizing l with
  | zero =>
      rcases h with ⟨k, hlow, hhigh, -⟩
      omega
  | succ left ih =>
      by_cases hfirst : attemptSucceeds p sinks (l.attempts + 1) = true
      · rcases publishOnce_succeeds (r := r) hfirst with ⟨sent, honce, htries, hpublished⟩
        refine ⟨0, sent, by omega, ?_, ?_, ?_, htries, hpublished⟩
        all_goals simp [deliveryLoop, honce]
      · rw [Bool.not_eq_true] at hfirst
        rcases @deliveryLoop_failed_first p sinks r left l hfirst with ⟨e, sent, hloop, htries⟩
        rcases h with ⟨k, hlow, hhigh, hk⟩
        have hne : k ≠ l.attempts + 1 := by
          rintro rfl
          rw [hfirst] at hk
          cases hk
        have hlater : l.attempts + 1 < k := by omega
        rcases @ih (l.failedWith r e sent)
            ⟨k, hlater, by simp only [LoopState.failedWith]; omega, hk⟩ with
          ⟨failures, new, hfailures, hdelivered, hattempts, hhistory, hnew, hpublished⟩
        rw [hloop]
        refine ⟨failures + 1, new ++ .failed r.eventId :: sent, by omega, hdelivered, ?_, ?_,
          hnew.append htries.failed, ?_⟩
        · rw [hattempts]
          simp only [LoopState.failedWith]
          omega
        · rw [hhistory]
          simp [LoopState.failedWith]
        · exact fun sink hsink => List.mem_append_left _ (hpublished sink hsink)

/-- The loop fails when no attempt that is left succeeds. -/
theorem deliveryLoop_fails {left : Nat} {l : LoopState} (hl : l.delivered = false)
    (h : ∀ k, l.attempts < k → k ≤ l.attempts + left → attemptSucceeds p sinks k = false) :
    ∃ new, (deliveryLoop p sinks r left l).delivered = false ∧
      (deliveryLoop p sinks r left l).attempts = l.attempts + left ∧
      (deliveryLoop p sinks r left l).history = new ++ l.history ∧ Tries r new left := by
  induction left generalizing l with
  | zero => exact ⟨[], hl, rfl, rfl, by simp, rfl⟩
  | succ left ih =>
      rcases @deliveryLoop_failed_first p sinks r left l (h _ (by omega) (by omega)) with
        ⟨e, sent, hloop, htries⟩
      have hlater : ∀ k, l.attempts + 1 < k → k ≤ l.attempts + 1 + left →
          attemptSucceeds p sinks k = false := fun k hlow hhigh => h k (by omega) (by omega)
      rcases @ih (l.failedWith r e sent) hl hlater with
        ⟨new, hdelivered, hattempts, hhistory, hnew⟩
      rw [hloop]
      refine ⟨new ++ .failed r.eventId :: sent, hdelivered, ?_, ?_, hnew.append htries.failed⟩
      · rw [hattempts]
        simp only [LoopState.failedWith]
        omega
      · rw [hhistory]
        simp [LoopState.failedWith]

/-- Some attempt that is left to a record succeeds. -/
def Deliverable (p : EventPipeline) (sinks : Sinks) (attempts : Nat) : Prop :=
  ∃ k, attempts < k ∧ (k : Int) ≤ p.maxAttempts ∧ attemptSucceeds p sinks k = true

/-- The attempts of a record that is delivered, and its history. -/
theorem loopOf_succeeds {history : List Happening} (h : Deliverable p sinks r.attempts) :
    ∃ (failures : Nat) (new : List Happening), (r.attempts + failures + 1 : Int) ≤ p.maxAttempts ∧
      (loopOf p sinks r history).delivered = true ∧
      (loopOf p sinks r history).attempts = r.attempts + failures + 1 ∧
      (loopOf p sinks r history).history = new ++ history ∧ Tries r new failures ∧
      ∀ sink ∈ sinksInUse p sinks r.topic, .published sink r.eventId r.payload ∈ new := by
  rcases h with ⟨k, hlow, hhigh, hk⟩
  rcases @deliveryLoop_succeeds p sinks r (p.maxAttempts - r.attempts).toNat
      ⟨r.attempts, [], false, history⟩ ⟨k, hlow, by simp only; omega, hk⟩ with
    ⟨failures, new, hfailures, hloop⟩
  exact ⟨failures, new, by omega, hloop⟩

/-- The attempts of a record that is not delivered, and its history. -/
theorem loopOf_fails {history : List Happening} (h : ¬ Deliverable p sinks r.attempts) :
    ∃ new, (loopOf p sinks r history).delivered = false ∧
      (loopOf p sinks r history).attempts =
        r.attempts + (p.maxAttempts - r.attempts).toNat ∧
      (loopOf p sinks r history).history = new ++ history ∧
      Tries r new (p.maxAttempts - r.attempts).toNat := by
  have hfails : ∀ k, r.attempts < k → k ≤ r.attempts + (p.maxAttempts - r.attempts).toNat →
      attemptSucceeds p sinks k = false := by
    intro k hlow hhigh
    rw [← Bool.not_eq_true]
    exact fun hk => h ⟨k, hlow, by omega, hk⟩
  exact @deliveryLoop_fails p sinks r _ ⟨r.attempts, [], false, history⟩ rfl hfails

/-- What a delivery does to the record it finds. -/
theorem deliverEvent_eq {eventId : String} {now : Int} {w : World}
    (h : w.records eventId = some r) :
    (deliverEvent p sinks eventId now w).1 =
        .finished (r.finish (loopOf p sinks r w.history) now).status eventId
          (loopOf p sinks r w.history).attempts (errorText (loopOf p sinks r w.history).errors) ∧
      (deliverEvent p sinks eventId now w).2.records =
        Function.update w.records r.eventId (some (r.finish (loopOf p sinks r w.history) now)) ∧
      (deliverEvent p sinks eventId now w).2.ids = w.ids ∧
      (deliverEvent p sinks eventId now w).2.history =
        .marked eventId (r.finish (loopOf p sinks r w.history) now).status ::
          (loopOf p sinks r w.history).history := by
  unfold deliverEvent
  rw [h]
  refine ⟨rfl, ?_⟩
  cases hdelivered : (loopOf p sinks r w.history).delivered with
  | false => simp [hdelivered, putDeadLetter, World.put]
  | true => simp [hdelivered, World.put]

end

/-! ## Runs -/

/-- A call of the pipeline. -/
inductive Call where
  | record (c : RecordCall)
  | retry (c : RetryCall)

/-- The sinks while a call is made. -/
def Call.sinks : Call → Sinks
  | .record c => c.sinks
  | .retry c => c.sinks

/-- A call; a retry selects rows it may. -/
def step (t : Setting) (p : EventPipeline) (w : World) : Call → Option World
  | .record c => some (recordAndDeliver t p c w).2
  | .retry c => if Selects w c.limit c.ids then some (retryDeadLetters p c w).2 else none

end AuthClaw.Events
