import AuthClaw.Library.WorkQueue
import Mathlib.Data.List.DropRight

/-!
# The audit producer of the gateway

Requests publish events to a bounded queue; one worker posts each of them to the Kafka REST proxy,
trying three times, and publishes what it could not post as a dead letter.  An event that cannot be
encoded is only logged, and so is every event where no brokers are configured.  The encoder and
the escaping of a topic are parameters; what becomes of an HTTP request is open.

Main results:

- Theorem {lit}`publishKafkaRESTWithRetry_spec`: a publication ends with its only successful post,
  or with an error.
- Theorem {lit}`run_accounted`: what becomes of the accepted events in every run.
-/

namespace AuthClaw.Events.AuditProducer

open StepSystem WorkQueue

/-! ## The producer -/

/-- A value of a member of an event. -/
inductive Value where
  | text (s : String)
  | int (n : Int)
  | bool (b : Bool)
  | other (description : String)
deriving DecidableEq

/-- `Event`, a map of members. -/
abbrev Event := List (String × Value)

/-- `json.Marshal` of an event and `url.PathEscape`. -/
structure Calls where
  marshal : Event → Except String String
  pathEscape : String → String

/-- The arguments of `NewProducer`. -/
structure Config where
  brokers : List String
  restURL : String
  topic : String

/-- `Producer`, with the capacity of its queue. -/
structure Producer where
  brokers : List String
  restURL : String
  topic : String
  dlqTopic : String
  capacity : Nat
  maxAttempts : Nat

/-- `strings.TrimRight(text, "/")`. -/
def trimSlashes (text : String) : String :=
  String.ofList (text.toList.rdropWhile (· == '/'))

/-- `NewProducer`. -/
def newProducer (c : Config) : Producer where
  brokers := c.brokers
  restURL := trimSlashes c.restURL
  topic := c.topic
  dlqTopic := c.topic ++ ".dlq"
  capacity := 1024
  maxAttempts := 3

/-- What becomes of a request: it cannot be made, it fails, or it has a response. -/
inductive HttpOutcome where
  | requestError (e : String)
  | doError (e : String)
  | status (code : Nat)
deriving DecidableEq

/-- The error of a request, when it has one. -/
def HttpOutcome.error : HttpOutcome → Option String
  | .requestError e => some e
  | .doError e => some e
  | .status code =>
      if code < 200 ∨ 300 ≤ code then some ("kafka rest returned " ++ code.repr) else none

/-- What the worker does: it logs a line, calls {lit}`publishKafkaRESTWithRetry`, and sends a
request. -/
inductive Effect where
  | log (line : String)
  | publication (topic : String) (event : Event)
  | post (topic : String) (event : Event) (endpoint body : String) (outcome : HttpOutcome)
deriving DecidableEq

/-- What the environment decides while an event is handled: the outcomes of the attempts, by
their number, and the clock. -/
structure Env where
  outcome : Nat → HttpOutcome
  dlqOutcome : Nat → HttpOutcome
  createdAt : String

section Handling

variable (calls : Calls) (p : Producer)

/-- `publishKafkaREST`: the error, and what is done. -/
def publishKafkaREST (topic : String) (event : Event) (outcome : HttpOutcome) :
    Option String × List Effect :=
  match calls.marshal event with
  | .error e => (some e, [])
  | .ok value =>
      let endpoint := p.restURL ++ "/topics/" ++ calls.pathEscape topic
      let body := "\x7b\"records\":[\x7b\"value\":" ++ value ++ "\x7d]\x7d"
      match outcome with
      | .requestError e => (some e, [])
      | outcome => (outcome.error, [.post topic event endpoint body outcome])

/-- The attempts that are left, from a number on. -/
def attempts (topic : String) (event : Event) (outcome : Nat → HttpOutcome) :
    Nat → Nat → Option String → Option String × List Effect
  | 0, _, lastErr => (lastErr, [])
  | left + 1, attempt, _ =>
      match publishKafkaREST calls p topic event (outcome attempt) with
      | (none, done) => (none, done)
      | (some e, done) =>
          let rest := attempts topic event outcome left (attempt + 1) (some e)
          (rest.1, done ++ rest.2)

/-- `publishKafkaRESTWithRetry`. -/
def publishKafkaRESTWithRetry (topic : String) (event : Event) (outcome : Nat → HttpOutcome) :
    Option String × List Effect :=
  let result := attempts calls p topic event outcome p.maxAttempts 1 none
  (result.1, .publication topic event :: result.2)

/-- `deadLetter`. -/
def deadLetter (event : Event) (err : String) (env : Env) : List Effect :=
  let payload := (calls.marshal event).toOption.getD ""
  .log ("audit_event_dead_letter topic=" ++ p.topic ++ " dlq_topic=" ++ p.dlqTopic ++
      " error=" ++ err ++ " payload=" ++ payload) ::
    if p.restURL = "" then []
    else
      let dlqEvent : Event := [("event_type", .text "audit_event_dead_letter"),
        ("source_topic", .text p.topic), ("error", .text err), ("payload", .text payload),
        ("created_at", .text env.createdAt)]
      match publishKafkaRESTWithRetry calls p p.dlqTopic dlqEvent env.dlqOutcome with
      | (none, done) => done
      | (some e, done) =>
          done ++ [.log ("audit_event_dead_letter_publish_error topic=" ++ p.dlqTopic ++
            " error=" ++ e)]

/-- The line for an event that cannot be encoded. -/
def encodeErrorLine (e : String) : Effect :=
  .log ("audit_event_encode_error topic=" ++ p.topic ++ " error=" ++ e)

/-- The line for an event where no brokers are configured. -/
def localLine (payload : String) : Effect :=
  .log ("audit_event_local topic=" ++ p.topic ++ " payload=" ++ payload)

/-- The body of the loop of `run`. -/
def handle (event : Event) (env : Env) : List Effect :=
  match calls.marshal event with
  | .error e => [encodeErrorLine p e]
  | .ok payload =>
      if p.brokers.length = 0 then [localLine p payload]
      else if p.restURL ≠ "" then
        match publishKafkaRESTWithRetry calls p p.topic event env.outcome with
        | (none, done) => done
        | (some e, done) =>
            done ++ .log ("audit_event_kafka_rest_error topic=" ++ p.topic ++ " error=" ++ e) ::
              deadLetter calls p event e env
      else
        deadLetter calls p event
          ("Kafka REST/MSK proxy endpoint missing for brokers=" ++ ",".intercalate p.brokers) env

/-- One step of the producer: a request calls `Publish`, or the worker goes on. -/
def producerStep (s : Line Event (List Effect)) (a : Action Event Env) :
    Option (Line Event (List Effect)) :=
  match a with
  | .offer event =>
      if p.topic = "" then some s
      else WorkQueue.step p.capacity (handle calls p) s (.offer event)
  | a => WorkQueue.step p.capacity (handle calls p) s a

end Handling

/-! ## What is read off the effects -/

/-- The topics and events of the requests that succeeded. -/
def successfulPosts (done : List Effect) : List (String × Event) :=
  done.filterMap (fun effect =>
    match effect with
    | .post topic event _ _ outcome => if outcome.error = none then some (topic, event) else none
    | _ => none)

/-- The topics and events that were published. -/
def publications (done : List Effect) : List (String × Event) :=
  done.filterMap (fun effect =>
    match effect with
    | .publication topic event => some (topic, event)
    | _ => none)

/-- The events that were posted to the topic of the producer. -/
def posted (p : Producer) (done : List Effect) : List Event :=
  ((successfulPosts done).filter (fun x => x.1 = p.topic)).map Prod.snd

/-- The dead letters that were published. -/
def deadLetters (p : Producer) (done : List Effect) : List Event :=
  ((publications done).filter (fun x => x.1 = p.dlqTopic)).map Prod.snd

/-- The event was posted to its topic, or exactly one dead letter was published. -/
def PostedOrDeadLettered (p : Producer) (event : Event) (done : List Effect) : Prop :=
  (posted p done = [event] ∧ deadLetters p done = []) ∨
    (posted p done = [] ∧ (deadLetters p done).length = 1)

/-- What becomes of an event: it is posted or dead-lettered, unless it cannot be encoded or no
brokers are configured; then it is logged. -/
def Accounted (calls : Calls) (p : Producer) (event : Event) (done : List Effect) : Prop :=
  match calls.marshal event with
  | .error e => done = [encodeErrorLine p e]
  | .ok payload =>
      if p.brokers.length = 0 then done = [localLine p payload]
      else PostedOrDeadLettered p event done

/-! ## Publications -/

@[simp]
theorem successfulPosts_append (xs ys : List Effect) :
    successfulPosts (xs ++ ys) = successfulPosts xs ++ successfulPosts ys :=
  List.filterMap_append

@[simp]
theorem publications_append (xs ys : List Effect) :
    publications (xs ++ ys) = publications xs ++ publications ys :=
  List.filterMap_append

@[simp]
theorem successfulPosts_nil : successfulPosts [] = [] :=
  rfl

@[simp]
theorem publications_nil : publications [] = [] :=
  rfl

@[simp]
theorem successfulPosts_log (line : String) (done : List Effect) :
    successfulPosts (.log line :: done) = successfulPosts done :=
  rfl

@[simp]
theorem publications_log (line : String) (done : List Effect) :
    publications (.log line :: done) = publications done :=
  rfl

section Handling

variable {calls : Calls} {p : Producer} {topic : String} {event : Event}

/-- Requests for one event have ended with a successful one, or with an error and none. -/
def Settled (topic : String) (event : Event) (result : Option String × List Effect) : Prop :=
  successfulPosts result.2 = (if result.1 = none then [(topic, event)] else []) ∧
    publications result.2 = []

theorem publishKafkaREST_settled (outcome : HttpOutcome) :
    Settled topic event (publishKafkaREST calls p topic event outcome) := by
  unfold publishKafkaREST
  cases calls.marshal event with
  | error e => exact ⟨rfl, rfl⟩
  | ok value =>
      cases outcome with
      | requestError e => exact ⟨rfl, rfl⟩
      | doError e => exact ⟨rfl, rfl⟩
      | status code =>
          refine ⟨?_, rfl⟩
          dsimp only
          by_cases hok : (HttpOutcome.status code).error = none
          · rw [if_pos hok]
            simp [successfulPosts, hok]
          · rw [if_neg hok]
            simp [successfulPosts, hok]

/-- Further attempts after a failed one end as one request does.  The induction is on the attempts
that are left. -/
theorem attempts_settled (outcome : Nat → HttpOutcome) (left attempt : Nat) (e : String) :
    Settled topic event (attempts calls p topic event outcome left attempt (some e)) := by
  induction left generalizing attempt e with
  | zero => exact ⟨rfl, rfl⟩
  | succ left ih =>
      have hone := @publishKafkaREST_settled calls p topic event (outcome attempt)
      unfold attempts
      rcases hresult : publishKafkaREST calls p topic event (outcome attempt) with ⟨err, done⟩
      rw [hresult] at hone
      cases err with
      | none => exact hone
      | some e' =>
          rcases ih (attempt + 1) e' with ⟨hposts, hpublications⟩
          have hnone : successfulPosts done = [] := hone.1
          refine ⟨?_, ?_⟩
          · dsimp only
            rw [successfulPosts_append, hnone, List.nil_append, hposts]
          · dsimp only
            rw [publications_append, hone.2, List.nil_append, hpublications]

/-- A publication ends with its only successful post, or with an error and none. -/
theorem publishKafkaRESTWithRetry_spec (hattempts : p.maxAttempts ≠ 0)
    (outcome : Nat → HttpOutcome) :
    successfulPosts (publishKafkaRESTWithRetry calls p topic event outcome).2 =
        (if (publishKafkaRESTWithRetry calls p topic event outcome).1 = none then [(topic, event)]
          else []) ∧
      publications (publishKafkaRESTWithRetry calls p topic event outcome).2 =
        [(topic, event)] := by
  have hsettled : Settled topic event
      (attempts calls p topic event outcome p.maxAttempts 1 none) := by
    rcases Nat.exists_eq_succ_of_ne_zero hattempts with ⟨left, hleft⟩
    rw [hleft]
    -- the error that is carried in does not matter where an attempt is left
    exact attempts_settled outcome (left + 1) 1 ""
  refine ⟨hsettled.1, ?_⟩
  exact congrArg (List.cons (topic, event)) hsettled.2

/-- The topics of the producer differ. -/
theorem newProducer_topic_ne (c : Config) : (newProducer c).topic ≠ (newProducer c).dlqTopic := by
  intro h
  have hlength := congrArg String.length h
  change c.topic.length = (c.topic ++ ".dlq").length at hlength
  have hfour : ".dlq".length = 4 := rfl
  rw [String.length_append] at hlength
  omega

/-- A dead letter is published once, and nothing is posted to the topic of the producer. -/
theorem deadLetter_spec (hattempts : p.maxAttempts ≠ 0) (htopics : p.topic ≠ p.dlqTopic)
    (hrest : p.restURL ≠ "") (err : String) (env : Env) :
    posted p (deadLetter calls p event err env) = [] ∧
      (deadLetters p (deadLetter calls p event err env)).length = 1 := by
  unfold deadLetter
  dsimp only
  rw [if_neg hrest]
  generalize ([_, _, _, _, _] : Event) = dlqEvent
  have hspec := @publishKafkaRESTWithRetry_spec calls p p.dlqTopic dlqEvent hattempts
    env.dlqOutcome
  rcases hresult : publishKafkaRESTWithRetry calls p p.dlqTopic dlqEvent env.dlqOutcome with
    ⟨e, done⟩
  rw [hresult] at hspec
  rcases hspec with ⟨hposts, hpublications⟩
  cases e with
  | none =>
      rw [if_pos rfl] at hposts
      simp [posted, deadLetters, hposts, hpublications, htopics.symm]
  | some e =>
      rw [if_neg (by simp)] at hposts
      simp [posted, deadLetters, hposts, hpublications]

/-- Handling an event accounts for it. -/
theorem handle_accounted (hattempts : p.maxAttempts ≠ 0) (htopics : p.topic ≠ p.dlqTopic)
    (hrest : p.restURL ≠ "") (event : Event) (env : Env) :
    Accounted calls p event (handle calls p event env) := by
  unfold Accounted handle
  cases calls.marshal event with
  | error e => rfl
  | ok payload =>
      dsimp only
      by_cases hbrokers : p.brokers.length = 0
      · rw [if_pos hbrokers, if_pos hbrokers]
      · rw [if_neg hbrokers, if_neg hbrokers, if_pos hrest]
        have hspec := @publishKafkaRESTWithRetry_spec calls p p.topic event hattempts env.outcome
        rcases hresult : publishKafkaRESTWithRetry calls p p.topic event env.outcome with
          ⟨e, done⟩
        rw [hresult] at hspec
        rcases hspec with ⟨hposts, hpublications⟩
        cases e with
        | none =>
            rw [if_pos rfl] at hposts
            refine Or.inl ⟨?_, ?_⟩
            · simp [posted, hposts]
            · simp [deadLetters, hpublications, htopics]
        | some e =>
            rw [if_neg (by simp)] at hposts
            have hdead := @deadLetter_spec calls p event hattempts htopics hrest e env
            refine Or.inr ⟨?_, ?_⟩
            · rw [← hdead.1]
              simp [posted, hposts]
            · rw [← hdead.2]
              simp [deadLetters, hpublications, htopics]

end Handling

/-! ## Runs -/

section Runs

variable {calls : Calls} {p : Producer} {s t : Line Event (List Effect)}

/-- A step of the producer is one of its queue, or changes nothing. -/
theorem producerStep_cases {a : Action Event Env} (h : producerStep calls p s a = some t) :
    t = s ∨ WorkQueue.step p.capacity (handle calls p) s a = some t := by
  cases a with
  | offer event =>
      unfold producerStep at h
      dsimp only at h
      by_cases htopic : p.topic = ""
      · rw [if_pos htopic] at h
        exact Or.inl (Option.some.inj h).symm
      · rw [if_neg htopic] at h
        exact Or.inr h
  | take => exact Or.inr h
  | finish e => exact Or.inr h

/-- Every run of the producer keeps the order of its queue. -/
theorem orderly_run {as : List (Action Event Env)}
    (hrun : StepSystem.run (producerStep calls p) Line.empty as = some s) :
    Orderly p.capacity (handle calls p) s := by
  have hkeeps : ∀ (s : Line Event (List Effect)) (a : Action Event Env) t,
      Orderly p.capacity (handle calls p) s → True → producerStep calls p s a = some t →
        Orderly p.capacity (handle calls p) t := by
    intro s a t hs _ hstep
    rcases producerStep_cases hstep with rfl | hstep
    · exact hs
    · exact hs.step hstep
  exact invariant_of_run hkeeps orderly_empty (respects_of_forall (fun _ _ => trivial) _ as) hrun

/-- The worker's steps are those of the queue. -/
theorem run_work {as : List (Action Event Env)} (hwork : as.all Action.isWork = true) :
    StepSystem.run (producerStep calls p) s as =
      StepSystem.run (WorkQueue.step p.capacity (handle calls p)) s as := by
  induction as generalizing s with
  | nil => rfl
  | cons a as ih =>
      rw [List.all_cons, Bool.and_eq_true_iff] at hwork
      have hone : producerStep calls p s a =
          WorkQueue.step p.capacity (handle calls p) s a := by
        cases a with
        | offer event => cases hwork.1
        | take => rfl
        | finish e => rfl
      unfold StepSystem.run
      rw [hone]
      cases WorkQueue.step p.capacity (handle calls p) s a with
      | none => rfl
      | some s' => exact ih hwork.2

/-- The events that were posted to the topic, in the order of their posts. -/
def postedEvents (p : Producer) (s : Line Event (List Effect)) : List Event :=
  posted p (s.handled.map Prod.snd).flatten

theorem posted_append (xs ys : List Effect) :
    posted p (xs ++ ys) = posted p xs ++ posted p ys := by
  unfold posted
  rw [successfulPosts_append, List.filter_append, List.map_append]

/-- An event that is accounted for was posted once or not at all. -/
theorem posted_sublist_of_accounted {event : Event} {done : List Effect}
    (h : Accounted calls p event done) : (posted p done).Sublist [event] := by
  unfold Accounted at h
  cases hpayload : calls.marshal event with
  | error e =>
      rw [hpayload] at h
      rw [h]
      exact List.nil_sublist _
  | ok payload =>
      rw [hpayload] at h
      dsimp only at h
      by_cases hbrokers : p.brokers.length = 0
      · rw [if_pos hbrokers] at h
        rw [h]
        exact List.nil_sublist _
      · rw [if_neg hbrokers] at h
        rcases h with ⟨hposted, -⟩ | ⟨hposted, -⟩
        · rw [hposted]
        · rw [hposted]
          exact List.nil_sublist _

/-- Where every handled event is accounted for, the posts are in the order of the events. -/
theorem posted_sublist {handled : List (Event × List Effect)}
    (h : ∀ x ∈ handled, Accounted calls p x.1 x.2) :
    (posted p (handled.map Prod.snd).flatten).Sublist (handled.map Prod.fst) := by
  induction handled with
  | nil => exact List.nil_sublist _
  | cons x rest ih =>
      rw [List.map_cons, List.map_cons, List.flatten_cons, posted_append]
      have hone := posted_sublist_of_accounted (h x List.mem_cons_self)
      exact hone.append (ih (fun y hy => h y (List.mem_cons_of_mem _ hy)))

end Runs

/-- In every run of a producer with a REST URL the accepted events are those that were handled, the
one in hand and those in the queue, in this order; each handled one is posted or dead-lettered
once, or logged where it cannot be encoded or there are no brokers; posts are in the order of
acceptance; and the worker can go on while an event is open, and ends by handling it. -/
theorem run_accounted (calls : Calls) (c : Config) (hrest : trimSlashes c.restURL ≠ "")
    {as : List (Action Event Env)} {s : Line Event (List Effect)}
    (hrun : StepSystem.run (producerStep calls (newProducer c)) Line.empty as = some s) :
    s.accepted = s.handled.map Prod.fst ++ s.current.toList ++ s.queue ∧
      (∀ x ∈ s.handled, Accounted calls (newProducer c) x.1 x.2) ∧
      (postedEvents (newProducer c) s).Sublist s.accepted ∧
      (∀ env, (producerStep calls (newProducer c) s .take).isSome = true ∨
          (producerStep calls (newProducer c) s (.finish env)).isSome = true ↔
        s.handled.map Prod.fst ≠ s.accepted) ∧
      ∀ work t, work.all Action.isWork = true →
        StepSystem.run (producerStep calls (newProducer c)) s work = some t →
        work.length ≤ s.work ∧
          (work.length = s.work → t.handled.map Prod.fst = s.accepted) := by
  have horderly := orderly_run hrun
  have haccounted : ∀ x ∈ s.handled, Accounted calls (newProducer c) x.1 x.2 := by
    intro x hx
    rcases horderly.handled x hx with ⟨env, henv⟩
    rw [henv]
    exact handle_accounted (Nat.succ_ne_zero 2) (newProducer_topic_ne c) hrest x.1 env
  refine ⟨horderly.accepted, haccounted, ?_, ?_, ?_⟩
  · exact (posted_sublist haccounted).trans horderly.handled_begins.sublist
  · intro env
    exact horderly.worker_ready_iff env
  · intro work t hwork hrest
    rw [run_work hwork] at hrest
    exact horderly.drained hwork hrest

/-! ## Examples -/

/-- An encoder of events that have one member. -/
def plainCalls : Calls where
  marshal := fun event =>
    match event with
    | [(name, .text s)] => .ok ("\x7b\"" ++ name ++ "\":\"" ++ s ++ "\"\x7d")
    | [(name, .int n)] => .ok ("\x7b\"" ++ name ++ "\":" ++ n.repr ++ "\x7d")
    | _ => .error "json: unsupported type"
  pathEscape := fun topic => topic

/-- The event of a request. -/
def requestEvent : Event :=
  [("event_type", .text "gateway_request")]

/-- The first attempt fails and the second succeeds. -/
def secondTry : Env where
  outcome := fun attempt => if attempt < 2 then .status 503 else .status 200
  dlqOutcome := fun _ => .status 200
  createdAt := "2026-01-02T03:04:05Z"

/-- An event is posted by the second attempt. -/
theorem run_accounted_second_try :
    trimSlashes "http://rest/" ≠ "" ∧
      ∃ s, StepSystem.run
          (producerStep plainCalls (newProducer ⟨["broker:9092"], "http://rest/", "audit"⟩))
          Line.empty [.offer requestEvent, .take, .finish secondTry] = some s ∧
        (postedEvents (newProducer ⟨["broker:9092"], "http://rest/", "audit"⟩) s).Sublist
          s.accepted := by
  have hrest : trimSlashes "http://rest/" ≠ "" := by decide
  have hruns : ∃ s, StepSystem.run
      (producerStep plainCalls (newProducer ⟨["broker:9092"], "http://rest/", "audit"⟩))
      Line.empty [.offer requestEvent, .take, .finish secondTry] = some s :=
    ⟨_, rfl⟩
  rcases hruns with ⟨s, hrun⟩
  exact ⟨hrest, s, hrun,
    (run_accounted plainCalls ⟨["broker:9092"], "http://rest/", "audit"⟩ hrest hrun).2.2.1⟩

/-- Without brokers an event is neither posted nor dead-lettered. -/
theorem no_brokers_logs_only :
    ∃ s, StepSystem.run
        (producerStep plainCalls (newProducer ⟨[], "http://rest/", "audit"⟩))
        Line.empty [.offer requestEvent, .take, .finish secondTry] = some s ∧
      ¬∀ x ∈ s.handled,
        PostedOrDeadLettered (newProducer ⟨[], "http://rest/", "audit"⟩) x.1 x.2 := by
  refine ⟨_, rfl, ?_⟩
  intro h
  rcases h _ List.mem_cons_self with ⟨hposted, -⟩ | ⟨-, hdead⟩
  · exact absurd hposted (by decide)
  · exact absurd hdead (by decide)

end AuthClaw.Events.AuditProducer
