import AuthClaw.Remediation.Runtime

/-!
# The worker throttle

A scan and an execution ask the throttle first, take their lease, store their worker, work, and
complete the worker, each in a transaction of its own, and any number of them are under way at
once.  The throttle reads a counter of Redis or counts rows of the database; it reserves nothing.

Main results:

- Theorem {lit}`runScan_eq_stages` and {lit}`executeApprovedPlan_eq_stages`: the operations are
  their stages, one after the other.
- Theorem {lit}`workers_within_limit`: in which runs the running workers of a tenant stay within
  the limit.
-/

namespace AuthClaw.Remediation

open Rows StepSystem Exits

/-! ## The check -/

/-- The environment of the throttle. -/
structure ThrottleSetting where
  limit : Int
  redisUrl : Bool
  requireRedis : Bool

/-- How the reads of a check go: the counter of the tenant in Redis, which may be missing, and the
count of the database, at a time. -/
structure Reading where
  redis : Except RemediationError (Option Int)
  database : Option RemediationError
  now : Int

/-- The rows that the database counts. -/
def liveWorkers (tenantId now : Int) (store : RemediationStore) : Nat :=
  store.workers.rows.countP (fun w => decide
    (w.tenantId = tenantId ∧ (w.status = .running ∨ w.status = .queued) ∧ now < w.expiresAt))

/-- The count of the database, where Redis does not answer. -/
def countLive (reading : Reading) (tenantId : Int) (store : RemediationStore) :
    Except RemediationError Int :=
  match reading.database with
  | some e => .error e
  | none => .ok (liveWorkers tenantId reading.now store)

/-- `_active_count`. -/
def activeCount (setting : ThrottleSetting) (reading : Reading) (tenantId : Int)
    (store : RemediationStore) : Except RemediationError Int :=
  if setting.redisUrl then
    match reading.redis with
    | .ok counter => .ok (counter.getD 0)
    | .error e => if setting.requireRedis then .error e else countLive reading tenantId store
  else countLive reading tenantId store

/-- What `enforce` raises. -/
def enforce (setting : ThrottleSetting) (reading : Reading) (tenantId : Int)
    (store : RemediationStore) : Option RemediationError :=
  match activeCount setting reading tenantId store with
  | .error e => some e
  | .ok active => if active < setting.limit then none else some .throttled

/-! ## Stages -/

/-- An operation that takes a worker. -/
inductive Job where
  | scan (o : Outcomes (List (ScanItem × Int))) (tenantId connectorId : Int)
  | execution (o : Outcomes Execution) (approval : ApprovalRecord)

/-- An operation that has its lease. -/
inductive LeasedJob where
  | scan (o : Outcomes (List (ScanItem × Int))) (tenantId : Int) (connector : Connector)
    (lease : Lease)
  | execution (o : Outcomes Execution) (approval : ApprovalRecord) (plan : RemediationPlan)
    (connector : Connector) (lease : Lease)

def Job.tenantId : Job → Int
  | .scan _ tenantId _ => tenantId
  | .execution _ approval => approval.tenantId

def LeasedJob.tenantId : LeasedJob → Int
  | .scan _ tenantId _ _ => tenantId
  | .execution _ approval _ _ _ => approval.tenantId

/-- From the check to the lease. -/
def Job.prepare : Job → Runtime LeasedJob
  | .scan o tenantId connectorId => do
      let connector ← getConnector tenantId connectorId
      let lease ← leaseCredentials o tenantId connector
      return .scan o tenantId connector lease
  | .execution o approval => do
      if approval.planId = 0 then
        throw (.runtime "Approval is missing remediation plan binding.")
      match ((← get).plans.find approval.planId).filter (fun p =>
          decide (p.tenantId = approval.tenantId ∧ p.approvalId = some approval.approvalId)) with
      | none => throw (.runtime "Approved remediation plan not found.")
      | some plan =>
          let connector ← getConnector approval.tenantId plan.connectorId
          let lease ← leaseCredentials o approval.tenantId connector
          return .execution o approval plan connector lease

/-- The insert of the worker. -/
def LeasedJob.start : LeasedJob → Runtime WorkerRun
  | .scan o tenantId connector lease =>
      createWorker o tenantId connector lease ⟨"read_only_scan", none, none, none⟩
  | .execution o approval plan connector lease =>
      createWorker o approval.tenantId connector lease
        ⟨"execution", some plan.findingId, some approval.planId, some approval.approvalId⟩

/-- The work and the completion. -/
def LeasedJob.finish (worker : WorkerRun) : LeasedJob → Runtime WorkerRun
  | .scan o tenantId connector lease => do
      let items ← returned o.work
      raises o.results
      modify (fun store => closeWorker o.now s!"\x7b\"findings_created\": {items.length}\x7d"
        worker lease
        { store with
          findings := store.findings ++ items.map (scannedFinding tenantId connector worker) })
      raises o.resultsReply
      raises o.audit
      return worker
  | .execution o approval plan _ lease => do
      let execution ← returned o.work
      raises o.results
      modify (fun store => storeExecution approval plan execution.evidence
        (closeWorker o.now execution.evidence worker lease store))
      raises o.resultsReply
      raises o.audit
      return worker

/-- What follows the check. -/
def Job.stages (job : Job) : Runtime WorkerRun := do
  let leased ← job.prepare
  let worker ← leased.start
  leased.finish worker

/-- A scan is its stages. -/
theorem runScan_eq_stages (o : Outcomes (List (ScanItem × Int))) (tenantId connectorId : Int) :
    runScan o tenantId connectorId =
      raises o.throttle >>= fun _ => (Job.scan o tenantId connectorId).stages := by
  simp only [runScan, Job.stages, Job.prepare, bind_assoc, pure_bind]
  rfl

/-- An execution is its stages. -/
theorem executeApprovedPlan_eq_stages (o : Outcomes Execution) (approval : ApprovalRecord) :
    executeApprovedPlan o approval =
      raises o.throttle >>= fun _ => (Job.execution o approval).stages := by
  unfold executeApprovedPlan Job.stages Job.prepare
  by_cases hplan : approval.planId = 0
  · simp only [if_pos hplan, bind_assoc]
    rfl
  · simp only [if_neg hplan, bind_assoc]
    refine congrArg (raises o.throttle >>= ·) (funext fun _ => ?_)
    refine congrArg (get >>= ·) (funext fun store => ?_)
    cases (store.plans.find approval.planId).filter (fun p =>
        decide (p.tenantId = approval.tenantId ∧ p.approvalId = some approval.approvalId)) with
    | none => rfl
    | some plan =>
      simp only [bind_assoc, pure_bind]
      rfl

/-! ## Runs at once -/

/-- How far a run has come. -/
inductive Stage where
  | admitted (job : Job)
  | leased (job : LeasedJob)
  | working (job : LeasedJob) (worker : WorkerRun)
  | ended

/-- The tables, and the runs in the order in which they asked. -/
structure Throttling where
  store : RemediationStore
  runs : List Stage

/-- The tables before the first run. -/
def Throttling.begin (store : RemediationStore) : Throttling :=
  ⟨store, []⟩

/-- A new run asks the throttle, or a run goes on to the end of its stage. -/
inductive ThrottleAction where
  | check (job : Job) (reading : Reading)
  | proceed (n : Nat)

/-- Where a run is when a stage has returned or raised. -/
def nextStage {β : Type} (x : Runtime β) (store : RemediationStore) (next : β → Stage) : Stage :=
  match x store with
  | .ok b _ => next b
  | .error _ _ => .ended

/-- The end of the stage of a run. -/
def Stage.proceed (stage : Stage) (store : RemediationStore) : RemediationStore × Stage :=
  match stage with
  | .admitted job => (exitState job.prepare store, nextStage job.prepare store .leased)
  | .leased job => (exitState job.start store, nextStage job.start store (.working job))
  | .working job worker => (exitState (job.finish worker) store, .ended)
  | .ended => (store, .ended)

/-- What an action does. -/
def throttleStep (setting : ThrottleSetting) (s : Throttling) :
    ThrottleAction → Option Throttling
  | .check job reading =>
      let stage :=
        match enforce setting reading job.tenantId s.store with
        | none => Stage.admitted job
        | some _ => .ended
      some { s with runs := s.runs ++ [stage] }
  | .proceed n =>
      (s.runs[n]?).map (fun stage =>
        let after := stage.proceed s.store
        ⟨after.1, s.runs.set n after.2⟩)

/-- The running workers of a tenant. -/
def runningWorkers (tenantId : Int) (store : RemediationStore) : Nat :=
  store.workers.rows.countP (fun w => decide (w.tenantId = tenantId ∧ w.status = .running))

/-- A run of a tenant that was admitted and has not stored its worker. -/
def Stage.awaits (tenantId : Int) : Stage → Bool
  | .admitted job => job.tenantId = tenantId
  | .leased job => job.tenantId = tenantId
  | .working _ _ | .ended => false

/-- The runs of a tenant that were admitted and have not stored their worker. -/
def awaiting (tenantId : Int) (runs : List Stage) : Nat :=
  runs.countP (Stage.awaits tenantId)

/-- The running workers of a tenant stay within the limit. -/
def WithinLimit (setting : ThrottleSetting) (tenantId : Int) (s : Throttling) : Prop :=
  (runningWorkers tenantId s.store : Int) ≤ setting.limit

/-- The count that a check reads reaches the limit, or the check cannot read it. -/
def Sees (setting : ThrottleSetting) (reading : Reading) (tenantId : Int)
    (store : RemediationStore) : Prop :=
  match setting.redisUrl, reading.redis with
  | true, .ok counter => setting.limit ≤ counter.getD 0
  | redisUrl, _ => redisUrl = true ∧ setting.requireRedis = true ∨ reading.database ≠ none ∨
      setting.limit ≤ liveWorkers tenantId reading.now store

instance (tenantId : Int) (store : RemediationStore) : ∀ setting reading,
    Decidable (Sees setting reading tenantId store)
  | ⟨limit, true, _⟩, ⟨.ok counter, _, _⟩ =>
      inferInstanceAs (Decidable (limit ≤ counter.getD 0))
  | ⟨limit, true, requireRedis⟩, ⟨.error _, database, now⟩ =>
      inferInstanceAs (Decidable (true = true ∧ requireRedis = true ∨ database ≠ none ∨
        limit ≤ liveWorkers tenantId now store))
  | ⟨limit, false, requireRedis⟩, ⟨_, database, now⟩ =>
      inferInstanceAs (Decidable (false = true ∧ requireRedis = true ∨ database ≠ none ∨
        limit ≤ liveWorkers tenantId now store))

/-- A check that is made when the running workers and the runs that were admitted reach the limit
sees it. -/
def ChecksInTime (setting : ThrottleSetting) (tenantId : Int) (s : Throttling) :
    ThrottleAction → Prop
  | .check job reading => job.tenantId = tenantId →
      setting.limit ≤ runningWorkers tenantId s.store + awaiting tenantId s.runs →
        Sees setting reading tenantId s.store
  | .proceed _ => True

instance (setting : ThrottleSetting) (tenantId : Int) (s : Throttling) (a : ThrottleAction) :
    Decidable (ChecksInTime setting tenantId s a) :=
  match a with
  | .check job reading => inferInstanceAs (Decidable (job.tenantId = tenantId →
      setting.limit ≤ runningWorkers tenantId s.store + awaiting tenantId s.runs →
        Sees setting reading tenantId s.store))
  | .proceed _ => isTrue trivial

section

variable {β γ : Type} {setting : ThrottleSetting} {reading : Reading} {tenantId : Int}
  {store : RemediationStore} {s s' : Throttling}

/-- A check that sees the limit raises. -/
theorem not_sees_of_enforce (h : enforce setting reading tenantId store = none) :
    ¬ Sees setting reading tenantId store := by
  unfold enforce activeCount countLive at h
  unfold Sees
  cases hurl : setting.redisUrl with
  | true =>
      cases hredis : reading.redis with
      | ok counter => simpa [hurl, hredis] using h
      | error e =>
          cases hrequire : setting.requireRedis with
          | true => simp [hurl, hredis, hrequire] at h
          | false =>
              cases hdatabase : reading.database with
              | some e => simp [hurl, hredis, hrequire, hdatabase] at h
              | none => simpa [hurl, hredis, hrequire, hdatabase] using h
  | false =>
      cases hdatabase : reading.database with
      | some e => simp [hurl, hdatabase] at h
      | none => simpa [hurl, hdatabase] using h

/-! ## What each stage does to the workers -/

section

variable {R : γ → RemediationStore → Prop} {Q : RemediationStore → Prop}

theorem ends_returned_bind (x : Except RemediationError β) {f : β → Runtime γ} (hQ : Q store)
    (h : ∀ b, Ends (f b) store R Q) : Ends (returned x >>= f) store R Q := by
  cases x with
  | ok b => exact h b
  | error e => exact hQ

/-- A connector is read. -/
theorem ends_getConnector_bind (connectorId : Int) {f : Connector → Runtime γ} (hQ : Q store)
    (h : ∀ c, Ends (f c) store R Q) :
    Ends (getConnector tenantId connectorId >>= f) store R Q := by
  refine Ends.bind (P := fun _ s => s = store) ?_ ?_
  · unfold getConnector
    rw [ends_get_bind]
    cases (store.connectors.find connectorId).filter (fun c => c.tenantId = tenantId) with
    | none => exact hQ
    | some connector => rfl
  · rintro c s rfl
    exact h c

end

variable {α : Type}

/-- A lease does not touch the workers. -/
theorem ends_leaseCredentials (o : Outcomes α) (connector : Connector) :
    Ends (leaseCredentials o tenantId connector) store
      (fun _ s => s.workers = store.workers) (fun s => s.workers = store.workers) := by
  unfold leaseCredentials
  refine ends_returned_bind _ rfl ?_
  intro issued
  refine ends_raises_bind (fun _ => rfl) (fun _ => ?_)
  rw [ends_get_bind]
  cases store.leases.insert (issuedLease o tenantId connector issued) with
  | none => rfl
  | some leases => exact ends_raises_bind (fun _ => rfl) (fun _ => rfl)

/-- Up to the lease the workers are as they were. -/
theorem ends_prepare (store : RemediationStore) (job : Job) :
    Ends job.prepare store
      (fun leased s => leased.tenantId = job.tenantId ∧ s.workers = store.workers)
      (fun s => s.workers = store.workers) := by
  cases job with
  | scan o tenantId connectorId =>
      unfold Job.prepare
      refine ends_getConnector_bind _ rfl ?_
      intro connector
      refine (ends_leaseCredentials o connector).bind ?_
      intro lease s hworkers
      exact ⟨rfl, hworkers⟩
  | execution o approval =>
      unfold Job.prepare
      dsimp only
      by_cases hplan : approval.planId = 0
      · rw [if_pos hplan]
        rfl
      · rw [if_neg hplan, ends_get_bind]
        cases (store.plans.find approval.planId).filter (fun p =>
            decide (p.tenantId = approval.tenantId ∧
              p.approvalId = some approval.approvalId)) with
        | none => rfl
        | some plan =>
            refine ends_getConnector_bind _ rfl ?_
            intro connector
            refine (ends_leaseCredentials o connector).bind ?_
            intro lease s hworkers
            exact ⟨rfl, hworkers⟩

/-- A worker that is new counts for its tenant. -/
theorem ends_createWorker (o : Outcomes α) (connector : Connector) (lease : Lease)
    (purpose : WorkerPurpose) (t : Int) :
    Ends (createWorker o tenantId connector lease purpose) store
      (fun _ s => runningWorkers t s ≤
        runningWorkers t store + if tenantId = t then 1 else 0)
      (fun s => runningWorkers t s ≤
        runningWorkers t store + if tenantId = t then 1 else 0) := by
  unfold createWorker
  refine ends_raises_bind (fun _ => Nat.le_add_right _ _) (fun _ => ?_)
  rw [ends_get_bind]
  cases hinsert : store.workers.insert (newWorker o tenantId connector lease purpose) with
  | none => exact Nat.le_add_right _ _
  | some workers =>
      have hcount : runningWorkers t { store with workers := workers } =
          runningWorkers t store + if tenantId = t then 1 else 0 := by
        unfold runningWorkers
        rw [Table.rows_insert hinsert, List.countP_append, List.countP_singleton]
        simp [newWorker]
      have hle := Nat.le_of_eq hcount
      exact ends_raises_bind (fun _ => hle)
        (fun _ => ends_raises_bind (fun _ => hle) (fun _ => hle))

theorem ends_start (job : LeasedJob) (t : Int) :
    Ends job.start store
      (fun _ s => runningWorkers t s ≤
        runningWorkers t store + if job.tenantId = t then 1 else 0)
      (fun s => runningWorkers t s ≤
        runningWorkers t store + if job.tenantId = t then 1 else 0) := by
  cases job with
  | scan o tenantId connector lease => exact ends_createWorker o connector lease _ t
  | execution o approval plan connector lease => exact ends_createWorker o connector lease _ t

/-- No worker becomes running when one is closed. -/
theorem runningWorkers_closeWorker (now : Int) (evidence : String) (worker : WorkerRun)
    (lease : Lease) (store : RemediationStore) (t : Int) :
    runningWorkers t (closeWorker now evidence worker lease store) ≤ runningWorkers t store := by
  refine countP_updateWhere_le ?_ store.workers.rows
  intro w hw
  simp at hw

theorem ends_finish (job : LeasedJob) (worker : WorkerRun) (t : Int) :
    Ends (job.finish worker) store (fun _ s => runningWorkers t s ≤ runningWorkers t store)
      (fun s => runningWorkers t s ≤ runningWorkers t store) := by
  cases job with
  | scan o tenantId connector lease =>
      unfold LeasedJob.finish
      refine ends_returned_bind _ (Nat.le_refl _) ?_
      intro items
      refine ends_raises_bind (fun _ => Nat.le_refl _) (fun _ => ?_)
      rw [ends_modify_bind]
      have hclose := runningWorkers_closeWorker o.now
        s!"\x7b\"findings_created\": {items.length}\x7d" worker lease
        { store with
          findings := store.findings ++ items.map (scannedFinding tenantId connector worker) } t
      exact ends_raises_bind (fun _ => hclose)
        (fun _ => ends_raises_bind (fun _ => hclose) (fun _ => hclose))
  | execution o approval plan connector lease =>
      unfold LeasedJob.finish
      refine ends_returned_bind _ (Nat.le_refl _) ?_
      intro execution
      refine ends_raises_bind (fun _ => Nat.le_refl _) (fun _ => ?_)
      rw [ends_modify_bind]
      have hclose := runningWorkers_closeWorker o.now execution.evidence worker lease store t
      exact ends_raises_bind (fun _ => hclose)
        (fun _ => ends_raises_bind (fun _ => hclose) (fun _ => hclose))

/-! ## Runs that check in time -/

/-- The running workers of a tenant and the runs that may still store one stay within the limit. -/
def Reserved (setting : ThrottleSetting) (tenantId : Int) (s : Throttling) : Prop :=
  ((runningWorkers tenantId s.store + awaiting tenantId s.runs : Nat) : Int) ≤ setting.limit

/-- What a run counts for. -/
def Stage.weight (t : Int) (stage : Stage) : Nat :=
  if stage.awaits t then 1 else 0

theorem awaiting_append (t : Int) (runs : List Stage) (stage : Stage) :
    awaiting t (runs ++ [stage]) = awaiting t runs + stage.weight t := by
  unfold awaiting
  rw [List.countP_append, List.countP_singleton]
  rfl

/-- A run that goes on counts for what its new stage counts for. -/
theorem awaiting_set (t : Int) {runs : List Stage} {n : Nat} (hn : n < runs.length)
    (stage : Stage) :
    awaiting t (runs.set n stage) + runs[n].weight t = awaiting t runs + stage.weight t := by
  have hle : runs[n].weight t ≤ awaiting t runs := by
    unfold Stage.weight
    by_cases h : runs[n].awaits t = true
    · rw [if_pos h]
      exact List.countP_pos_iff.mpr ⟨_, List.getElem_mem hn, h⟩
    · rw [if_neg h]
      exact Nat.zero_le _
  unfold awaiting at hle ⊢
  rw [List.countP_set hn]
  unfold Stage.weight at hle ⊢
  omega

/-- A run whose lease is taken, or that has failed, counts for no more than before. -/
theorem weight_nextStage_leased (job : Job) (t : Int) :
    (nextStage job.prepare store .leased).weight t ≤ (Stage.admitted job).weight t := by
  have hends := ends_prepare store job
  unfold Ends at hends
  unfold nextStage
  cases hexit : job.prepare store with
  | ok leased store' =>
      rw [hexit] at hends
      have htenant : leased.tenantId = job.tenantId := hends.1
      simp only [Stage.weight, Stage.awaits, htenant]
      exact Nat.le_refl _
  | error e store' => exact Nat.zero_le _

/-- A stage that has ended stands for no more workers than it counted for. -/
theorem proceed_le (store : RemediationStore) (stage : Stage) (t : Int) :
    runningWorkers t (stage.proceed store).1 + (stage.proceed store).2.weight t ≤
      runningWorkers t store + stage.weight t := by
  cases stage with
  | admitted job =>
      have hworkers : (exitState job.prepare store).workers = store.workers :=
        exitState_of_ends ((ends_prepare store job).mono (fun _ _ h => h.2) (fun _ h => h))
      have hcount : runningWorkers t (exitState job.prepare store) = runningWorkers t store := by
        unfold runningWorkers
        rw [hworkers]
      exact Nat.add_le_add (Nat.le_of_eq hcount) (weight_nextStage_leased job t)
  | leased job =>
      have hcount : runningWorkers t (exitState job.start store) ≤
          runningWorkers t store + if job.tenantId = t then 1 else 0 :=
        exitState_of_ends (ends_start job t)
      have hnext : (nextStage job.start store (.working job)).weight t = 0 := by
        unfold nextStage
        cases job.start store with
        | ok worker store' => rfl
        | error e store' => rfl
      have hweight : (Stage.leased job).weight t = if job.tenantId = t then 1 else 0 := by
        simp [Stage.weight, Stage.awaits]
      show runningWorkers t (exitState job.start store) +
        (nextStage job.start store (.working job)).weight t ≤ _
      rw [hnext, hweight]
      exact hcount
  | working job worker => exact exitState_of_ends (ends_finish job worker t)
  | ended => exact Nat.le_refl _

/-- A step in time reserves no more than the limit. -/
theorem Reserved.step {a : ThrottleAction} (h : Reserved setting tenantId s)
    (htime : ChecksInTime setting tenantId s a) (hstep : throttleStep setting s a = some s') :
    Reserved setting tenantId s' := by
  unfold Reserved at h ⊢
  cases a with
  | check job reading =>
      cases hstep
      rw [awaiting_append]
      cases henforce : enforce setting reading job.tenantId s.store with
      | some e => simpa [Stage.weight, Stage.awaits] using h
      | none =>
          by_cases htenant : job.tenantId = tenantId
          · subst htenant
            have hroom : ¬ setting.limit ≤ runningWorkers job.tenantId s.store +
                awaiting job.tenantId s.runs :=
              fun hfull => not_sees_of_enforce henforce (htime rfl hfull)
            simp only [Stage.weight, Stage.awaits, decide_true, if_true]
            omega
          · simpa [Stage.weight, Stage.awaits, htenant] using h
  | proceed n =>
      rcases Option.map_eq_some_iff.mp hstep with ⟨stage, hstage, rfl⟩
      rcases List.getElem?_eq_some_iff.mp hstage with ⟨hn, rfl⟩
      have hle := proceed_le s.store s.runs[n] tenantId
      have hset := awaiting_set tenantId hn (s.runs[n].proceed s.store).2
      dsimp only
      omega

/-- The running workers of a tenant stay within the limit in every run in which each check that is
made when the running workers and the admitted runs reach the limit sees it. -/
theorem workers_within_limit (setting : ThrottleSetting) (tenantId : Int)
    (store : RemediationStore) (as : List ThrottleAction)
    (hbegin : WithinLimit setting tenantId (.begin store))
    (htime : Respects (throttleStep setting) (ChecksInTime setting tenantId) (.begin store) as) :
    Always (throttleStep setting) (WithinLimit setting tenantId) (.begin store) as := by
  have hreserved : ∀ s, Reserved setting tenantId s → WithinLimit setting tenantId s := by
    intro s hs
    unfold Reserved at hs
    unfold WithinLimit
    omega
  exact always_of_respects hreserved (fun s a s' hs ha hstep => hs.step ha hstep) hbegin htime

/-! ## Runs that exceed the limit -/

/-- One worker for each tenant, which the database counts. -/
def oneWorker : ThrottleSetting :=
  ⟨1, false, false⟩

/-- A scan of the connector; where it is stuck its adapter raises. -/
def sampleScan (name : String) (stuck : Bool) : Job :=
  .scan (sampleOutcomes name (if stuck then .error .other else .ok [(sampleItem, 1)])) 1 1

/-- A check at a time, where Redis holds no counter. -/
def uncounted (now : Int) : Reading :=
  ⟨.ok none, none, now⟩

/-- A scan that is refused while another works, and one after it is done. -/
def scansInTurn : List ThrottleAction :=
  [.check (sampleScan "first" false) (uncounted 0), .proceed 0, .proceed 0,
    .check (sampleScan "second" false) (uncounted 1), .proceed 0,
    .check (sampleScan "third" false) (uncounted 2), .proceed 2, .proceed 2]

theorem workers_within_limit_inTurn :
    WithinLimit oneWorker 1 (.begin sampleConnectors) ∧
      Respects (throttleStep oneWorker) (ChecksInTime oneWorker 1) (.begin sampleConnectors)
        scansInTurn ∧
      Always (throttleStep oneWorker) (WithinLimit oneWorker 1) (.begin sampleConnectors)
        scansInTurn := by
  have hbegin : WithinLimit oneWorker 1 (.begin sampleConnectors) := by
    unfold WithinLimit
    decide
  have htime : Respects (throttleStep oneWorker) (ChecksInTime oneWorker 1)
      (.begin sampleConnectors) scansInTurn := by
    decide +kernel
  exact ⟨hbegin, htime, workers_within_limit oneWorker 1 sampleConnectors scansInTurn hbegin htime⟩

/-- Two scans that ask before either has stored its worker. -/
def scansAtOnce : List ThrottleAction :=
  [.check (sampleScan "first" false) (uncounted 0),
    .check (sampleScan "second" false) (uncounted 0),
    .proceed 0, .proceed 1, .proceed 0, .proceed 1]

/-- A scan that has stored its worker when the next one asks. -/
def scansOverlapping : List ThrottleAction :=
  [.check (sampleScan "first" false) (uncounted 0), .proceed 0, .proceed 0,
    .check (sampleScan "second" false) (uncounted 1), .proceed 1, .proceed 1]

/-- A scan whose adapter raises, and one that asks when its worker has expired. -/
def scansAfterFailure : List ThrottleAction :=
  [.check (sampleScan "first" true) (uncounted 0), .proceed 0, .proceed 0, .proceed 0,
    .check (sampleScan "second" false) (uncounted 900), .proceed 1, .proceed 1]

/-- How many workers of the tenant run after the actions. -/
def runningAfter (setting : ThrottleSetting) (as : List ThrottleAction) : Option Nat :=
  (run (throttleStep setting) (.begin sampleConnectors) as).map
    (fun s => runningWorkers 1 s.store)

/-- A run that ends with two workers does not stay within one. -/
theorem not_always_of_two {as : List ThrottleAction} (hlimit : setting.limit = 1)
    (h : runningAfter setting as = some 2) :
    ¬ Always (throttleStep setting) (WithinLimit setting 1) (.begin sampleConnectors) as := by
  intro halways
  rcases Option.map_eq_some_iff.mp h with ⟨s, hrun, htwo⟩
  have hwithin := halways as [] s (List.append_nil _).symm hrun
  unfold WithinLimit at hwithin
  omega

/-- Where the database is counted, two scans that ask at once both run, and so do a scan whose
adapter raised and one that asks when its worker has expired; where Redis is counted, two scans
run as soon as they overlap. -/
theorem workers_exceed_limit :
    ¬ Always (throttleStep oneWorker) (WithinLimit oneWorker 1) (.begin sampleConnectors)
      scansAtOnce ∧
    ¬ Always (throttleStep oneWorker) (WithinLimit oneWorker 1) (.begin sampleConnectors)
      scansAfterFailure ∧
    ¬ Always (throttleStep { oneWorker with redisUrl := true })
      (WithinLimit { oneWorker with redisUrl := true } 1) (.begin sampleConnectors)
      scansOverlapping := by
  refine ⟨not_always_of_two rfl ?_, not_always_of_two rfl ?_, not_always_of_two rfl ?_⟩
  · decide +kernel
  · decide +kernel
  · decide +kernel

end

end AuthClaw.Remediation
