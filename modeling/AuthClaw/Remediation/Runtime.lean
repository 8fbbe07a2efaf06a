import AuthClaw.Library.Exits
import AuthClaw.Library.Keyed
import AuthClaw.Library.StepSystem

/-!
# The remediation runtime

A scan and the execution of a plan take a lease on credentials and a worker, do their work, and
close both in the transaction that stores the results; a test of a connector takes a lease only.
Every call outside the process may raise, and nothing is closed on the way out.

Main results:

- Theorem {lit}`remediation_closes_iff`: on which outcomes the lease is revoked and the worker
  no longer running when an operation ends, and in which runs an executed plan and a remediated
  finding never become pending again.
-/

namespace AuthClaw.Remediation

open Rows StepSystem Exits

/-! ## Tables -/

/-- A row of `remediation_connectors`. -/
structure Connector where
  id : Int
  tenantId : Int
  provider : String
  status : String
  healthMessage : Option String
deriving DecidableEq

/-- A row of `worker_credential_leases`. -/
structure Lease where
  leaseId : String
  tenantId : Int
  connectorId : Int
  provider : String
  scope : String
  expiresAt : Int
  revokedAt : Option Int
deriving DecidableEq

/-- The statuses of a worker that the runtime writes or asks for. -/
inductive WorkerStatus where
  | queued
  | running
  | completed
deriving DecidableEq

/-- A row of `remediation_worker_runs`. -/
structure WorkerRun where
  workerId : String
  tenantId : Int
  connectorId : Int
  provider : String
  mode : String
  status : WorkerStatus
  leaseId : String
  findingId : Option Int
  planId : Option Int
  approvalId : Option String
  expiresAt : Int
  completedAt : Option Int
  evidence : Option String
deriving DecidableEq

/-- Whether the remediation of a finding was asked for. -/
inductive ApprovalState where
  | notRequested
  | pending
  | executed
deriving DecidableEq

/-- The statuses of a finding. -/
inductive FindingStatus where
  | opened
  | remediated
deriving DecidableEq

/-- What a scan reports. -/
structure ScanItem where
  resourceId : String
  findingType : String
  finding : String
  recommendation : String
  severity : String
  proposedAction : String

/-- A row of `remediation_findings`. -/
structure Finding where
  id : Int
  tenantId : Int
  connectorId : Int
  provider : String
  resourceId : String
  findingType : String
  finding : String
  recommendation : String
  severity : String
  fixPlan : String
  approvalStatus : ApprovalState
  status : FindingStatus
  workerId : String
deriving DecidableEq

/-- The statuses of a plan. -/
inductive PlanStatus where
  | planned
  | pendingApproval
  | executed
deriving DecidableEq

/-- A row of `remediation_plans`. -/
structure RemediationPlan where
  id : Int
  tenantId : Int
  findingId : Int
  connectorId : Int
  provider : String
  resourceId : String
  proposedAction : String
  riskLevel : String
  status : PlanStatus
  approvalId : Option String
  executionEvidence : Option String
deriving DecidableEq

/-- The tables. -/
structure RemediationStore where
  connectors : Table Connector.id
  leases : Table Lease.leaseId
  workers : Table WorkerRun.workerId
  findings : List Finding
  plans : Table RemediationPlan.id

/-- What an operation raises. -/
inductive RemediationError where
  /-- `RemediationRuntimeError`. -/
  | runtime (message : String)
  | throttled
  | database
  | other
deriving DecidableEq

/-- A computation that may raise. -/
abbrev Runtime := EStateM RemediationError RemediationStore

/-- Credentials that an adapter has issued. -/
structure Issued where
  scope : String
  ttlSeconds : Int

/-- What an adapter reports of an execution. -/
structure Execution where
  summary : String
  evidence : String

/-- How the calls of an operation end, and what it draws: the check of the throttle, the adapter,
and each transaction, which raises before it commits or after. -/
structure Outcomes (α : Type) where
  now : Int
  throttle : Option RemediationError
  issue : Except RemediationError Issued
  leaseId : String
  insertLease : Option RemediationError
  leaseReply : Option RemediationError
  workerId : String
  insertWorker : Option RemediationError
  workerReply : Option RemediationError
  workerAudit : Option RemediationError
  work : Except RemediationError α
  results : Option RemediationError
  resultsReply : Option RemediationError
  audit : Option RemediationError

/-! ## Operations -/

/-- What a call returns, when it does not raise. -/
def returned {α : Type} (x : Except RemediationError α) : Runtime α :=
  match x with
  | .ok a => pure a
  | .error e => throw e

/-- `get_connector`. -/
def getConnector (tenantId connectorId : Int) : Runtime Connector := do
  match ((← get).connectors.find connectorId).filter (fun c => c.tenantId = tenantId) with
  | none => throw (.runtime "Connector not found.")
  | some connector => return connector

variable {α : Type}

/-- The lease on what an adapter has issued. -/
def issuedLease (o : Outcomes α) (tenantId : Int) (connector : Connector) (issued : Issued) :
    Lease where
  leaseId := o.leaseId
  tenantId := tenantId
  connectorId := connector.id
  provider := connector.provider
  scope := issued.scope
  expiresAt := o.now + issued.ttlSeconds
  revokedAt := none

/-- `_lease_credentials`. -/
def leaseCredentials (o : Outcomes α) (tenantId : Int) (connector : Connector) :
    Runtime Lease := do
  let issued ← returned o.issue
  raises o.insertLease
  let lease := issuedLease o tenantId connector issued
  match (← get).leases.insert lease with
  | none => throw .database
  | some leases => modify (fun store => { store with leases := leases })
  raises o.leaseReply
  return lease

/-- What a worker is for. -/
structure WorkerPurpose where
  mode : String
  findingId : Option Int
  planId : Option Int
  approvalId : Option String

/-- A worker for a purpose. -/
def newWorker (o : Outcomes α) (tenantId : Int) (connector : Connector) (lease : Lease)
    (purpose : WorkerPurpose) : WorkerRun where
  workerId := o.workerId
  tenantId := tenantId
  connectorId := connector.id
  provider := connector.provider
  mode := purpose.mode
  status := .running
  leaseId := lease.leaseId
  findingId := purpose.findingId
  planId := purpose.planId
  approvalId := purpose.approvalId
  expiresAt := o.now + 15 * 60
  completedAt := none
  evidence := none

/-- `_create_worker`. -/
def createWorker (o : Outcomes α) (tenantId : Int) (connector : Connector) (lease : Lease)
    (purpose : WorkerPurpose) : Runtime WorkerRun := do
  raises o.insertWorker
  let worker := newWorker o tenantId connector lease purpose
  match (← get).workers.insert worker with
  | none => throw .database
  | some workers => modify (fun store => { store with workers := workers })
  raises o.workerReply
  raises o.workerAudit
  return worker

/-- The worker is completed, and the lease revoked. -/
def closeWorker (now : Int) (evidence : String) (worker : WorkerRun) (lease : Lease)
    (store : RemediationStore) : RemediationStore :=
  { store with
    workers := store.workers.update
      (fun w => decide (w.workerId = worker.workerId ∧ w.tenantId = worker.tenantId))
      (fun w => { w with
        status := .completed, completedAt := some now, evidence := some evidence })
      (fun _ => rfl)
    leases := store.leases.update (fun l => l.leaseId = lease.leaseId)
      (fun l => { l with revokedAt := some now }) (fun _ => rfl) }

/-- The finding that a scan stores for an item. -/
def scannedFinding (tenantId : Int) (connector : Connector) (worker : WorkerRun)
    (numbered : ScanItem × Int) : Finding where
  id := numbered.2
  tenantId := tenantId
  connectorId := connector.id
  provider := connector.provider
  resourceId := numbered.1.resourceId
  findingType := numbered.1.findingType
  finding := numbered.1.finding
  recommendation := numbered.1.recommendation
  severity := numbered.1.severity
  fixPlan := numbered.1.proposedAction
  approvalStatus := .notRequested
  status := .opened
  workerId := worker.workerId

/-- `run_scan`.  The numbers of the findings are drawn with the items. -/
def runScan (o : Outcomes (List (ScanItem × Int))) (tenantId connectorId : Int) :
    Runtime WorkerRun := do
  raises o.throttle
  let connector ← getConnector tenantId connectorId
  let lease ← leaseCredentials o tenantId connector
  let worker ← createWorker o tenantId connector lease ⟨"read_only_scan", none, none, none⟩
  let items ← returned o.work
  raises o.results
  modify (fun store => closeWorker o.now s!"\x7b\"findings_created\": {items.length}\x7d"
    worker lease
    { store with
      findings := store.findings ++ items.map (scannedFinding tenantId connector worker) })
  raises o.resultsReply
  raises o.audit
  return worker

/-- `test_connector`. -/
def testConnector (o : Outcomes Unit) (tenantId connectorId : Int) : Runtime Lease := do
  let connector ← getConnector tenantId connectorId
  let lease ← leaseCredentials o tenantId connector
  raises o.results
  modify (fun store => { store with
    connectors := store.connectors.update
      (fun c => decide (c.id = connectorId ∧ c.tenantId = tenantId))
      (fun c => { c with
        status := "connected"
        healthMessage := some s!"Scoped credential lease {lease.leaseId} issued." })
      (fun _ => rfl) })
  raises o.resultsReply
  raises o.audit
  return lease

/-- An approval of the execution of a plan; a plan that is not named is 0. -/
structure ApprovalRecord where
  tenantId : Int
  planId : Int
  approvalId : String

/-- The plan is executed, and its finding remediated. -/
def storeExecution (approval : ApprovalRecord) (plan : RemediationPlan) (evidence : String)
    (store : RemediationStore) : RemediationStore :=
  { store with
    plans := store.plans.update
      (fun p => decide (p.id = approval.planId ∧ p.tenantId = approval.tenantId))
      (fun p => { p with status := .executed, executionEvidence := some evidence }) (fun _ => rfl)
    findings := updateWhere
      (fun f => decide (f.id = plan.findingId ∧ f.tenantId = approval.tenantId))
      (fun f => { f with status := .remediated, approvalStatus := .executed }) store.findings }

/-- `execute_approved_plan`. -/
def executeApprovedPlan (o : Outcomes Execution) (approval : ApprovalRecord) :
    Runtime WorkerRun := do
  raises o.throttle
  if approval.planId = 0 then
    throw (.runtime "Approval is missing remediation plan binding.")
  match ((← get).plans.find approval.planId).filter (fun p =>
      decide (p.tenantId = approval.tenantId ∧ p.approvalId = some approval.approvalId)) with
  | none => throw (.runtime "Approved remediation plan not found.")
  | some plan =>
      let connector ← getConnector approval.tenantId plan.connectorId
      let lease ← leaseCredentials o approval.tenantId connector
      let worker ← createWorker o approval.tenantId connector lease
        ⟨"execution", some plan.findingId, some approval.planId, some approval.approvalId⟩
      let execution ← returned o.work
      raises o.results
      modify (fun store => storeExecution approval plan execution.evidence
        (closeWorker o.now execution.evidence worker lease store))
      raises o.resultsReply
      raises o.audit
      return worker

/-- The allowlisted actions of a provider. -/
def allowlistedActions (provider : String) : List String :=
  if provider = "aws" then
    ["enable_s3_block_public_access", "enable_iam_user_mfa", "restrict_security_group_ingress"]
  else if provider = "gcp" then
    ["remove_public_bucket_binding", "rotate_service_account_key", "restrict_firewall_ingress"]
  else if provider = "github" then
    ["enable_branch_protection", "enable_secret_scanning", "enable_dependabot_alerts"]
  else []

/-- `create_plan`; the plan gets a new number. -/
def createPlan (o : Outcomes Int) (tenantId findingId : Int) : Runtime RemediationPlan := do
  match (← get).findings.find? (fun f => decide (f.id = findingId ∧ f.tenantId = tenantId)) with
  | none => throw (.runtime "Finding not found.")
  | some finding =>
      if finding.fixPlan ∉ allowlistedActions finding.provider then
        throw (.runtime "Finding action is not allowlisted.")
      let id ← returned o.work
      raises o.results
      let plan : RemediationPlan := {
        id := id
        tenantId := tenantId
        findingId := findingId
        connectorId := finding.connectorId
        provider := finding.provider
        resourceId := finding.resourceId
        proposedAction := finding.fixPlan
        riskLevel := finding.severity
        status := .planned
        approvalId := none
        executionEvidence := none }
      match (← get).plans.insert plan with
      | none => throw .database
      | some plans => modify (fun store => { store with plans := plans })
      raises o.resultsReply
      raises o.audit
      return plan

/-- The plan waits for the approval, and so does its finding. -/
def storeRequest (tenantId planId : Int) (approvalId : String) (plan : RemediationPlan)
    (store : RemediationStore) : RemediationStore :=
  { store with
    plans := store.plans.update (fun p => decide (p.id = planId ∧ p.tenantId = tenantId))
      (fun p => { p with approvalId := some approvalId, status := .pendingApproval })
      (fun _ => rfl)
    findings := updateWhere (fun f => decide (f.id = plan.findingId ∧ f.tenantId = tenantId))
      (fun f => { f with approvalStatus := .pending }) store.findings }

/-- `request_plan_approval`, with the approval that `create_approval` returns. -/
def requestPlanApproval (o : Outcomes String) (tenantId planId : Int) : Runtime String := do
  match ((← get).plans.find planId).filter (fun p => p.tenantId = tenantId) with
  | none => throw (.runtime "Remediation plan not found.")
  | some plan =>
      let approvalId ← returned o.work
      raises o.results
      modify (storeRequest tenantId planId approvalId plan)
      raises o.resultsReply
      raises o.audit
      return approvalId

/-! ## What an operation leaves -/

/-- Every lease that is new is revoked, and no worker that is new is running. -/
structure Closed (before after : RemediationStore) : Prop where
  revoked : ∀ l ∈ after.leases.rows, before.leases.find l.leaseId = none → l.revokedAt ≠ none
  ended : ∀ w ∈ after.workers.rows, before.workers.find w.workerId = none → w.status ≠ .running

/-- The lease is issued and stored. -/
def Outcomes.Leases (o : Outcomes α) (store : RemediationStore) : Prop :=
  (∃ issued, o.issue = .ok issued) ∧ o.insertLease = none ∧ store.leases.find o.leaseId = none

/-- Nothing raises from the time a lease is stored until it is revoked. -/
def Outcomes.Finishes (o : Outcomes α) (store : RemediationStore) : Prop :=
  o.leaseReply = none ∧ o.insertWorker = none ∧ store.workers.find o.workerId = none ∧
    o.workerReply = none ∧ o.workerAudit = none ∧ (∃ a, o.work = .ok a) ∧ o.results = none

/-- A connector of the tenant. -/
def HasConnector (tenantId connectorId : Int) (store : RemediationStore) : Prop :=
  ∃ c, store.connectors.find connectorId = some c ∧ c.tenantId = tenantId

/-- A plan of the tenant that the approval is for, with a connector. -/
def HasApprovedPlan (approval : ApprovalRecord) (store : RemediationStore) : Prop :=
  approval.planId ≠ 0 ∧ ∃ plan, store.plans.find approval.planId = some plan ∧
    plan.tenantId = approval.tenantId ∧ plan.approvalId = some approval.approvalId ∧
    HasConnector approval.tenantId plan.connectorId store

section

variable {β γ : Type} {store : RemediationStore} {o : Outcomes α} {tenantId connectorId : Int}

/-! ## Computations -/

theorem exitState_returned (x : Except RemediationError β) (f : β → Runtime γ) :
    exitState (returned x >>= f) store = match x with
      | .ok b => exitState (f b) store
      | .error _ => store := by
  rw [exitState_bind]
  cases x with
  | ok b => rfl
  | error e => rfl

/-! ## Leases and workers -/

/-- The tables with a lease that was stored. -/
structure Leased (o : Outcomes α) (lease : Lease) (store store' : RemediationStore) : Prop where
  leaseId : lease.leaseId = o.leaseId
  unrevoked : lease.revokedAt = none
  leases : ∀ l, l ∈ store'.leases.rows ↔ l ∈ store.leases.rows ∨ l = lease
  workers : store'.workers = store.workers
  plans : store'.plans = store.plans
  findings : store'.findings = store.findings

/-- What is leased is stored, and the reply may be lost. -/
theorem leaseCredentials_of_leases (connector : Connector) (h : o.Leases store) :
    ∃ lease store', Leased o lease store store' ∧
      leaseCredentials o tenantId connector store =
        match o.leaseReply with
        | none => .ok lease store'
        | some e => .error e store' := by
  rcases h with ⟨⟨issued, hissue⟩, hinsert, hfresh⟩
  have hkey : store.leases.find (issuedLease o tenantId connector issued).leaseId = none := hfresh
  rcases Table.exists_insert hkey with ⟨leases, hleases⟩
  refine ⟨_, { store with leases := leases },
    ⟨rfl, rfl, fun l => Table.mem_insert hleases, rfl, rfl, rfl⟩, ?_⟩
  unfold leaseCredentials
  simp only [hissue, hinsert, returned, raises, pure_bind]
  rw [get_bind_apply, hleases]
  cases o.leaseReply with
  | none => rfl
  | some e => rfl

/-- What is not leased leaves the tables as they were. -/
theorem leaseCredentials_of_not (connector : Connector) (h : ¬ o.Leases store) :
    ∃ e, leaseCredentials o tenantId connector store = .error e store := by
  cases hissue : o.issue with
  | error e => exact ⟨e, by simp [leaseCredentials, hissue, returned]; rfl⟩
  | ok issued =>
      cases hinsert : o.insertLease with
      | some e => exact ⟨e, by simp [leaseCredentials, hissue, hinsert, returned, raises]; rfl⟩
      | none =>
          have hkey : ¬ store.leases.find (issuedLease o tenantId connector issued).leaseId =
              none := fun hfresh => h ⟨⟨issued, hissue⟩, hinsert, hfresh⟩
          have hnone : store.leases.insert (issuedLease o tenantId connector issued) = none :=
            dif_neg hkey
          refine ⟨.database, ?_⟩
          simp only [leaseCredentials, hissue, hinsert, returned, raises, pure_bind]
          rw [get_bind_apply, hnone]
          rfl

/-- The worker is stored. -/
def Outcomes.Starts (o : Outcomes α) (store : RemediationStore) : Prop :=
  o.insertWorker = none ∧ store.workers.find o.workerId = none

/-- The tables with a worker that was stored. -/
structure Started (o : Outcomes α) (worker : WorkerRun) (store store' : RemediationStore) :
    Prop where
  workerId : worker.workerId = o.workerId
  running : worker.status = .running
  workers : ∀ w, w ∈ store'.workers.rows ↔ w ∈ store.workers.rows ∨ w = worker
  leases : store'.leases = store.leases
  plans : store'.plans = store.plans
  findings : store'.findings = store.findings

/-- A worker that starts is stored, and the reply or its audit may be lost. -/
theorem createWorker_of_starts (connector : Connector) (lease : Lease) (purpose : WorkerPurpose)
    (h : o.Starts store) :
    ∃ worker store', Started o worker store store' ∧
      createWorker o tenantId connector lease purpose store =
        match o.workerReply, o.workerAudit with
        | none, none => .ok worker store'
        | some e, _ => .error e store'
        | none, some e => .error e store' := by
  rcases h with ⟨hinsert, hfresh⟩
  have hkey : store.workers.find (newWorker o tenantId connector lease purpose).workerId = none :=
    hfresh
  rcases Table.exists_insert hkey with ⟨workers, hworkers⟩
  refine ⟨_, { store with workers := workers },
    ⟨rfl, rfl, fun w => Table.mem_insert hworkers, rfl, rfl, rfl⟩, ?_⟩
  unfold createWorker
  simp only [hinsert, raises, pure_bind]
  rw [get_bind_apply, hworkers]
  cases o.workerReply with
  | some e => rfl
  | none =>
      cases o.workerAudit with
      | none => rfl
      | some e => rfl

/-- A worker that does not start leaves the tables as they were. -/
theorem createWorker_of_not (connector : Connector) (lease : Lease) (purpose : WorkerPurpose)
    (h : ¬ o.Starts store) :
    ∃ e, createWorker o tenantId connector lease purpose store = .error e store := by
  cases hinsert : o.insertWorker with
  | some e => exact ⟨e, by simp [createWorker, hinsert, raises]; rfl⟩
  | none =>
      have hkey : ¬ store.workers.find
          (newWorker o tenantId connector lease purpose).workerId = none :=
        fun hfresh => h ⟨hinsert, hfresh⟩
      have hnone : store.workers.insert (newWorker o tenantId connector lease purpose) = none :=
        dif_neg hkey
      refine ⟨.database, ?_⟩
      simp only [createWorker, hinsert, raises, pure_bind]
      rw [get_bind_apply, hnone]
      rfl

/-! ## Closing -/

/-- Nothing is new. -/
theorem closed_self (store : RemediationStore) : Closed store store where
  revoked := fun l hl hnew => absurd rfl (Table.find_eq_none.mp hnew l hl)
  ended := fun w hw hnew => absurd rfl (Table.find_eq_none.mp hnew w hw)

/-- A lease that was stored and not revoked is open. -/
theorem not_closed_of_lease {store' : RemediationStore} {lease : Lease}
    (hmem : lease ∈ store'.leases.rows) (hnew : store.leases.find lease.leaseId = none)
    (hunrevoked : lease.revokedAt = none) : ¬ Closed store store' :=
  fun h => h.revoked lease hmem hnew hunrevoked

/-- After the worker is completed and the lease revoked, both are closed. -/
theorem closed_of_closeWorker {lease : Lease} {worker : WorkerRun}
    {leased started after : RemediationStore} (hlease : Leased o lease store leased)
    (hworker : Started o worker leased started) {now : Int} {evidence : String}
    (hleases : after.leases = (closeWorker now evidence worker lease started).leases)
    (hworkers : after.workers = (closeWorker now evidence worker lease started).workers) :
    Closed store after := by
  constructor
  · intro l hl hnew
    rw [hleases] at hl
    rcases mem_updateWhere.mp hl with ⟨old, hold, ⟨-, rfl⟩ | ⟨hother, rfl⟩⟩
    · exact Option.some_ne_none now
    · rw [hworker.leases] at hold
      rcases (hlease.leases _).mp hold with hold | rfl
      · exact absurd rfl (Table.find_eq_none.mp hnew _ hold)
      · exact absurd rfl (of_decide_eq_false hother)
  · intro w hw hnew
    rw [hworkers] at hw
    rcases mem_updateWhere.mp hw with ⟨old, hold, ⟨-, rfl⟩ | ⟨hother, rfl⟩⟩
    · exact fun hrunning => by cases hrunning
    · rcases (hworker.workers _).mp hold with hold | rfl
      · rw [hlease.workers] at hold
        exact absurd rfl (Table.find_eq_none.mp hnew _ hold)
      · exact absurd ⟨rfl, rfl⟩ (of_decide_eq_false hother)

/-- The work succeeds, and its results are stored. -/
def Outcomes.Stores (o : Outcomes α) : Prop :=
  (∃ a, o.work = .ok a) ∧ o.results = none

/-- A lease that is stored and left alone is open. -/
theorem Leased.not_closed {lease : Lease} {leased after : RemediationStore}
    (h : Leased o lease store leased) (hfresh : store.leases.find o.leaseId = none)
    (hsame : after.leases = leased.leases) : ¬ Closed store after := by
  refine not_closed_of_lease ?_ (h.leaseId ▸ hfresh) h.unrevoked
  rw [hsame]
  exact (h.leases lease).mpr (Or.inr rfl)

section

variable {connector : Connector} {purpose : WorkerPurpose} {tail : Lease → WorkerRun → Runtime γ}
  (hstores : o.Stores → ∀ lease worker started, ∃ now evidence,
    (exitState (tail lease worker) started).leases =
        (closeWorker now evidence worker lease started).leases ∧
      (exitState (tail lease worker) started).workers =
        (closeWorker now evidence worker lease started).workers)
  (hnot : ¬ o.Stores → ∀ lease worker started, exitState (tail lease worker) started = started)

include hstores hnot

/-- With a lease, an operation closes it and its worker exactly when nothing raises until the
results are stored. -/
theorem closed_iff_of_leased {lease : Lease} {leased : RemediationStore}
    (hleased : Leased o lease store leased) (hfresh : store.leases.find o.leaseId = none) :
    Closed store (exitState (createWorker o tenantId connector lease purpose >>=
      fun worker => tail lease worker) leased) ↔
        o.Starts store ∧ o.workerReply = none ∧ o.workerAudit = none ∧ o.Stores := by
  have hsame : o.Starts leased ↔ o.Starts store := by
    unfold Outcomes.Starts
    rw [hleased.workers]
  by_cases hstarts : o.Starts leased
  · rcases @createWorker_of_starts α leased o tenantId connector lease purpose hstarts with
      ⟨worker, started, hstarted, heq⟩
    rw [exitState_bind, heq]
    cases hreply : o.workerReply with
    | some e => exact iff_of_false (hleased.not_closed hfresh hstarted.leases) (by simp)
    | none =>
        cases haudit : o.workerAudit with
        | some e => exact iff_of_false (hleased.not_closed hfresh hstarted.leases) (by simp)
        | none =>
            by_cases hdone : o.Stores
            · rcases hstores hdone lease worker started with ⟨now, evidence, hleases, hworkers⟩
              exact iff_of_true (closed_of_closeWorker hleased hstarted hleases hworkers)
                ⟨hsame.mp hstarts, rfl, rfl, hdone⟩
            · dsimp only
              rw [hnot hdone]
              exact iff_of_false (hleased.not_closed hfresh hstarted.leases)
                (fun h => hdone h.2.2.2)
  · rcases @createWorker_of_not α leased o tenantId connector lease purpose hstarts with ⟨e, heq⟩
    rw [exitState_bind, heq]
    exact iff_of_false (hleased.not_closed hfresh rfl) (fun h => hstarts (hsame.mpr h.1))

/-- With a lease and a worker, an operation closes both exactly when, once the lease is stored,
nothing raises until the results are. -/
theorem closed_iff_of_work :
    Closed store (exitState (leaseCredentials o tenantId connector >>= fun lease =>
      createWorker o tenantId connector lease purpose >>= fun worker => tail lease worker) store) ↔
        (o.Leases store → o.Finishes store) := by
  by_cases hleases : o.Leases store
  · rcases @leaseCredentials_of_leases α store o tenantId connector hleases with
      ⟨lease, leased, hleased, heq⟩
    rw [exitState_bind, heq, forall_prop_of_true hleases]
    unfold Outcomes.Finishes
    cases hreply : o.leaseReply with
    | some e => exact iff_of_false (hleased.not_closed hleases.2.2 rfl) (by simp)
    | none =>
        refine (closed_iff_of_leased hstores hnot hleased hleases.2.2).trans ?_
        unfold Outcomes.Starts Outcomes.Stores
        tauto
  · rcases @leaseCredentials_of_not α store o tenantId connector hleases with ⟨e, heq⟩
    rw [exitState_bind, heq]
    exact iff_of_true (closed_self store) (fun h => absurd h hleases)

end

/-- What raises after the results are stored changes nothing. -/
theorem exitState_replies (e e' : Option RemediationError) (b : β) :
    exitState (raises e >>= fun _ => raises e' >>= fun _ => pure b) store = store := by
  rw [exitState_raises, exitState_raises]
  simp

/-- Work that raises, or whose results are not stored, changes nothing. -/
theorem exitState_of_not_stores (h : ¬ o.Stores) (f : α → Unit → Runtime β) :
    exitState (returned o.work >>= fun a => raises o.results >>= f a) store = store := by
  rw [exitState_returned]
  cases hwork : o.work with
  | error e => rfl
  | ok a =>
      have hresults : o.results ≠ none := fun hresults => h ⟨⟨a, hwork⟩, hresults⟩
      dsimp only
      rw [exitState_raises, if_neg hresults]

/-- The connector is found, or the operation ends. -/
theorem exitState_getConnector (f : Connector → Runtime γ) :
    exitState (getConnector tenantId connectorId >>= f) store =
      match (store.connectors.find connectorId).filter (fun c => c.tenantId = tenantId) with
      | none => store
      | some connector => exitState (f connector) store := by
  rw [exitState_bind]
  unfold getConnector
  rw [get_bind_apply]
  cases (store.connectors.find connectorId).filter (fun c => c.tenantId = tenantId) with
  | none => rfl
  | some connector => rfl

theorem hasConnector_iff :
    HasConnector tenantId connectorId store ↔ ∃ connector,
      (store.connectors.find connectorId).filter (fun c => c.tenantId = tenantId) =
        some connector := by
  unfold HasConnector
  constructor
  · rintro ⟨c, hfind, htenant⟩
    exact ⟨c, Option.filter_eq_some_iff.mpr ⟨hfind, decide_eq_true htenant⟩⟩
  · rintro ⟨c, hc⟩
    rcases Option.filter_eq_some_iff.mp hc with ⟨hfind, htenant⟩
    exact ⟨c, hfind, of_decide_eq_true htenant⟩

theorem hasApprovedPlan_iff {approval : ApprovalRecord} (h : approval.planId ≠ 0) :
    HasApprovedPlan approval store ↔ ∃ plan,
      (store.plans.find approval.planId).filter (fun p =>
        decide (p.tenantId = approval.tenantId ∧ p.approvalId = some approval.approvalId)) =
          some plan ∧ HasConnector approval.tenantId plan.connectorId store := by
  unfold HasApprovedPlan
  constructor
  · rintro ⟨-, plan, hfind, htenant, hid, hconnector⟩
    exact ⟨plan, Option.filter_eq_some_iff.mpr ⟨hfind, decide_eq_true ⟨htenant, hid⟩⟩, hconnector⟩
  · rintro ⟨plan, hplan, hconnector⟩
    rcases Option.filter_eq_some_iff.mp hplan with ⟨hfind, hboth⟩
    rcases of_decide_eq_true hboth with ⟨htenant, hid⟩
    exact ⟨h, plan, hfind, htenant, hid, hconnector⟩

/-- A scan closes what it opens exactly when, once the lease is stored, nothing raises until the
findings are. -/
theorem runScan_closed_iff (o : Outcomes (List (ScanItem × Int))) (tenantId connectorId : Int)
    (store : RemediationStore) :
    Closed store (exitState (runScan o tenantId connectorId) store) ↔
      (o.throttle = none → HasConnector tenantId connectorId store → o.Leases store →
        o.Finishes store) := by
  unfold runScan
  rw [exitState_raises]
  by_cases hthrottle : o.throttle = none
  · rw [if_pos hthrottle, forall_prop_of_true hthrottle, exitState_getConnector, hasConnector_iff]
    cases hconnector : (store.connectors.find connectorId).filter
        (fun c => decide (c.tenantId = tenantId)) with
    | none => exact iff_of_true (closed_self store) (fun h => by simp at h)
    | some connector =>
        rw [forall_prop_of_true ⟨connector, rfl⟩]
        refine closed_iff_of_work ?_ ?_
        · rintro ⟨⟨items, hwork⟩, hresults⟩ lease worker started
          rw [exitState_returned, hwork, hresults]
          dsimp only
          rw [exitState_raises, if_pos rfl, exitState_modify_bind, exitState_replies]
          exact ⟨_, _, rfl, rfl⟩
        · intro hnot lease worker started
          exact exitState_of_not_stores hnot _
  · rw [if_neg hthrottle]
    exact iff_of_true (closed_self store) (fun h => absurd h hthrottle)

/-- The execution of a plan closes what it opens exactly when, once the lease is stored, nothing
raises until the evidence is. -/
theorem executeApprovedPlan_closed_iff (o : Outcomes Execution) (approval : ApprovalRecord)
    (store : RemediationStore) :
    Closed store (exitState (executeApprovedPlan o approval) store) ↔
      (o.throttle = none → HasApprovedPlan approval store → o.Leases store →
        o.Finishes store) := by
  unfold executeApprovedPlan
  rw [exitState_raises]
  by_cases hthrottle : o.throttle = none
  · rw [if_pos hthrottle, forall_prop_of_true hthrottle]
    by_cases hplan : approval.planId = 0
    · rw [if_pos hplan]
      exact iff_of_true (closed_self store) (fun h => absurd hplan h.1)
    · rw [if_neg hplan]
      show Closed store (exitState (get >>= _) store) ↔ _
      rw [exitState_get_bind, hasApprovedPlan_iff hplan]
      cases hfind : (store.plans.find approval.planId).filter (fun p =>
          decide (p.tenantId = approval.tenantId ∧ p.approvalId = some approval.approvalId)) with
      | none => exact iff_of_true (closed_self store) (fun h => by simp at h)
      | some plan =>
          dsimp only
          rw [exitState_getConnector]
          cases hconnector : (store.connectors.find plan.connectorId).filter
              (fun c => decide (c.tenantId = approval.tenantId)) with
          | none =>
              refine iff_of_true (closed_self store) ?_
              rintro ⟨_, hp, hc⟩
              cases hp
              rcases hasConnector_iff.mp hc with ⟨c, hc⟩
              rw [hconnector] at hc
              cases hc
          | some connector =>
              rw [forall_prop_of_true ⟨plan, rfl, hasConnector_iff.mpr ⟨connector, hconnector⟩⟩]
              refine closed_iff_of_work ?_ ?_
              · rintro ⟨⟨execution, hwork⟩, hresults⟩ lease worker started
                rw [exitState_returned, hwork, hresults]
                dsimp only
                rw [exitState_raises, if_pos rfl, exitState_modify_bind, exitState_replies]
                exact ⟨_, _, rfl, rfl⟩
              · intro hnot lease worker started
                exact exitState_of_not_stores hnot _
  · rw [if_neg hthrottle]
    exact iff_of_true (closed_self store) (fun h => absurd h hthrottle)

/-- A test of a connector closes nothing. -/
theorem testConnector_closed_iff (o : Outcomes Unit) (tenantId connectorId : Int)
    (store : RemediationStore) :
    Closed store (exitState (testConnector o tenantId connectorId) store) ↔
      (HasConnector tenantId connectorId store → ¬ o.Leases store) := by
  unfold testConnector
  rw [exitState_getConnector, hasConnector_iff]
  cases hconnector : (store.connectors.find connectorId).filter
      (fun c => decide (c.tenantId = tenantId)) with
  | none => exact iff_of_true (closed_self store) (fun h => by simp at h)
  | some connector =>
      rw [forall_prop_of_true ⟨connector, rfl⟩]
      dsimp only
      by_cases hleases : o.Leases store
      · refine iff_of_false ?_ (not_not.mpr hleases)
        rcases @leaseCredentials_of_leases _ store o tenantId connector hleases with
          ⟨lease, leased, hleased, heq⟩
        rw [exitState_bind, heq]
        refine hleased.not_closed hleases.2.2 ?_
        cases o.leaseReply with
        | some e => rfl
        | none =>
            dsimp only
            rw [exitState_raises]
            split_ifs
            · rw [exitState_modify_bind, exitState_replies]
            · rfl
      · rcases @leaseCredentials_of_not _ store o tenantId connector hleases with ⟨e, heq⟩
        rw [exitState_bind, heq]
        exact iff_of_true (closed_self store) hleases

/-! ## Plans and findings -/

/-- No executed plan waits for an approval, and no remediated finding does. -/
structure NeverPending (store : RemediationStore) : Prop where
  plans : ∀ p ∈ store.plans.rows, p.executionEvidence ≠ none → p.status ≠ .pendingApproval
  findings : ∀ f ∈ store.findings, f.status = .remediated → f.approvalStatus ≠ .pending

/-- An operation of the runtime. -/
inductive RemediationAction where
  | scan (o : Outcomes (List (ScanItem × Int))) (tenantId connectorId : Int)
  | test (o : Outcomes Unit) (tenantId connectorId : Int)
  | plan (o : Outcomes Int) (tenantId findingId : Int)
  | request (o : Outcomes String) (tenantId planId : Int)
  | execute (o : Outcomes Execution) (approval : ApprovalRecord)

/-- The tables after an operation, whether it returned or raised. -/
def remediationStep (store : RemediationStore) : RemediationAction → Option RemediationStore
  | .scan o tenantId connectorId => some (exitState (runScan o tenantId connectorId) store)
  | .test o tenantId connectorId => some (exitState (testConnector o tenantId connectorId) store)
  | .plan o tenantId findingId => some (exitState (createPlan o tenantId findingId) store)
  | .request o tenantId planId => some (exitState (requestPlanApproval o tenantId planId) store)
  | .execute o approval => some (exitState (executeApprovedPlan o approval) store)

/-- An approval is asked for a plan that was not executed, and whose finding is not
remediated. -/
def AsksInTime (store : RemediationStore) : RemediationAction → Prop
  | .request o tenantId planId =>
      o.Stores → ∀ plan, store.plans.find planId = some plan → plan.tenantId = tenantId →
        plan.executionEvidence = none ∧ ∀ f ∈ store.findings, f.id = plan.findingId →
          f.tenantId = tenantId → f.status ≠ .remediated
  | .scan _ _ _ | .test _ _ _ | .plan _ _ _ | .execute _ _ => True

/-- Tables whose plans and findings are those of others. -/
theorem NeverPending.same {store' : RemediationStore} (h : NeverPending store)
    (hplans : store'.plans = store.plans) (hfindings : store'.findings = store.findings) :
    NeverPending store' where
  plans := by
    rw [hplans]
    exact h.plans
  findings := by
    rw [hfindings]
    exact h.findings

/-- An operation with a lease and a worker ends before its work, with the plans and findings as
they were, or as its work does. -/
theorem exitState_worked {connector : Connector} {purpose : WorkerPurpose}
    {tail : Lease → WorkerRun → Runtime γ} {after : RemediationStore}
    (hafter : exitState (leaseCredentials o tenantId connector >>= fun lease =>
      createWorker o tenantId connector lease purpose >>= fun worker => tail lease worker) store =
        after) :
    (after.plans = store.plans ∧ after.findings = store.findings) ∨
      ∃ lease worker started, started.plans = store.plans ∧ started.findings = store.findings ∧
        after = exitState (tail lease worker) started := by
  subst hafter
  by_cases hleases : o.Leases store
  · rcases @leaseCredentials_of_leases α store o tenantId connector hleases with
      ⟨lease, leased, hleased, heq⟩
    rw [exitState_bind, heq]
    cases o.leaseReply with
    | some e => exact Or.inl ⟨hleased.plans, hleased.findings⟩
    | none =>
        dsimp only
        by_cases hstarts : o.Starts leased
        · rcases @createWorker_of_starts α leased o tenantId connector lease purpose hstarts with
            ⟨worker, started, hstarted, heq'⟩
          have hplans := hstarted.plans.trans hleased.plans
          have hfindings := hstarted.findings.trans hleased.findings
          rw [exitState_bind, heq']
          cases o.workerReply with
          | some e => exact Or.inl ⟨hplans, hfindings⟩
          | none =>
              cases o.workerAudit with
              | some e => exact Or.inl ⟨hplans, hfindings⟩
              | none => exact Or.inr ⟨lease, worker, started, hplans, hfindings, rfl⟩
        · rcases @createWorker_of_not α leased o tenantId connector lease purpose hstarts with
            ⟨e, heq'⟩
          rw [exitState_bind, heq']
          exact Or.inl ⟨hleased.plans, hleased.findings⟩
  · rcases @leaseCredentials_of_not α store o tenantId connector hleases with ⟨e, heq⟩
    rw [exitState_bind, heq]
    exact Or.inl ⟨rfl, rfl⟩

/-- A scan stores findings that are open. -/
theorem NeverPending.scan (h : NeverPending store) (o : Outcomes (List (ScanItem × Int)))
    (tenantId connectorId : Int) :
    NeverPending (exitState (runScan o tenantId connectorId) store) := by
  unfold runScan
  rw [exitState_raises]
  split_ifs
  · rw [exitState_getConnector]
    split
    next => exact h
    next connector _ =>
      rcases exitState_worked rfl with ⟨hplans, hfindings⟩ |
        ⟨lease, worker, started, hplans, hfindings, hafter⟩
      · exact h.same hplans hfindings
      · rw [hafter]
        have hstarted := h.same hplans hfindings
        by_cases hstores : o.Stores
        · rcases hstores with ⟨⟨items, hwork⟩, hresults⟩
          rw [exitState_returned, hwork, hresults]
          dsimp only
          rw [exitState_raises, if_pos rfl, exitState_modify_bind, exitState_replies]
          refine ⟨hstarted.plans, ?_⟩
          intro f hf hremediated
          rcases List.mem_append.mp hf with hf | hf
          · exact hstarted.findings f hf hremediated
          · rcases List.mem_map.mp hf with ⟨item, -, rfl⟩
            cases hremediated
        · rw [exitState_of_not_stores hstores]
          exact hstarted
  · exact h

/-- A test of a connector leaves plans and findings alone. -/
theorem NeverPending.test (h : NeverPending store) (o : Outcomes Unit)
    (tenantId connectorId : Int) :
    NeverPending (exitState (testConnector o tenantId connectorId) store) := by
  unfold testConnector
  rw [exitState_getConnector]
  split
  next => exact h
  next connector _ =>
    by_cases hleases : o.Leases store
    · rcases @leaseCredentials_of_leases _ store o tenantId connector hleases with
        ⟨lease, leased, hleased, heq⟩
      have hafter := h.same hleased.plans hleased.findings
      rw [exitState_bind, heq]
      cases o.leaseReply with
      | some e => exact hafter
      | none =>
          dsimp only
          rw [exitState_raises]
          split_ifs
          · rw [exitState_modify_bind, exitState_replies]
            exact hafter.same rfl rfl
          · exact hafter
    · rcases @leaseCredentials_of_not _ store o tenantId connector hleases with ⟨e, heq⟩
      rw [exitState_bind, heq]
      exact h

/-- A new plan was not executed. -/
theorem NeverPending.plan (h : NeverPending store) (o : Outcomes Int) (tenantId findingId : Int) :
    NeverPending (exitState (createPlan o tenantId findingId) store) := by
  unfold createPlan
  rw [exitState_get_bind]
  split
  next => exact h
  next finding _ =>
    by_cases hlisted : finding.fixPlan ∈ allowlistedActions finding.provider
    · rw [if_neg (not_not.mpr hlisted)]
      show NeverPending (exitState (returned o.work >>= _) store)
      rw [exitState_returned]
      split
      next id _ =>
        rw [exitState_raises]
        split_ifs
        · show NeverPending (exitState (get >>= _) store)
          rw [exitState_get_bind]
          split
          next => exact h
          next plans hplans =>
            show NeverPending (exitState (modify _ >>= _) store)
            rw [exitState_modify_bind]
            show NeverPending (exitState (raises _ >>= _) _)
            rw [exitState_replies]
            refine ⟨?_, h.findings⟩
            intro p hp hexecuted
            rcases (Table.mem_insert hplans).mp hp with hp | rfl
            · exact h.plans p hp hexecuted
            · exact absurd rfl hexecuted
        · exact h
      next => exact h
    · rw [if_pos hlisted]
      exact h

/-- An execution leaves its plan executed and its finding remediated. -/
theorem NeverPending.execution (h : NeverPending store) (approval : ApprovalRecord)
    (plan : RemediationPlan) (evidence : String) :
    NeverPending (storeExecution approval plan evidence store) where
  plans := by
    intro p hp hexecuted
    rcases mem_updateWhere.mp hp with ⟨old, hold, ⟨-, rfl⟩ | ⟨-, rfl⟩⟩
    · exact fun hpending => by cases hpending
    · exact h.plans old hold hexecuted
  findings := by
    intro f hf hremediated
    rcases mem_updateWhere.mp hf with ⟨old, hold, ⟨-, rfl⟩ | ⟨-, rfl⟩⟩
    · exact fun hpending => by cases hpending
    · exact h.findings old hold hremediated

theorem NeverPending.execute (h : NeverPending store) (o : Outcomes Execution)
    (approval : ApprovalRecord) :
    NeverPending (exitState (executeApprovedPlan o approval) store) := by
  unfold executeApprovedPlan
  rw [exitState_raises]
  split_ifs with _ hplan
  · exact h
  · show NeverPending (exitState (get >>= _) store)
    rw [exitState_get_bind]
    split
    next => exact h
    next plan _ =>
      rw [exitState_getConnector]
      split
      next => exact h
      next connector _ =>
        rcases exitState_worked rfl with ⟨hplans, hfindings⟩ |
          ⟨lease, worker, started, hplans, hfindings, hafter⟩
        · exact h.same hplans hfindings
        · rw [hafter]
          have hstarted := h.same hplans hfindings
          by_cases hstores : o.Stores
          · rcases hstores with ⟨⟨execution, hwork⟩, hresults⟩
            rw [exitState_returned, hwork, hresults]
            dsimp only
            rw [exitState_raises, if_pos rfl, exitState_modify_bind, exitState_replies]
            have hclosed : NeverPending
                (closeWorker o.now execution.evidence worker lease started) :=
              hstarted.same rfl rfl
            exact hclosed.execution approval plan execution.evidence
          · rw [exitState_of_not_stores hstores]
            exact hstarted
  · exact h

/-- A request is in time exactly when what it stores is pending for nothing that is over. -/
theorem neverPending_request_iff (h : NeverPending store) {planId : Int} {approvalId : String}
    {plan : RemediationPlan} (hfind : store.plans.find planId = some plan)
    (htenant : plan.tenantId = tenantId) :
    NeverPending (storeRequest tenantId planId approvalId plan store) ↔
      plan.executionEvidence = none ∧ ∀ f ∈ store.findings, f.id = plan.findingId →
        f.tenantId = tenantId → f.status ≠ .remediated := by
  have hkey : plan.id = planId := Table.find_key hfind
  constructor
  · intro hafter
    constructor
    · by_contra hexecuted
      exact hafter.plans _ (mem_updateWhere.mpr ⟨plan, Table.find_mem hfind,
        Or.inl ⟨decide_eq_true ⟨hkey, htenant⟩, rfl⟩⟩) hexecuted rfl
    · intro f hf hid howner hremediated
      exact hafter.findings _ (mem_updateWhere.mpr ⟨f, hf,
        Or.inl ⟨decide_eq_true ⟨hid, howner⟩, rfl⟩⟩) hremediated rfl
  · rintro ⟨hexecuted, hremediated⟩
    constructor
    · intro p hp hpast
      rcases mem_updateWhere.mp hp with ⟨old, hold, ⟨hmatch, rfl⟩ | ⟨-, rfl⟩⟩
      · have hsame : old = plan := eq_of_key store.plans.nodup hold (Table.find_mem hfind)
          ((of_decide_eq_true hmatch).1.trans hkey.symm)
        rw [hsame] at hpast
        exact absurd hexecuted hpast
      · exact h.plans old hold hpast
    · intro f hf hpast
      rcases mem_updateWhere.mp hf with ⟨old, hold, ⟨hmatch, rfl⟩ | ⟨-, rfl⟩⟩
      · rcases of_decide_eq_true hmatch with ⟨hid, howner⟩
        exact absurd hpast (hremediated old hold hid howner)
      · exact h.findings old hold hpast

theorem neverPending_requestPlanApproval_iff (h : NeverPending store) (o : Outcomes String)
    (tenantId planId : Int) :
    NeverPending (exitState (requestPlanApproval o tenantId planId) store) ↔
      AsksInTime store (.request o tenantId planId) := by
  unfold requestPlanApproval AsksInTime
  rw [exitState_get_bind]
  cases hfind : (store.plans.find planId).filter (fun p => decide (p.tenantId = tenantId)) with
  | none =>
      refine iff_of_true h ?_
      intro _ plan hplan htenant
      have hsome : (store.plans.find planId).filter (fun p => decide (p.tenantId = tenantId)) =
          some plan := Option.filter_eq_some_iff.mpr ⟨hplan, decide_eq_true htenant⟩
      rw [hfind] at hsome
      cases hsome
  | some plan =>
      rcases Option.filter_eq_some_iff.mp hfind with ⟨hplan, htenant⟩
      have hthis : (∀ p, store.plans.find planId = some p → p.tenantId = tenantId →
          p.executionEvidence = none ∧ ∀ f ∈ store.findings, f.id = p.findingId →
            f.tenantId = tenantId → f.status ≠ .remediated) ↔
          plan.executionEvidence = none ∧ ∀ f ∈ store.findings, f.id = plan.findingId →
            f.tenantId = tenantId → f.status ≠ .remediated := by
        rw [hplan]
        simp [of_decide_eq_true htenant]
      dsimp only
      by_cases hstores : o.Stores
      · rw [forall_prop_of_true hstores, hthis]
        rcases hstores with ⟨⟨approvalId, hwork⟩, hresults⟩
        rw [exitState_returned, hwork, hresults]
        dsimp only
        rw [exitState_raises, if_pos rfl, exitState_modify_bind, exitState_replies]
        exact neverPending_request_iff h hplan (of_decide_eq_true htenant)
      · rw [exitState_of_not_stores hstores]
        exact iff_of_true h (fun hs => absurd hs hstores)

/-- An operation leaves nothing that is over pending exactly when, if it asks for an approval, it
asks in time. -/
theorem remediationStep_iff {store' : RemediationStore} {a : RemediationAction}
    (h : NeverPending store) (hstep : remediationStep store a = some store') :
    NeverPending store' ↔ AsksInTime store a := by
  cases a with
  | scan o tenantId connectorId =>
      cases hstep
      exact iff_of_true (h.scan o tenantId connectorId) trivial
  | test o tenantId connectorId =>
      cases hstep
      exact iff_of_true (h.test o tenantId connectorId) trivial
  | plan o tenantId findingId =>
      cases hstep
      exact iff_of_true (h.plan o tenantId findingId) trivial
  | request o tenantId planId =>
      cases hstep
      exact neverPending_requestPlanApproval_iff h o tenantId planId
  | execute o approval =>
      cases hstep
      exact iff_of_true (h.execute o approval) trivial

/-- A scan and an execution close their lease and worker exactly when, once the lease is stored,
nothing raises until the results are; a test of a connector never closes its lease; and an
executed plan and a remediated finding never become pending again exactly when approvals are
asked for in time. -/
theorem remediation_closes_iff (scan : Outcomes (List (ScanItem × Int)))
    (execution : Outcomes Execution) (test : Outcomes Unit) (approval : ApprovalRecord)
    (tenantId connectorId : Int) (store : RemediationStore) (as : List RemediationAction) :
    (Closed store (exitState (runScan scan tenantId connectorId) store) ↔
      (scan.throttle = none → HasConnector tenantId connectorId store → scan.Leases store →
        scan.Finishes store)) ∧
    (Closed store (exitState (executeApprovedPlan execution approval) store) ↔
      (execution.throttle = none → HasApprovedPlan approval store → execution.Leases store →
        execution.Finishes store)) ∧
    (Closed store (exitState (testConnector test tenantId connectorId) store) ↔
      (HasConnector tenantId connectorId store → ¬ test.Leases store)) ∧
    (Always remediationStep NeverPending store as ↔
      NeverPending store ∧ Respects remediationStep AsksInTime store as) := by
  refine ⟨runScan_closed_iff _ _ _ _, executeApprovedPlan_closed_iff _ _ _,
    testConnector_closed_iff _ _ _ _, ?_⟩
  have htotal : ∃ t, run remediationStep store as = some t := by
    refine run_total ?_ store as
    intro store a
    cases a <;> exact ⟨_, rfl⟩
  have hiff : ∀ h : NeverPending store, Always remediationStep NeverPending store as ↔
      Respects remediationStep AsksInTime store as := by
    intro h
    refine @always_iff _ _ _ _ (fun _ => True) NeverPending ?_ _ _ trivial h htotal
    intro s a s' _ hs hstep
    exact ⟨fun _ => trivial, remediationStep_iff hs hstep⟩
  constructor
  · intro halways
    have h := halways [] as store rfl rfl
    exact ⟨h, (hiff h).mp halways⟩
  · rintro ⟨h, hrespects⟩
    exact (hiff h).mpr hrespects

end

/-! ## Operations that leave something open -/

/-- A connector, and nothing else. -/
def sampleConnectors : RemediationStore where
  connectors := ⟨[⟨1, 1, "aws", "configured", none⟩], List.nodup_singleton _⟩
  leases := .empty
  workers := .empty
  findings := []
  plans := .empty

/-- Every call but the work returns. -/
def sampleOutcomes {α : Type} (name : String) (work : Except RemediationError α) : Outcomes α where
  now := 0
  throttle := none
  issue := .ok ⟨"aws:" ++ name, 900⟩
  leaseId := "lease-" ++ name
  insertLease := none
  leaseReply := none
  workerId := "worker-" ++ name
  insertWorker := none
  workerReply := none
  workerAudit := none
  work := work
  results := none
  resultsReply := none
  audit := none

/-- What a scan reports. -/
def sampleItem : ScanItem where
  resourceId := "arn:aws:s3:::customer-public-assets"
  findingType := "s3_public_exposure"
  finding := "S3 bucket allows public access."
  recommendation := "Enable S3 Block Public Access."
  severity := "HIGH"
  proposedAction := "enable_s3_block_public_access"

/-- A finding is scanned, planned, approved and remediated; then an approval is asked for again. -/
def askAgain : List RemediationAction :=
  [.scan (sampleOutcomes "scan" (.ok [(sampleItem, 1)])) 1 1,
    .plan (sampleOutcomes "plan" (.ok 1)) 1 1,
    .request (sampleOutcomes "request" (.ok "apr-1")) 1 1,
    .execute (sampleOutcomes "execute" (.ok ⟨"applied", "before and after"⟩)) ⟨1, 1, "apr-1"⟩,
    .request (sampleOutcomes "again" (.ok "apr-2")) 1 1]

/-- A scan whose adapter raises leaves its lease and its worker open, and so does an execution; a
test of a connector leaves its lease open when nothing raises; and an approval that is asked for
again puts an executed plan back to pending. -/
theorem remediation_leaves_open :
    ¬ Closed sampleConnectors (exitState
      (runScan (sampleOutcomes "scan" (.error .other)) 1 1) sampleConnectors) ∧
    ¬ Closed sampleConnectors (exitState
      (testConnector (sampleOutcomes "test" (.ok ())) 1 1) sampleConnectors) ∧
    (run remediationStep sampleConnectors askAgain).map (fun store =>
      store.plans.rows.map (fun p => (p.executionEvidence, p.status))) =
        some [(some "before and after", .pendingApproval)] ∧
    ¬ Always remediationStep NeverPending sampleConnectors askAgain := by
  have hconnector : HasConnector 1 1 sampleConnectors := ⟨_, rfl, rfl⟩
  have hpending : (run remediationStep sampleConnectors askAgain).map (fun store =>
      store.plans.rows.map (fun p => (p.executionEvidence, p.status))) =
        some [(some "before and after", .pendingApproval)] := by
    decide +kernel
  refine ⟨?_, ?_, hpending, ?_⟩
  · rw [runScan_closed_iff]
    intro h
    rcases h rfl hconnector ⟨⟨_, rfl⟩, rfl, rfl⟩ with ⟨-, -, -, -, -, ⟨items, hwork⟩, -⟩
    cases hwork
  · rw [testConnector_closed_iff]
    intro h
    exact h hconnector ⟨⟨_, rfl⟩, rfl, rfl⟩
  · intro halways
    rcases Option.map_eq_some_iff.mp hpending with ⟨store, hrun, hplans⟩
    rcases List.map_eq_singleton_iff.mp hplans with ⟨p, hsingle, hp⟩
    injection hp with hevidence hstatus
    have hnever := halways askAgain [] store (List.append_nil _).symm hrun
    refine hnever.plans p (by simp [hsingle]) ?_ hstatus
    rw [hevidence]
    exact Option.some_ne_none _

end AuthClaw.Remediation
