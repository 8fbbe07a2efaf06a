import AuthClaw.Approvals.Handlers
import AuthClaw.Library.StepSystem
import Mathlib.Logic.Function.Basic

/-!
# Workers over one approvals table

Any number of worker processes, each with its own cache of record objects, over one
table.  A step is one statement on the table or one piece of a handler between two
of them: rows are fetched and then cached, a record is changed and written back in
full, an execution claims its row and then acts.

Main results:

- Theorems {lit}`write_inv`, {lit}`resume_inv`, {lit}`claim_inv` and {lit}`act_inv`:
  what the steps of a call in progress do.
- Theorems {lit}`create_inv` and {lit}`get_inv`: what the steps that start a call do.
- Theorem {lit}`step_keyed`: every step keeps records under their identifiers.
-/

namespace AuthClaw.Approvals

/-! ## Calls -/

/-- The handlers with an await. -/
inductive Handler where
  | approve
  | reject
  | execute
deriving DecidableEq

/-- A call of such a handler: who calls, the body that will arrive, and the
{lit}`require_mfa` it reads. -/
structure Call where
  handler : Handler
  caller : Caller
  body : Body
  requireMfa : Bool
deriving DecidableEq

/-- The checks of a handler before its await. -/
def Call.guard (call : Call) (r : Record) : Except Refusal Unit :=
  match call.handler with
  | .approve => do
      authenticated call.caller
      ensureTenantAccess r call.caller
      approveGuard r.status
  | .reject => ensureTenantAccess r call.caller
  | .execute => do
      authenticated call.caller
      ensureTenantAccess r call.caller

/-- What a call does once its writes are made. -/
inductive Next where
  | guard (call : Call)
  | body (call : Call)
  | claim (args : ClaimArgs)
  | act (args : ClaimArgs)
  | done
deriving DecidableEq

/-- A call in progress: the record object it holds and what it still has to do. -/
structure Frame where
  id : String
  obj : Nat
  pending : List Write
  next : Next

/-- An execution of an approval by a call. -/
structure Execution where
  call : Nat
  id : String
deriving DecidableEq

/-- A counter accepted for an approval at a stage. -/
structure Acceptance where
  id : String
  stage : Stage
  counter : Int
deriving DecidableEq

/-! ## Systems -/

/-- The table, the record objects of all processes, their caches and the calls that
were started.  The last three fields record what happened, newest first. -/
structure System where
  rows : String → Option Record
  issued : List String
  objects : List Record
  cache : Nat → String → Option Nat
  fetched : Nat → List Record
  started : List Nat
  frames : Nat → Option Frame
  claims : List Execution
  executions : List Execution
  accepted : List Acceptance

/-- No approval exists. -/
def System.start : System where
  rows := fun _ => none
  issued := []
  objects := []
  cache := fun _ _ => none
  fetched := fun _ => []
  started := []
  frames := fun _ => none
  claims := []
  executions := []
  accepted := []

/-- A call's progress is replaced. -/
def System.setFrame (s : System) (c : Nat) (f : Frame) : System :=
  { s with frames := Function.update s.frames c (some f) }

/-- A call is started. -/
def System.startCall (s : System) (c : Nat) (f : Frame) : System :=
  { s with started := c :: s.started }.setFrame c f

/-- A record object is created and cached. -/
def System.cacheNew (s : System) (worker : Nat) (r : Record) : System :=
  { s with
    objects := s.objects ++ [r]
    cache := Function.update s.cache worker
      (Function.update (s.cache worker) r.approvalId (some s.objects.length)) }

/-- `_persist_record`, when the statement succeeds. -/
def System.persist (s : System) (r : Record) : System :=
  { s with
    rows := Function.update s.rows r.approvalId (some (upsertRow (s.rows r.approvalId) r)) }

/-- A record object is changed, and persisted when the statement succeeds. -/
def System.writeBack (s : System) (obj : Nat) (r : Record) (stored : Bool) : System :=
  let s := { s with objects := s.objects.set obj r }
  if stored then s.persist r else s

/-- Which rows a query selects: one approval, or those of a tenant. -/
inductive Selection where
  | one (id : String)
  | all (tenant : Option Int)
deriving DecidableEq

/-- The rows of `_load_record` and `_load_all_records`. -/
def System.select (s : System) : Selection → List Record
  | .one id => (s.rows id).toList
  | .all none => s.issued.filterMap s.rows
  | .all (some t) => (s.issued.filterMap s.rows).filter (fun r => r.tenantId = some t)

/-- One step of some worker.  Listing fetches, caches every fetched row and then
gets each cached record; a missing record is fetched and cached before its call. -/
inductive Step where
  | create (worker c : Nat) (approvalId freshRequest freshCorrelation : String)
      (expiryMinutes : Int) (now : Instant) (args : CreateArgs)
  | fetch (c : Nat) (selection : Selection)
  | cacheFetched (worker c : Nat)
  | get (worker c : Nat) (id : String) (now : Instant)
  | call (worker c : Nat) (id : String) (call : Call) (now : Instant)
  | write (c : Nat) (now : Instant) (stored : Bool)
  | resume (c : Nat) (now : Instant) (executionExpiryMinutes : Int)
  | claim (c : Nat) (tokenHash : String) (now : Instant)
  | act (c : Nat) (succeeded : Bool)

/-- `create_approval` up to its first write. -/
def createStep (s : System) (worker c : Nat) (r : Record) : Option System :=
  if r.approvalId ∈ s.issued ∨ c ∈ s.started then none
  else
    some (({ s with issued := r.approvalId :: s.issued }.cacheNew worker r).startCall c {
      id := r.approvalId
      obj := s.objects.length
      pending := [.persist,
        .comment "created" "system" ("Approval created for reason: " ++ r.reason) false]
      next := .done })

/-- `get_approval` of a cached record, up to the first write of `_check_expiry`. -/
def getStep (s : System) (worker c : Nat) (id : String) (next : Next) (now : Instant) :
    Option System :=
  if c ∈ s.started then none
  else
    match s.cache worker id with
    | some obj =>
        match s.objects[obj]? with
        | some r =>
            some (s.startCall c {
              id := id, obj := obj, pending := expiryWrites r now, next := next })
        | none => none
    | none => none

/-- One item assignment: the record changes and is written back. -/
def writeStep (s : System) (c : Nat) (now : Instant) (stored : Bool) : Option System :=
  match s.frames c with
  | some ⟨id, obj, w :: rest, next⟩ =>
      match s.objects[obj]? with
      | some r => some ((s.writeBack obj (w.apply now r) stored).setFrame c ⟨id, obj, rest, next⟩)
      | none => none
  | _ => none

/-- What a check accepts and what its call goes on with. -/
structure After where
  accepted : Option Int
  pending : List Write
  next : Next

/-- A check that ends its call. -/
def After.end : After where
  accepted := none
  pending := []
  next := .done

/-- What a call goes on with after its body has arrived. -/
def afterBody (d : Deployment) (call : Call) (r : Record) (now : Instant)
    (executionExpiryMinutes : Int) : After :=
  match call.handler with
  | .approve =>
      match approveBody d call.requireMfa executionExpiryMinutes r call.caller call.body now with
      | .ok (counter, ws) => { accepted := counter, pending := ws, next := .done }
      | .error _ => After.end
  | .reject =>
      match rejectBody d r call.caller call.body with
      | .ok ws => { accepted := none, pending := ws, next := .done }
      | .error _ => After.end
  | .execute =>
      match executeBody d r call.caller call.body now with
      | .claim args => { accepted := none, pending := [], next := .claim args }
      | .expired ws => { accepted := none, pending := ws, next := .done }
      | .refused _ => After.end

/-- What a call goes on with at a check: the await, or its writes. -/
def afterCheck (d : Deployment) (r : Record) (now : Instant) (executionExpiryMinutes : Int) :
    Next → Option After
  | .guard call =>
      match call.guard r with
      | .ok () => some { accepted := none, pending := [], next := .body call }
      | .error _ => some After.end
  | .body call => some (afterBody d call r now executionExpiryMinutes)
  | _ => none

/-- The checks of a call before or after its await. -/
def resumeStep (d : Deployment) (s : System) (c : Nat) (now : Instant)
    (executionExpiryMinutes : Int) : Option System :=
  match s.frames c with
  | some ⟨id, obj, [], next⟩ =>
      match s.objects[obj]? with
      | some r =>
          (afterCheck d r now executionExpiryMinutes next).map (fun after =>
            { s with
              accepted := (after.accepted.map (Acceptance.mk id .approval)).toList ++
                s.accepted }.setFrame c ⟨id, obj, after.pending, after.next⟩)
      | none => none
  | _ => none

/-- The `UPDATE` of an execution; without a row to claim the call ends. -/
def claimStep (s : System) (c : Nat) (tokenHash : String) (now : Instant) : Option System :=
  match s.frames c with
  | some ⟨id, obj, [], .claim args⟩ =>
      match s.rows id with
      | some row =>
          if row.Claimable then
            some ({ s with
              rows := Function.update s.rows id (some (claimRow args tokenHash now row))
              claims := ⟨c, id⟩ :: s.claims
              accepted := ⟨id, .execution, args.counter⟩ :: s.accepted }.setFrame c
                ⟨id, obj, executingWrites args tokenHash, .act args⟩)
          else some (s.setFrame c ⟨id, obj, [], .done⟩)
      | none => some (s.setFrame c ⟨id, obj, [], .done⟩)
  | _ => none

/-- The provider call or the remediation action of an execution. -/
def actStep (s : System) (c : Nat) (succeeded : Bool) : Option System :=
  match s.frames c with
  | some ⟨id, obj, [], .act args⟩ =>
      some ({ s with executions := ⟨c, id⟩ :: s.executions }.setFrame c
        ⟨id, obj, outcomeWrites args succeeded, .done⟩)
  | _ => none

/-- One step. -/
def step (d : Deployment) (s : System) : Step → Option System
  | .create worker c approvalId freshRequest freshCorrelation expiryMinutes now args =>
      createStep s worker c
        (newRecord approvalId freshRequest freshCorrelation expiryMinutes now args)
  | .fetch c selection =>
      some { s with fetched := Function.update s.fetched c (s.select selection) }
  | .cacheFetched worker c =>
      match s.fetched c with
      | r :: rest =>
          some ({ s with fetched := Function.update s.fetched c rest }.cacheNew worker r)
      | [] => none
  | .get worker c id now => getStep s worker c id .done now
  | .call worker c id call now => getStep s worker c id (.guard call) now
  | .write c now stored => writeStep s c now stored
  | .resume c now executionExpiryMinutes => resumeStep d s c now executionExpiryMinutes
  | .claim c tokenHash now => claimStep s c tokenHash now
  | .act c succeeded => actStep s c succeeded

/-! ## Runs that switch calls at awaits -/

/-- The call is between two awaits, with something left to do. -/
def Frame.busy (f : Frame) : Bool :=
  !f.pending.isEmpty ||
    match f.next with
    | .claim _ => true
    | .act _ => true
    | _ => false

/-- The call a step belongs to. -/
def Step.actor : Step → Option Nat
  | .create _ c _ _ _ _ _ _ => some c
  | .fetch _ _ => none
  | .cacheFetched _ _ => none
  | .get _ c _ _ => some c
  | .call _ c _ _ _ => some c
  | .write c _ _ => some c
  | .resume c _ _ => some c
  | .claim c _ _ => some c
  | .act c _ => some c

/-- While a call is between two awaits no other call moves. -/
def Scheduled (s : System) (a : Step) : Prop :=
  ∀ c ∈ s.started, ∀ f ∈ s.frames c, f.busy = true → a.actor = some c

instance (s : System) (a : Step) : Decidable (Scheduled s a) :=
  inferInstanceAs (Decidable (∀ c ∈ s.started, ∀ f ∈ s.frames c, f.busy = true → _))

/-! ## What the steps do -/

section

variable {d : Deployment} {s s' : System} {c : Nat}

theorem create_inv {worker : Nat} {r : Record} (h : createStep s worker c r = some s') :
    r.approvalId ∉ s.issued ∧ c ∉ s.started ∧
      s' = ({ s with issued := r.approvalId :: s.issued }.cacheNew worker r).startCall c {
        id := r.approvalId
        obj := s.objects.length
        pending := [.persist,
          .comment "created" "system" ("Approval created for reason: " ++ r.reason) false]
        next := .done } := by
  unfold createStep at h
  split_ifs at h with hfresh
  push Not at hfresh
  cases h
  exact ⟨hfresh.1, hfresh.2, rfl⟩

/-- A call starts from the cached record, with the writes of its expiry. -/
theorem get_inv {worker : Nat} {id : String} {next : Next} {now : Instant}
    (h : getStep s worker c id next now = some s') :
    c ∉ s.started ∧ ∃ obj r, s.cache worker id = some obj ∧ s.objects[obj]? = some r ∧
      s' = s.startCall c {
        id := id, obj := obj, pending := expiryWrites r now, next := next } := by
  unfold getStep at h
  split_ifs at h with hstarted
  split at h
  · rename_i obj hcache
    split at h
    · rename_i r hr
      cases h
      exact ⟨hstarted, obj, r, hcache, hr, rfl⟩
    · cases h
  · cases h

/-- A write takes the first pending write of its call. -/
theorem write_inv {now : Instant} {stored : Bool} (h : writeStep s c now stored = some s') :
    ∃ id obj w rest next r, s.frames c = some ⟨id, obj, w :: rest, next⟩ ∧
      s.objects[obj]? = some r ∧
      s' = (s.writeBack obj (w.apply now r) stored).setFrame c ⟨id, obj, rest, next⟩ := by
  unfold writeStep at h
  split at h
  · rename_i id obj w rest next hframe
    split at h
    · rename_i r hr
      cases h
      exact ⟨id, obj, w, rest, next, r, hframe, hr, rfl⟩
    · cases h
  · cases h

/-- A check changes nothing but what its call goes on with. -/
theorem resume_inv {now : Instant} {minutes : Int} (h : resumeStep d s c now minutes = some s') :
    ∃ id obj next r after, s.frames c = some ⟨id, obj, [], next⟩ ∧
      s.objects[obj]? = some r ∧ afterCheck d r now minutes next = some after ∧
      s' = { s with
        accepted := (after.accepted.map (Acceptance.mk id .approval)).toList ++
          s.accepted }.setFrame c ⟨id, obj, after.pending, after.next⟩ := by
  unfold resumeStep at h
  split at h
  · rename_i id obj next hframe
    split at h
    · rename_i r hr
      rcases Option.map_eq_some_iff.mp h with ⟨after, hafter, rfl⟩
      exact ⟨id, obj, next, r, after, hframe, hr, hafter, rfl⟩
    · cases h
  · cases h

/-- A claim takes a claimable row, or ends its call. -/
theorem claim_inv {tokenHash : String} {now : Instant}
    (h : claimStep s c tokenHash now = some s') :
    ∃ id obj args, s.frames c = some ⟨id, obj, [], .claim args⟩ ∧
      ((∃ row, s.rows id = some row ∧ row.Claimable ∧
        s' = { s with
          rows := Function.update s.rows id (some (claimRow args tokenHash now row))
          claims := ⟨c, id⟩ :: s.claims
          accepted := ⟨id, .execution, args.counter⟩ :: s.accepted }.setFrame c
            ⟨id, obj, executingWrites args tokenHash, .act args⟩) ∨
        s' = s.setFrame c ⟨id, obj, [], .done⟩) := by
  unfold claimStep at h
  split at h
  · rename_i id obj args hframe
    refine ⟨id, obj, args, hframe, ?_⟩
    split at h
    · rename_i row hrow
      split_ifs at h with hclaimable
      · cases h
        exact Or.inl ⟨row, hrow, hclaimable, rfl⟩
      · cases h
        exact Or.inr rfl
    · cases h
      exact Or.inr rfl
  · cases h

theorem act_inv {succeeded : Bool} (h : actStep s c succeeded = some s') :
    ∃ id obj args, s.frames c = some ⟨id, obj, [], .act args⟩ ∧
      s' = { s with executions := ⟨c, id⟩ :: s.executions }.setFrame c
        ⟨id, obj, outcomeWrites args succeeded, .done⟩ := by
  unfold actStep at h
  split at h
  · rename_i id obj args hframe
    cases h
    exact ⟨id, obj, args, hframe, rfl⟩
  · cases h

theorem pending_of_idle {f : Frame} (h : f.busy = false) : f.pending = [] := by
  unfold Frame.busy at h
  simpa using (Bool.or_eq_false_iff.mp h).1

/-- A check does not lead to an action. -/
theorem afterCheck_next {r : Record} {now : Instant} {minutes : Int} {next : Next}
    {after : After} (h : afterCheck d r now minutes next = some after) (args : ClaimArgs) :
    after.next ≠ .act args := by
  unfold afterCheck at h
  split at h
  · split at h
    · cases h
      simp
    · cases h
      simp [After.end]
  · rename_i call
    rw [← Option.some.inj h]
    unfold afterBody
    split
    · split <;> simp [After.end]
    · split <;> simp [After.end]
    · split <;> simp [After.end]
  · cases h

/-- The parts of a system a write back leaves as they are. -/
theorem writeBack_kept (obj : Nat) (r : Record) (stored : Bool) :
    (s.writeBack obj r stored).claims = s.claims ∧
      (s.writeBack obj r stored).executions = s.executions ∧
      (s.writeBack obj r stored).frames = s.frames ∧
      (s.writeBack obj r stored).accepted = s.accepted := by
  unfold System.writeBack System.persist
  cases stored <;> exact ⟨rfl, rfl, rfl, rfl⟩

/-- The rows after a write back. -/
theorem writeBack_rows (obj : Nat) (r : Record) (stored : Bool) (id : String) :
    (s.writeBack obj r stored).rows id =
      if stored = true ∧ id = r.approvalId then some (upsertRow (s.rows id) r) else s.rows id := by
  unfold System.writeBack System.persist
  cases stored with
  | false => simp
  | true =>
      by_cases hid : id = r.approvalId
      · rw [hid]
        simp
      · simp [hid]

/-- The objects after a write back. -/
theorem writeBack_objects (obj : Nat) (r : Record) (stored : Bool) :
    (s.writeBack obj r stored).objects = s.objects.set obj r := by
  unfold System.writeBack System.persist
  cases stored <;> rfl

end

/-! ## Identifiers -/

/-- Rows, caches and calls hold records of the approval they are kept under, and every
approval was issued. -/
structure Keyed (s : System) : Prop where
  rows : ∀ id row, s.rows id = some row → row.approvalId = id ∧ id ∈ s.issued
  fetched : ∀ c, ∀ r ∈ s.fetched c, r.approvalId ∈ s.issued
  objects : ∀ r ∈ s.objects, r.approvalId ∈ s.issued
  cache : ∀ worker id obj, s.cache worker id = some obj →
    ∃ r, s.objects[obj]? = some r ∧ r.approvalId = id
  frames : ∀ c f, s.frames c = some f →
    c ∈ s.started ∧ ∃ r, s.objects[f.obj]? = some r ∧ r.approvalId = f.id

theorem start_keyed : Keyed System.start where
  rows := by simp [System.start]
  fetched := by simp [System.start]
  objects := by simp [System.start]
  cache := by simp [System.start]
  frames := by simp [System.start]

section

variable {d : Deployment} {s s' : System} {c : Nat}

theorem Keyed.select (hkeyed : Keyed s) (selection : Selection) :
    ∀ r ∈ s.select selection, r.approvalId ∈ s.issued := by
  have hrow : ∀ id r, s.rows id = some r → r.approvalId ∈ s.issued := by
    intro id r hr
    rcases hkeyed.rows id r hr with ⟨hid, hissued⟩
    rw [hid]
    exact hissued
  intro r hr
  cases selection with
  | one id => exact hrow id r (Option.mem_toList.mp hr)
  | all tenant =>
      have hmem : r ∈ s.issued.filterMap s.rows := by
        cases tenant with
        | none => exact hr
        | some t => exact List.mem_of_mem_filter hr
      rcases List.mem_filterMap.mp hmem with ⟨id, -, hid⟩
      exact hrow id r hid

/-- A new object leaves the objects before it where they were. -/
theorem Keyed.cacheNew (hkeyed : Keyed s) (worker : Nat) {r : Record}
    (hissued : r.approvalId ∈ s.issued) : Keyed (s.cacheNew worker r) := by
  have hkept : ∀ (obj : Nat) r', s.objects[obj]? = some r' →
      (s.objects ++ [r])[obj]? = some r' := by
    intro obj r' hobj
    rw [List.getElem?_append_left (List.getElem?_eq_some_iff.mp hobj).1]
    exact hobj
  refine ⟨hkeyed.rows, hkeyed.fetched, ?_, ?_, ?_⟩
  · intro r' hr'
    rcases List.mem_append.mp hr' with hr' | hr'
    · exact hkeyed.objects r' hr'
    · rw [List.mem_singleton.mp hr']
      exact hissued
  · intro worker' id obj hcache
    change ∃ r', (s.objects ++ [r])[obj]? = some r' ∧ r'.approvalId = id
    by_cases hnew : worker' = worker ∧ id = r.approvalId
    · rcases hnew with ⟨rfl, rfl⟩
      simp only [System.cacheNew, Function.update_self] at hcache
      cases hcache
      exact ⟨r, by simp, rfl⟩
    · have hold : s.cache worker' id = some obj := by
        rw [← hcache]
        by_cases hworker : worker' = worker
        · have hid : id ≠ r.approvalId := fun hid => hnew ⟨hworker, hid⟩
          rw [hworker]
          simp [System.cacheNew, hid]
        · simp [System.cacheNew, hworker]
      rcases hkeyed.cache worker' id obj hold with ⟨r', hr', hid'⟩
      exact ⟨r', hkept obj r' hr', hid'⟩
  · intro c' f hframe
    rcases hkeyed.frames c' f hframe with ⟨hstarted, r', hr', hid'⟩
    exact ⟨hstarted, r', hkept f.obj r' hr', hid'⟩

/-- While a call moves the others wait at an await or have ended. -/
theorem Keyed.idle_of_scheduled (hkeyed : Keyed s) {a : Step} (hscheduled : Scheduled s a)
    (hactor : a.actor ≠ some c) {f : Frame} (hframe : s.frames c = some f) : f.busy = false := by
  rw [Bool.eq_false_iff]
  intro hbusy
  exact hactor (hscheduled c (hkeyed.frames c f hframe).1 f hframe hbusy)

/-- A call that moves on keeps the record it holds. -/
theorem Keyed.setFrame (hkeyed : Keyed s) {f : Frame} (hstarted : c ∈ s.started)
    (hobj : ∃ r, s.objects[f.obj]? = some r ∧ r.approvalId = f.id) : Keyed (s.setFrame c f) := by
  refine ⟨hkeyed.rows, hkeyed.fetched, hkeyed.objects, hkeyed.cache, ?_⟩
  intro c' f' hframe
  simp only [System.setFrame, Function.update_apply] at hframe
  split_ifs at hframe with hc
  · cases hframe
    rw [hc]
    exact ⟨hstarted, hobj⟩
  · exact hkeyed.frames c' f' hframe

theorem Keyed.startCall (hkeyed : Keyed s) {f : Frame}
    (hobj : ∃ r, s.objects[f.obj]? = some r ∧ r.approvalId = f.id) :
    Keyed (s.startCall c f) := by
  have hstarted : Keyed { s with started := c :: s.started } := by
    refine ⟨hkeyed.rows, hkeyed.fetched, hkeyed.objects, hkeyed.cache, ?_⟩
    intro c' f' hframe
    rcases hkeyed.frames c' f' hframe with ⟨hmem, hobj'⟩
    exact ⟨List.mem_cons_of_mem _ hmem, hobj'⟩
  exact hstarted.setFrame List.mem_cons_self hobj

/-- A write back keeps the identifier of its record. -/
theorem Keyed.writeBack (hkeyed : Keyed s) {obj : Nat} {r r' : Record} (stored : Bool)
    (hr : s.objects[obj]? = some r) (hid : r'.approvalId = r.approvalId) :
    Keyed (s.writeBack obj r' stored) := by
  have hissued : r'.approvalId ∈ s.issued := by
    rw [hid]
    exact hkeyed.objects r (List.mem_of_getElem? hr)
  have hheld : ∀ (o : Nat) id, (∃ q, s.objects[o]? = some q ∧ q.approvalId = id) →
      ∃ q, (s.writeBack obj r' stored).objects[o]? = some q ∧ q.approvalId = id := by
    intro o id ⟨q, hq, hqid⟩
    rw [writeBack_objects]
    by_cases ho : obj = o
    · refine ⟨r', ?_, ?_⟩
      · rw [List.getElem?_set, if_pos ho, if_pos (List.getElem?_eq_some_iff.mp hr).1]
      · rw [hid, ← hqid]
        rw [ho, hq] at hr
        cases hr
        rfl
    · exact ⟨q, by rw [List.getElem?_set_ne ho, hq], hqid⟩
  have hsame : (s.writeBack obj r' stored).issued = s.issued ∧
      (s.writeBack obj r' stored).fetched = s.fetched ∧
      (s.writeBack obj r' stored).cache = s.cache ∧
      (s.writeBack obj r' stored).frames = s.frames ∧
      (s.writeBack obj r' stored).started = s.started := by
    unfold System.writeBack System.persist
    cases stored <;> exact ⟨rfl, rfl, rfl, rfl, rfl⟩
  rcases hsame with ⟨hissuedEq, hfetchedEq, hcacheEq, hframesEq, hstartedEq⟩
  refine ⟨?_, ?_, ?_, ?_, ?_⟩
  · intro id row hrow
    rw [writeBack_rows] at hrow
    rw [hissuedEq]
    split_ifs at hrow with hwritten
    · cases hrow
      rw [upsertRow_approvalId, hwritten.2]
      exact ⟨rfl, hissued⟩
    · exact hkeyed.rows id row hrow
  · rw [hfetchedEq, hissuedEq]
    exact hkeyed.fetched
  · intro q hq
    rw [writeBack_objects] at hq
    rw [hissuedEq]
    rcases List.mem_or_eq_of_mem_set hq with hq | rfl
    · exact hkeyed.objects q hq
    · exact hissued
  · intro worker id o hcache
    rw [hcacheEq] at hcache
    exact hheld o id (hkeyed.cache worker id o hcache)
  · intro c' f hframe
    rw [hframesEq] at hframe
    rw [hstartedEq]
    rcases hkeyed.frames c' f hframe with ⟨hstarted, hobj⟩
    exact ⟨hstarted, hheld f.obj f.id hobj⟩

/-- Every step keeps the identifiers in place. -/
theorem step_keyed {a : Step} (hkeyed : Keyed s) (h : step d s a = some s') : Keyed s' := by
  cases a with
  | create worker c approvalId freshRequest freshCorrelation expiryMinutes now args =>
      rcases create_inv h with ⟨-, -, rfl⟩
      have hissued : Keyed { s with issued := approvalId :: s.issued } := by
        refine ⟨?_, ?_, ?_, hkeyed.cache, hkeyed.frames⟩
        · intro id row hrow
          rcases hkeyed.rows id row hrow with ⟨hid, hmem⟩
          exact ⟨hid, List.mem_cons_of_mem _ hmem⟩
        · intro c' r hr
          exact List.mem_cons_of_mem _ (hkeyed.fetched c' r hr)
        · intro r hr
          exact List.mem_cons_of_mem _ (hkeyed.objects r hr)
      apply Keyed.startCall (hissued.cacheNew worker List.mem_cons_self)
      exact ⟨newRecord approvalId freshRequest freshCorrelation expiryMinutes now args,
        by simp [System.cacheNew], rfl⟩
  | fetch c selection =>
      cases h
      refine ⟨hkeyed.rows, ?_, hkeyed.objects, hkeyed.cache, hkeyed.frames⟩
      intro c' r hr
      simp only [Function.update_apply] at hr
      split_ifs at hr with hc
      · exact hkeyed.select selection r hr
      · exact hkeyed.fetched c' r hr
  | cacheFetched worker c =>
      simp only [step] at h
      split at h
      · rename_i r rest hfetched
        cases h
        have hrest : Keyed { s with fetched := Function.update s.fetched c rest } := by
          refine ⟨hkeyed.rows, ?_, hkeyed.objects, hkeyed.cache, hkeyed.frames⟩
          intro c' r' hr'
          simp only [Function.update_apply] at hr'
          split_ifs at hr' with hc
          · exact hkeyed.fetched c r' (by rw [hfetched]; exact List.mem_cons_of_mem _ hr')
          · exact hkeyed.fetched c' r' hr'
        exact hrest.cacheNew worker (hkeyed.fetched c r (by rw [hfetched]; simp))
      · cases h
  | get worker c id now =>
      rcases get_inv h with ⟨-, obj, r, hcache, hr, rfl⟩
      exact hkeyed.startCall (hkeyed.cache worker id obj hcache)
  | call worker c id call now =>
      rcases get_inv h with ⟨-, obj, r, hcache, hr, rfl⟩
      exact hkeyed.startCall (hkeyed.cache worker id obj hcache)
  | write c now stored =>
      rcases write_inv h with ⟨id, obj, w, rest, next, r, hframe, hr, rfl⟩
      have hback := hkeyed.writeBack stored hr (apply_approvalId now r w)
      have hframe' : (s.writeBack obj (w.apply now r) stored).frames c =
          some ⟨id, obj, w :: rest, next⟩ := by
        rw [(writeBack_kept obj (w.apply now r) stored).2.2.1]
        exact hframe
      rcases hback.frames c _ hframe' with ⟨hstarted, hobj⟩
      exact hback.setFrame hstarted hobj
  | resume c now executionExpiryMinutes =>
      rcases resume_inv h with ⟨id, obj, next, r, after, hframe, hr, hafter, rfl⟩
      have haccepted : Keyed { s with
          accepted := (after.accepted.map (Acceptance.mk id .approval)).toList ++ s.accepted } :=
        ⟨hkeyed.rows, hkeyed.fetched, hkeyed.objects, hkeyed.cache, hkeyed.frames⟩
      rcases hkeyed.frames c _ hframe with ⟨hstarted, hobj⟩
      exact haccepted.setFrame hstarted hobj
  | claim c tokenHash now =>
      rcases claim_inv h with ⟨id, obj, args, hframe, ⟨row, hrow, -, rfl⟩ | rfl⟩
      · rcases hkeyed.frames c _ hframe with ⟨hstarted, hobj⟩
        have hclaimed : Keyed { s with
            rows := Function.update s.rows id (some (claimRow args tokenHash now row))
            claims := ⟨c, id⟩ :: s.claims
            accepted := ⟨id, .execution, args.counter⟩ :: s.accepted } := by
          refine ⟨?_, hkeyed.fetched, hkeyed.objects, hkeyed.cache, hkeyed.frames⟩
          intro id' row' hrow'
          simp only [Function.update_apply] at hrow'
          split_ifs at hrow' with hid
          · cases hrow'
            rw [hid]
            exact hkeyed.rows id row hrow
          · exact hkeyed.rows id' row' hrow'
        exact hclaimed.setFrame hstarted hobj
      · rcases hkeyed.frames c _ hframe with ⟨hstarted, hobj⟩
        exact hkeyed.setFrame hstarted hobj
  | act c succeeded =>
      rcases act_inv h with ⟨id, obj, args, hframe, rfl⟩
      rcases hkeyed.frames c _ hframe with ⟨hstarted, hobj⟩
      have hacted : Keyed { s with executions := ⟨c, id⟩ :: s.executions } :=
        ⟨hkeyed.rows, hkeyed.fetched, hkeyed.objects, hkeyed.cache, hkeyed.frames⟩
      exact hacted.setFrame hstarted hobj

end

end AuthClaw.Approvals
