import AuthClaw.Approvals.ActionPayload
import AuthClaw.Approvals.SingleExecution
import AuthClaw.Library.Rows

/-!
# The payload from creation to execution

The runs of workers with the metadata of every record object, the metadata column of
every row, and the remediation plans.  A write stores the metadata of its object, a
fetched row brings its own, and the hash of the payload is taken where an approval and an
execution have made their writes.

Main results:

- Theorem {lit}`handle_copies`: a step of a worker keeps every copy of a record as it was
  created.
- Theorem {lit}`move_inv`: so does every step, with the plans.
- Theorem {lit}`requested_plan_performed`: an approval that was requested for a plan performs
  that plan, whose action its payload shows.
- Theorem {lit}`payload_fixed`: the payload is the same from creation to execution, and
  names what is executed.
-/

namespace AuthClaw.Approvals

open PythonText JsonReader StepSystem

/-! ## Systems -/

/-- A deployment with the calls a payload goes through. -/
structure PayloadDeployment where
  deployment : Deployment
  calls : PayloadCalls

/-- An approval as it was created, and the plans there were. -/
structure Creation where
  record : Record
  metadata : Json
  plans : List Plan

/-- A hash taken for an approval at a stage. -/
structure Hashed where
  id : String
  stage : Stage
  hash : Option String

/-- An action a call came to perform for an approval, whether it succeeded or not. -/
structure Performance where
  call : Nat
  id : String
  action : Performed

/-- The system with the metadata of its objects, of its rows and of the fetched rows, and
the plans.  The last three fields record what happened, newest first. -/
structure PayloadSystem where
  core : System
  metadata : List Json
  columns : String → Option (List Char)
  fetched : Nat → List (Option Json)
  plans : List Plan
  created : List Creation
  hashed : List Hashed
  performed : List Performance

/-- No approval and no plan exists. -/
def PayloadSystem.start : PayloadSystem where
  core := System.start
  metadata := []
  columns := fun _ => none
  fetched := fun _ => []
  plans := []
  created := []
  hashed := []
  performed := []

/-- A step of a worker, the creation of an approval with its metadata, and the statements
on the plans before an execution. -/
inductive Move (float : String → String × Bool) where
  | create (worker c : Nat) (approvalId freshRequest freshCorrelation : String)
      (expiryMinutes : Int) (now : Instant) (args : CreateArgs)
      (metadata : Option (Dictionary float))
  | handle (a : Step)
  | createPlan (columns : PlanColumns)
  | bindPlan (planId tenantId : Int) (approvalId : String)

/-- `metadata["execution_target"]` as a record keeps it. -/
def executionTargetOf (metadata : Json) : Option String :=
  match field metadata "execution_target" with
  | some (.str target) => some target
  | _ => none

/-- The record a creation stores. -/
def createdRecord (approvalId freshRequest freshCorrelation : String) (expiryMinutes : Int)
    (now : Instant) (args : CreateArgs) (metadata : Json) : Record :=
  newRecord approvalId freshRequest freshCorrelation expiryMinutes now
    { args with executionTarget := executionTargetOf metadata }

/-- The stage whose payload is hashed once a write is made: the last writes before the
audit events of approve and execute. -/
def Write.hashStage : Write → Option Stage
  | .lastActionAt .approvedAt => some .approval
  | .lastActionAt .executionTokenUsedAt => some .execution
  | _ => none

/-- `UPDATE remediation_plans SET approval_id = ... WHERE id = ... AND tenant_id = ...`. -/
def bindPlans (plans : List Plan) (planId tenantId : Int) (approvalId : String) : List Plan :=
  Rows.updateWhere (fun p => p.columns.id = planId ∧ p.columns.tenantId = tenantId)
    (fun p => p.requested approvalId) plans

/-- The plans after an action that succeeded. -/
def finishPlans (plans : List Plan) : Performed → List Plan
  | .query _ => plans
  | .plan q =>
      Rows.updateWhere
        (fun p => p.columns.id = q.columns.id ∧ p.columns.tenantId = q.columns.tenantId)
        Plan.executed plans

section

variable (d : PayloadDeployment)

/-- The object a call holds, with its metadata. -/
def PayloadSystem.held (s : PayloadSystem) (c : Nat) : Option (Frame × Record × Json) := do
  let f ← s.core.frames c
  let r ← s.core.objects[f.obj]?
  let metadata ← s.metadata[f.obj]?
  return (f, r, metadata)

/-- A write stores the metadata of its object with the rest of the row; where the payload
is hashed the hash is noted. -/
def writeMetadata (s : PayloadSystem) (core : System) (c : Nat) (now : Instant) (stored : Bool) :
    Option PayloadSystem :=
  match s.held c with
  | some (⟨_, _, w :: _, _⟩, r, metadata) =>
      some { s with
        core := core
        columns :=
          if stored then Function.update s.columns r.approvalId (some (dumps metadata))
          else s.columns
        hashed :=
          (w.hashStage.map (fun stage =>
            { id := r.approvalId, stage := stage,
              hash := actionPayloadHash d.calls (w.apply now r) metadata : Hashed })).toList ++
            s.hashed }
  | _ => none

/-- An action performs what the held record stands for; it does not succeed where it does
not come to that. -/
def performAction (s : PayloadSystem) (core : System) (c : Nat) (succeeded : Bool) :
    Option PayloadSystem :=
  match s.held c with
  | some (_, r, metadata) =>
      match performedBy d.calls s.plans r metadata with
      | some action =>
          some { s with
            core := core
            plans := if succeeded then finishPlans s.plans action else s.plans
            performed := ⟨c, r.approvalId, action⟩ :: s.performed }
      | none => if succeeded then none else some { s with core := core }
  | none => none

/-- What a step of a worker does beside the records.  A row whose metadata cannot be
loaded is not cached. -/
def handleStep (s : PayloadSystem) (core : System) : Step → Option PayloadSystem
  | .create _ _ _ _ _ _ _ _ => none
  | .fetch c selection =>
      some { s with
        core := core
        fetched := Function.update s.fetched c
          ((s.core.select selection).map
            (fun r => loadMetadata d.calls (s.columns r.approvalId))) }
  | .cacheFetched _ c =>
      match s.fetched c with
      | some metadata :: rest =>
          some { s with
            core := core
            metadata := s.metadata ++ [metadata]
            fetched := Function.update s.fetched c rest }
      | _ => none
  | .write c now stored => writeMetadata d s core c now stored
  | .act c succeeded => performAction d s core c succeeded
  | _ => some { s with core := core }

/-- One step. -/
def move (s : PayloadSystem) : Move d.calls.float → Option PayloadSystem
  | .create worker c approvalId freshRequest freshCorrelation expiryMinutes now args metadata =>
      let r := createdRecord approvalId freshRequest freshCorrelation expiryMinutes now args
        (metadataOr metadata)
      (createStep s.core worker c r).map (fun core =>
        { s with
          core := core
          metadata := s.metadata ++ [metadataOr metadata]
          created := ⟨r, metadataOr metadata, s.plans⟩ :: s.created })
  | .handle a => (step d.deployment s.core a).bind (fun core => handleStep d s core a)
  | .createPlan columns =>
      if columns.id ∈ s.plans.map (fun p => p.columns.id) then none
      else
        some { s with
          plans := s.plans ++ [{ columns := columns, status := "planned", approvalId := none }] }
  | .bindPlan planId tenantId approvalId =>
      some { s with plans := bindPlans s.plans planId tenantId approvalId }

end

/-! ## What the steps do -/

section

variable {d : PayloadDeployment} {s s' : PayloadSystem} {core : System} {c : Nat}

theorem held_eq_some {f : Frame} {r : Record} {metadata : Json} :
    s.held c = some (f, r, metadata) ↔ s.core.frames c = some f ∧
      s.core.objects[f.obj]? = some r ∧ s.metadata[f.obj]? = some metadata := by
  unfold PayloadSystem.held
  simp only [Option.bind_eq_bind, Option.bind_eq_some_iff, Option.pure_def, Option.some.injEq,
    Prod.mk.injEq]
  constructor
  · rintro ⟨f', hf, r', hr, metadata', hmetadata, rfl, rfl, rfl⟩
    exact ⟨hf, hr, hmetadata⟩
  · rintro ⟨hf, hr, hmetadata⟩
    exact ⟨f, hf, r, hr, metadata, hmetadata, rfl, rfl, rfl⟩

theorem writeMetadata_inv {now : Instant} {stored : Bool}
    (h : writeMetadata d s core c now stored = some s') :
    ∃ id obj w rest next r metadata, s.core.frames c = some ⟨id, obj, w :: rest, next⟩ ∧
      s.core.objects[obj]? = some r ∧ s.metadata[obj]? = some metadata ∧
      s' = { s with
        core := core
        columns :=
          if stored then Function.update s.columns r.approvalId (some (dumps metadata))
          else s.columns
        hashed :=
          (w.hashStage.map (fun stage =>
            { id := r.approvalId, stage := stage,
              hash := actionPayloadHash d.calls (w.apply now r) metadata : Hashed })).toList ++
            s.hashed } := by
  unfold writeMetadata at h
  split at h
  · rename_i id obj w rest next r metadata hheld
    cases h
    rcases held_eq_some.mp hheld with ⟨hframe, hr, hmetadata⟩
    exact ⟨id, obj, w, rest, next, r, metadata, hframe, hr, hmetadata, rfl⟩
  · cases h

/-- A fetched row becomes an object with the metadata it brought. -/
theorem cacheFetched_inv {worker : Nat}
    (hstep : step d.deployment s.core (.cacheFetched worker c) = some core)
    (h : handleStep d s core (.cacheFetched worker c) = some s') :
    ∃ r records metadata loaded, s.core.fetched c = r :: records ∧
      s.fetched c = some metadata :: loaded ∧
      s' = { s with
        core := { s.core with
          fetched := Function.update s.core.fetched c records }.cacheNew worker r
        metadata := s.metadata ++ [metadata]
        fetched := Function.update s.fetched c loaded } := by
  simp only [step] at hstep
  split at hstep
  · rename_i r records hfetched
    cases hstep
    simp only [handleStep] at h
    split at h
    · rename_i metadata loaded hloaded
      cases h
      exact ⟨r, records, metadata, loaded, hfetched, hloaded, rfl⟩
    · cases h
  · cases hstep

/-- An action is performed for the held record, or nothing is. -/
theorem performAction_inv {succeeded : Bool}
    (h : performAction d s core c succeeded = some s') :
    ∃ f r metadata, s.core.frames c = some f ∧ s.core.objects[f.obj]? = some r ∧
      s.metadata[f.obj]? = some metadata ∧
      ((∃ action, performedBy d.calls s.plans r metadata = some action ∧
        s' = { s with
          core := core
          plans := if succeeded then finishPlans s.plans action else s.plans
          performed := ⟨c, r.approvalId, action⟩ :: s.performed }) ∨
        s' = { s with core := core }) := by
  unfold performAction at h
  split at h
  · rename_i f r metadata hheld
    rcases held_eq_some.mp hheld with ⟨hframe, hr, hmetadata⟩
    refine ⟨f, r, metadata, hframe, hr, hmetadata, ?_⟩
    split at h
    · rename_i action haction
      cases h
      exact Or.inl ⟨action, haction, rfl⟩
    · split_ifs at h
      cases h
      exact Or.inr rfl
  · cases h

/-! ## Copies -/

/-- A record with its metadata is what it was when its approval was created. -/
def AsCreated (s : PayloadSystem) (r : Record) (metadata : Json) : Prop :=
  ∃ creation ∈ s.created,
    creation.record.hashedFields = r.hashedFields ∧ creation.metadata = metadata

/-- Every object, every row and every fetched row is a copy of its approval as it was
created; the metadata of a row is the text of the metadata. -/
structure Copies (d : PayloadDeployment) (s : PayloadSystem) : Prop where
  json : ∀ creation ∈ s.created, IsJson d.calls.float creation.metadata
  length : s.metadata.length = s.core.objects.length
  objects : ∀ (i : Nat) r metadata, s.core.objects[i]? = some r → s.metadata[i]? = some metadata →
    AsCreated s r metadata
  rows : ∀ id row, s.core.rows id = some row →
    ∃ metadata, AsCreated s row metadata ∧ s.columns id = some (dumps metadata)
  fetched : ∀ c, List.Forall₂ (fun r loaded => ∃ metadata, loaded = some metadata ∧
    AsCreated s r metadata) (s.core.fetched c) (s.fetched c)

theorem start_copies : Copies d PayloadSystem.start where
  json := by simp [PayloadSystem.start]
  length := rfl
  objects := by simp [PayloadSystem.start, System.start]
  rows := by simp [PayloadSystem.start, System.start]
  fetched := fun _ => List.Forall₂.nil

theorem AsCreated.of_fields {r r' : Record} {metadata : Json} (h : AsCreated s r metadata)
    (hfields : r'.hashedFields = r.hashedFields) : AsCreated s r' metadata := by
  rcases h with ⟨creation, hcreation, hrecord, hmetadata⟩
  exact ⟨creation, hcreation, hrecord.trans hfields.symm, hmetadata⟩

/-- A copy has the payload of its creation. -/
theorem AsCreated.payload {r : Record} {metadata : Json} (h : AsCreated s r metadata) :
    ∃ creation ∈ s.created, creation.record.approvalId = r.approvalId ∧
      actionPayload creation.record creation.metadata = actionPayload r metadata := by
  rcases h with ⟨creation, hcreation, hfields, rfl⟩
  exact ⟨creation, hcreation, hashedFields_approvalId hfields, actionPayload_congr hfields _⟩

/-- The metadata of a copy is loaded as it was stored. -/
theorem Copies.load (hcopies : Copies d s) {r : Record} {metadata : Json}
    (h : AsCreated s r metadata) :
    loadMetadata d.calls (some (dumps metadata)) = some metadata := by
  rcases h with ⟨creation, hcreation, -, rfl⟩
  exact loadMetadata_dumps (hcopies.json creation hcreation)

/-- A step that leaves objects and rows alone. -/
theorem Copies.keep (hcopies : Copies d s) (hobjects : s'.core.objects = s.core.objects)
    (hrows : s'.core.rows = s.core.rows) (hcore : s'.core.fetched = s.core.fetched)
    (hmetadata : s'.metadata = s.metadata) (hcolumns : s'.columns = s.columns)
    (hfetched : s'.fetched = s.fetched) (hcreated : s'.created = s.created) : Copies d s' := by
  have hsame : ∀ r metadata, AsCreated s' r metadata ↔ AsCreated s r metadata := by
    intro r metadata
    unfold AsCreated
    rw [hcreated]
  refine ⟨?_, ?_, ?_, ?_, ?_⟩
  · rw [hcreated]
    exact hcopies.json
  · rw [hmetadata, hobjects]
    exact hcopies.length
  · intro i r metadata hr hm
    rw [hobjects] at hr
    rw [hmetadata] at hm
    exact (hsame r metadata).mpr (hcopies.objects i r metadata hr hm)
  · intro id row hrow
    rw [hrows] at hrow
    rw [hcolumns]
    rcases hcopies.rows id row hrow with ⟨metadata, hrecord, hcolumn⟩
    exact ⟨metadata, (hsame row metadata).mpr hrecord, hcolumn⟩
  · intro c'
    rw [hcore, hfetched]
    refine (hcopies.fetched c').imp ?_
    rintro r loaded ⟨metadata, hloaded, hrecord⟩
    exact ⟨metadata, hloaded, (hsame r metadata).mpr hrecord⟩

/-- An approval is created. -/
theorem Copies.create (hcopies : Copies d s) {creation : Creation}
    (hjson : IsJson d.calls.float creation.metadata) :
    Copies d { s with created := creation :: s.created } := by
  have hmore : ∀ r metadata, AsCreated s r metadata →
      AsCreated { s with created := creation :: s.created } r metadata := by
    rintro r metadata ⟨old, hold, hrecord⟩
    exact ⟨old, List.mem_cons_of_mem _ hold, hrecord⟩
  refine ⟨?_, hcopies.length, ?_, ?_, ?_⟩
  · intro old hold
    rcases List.mem_cons.mp hold with rfl | hold
    · exact hjson
    · exact hcopies.json old hold
  · intro i r metadata hr hmetadata
    exact hmore r metadata (hcopies.objects i r metadata hr hmetadata)
  · intro id row hrow
    rcases hcopies.rows id row hrow with ⟨metadata, hrecord, hcolumn⟩
    exact ⟨metadata, hmore row metadata hrecord, hcolumn⟩
  · intro c'
    refine (hcopies.fetched c').imp ?_
    rintro r loaded ⟨metadata, hloaded, hrecord⟩
    exact ⟨metadata, hloaded, hmore r metadata hrecord⟩

/-- A new object with its metadata. -/
theorem Copies.cacheNew (hcopies : Copies d s) (worker : Nat) {r : Record} {metadata : Json}
    (hcreated : AsCreated s r metadata) :
    Copies d { s with
      core := s.core.cacheNew worker r
      metadata := s.metadata ++ [metadata] } := by
  refine ⟨hcopies.json, ?_, ?_, hcopies.rows, hcopies.fetched⟩
  · simp [System.cacheNew, hcopies.length]
  · intro i r' metadata' hr hmetadata
    change (s.core.objects ++ [r])[i]? = some r' at hr
    rcases Nat.lt_trichotomy i s.core.objects.length with hi | hi | hi
    · rw [List.getElem?_append_left hi] at hr
      rw [List.getElem?_append_left (by rw [hcopies.length]; exact hi)] at hmetadata
      exact hcopies.objects i r' metadata' hr hmetadata
    · subst hi
      rw [← hcopies.length, List.getElem?_concat_length] at hmetadata
      rw [List.getElem?_concat_length] at hr
      cases hr
      cases hmetadata
      exact hcreated
    · rw [List.getElem?_eq_none (by simp; omega)] at hr
      cases hr

/-- What a query selects are rows. -/
theorem mem_select {core : System} {selection : Selection} {r : Record}
    (h : r ∈ core.select selection) : ∃ id, core.rows id = some r := by
  cases selection with
  | one id => exact ⟨id, Option.mem_toList.mp h⟩
  | all tenant =>
      have hmem : r ∈ core.issued.filterMap core.rows := by
        cases tenant with
        | none => exact h
        | some t => exact List.mem_of_mem_filter h
      rcases List.mem_filterMap.mp hmem with ⟨id, -, hid⟩
      exact ⟨id, hid⟩

/-- Fetched rows bring the metadata they were stored with. -/
theorem Copies.fetch (hcopies : Copies d s) (hkeyed : Keyed s.core) (c : Nat)
    (selection : Selection) :
    Copies d { s with
      core := { s.core with
        fetched := Function.update s.core.fetched c (s.core.select selection) }
      fetched := Function.update s.fetched c
        ((s.core.select selection).map
          (fun r => loadMetadata d.calls (s.columns r.approvalId))) } := by
  refine ⟨hcopies.json, hcopies.length, hcopies.objects, hcopies.rows, ?_⟩
  intro c'
  simp only [Function.update_apply]
  by_cases hc : c' = c
  · rw [if_pos hc, if_pos hc, List.forall₂_map_right_iff]
    apply List.forall₂_same.mpr
    intro r hr
    rcases mem_select hr with ⟨id, hrow⟩
    rcases hcopies.rows id r hrow with ⟨metadata, hcreated, hcolumn⟩
    rw [(hkeyed.rows id r hrow).1, hcolumn]
    exact ⟨metadata, hcopies.load hcreated, hcreated⟩
  · rw [if_neg hc, if_neg hc]
    exact hcopies.fetched c'

/-- A fetched row is cached with the metadata it was stored with. -/
theorem Copies.cacheFetched (hcopies : Copies d s) (worker : Nat) {r : Record}
    {records : List Record} {metadata : Json} {loaded : List (Option Json)}
    (hrecords : s.core.fetched c = r :: records) (hloaded : s.fetched c = some metadata :: loaded) :
    Copies d { s with
      core := { s.core with
        fetched := Function.update s.core.fetched c records }.cacheNew worker r
      metadata := s.metadata ++ [metadata]
      fetched := Function.update s.fetched c loaded } := by
  have hrows := hcopies.fetched c
  rw [hrecords, hloaded] at hrows
  cases hrows with
  | cons hhead htail =>
      rcases hhead with ⟨metadata', heq, hcreated⟩
      cases heq
      have hrest : Copies d { s with
          core := { s.core with fetched := Function.update s.core.fetched c records }
          fetched := Function.update s.fetched c loaded } := by
        refine ⟨hcopies.json, hcopies.length, hcopies.objects, hcopies.rows, ?_⟩
        intro c'
        simp only [Function.update_apply]
        by_cases hc : c' = c
        · rw [if_pos hc, if_pos hc]
          exact htail
        · rw [if_neg hc, if_neg hc]
          exact hcopies.fetched c'
      exact hrest.cacheNew worker hcreated

/-- A write puts a copy back with its metadata. -/
theorem Copies.write (hcopies : Copies d s) {obj : Nat} {r : Record} {metadata : Json}
    (hr : s.core.objects[obj]? = some r) (hmetadata : s.metadata[obj]? = some metadata)
    (now : Instant) (w : Write) (stored : Bool) :
    Copies d { s with
      core := s.core.writeBack obj (w.apply now r) stored
      columns :=
        if stored then Function.update s.columns r.approvalId (some (dumps metadata))
        else s.columns } := by
  have hcreated : AsCreated s (w.apply now r) metadata :=
    (hcopies.objects obj r metadata hr hmetadata).of_fields (apply_hashedFields now r w)
  refine ⟨hcopies.json, ?_, ?_, ?_, ?_⟩
  · change s.metadata.length = (s.core.writeBack obj (w.apply now r) stored).objects.length
    rw [writeBack_objects, List.length_set]
    exact hcopies.length
  · intro i r' metadata' hr' hmetadata'
    change (s.core.writeBack obj (w.apply now r) stored).objects[i]? = some r' at hr'
    rw [writeBack_objects] at hr'
    by_cases hi : obj = i
    · subst hi
      rw [List.getElem?_set_self (List.getElem?_eq_some_iff.mp hr).1] at hr'
      cases hr'
      rw [hmetadata] at hmetadata'
      cases hmetadata'
      exact hcreated
    · rw [List.getElem?_set_ne hi] at hr'
      exact hcopies.objects i r' metadata' hr' hmetadata'
  · intro id row hrow
    change (s.core.writeBack obj (w.apply now r) stored).rows id = some row at hrow
    rw [writeBack_rows, apply_approvalId] at hrow
    by_cases hwritten : stored = true ∧ id = r.approvalId
    · rw [if_pos hwritten] at hrow
      cases hrow
      refine ⟨metadata, hcreated.of_fields (upsertRow_hashedFields _ _), ?_⟩
      rw [hwritten.1, hwritten.2]
      exact Function.update_self _ _ _
    · rw [if_neg hwritten] at hrow
      rcases hcopies.rows id row hrow with ⟨metadata', hcreated', hcolumn⟩
      refine ⟨metadata', hcreated', ?_⟩
      cases stored with
      | false => exact hcolumn
      | true =>
          have hid : id ≠ r.approvalId := fun hid => hwritten ⟨rfl, hid⟩
          exact (Function.update_of_ne hid _ _).trans hcolumn
  · intro c'
    have hfetched : (s.core.writeBack obj (w.apply now r) stored).fetched = s.core.fetched := by
      unfold System.writeBack System.persist
      cases stored <;> rfl
    change List.Forall₂ _ ((s.core.writeBack obj (w.apply now r) stored).fetched c') _
    rw [hfetched]
    exact hcopies.fetched c'

/-- A claim leaves the hashed fields of its row and the metadata. -/
theorem Copies.claim (hcopies : Copies d s) {id : String} {row : Record}
    (hrow : s.core.rows id = some row) (args : ClaimArgs) (tokenHash : String) (now : Instant) :
    Copies d { s with core := { s.core with
      rows := Function.update s.core.rows id (some (claimRow args tokenHash now row)) } } := by
  refine ⟨hcopies.json, hcopies.length, hcopies.objects, ?_, hcopies.fetched⟩
  intro id' row' hrow'
  simp only [Function.update_apply] at hrow'
  by_cases hid : id' = id
  · rw [if_pos hid] at hrow'
    cases hrow'
    rw [hid]
    rcases hcopies.rows id row hrow with ⟨metadata, hcreated, hcolumn⟩
    exact ⟨metadata, hcreated.of_fields rfl, hcolumn⟩
  · rw [if_neg hid] at hrow'
    exact hcopies.rows id' row' hrow'

/-- A step of a worker keeps every copy as it was created. -/
theorem handle_copies {a : Step} (hcopies : Copies d s) (hkeyed : Keyed s.core)
    (hstep : step d.deployment s.core a = some core) (h : handleStep d s core a = some s') :
    Copies d s' := by
  cases a with
  | create worker c approvalId freshRequest freshCorrelation expiryMinutes now args => cases h
  | fetch c selection =>
      cases hstep
      cases h
      exact hcopies.fetch hkeyed c selection
  | cacheFetched worker c =>
      rcases cacheFetched_inv hstep h with ⟨r, records, metadata, loaded, hrecords, hloaded, rfl⟩
      exact hcopies.cacheFetched worker hrecords hloaded
  | get worker c id now =>
      rcases get_inv hstep with ⟨-, obj, r, -, -, rfl⟩
      cases h
      exact hcopies.keep rfl rfl rfl rfl rfl rfl rfl
  | call worker c id call now =>
      rcases get_inv hstep with ⟨-, obj, r, -, -, rfl⟩
      cases h
      exact hcopies.keep rfl rfl rfl rfl rfl rfl rfl
  | write c now stored =>
      rcases write_inv hstep with ⟨id, obj, w, rest, next, r, hframe, hr, rfl⟩
      rcases writeMetadata_inv h with ⟨id', obj', w', rest', next', r', metadata, hframe', hr',
        hmetadata, rfl⟩
      rw [hframe] at hframe'
      cases hframe'
      rw [hr] at hr'
      cases hr'
      exact (hcopies.write hr hmetadata now w stored).keep rfl rfl rfl rfl rfl rfl rfl
  | resume c now executionExpiryMinutes =>
      rcases resume_inv hstep with ⟨id, obj, next, r, after, -, -, -, rfl⟩
      cases h
      exact hcopies.keep rfl rfl rfl rfl rfl rfl rfl
  | claim c tokenHash now =>
      cases h
      rcases claim_inv hstep with ⟨id, obj, args, -, ⟨row, hrow, -, rfl⟩ | rfl⟩
      · exact (hcopies.claim hrow args tokenHash now).keep rfl rfl rfl rfl rfl rfl rfl
      · exact hcopies.keep rfl rfl rfl rfl rfl rfl rfl
  | act c succeeded =>
      rcases act_inv hstep with ⟨id, obj, args, -, rfl⟩
      rcases performAction_inv h with ⟨f, r, metadata, -, -, -, ⟨action, -, rfl⟩ | rfl⟩
      · exact hcopies.keep rfl rfl rfl rfl rfl rfl rfl
      · exact hcopies.keep rfl rfl rfl rfl rfl rfl rfl

/-! ## Plans -/

/-- The plans differ in their number, and those there were when an approval was created
have kept what they were created with. -/
structure PlansKept (s : PayloadSystem) : Prop where
  nodup : ((s.plans.map Plan.columns).map PlanColumns.id).Nodup
  kept : ∀ creation ∈ s.created, ∀ q ∈ creation.plans, q.columns ∈ s.plans.map Plan.columns

theorem start_plans : PlansKept PayloadSystem.start where
  nodup := List.nodup_nil
  kept := by simp [PayloadSystem.start]

/-- A step that keeps what the plans were created with. -/
theorem PlansKept.keep (hplans : PlansKept s)
    (hcolumns : s'.plans.map Plan.columns = s.plans.map Plan.columns)
    (hcreated : s'.created = s.created) : PlansKept s' := by
  refine ⟨?_, ?_⟩
  · rw [hcolumns]
    exact hplans.nodup
  · rw [hcreated, hcolumns]
    exact hplans.kept

/-- The plans there are when an approval is created. -/
theorem PlansKept.create (hplans : PlansKept s) (r : Record) (metadata : Json) :
    PlansKept { s with created := ⟨r, metadata, s.plans⟩ :: s.created } := by
  refine ⟨hplans.nodup, ?_⟩
  intro creation hcreation q hq
  rcases List.mem_cons.mp hcreation with rfl | hcreation
  · exact List.mem_map_of_mem hq
  · exact hplans.kept creation hcreation q hq

/-- A plan with a new number. -/
theorem PlansKept.append (hplans : PlansKept s) {p : Plan}
    (hnumber : p.columns.id ∉ s.plans.map (fun p => p.columns.id)) :
    PlansKept { s with plans := s.plans ++ [p] } := by
  refine ⟨?_, ?_⟩
  · change (List.map PlanColumns.id (List.map Plan.columns (s.plans ++ [p]))).Nodup
    rw [List.map_append, List.map_append, List.nodup_append]
    refine ⟨hplans.nodup, List.nodup_singleton _, ?_⟩
    intro k hk k' hk' heq
    rw [List.mem_singleton.mp hk'] at heq
    rw [List.map_map] at hk
    exact hnumber (heq ▸ hk)
  · intro creation hcreation q hq
    change q.columns ∈ List.map Plan.columns (s.plans ++ [p])
    rw [List.map_append]
    exact List.mem_append_left _ (hplans.kept creation hcreation q hq)

theorem bindPlans_columns (plans : List Plan) (planId tenantId : Int) (approvalId : String) :
    (bindPlans plans planId tenantId approvalId).map Plan.columns = plans.map Plan.columns := by
  unfold bindPlans
  apply Rows.map_updateWhere
  intro p _
  rfl

theorem finishPlans_columns (plans : List Plan) (action : Performed) :
    (finishPlans plans action).map Plan.columns = plans.map Plan.columns := by
  cases action with
  | query text => rfl
  | plan q =>
      apply Rows.map_updateWhere
      intro p _
      rfl

/-- A plan there was when the approval was created is the plan of its number. -/
theorem PlansKept.eq_columns (hplans : PlansKept s) {creation : Creation}
    (hcreation : creation ∈ s.created) {p q : Plan} (hp : p ∈ s.plans) (hq : q ∈ creation.plans)
    (hid : q.columns.id = p.columns.id) : q.columns = p.columns :=
  List.inj_on_of_nodup_map hplans.nodup (hplans.kept creation hcreation q hq)
    (List.mem_map_of_mem hp) hid

/-- What a step of a worker keeps beside the records. -/
theorem handleStep_kept {a : Step} (h : handleStep d s core a = some s') :
    s'.core = core ∧ s'.created = s.created ∧
      s'.plans.map Plan.columns = s.plans.map Plan.columns := by
  cases a with
  | create worker c approvalId freshRequest freshCorrelation expiryMinutes now args => cases h
  | fetch c selection =>
      cases h
      exact ⟨rfl, rfl, rfl⟩
  | cacheFetched worker c =>
      simp only [handleStep] at h
      split at h
      · cases h
        exact ⟨rfl, rfl, rfl⟩
      · cases h
  | get worker c id now =>
      cases h
      exact ⟨rfl, rfl, rfl⟩
  | call worker c id call now =>
      cases h
      exact ⟨rfl, rfl, rfl⟩
  | write c now stored =>
      rcases writeMetadata_inv h with ⟨id, obj, w, rest, next, r, metadata, -, -, -, rfl⟩
      exact ⟨rfl, rfl, rfl⟩
  | resume c now executionExpiryMinutes =>
      cases h
      exact ⟨rfl, rfl, rfl⟩
  | claim c tokenHash now =>
      cases h
      exact ⟨rfl, rfl, rfl⟩
  | act c succeeded =>
      rcases performAction_inv h with ⟨f, r, metadata, -, -, -, ⟨action, -, rfl⟩ | rfl⟩
      · refine ⟨rfl, rfl, ?_⟩
        cases succeeded with
        | false => rfl
        | true => exact finishPlans_columns s.plans action
      · exact ⟨rfl, rfl, rfl⟩

/-! ## Hashes and actions -/

/-- Approvals are created once, every hash is the one of the payload at creation, and
every action is the one that payload names. -/
structure Noted (d : PayloadDeployment) (s : PayloadSystem) : Prop where
  issued : ∀ creation ∈ s.created, creation.record.approvalId ∈ s.core.issued
  unique : ∀ a ∈ s.created, ∀ b ∈ s.created, a.record.approvalId = b.record.approvalId → a = b
  payload : ∀ creation ∈ s.created,
    ∃ payload, actionPayload creation.record creation.metadata = some payload
  hashed : ∀ h ∈ s.hashed, ∃ creation ∈ s.created, creation.record.approvalId = h.id ∧
    h.hash = actionPayloadHash d.calls creation.record creation.metadata
  performed : ∀ p ∈ s.performed, ∃ creation ∈ s.created, creation.record.approvalId = p.id ∧
    (∀ payload, actionPayload creation.record creation.metadata = some payload →
      Names d.calls payload p.action) ∧
    ∀ plan, p.action = .plan plan →
      ∀ q ∈ creation.plans, q.columns.id = plan.columns.id → q.columns = plan.columns

theorem start_noted : Noted d PayloadSystem.start where
  issued := by simp [PayloadSystem.start]
  unique := by simp [PayloadSystem.start]
  payload := by simp [PayloadSystem.start]
  hashed := by simp [PayloadSystem.start]
  performed := by simp [PayloadSystem.start]

/-- A step that notes nothing. -/
theorem Noted.keep (hnoted : Noted d s) (hissued : s'.core.issued = s.core.issued)
    (hcreated : s'.created = s.created) (hhashed : s'.hashed = s.hashed)
    (hperformed : s'.performed = s.performed) : Noted d s' := by
  refine ⟨?_, ?_, ?_, ?_, ?_⟩
  · rw [hcreated, hissued]
    exact hnoted.issued
  · rw [hcreated]
    exact hnoted.unique
  · rw [hcreated]
    exact hnoted.payload
  · rw [hcreated, hhashed]
    exact hnoted.hashed
  · rw [hcreated, hperformed]
    exact hnoted.performed

/-- An approval is created under a new identifier. -/
theorem Noted.create (hnoted : Noted d s) {r : Record} {metadata : Json}
    (hnew : r.approvalId ∉ s.core.issued)
    (hpayload : ∃ payload, actionPayload r metadata = some payload)
    (hissued : core.issued = r.approvalId :: s.core.issued) :
    Noted d { s with
      core := core
      metadata := s.metadata ++ [metadata]
      created := ⟨r, metadata, s.plans⟩ :: s.created } := by
  refine ⟨?_, ?_, ?_, ?_, ?_⟩
  · intro creation hcreation
    change creation.record.approvalId ∈ core.issued
    rw [hissued]
    rcases List.mem_cons.mp hcreation with rfl | hcreation
    · exact List.mem_cons_self
    · exact List.mem_cons_of_mem _ (hnoted.issued creation hcreation)
  · intro a ha b hb hid
    rcases List.mem_cons.mp ha with rfl | ha
    · rcases List.mem_cons.mp hb with rfl | hb
      · rfl
      · exact absurd (hid ▸ hnoted.issued b hb) hnew
    · rcases List.mem_cons.mp hb with rfl | hb
      · exact absurd (hid ▸ hnoted.issued a ha) hnew
      · exact hnoted.unique a ha b hb hid
  · intro creation hcreation
    rcases List.mem_cons.mp hcreation with rfl | hcreation
    · exact hpayload
    · exact hnoted.payload creation hcreation
  · intro h hh
    rcases hnoted.hashed h hh with ⟨creation, hcreation, hrest⟩
    exact ⟨creation, List.mem_cons_of_mem _ hcreation, hrest⟩
  · intro p hp
    rcases hnoted.performed p hp with ⟨creation, hcreation, hrest⟩
    exact ⟨creation, List.mem_cons_of_mem _ hcreation, hrest⟩

/-- A hash is taken of a copy after a write. -/
theorem Noted.write (hnoted : Noted d s) {r : Record} {metadata : Json} {w : Write}
    {now : Instant} {columns : String → Option (List Char)} (hcreated : AsCreated s r metadata)
    (hissued : core.issued = s.core.issued) :
    Noted d { s with
      core := core
      columns := columns
      hashed :=
        (w.hashStage.map (fun stage =>
          { id := r.approvalId, stage := stage,
            hash := actionPayloadHash d.calls (w.apply now r) metadata : Hashed })).toList ++
          s.hashed } := by
  refine ⟨?_, hnoted.unique, hnoted.payload, ?_, hnoted.performed⟩
  · intro creation hcreation
    change creation.record.approvalId ∈ core.issued
    rw [hissued]
    exact hnoted.issued creation hcreation
  · intro h hh
    rcases List.mem_append.mp hh with hh | hh
    · rcases Option.map_eq_some_iff.mp (Option.mem_toList.mp hh) with ⟨stage, -, rfl⟩
      have hwritten := hcreated.of_fields (apply_hashedFields now r w)
      rcases hwritten.payload with ⟨creation, hcreation, hid, hpayload⟩
      refine ⟨creation, hcreation, hid.trans (apply_approvalId now r w), ?_⟩
      unfold actionPayloadHash
      rw [hpayload]
    · exact hnoted.hashed h hh

/-- The action of a copy is performed. -/
theorem Noted.act (hnoted : Noted d s) (hplans : PlansKept s) {r : Record} {metadata : Json}
    {action : Performed} {plans : List Plan} (hcreated : AsCreated s r metadata)
    (haction : performedBy d.calls s.plans r metadata = some action)
    (hissued : core.issued = s.core.issued) :
    Noted d { s with
      core := core
      plans := plans
      performed := ⟨c, r.approvalId, action⟩ :: s.performed } := by
  refine ⟨?_, hnoted.unique, hnoted.payload, hnoted.hashed, ?_⟩
  · intro creation hcreation
    change creation.record.approvalId ∈ core.issued
    rw [hissued]
    exact hnoted.issued creation hcreation
  · intro p hp
    rcases List.mem_cons.mp hp with rfl | hp
    · rcases hcreated.payload with ⟨creation, hcreation, hid, hpayload⟩
      refine ⟨creation, hcreation, hid, ?_, ?_⟩
      · intro payload hsome
        rw [hpayload] at hsome
        exact performedBy_named hsome haction
      · intro plan hplan q hq hnumber
        have hperformed : performedBy d.calls s.plans r metadata = some (.plan plan) := by
          rw [haction, ← hplan]
        exact hplans.eq_columns hcreation (performedBy_mem hperformed) hq hnumber
    · exact hnoted.performed p hp

/-- A step of a worker notes the hash and the action of a copy. -/
theorem handle_noted {a : Step} (hnoted : Noted d s) (hcopies : Copies d s)
    (hplans : PlansKept s) (hstep : step d.deployment s.core a = some core)
    (h : handleStep d s core a = some s') : Noted d s' := by
  cases a with
  | create worker c approvalId freshRequest freshCorrelation expiryMinutes now args => cases h
  | fetch c selection =>
      cases hstep
      cases h
      exact hnoted.keep rfl rfl rfl rfl
  | cacheFetched worker c =>
      rcases cacheFetched_inv hstep h with ⟨r, records, metadata, loaded, -, -, rfl⟩
      exact hnoted.keep rfl rfl rfl rfl
  | get worker c id now =>
      rcases get_inv hstep with ⟨-, obj, r, -, -, rfl⟩
      cases h
      exact hnoted.keep rfl rfl rfl rfl
  | call worker c id call now =>
      rcases get_inv hstep with ⟨-, obj, r, -, -, rfl⟩
      cases h
      exact hnoted.keep rfl rfl rfl rfl
  | write c now stored =>
      rcases write_inv hstep with ⟨id, obj, w, rest, next, r, hframe, hr, rfl⟩
      rcases writeMetadata_inv h with ⟨id', obj', w', rest', next', r', metadata, hframe', hr',
        hmetadata, rfl⟩
      have hissued : ((s.core.writeBack obj (w.apply now r) stored).setFrame c
          ⟨id, obj, rest, next⟩).issued = s.core.issued := by
        unfold System.writeBack System.persist
        cases stored <;> rfl
      exact hnoted.write (hcopies.objects obj' r' metadata hr' hmetadata) hissued
  | resume c now executionExpiryMinutes =>
      rcases resume_inv hstep with ⟨id, obj, next, r, after, -, -, -, rfl⟩
      cases h
      exact hnoted.keep rfl rfl rfl rfl
  | claim c tokenHash now =>
      cases h
      rcases claim_inv hstep with ⟨id, obj, args, -, ⟨row, hrow, -, rfl⟩ | rfl⟩
      · exact hnoted.keep rfl rfl rfl rfl
      · exact hnoted.keep rfl rfl rfl rfl
  | act c succeeded =>
      rcases act_inv hstep with ⟨id, obj, args, -, rfl⟩
      rcases performAction_inv h with
        ⟨f, r, metadata, -, hr, hmetadata, ⟨action, haction, rfl⟩ | rfl⟩
      · exact hnoted.act hplans (hcopies.objects f.obj r metadata hr hmetadata) haction rfl
      · exact hnoted.keep rfl rfl rfl rfl

/-! ## Runs -/

/-- What every step keeps. -/
structure PayloadInv (d : PayloadDeployment) (s : PayloadSystem) : Prop where
  keyed : Keyed s.core
  copies : Copies d s
  plans : PlansKept s
  noted : Noted d s

theorem start_inv : PayloadInv d PayloadSystem.start where
  keyed := start_keyed
  copies := start_copies
  plans := start_plans
  noted := start_noted

/-- Every step keeps the copies, the plans and what was noted. -/
theorem move_inv {m : Move d.calls.float} (hinv : PayloadInv d s) (h : move d s m = some s') :
    PayloadInv d s' := by
  cases m with
  | create worker c approvalId freshRequest freshCorrelation expiryMinutes now args metadata =>
      rcases Option.map_eq_some_iff.mp h with ⟨core, hcreate, rfl⟩
      have hstep : step d.deployment s.core (.create worker c approvalId freshRequest
          freshCorrelation expiryMinutes now
          { args with executionTarget := executionTargetOf (metadataOr metadata) }) = some core :=
        hcreate
      refine ⟨step_keyed hinv.keyed hstep, ?_, ?_, ?_⟩
      · rcases create_inv hcreate with ⟨-, -, rfl⟩
        have hcreated : Copies d { s with
            created := ⟨createdRecord approvalId freshRequest freshCorrelation expiryMinutes now
              args (metadataOr metadata), metadataOr metadata, s.plans⟩ :: s.created } :=
          hinv.copies.create (metadataOr_isJson metadata)
        exact (hcreated.cacheNew worker ⟨_, List.mem_cons_self, rfl, rfl⟩).keep rfl rfl rfl rfl
          rfl rfl rfl
      · exact (hinv.plans.create _ _).keep rfl rfl
      · rcases create_inv hcreate with ⟨hnew, -, rfl⟩
        exact hinv.noted.create hnew (actionPayload_metadataOr metadata _) rfl
  | handle a =>
      rcases Option.bind_eq_some_iff.mp h with ⟨core, hstep, hhandle⟩
      rcases handleStep_kept hhandle with ⟨hcore, hcreated, hcolumns⟩
      refine ⟨?_, handle_copies hinv.copies hinv.keyed hstep hhandle,
        hinv.plans.keep hcolumns hcreated,
        handle_noted hinv.noted hinv.copies hinv.plans hstep hhandle⟩
      rw [hcore]
      exact step_keyed hinv.keyed hstep
  | createPlan columns =>
      simp only [move] at h
      split_ifs at h with hnumber
      cases h
      exact ⟨hinv.keyed, hinv.copies.keep rfl rfl rfl rfl rfl rfl rfl,
        hinv.plans.append hnumber, hinv.noted.keep rfl rfl rfl rfl⟩
  | bindPlan planId tenantId approvalId =>
      cases h
      exact ⟨hinv.keyed, hinv.copies.keep rfl rfl rfl rfl rfl rfl rfl,
        hinv.plans.keep (bindPlans_columns s.plans planId tenantId approvalId) rfl,
        hinv.noted.keep rfl rfl rfl rfl⟩

end

/-- Every run keeps the copies, the plans and what was noted. -/
theorem run_inv {d : PayloadDeployment} {moves : List (Move d.calls.float)} {s : PayloadSystem}
    (hrun : run (move d) PayloadSystem.start moves = some s) : PayloadInv d s :=
  invariant_of_run (fun _ _ _ hinv _ => move_inv hinv) start_inv
    (respects_of_forall (fun _ _ => trivial) _ moves) hrun

/-- What was noted of an approval is of its one creation. -/
theorem PayloadInv.creation_eq {d : PayloadDeployment} {s : PayloadSystem}
    (hinv : PayloadInv d s) {c creation : Creation} (hc : c ∈ s.created)
    (hcreation : creation ∈ s.created) {id : String} (hid : c.record.approvalId = id)
    (hid' : id = creation.record.approvalId) : c = creation :=
  hinv.noted.unique c hc creation hcreation (hid.trans hid')

/-- An approval that was requested for a plan performs nothing else: the plan has the
columns it had then, and the hashed payload shows its action. -/
theorem requested_plan_performed (d : PayloadDeployment) (moves : List (Move d.calls.float))
    (s : PayloadSystem) (hrun : run (move d) PayloadSystem.start moves = some s)
    (creation : Creation) (hcreation : creation ∈ s.created) (q : Plan)
    (hq : q ∈ creation.plans) (hmetadata : planMetadata d.calls q.columns = some creation.metadata)
    (p : Performance) (hp : p ∈ s.performed) (hid : p.id = creation.record.approvalId) :
    (∃ plan, p.action = .plan plan ∧ plan.columns = q.columns) ∧
      ∃ payload findingType, actionPayload creation.record creation.metadata = some payload ∧
        field payload "action_payload" = some (planPayload q.columns.provider
          q.columns.resourceId q.columns.proposedAction findingType) := by
  have hinv := run_inv hrun
  rcases hinv.noted.payload creation hcreation with ⟨payload, hpayload⟩
  rcases hinv.noted.performed p hp with ⟨c, hc, hrecord, hnames, hcolumns⟩
  rw [hinv.creation_eq hc hcreation hrecord hid] at hnames hcolumns
  rcases (hnames payload hpayload).requested hmetadata hpayload with
    ⟨⟨plan, hplan, hnumber⟩, findingType, haction⟩
  exact ⟨⟨plan, hplan, (hcolumns plan hplan q hq hnumber.symm).symm⟩, payload, findingType,
    hpayload, haction⟩

/-- In every run of any workers on approvals created with JSON metadata: an approval has one
payload from its creation on.  Every object and every row of it has that payload, a row
once its metadata is loaded; every hash taken at its approval or its execution is the hash
of that payload; and every action performed for it is the one that payload names, a plan
with the columns it had when the approval was created. -/
theorem payload_fixed (d : PayloadDeployment) (moves : List (Move d.calls.float))
    (s : PayloadSystem) (hrun : run (move d) PayloadSystem.start moves = some s)
    (creation : Creation) (hcreation : creation ∈ s.created) :
    ∃ payload, actionPayload creation.record creation.metadata = some payload ∧
      (∀ (i : Nat) r metadata, s.core.objects[i]? = some r → s.metadata[i]? = some metadata →
        r.approvalId = creation.record.approvalId → actionPayload r metadata = some payload) ∧
      (∀ row, s.core.rows creation.record.approvalId = some row →
        ∃ metadata, loadMetadata d.calls (s.columns creation.record.approvalId) = some metadata ∧
          actionPayload row metadata = some payload) ∧
      (∀ h ∈ s.hashed, h.id = creation.record.approvalId →
        h.hash = some (payloadHash d.calls payload)) ∧
      ∀ p ∈ s.performed, p.id = creation.record.approvalId →
        Names d.calls payload p.action ∧
          ∀ plan, p.action = .plan plan →
            ∀ q ∈ creation.plans, q.columns.id = plan.columns.id → q.columns = plan.columns := by
  have hinv := run_inv hrun
  rcases hinv.noted.payload creation hcreation with ⟨payload, hpayload⟩
  have hcopy : ∀ r metadata, AsCreated s r metadata →
      r.approvalId = creation.record.approvalId → actionPayload r metadata = some payload := by
    intro r metadata hcreated hid
    rcases hcreated.payload with ⟨c, hc, hrecord, heq⟩
    rw [hinv.creation_eq hc hcreation hrecord hid, hpayload] at heq
    exact heq.symm
  refine ⟨payload, hpayload, ?_, ?_, ?_, ?_⟩
  · intro i r metadata hr hmetadata hid
    exact hcopy r metadata (hinv.copies.objects i r metadata hr hmetadata) hid
  · intro row hrow
    rcases hinv.copies.rows _ row hrow with ⟨metadata, hcreated, hcolumn⟩
    rw [hcolumn]
    exact ⟨metadata, hinv.copies.load hcreated,
      hcopy row metadata hcreated (hinv.keyed.rows _ row hrow).1⟩
  · intro h hh hid
    rcases hinv.noted.hashed h hh with ⟨c, hc, hrecord, hhash⟩
    rw [hinv.creation_eq hc hcreation hrecord hid] at hhash
    rw [hhash, actionPayloadHash, hpayload, Option.map_some]
  · intro p hp hid
    rcases hinv.noted.performed p hp with ⟨c, hc, hrecord, hnames, hcolumns⟩
    rw [hinv.creation_eq hc hcreation hrecord hid] at hnames hcolumns
    exact ⟨hnames payload hpayload, hcolumns⟩

/-! ## A run of two workers -/

/-- Calls that keep the text of a float and hash a text to its length. -/
def sampleCalls : PayloadCalls where
  sha256 := fun text => text.length.repr
  float := fun text => (text, false)
  toInt := fun value =>
    match value with
    | .int n => some n
    | _ => none
  toInt_int := fun _ => rfl

/-- The example deployment with these calls. -/
def samplePayloads : PayloadDeployment where
  deployment := sampleDeployment
  calls := sampleCalls

/-- A plan of tenant 1. -/
def samplePlan : PlanColumns where
  id := 7
  tenantId := 1
  findingId := 3
  connectorId := some 2
  provider := "aws"
  resourceId := "bucket-1"
  proposedAction := "block_public_access"
  riskLevel := "HIGH"
  planPayload := dumps (planPayload "aws" "bucket-1" "block_public_access" "public_bucket")
  written := ⟨"public_bucket", rfl⟩

/-- Metadata that names the plan. -/
def sampleMetadata : Dictionary sampleCalls.float where
  members := [("execution_target", .str "remediation"), ("remediation_plan_id", .int 7)]
  json := IsJson.obj (by decide) (by simp [IsJson.str, IsJson.int])

/-- The first worker creates the approval of the plan; the second loads its row, approves
and executes it. -/
def sampleMoves : List (Move samplePayloads.calls.float) :=
  [.createPlan samplePlan,
    .create 0 0 "a1" "" "" 30 sampleNow sampleArgs (some sampleMetadata)] ++
    (storedWrites 0 2).map .handle ++ [.bindPlan 7 1 "a1"] ++
    ([Step.fetch 1 (.one "a1"), .cacheFetched 1 1] ++ approveSteps 1 1 100 ++
      executeSteps 1 2 101 true).map .handle

/-- The hashes of the run, at the approval and at the execution by the second worker, are
the hash of one payload, which names the action. -/
theorem payload_fixed_two_workers :
    ∃ s, run (move samplePayloads) PayloadSystem.start sampleMoves = some s ∧
      s.hashed.map Hashed.stage = [.execution, .approval] ∧
      s.performed.map Performance.call = [2] ∧
      ∃ payload, (∀ h ∈ s.hashed, h.hash = some (payloadHash sampleCalls payload)) ∧
        ∀ p ∈ s.performed, Names sampleCalls payload p.action := by
  have hnoted : (run (move samplePayloads) PayloadSystem.start sampleMoves).map (fun s =>
      (s.hashed.map (fun h => (h.id, h.stage)), s.performed.map (fun p => (p.id, p.call)),
        s.created.map (fun c => c.record.approvalId))) =
      some ([("a1", .execution), ("a1", .approval)], [("a1", 2)], ["a1"]) := by
    decide +kernel
  rcases Option.map_eq_some_iff.mp hnoted with ⟨s, hrun, heq⟩
  simp only [Prod.mk.injEq] at heq
  rcases heq with ⟨hhashed, hperformed, hcreated⟩
  rcases List.map_eq_singleton_iff.mp hcreated with ⟨creation, hcreation, hid⟩
  rcases payload_fixed samplePayloads sampleMoves s hrun creation (by rw [hcreation]; simp) with
    ⟨payload, -, -, -, hhash, haction⟩
  rw [hid] at hhash haction
  refine ⟨s, hrun, ?_, ?_, payload, ?_, ?_⟩
  · have hstages := congrArg (List.map Prod.snd) hhashed
    rw [List.map_map] at hstages
    exact hstages
  · have hcalls := congrArg (List.map Prod.snd) hperformed
    rw [List.map_map] at hcalls
    exact hcalls
  · intro h hh
    have hmem := List.mem_map_of_mem (f := fun h => (h.id, h.stage)) hh
    rw [hhashed] at hmem
    apply hhash h hh
    simp only [List.mem_cons, Prod.mk.injEq, List.not_mem_nil, or_false] at hmem
    rcases hmem with hmem | hmem
    · exact hmem.1
    · exact hmem.1
  · intro p hp
    have hmem := List.mem_map_of_mem (f := fun p => (p.id, p.call)) hp
    rw [hperformed] at hmem
    simp only [List.mem_cons, Prod.mk.injEq, List.not_mem_nil, or_false] at hmem
    exact (haction p hp hmem.1).1

end AuthClaw.Approvals
