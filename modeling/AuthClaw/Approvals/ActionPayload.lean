import AuthClaw.Approvals.Record
import AuthClaw.Exports.Canonical
import AuthClaw.Library.JsonReader

/-!
# The payload of an approved action

An approval stands for an action: a query, or a remediation plan its metadata names.  The
payload that is hashed takes some fields of the record and some of its metadata; the
metadata is a text in its row.

Main results:

- Theorem {lit}`actionPayload_congr`: the payload depends on the hashed fields and the
  metadata.
- Theorem {lit}`loadMetadata_dumps`: metadata is loaded as it was stored.
- Theorem {lit}`performedBy_named`: the action of a record is the one its payload names.
-/

namespace AuthClaw.Approvals

open PythonText JsonReader

/-- The operations of the interpreter a payload goes through; `int` leaves an integer as it
is. -/
structure PayloadCalls where
  /-- `hashlib.sha256(text).hexdigest()`. -/
  sha256 : List UInt8 → String
  /-- `float(text)`: its text, and whether it is zero. -/
  float : String → String × Bool
  /-- `int(value)`, where it does not raise. -/
  toInt : Json → Option Int
  toInt_int : ∀ n, toInt (.int n) = some n

/-! ## Metadata -/

/-- A dictionary of JSON values. -/
structure Dictionary (float : String → String × Bool) where
  members : List (String × Json)
  json : IsJson float (.obj members)

/-- `metadata or {}` of an argument. -/
def metadataOr {float : String → String × Bool} : Option (Dictionary float) → Json
  | some metadata => .obj metadata.members
  | none => .obj []

/-- `value or {}`, where the result has members. -/
def orEmpty : Json → Option (List (String × Json))
  | .obj members => some members
  | value => if value.truthy then none else some []

/-- `json.loads(column or "{}")`. -/
def loadMetadata (calls : PayloadCalls) (column : Option (List Char)) : Option Json :=
  loads calls.float ((column.filter (fun text => !text.isEmpty)).getD "{}".toList)

/-! ## Payloads -/

/-- An integer or null. -/
def intOrNull : Option Int → Json
  | some n => .int n
  | none => .null

/-- The payload `_approval_action_payload_hash` writes; `none` is an
{lit}`AttributeError`. -/
def actionPayload (r : Record) (metadata : Json) : Option Json :=
  (orEmpty metadata).map (fun members => .obj [
    ("approval_id", .str r.approvalId),
    ("tenant_id", intOrNull r.tenantId),
    ("requested_action", .str r.requestedAction),
    ("query", .str r.query),
    ("risk_level", .str r.riskLevel),
    ("reason", .str r.reason),
    ("execution_target", (getKey members "execution_target").getD (.str "gateway")),
    ("remediation_plan_id", (getKey members "remediation_plan_id").getD .null),
    ("finding_id", (getKey members "finding_id").getD .null),
    ("action_payload", (getKey members "action_payload").getD .null)])

/-- The hash of a payload. -/
def payloadHash (calls : PayloadCalls) (payload : Json) : String :=
  calls.sha256 (Exports.utf8Bytes (Exports.write payload))

/-- `_approval_action_payload_hash`. -/
def actionPayloadHash (calls : PayloadCalls) (r : Record) (metadata : Json) : Option String :=
  (actionPayload r metadata).map (payloadHash calls)

/-- A field of a payload. -/
def field (payload : Json) (key : String) : Option Json :=
  match payload with
  | .obj members => getKey members key
  | _ => none

/-! ## Remediation plans -/

/-- What `create_plan` stores of an action. -/
def planPayload (provider resourceId proposedAction findingType : String) : Json :=
  .obj [("provider", .str provider), ("resource_id", .str resourceId),
    ("proposed_action", .str proposedAction), ("finding_type", .str findingType)]

/-- The columns `create_plan` sets; the payload is written from the others. -/
structure PlanColumns where
  id : Int
  tenantId : Int
  findingId : Int
  connectorId : Option Int
  provider : String
  resourceId : String
  proposedAction : String
  riskLevel : String
  planPayload : List Char
  written : ∃ findingType,
    planPayload = dumps (Approvals.planPayload provider resourceId proposedAction findingType)

/-- A row of `remediation_plans`. -/
structure Plan where
  columns : PlanColumns
  status : String
  approvalId : Option String

/-- `UPDATE remediation_plans SET approval_id = ..., status = 'pending_approval'`. -/
def Plan.requested (p : Plan) (approvalId : String) : Plan :=
  { p with approvalId := some approvalId, status := "pending_approval" }

/-- `UPDATE remediation_plans SET status = 'executed'`. -/
def Plan.executed (p : Plan) : Plan :=
  { p with status := "executed" }

/-- The metadata `request_plan_approval` creates an approval with. -/
def planMetadata (calls : PayloadCalls) (p : PlanColumns) : Option Json :=
  (loads calls.float p.planPayload).map (fun payload => .obj [
    ("execution_target", .str "remediation"),
    ("remediation_plan_id", .int p.id),
    ("finding_id", .int p.findingId),
    ("action_payload", payload)])

/-! ## Actions -/

/-- What an execution performs. -/
inductive Performed where
  | query (text : String)
  | plan (p : Plan)

/-- `metadata.get("execution_target") == "remediation"`. -/
def isRemediation (members : List (String × Json)) : Bool :=
  match getKey members "execution_target" with
  | some (.str target) => target == "remediation"
  | _ => false

/-- `int(metadata.get("remediation_plan_id") or 0)`. -/
def planIdOf (calls : PayloadCalls) (members : List (String × Json)) : Option Int :=
  match getKey members "remediation_plan_id" with
  | some value => if value.truthy then calls.toInt value else some 0
  | none => some 0

/-- The plan `execute_approved_plan` goes on with. -/
def approvedPlan (calls : PayloadCalls) (plans : List Plan) (r : Record)
    (members : List (String × Json)) : Option Plan :=
  match r.tenantId, planIdOf calls members with
  | some tenant, some planId =>
      if planId = 0 then none
      else
        plans.find? (fun p => p.columns.id = planId ∧ p.columns.tenantId = tenant ∧
          p.approvalId = some r.approvalId)
  | _, _ => none

/-- The action `execute_request` performs for a record, where it comes to one. -/
def performedBy (calls : PayloadCalls) (plans : List Plan) (r : Record) (metadata : Json) :
    Option Performed :=
  match orEmpty metadata with
  | some members =>
      if isRemediation members then (approvedPlan calls plans r members).map .plan
      else some (.query r.query)
  | none => none

/-- The action a payload names: its query, or the plan under its number that belongs to
its tenant and is bound to its approval. -/
inductive Names (calls : PayloadCalls) (payload : Json) : Performed → Prop where
  | query {text : String}
      (htarget : field payload "execution_target" ≠ some (.str "remediation"))
      (htext : field payload "query" = some (.str text)) : Names calls payload (.query text)
  | plan {p : Plan} {value : Json} {approvalId : String}
      (htarget : field payload "execution_target" = some (.str "remediation"))
      (hvalue : field payload "remediation_plan_id" = some value)
      (hid : calls.toInt value = some p.columns.id)
      (htenant : field payload "tenant_id" = some (.int p.columns.tenantId))
      (happroval : field payload "approval_id" = some (.str approvalId))
      (hbound : p.approvalId = some approvalId) : Names calls payload (.plan p)

/-! ## What the payload depends on -/

/-- The fields of a record its payload takes. -/
def Record.hashedFields (r : Record) : String × Option Int × String × String × String × String :=
  (r.approvalId, r.tenantId, r.requestedAction, r.query, r.riskLevel, r.reason)

section

variable (now : Instant) (r : Record)

/-- No write changes a hashed field. -/
@[simp]
theorem apply_hashedFields (w : Write) : (w.apply now r).hashedFields = r.hashedFields := by
  cases w <;> rfl

@[simp]
theorem upsertRow_hashedFields (row : Option Record) :
    (upsertRow row r).hashedFields = r.hashedFields := by
  cases row <;> rfl

end

/-- The payload depends on the hashed fields and the metadata. -/
theorem actionPayload_congr {r r' : Record} (h : r.hashedFields = r'.hashedFields)
    (metadata : Json) : actionPayload r metadata = actionPayload r' metadata := by
  simp only [Record.hashedFields, Prod.mk.injEq] at h
  rcases h with ⟨hid, htenant, haction, hquery, hrisk, hreason⟩
  unfold actionPayload
  rw [hid, htenant, haction, hquery, hrisk, hreason]

theorem hashedFields_approvalId {r r' : Record} (h : r.hashedFields = r'.hashedFields) :
    r.approvalId = r'.approvalId :=
  congrArg Prod.fst h

theorem metadataOr_isJson {float : String → String × Bool} (metadata : Option (Dictionary float)) :
    IsJson float (metadataOr metadata) := by
  cases metadata with
  | some metadata => exact metadata.json
  | none => exact IsJson.obj List.nodup_nil (by simp)

/-- A dictionary has a payload. -/
theorem actionPayload_metadataOr {float : String → String × Bool}
    (metadata : Option (Dictionary float)) (r : Record) :
    ∃ payload, actionPayload r (metadataOr metadata) = some payload := by
  cases metadata with
  | some metadata => exact ⟨_, rfl⟩
  | none => exact ⟨_, rfl⟩

/-- Metadata is loaded as it was stored. -/
theorem loadMetadata_dumps {calls : PayloadCalls} {metadata : Json}
    (h : IsJson calls.float metadata) :
    loadMetadata calls (some (dumps metadata)) = some metadata := by
  have hfilter : (some (dumps metadata)).filter (fun text => !text.isEmpty) =
      some (dumps metadata) := by
    rcases dumps_head h with ⟨c, text, htext, -, -⟩
    rw [htext]
    rfl
  unfold loadMetadata
  rw [hfilter]
  exact loads_dumps h

/-- The fields of a payload that decide the action. -/
theorem actionPayload_fields {r : Record} {metadata payload : Json}
    {members : List (String × Json)} (hmembers : orEmpty metadata = some members)
    (h : actionPayload r metadata = some payload) :
    field payload "approval_id" = some (.str r.approvalId) ∧
      field payload "tenant_id" = some (intOrNull r.tenantId) ∧
      field payload "query" = some (.str r.query) ∧
      field payload "execution_target" =
        some ((getKey members "execution_target").getD (.str "gateway")) ∧
      field payload "remediation_plan_id" =
        some ((getKey members "remediation_plan_id").getD .null) ∧
      field payload "action_payload" = some ((getKey members "action_payload").getD .null) := by
  unfold actionPayload at h
  rw [hmembers] at h
  cases h
  exact ⟨rfl, rfl, rfl, rfl, rfl, rfl⟩

theorem isRemediation_iff {members : List (String × Json)} :
    isRemediation members = true ↔
      (getKey members "execution_target").getD (.str "gateway") = .str "remediation" := by
  unfold isRemediation
  cases getKey members "execution_target" with
  | none => simp
  | some value => cases value <;> simp

/-- The plan of a record is under the number and the tenant it names and bound to it. -/
theorem approvedPlan_eq_some {calls : PayloadCalls} {plans : List Plan} {r : Record}
    {members : List (String × Json)} {p : Plan}
    (h : approvedPlan calls plans r members = some p) :
    p ∈ plans ∧ r.tenantId = some p.columns.tenantId ∧ p.approvalId = some r.approvalId ∧
      ∃ value, getKey members "remediation_plan_id" = some value ∧
        calls.toInt value = some p.columns.id := by
  unfold approvedPlan at h
  split at h
  · rename_i tenant planId htenant hplan
    split_ifs at h with hzero
    have hp := List.find?_some h
    simp only [decide_eq_true_eq] at hp
    rcases hp with ⟨hid, howner, hbound⟩
    refine ⟨List.mem_of_find?_eq_some h, by rw [htenant, howner], hbound, ?_⟩
    unfold planIdOf at hplan
    split at hplan
    · rename_i value hvalue
      split_ifs at hplan
      · exact ⟨value, hvalue, by rw [hplan, hid]⟩
      · exact absurd (Option.some.inj hplan).symm hzero
    · exact absurd (Option.some.inj hplan).symm hzero
  · cases h

/-- The action of a record is the one its payload names. -/
theorem performedBy_named {calls : PayloadCalls} {plans : List Plan} {r : Record}
    {metadata payload : Json} {action : Performed}
    (hpayload : actionPayload r metadata = some payload)
    (h : performedBy calls plans r metadata = some action) : Names calls payload action := by
  unfold performedBy at h
  split at h
  · rename_i members hmembers
    rcases actionPayload_fields hmembers hpayload with
      ⟨hid, htenant, hquery, htarget, hplan, -⟩
    split_ifs at h with hremediation
    · rcases Option.map_eq_some_iff.mp h with ⟨p, hp, rfl⟩
      rcases approvedPlan_eq_some hp with ⟨-, howner, hbound, value, hvalue, hint⟩
      rw [isRemediation_iff.mp hremediation] at htarget
      rw [hvalue] at hplan
      rw [howner] at htenant
      exact Names.plan htarget hplan hint htenant hid hbound
    · cases h
      refine Names.query ?_ hquery
      rw [htarget]
      intro heq
      exact hremediation (isRemediation_iff.mpr (Option.some.inj heq))
  · cases h

/-- The payload of a plan is JSON. -/
theorem planPayload_isJson (float : String → String × Bool)
    (provider resourceId proposedAction findingType : String) :
    IsJson float (planPayload provider resourceId proposedAction findingType) := by
  refine IsJson.obj ?_ (by simp [IsJson.str])
  change ["provider", "resource_id", "proposed_action", "finding_type"].Nodup
  decide

/-- An approval that was requested for a plan names no other plan, and its payload shows
what the plan does. -/
theorem Names.requested {calls : PayloadCalls} {r : Record} {q : PlanColumns}
    {metadata payload : Json} {action : Performed}
    (hmetadata : planMetadata calls q = some metadata)
    (hpayload : actionPayload r metadata = some payload) (h : Names calls payload action) :
    (∃ p, action = .plan p ∧ p.columns.id = q.id) ∧
      ∃ findingType, field payload "action_payload" =
        some (planPayload q.provider q.resourceId q.proposedAction findingType) := by
  rcases q.written with ⟨findingType, hwritten⟩
  unfold planMetadata at hmetadata
  rw [hwritten, loads_dumps (planPayload_isJson _ _ _ _ _)] at hmetadata
  cases hmetadata
  rcases actionPayload_fields rfl hpayload with ⟨-, -, -, htarget, hplan, haction⟩
  refine ⟨?_, findingType, haction⟩
  cases h with
  | query htarget' htext => exact absurd htarget htarget'
  | @plan p value approvalId htarget' hvalue hid htenant happroval hbound =>
      refine ⟨p, rfl, ?_⟩
      rw [hplan] at hvalue
      cases hvalue
      exact Option.some.inj (hid.symm.trans (calls.toInt_int q.id))

/-- A plan that is performed is a row. -/
theorem performedBy_mem {calls : PayloadCalls} {plans : List Plan} {r : Record}
    {metadata : Json} {p : Plan} (h : performedBy calls plans r metadata = some (.plan p)) :
    p ∈ plans := by
  unfold performedBy at h
  split at h
  · split_ifs at h
    · rcases Option.map_eq_some_iff.mp h with ⟨q, hq, heq⟩
      cases heq
      exact (approvedPlan_eq_some hq).1
    · cases h
  · cases h

end AuthClaw.Approvals
