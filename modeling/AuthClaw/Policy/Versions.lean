import AuthClaw.Events.Pipeline
import AuthClaw.Library.Keyed
import AuthClaw.Policy.Loaders

/-!
# Policies and their versions

The handlers of a policy's life write three tables: the policies, their versions, and the
decisions about their changes.  Each is a transaction, which changes nothing when it fails.

Main results:

- Theorem {lit}`policyStep_total`: every request ends.
-/

namespace AuthClaw.Policy

open PythonText Rows
open Events (columnText)

/-! ## The tables -/

/-- What the handlers compute with: the interpreter, JSON texts and a hash.  An object that
was read from a text is read from its own text again. -/
structure PolicySetting where
  py : PyText
  loads : String → Option Json
  dumps : List (String × Json) → String
  /-- `json.dumps(rules, sort_keys=True, separators=(",", ":"))`. -/
  dumpsSorted : List (String × Json) → String
  sha256 : String → String
  loads_dumps : ∀ text members, loads text = some (.obj members) →
    loads (dumps members) = some (.obj members)
  loads_dumps_nil : loads (dumps []) = some (.obj [])

/-- A row of `policies` with its checksum. -/
structure StoredPolicy extends PolicyRow where
  checksum : Option String

/-- A row of `policy_versions`. -/
structure VersionRow where
  tenantId : Int
  policyId : Int
  version : Int
  status : String
  rules : String
  checksum : String

/-- A row of `policy_change_approvals`. -/
structure ApprovalRow where
  tenantId : Int
  policyId : Int
  status : String

/-- The tables; a policy has its id, and a version its policy and number. -/
structure PolicyStore where
  policies : Table (fun r : StoredPolicy => r.id)
  versions : Table (fun v : VersionRow => (v.policyId, v.version))
  approvals : List ApprovalRow

/-- Empty tables. -/
def PolicyStore.empty : PolicyStore :=
  ⟨Table.empty, Table.empty, []⟩

/-- Why a handler raises. -/
inductive LifecycleError where
  | http (status : Nat) (detail : String)
  /-- `HTTPException` 400 with a message and its errors. -/
  | invalid (message : String) (errors : List String)
  | database
deriving DecidableEq

/-- What a handler answers. -/
structure PolicyAnswer where
  message : String
  version : Int
  policyId : Option Int
  rolledBackTo : Option Int

/-- A statement that the database may refuse. -/
def stored {α : Type} : Option α → Except LifecycleError α
  | none => .error .database
  | some a => .ok a

theorem stored_eq_ok {α : Type} {x : Option α} {a : α} (h : stored x = .ok a) : x = some a := by
  cases x with
  | none => cases h
  | some b =>
      cases h
      rfl

/-! ## Validation -/

/-- `LIFECYCLE_ALLOWED_RULE_KEYS`. -/
def lifecycleAllowedRuleKeys : List String :=
  ["action", "allowed_topics", "blocked_keywords", "blocked_topics", "categories", "category",
    "category_actions", "pii_redaction", "secret_detection", "actions"]

section

variable (py : PyText)

/-- A text that is not blank. -/
def filledText : Json → Bool
  | .str s => py.strip s ≠ ""
  | _ => false

/-- What is wrong with the list of a rule. -/
def listRuleErrors (rules : List (String × Json)) (key : String) : List String :=
  let check : List Json → List String := fun items =>
    (if key ≠ "allowed_topics" ∧ items.all (fun item => py.strip (py.str item) = "") then
      ["Policy rules." ++ key ++ " must contain at least one non-empty value."] else []) ++
    (if items.any (fun item => !filledText py item) then
      ["Policy rules." ++ key ++ " contains an empty or non-string value."] else [])
  match getKey rules key with
  | none => []
  | some (.str s) => check [.str s]
  | some (.arr items) => check items
  | some _ => ["Policy rules." ++ key ++ " must be a string or list of strings."]

/-- What is wrong with the actions of categories, up to the first blank category. -/
def categoryErrors (key : String) : List (String × Json) → List String
  | [] => []
  | (category, action) :: rest =>
      if py.strip category = "" then
        ["Policy rules." ++ key ++ " contains an invalid category name."]
      else
        (if normalizeAction py (some action) = none then
          ["Policy rules." ++ key ++ "." ++ category ++ " action '" ++ py.str action ++
            "' is not supported."]
          else []) ++ categoryErrors key rest

/-- What is wrong with a rule that maps categories to actions. -/
def actionsRuleErrors (rules : List (String × Json)) (key : String) : List String :=
  match getKey rules key with
  | none => []
  | some (.obj members) => categoryErrors py key members
  | some _ => ["Policy rules." ++ key ++ " must be an object."]

/-- What is wrong with a rule that is switched on or off. -/
def switchRuleErrors (rules : List (String × Json)) (key : String) : List String :=
  match getKey rules key with
  | none => []
  | some (.bool _) => []
  | some _ => ["Policy rules." ++ key ++ " must be a boolean."]

/-- The keys that no rule has, sorted. -/
def unknownKeys (rules : List (String × Json)) : List String :=
  ((rules.map Prod.fst).filter (fun key => key ∉ lifecycleAllowedRuleKeys)).dedup.insertionSort
    (fun a b => a ≤ b)

/-- `validate_policy_rules_for_lifecycle`. -/
def validatePolicyRulesForLifecycle : Json → List String
  | .obj rules =>
      (if lifecycleAllowedRuleKeys.any (fun key => (getKey rules key).isSome) then []
        else ["Policy rules must contain at least one enforceable control."]) ++
      (if unknownKeys rules = [] then []
        else ["Policy rules contain unsupported keys: " ++
          ", ".intercalate (unknownKeys rules) ++ "."]) ++
      (match getKey rules "action" with
        | none | some .null => []
        | some action =>
            if normalizeAction py (some action) = none then
              ["Policy action '" ++ py.str action ++ "' is not supported."] else []) ++
      ["blocked_keywords", "blocked_topics", "allowed_topics", "categories"].flatMap
        (listRuleErrors py rules) ++
      ["category_actions", "actions"].flatMap (actionsRuleErrors py rules) ++
      ["pii_redaction", "secret_detection"].flatMap (switchRuleErrors rules)
  | _ => ["Policy rules must be a JSON object."]

end

/-! ## The handlers -/

section

variable (s : PolicySetting)

/-- `policy_rules_checksum`. -/
def policyRulesChecksum (rules : List (String × Json)) : String :=
  s.sha256 (s.dumpsSorted rules)

/-- `PolicyRequest`. -/
structure PolicyRequest where
  name : String
  type : String
  rules : String
  enabled : Bool
  status : Option String
  severityLevel : Option String

/-- The texts of a request as the columns of `policies` take them. -/
structure PolicyColumns where
  name : String
  type : String
  severityLevel : String
  status : String

/-- The columns of a request, with the name of who makes it. -/
def policyColumns (actor : String) (req : PolicyRequest) (status : String) :
    Option PolicyColumns := do
  let name ← columnText 100 req.name
  let type ← columnText 50 req.type
  let severityLevel ← columnText 20 (orDefault (req.severityLevel.getD "") "MEDIUM")
  let status ← columnText 20 status
  let _ ← columnText 255 actor
  return ⟨name, type, severityLevel, status⟩

/-- `int(version or 1)`. -/
def currentVersion (r : PolicyRow) : Int :=
  if r.version.getD 1 = 0 then 1 else r.version.getD 1

/-- `SELECT ... FROM policies WHERE id = :id AND tenant_id = :tenant_id`. -/
def ownPolicy (tenantId policyId : Int) (store : PolicyStore) : Option StoredPolicy :=
  (store.policies.find policyId).filter (fun r => r.tenantId = some tenantId)

/-- The policy, or the answer 404. -/
def requirePolicy (tenantId policyId : Int) (store : PolicyStore) :
    Except LifecycleError StoredPolicy :=
  match ownPolicy tenantId policyId store with
  | none => .error (.http 404 "Policy not found.")
  | some r => .ok r

/-- `UPDATE policies SET ... WHERE id = :id AND tenant_id = :tenant_id`. -/
def updatePolicyRow (tenantId policyId : Int) (f : StoredPolicy → StoredPolicy)
    (hf : ∀ r, (f r).id = r.id) (store : PolicyStore) : PolicyStore :=
  { store with
    policies := store.policies.update (fun r => r.id = policyId ∧ r.tenantId = some tenantId) f hf }

/-- `persist_policy_version`. -/
def persistPolicyVersion (tenantId policyId version : Int) (status : String)
    (rules : List (String × Json)) (actor : String) (store : PolicyStore) : Option PolicyStore := do
  let status ← columnText 30 status
  let _ ← columnText 255 actor
  return { store with
    versions := store.versions.upsert
      ⟨tenantId, policyId, version, status, s.dumps rules, policyRulesChecksum s rules⟩
      (fun v => { v with
        status := status
        rules := s.dumps rules
        checksum := policyRulesChecksum s rules }) (fun _ => rfl) }

/-- `persist_policy_change_approval`. -/
def persistPolicyChangeApproval (tenantId policyId : Int) (status actor comments : String)
    (store : PolicyStore) : Option PolicyStore := do
  let _ ← columnText 255 actor
  if comments.toList.contains (Char.ofNat 0) then none
  else return { store with approvals := store.approvals ++ [⟨tenantId, policyId, status⟩] }

/-- The row of a new policy. -/
def createdRow (tenantId newId : Int) (req : PolicyRequest) (columns : PolicyColumns) :
    StoredPolicy where
  id := newId
  name := columns.name
  type := columns.type
  rules := s.dumps (parseRules s.loads req.rules)
  enabled := some req.enabled
  tenantId := some tenantId
  version := some 1
  status := some columns.status
  severityLevel := some columns.severityLevel
  checksum := some (policyRulesChecksum s (parseRules s.loads req.rules))

/-- `policy.status or "published"`. -/
def createStatus (req : PolicyRequest) : String :=
  orDefault (req.status.getD "") "published"

/-- `create_policy`; the id is the next of its sequence. -/
def createPolicy (tenantId : Int) (actor : String) (req : PolicyRequest) (newId : Int)
    (store : PolicyStore) : Except LifecycleError (PolicyAnswer × PolicyStore) := do
  let rules := parseRules s.loads req.rules
  let status := createStatus req
  let columns ← stored (policyColumns actor req status)
  let policies ← stored (store.policies.insert (createdRow s tenantId newId req columns))
  let store ← stored (persistPolicyVersion s tenantId newId 1 status rules actor
    { store with policies := policies })
  let store ←
    if status = "published" then
      stored (persistPolicyChangeApproval tenantId newId "approved" actor
        "Initial policy approved for publication." store)
    else if status = "draft" ∨ status = "pending_approval" then
      stored (persistPolicyChangeApproval tenantId newId "pending" actor
        "Policy change pending approval." store)
    else .ok store
  return (⟨"Policy created.", 1, some newId, none⟩, store)

/-- The status after an update. -/
def updateStatus (req : PolicyRequest) (before : StoredPolicy) : String :=
  orDefault (req.status.getD "") (orDefault (before.status.getD "published") "published")

/-- A row after an update. -/
def updatedRow (req : PolicyRequest) (version : Int) (columns : PolicyColumns)
    (r : StoredPolicy) : StoredPolicy :=
  { r with
    name := columns.name
    type := columns.type
    rules := s.dumps (parseRules s.loads req.rules)
    enabled := some req.enabled
    severityLevel := some columns.severityLevel
    version := some version
    status := some columns.status
    checksum := some (policyRulesChecksum s (parseRules s.loads req.rules)) }

/-- `update_policy`, once it has read the policy. -/
def writeUpdate (tenantId : Int) (actor : String) (policyId : Int) (req : PolicyRequest)
    (before : StoredPolicy) (store : PolicyStore) : Except LifecycleError PolicyStore := do
  let rules := parseRules s.loads req.rules
  let version := currentVersion before.toPolicyRow + 1
  let status := updateStatus req before
  let columns ← stored (policyColumns actor req status)
  let store :=
    updatePolicyRow tenantId policyId (updatedRow s req version columns) (fun _ => rfl) store
  -- `result.rowcount == 0`
  let _ ← requirePolicy tenantId policyId store
  let store ← stored (persistPolicyVersion s tenantId policyId version status rules actor store)
  stored (persistPolicyChangeApproval tenantId policyId
    (if status = "published" then "approved" else "pending") actor
    "Policy version change recorded." store)

/-- `update_policy`. -/
def updatePolicy (tenantId : Int) (actor : String) (policyId : Int) (req : PolicyRequest)
    (store : PolicyStore) : Except LifecycleError (PolicyAnswer × PolicyStore) := do
  let before ← requirePolicy tenantId policyId store
  let store ← writeUpdate s tenantId actor policyId req before store
  return (⟨"Policy updated.", currentVersion before.toPolicyRow + 1, none, none⟩, store)

/-- A row that is published. -/
def publishedRow (rules : List (String × Json)) (r : StoredPolicy) : StoredPolicy :=
  { r with
    status := some "published"
    checksum := some (policyRulesChecksum s rules) }

/-- `publish_policy`. -/
def publishPolicy (tenantId : Int) (actor : String) (policyId : Int) (store : PolicyStore) :
    Except LifecycleError (PolicyAnswer × PolicyStore) := do
  let r ← requirePolicy tenantId policyId store
  let rules := parseRules s.loads r.rules
  let errors := validatePolicyRulesForLifecycle s.py (.obj rules)
  if errors ≠ [] then throw (.invalid "Policy cannot be published." errors)
  let version := currentVersion r.toPolicyRow
  let store := updatePolicyRow tenantId policyId (publishedRow s rules) (fun _ => rfl) store
  let store ← stored
    (persistPolicyVersion s tenantId policyId version "published" rules actor store)
  let store ← stored (persistPolicyChangeApproval tenantId policyId "approved" actor
    "Policy version approved and published." store)
  return (⟨"Policy published.", version, none, none⟩, store)

/-- `approve_policy_change`. -/
def approvePolicyChange (tenantId : Int) (actor : String) (policyId : Int) (store : PolicyStore) :
    Except LifecycleError (PolicyAnswer × PolicyStore) := do
  let r ← requirePolicy tenantId policyId store
  let rules := parseRules s.loads r.rules
  let version := currentVersion r.toPolicyRow
  let store ← stored (persistPolicyVersion s tenantId policyId version "approved" rules actor store)
  let store ← stored (persistPolicyChangeApproval tenantId policyId "approved" actor
    "Policy version approved." store)
  return (⟨"Policy change approved.", version, none, none⟩, store)

/-- `(payload or {}).get("comments") or "Policy change rejected."`. -/
def rejectionComments (comments : Option String) : String :=
  orDefault (comments.getD "") "Policy change rejected."

/-- `reject_policy_change`. -/
def rejectPolicyChange (tenantId : Int) (actor : String) (policyId : Int)
    (comments : Option String) (store : PolicyStore) :
    Except LifecycleError (PolicyAnswer × PolicyStore) := do
  let r ← requirePolicy tenantId policyId store
  let store ← stored (persistPolicyChangeApproval tenantId policyId "rejected" actor
    (rejectionComments comments) store)
  return (⟨"Policy change rejected.", currentVersion r.toPolicyRow, none, none⟩, store)

/-- A row that is archived. -/
def archivedRow (r : StoredPolicy) : StoredPolicy :=
  { r with status := some "archived" }

/-- `archive_policy`. -/
def archivePolicy (tenantId : Int) (actor : String) (policyId : Int) (store : PolicyStore) :
    Except LifecycleError (PolicyAnswer × PolicyStore) := do
  let r ← requirePolicy tenantId policyId store
  let version := currentVersion r.toPolicyRow
  let _ ← stored (columnText 255 actor)
  let store := updatePolicyRow tenantId policyId archivedRow (fun _ => rfl) store
  let store := { store with
    versions := store.versions.update
      (fun v => v.policyId = policyId ∧ v.tenantId = tenantId ∧ v.version = version)
      (fun v => { v with status := "archived" }) (fun _ => rfl) }
  return (⟨"Policy archived.", version, none, none⟩, store)

/-- The rules that `rollback_policy` reads. -/
def rollbackRules (tenantId policyId target : Int) (store : PolicyStore) :
    Except LifecycleError (List (String × Json)) :=
  if target ≤ 0 then .error (.http 400 "Rollback version is required.")
  else
    match (store.versions.find (policyId, target)).filter (fun v => v.tenantId = tenantId) with
    | none => .error (.http 404 "Policy version not found.")
    | some v =>
        let rules := parseRules s.loads v.rules
        let errors := validatePolicyRulesForLifecycle s.py (.obj rules)
        if errors ≠ [] then .error (.invalid "Policy version cannot be rolled back." errors)
        else .ok rules

/-- A row that is rolled back. -/
def rolledBackRow (rules : List (String × Json)) (version : Int) (r : StoredPolicy) :
    StoredPolicy :=
  { r with
    rules := s.dumps rules
    version := some version
    status := some "published"
    checksum := some (policyRulesChecksum s rules) }

/-- `rollback_policy`, once it has read the policy. -/
def writeRollback (tenantId : Int) (actor : String) (policyId target : Int)
    (rules : List (String × Json)) (current : StoredPolicy) (store : PolicyStore) :
    Except LifecycleError PolicyStore := do
  let version := currentVersion current.toPolicyRow + 1
  let store :=
    updatePolicyRow tenantId policyId (rolledBackRow s rules version) (fun _ => rfl) store
  let store ← stored
    (persistPolicyVersion s tenantId policyId version "published" rules actor store)
  stored (persistPolicyChangeApproval tenantId policyId "approved" actor
    ("Rollback to version " ++ toString target ++ " approved.") store)

/-- `rollback_policy`. -/
def rollbackPolicy (tenantId : Int) (actor : String) (policyId target : Int)
    (store : PolicyStore) : Except LifecycleError (PolicyAnswer × PolicyStore) := do
  let rules ← rollbackRules s tenantId policyId target store
  let current ← requirePolicy tenantId policyId store
  let store ← writeRollback s tenantId actor policyId target rules current store
  return (⟨"Policy rolled back.", currentVersion current.toPolicyRow + 1, none, some target⟩, store)

end

/-- A request to one of the handlers. -/
inductive PolicyAction where
  | create (tenantId : Int) (actor : String) (req : PolicyRequest) (newId : Int)
  | update (tenantId : Int) (actor : String) (policyId : Int) (req : PolicyRequest)
  | publish (tenantId : Int) (actor : String) (policyId : Int)
  | approve (tenantId : Int) (actor : String) (policyId : Int)
  | reject (tenantId : Int) (actor : String) (policyId : Int) (comments : Option String)
  | archive (tenantId : Int) (actor : String) (policyId : Int)
  | rollback (tenantId : Int) (actor : String) (policyId target : Int)

/-- The handler of a request. -/
def handle (s : PolicySetting) (store : PolicyStore) :
    PolicyAction → Except LifecycleError (PolicyAnswer × PolicyStore)
  | .create tenantId actor req newId => createPolicy s tenantId actor req newId store
  | .update tenantId actor policyId req => updatePolicy s tenantId actor policyId req store
  | .publish tenantId actor policyId => publishPolicy s tenantId actor policyId store
  | .approve tenantId actor policyId => approvePolicyChange s tenantId actor policyId store
  | .reject tenantId actor policyId comments =>
      rejectPolicyChange tenantId actor policyId comments store
  | .archive tenantId actor policyId => archivePolicy tenantId actor policyId store
  | .rollback tenantId actor policyId target =>
      rollbackPolicy s tenantId actor policyId target store

/-- A request, which always ends. -/
def policyStep (s : PolicySetting) (store : PolicyStore) (a : PolicyAction) : Option PolicyStore :=
  match handle s store a with
  | .error _ => some store
  | .ok (_, store') => some store'

/-- Every request ends. -/
theorem policyStep_total (s : PolicySetting) (store : PolicyStore) (a : PolicyAction) :
    ∃ store', policyStep s store a = some store' := by
  unfold policyStep
  split
  · exact ⟨_, rfl⟩
  · exact ⟨_, rfl⟩

end AuthClaw.Policy
