import AuthClaw.Library.JsonText
import AuthClaw.Policy.Versions

/-!
# The effects of the policy handlers

A handler either refuses and writes nothing, or it writes what one case of an effect says.
What later modules prove of the handlers they prove of the effects.

Main results:

- Theorem {lit}`handle_effect`: what a request writes when it is accepted.
- Theorem {lit}`handle_accepts_iff`: which requests are accepted.
-/

namespace AuthClaw.Policy

open PythonText Rows
open Events (columnText columnText_mono)

/-! ## What the statements write -/

section

variable {s : PolicySetting} {store store' : PolicyStore} {tenantId policyId version : Int}
  {actor status comments : String} {rules : List (String × Json)}

/-- The version row that is written: a row that was there keeps its tenant. -/
def recordedVersion (s : PolicySetting) (store : PolicyStore) (tenantId policyId version : Int)
    (status : String) (rules : List (String × Json)) : VersionRow where
  tenantId := ((store.versions.find (policyId, version)).map VersionRow.tenantId).getD tenantId
  policyId := policyId
  version := version
  status := status
  rules := s.dumps rules
  checksum := policyRulesChecksum s rules

/-- One policy and one version are written. -/
structure Writes (store store' : PolicyStore) (r : StoredPolicy) (v : VersionRow) : Prop where
  policies : ∀ k, store'.policies.find k = if k = r.id then some r else store.policies.find k
  versions : ∀ k, store'.versions.find k =
    if k = (v.policyId, v.version) then some v else store.versions.find k

theorem persistPolicyVersion_eq_some
    (h : persistPolicyVersion s tenantId policyId version status rules actor store = some store') :
    ∃ status', columnText 30 status = some status' ∧ columnText 255 actor ≠ none ∧
      store'.policies = store.policies ∧ store'.approvals = store.approvals ∧
      ∀ k, store'.versions.find k = if k = (policyId, version) then
        some (recordedVersion s store tenantId policyId version status' rules)
        else store.versions.find k := by
  unfold persistPolicyVersion at h
  rcases Option.bind_eq_some_iff.mp h with ⟨status', hstatus, h⟩
  rcases Option.bind_eq_some_iff.mp h with ⟨actor', hactor, h⟩
  cases h
  refine ⟨status', hstatus, hactor.trans_ne (Option.some_ne_none _), rfl, rfl, ?_⟩
  intro k
  dsimp only
  rw [Table.find_upsert]
  by_cases hk : k = (policyId, version)
  · rw [if_pos hk, if_pos hk]
    unfold recordedVersion
    cases hfind : store.versions.find (policyId, version) with
    | none => rfl
    | some v =>
        have hkey := Table.find_key hfind
        cases hkey
        rfl
  · rw [if_neg hk, if_neg hk]

theorem persistPolicyChangeApproval_eq_some
    (h : persistPolicyChangeApproval tenantId policyId status actor comments store =
      some store') :
    columnText 255 actor ≠ none ∧ comments.toList.contains (Char.ofNat 0) = false ∧
      store' = { store with approvals := store.approvals ++ [⟨tenantId, policyId, status⟩] } := by
  unfold persistPolicyChangeApproval at h
  rcases Option.bind_eq_some_iff.mp h with ⟨actor', hactor, h⟩
  refine ⟨hactor.trans_ne (Option.some_ne_none _), ?_⟩
  split_ifs at h with hnul
  cases h
  exact ⟨by simpa using hnul, rfl⟩

theorem ownPolicy_eq_some {r : StoredPolicy} (h : ownPolicy tenantId policyId store = some r) :
    store.policies.find policyId = some r ∧ r.id = policyId ∧ r.tenantId = some tenantId := by
  unfold ownPolicy at h
  rcases Option.filter_eq_some_iff.mp h with ⟨hfind, htenant⟩
  have hid := Table.find_key hfind
  exact ⟨hfind, hid, of_decide_eq_true htenant⟩

theorem requirePolicy_eq_ok {r : StoredPolicy} (h : requirePolicy tenantId policyId store = .ok r) :
    ownPolicy tenantId policyId store = some r := by
  unfold requirePolicy at h
  split at h
  next => cases h
  next r' hown =>
    cases h
    exact hown

/-- An update writes the row of the policy. -/
theorem find_updatePolicyRow {f : StoredPolicy → StoredPolicy} {hf : ∀ r, (f r).id = r.id}
    {r : StoredPolicy} (h : ownPolicy tenantId policyId store = some r) (k : Int) :
    (updatePolicyRow tenantId policyId f hf store).policies.find k =
      if k = (f r).id then some (f r) else store.policies.find k := by
  rcases ownPolicy_eq_some h with ⟨hfind, hid, htenant⟩
  unfold updatePolicyRow
  dsimp only
  rw [Table.find_update, hf, hid]
  by_cases hk : k = policyId
  · rw [if_pos hk, hk, hfind, Option.map_some, if_pos (decide_eq_true ⟨hid, htenant⟩)]
  · rw [if_neg hk]
    cases hother : store.policies.find k with
    | none => rfl
    | some r' =>
        have hr' : ¬ r'.id = policyId := fun hr' => hk ((Table.find_key hother).symm.trans hr')
        simp [hr']

/-- The policy is found again where its tenant is kept. -/
theorem ownPolicy_updatePolicyRow {f : StoredPolicy → StoredPolicy} {hf : ∀ r, (f r).id = r.id}
    {r : StoredPolicy} (h : ownPolicy tenantId policyId store = some r)
    (htenant : (f r).tenantId = r.tenantId) :
    ownPolicy tenantId policyId (updatePolicyRow tenantId policyId f hf store) = some (f r) := by
  rcases ownPolicy_eq_some h with ⟨-, hid, howner⟩
  unfold ownPolicy
  rw [find_updatePolicyRow h, if_pos (by rw [hf, hid]), Option.filter_some,
    if_pos (decide_eq_true (htenant.trans howner))]

/-- A version and a decision about a policy are written. -/
theorem writes_version {r : StoredPolicy} {store₁ store₂ : PolicyStore} {decision : String}
    (hpolicies : ∀ k, store₁.policies.find k =
      if k = r.id then some r else store.policies.find k)
    (hversions : store₁.versions = store.versions) (happrovals : store₁.approvals = store.approvals)
    (hpersist : persistPolicyVersion s tenantId policyId version status rules actor store₁ =
      some store₂)
    (happroval : persistPolicyChangeApproval tenantId policyId decision actor comments store₂ =
      some store') :
    columnText 255 actor ≠ none ∧ ∃ status', columnText 30 status = some status' ∧
      Writes store store' r (recordedVersion s store tenantId policyId version status' rules) ∧
      store'.approvals = store.approvals ++ [⟨tenantId, policyId, decision⟩] := by
  rcases persistPolicyVersion_eq_some hpersist with
    ⟨status', hstatus, hactor, hpolicies₂, happrovals₂, hversions₂⟩
  rcases persistPolicyChangeApproval_eq_some happroval with ⟨-, -, rfl⟩
  have hrecorded : recordedVersion s store₁ tenantId policyId version status' rules =
      recordedVersion s store tenantId policyId version status' rules := by
    unfold recordedVersion
    rw [hversions]
  refine ⟨hactor, status', hstatus, ⟨?_, ?_⟩, ?_⟩
  · intro k
    dsimp only
    rw [hpolicies₂]
    exact hpolicies k
  · intro k
    dsimp only
    rw [hversions₂ k, hrecorded, hversions]
    rfl
  · dsimp only
    rw [happrovals₂, happrovals]

/-! ## What the handlers write -/

/-- What an accepted request writes. -/
inductive Effect (s : PolicySetting) (store store' : PolicyStore) : PolicyAction → Prop
  | created {tenantId newId : Int} {actor status : String} {req : PolicyRequest}
      {columns : PolicyColumns} {decisions : List ApprovalRow}
      (new : store.policies.find newId = none)
      (fits : policyColumns actor req (createStatus req) = some columns)
      (recorded : columnText 30 (createStatus req) = some status)
      (writes : Writes store store' (createdRow s tenantId newId req columns)
        (recordedVersion s store tenantId newId 1 status (parseRules s.loads req.rules)))
      (decided : store'.approvals = store.approvals ++ decisions)
      (accepts : ∀ d ∈ decisions, d.policyId = newId ∧ d.status ≠ "rejected") :
      Effect s store store' (.create tenantId actor req newId)
  | updated {tenantId policyId : Int} {actor status decision : String} {req : PolicyRequest}
      {r : StoredPolicy} {columns : PolicyColumns}
      (own : ownPolicy tenantId policyId store = some r)
      (fits : policyColumns actor req (updateStatus req r) = some columns)
      (recorded : columnText 30 (updateStatus req r) = some status)
      (writes : Writes store store'
        (updatedRow s req (currentVersion r.toPolicyRow + 1) columns r)
        (recordedVersion s store tenantId policyId (currentVersion r.toPolicyRow + 1) status
          (parseRules s.loads req.rules)))
      (decided : store'.approvals = store.approvals ++ [⟨tenantId, policyId, decision⟩])
      (accepts : decision ≠ "rejected") :
      Effect s store store' (.update tenantId actor policyId req)
  | published {tenantId policyId : Int} {actor : String} {r : StoredPolicy}
      (own : ownPolicy tenantId policyId store = some r) (named : columnText 255 actor ≠ none)
      (valid : validatePolicyRulesForLifecycle s.py (.obj (parseRules s.loads r.rules)) = [])
      (writes : Writes store store' (publishedRow s (parseRules s.loads r.rules) r)
        (recordedVersion s store tenantId policyId (currentVersion r.toPolicyRow) "published"
          (parseRules s.loads r.rules)))
      (decided : store'.approvals = store.approvals ++ [⟨tenantId, policyId, "approved"⟩]) :
      Effect s store store' (.publish tenantId actor policyId)
  | approved {tenantId policyId : Int} {actor : String} {r : StoredPolicy}
      (own : ownPolicy tenantId policyId store = some r) (named : columnText 255 actor ≠ none)
      (writes : Writes store store' r
        (recordedVersion s store tenantId policyId (currentVersion r.toPolicyRow) "approved"
          (parseRules s.loads r.rules)))
      (decided : store'.approvals = store.approvals ++ [⟨tenantId, policyId, "approved"⟩]) :
      Effect s store store' (.approve tenantId actor policyId)
  | rejected {tenantId policyId : Int} {actor : String} {comments : Option String}
      {r : StoredPolicy} (own : ownPolicy tenantId policyId store = some r)
      (named : columnText 255 actor ≠ none)
      (commented : (rejectionComments comments).toList.contains (Char.ofNat 0) = false)
      (policies : store'.policies = store.policies) (versions : store'.versions = store.versions)
      (decided : store'.approvals = store.approvals ++ [⟨tenantId, policyId, "rejected"⟩]) :
      Effect s store store' (.reject tenantId actor policyId comments)
  | archived {tenantId policyId : Int} {actor : String} {r : StoredPolicy}
      (own : ownPolicy tenantId policyId store = some r) (named : columnText 255 actor ≠ none)
      (policies : ∀ k, store'.policies.find k =
        if k = r.id then some (archivedRow r) else store.policies.find k)
      (versions : ∀ k, store'.versions.find k = (store.versions.find k).map (fun v =>
        if v.policyId = policyId ∧ v.tenantId = tenantId ∧
          v.version = currentVersion r.toPolicyRow then { v with status := "archived" } else v))
      (decided : store'.approvals = store.approvals) :
      Effect s store store' (.archive tenantId actor policyId)
  | rolledBack {tenantId policyId target : Int} {actor : String} {r : StoredPolicy}
      {v : VersionRow} (positive : 0 < target)
      (version : store.versions.find (policyId, target) = some v)
      (ownVersion : v.tenantId = tenantId)
      (valid : validatePolicyRulesForLifecycle s.py (.obj (parseRules s.loads v.rules)) = [])
      (own : ownPolicy tenantId policyId store = some r) (named : columnText 255 actor ≠ none)
      (writes : Writes store store'
        (rolledBackRow s (parseRules s.loads v.rules) (currentVersion r.toPolicyRow + 1) r)
        (recordedVersion s store tenantId policyId (currentVersion r.toPolicyRow + 1) "published"
          (parseRules s.loads v.rules)))
      (decided : store'.approvals = store.approvals ++ [⟨tenantId, policyId, "approved"⟩]) :
      Effect s store store' (.rollback tenantId actor policyId target)

/-- The row of a policy is updated before that. -/
theorem writes_update {f : StoredPolicy → StoredPolicy} {hf : ∀ r, (f r).id = r.id}
    {r : StoredPolicy} {store₂ : PolicyStore} {decision : String}
    (hown : ownPolicy tenantId policyId store = some r)
    (hpersist : persistPolicyVersion s tenantId policyId version status rules actor
      (updatePolicyRow tenantId policyId f hf store) = some store₂)
    (happroval : persistPolicyChangeApproval tenantId policyId decision actor comments store₂ =
      some store') :
    columnText 255 actor ≠ none ∧ ∃ status', columnText 30 status = some status' ∧
      Writes store store' (f r)
        (recordedVersion s store tenantId policyId version status' rules) ∧
      store'.approvals = store.approvals ++ [⟨tenantId, policyId, decision⟩] :=
  writes_version (find_updatePolicyRow hown) rfl rfl hpersist happroval

theorem createPolicy_effect {newId : Int} {req : PolicyRequest} {answer : PolicyAnswer}
    (h : createPolicy s tenantId actor req newId store = .ok (answer, store')) :
    Effect s store store' (.create tenantId actor req newId) := by
  unfold createPolicy at h
  rcases bind_eq_ok h with ⟨columns, hcolumns, h⟩
  rcases bind_eq_ok h with ⟨policies, hinsert, h⟩
  rcases bind_eq_ok h with ⟨store₁, hpersist, h⟩
  have hinsert := stored_eq_ok hinsert
  rcases persistPolicyVersion_eq_some (stored_eq_ok hpersist) with
    ⟨status', hstatus, -, hpolicies, happrovals, hversions⟩
  have hwrites : ∀ {approvals : List ApprovalRow},
      Writes store { store₁ with approvals := approvals } (createdRow s tenantId newId req columns)
        (recordedVersion s store tenantId newId 1 status' (parseRules s.loads req.rules)) := by
    intro approvals
    constructor
    · intro k
      dsimp only
      rw [hpolicies, Table.find_insert hinsert]
    · exact hversions
  have hnew := Table.find_of_insert hinsert
  have hcolumns := stored_eq_ok hcolumns
  dsimp only at h
  split_ifs at h with hpublished hdraft
  · rcases bind_eq_ok h with ⟨store₂, hdecision, h⟩
    cases h
    rcases persistPolicyChangeApproval_eq_some (stored_eq_ok hdecision) with ⟨-, -, rfl⟩
    exact .created hnew hcolumns hstatus hwrites (congrArg (· ++ [_]) happrovals) (by simp)
  · rcases bind_eq_ok h with ⟨store₂, hdecision, h⟩
    cases h
    rcases persistPolicyChangeApproval_eq_some (stored_eq_ok hdecision) with ⟨-, -, rfl⟩
    exact .created hnew hcolumns hstatus hwrites (congrArg (· ++ [_]) happrovals) (by simp)
  · cases h
    exact .created hnew hcolumns hstatus hwrites
      (happrovals.trans (List.append_nil _).symm) (by simp)

/-- An update writes the policy and the version after the one that was read. -/
theorem writeUpdate_eq_ok {req : PolicyRequest} {before r : StoredPolicy}
    (hown : ownPolicy tenantId policyId store = some r)
    (h : writeUpdate s tenantId actor policyId req before store = .ok store') :
    ∃ columns status' decision, policyColumns actor req (updateStatus req before) = some columns ∧
      columnText 30 (updateStatus req before) = some status' ∧
      Writes store store' (updatedRow s req (currentVersion before.toPolicyRow + 1) columns r)
        (recordedVersion s store tenantId policyId (currentVersion before.toPolicyRow + 1) status'
          (parseRules s.loads req.rules)) ∧
      store'.approvals = store.approvals ++ [⟨tenantId, policyId, decision⟩] ∧
      decision ≠ "rejected" := by
  unfold writeUpdate at h
  rcases bind_eq_ok h with ⟨columns, hcolumns, h⟩
  rcases bind_eq_ok h with ⟨_, -, h⟩
  rcases bind_eq_ok h with ⟨store₂, hpersist, happroval⟩
  rcases writes_update hown (stored_eq_ok hpersist) (stored_eq_ok happroval) with
    ⟨-, status', hstatus, hwrites, hdecided⟩
  refine ⟨columns, status', _, stored_eq_ok hcolumns, hstatus, hwrites, hdecided, ?_⟩
  split_ifs
  · decide
  · decide

theorem updatePolicy_effect {req : PolicyRequest} {answer : PolicyAnswer}
    (h : updatePolicy s tenantId actor policyId req store = .ok (answer, store')) :
    Effect s store store' (.update tenantId actor policyId req) := by
  unfold updatePolicy at h
  rcases bind_eq_ok h with ⟨r, hr, h⟩
  rcases bind_eq_ok h with ⟨store₁, hwrite, h⟩
  cases h
  have hown := requirePolicy_eq_ok hr
  rcases writeUpdate_eq_ok hown hwrite with
    ⟨columns, status', decision, hcolumns, hstatus, hwrites, hdecided, haccepts⟩
  exact .updated hown hcolumns hstatus hwrites hdecided haccepts

theorem publishPolicy_effect {answer : PolicyAnswer}
    (h : publishPolicy s tenantId actor policyId store = .ok (answer, store')) :
    Effect s store store' (.publish tenantId actor policyId) := by
  unfold publishPolicy at h
  rcases bind_eq_ok h with ⟨r, hr, h⟩
  have hown := requirePolicy_eq_ok hr
  dsimp only at h
  split_ifs at h with hvalid
  · cases h
  · rcases bind_eq_ok h with ⟨store₂, hpersist, h⟩
    rcases bind_eq_ok h with ⟨store₃, happroval, h⟩
    cases h
    rcases writes_update hown (stored_eq_ok hpersist) (stored_eq_ok happroval) with
      ⟨hactor, status', hstatus, hwrites, hdecided⟩
    cases hstatus
    exact .published hown hactor (not_not.mp hvalid) hwrites hdecided

theorem approvePolicyChange_effect {answer : PolicyAnswer}
    (h : approvePolicyChange s tenantId actor policyId store = .ok (answer, store')) :
    Effect s store store' (.approve tenantId actor policyId) := by
  unfold approvePolicyChange at h
  rcases bind_eq_ok h with ⟨r, hr, h⟩
  rcases bind_eq_ok h with ⟨store₂, hpersist, h⟩
  rcases bind_eq_ok h with ⟨store₃, happroval, h⟩
  cases h
  have hown := requirePolicy_eq_ok hr
  rcases ownPolicy_eq_some hown with ⟨hfind, hid, -⟩
  rw [← hid] at hfind
  rcases writes_version (Table.find_eq_ite hfind) rfl rfl (stored_eq_ok hpersist)
      (stored_eq_ok happroval) with
    ⟨hactor, status', hstatus, hwrites, hdecided⟩
  cases hstatus
  exact .approved hown hactor hwrites hdecided

theorem rejectPolicyChange_effect {answer : PolicyAnswer} {comments : Option String}
    (h : rejectPolicyChange tenantId actor policyId comments store = .ok (answer, store')) :
    Effect s store store' (.reject tenantId actor policyId comments) := by
  unfold rejectPolicyChange at h
  rcases bind_eq_ok h with ⟨r, hr, h⟩
  rcases bind_eq_ok h with ⟨store₂, happroval, h⟩
  cases h
  rcases persistPolicyChangeApproval_eq_some (stored_eq_ok happroval) with ⟨hactor, hnul, rfl⟩
  exact .rejected (requirePolicy_eq_ok hr) hactor hnul rfl rfl rfl

theorem archivePolicy_effect {answer : PolicyAnswer}
    (h : archivePolicy tenantId actor policyId store = .ok (answer, store')) :
    Effect s store store' (.archive tenantId actor policyId) := by
  unfold archivePolicy at h
  rcases bind_eq_ok h with ⟨r, hr, h⟩
  rcases bind_eq_ok h with ⟨actor', hactor, h⟩
  cases h
  have hown := requirePolicy_eq_ok hr
  refine .archived hown ?_ ?_ ?_ rfl
  · exact (stored_eq_ok hactor).trans_ne (Option.some_ne_none _)
  · exact @find_updatePolicyRow store tenantId policyId archivedRow (fun _ => rfl) r hown
  · intro k
    dsimp only
    rw [Table.find_update]
    simp only [decide_eq_true_eq]
    rfl

theorem rollbackRules_eq_ok {target : Int}
    (h : rollbackRules s tenantId policyId target store = .ok rules) :
    0 < target ∧ ∃ v, store.versions.find (policyId, target) = some v ∧ v.tenantId = tenantId ∧
      rules = parseRules s.loads v.rules ∧
      validatePolicyRulesForLifecycle s.py (.obj (parseRules s.loads v.rules)) = [] := by
  unfold rollbackRules at h
  split_ifs at h with htarget
  refine ⟨by omega, ?_⟩
  split at h
  next => cases h
  next v hv =>
    rcases Option.filter_eq_some_iff.mp hv with ⟨hfind, htenant⟩
    dsimp only at h
    split_ifs at h with hvalid
    cases h
    exact ⟨v, hfind, of_decide_eq_true htenant, rfl, not_not.mp hvalid⟩

/-- A rollback writes the policy and the version after the one that was read. -/
theorem writeRollback_eq_ok {target : Int} {current r : StoredPolicy}
    (hown : ownPolicy tenantId policyId store = some r)
    (h : writeRollback s tenantId actor policyId target rules current store = .ok store') :
    columnText 255 actor ≠ none ∧
      Writes store store' (rolledBackRow s rules (currentVersion current.toPolicyRow + 1) r)
        (recordedVersion s store tenantId policyId (currentVersion current.toPolicyRow + 1)
          "published" rules) ∧
      store'.approvals = store.approvals ++ [⟨tenantId, policyId, "approved"⟩] := by
  unfold writeRollback at h
  rcases bind_eq_ok h with ⟨store₂, hpersist, happroval⟩
  rcases writes_update hown (stored_eq_ok hpersist) (stored_eq_ok happroval) with
    ⟨hactor, status', hstatus, hwrites, hdecided⟩
  cases hstatus
  exact ⟨hactor, hwrites, hdecided⟩

theorem rollbackPolicy_effect {target : Int} {answer : PolicyAnswer}
    (h : rollbackPolicy s tenantId actor policyId target store = .ok (answer, store')) :
    Effect s store store' (.rollback tenantId actor policyId target) := by
  unfold rollbackPolicy at h
  rcases bind_eq_ok h with ⟨rules, hrules, h⟩
  rcases bind_eq_ok h with ⟨r, hr, h⟩
  rcases bind_eq_ok h with ⟨store₁, hwrite, h⟩
  cases h
  have hown := requirePolicy_eq_ok hr
  rcases rollbackRules_eq_ok hrules with ⟨htarget, v, hv, htenant, rfl, hvalid⟩
  rcases writeRollback_eq_ok hown hwrite with ⟨hactor, hwrites, hdecided⟩
  exact .rolledBack htarget hv htenant hvalid hown hactor hwrites hdecided

/-- What a request writes when it is accepted. -/
theorem handle_effect {a : PolicyAction} {answer : PolicyAnswer}
    (h : handle s store a = .ok (answer, store')) : Effect s store store' a := by
  cases a with
  | create tenantId actor req newId => exact createPolicy_effect h
  | update tenantId actor policyId req => exact updatePolicy_effect h
  | publish tenantId actor policyId => exact publishPolicy_effect h
  | approve tenantId actor policyId => exact approvePolicyChange_effect h
  | reject tenantId actor policyId comments => exact rejectPolicyChange_effect h
  | archive tenantId actor policyId => exact archivePolicy_effect h
  | rollback tenantId actor policyId target => exact rollbackPolicy_effect h

/-! ## Which requests are accepted -/

/-- What a handler asks of a request. -/
def Admits (s : PolicySetting) (store : PolicyStore) : PolicyAction → Prop
  | .create _ actor req newId =>
      store.policies.find newId = none ∧ policyColumns actor req (createStatus req) ≠ none
  | .update tenantId actor policyId req =>
      ∃ r, ownPolicy tenantId policyId store = some r ∧
        policyColumns actor req (updateStatus req r) ≠ none
  | .publish tenantId actor policyId =>
      ∃ r, ownPolicy tenantId policyId store = some r ∧ columnText 255 actor ≠ none ∧
        validatePolicyRulesForLifecycle s.py (.obj (parseRules s.loads r.rules)) = []
  | .approve tenantId actor policyId =>
      ∃ r, ownPolicy tenantId policyId store = some r ∧ columnText 255 actor ≠ none
  | .reject tenantId actor policyId comments =>
      ∃ r, ownPolicy tenantId policyId store = some r ∧ columnText 255 actor ≠ none ∧
        (rejectionComments comments).toList.contains (Char.ofNat 0) = false
  | .archive tenantId actor policyId =>
      ∃ r, ownPolicy tenantId policyId store = some r ∧ columnText 255 actor ≠ none
  | .rollback tenantId actor policyId target =>
      0 < target ∧ ∃ v, store.versions.find (policyId, target) = some v ∧
        v.tenantId = tenantId ∧
        validatePolicyRulesForLifecycle s.py (.obj (parseRules s.loads v.rules)) = [] ∧
        ∃ r, ownPolicy tenantId policyId store = some r ∧ columnText 255 actor ≠ none

/-- An accepted request is one that its handler admits. -/
theorem Effect.admits {a : PolicyAction} (h : Effect s store store' a) : Admits s store a := by
  cases h with
  | created new fits => exact ⟨new, fits.trans_ne (Option.some_ne_none _)⟩
  | updated own fits => exact ⟨_, own, fits.trans_ne (Option.some_ne_none _)⟩
  | published own named valid => exact ⟨_, own, named, valid⟩
  | approved own named => exact ⟨_, own, named⟩
  | rejected own named commented => exact ⟨_, own, named, commented⟩
  | archived own named => exact ⟨_, own, named⟩
  | rolledBack positive version ownVersion valid own named =>
      exact ⟨positive, _, version, ownVersion, valid, _, own, named⟩

theorem policyColumns_eq_some {req : PolicyRequest} {columns : PolicyColumns}
    (h : policyColumns actor req status = some columns) :
    columnText 20 status = some columns.status ∧ columnText 30 status ≠ none ∧
      columnText 255 actor ≠ none := by
  unfold policyColumns at h
  rcases Option.bind_eq_some_iff.mp h with ⟨name, -, h⟩
  rcases Option.bind_eq_some_iff.mp h with ⟨type, -, h⟩
  rcases Option.bind_eq_some_iff.mp h with ⟨severityLevel, -, h⟩
  rcases Option.bind_eq_some_iff.mp h with ⟨status', hstatus, h⟩
  rcases Option.bind_eq_some_iff.mp h with ⟨actor', hactor, h⟩
  cases h
  have hshort : columnText 20 status ≠ none := hstatus.trans_ne (Option.some_ne_none _)
  exact ⟨hstatus, columnText_mono (by decide) hshort, hactor.trans_ne (Option.some_ne_none _)⟩

/-- A statement that the database takes is followed by the rest. -/
theorem stored_bind_ok {α β : Type} {x : Option α} {f : α → Except LifecycleError β}
    (hx : ∃ a, x = some a) (hf : ∀ a, x = some a → ∃ b, f a = .ok b) :
    ∃ b, (stored x >>= f) = .ok b := by
  rcases hx with ⟨a, ha⟩
  rw [ha]
  exact hf a ha

theorem requirePolicy_bind_ok {β : Type} {r : StoredPolicy}
    {f : StoredPolicy → Except LifecycleError β} (hown : ownPolicy tenantId policyId store = some r)
    (hf : ∃ b, f r = .ok b) : ∃ b, (requirePolicy tenantId policyId store >>= f) = .ok b := by
  unfold requirePolicy
  rw [hown]
  exact hf

theorem exists_persistPolicyVersion (hstatus : columnText 30 status ≠ none)
    (hactor : columnText 255 actor ≠ none) :
    ∃ store', persistPolicyVersion s tenantId policyId version status rules actor store =
      some store' := by
  rcases Option.ne_none_iff_exists'.mp hstatus with ⟨status', hstatus⟩
  rcases Option.ne_none_iff_exists'.mp hactor with ⟨actor', hactor⟩
  unfold persistPolicyVersion
  rw [hstatus, hactor]
  exact ⟨_, rfl⟩

theorem exists_persistPolicyChangeApproval (hactor : columnText 255 actor ≠ none)
    (hcomments : comments.toList.contains (Char.ofNat 0) = false) :
    ∃ store', persistPolicyChangeApproval tenantId policyId status actor comments store =
      some store' := by
  rcases Option.ne_none_iff_exists'.mp hactor with ⟨actor', hactor⟩
  unfold persistPolicyChangeApproval
  rw [hactor, hcomments]
  exact ⟨_, rfl⟩

theorem createPolicy_accepts {req : PolicyRequest} {newId : Int}
    (hnew : store.policies.find newId = none)
    (hcolumns : policyColumns actor req (createStatus req) ≠ none) :
    ∃ result, createPolicy s tenantId actor req newId store = .ok result := by
  rcases Option.ne_none_iff_exists'.mp hcolumns with ⟨columns, hcolumns⟩
  rcases policyColumns_eq_some hcolumns with ⟨-, hstatus, hactor⟩
  unfold createPolicy
  refine stored_bind_ok ⟨columns, hcolumns⟩ ?_
  rintro columns' -
  refine stored_bind_ok (Table.exists_insert hnew) ?_
  rintro policies -
  refine stored_bind_ok (exists_persistPolicyVersion hstatus hactor) ?_
  rintro store₁ -
  dsimp only
  split_ifs
  · refine stored_bind_ok (exists_persistPolicyChangeApproval hactor (by decide)) ?_
    exact fun store₂ _ => ⟨_, rfl⟩
  · refine stored_bind_ok (exists_persistPolicyChangeApproval hactor (by decide)) ?_
    exact fun store₂ _ => ⟨_, rfl⟩
  · exact ⟨_, rfl⟩

/-- The statements that record a version and the decision about it. -/
theorem recorded_accepts {decision : String} {store₁ : PolicyStore}
    (hstatus : columnText 30 status ≠ none) (hactor : columnText 255 actor ≠ none)
    (hcomments : comments.toList.contains (Char.ofNat 0) = false) :
    ∃ store', (stored (persistPolicyVersion s tenantId policyId version status rules actor
        store₁) >>= fun store => stored (persistPolicyChangeApproval tenantId policyId decision
          actor comments store)) = .ok store' := by
  refine stored_bind_ok (exists_persistPolicyVersion hstatus hactor) ?_
  rintro store₂ -
  rcases exists_persistPolicyChangeApproval hactor hcomments with ⟨store₃, hstore₃⟩
  rw [hstore₃]
  exact ⟨store₃, rfl⟩

theorem writeUpdate_accepts {req : PolicyRequest} {before r : StoredPolicy}
    (hown : ownPolicy tenantId policyId store = some r)
    (hcolumns : policyColumns actor req (updateStatus req before) ≠ none) :
    ∃ store', writeUpdate s tenantId actor policyId req before store = .ok store' := by
  rcases Option.ne_none_iff_exists'.mp hcolumns with ⟨columns, hcolumns⟩
  rcases policyColumns_eq_some hcolumns with ⟨-, hstatus, hactor⟩
  unfold writeUpdate
  refine stored_bind_ok ⟨columns, hcolumns⟩ ?_
  rintro columns' -
  refine requirePolicy_bind_ok (ownPolicy_updatePolicyRow hown rfl) ?_
  exact recorded_accepts hstatus hactor (by decide)

/-- A version number is a text without NUL. -/
theorem rollbackComments_noNul (target : Int) :
    ("Rollback to version " ++ toString target ++ " approved.").toList.contains (Char.ofNat 0) =
      false := by
  rw [← Bool.not_eq_true, List.contains_iff_mem, String.toList_append, String.toList_append,
    List.mem_append, List.mem_append]
  rintro ((h | h) | h)
  · exact absurd h (by decide)
  · rcases JsonText.mem_int_repr h with hsign | hdigit
    · exact absurd hsign (by decide)
    · exact absurd hdigit (by decide)
  · exact absurd h (by decide)

theorem writeRollback_accepts {target : Int} {r : StoredPolicy}
    (hactor : columnText 255 actor ≠ none) :
    ∃ store', writeRollback s tenantId actor policyId target rules r store = .ok store' :=
  recorded_accepts (by decide) hactor (rollbackComments_noNul target)

theorem rollbackPolicy_accepts {target : Int} {v : VersionRow} {r : StoredPolicy}
    (htarget : 0 < target) (hv : store.versions.find (policyId, target) = some v)
    (htenant : v.tenantId = tenantId)
    (hvalid : validatePolicyRulesForLifecycle s.py (.obj (parseRules s.loads v.rules)) = [])
    (hown : ownPolicy tenantId policyId store = some r) (hactor : columnText 255 actor ≠ none) :
    ∃ result, rollbackPolicy s tenantId actor policyId target store = .ok result := by
  have hrules : rollbackRules s tenantId policyId target store =
      .ok (parseRules s.loads v.rules) := by
    unfold rollbackRules
    rw [if_neg (by omega), hv, Option.filter_some, if_pos (decide_eq_true htenant)]
    dsimp only
    rw [if_neg (not_not.mpr hvalid)]
  unfold rollbackPolicy
  rw [hrules]
  refine requirePolicy_bind_ok hown ?_
  rcases @writeRollback_accepts s store tenantId policyId actor (parseRules s.loads v.rules)
    target r hactor with ⟨store', hstore'⟩
  rw [hstore']
  exact ⟨_, rfl⟩

/-- A request that its handler admits is accepted. -/
theorem Admits.accepted {a : PolicyAction} (h : Admits s store a) :
    ∃ result, handle s store a = .ok result := by
  cases a with
  | create tenantId actor req newId => exact createPolicy_accepts h.1 h.2
  | update tenantId actor policyId req =>
      rcases h with ⟨r, hown, hcolumns⟩
      refine requirePolicy_bind_ok hown ?_
      rcases @writeUpdate_accepts s store tenantId policyId actor req r r hown hcolumns with
        ⟨store', hstore'⟩
      rw [hstore']
      exact ⟨_, rfl⟩
  | publish tenantId actor policyId =>
      rcases h with ⟨r, hown, hactor, hvalid⟩
      refine requirePolicy_bind_ok hown ?_
      dsimp only
      rw [if_neg (not_not.mpr hvalid)]
      refine stored_bind_ok (exists_persistPolicyVersion (by decide) hactor) ?_
      rintro store₁ -
      refine stored_bind_ok (exists_persistPolicyChangeApproval hactor (by decide)) ?_
      exact fun store₂ _ => ⟨_, rfl⟩
  | approve tenantId actor policyId =>
      rcases h with ⟨r, hown, hactor⟩
      refine requirePolicy_bind_ok hown ?_
      refine stored_bind_ok (exists_persistPolicyVersion (by decide) hactor) ?_
      rintro store₁ -
      refine stored_bind_ok (exists_persistPolicyChangeApproval hactor (by decide)) ?_
      exact fun store₂ _ => ⟨_, rfl⟩
  | reject tenantId actor policyId comments =>
      rcases h with ⟨r, hown, hactor, hcomments⟩
      refine requirePolicy_bind_ok hown ?_
      refine stored_bind_ok (exists_persistPolicyChangeApproval hactor hcomments) ?_
      exact fun store₁ _ => ⟨_, rfl⟩
  | archive tenantId actor policyId =>
      rcases h with ⟨r, hown, hactor⟩
      refine requirePolicy_bind_ok hown ?_
      refine stored_bind_ok (Option.ne_none_iff_exists'.mp hactor) ?_
      exact fun actor' _ => ⟨_, rfl⟩
  | rollback tenantId actor policyId target =>
      rcases h with ⟨htarget, v, hv, htenant, hvalid, r, hown, hactor⟩
      exact rollbackPolicy_accepts htarget hv htenant hvalid hown hactor

/-- Which requests are accepted. -/
theorem handle_accepts_iff {a : PolicyAction} :
    (∃ result, handle s store a = .ok result) ↔ Admits s store a := by
  constructor
  · rintro ⟨⟨answer, store'⟩, h⟩
    exact (handle_effect h).admits
  · exact Admits.accepted

/-- A request either has an effect or changes nothing. -/
theorem policyStep_cases {a : PolicyAction} (h : policyStep s store a = some store') :
    (Admits s store a ∧ Effect s store store' a) ∨ (¬ Admits s store a ∧ store' = store) := by
  unfold policyStep at h
  split at h
  next error herror =>
    cases h
    right
    refine ⟨fun hadmits => ?_, rfl⟩
    rcases hadmits.accepted with ⟨result, hresult⟩
    rw [herror] at hresult
    cases hresult
  next answer store'' hok =>
    cases h
    left
    exact ⟨(handle_effect hok).admits, handle_effect hok⟩

end

end AuthClaw.Policy
