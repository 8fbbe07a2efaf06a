import AuthClaw.Policy.History

/-!
# The policies that are enforced

The engine loads the rows that are enabled and whose status is live.  Publications and rollbacks
validate the rules first; creations and updates write any rules, with the status a request asks
for.  A rejection is recorded beside the row, which stays as it is.

Main results:

- Theorem {lit}`cleared_iff`: what is loaded, by rows.
- Theorem {lit}`enforced_cleared_iff`: when only validated and unrejected policies are enforced.
-/

namespace AuthClaw.Policy

open PythonText Rows StepSystem
open Events (columnText columnText_eq_some columnText_length)

section

variable {s : PolicySetting} {store store' : PolicyStore}

/-! ## What is loaded -/

/-- The rows that `load_policies` reads. -/
def PolicyStore.table (store : PolicyStore) : PolicyTable where
  rows := store.policies.rows.map StoredPolicy.toPolicyRow
  ids_nodup := by
    rw [List.map_map]
    exact store.policies.nodup

/-- How the latest change of a policy was decided. -/
def lastDecision (approvals : List ApprovalRow) (policyId : Int) : Option String :=
  ((approvals.filter (fun d => d.policyId = policyId)).getLast?).map ApprovalRow.status

/-- What the engine loads for any tenant has valid rules, and its latest change was not
rejected. -/
def OnlyCleared (s : PolicySetting) (store : PolicyStore) : Prop :=
  ∀ tenantId loaded, loadPolicies s.loads (some store.table) tenantId = .ok loaded →
    ∀ p ∈ loaded, validatePolicyRulesForLifecycle s.py (.obj p.rules) = [] ∧
      ∀ id, p.id = some id → lastDecision store.approvals id ≠ some "rejected"

/-- A row whose rules are valid, and whose latest change was not rejected. -/
def Cleared (s : PolicySetting) (store : PolicyStore) (r : StoredPolicy) : Prop :=
  validatePolicyRulesForLifecycle s.py (.obj (parseRules s.loads r.rules)) = [] ∧
    lastDecision store.approvals r.id ≠ some "rejected"

/-- The engine loads a row for some tenant exactly when it is enabled and live. -/
theorem engineSelects_iff {r : PolicyRow} :
    (∃ tenantId, engineSelects tenantId r = true) ↔ r.enabled = some true ∧ r.live = true := by
  constructor
  · rintro ⟨tenantId, h⟩
    unfold engineSelects at h
    rw [Bool.and_eq_true, Bool.and_eq_true, decide_eq_true_eq] at h
    exact h.1
  · rintro ⟨henabled, hlive⟩
    refine ⟨r.tenantId, ?_⟩
    unfold engineSelects
    rw [henabled, hlive]
    cases htenant : r.tenantId with
    | none => rfl
    | some t => simp

/-- What is loaded, by rows. -/
theorem cleared_iff : OnlyCleared s store ↔
    ∀ k r, store.policies.find k = some r → r.enabled = some true → r.live = true →
      Cleared s store r := by
  constructor
  · intro h k r hr henabled hlive
    rcases engineSelects_iff.mpr ⟨henabled, hlive⟩ with ⟨tenantId, hselects⟩
    have hloaded : policyFromRow s.loads r.toPolicyRow ∈ ((store.table.rows.filter
        (engineSelects tenantId)).insertionSort (fun r s => r.id ≤ s.id)).map
          (policyFromRow s.loads) := by
      refine List.mem_map_of_mem ?_
      rw [List.mem_insertionSort, List.mem_filter]
      exact ⟨List.mem_map_of_mem (Table.find_mem hr), hselects⟩
    rcases h tenantId _ rfl _ hloaded with ⟨hvalid, hdecided⟩
    exact ⟨hvalid, hdecided r.id rfl⟩
  · rintro h tenantId loaded hload p hp
    cases hload
    rcases List.mem_map.mp hp with ⟨row, hrow, rfl⟩
    rw [List.mem_insertionSort, List.mem_filter] at hrow
    rcases hrow with ⟨hmem, hselects⟩
    rcases List.mem_map.mp hmem with ⟨r, hr, rfl⟩
    rcases engineSelects_iff.mp ⟨tenantId, hselects⟩ with ⟨henabled, hlive⟩
    rcases h r.id r (Table.find_eq_some.mpr ⟨hr, rfl⟩) henabled hlive with ⟨hvalid, hdecided⟩
    refine ⟨hvalid, ?_⟩
    intro id hid
    cases hid
    exact hdecided

/-! ## Decisions -/

/-- Decisions about one policy are the latest about it, and about no other. -/
theorem lastDecision_append {before after : List ApprovalRow} {policyId : Int}
    (hafter : ∀ d ∈ after, d.policyId = policyId) (k : Int) :
    lastDecision (before ++ after) k =
      if k = policyId then (after.getLast?.map ApprovalRow.status).or (lastDecision before k)
      else lastDecision before k := by
  unfold lastDecision
  rw [List.filter_append, List.getLast?_append]
  by_cases hk : k = policyId
  · have hall : after.filter (fun d => d.policyId = k) = after := by
      rw [List.filter_eq_self]
      intro d hd
      exact decide_eq_true ((hafter d hd).trans hk.symm)
    rw [hall, if_pos hk]
    cases after.getLast? with
    | none => rfl
    | some d => rfl
  · have hnone : after.filter (fun d => d.policyId = k) = [] := by
      rw [List.filter_eq_nil_iff]
      intro d hd
      rw [decide_eq_true_eq, hafter d hd]
      exact Ne.symm hk
    rw [hnone, if_neg hk]
    rfl

/-- Every decision is about a policy in the table. -/
def DecisionsFiled (store : PolicyStore) : Prop :=
  ∀ d ∈ store.approvals, ∃ r, store.policies.find d.policyId = some r

theorem lastDecision_eq_none (h : DecisionsFiled store) {policyId : Int}
    (hnew : store.policies.find policyId = none) :
    lastDecision store.approvals policyId = none := by
  unfold lastDecision
  have hnone : store.approvals.filter (fun d => d.policyId = policyId) = [] := by
    rw [List.filter_eq_nil_iff]
    intro d hd hid
    rcases h d hd with ⟨r, hr⟩
    rw [of_decide_eq_true hid, hnew] at hr
    cases hr
  rw [hnone]
  rfl

/-! ## Requests -/

/-- What a request writes: a row, and decisions about it. -/
structure WritesRow (store store' : PolicyStore) (r : StoredPolicy)
    (decisions : List ApprovalRow) : Prop where
  policies : ∀ k, store'.policies.find k = if k = r.id then some r else store.policies.find k
  approvals : store'.approvals = store.approvals ++ decisions
  about : ∀ d ∈ decisions, d.policyId = r.id

variable {r : StoredPolicy} {decisions : List ApprovalRow}

theorem DecisionsFiled.write (h : DecisionsFiled store)
    (hwrites : WritesRow store store' r decisions) : DecisionsFiled store' := by
  intro d hd
  rw [hwrites.policies]
  by_cases hid : d.policyId = r.id
  · exact ⟨r, if_pos hid⟩
  · rw [if_neg hid]
    rw [hwrites.approvals] at hd
    rcases List.mem_append.mp hd with hd | hd
    · exact h d hd
    · exact absurd (hwrites.about d hd) hid

/-- The row that is written decides whether all that is loaded stays cleared. -/
theorem onlyCleared_write_iff (h : OnlyCleared s store)
    (hwrites : WritesRow store store' r decisions) :
    OnlyCleared s store' ↔ (r.enabled = some true → r.live = true → Cleared s store' r) := by
  rw [cleared_iff] at h ⊢
  constructor
  · intro hafter
    exact hafter r.id r (by rw [hwrites.policies, if_pos rfl])
  · intro hr k r' hr' henabled hlive
    rw [hwrites.policies] at hr'
    split_ifs at hr' with hk
    · cases hr'
      exact hr henabled hlive
    · rcases h k r' hr' henabled hlive with ⟨hvalid, hdecided⟩
      refine ⟨hvalid, ?_⟩
      have hid : r'.id ≠ r.id := fun hid => hk ((Table.find_key hr').symm.trans hid)
      rw [hwrites.approvals, lastDecision_append hwrites.about, if_neg hid]
      exact hdecided

/-- After decisions that reject nothing the latest change of a policy is not rejected. -/
theorem WritesRow.accepted (hwrites : WritesRow store store' r decisions)
    (haccepts : ∀ d ∈ decisions, d.status ≠ "rejected")
    (hbefore : decisions = [] → lastDecision store.approvals r.id ≠ some "rejected") :
    lastDecision store'.approvals r.id ≠ some "rejected" := by
  rw [hwrites.approvals, lastDecision_append hwrites.about, if_pos rfl]
  cases hlast : decisions.getLast? with
  | none => exact hbefore (List.getLast?_eq_none_iff.mp hlast)
  | some d =>
      intro hrejected
      exact haccepts d (List.mem_of_getLast? hlast) (Option.some.inj hrejected)

section

variable {tenantId policyId : Int} {decision : String}

theorem writesRow_decision
    (hpolicies : ∀ k, store'.policies.find k = if k = r.id then some r else store.policies.find k)
    (hid : r.id = policyId)
    (hdecided : store'.approvals = store.approvals ++ [⟨tenantId, policyId, decision⟩]) :
    WritesRow store store' r [⟨tenantId, policyId, decision⟩] := by
  refine ⟨hpolicies, hdecided, ?_⟩
  intro d hd
  rw [List.mem_singleton.mp hd, hid]

theorem WritesRow.lastDecision_eq
    (hwrites : WritesRow store store' r [⟨tenantId, policyId, decision⟩]) :
    lastDecision store'.approvals r.id = some decision := by
  rw [hwrites.approvals, lastDecision_append hwrites.about, if_pos rfl]
  rfl

end

/-- A status under which the engine loads a row. -/
def liveStatus (status : String) : Bool :=
  status = "published" || status = "active"

/-- No archived row is live. -/
theorem archivedRow_live (r : StoredPolicy) : (archivedRow r).live = false := by
  show liveStatus "archived" = false
  decide

/-- The text of a live status is stored as it is, and no other text as such a status. -/
theorem liveStatus_stored {status out : String} (h : columnText 20 status = some out) :
    liveStatus out = liveStatus status := by
  by_cases hlength : status.length ≤ 20
  · rw [(columnText_eq_some h).2 hlength]
  · have hfull : out.length = 20 := by
      have := columnText_length h
      omega
    have hlong : ∀ live : String, live.length < 20 → out ≠ live ∧ status ≠ live := by
      intro live hlive
      constructor
      · rintro rfl
        omega
      · rintro rfl
        omega
    unfold liveStatus
    rw [decide_eq_false (hlong "published" (by decide)).1,
      decide_eq_false (hlong "published" (by decide)).2,
      decide_eq_false (hlong "active" (by decide)).1,
      decide_eq_false (hlong "active" (by decide)).2]

/-- Where a request asks for a policy that is enabled and live, its rules are valid. -/
def ValidWhenLive (s : PolicySetting) (req : PolicyRequest) (status : String) : Prop :=
  req.enabled = true → liveStatus status = true →
    validatePolicyRulesForLifecycle s.py (.obj (parseRules s.loads req.rules)) = []

/-- A row with what a request asks for is cleared exactly when its rules are valid. -/
theorem onlyCleared_request_iff {req : PolicyRequest} {status out : String}
    (h : OnlyCleared s store) (hwrites : WritesRow store store' r decisions)
    (haccepted : lastDecision store'.approvals r.id ≠ some "rejected")
    (henabled : r.enabled = some req.enabled) (hstatus : r.status = some out)
    (hstored : columnText 20 status = some out)
    (hrules : r.rules = s.dumps (parseRules s.loads req.rules)) :
    OnlyCleared s store' ↔ ValidWhenLive s req status := by
  have hlive : r.live = liveStatus status := by
    rw [← liveStatus_stored hstored]
    unfold PolicyRow.live
    rw [hstatus]
    rfl
  rw [onlyCleared_write_iff h hwrites, henabled, hlive, Option.some_inj]
  unfold Cleared ValidWhenLive
  rw [hrules, parseRules_dumps]
  exact forall₂_congr fun _ _ => and_iff_left haccepted

/-- A creation or an update that makes a policy live has valid rules, and no policy that is
enabled and live is rejected. -/
def KeepsCleared (s : PolicySetting) (store : PolicyStore) (a : PolicyAction) : Prop :=
  Admits s store a →
    match a with
    | .create _ _ req _ => ValidWhenLive s req (createStatus req)
    | .update tenantId _ policyId req =>
        ∀ r, ownPolicy tenantId policyId store = some r → ValidWhenLive s req (updateStatus req r)
    | .reject tenantId _ policyId _ =>
        ∀ r, ownPolicy tenantId policyId store = some r → ¬ (r.enabled = some true ∧ r.live = true)
    | _ => True

/-- What is loaded stays cleared exactly when a request keeps it so. -/
theorem Effect.onlyCleared_iff {a : PolicyAction} (he : Effect s store store' a)
    (hfiled : DecisionsFiled store) (h : OnlyCleared s store) :
    DecisionsFiled store' ∧ (OnlyCleared s store' ↔ KeepsCleared s store a) := by
  have hadmits := he.admits
  unfold KeepsCleared
  rw [forall_prop_of_true hadmits]
  cases he with
  | created new fits recorded writes decided accepts =>
      have hwrites : WritesRow store store' _ _ :=
        ⟨writes.policies, decided, fun d hd => (accepts d hd).1⟩
      refine ⟨hfiled.write hwrites, ?_⟩
      have haccepted := hwrites.accepted (fun d hd => (accepts d hd).2) (by
        intro _ hrejected
        cases (lastDecision_eq_none hfiled new).symm.trans hrejected)
      exact onlyCleared_request_iff h hwrites haccepted rfl rfl (policyColumns_eq_some fits).1 rfl
  | updated own fits recorded writes decided accepts =>
      have hwrites := writesRow_decision writes.policies (ownPolicy_eq_some own).2.1 decided
      refine ⟨hfiled.write hwrites, ?_⟩
      refine Iff.trans ?_ (forall_own own).symm
      have haccepted : lastDecision store'.approvals _ ≠ some "rejected" :=
        hwrites.lastDecision_eq.trans_ne (Option.some_injective _ |>.ne accepts)
      exact onlyCleared_request_iff h hwrites haccepted rfl rfl (policyColumns_eq_some fits).1 rfl
  | published own named valid writes decided =>
      have hwrites := writesRow_decision writes.policies (ownPolicy_eq_some own).2.1 decided
      refine ⟨hfiled.write hwrites, iff_of_true ?_ trivial⟩
      refine (onlyCleared_write_iff h hwrites).mpr fun _ _ => ⟨valid, ?_⟩
      exact hwrites.lastDecision_eq.trans_ne (by decide)
  | approved own named writes decided =>
      rcases ownPolicy_eq_some own with ⟨hfind, hid, -⟩
      have hwrites := writesRow_decision writes.policies hid decided
      refine ⟨hfiled.write hwrites, iff_of_true ?_ trivial⟩
      refine (onlyCleared_write_iff h hwrites).mpr fun henabled hlive => ⟨?_, ?_⟩
      · exact (cleared_iff.mp h _ _ hfind henabled hlive).1
      · exact hwrites.lastDecision_eq.trans_ne (by decide)
  | @rejected _ _ _ _ r own named commented policies versions decided =>
      rcases ownPolicy_eq_some own with ⟨hfind, hid, -⟩
      have hpolicies : ∀ k, store'.policies.find k =
          if k = r.id then some r else store.policies.find k := by
        rw [policies]
        exact Table.find_eq_ite (hid.symm ▸ hfind)
      have hwrites := writesRow_decision hpolicies hid decided
      refine ⟨hfiled.write hwrites, ?_⟩
      refine Iff.trans ?_ (forall_own own).symm
      rw [onlyCleared_write_iff h hwrites]
      constructor
      · rintro hcleared ⟨henabled, hlive⟩
        exact (hcleared henabled hlive).2 hwrites.lastDecision_eq
      · intro hidle henabled hlive
        exact absurd ⟨henabled, hlive⟩ hidle
  | @archived _ _ _ r own named policies versions decided =>
      have hwrites : WritesRow store store' (archivedRow r) [] :=
        ⟨policies, decided.trans (List.append_nil _).symm, fun d hd => absurd hd List.not_mem_nil⟩
      refine ⟨hfiled.write hwrites, iff_of_true ?_ trivial⟩
      refine (onlyCleared_write_iff h hwrites).mpr fun _ hlive => ?_
      cases (archivedRow_live r).symm.trans hlive
  | rolledBack positive version ownVersion valid own named writes decided =>
      have hwrites := writesRow_decision writes.policies (ownPolicy_eq_some own).2.1 decided
      refine ⟨hfiled.write hwrites, iff_of_true ?_ trivial⟩
      refine (onlyCleared_write_iff h hwrites).mpr fun _ _ => ⟨?_, ?_⟩
      · exact (congrArg (fun rules => validatePolicyRulesForLifecycle s.py (.obj rules))
          (parseRules_dumps s _)).trans valid
      · exact hwrites.lastDecision_eq.trans_ne (by decide)

end

/-- Only validated and unrejected policies are enforced throughout a run exactly when no creation
or update makes a policy with invalid rules live, and no policy that is live is rejected. -/
theorem enforced_cleared_iff (s : PolicySetting) (actions : List PolicyAction) :
    Always (policyStep s) (OnlyCleared s) PolicyStore.empty actions ↔
      Respects (policyStep s) (KeepsCleared s) PolicyStore.empty actions := by
  have hfiled : DecisionsFiled PolicyStore.empty := fun _ hd => absurd hd List.not_mem_nil
  have hempty : OnlyCleared s PolicyStore.empty := by
    rw [cleared_iff]
    intro k r hr
    cases Table.find_empty.symm.trans hr
  refine always_iff ?_ hfiled hempty (run_total (policyStep_total s) _ _)
  intro store a store' hinv hcleared hstep
  rcases policyStep_cases hstep with ⟨-, heffect⟩ | ⟨hrefused, rfl⟩
  · rcases heffect.onlyCleared_iff hinv hcleared with ⟨hfiled', hiff⟩
    exact ⟨fun _ => hfiled', hiff⟩
  · exact ⟨fun _ => hinv, iff_of_true hcleared fun hadmits => absurd hadmits hrefused⟩

/-- A row that is enabled and live without being cleared is enforced. -/
theorem not_onlyCleared {s : PolicySetting} {store : PolicyStore} {k : Int} {r : StoredPolicy}
    (hr : store.policies.find k = some r) (henabled : r.enabled = some true)
    (hlive : r.live = true) (h : ¬ Cleared s store r) : ¬ OnlyCleared s store :=
  fun hall => h (cleared_iff.mp hall k r hr henabled hlive)

/-- A policy without rules is created. -/
def createdInvalid : List PolicyAction :=
  [.create 1 "admin" (sampleRequest "\x7b\x7d") 1]

/-- A policy that was published is rejected. -/
def createdThenRejected : List PolicyAction :=
  [.create 1 "admin" (sampleRequest "\x7b\"action\": \"block\"\x7d") 1,
    .reject 1 "admin" 1 none]

/-- A policy with invalid rules, and one whose latest change was rejected, are enforced. -/
theorem invalid_or_rejected_enforced :
    (∃ store, run (policyStep sampleSetting) PolicyStore.empty createdInvalid = some store ∧
      ¬ OnlyCleared sampleSetting store) ∧
    ∃ store, run (policyStep sampleSetting) PolicyStore.empty createdThenRejected = some store ∧
      ¬ OnlyCleared sampleSetting store := by
  constructor
  · have hrun : (run (policyStep sampleSetting) PolicyStore.empty createdInvalid).map
        (fun store => (store.policies.find 1).map (fun r => (r.enabled, r.live,
          validatePolicyRulesForLifecycle asciiText (.obj (parseRules sampleLoads r.rules))))) =
        some (some (some true, true,
          ["Policy rules must contain at least one enforceable control."])) := by
      decide +kernel
    rcases Option.map_eq_some_iff.mp hrun with ⟨store, hstore, hrow⟩
    rcases Option.map_eq_some_iff.mp hrow with ⟨r, hr, hvalues⟩
    injection hvalues with henabled hvalues
    injection hvalues with hlive herrors
    refine ⟨store, hstore, not_onlyCleared hr henabled hlive ?_⟩
    rintro ⟨hvalid, -⟩
    cases herrors.symm.trans hvalid
  · have hrun : (run (policyStep sampleSetting) PolicyStore.empty createdThenRejected).map
        (fun store => (store.policies.find 1).map (fun r => (r.enabled, r.live,
          lastDecision store.approvals r.id))) =
        some (some (some true, true, some "rejected")) := by
      decide +kernel
    rcases Option.map_eq_some_iff.mp hrun with ⟨store, hstore, hrow⟩
    rcases Option.map_eq_some_iff.mp hrow with ⟨r, hr, hvalues⟩
    injection hvalues with henabled hvalues
    injection hvalues with hlive hdecided
    refine ⟨store, hstore, not_onlyCleared hr henabled hlive ?_⟩
    rintro ⟨-, haccepted⟩
    exact haccepted hdecided

end AuthClaw.Policy
