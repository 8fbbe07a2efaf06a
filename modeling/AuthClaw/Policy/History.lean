import AuthClaw.Library.StepSystem
import AuthClaw.Policy.Effects

/-!
# The policies and their recorded versions

The handlers write a policy and the version it is at.  They keep the rules and checksums of
both equal.  The status of the version alone is written when a change is approved, and the two
columns of a status differ in length.

Main results:

- Theorem {lit}`consistent_of_run`: what every run of requests keeps.
- Theorem {lit}`rollback_restores`: a rollback restores the rules of a version.
- Theorem {lit}`history_agrees_iff`: when the policies agree with their versions.
-/

namespace AuthClaw.Policy

open PythonText Rows StepSystem
open Events (columnText columnText_length columnText_eq_some)

section

variable {s : PolicySetting} {store store' : PolicyStore}

/-- Rules as the handlers write them, with their checksum. -/
structure Canonical (s : PolicySetting) (rules checksum : String) : Prop where
  text : s.dumps (parseRules s.loads rules) = rules
  checksum : checksum = policyRulesChecksum s (parseRules s.loads rules)

/-- What every request keeps: a policy has the rules and checksum of the version it is at, and
no version is later. -/
structure Consistent (s : PolicySetting) (store : PolicyStore) : Prop where
  positive : ∀ k r, store.policies.find k = some r → 1 ≤ currentVersion r.toPolicyRow
  current : ∀ k r, store.policies.find k = some r →
    ∃ v, store.versions.find (k, currentVersion r.toPolicyRow) = some v ∧ v.rules = r.rules ∧
      r.checksum = some v.checksum
  versions : ∀ k n v, store.versions.find (k, n) = some v → Canonical s v.rules v.checksum ∧
    ∃ r, store.policies.find k = some r ∧ r.tenantId = some v.tenantId ∧
      n ≤ currentVersion r.toPolicyRow

/-- Each policy carries the rules, checksum and status of the version it is at. -/
def Agree (store : PolicyStore) : Prop :=
  ∀ k r, store.policies.find k = some r →
    ∃ v, store.versions.find (k, currentVersion r.toPolicyRow) = some v ∧ v.rules = r.rules ∧
      r.checksum = some v.checksum ∧ r.status = some v.status

theorem consistent_empty (s : PolicySetting) : Consistent s PolicyStore.empty where
  positive := fun _ _ h => by cases Table.find_empty.symm.trans h
  current := fun _ _ h => by cases Table.find_empty.symm.trans h
  versions := fun _ _ _ h => by cases Table.find_empty.symm.trans h

theorem agree_empty : Agree PolicyStore.empty := by
  intro k r h
  cases Table.find_empty.symm.trans h

/-! ## Rules -/

/-- Rules that were written are read as they were. -/
theorem parseRules_dumps (s : PolicySetting) (text : String) :
    parseRules s.loads (s.dumps (parseRules s.loads text)) = parseRules s.loads text := by
  have hnil : parseRules s.loads (s.dumps []) = [] := by
    unfold parseRules
    rw [s.loads_dumps_nil]
  cases hloads : s.loads text with
  | none =>
      have hparse : parseRules s.loads text = [] := by
        unfold parseRules
        rw [hloads]
      rw [hparse, hnil]
  | some json =>
      cases json with
      | obj members =>
          have hparse : parseRules s.loads text = members := by
            unfold parseRules
            rw [hloads]
          rw [hparse]
          unfold parseRules
          rw [s.loads_dumps text members hloads]
      | _ =>
          have hparse : parseRules s.loads text = [] := by
            unfold parseRules
            rw [hloads]
          rw [hparse, hnil]

/-- What the handlers write is canonical. -/
theorem canonical_dumps (s : PolicySetting) (text : String) :
    Canonical s (s.dumps (parseRules s.loads text))
      (policyRulesChecksum s (parseRules s.loads text)) := by
  constructor
  · rw [parseRules_dumps]
  · rw [parseRules_dumps]

/-! ## Requests that write a policy and a version -/

theorem Consistent.canonical (h : Consistent s store) {k : Int} {r : StoredPolicy}
    (hr : store.policies.find k = some r) :
    s.dumps (parseRules s.loads r.rules) = r.rules ∧
      r.checksum = some (policyRulesChecksum s (parseRules s.loads r.rules)) := by
  rcases h.current k r hr with ⟨v, hv, hrules, hchecksum⟩
  have hcanonical := (h.versions _ _ _ hv).1
  rw [← hrules]
  exact ⟨hcanonical.text, hchecksum.trans (congrArg some hcanonical.checksum)⟩

/-- A version is recorded for the tenant of its policy. -/
theorem Consistent.recordedVersion_tenantId (h : Consistent s store)
    {tenantId policyId version : Int} {r : StoredPolicy} {status : String}
    {rules : List (String × Json)} (hown : ownPolicy tenantId policyId store = some r) :
    (recordedVersion s store tenantId policyId version status rules).tenantId = tenantId := by
  rcases ownPolicy_eq_some hown with ⟨hfind, -, htenant⟩
  unfold recordedVersion
  dsimp only
  cases hv : store.versions.find (policyId, version) with
  | none => rfl
  | some v =>
      rcases (h.versions _ _ _ hv).2 with ⟨r', hr', htenant', -⟩
      rw [hfind] at hr'
      cases hr'
      rw [htenant] at htenant'
      exact (Option.some.inj htenant').symm

/-- A policy with the version it is at, neither behind the policy that was there. -/
structure Recorded (s : PolicySetting) (store : PolicyStore) (r : StoredPolicy) (v : VersionRow) :
    Prop where
  id : v.policyId = r.id
  version : v.version = currentVersion r.toPolicyRow
  positive : 1 ≤ v.version
  canonical : Canonical s v.rules v.checksum
  rules : v.rules = r.rules
  checksum : r.checksum = some v.checksum
  tenant : r.tenantId = some v.tenantId
  grows : ∀ before, store.policies.find r.id = some before →
    before.tenantId = r.tenantId ∧
      currentVersion before.toPolicyRow ≤ currentVersion r.toPolicyRow

/-- A policy is written together with the version it is at. -/
theorem Consistent.write (h : Consistent s store) {r : StoredPolicy} {v : VersionRow}
    (hwrites : Writes store store' r v) (hrecorded : Recorded s store r v) :
    Consistent s store' := by
  rcases hrecorded with
    ⟨hid, hversion, hpositive, hcanonical, hrules, hchecksum, htenant, hgrows⟩
  constructor
  · intro k r' hr'
    rw [hwrites.policies] at hr'
    split_ifs at hr' with hk
    · cases hr'
      rwa [← hversion]
    · exact h.positive k r' hr'
  · intro k r' hr'
    rw [hwrites.policies] at hr'
    rw [hwrites.versions]
    split_ifs at hr' with hk
    · cases hr'
      rw [if_pos (by rw [hid, hversion, hk])]
      exact ⟨v, rfl, hrules, hchecksum⟩
    · rw [if_neg (by rw [hid]; exact fun hkey => hk (congrArg Prod.fst hkey))]
      exact h.current k r' hr'
  · intro k n v' hv'
    rw [hwrites.versions] at hv'
    rw [hwrites.policies]
    split_ifs at hv' with hkey
    · cases hv'
      cases hkey
      rw [if_pos hid]
      exact ⟨hcanonical, r, rfl, htenant, hversion.le⟩
    · rcases h.versions k n v' hv' with ⟨hcanonical', before, hbefore, htenant', hle⟩
      refine ⟨hcanonical', ?_⟩
      by_cases hk : k = r.id
      · rw [if_pos hk]
        rw [hk] at hbefore
        rcases hgrows before hbefore with ⟨hsame, hgrow⟩
        exact ⟨r, rfl, hsame ▸ htenant', hle.trans hgrow⟩
      · rw [if_neg hk]
        exact ⟨before, hbefore, htenant', hle⟩

/-- The tables agree afterwards exactly when both statuses are equal. -/
theorem Agree.write_iff (h : Agree store) {r : StoredPolicy} {v : VersionRow}
    (hwrites : Writes store store' r v) (hrecorded : Recorded s store r v) :
    Agree store' ↔ r.status = some v.status := by
  rcases hrecorded with ⟨hid, hversion, -, -, hrules, hchecksum, -, -⟩
  have hwritten : store'.versions.find (r.id, currentVersion r.toPolicyRow) = some v := by
    rw [hwrites.versions, if_pos (by rw [hid, hversion])]
  constructor
  · intro hagree
    have hr : store'.policies.find r.id = some r := by
      rw [hwrites.policies, if_pos rfl]
    rcases hagree r.id r hr with ⟨v', hv', -, -, hstatus⟩
    rw [hwritten] at hv'
    cases hv'
    exact hstatus
  · intro hstatus k r' hr'
    rw [hwrites.policies] at hr'
    split_ifs at hr' with hk
    · cases hr'
      rw [hk]
      exact ⟨v, hwritten, hrules, hchecksum, hstatus⟩
    · rw [hwrites.versions, if_neg (by rw [hid]; exact fun hkey => hk (congrArg Prod.fst hkey))]
      exact h k r' hr'

theorem currentVersion_eq {r : PolicyRow} {n : Int} (h : r.version = some n) (hn : 1 ≤ n) :
    currentVersion r = n := by
  unfold currentVersion
  rw [h, Option.getD_some, if_neg (by omega)]

section

variable {tenantId policyId : Int} {status : String} {r : StoredPolicy}

/-- No version of a new policy was recorded. -/
theorem Consistent.recorded_created (h : Consistent s store) {newId : Int} {req : PolicyRequest}
    {columns : PolicyColumns} (hnew : store.policies.find newId = none) :
    Recorded s store (createdRow s tenantId newId req columns)
      (recordedVersion s store tenantId newId 1 status (parseRules s.loads req.rules)) := by
  have hversion : currentVersion (createdRow s tenantId newId req columns).toPolicyRow = 1 :=
    currentVersion_eq rfl le_rfl
  have htenant : store.versions.find (newId, 1) = none := by
    cases hv : store.versions.find (newId, 1) with
    | none => rfl
    | some v =>
        rcases (h.versions _ _ _ hv).2 with ⟨r, hr, -⟩
        rw [hnew] at hr
        cases hr
  refine ⟨rfl, hversion.symm, le_rfl, canonical_dumps s req.rules, rfl, rfl, ?_, ?_⟩
  · unfold recordedVersion
    rw [htenant]
    rfl
  · intro before hbefore
    have hbefore : store.policies.find newId = some before := hbefore
    rw [hnew] at hbefore
    cases hbefore

/-- An update or a rollback writes the next version of the policy. -/
theorem Consistent.recorded_next (h : Consistent s store)
    (hown : ownPolicy tenantId policyId store = some r) {r' : StoredPolicy} (text : String)
    (hid : r'.id = r.id) (htenant : r'.tenantId = r.tenantId)
    (hversion : r'.version = some (currentVersion r.toPolicyRow + 1))
    (hrules : r'.rules = s.dumps (parseRules s.loads text))
    (hchecksum : r'.checksum = some (policyRulesChecksum s (parseRules s.loads text))) :
    Recorded s store r' (recordedVersion s store tenantId policyId
      (currentVersion r.toPolicyRow + 1) status (parseRules s.loads text)) := by
  rcases ownPolicy_eq_some hown with ⟨hfind, hpolicy, howner⟩
  have hpositive := h.positive _ _ hfind
  have hnext : currentVersion r'.toPolicyRow = currentVersion r.toPolicyRow + 1 :=
    currentVersion_eq hversion (by omega)
  refine ⟨?_, hnext.symm, ?_, canonical_dumps s text, hrules.symm, hchecksum, ?_, ?_⟩
  · rw [hid, hpolicy]
    rfl
  · change 1 ≤ currentVersion r.toPolicyRow + 1
    omega
  · rw [h.recordedVersion_tenantId hown, htenant, howner]
  · intro before hbefore
    rw [hid, hpolicy, hfind] at hbefore
    cases hbefore
    exact ⟨htenant.symm, by omega⟩

/-- A publication or an approval writes the version the policy is at again. -/
theorem Consistent.recorded_again (h : Consistent s store)
    (hown : ownPolicy tenantId policyId store = some r) {r' : StoredPolicy} (hid : r'.id = r.id)
    (htenant : r'.tenantId = r.tenantId) (hversion : r'.version = r.version)
    (hrules : r'.rules = r.rules)
    (hchecksum : r'.checksum = some (policyRulesChecksum s (parseRules s.loads r.rules))) :
    Recorded s store r' (recordedVersion s store tenantId policyId
      (currentVersion r.toPolicyRow) status (parseRules s.loads r.rules)) := by
  rcases ownPolicy_eq_some hown with ⟨hfind, hpolicy, howner⟩
  have hsame : currentVersion r'.toPolicyRow = currentVersion r.toPolicyRow := by
    unfold currentVersion
    rw [hversion]
  refine ⟨?_, hsame.symm, h.positive _ _ hfind, canonical_dumps s r.rules, ?_, hchecksum, ?_, ?_⟩
  · rw [hid, hpolicy]
    rfl
  · rw [hrules]
    exact (h.canonical hfind).1
  · rw [h.recordedVersion_tenantId hown, htenant, howner]
  · intro before hbefore
    rw [hid, hpolicy, hfind] at hbefore
    cases hbefore
    exact ⟨htenant.symm, hsame.ge⟩

end

/-! ## What every request keeps -/

/-- An archived policy keeps all but its status, as does the version it is at. -/
theorem Consistent.archive (h : Consistent s store) {tenantId policyId : Int} {r : StoredPolicy}
    (hown : ownPolicy tenantId policyId store = some r)
    (hpolicies : ∀ k, store'.policies.find k =
      if k = r.id then some (archivedRow r) else store.policies.find k)
    (hversions : ∀ k, store'.versions.find k = (store.versions.find k).map (fun v =>
      if v.policyId = policyId ∧ v.tenantId = tenantId ∧
        v.version = currentVersion r.toPolicyRow then { v with status := "archived" } else v)) :
    ∃ v, Writes store store' (archivedRow r) v ∧ Recorded s store (archivedRow r) v ∧
      v.status = "archived" := by
  rcases ownPolicy_eq_some hown with ⟨hfind, hpolicy, howner⟩
  rcases h.current policyId r hfind with ⟨v, hv, hrules, hchecksum⟩
  have hkey : (v.policyId, v.version) = (policyId, currentVersion r.toPolicyRow) :=
    (Table.find_key hv :)
  have hid : v.policyId = policyId := congrArg Prod.fst hkey
  have hversion : v.version = currentVersion r.toPolicyRow := congrArg Prod.snd hkey
  rcases h.versions _ _ _ hv with ⟨hcanonical, before, hbefore, htenant, -⟩
  rw [hfind] at hbefore
  cases hbefore
  have hvtenant : v.tenantId = tenantId := Option.some.inj (htenant.symm.trans howner)
  refine ⟨{ v with status := "archived" }, ⟨hpolicies, ?_⟩, ?_, rfl⟩
  · intro k
    rw [hversions]
    by_cases hk : k = (v.policyId, v.version)
    · rw [if_pos hk, hk, hkey, hv, Option.map_some, if_pos ⟨hid, hvtenant, hversion⟩]
    · rw [if_neg hk]
      cases hother : store.versions.find k with
      | none => rfl
      | some w =>
          have hw : (w.policyId, w.version) = k := (Table.find_key hother :)
          rw [Option.map_some, if_neg ?_]
          rintro ⟨hwid, -, hwversion⟩
          exact hk (by rw [← hw, hid, hversion, hwid, hwversion])
  · refine ⟨hid.trans hpolicy.symm, hversion, ?_, hcanonical, hrules, hchecksum, htenant, ?_⟩
    · dsimp only
      rw [hversion]
      exact h.positive policyId r hfind
    · intro before hbefore
      have hbefore : store.policies.find r.id = some before := hbefore
      rw [hpolicy, hfind] at hbefore
      cases hbefore
      exact ⟨rfl, le_rfl⟩

theorem Effect.consistent {a : PolicyAction} (he : Effect s store store' a)
    (h : Consistent s store) : Consistent s store' := by
  cases he with
  | created new fits recorded writes => exact h.write writes (h.recorded_created new)
  | updated own fits recorded writes =>
      exact h.write writes (h.recorded_next own _ rfl rfl rfl rfl rfl)
  | published own named valid writes =>
      exact h.write writes (h.recorded_again own rfl rfl rfl rfl rfl)
  | approved own named writes =>
      have hchecksum := (h.canonical (ownPolicy_eq_some own).1).2
      exact h.write writes (h.recorded_again own rfl rfl rfl rfl hchecksum)
  | rejected own named commented policies versions =>
      constructor
      · rw [policies]
        exact h.positive
      · rw [policies, versions]
        exact h.current
      · rw [policies, versions]
        exact h.versions
  | archived own named policies versions =>
      rcases h.archive own policies versions with ⟨v, hwrites, hrecorded, -⟩
      exact h.write hwrites hrecorded
  | rolledBack positive version ownVersion valid own named writes =>
      exact h.write writes (h.recorded_next own _ rfl rfl rfl rfl rfl)

theorem consistent_step {a : PolicyAction} (h : Consistent s store)
    (hstep : policyStep s store a = some store') : Consistent s store' := by
  rcases policyStep_cases hstep with ⟨-, heffect⟩ | ⟨-, rfl⟩
  · exact heffect.consistent h
  · exact h

/-- What every run of requests keeps. -/
theorem consistent_of_run {actions : List PolicyAction} (h : Consistent s store)
    (hrun : run (policyStep s) store actions = some store') : Consistent s store' := by
  have hrespects : Respects (policyStep s) (fun _ _ => True) store actions :=
    respects_of_forall (fun _ _ => trivial) store actions
  exact invariant_of_run (fun _ _ _ hinv _ hstep => consistent_step hinv hstep) h hrespects hrun

/-- A rollback restores the rules and checksum of a version, which stays as it was. -/
theorem rollback_restores {tenantId policyId target : Int} {actor : String}
    (h : Consistent s store)
    (he : Effect s store store' (.rollback tenantId actor policyId target)) :
    ∃ v r, store.versions.find (policyId, target) = some v ∧
      store'.versions.find (policyId, target) = some v ∧
      store'.policies.find policyId = some r ∧ r.rules = v.rules ∧
      r.checksum = some v.checksum := by
  cases he with
  | @rolledBack _ _ _ _ r v positive version ownVersion valid own named writes =>
      rcases ownPolicy_eq_some own with ⟨hfind, hpolicy, -⟩
      rcases h.versions _ _ _ version with ⟨hcanonical, r', hr', -, hle⟩
      rw [hfind] at hr'
      cases hr'
      refine ⟨v, rolledBackRow s (parseRules s.loads v.rules) (currentVersion r.toPolicyRow + 1) r,
        version, ?_, ?_, hcanonical.text, congrArg some hcanonical.checksum.symm⟩
      · rw [writes.versions, if_neg ?_]
        · exact version
        · intro hkey
          have htarget : target = currentVersion r.toPolicyRow + 1 := congrArg Prod.snd hkey
          omega
      · rw [writes.policies]
        exact if_pos hpolicy.symm

/-! ## Statuses -/

/-- The columns of a status take the same text exactly when it fits the shorter one. -/
theorem same_status_iff {text short long : String} (hshort : columnText 20 text = some short)
    (hlong : columnText 30 text = some long) : short = long ↔ text.length ≤ 20 := by
  constructor
  · intro heq
    have hlength := columnText_length hshort
    rw [heq, columnText_length hlong] at hlength
    omega
  · intro hlength
    rw [(columnText_eq_some hshort).2 hlength, (columnText_eq_some hlong).2 (by omega)]

theorem forall_own {tenantId policyId : Int} {r : StoredPolicy} {P : StoredPolicy → Prop}
    (hown : ownPolicy tenantId policyId store = some r) :
    (∀ r', ownPolicy tenantId policyId store = some r' → P r') ↔ P r := by
  rw [hown]
  simp only [Option.some.injEq, forall_eq']

/-- The status of a version is written with that of its policy: an approval is of a policy that
is approved, and the text of a status fits both of its columns. -/
def KeepsAgreement (s : PolicySetting) (store : PolicyStore) (a : PolicyAction) : Prop :=
  Admits s store a →
    match a with
    | .create _ _ req _ => (createStatus req).length ≤ 20
    | .update tenantId _ policyId req =>
        ∀ r, ownPolicy tenantId policyId store = some r → (updateStatus req r).length ≤ 20
    | .approve tenantId _ policyId =>
        ∀ r, ownPolicy tenantId policyId store = some r → r.status = some "approved"
    | _ => True

/-- Tables that agree do so after a request exactly when it keeps the agreement. -/
theorem Effect.agree_iff {a : PolicyAction} (he : Effect s store store' a)
    (h : Consistent s store) (hagree : Agree store) :
    Agree store' ↔ KeepsAgreement s store a := by
  have hadmits := he.admits
  unfold KeepsAgreement
  rw [forall_prop_of_true hadmits]
  cases he with
  | created new fits recorded writes =>
      rw [hagree.write_iff writes (h.recorded_created new)]
      exact Option.some_inj.trans (same_status_iff (policyColumns_eq_some fits).1 recorded)
  | updated own fits recorded writes =>
      rw [hagree.write_iff writes (h.recorded_next own _ rfl rfl rfl rfl rfl)]
      refine Iff.trans ?_ (forall_own own).symm
      exact Option.some_inj.trans (same_status_iff (policyColumns_eq_some fits).1 recorded)
  | published own named valid writes =>
      exact iff_of_true
        ((hagree.write_iff writes (h.recorded_again own rfl rfl rfl rfl rfl)).mpr rfl) trivial
  | approved own named writes =>
      have hchecksum := (h.canonical (ownPolicy_eq_some own).1).2
      rw [hagree.write_iff writes (h.recorded_again own rfl rfl rfl rfl hchecksum)]
      refine Iff.trans ?_ (forall_own own).symm
      exact Iff.rfl
  | rejected own named commented policies versions =>
      refine iff_of_true ?_ trivial
      unfold Agree
      rw [policies, versions]
      exact hagree
  | archived own named policies versions =>
      rcases h.archive own policies versions with ⟨v, hwrites, hrecorded, hstatus⟩
      exact iff_of_true ((hagree.write_iff hwrites hrecorded).mpr (congrArg some hstatus.symm))
        trivial
  | rolledBack positive version ownVersion valid own named writes =>
      exact iff_of_true
        ((hagree.write_iff writes (h.recorded_next own _ rfl rfl rfl rfl rfl)).mpr rfl) trivial

end

/-- The policies agree with the versions they are at throughout a run exactly when every request
keeps the agreement, and in any run a rollback leaves the policy with the rules that were
recorded. -/
theorem history_agrees_iff (s : PolicySetting) (actions : List PolicyAction) :
    (Always (policyStep s) Agree PolicyStore.empty actions ↔
      Respects (policyStep s) (KeepsAgreement s) PolicyStore.empty actions) ∧
    ∀ store store' answer tenantId actor policyId target,
      run (policyStep s) PolicyStore.empty actions = some store →
      handle s store (.rollback tenantId actor policyId target) = .ok (answer, store') →
      ∃ v r, store.versions.find (policyId, target) = some v ∧
        store'.versions.find (policyId, target) = some v ∧
        store'.policies.find policyId = some r ∧ r.rules = v.rules ∧
        r.checksum = some v.checksum := by
  constructor
  · refine always_iff ?_ (consistent_empty s) agree_empty (run_total (policyStep_total s) _ _)
    intro store a store' hinv hagree hstep
    refine ⟨fun _ => consistent_step hinv hstep, ?_⟩
    rcases policyStep_cases hstep with ⟨-, heffect⟩ | ⟨hrefused, rfl⟩
    · exact heffect.agree_iff hinv hagree
    · exact iff_of_true hagree fun hadmits => absurd hadmits hrefused
  · intro store store' answer tenantId actor policyId target hrun hhandle
    exact rollback_restores (consistent_of_run (consistent_empty s) hrun) (handle_effect hhandle)

/-! ## A published policy that is approved -/

/-- `json.dumps` of an object with at most one member, a text. -/
def sampleDumps : List (String × Json) → String
  | [(key, .str value)] => "\x7b\"" ++ key ++ "\": \"" ++ value ++ "\"\x7d"
  | _ => "\x7b\x7d"

/-- `json.loads` of three such texts. -/
def sampleLoads (text : String) : Option Json :=
  if text = "\x7b\"action\": \"block\"\x7d" then some (.obj [("action", .str "block")])
  else if text = "\x7b\"action\": \"redact\"\x7d" then some (.obj [("action", .str "redact")])
  else if text = "\x7b\x7d" then some (.obj [])
  else none

/-- Their checksums. -/
def sampleSha256 (text : String) : String :=
  if text = "\x7b\"action\":\"block\"\x7d" then
    "0f7eac88de98abfb6a65dbcc518518d52f48c6b2b6c5a8e5eba21534ba0a8476"
  else if text = "\x7b\"action\":\"redact\"\x7d" then
    "a008537f69abcb08bb7e3cc11d2b2672f71e69ca3c939529fa4fa0a9c4fcc16e"
  else "44136fa355b3678a1146ad16f7e8649e94fb4fc21fe77e8310c060f61caaff8a"

def sampleSetting : PolicySetting where
  py := asciiText
  loads := sampleLoads
  dumps := sampleDumps
  dumpsSorted := fun members =>
    match members with
    | [(key, .str value)] => "\x7b\"" ++ key ++ "\":\"" ++ value ++ "\"\x7d"
    | _ => "\x7b\x7d"
  sha256 := sampleSha256
  loads_dumps := by
    intro text members h
    unfold sampleLoads at h
    split_ifs at h with hblock hredact hnone
    · cases h
      exact if_pos (by decide)
    · cases h
      exact (if_neg (by decide)).trans (if_pos (by decide))
    · cases h
      exact (if_neg (by decide)).trans ((if_neg (by decide)).trans (if_pos rfl))
  loads_dumps_nil := (if_neg (by decide)).trans ((if_neg (by decide)).trans (if_pos rfl))

/-- A request to write rules. -/
def sampleRequest (rules : String) : PolicyRequest :=
  ⟨"Guard", "Custom", rules, true, none, none⟩

/-- A policy is published and then approved. -/
def publishedThenApproved : List PolicyAction :=
  [.create 1 "admin" (sampleRequest "\x7b\"action\": \"block\"\x7d") 1, .approve 1 "admin" 1]

/-- A run after which the policy is published and its version approved. -/
theorem published_then_approved_differs :
    ∃ store, run (policyStep sampleSetting) PolicyStore.empty publishedThenApproved = some store ∧
      ¬ Agree store := by
  have hrun : (run (policyStep sampleSetting) PolicyStore.empty publishedThenApproved).map
      (fun store => ((store.policies.find 1).bind (fun r => r.status),
        (store.policies.find 1).map (fun r => currentVersion r.toPolicyRow),
        (store.versions.find (1, 1)).map (fun v => v.status))) =
      some (some "published", some 1, some "approved") := by
    decide +kernel
  rcases Option.map_eq_some_iff.mp hrun with ⟨store, hstore, hvalues⟩
  injection hvalues with hstatus hvalues
  injection hvalues with hcurrent hversion
  refine ⟨store, hstore, ?_⟩
  intro hagree
  rcases Option.map_eq_some_iff.mp hcurrent with ⟨r, hr, hone⟩
  rcases hagree 1 r hr with ⟨v, hv, -, -, hsame⟩
  rw [hone] at hv
  rw [hv] at hversion
  rw [hr, Option.bind_some, hsame, ← Option.map_some, hversion] at hstatus
  exact absurd hstatus (by decide)

end AuthClaw.Policy
