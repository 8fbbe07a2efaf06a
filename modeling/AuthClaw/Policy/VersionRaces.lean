import AuthClaw.Library.NumberedLog
import AuthClaw.Policy.History
import Mathlib.Logic.Function.Basic

/-!
# Concurrent changes of a policy

Updates and rollbacks of one policy read the version it is at, and write the next one later.
The first of their writes locks the row of the policy until they end, so the writes of two
requests do not overlap: they are one step here.  What was read may be outdated by then, and a
version that another request has written is replaced.

Main results:

- Theorem {lit}`versions_immutable_iff`: when the recorded versions stay as they are.
-/

namespace AuthClaw.Policy

open PythonText Rows StepSystem
open Events (columnText)

/-! ## The requests -/

/-- A request to change the policy. -/
inductive ChangeRequest where
  | update (tenantId : Int) (actor : String) (req : PolicyRequest)
  | rollback (tenantId : Int) (actor : String) (target : Int)

def ChangeRequest.tenantId : ChangeRequest → Int
  | .update tenantId _ _ => tenantId
  | .rollback tenantId _ _ => tenantId

/-- How far a request has come. -/
inductive EditPhase where
  | waiting
  /-- A rollback has read the rules of its target. -/
  | target (rules : List (String × Json))
  /-- The row of the policy was read. -/
  | read (rules : List (String × Json)) (before : StoredPolicy)
  | done (version : Int)
  | refused (error : LifecycleError)

/-- The tables, the requests, and the versions that were written, the latest first. -/
structure Editing (ι : Type) where
  store : PolicyStore
  phase : ι → EditPhase
  changes : List (Int × String)

/-- A request goes on, or fails. -/
inductive EditAction (ι : Type) where
  | target (i : ι)
  | read (i : ι)
  | write (i : ι)
  | fail (i : ι) (error : LifecycleError)

/-- No request has begun. -/
def Editing.start {ι : Type} (store : PolicyStore) : Editing ι :=
  ⟨store, fun _ => .waiting, []⟩

section

variable {ι : Type} [DecidableEq ι] (s : PolicySetting) (policyId : Int)
  (requests : ι → ChangeRequest)

/-- A rollback reads the rules of its target. -/
def targetPhase (tenantId target : Int) (store : PolicyStore) : EditPhase :=
  match rollbackRules s tenantId policyId target store with
  | .error e => .refused e
  | .ok rules => .target rules

/-- The row of the policy is read. -/
def readPhase (tenantId : Int) (rules : List (String × Json)) (store : PolicyStore) : EditPhase :=
  match requirePolicy tenantId policyId store with
  | .error e => .refused e
  | .ok before => .read rules before

/-- What a request writes. -/
def writeChange (request : ChangeRequest) (rules : List (String × Json)) (before : StoredPolicy)
    (store : PolicyStore) : Except LifecycleError PolicyStore :=
  match request with
  | .update tenantId actor req => writeUpdate s tenantId actor policyId req before store
  | .rollback tenantId actor target =>
      writeRollback s tenantId actor policyId target rules before store

/-- A step of a request. -/
def editStep (w : Editing ι) : EditAction ι → Option (Editing ι)
  | .target i =>
      match requests i, w.phase i with
      | .rollback tenantId _ target, .waiting =>
          some { w with
            phase := Function.update w.phase i (targetPhase s policyId tenantId target w.store) }
      | _, _ => none
  | .read i =>
      match requests i, w.phase i with
      | .update tenantId _ req, .waiting =>
          some { w with
            phase := Function.update w.phase i
              (readPhase policyId tenantId (parseRules s.loads req.rules) w.store) }
      | .rollback tenantId _ _, .target rules =>
          some { w with
            phase := Function.update w.phase i (readPhase policyId tenantId rules w.store) }
      | _, _ => none
  | .write i =>
      match w.phase i with
      | .read rules before =>
          match writeChange s policyId (requests i) rules before w.store with
          | .error e => some { w with phase := Function.update w.phase i (.refused e) }
          | .ok store =>
              some {
                store := store
                phase := Function.update w.phase i (.done (currentVersion before.toPolicyRow + 1))
                changes := (currentVersion before.toPolicyRow + 1, s.dumps rules) :: w.changes }
      | _ => none
  | .fail i e =>
      match w.phase i with
      | .done _ => none
      | _ => some { w with phase := Function.update w.phase i (.refused e) }

/-- The rules of the recorded versions. -/
def recordedRules (store : PolicyStore) (version : Int) : Option String :=
  (store.versions.find (policyId, version)).map VersionRow.rules

/-- No recorded version is replaced by other rules, and each change is above all earlier
versions. -/
def VersionsImmutable (start : PolicyStore) (w : Editing ι) : Prop :=
  NumberedLog.Immutable (recordedRules policyId start) (recordedRules policyId w.store) w.changes

/-- The tables take what the request writes. -/
def ChangeRequest.Fits (before : StoredPolicy) : ChangeRequest → Prop
  | .update _ actor req => policyColumns actor req (updateStatus req before) ≠ none
  | .rollback _ actor _ => columnText 255 actor ≠ none

/-- The policy is at the version that was read. -/
def EditPhase.Current (store : PolicyStore) (request : ChangeRequest) : EditPhase → Prop
  | .read _ before =>
      request.Fits before →
        (store.policies.find policyId).map (fun r => currentVersion r.toPolicyRow) =
          some (currentVersion before.toPolicyRow)
  | .waiting | .target _ | .done _ | .refused _ => True

/-- A request that writes finds the policy at the version it has read. -/
def WritesCurrent (w : Editing ι) : EditAction ι → Prop
  | .write i => (w.phase i).Current policyId w.store (requests i)
  | .target _ | .read _ | .fail _ _ => True

instance (before : StoredPolicy) (request : ChangeRequest) : Decidable (request.Fits before) :=
  match request with
  | .update _ actor req =>
      inferInstanceAs (Decidable (policyColumns actor req (updateStatus req before) ≠ none))
  | .rollback _ actor _ => inferInstanceAs (Decidable (columnText 255 actor ≠ none))

instance (store : PolicyStore) (request : ChangeRequest) (p : EditPhase) :
    Decidable (p.Current policyId store request) :=
  match p with
  | .read _ _ => inferInstanceAs (Decidable (_ → _))
  | .waiting | .target _ | .done _ | .refused _ => isTrue trivial

instance (w : Editing ι) (a : EditAction ι) : Decidable (WritesCurrent policyId requests w a) :=
  match a with
  | .write i => inferInstanceAs (Decidable ((w.phase i).Current policyId w.store (requests i)))
  | .target _ | .read _ | .fail _ _ => isTrue trivial

/-! ## What the requests keep -/

/-- The rules a request will write. -/
def ChangeRequest.Carries (rules : List (String × Json)) : ChangeRequest → Prop
  | .update _ _ req => rules = parseRules s.loads req.rules
  | .rollback _ _ _ => ∃ text, rules = parseRules s.loads text

/-- What a request has read was so once. -/
def Ready (store : PolicyStore) (request : ChangeRequest) : EditPhase → Prop
  | .target rules => request.Carries s rules
  | .read rules before => request.Carries s rules ∧ 1 ≤ currentVersion before.toPolicyRow ∧
      ∃ r, ownPolicy request.tenantId policyId store = some r ∧
        currentVersion before.toPolicyRow ≤ currentVersion r.toPolicyRow
  | .waiting | .done _ | .refused _ => True

/-- What the steps keep while no version is replaced. -/
structure Sound (start : PolicyStore) (w : Editing ι) : Prop where
  consistent : Consistent s w.store
  known : NumberedLog.Known (recordedRules policyId start) (recordedRules policyId w.store)
    w.changes
  ready : ∀ i, Ready s policyId w.store (requests i) (w.phase i)

variable {s policyId requests} {store store' : PolicyStore} {start : PolicyStore}
  {w w' : Editing ι} {i : ι}

/-- A step that writes nothing. -/
theorem Sound.advance (h : Sound s policyId requests start w) {p : EditPhase}
    (hready : Ready s policyId w.store (requests i) p) :
    Sound s policyId requests start { w with phase := Function.update w.phase i p } where
  consistent := h.consistent
  known := h.known
  ready := by
    intro j
    dsimp only
    by_cases hj : j = i
    · rw [hj, Function.update_self]
      exact hready
    · rw [Function.update_of_ne hj]
      exact h.ready j

/-! ## A write -/

theorem recordedRules_write {r : StoredPolicy} {v : VersionRow}
    (hwrites : Writes store store' r v) (hpolicy : v.policyId = policyId) :
    recordedRules policyId store' =
      Function.update (recordedRules policyId store) v.version (some v.rules) := by
  funext n
  unfold recordedRules
  rw [hwrites.versions, hpolicy]
  by_cases hn : n = v.version
  · rw [hn, if_pos rfl, Function.update_self]
    rfl
  · rw [Function.update_of_ne hn, if_neg fun hkey => hn (congrArg Prod.snd hkey)]

/-- What a request writes when it is accepted. -/
theorem writeChange_eq_ok {request : ChangeRequest} {rules : List (String × Json)}
    {before r : StoredPolicy} (hown : ownPolicy request.tenantId policyId store = some r)
    (hcarries : request.Carries s rules)
    (h : writeChange s policyId request rules before store = .ok store') :
    request.Fits before ∧ ∃ r' status text, rules = parseRules s.loads text ∧
      Writes store store' r' (recordedVersion s store request.tenantId policyId
        (currentVersion before.toPolicyRow + 1) status rules) ∧
      r'.id = r.id ∧ r'.tenantId = r.tenantId ∧
      r'.version = some (currentVersion before.toPolicyRow + 1) ∧
      r'.rules = s.dumps rules ∧ r'.checksum = some (policyRulesChecksum s rules) := by
  cases request with
  | update tenantId actor req =>
      rcases writeUpdate_eq_ok hown h with ⟨columns, status, -, hcolumns, -, hwrites, -⟩
      refine ⟨?_, updatedRow s req (currentVersion before.toPolicyRow + 1) columns r, status,
        req.rules, hcarries, ?_, rfl, rfl, rfl, ?_, ?_⟩
      · exact hcolumns.trans_ne (Option.some_ne_none _)
      · rw [hcarries]
        exact hwrites
      · rw [hcarries]
        rfl
      · rw [hcarries]
        rfl
  | rollback tenantId actor target =>
      rcases writeRollback_eq_ok hown h with ⟨hactor, hwrites, -⟩
      rcases hcarries with ⟨text, htext⟩
      exact ⟨hactor, _, _, text, htext, hwrites, rfl, rfl, rfl, rfl, rfl⟩

/-- A request whose writes fit is accepted. -/
theorem writeChange_accepts {request : ChangeRequest} {rules : List (String × Json)}
    {before r : StoredPolicy} (hown : ownPolicy request.tenantId policyId store = some r)
    (hfits : request.Fits before) :
    ∃ store', writeChange s policyId request rules before store = .ok store' := by
  cases request with
  | update tenantId actor req => exact writeUpdate_accepts hown hfits
  | rollback tenantId actor target => exact writeRollback_accepts hfits

/-- The number after the one that was read is above all recorded ones exactly when the policy
is still at the one that was read. -/
theorem below_next_iff {r : StoredPolicy} {read : Int} (h : Consistent s store)
    (hr : store.policies.find policyId = some r) (hread : read ≤ currentVersion r.toPolicyRow) :
    (∀ n rules, recordedRules policyId store n = some rules → n < read + 1) ↔
      currentVersion r.toPolicyRow = read := by
  constructor
  · intro hbelow
    rcases h.current policyId r hr with ⟨v, hv, -⟩
    have hlast : recordedRules policyId store (currentVersion r.toPolicyRow) = some v.rules := by
      unfold recordedRules
      rw [hv]
      rfl
    have hlt := hbelow _ _ hlast
    omega
  · intro heq n rules hn
    rcases Option.map_eq_some_iff.mp hn with ⟨v, hv, -⟩
    rcases (h.versions _ _ _ hv).2 with ⟨r', hr', -, hle⟩
    rw [hr] at hr'
    cases hr'
    omega

/-- Another request is as ready after a policy was written at a later version. -/
theorem Ready.write {request : ChangeRequest} {p : EditPhase} {r r' : StoredPolicy}
    {v : VersionRow} (h : Ready s policyId store request p)
    (hr : store.policies.find policyId = some r) (hwrites : Writes store store' r' v)
    (hid : r'.id = policyId) (htenant : r'.tenantId = r.tenantId)
    (hle : currentVersion r.toPolicyRow ≤ currentVersion r'.toPolicyRow) :
    Ready s policyId store' request p := by
  cases p with
  | read rules before =>
      rcases h with ⟨hcarries, hpositive, r₀, hown, hread⟩
      rcases ownPolicy_eq_some hown with ⟨hfind, -, howner⟩
      rw [hr] at hfind
      cases hfind
      refine ⟨hcarries, hpositive, r', ?_, hread.trans hle⟩
      unfold ownPolicy
      rw [hwrites.policies, if_pos hid.symm, Option.filter_some,
        if_pos (decide_eq_true (htenant.trans howner))]
  | target rules => exact h
  | waiting => trivial
  | done version => trivial
  | refused e => trivial

/-- A write keeps the versions immutable exactly when it finds the version that was read. -/
theorem write_immutable_iff {rules : List (String × Json)} {before : StoredPolicy}
    (hsound : Sound s policyId requests start w) (himmutable : VersionsImmutable policyId start w)
    (hphase : w.phase i = .read rules before)
    (hok : writeChange s policyId (requests i) rules before w.store = .ok store')
    (hw' : w' = ⟨store', Function.update w.phase i
      (.done (currentVersion before.toPolicyRow + 1)),
      (currentVersion before.toPolicyRow + 1, s.dumps rules) :: w.changes⟩) :
    (VersionsImmutable policyId start w' → Sound s policyId requests start w') ∧
      (VersionsImmutable policyId start w' ↔ WritesCurrent policyId requests w (.write i)) := by
  have hready := hsound.ready i
  rw [hphase] at hready
  rcases hready with ⟨hcarries, hpositive, r, hown, hread⟩
  rcases ownPolicy_eq_some hown with ⟨hfind, hid, howner⟩
  rcases writeChange_eq_ok hown hcarries hok with
    ⟨hfits, r', status, text, hrules, hwrites, hid', htenant', hversion', hrules', hchecksum'⟩
  have hrecorded : recordedRules policyId store' = Function.update (recordedRules policyId w.store)
      (currentVersion before.toPolicyRow + 1) (some (s.dumps rules)) :=
    recordedRules_write hwrites rfl
  have hbelow := below_next_iff hsound.consistent hfind hread
  subst hw'
  have hiff : NumberedLog.Immutable (recordedRules policyId start) (recordedRules policyId store')
      ((currentVersion before.toPolicyRow + 1, s.dumps rules) :: w.changes) ↔
      currentVersion r.toPolicyRow = currentVersion before.toPolicyRow := by
    rw [hrecorded, ← hbelow]
    exact NumberedLog.immutable_record_iff himmutable hsound.known
  constructor
  · intro hafter
    have hcurrent := hiff.mp hafter
    constructor
    · refine hsound.consistent.write hwrites ?_
      rw [hrules, ← hcurrent]
      exact hsound.consistent.recorded_next hown text hid' htenant' (hcurrent ▸ hversion')
        (hrules ▸ hrules') (hrules ▸ hchecksum')
    · dsimp only
      rw [hrecorded]
      exact hsound.known.record
    · intro j
      dsimp only
      by_cases hj : j = i
      · rw [hj, Function.update_self]
        trivial
      · rw [Function.update_of_ne hj]
        refine (hsound.ready j).write hfind hwrites (hid'.trans hid) htenant' ?_
        rw [currentVersion_eq hversion' (by omega)]
        omega
  · refine hiff.trans ?_
    unfold WritesCurrent
    dsimp only
    rw [hphase]
    unfold EditPhase.Current
    dsimp only
    rw [forall_prop_of_true hfits, hfind, Option.map_some, Option.some_inj]

/-! ## The steps -/

theorem ready_targetPhase {tenantId target : Int} {actor : String} :
    Ready s policyId store (.rollback tenantId actor target)
      (targetPhase s policyId tenantId target store) := by
  unfold targetPhase
  split
  next => trivial
  next rules hrules =>
    rcases rollbackRules_eq_ok hrules with ⟨-, v, -, -, htext, -⟩
    exact ⟨v.rules, htext⟩

theorem ready_readPhase {request : ChangeRequest} {rules : List (String × Json)}
    (h : Consistent s store) (hcarries : request.Carries s rules) :
    Ready s policyId store request (readPhase policyId request.tenantId rules store) := by
  unfold readPhase
  split
  next => trivial
  next before hbefore =>
    have hown := requirePolicy_eq_ok hbefore
    exact ⟨hcarries, h.positive _ _ (ownPolicy_eq_some hown).1, before, hown, le_rfl⟩

/-- A step keeps the versions immutable exactly when, if it writes, it finds the version that
was read. -/
theorem editStep_immutable_iff {a : EditAction ι} (hsound : Sound s policyId requests start w)
    (himmutable : VersionsImmutable policyId start w)
    (hstep : editStep s policyId requests w a = some w') :
    (VersionsImmutable policyId start w' → Sound s policyId requests start w') ∧
      (VersionsImmutable policyId start w' ↔ WritesCurrent policyId requests w a) := by
  cases a with
  | target i =>
      simp only [editStep] at hstep
      split at hstep
      next tenantId actor target hrequest hphase =>
        cases hstep
        have hready : Ready s policyId w.store (requests i)
            (targetPhase s policyId tenantId target w.store) := by
          rw [hrequest]
          exact ready_targetPhase
        exact ⟨fun _ => hsound.advance hready, iff_of_true himmutable trivial⟩
      next => cases hstep
  | read i =>
      simp only [editStep] at hstep
      split at hstep
      next tenantId actor req hrequest hphase =>
        cases hstep
        have hready : Ready s policyId w.store (requests i)
            (readPhase policyId tenantId (parseRules s.loads req.rules) w.store) := by
          rw [hrequest]
          exact @ready_readPhase s policyId w.store (.update tenantId actor req) _
            hsound.consistent rfl
        exact ⟨fun _ => hsound.advance hready, iff_of_true himmutable trivial⟩
      next tenantId actor target rules hrequest hphase =>
        cases hstep
        have hcarries := hsound.ready i
        rw [hphase, hrequest] at hcarries
        have hready : Ready s policyId w.store (requests i)
            (readPhase policyId tenantId rules w.store) := by
          rw [hrequest]
          exact @ready_readPhase s policyId w.store (.rollback tenantId actor target) rules
            hsound.consistent hcarries
        exact ⟨fun _ => hsound.advance hready, iff_of_true himmutable trivial⟩
      next => cases hstep
  | write i =>
      simp only [editStep] at hstep
      split at hstep
      next rules before hphase =>
        split at hstep
        next error herror =>
          cases hstep
          refine ⟨fun _ => hsound.advance trivial, iff_of_true himmutable ?_⟩
          unfold WritesCurrent
          dsimp only
          rw [hphase]
          intro hfits
          have hready := hsound.ready i
          rw [hphase] at hready
          rcases hready with ⟨-, -, r, hown, -⟩
          rcases @writeChange_accepts s policyId w.store (requests i) rules before r hown hfits with
            ⟨store', hok⟩
          rw [herror] at hok
          cases hok
        next store' hok =>
          exact write_immutable_iff hsound himmutable hphase hok (Option.some.inj hstep).symm
      next => cases hstep
  | fail i e =>
      simp only [editStep] at hstep
      split at hstep
      next => cases hstep
      next =>
        cases hstep
        exact ⟨fun _ => hsound.advance trivial, iff_of_true himmutable trivial⟩

end

/-- Recorded versions stay as they are, and each change is above all earlier ones, exactly when
every request that writes finds the policy at the version it has read. -/
theorem versions_immutable_iff {ι : Type} [DecidableEq ι] (s : PolicySetting) (policyId : Int)
    (requests : ι → ChangeRequest) {actions : List PolicyAction} {start : PolicyStore}
    (hstart : run (policyStep s) PolicyStore.empty actions = some start)
    {edits : List (EditAction ι)} {last : Editing ι}
    (hrun : run (editStep s policyId requests) (Editing.start start) edits = some last) :
    Always (editStep s policyId requests) (VersionsImmutable policyId start)
        (Editing.start start) edits ↔
      Respects (editStep s policyId requests) (WritesCurrent policyId requests)
        (Editing.start start) edits := by
  have hsound : Sound s policyId requests start (Editing.start start) :=
    ⟨consistent_of_run (consistent_empty s) hstart, NumberedLog.known_start, fun _ => trivial⟩
  exact always_iff (fun _ _ _ => editStep_immutable_iff) hsound NumberedLog.immutable_start
    ⟨last, hrun⟩

/-- A policy that was created. -/
def sampleStart : PolicyStore :=
  (run (policyStep sampleSetting) PolicyStore.empty
    [.create 1 "admin" (sampleRequest "\x7b\"action\": \"block\"\x7d") 1]).getD PolicyStore.empty

theorem sampleStart_reached :
    run (policyStep sampleSetting) PolicyStore.empty
      [.create 1 "admin" (sampleRequest "\x7b\"action\": \"block\"\x7d") 1] = some sampleStart := by
  unfold sampleStart
  rcases policyStep_total sampleSetting PolicyStore.empty
    (.create 1 "admin" (sampleRequest "\x7b\"action\": \"block\"\x7d") 1) with ⟨store, hstore⟩
  simp only [run, hstore, Option.getD_some]

/-- An update, and a rollback to the first version. -/
def sampleChanges : Bool → ChangeRequest
  | false => .update 1 "first" (sampleRequest "\x7b\"action\": \"redact\"\x7d")
  | true => .rollback 1 "second" 1

/-- The requests one after the other. -/
def changesInTurn : List (EditAction Bool) :=
  [.read false, .write false, .target true, .read true, .write true]

theorem versions_immutable_in_turn :
    Always (editStep sampleSetting 1 sampleChanges) (VersionsImmutable 1 sampleStart)
      (Editing.start sampleStart) changesInTurn := by
  have hends : (run (editStep sampleSetting 1 sampleChanges) (Editing.start sampleStart)
      changesInTurn).isSome = true := by
    decide +kernel
  rcases Option.isSome_iff_exists.mp hends with ⟨last, hrun⟩
  exact (versions_immutable_iff sampleSetting 1 sampleChanges sampleStart_reached hrun).mpr
    (by decide +kernel)

/-- Both requests read the first version. -/
def changesAtOnce : List (EditAction Bool) :=
  [.target true, .read false, .read true, .write false, .write true]

/-- The rollback replaces the version that the update has written. -/
theorem version_overwritten :
    ∃ last, run (editStep sampleSetting 1 sampleChanges) (Editing.start sampleStart) changesAtOnce =
      some last ∧ ¬ VersionsImmutable 1 sampleStart last := by
  have hrun : (run (editStep sampleSetting 1 sampleChanges) (Editing.start sampleStart)
      changesAtOnce).map Editing.changes =
      some [(2, "\x7b\"action\": \"block\"\x7d"), (2, "\x7b\"action\": \"redact\"\x7d")] := by
    decide +kernel
  rcases Option.map_eq_some_iff.mp hrun with ⟨last, hlast, hchanges⟩
  refine ⟨last, hlast, ?_⟩
  intro himmutable
  have hincreasing := himmutable.increasing
  rw [hchanges] at hincreasing
  exact absurd hincreasing (by decide +kernel)

end AuthClaw.Policy
