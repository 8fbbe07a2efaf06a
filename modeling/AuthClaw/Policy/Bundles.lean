import AuthClaw.Library.Keyed
import AuthClaw.Library.PythonText
import AuthClaw.Library.StepSystem
import Mathlib.Data.List.Sort
import Mathlib.Logic.Function.Basic

/-!
# Policy bundles

Each bundle of a tenant has a manifest, a file of its own; which bundle is active stands in
one file for all tenants.  A promotion marks the manifest, then reads the map of the active
bundles, and writes it back with its own entry.  A rollback reads the manifests one after
another, and promotes the one that was built last beside the active one.  A file that is read
or written is one step.

Main results:

- Theorem {lit}`activation_safe`: when every tenant has at most one active manifest, the one
  the map names, rollbacks go back to the bundle that was active before, and no entry of
  another tenant is lost.
-/

namespace AuthClaw.Policy

open PythonText Rows StepSystem

/-! ## Manifests and the map of active bundles -/

/-- The statuses of a bundle. -/
inductive BundleStatus where
  | built
  | active
deriving DecidableEq

/-- A manifest. -/
structure Manifest where
  tenantId : Int
  bundleId : String
  version : String
  status : BundleStatus
  artifact : String
  sha256 : String
  builtAt : String
  builtBy : String
  policyCount : Nat
  promotedAt : Option String
  promotedBy : Option String
deriving DecidableEq

/-- The entry of a tenant in the map of active bundles. -/
structure ActiveEntry where
  bundleId : String
  sha256 : String
  artifact : String
  promotedAt : String
  promotedBy : String
deriving DecidableEq

/-- What a bundle is built from, and the digest of the archive that was written. -/
structure BundleInputs where
  builtAt : String
  yamlPolicy : List (String × Json)
  tenantPolicies : List Json
  archiveDigest : String

/-- The directory of the bundles, and the hash of `json.dumps(payload, sort_keys=True)`. -/
structure BundleSetting where
  bundleDir : String
  payloadHash : Json → String

/-- Why a request is refused. -/
inductive BundleError where
  /-- `Policy bundle not found.` -/
  | notFound
  /-- `No previous bundle is available for rollback.` -/
  | noPrevious
deriving DecidableEq

/-- The manifests are told apart by what their file names carry. -/
def Manifest.file (m : Manifest) : Int × String :=
  (m.tenantId, m.bundleId)

/-- `_manifest_path`, in the directory of the bundles. -/
def manifestName (tenantId : Int) (bundleId : String) : String :=
  s!"tenant-{tenantId}-{bundleId}.manifest.json"

/-- `(yaml_policy.get("opa") or {}).get("package", "authclaw.policy")`. -/
def regoPackage (yamlPolicy : List (String × Json)) : Option Json :=
  match orElseJson (getKey yamlPolicy "opa") none with
  | none => some (.str "authclaw.policy")
  | some (.obj members) => some ((getKey members "package").getD (.str "authclaw.policy"))
  | some _ => none

/-- What a bundle contains. -/
def bundlePayload (tenantId : Int) (actor : String) (inputs : BundleInputs) (package : Json) :
    Json :=
  .obj [
    ("tenant_id", .int tenantId),
    ("built_at", .str inputs.builtAt),
    ("actor", .str actor),
    ("yaml_policy", .obj inputs.yamlPolicy),
    ("tenant_policies", .arr inputs.tenantPolicies),
    ("rego_package", package)]

/-- The manifest that `build_bundle` writes. -/
def builtManifest (s : BundleSetting) (tenantId : Int) (actor : String) (inputs : BundleInputs)
    (package : Json) : Manifest :=
  let version := String.ofList
    ((s.payloadHash (bundlePayload tenantId actor inputs package)).toList.take 16)
  { tenantId := tenantId
    bundleId := version
    version := version
    status := .built
    artifact := s!"{s.bundleDir}/tenant-{tenantId}-{version}.tar.gz"
    sha256 := inputs.archiveDigest
    builtAt := inputs.builtAt
    builtBy := actor
    policyCount := inputs.tenantPolicies.length
    promotedAt := none
    promotedBy := none }

/-- The manifest of a promoted bundle. -/
def promotedManifest (actor now : String) (m : Manifest) : Manifest :=
  { m with status := .active, promotedAt := some now, promotedBy := some actor }

/-- The entry of a promoted bundle.  The manifest of a bundle names the bundle. -/
def activeEntry (actor now : String) (m : Manifest) : ActiveEntry :=
  ⟨m.bundleId, m.sha256, m.artifact, now, actor⟩

/-! ## The choice of a rollback -/

/-- `item.get("status") in {"built", "active"}`. -/
def BundleStatus.available : BundleStatus → Bool
  | .built | .active => true

/-- The bundles a rollback chooses from. -/
def rollbackCandidates (found : List Manifest) (active : Option ActiveEntry) : List Manifest :=
  found.filter fun m =>
    m.status.available && decide (some m.bundleId ≠ active.map ActiveEntry.bundleId)

/-- `sorted(candidates, key=lambda item: item.get("built_at") or "", reverse=True)[0]`: the
first of those that were built last. -/
def lastBuilt : Manifest → List Manifest → Manifest
  | best, [] => best
  | best, m :: rest => lastBuilt (if best.builtAt < m.builtAt then m else best) rest

/-- The bundle that a rollback promotes.  The source notes what it rolls back from on a copy of
the manifest that it drops. -/
def chooseBundle (found : List Manifest) (active : Option ActiveEntry) :
    Except BundleError String :=
  match rollbackCandidates found active with
  | [] => .error .noPrevious
  | m :: rest => .ok (lastBuilt m rest).bundleId

/-! ## The requests -/

/-- A request to activate a bundle. -/
inductive BundleRequest where
  | promote (tenantId : Int) (bundleId actor : String)
  | rollback (tenantId : Int) (actor : String)

def BundleRequest.tenantId : BundleRequest → Int
  | .promote tenantId _ _ => tenantId
  | .rollback tenantId _ => tenantId

def BundleRequest.actor : BundleRequest → String
  | .promote _ _ actor => actor
  | .rollback _ actor => actor

/-- How far a request has come. -/
inductive BundlePhase where
  | waiting
  /-- A rollback reads the manifests that were listed. -/
  | listing (todo : List String) (found : List Manifest)
  /-- A rollback has chosen a bundle. -/
  | chosen (bundleId : String)
  /-- The manifest was read. -/
  | loaded (m : Manifest)
  /-- The manifest was written as active. -/
  | promoted (now : String) (m : Manifest)
  /-- The map of active bundles was read. -/
  | mapped (now : String) (m : Manifest) (activeMap : Int → Option ActiveEntry)
  | done (m : Manifest)
  | refused (error : BundleError)

/-- The files and the requests; and, beside them, the entries that the requests of each tenant
have written, the latest first, and for each rollback the bundle that was active before the
one it replaced, and the one it has activated. -/
structure Bundles (ι : Type) where
  manifests : Table Manifest.file
  activeMap : Int → Option ActiveEntry
  phase : ι → BundlePhase
  activated : Int → List ActiveEntry
  rollbacks : List (Option String × String)

/-- A build, or the next step of a request. -/
inductive BundleAction (ι : Type) where
  | build (tenantId : Int) (actor : String) (inputs : BundleInputs)
  | list (i : ι)
  | readManifest (i : ι)
  | choose (i : ι)
  | load (i : ι)
  | writeManifest (i : ι) (now : String)
  | readMap (i : ι)
  | writeMap (i : ι)

/-- An empty directory. -/
def Bundles.start {ι : Type} : Bundles ι :=
  ⟨.empty, fun _ => none, fun _ => .waiting, fun _ => [], []⟩

/-- The bundle that was active before the current one, by the entries that were written, the
latest first. -/
def activeBefore : List ActiveEntry → Option String
  | [] => none
  | entry :: earlier => (earlier.map ActiveEntry.bundleId).find? (fun b => b ≠ entry.bundleId)

/-- The manifests of a tenant, `sorted(..., reverse=True)`. -/
def listedBundles (tenantId : Int) (manifests : Table Manifest.file) : List String :=
  ((manifests.rows.filter (fun m => m.tenantId = tenantId)).map Manifest.bundleId).insertionSort
    (fun a b => manifestName tenantId b ≤ manifestName tenantId a)

/-- The bundle whose manifest a request reads next. -/
def bundleToLoad : BundleRequest → BundlePhase → Option String
  | .promote _ bundleId _, .waiting => some bundleId
  | .rollback _ _, .chosen bundleId => some bundleId
  | _, _ => none

section

variable {ι : Type} [DecidableEq ι] (s : BundleSetting) (requests : ι → BundleRequest)

/-- A request goes on. -/
def Bundles.advance (w : Bundles ι) (i : ι) (p : BundlePhase) : Bundles ι :=
  { w with phase := Function.update w.phase i p }

/-- The rollbacks after a request has written the map. -/
def recordRollback (request : BundleRequest) (before : Option String) (bundleId : String)
    (rollbacks : List (Option String × String)) : List (Option String × String) :=
  match request with
  | .promote _ _ _ => rollbacks
  | .rollback _ _ => (before, bundleId) :: rollbacks

/-- A step of a build or a request. -/
def bundleStep (w : Bundles ι) : BundleAction ι → Option (Bundles ι)
  | .build tenantId actor inputs =>
      match regoPackage inputs.yamlPolicy with
      | none => some w
      | some package =>
          some { w with
            manifests := w.manifests.put (builtManifest s tenantId actor inputs package) }
  | .list i =>
      match requests i, w.phase i with
      | .rollback tenantId _, .waiting =>
          some (w.advance i (.listing (listedBundles tenantId w.manifests) []))
      | _, _ => none
  | .readManifest i =>
      match requests i, w.phase i with
      | .rollback tenantId _, .listing (bundleId :: todo) found =>
          some (w.advance i
            (.listing todo (found ++ (w.manifests.find (tenantId, bundleId)).toList)))
      | _, _ => none
  | .choose i =>
      match requests i, w.phase i with
      | .rollback tenantId _, .listing [] found =>
          match chooseBundle found (w.activeMap tenantId) with
          | .error e => some (w.advance i (.refused e))
          | .ok bundleId => some (w.advance i (.chosen bundleId))
      | _, _ => none
  | .load i =>
      match bundleToLoad (requests i) (w.phase i) with
      | some bundleId =>
          match w.manifests.find ((requests i).tenantId, bundleId) with
          | none => some (w.advance i (.refused .notFound))
          | some m => some (w.advance i (.loaded m))
      | none => none
  | .writeManifest i now =>
      match w.phase i with
      | .loaded m =>
          let m' := promotedManifest (requests i).actor now m
          some { w.advance i (.promoted now m') with manifests := w.manifests.put m' }
      | _ => none
  | .readMap i =>
      match w.phase i with
      | .promoted now m => some (w.advance i (.mapped now m w.activeMap))
      | _ => none
  | .writeMap i =>
      match w.phase i with
      | .mapped now m activeMap =>
          let tenantId := (requests i).tenantId
          let entry := activeEntry (requests i).actor now m
          some { w.advance i (.done m) with
            activeMap := Function.update activeMap tenantId (some entry)
            activated := Function.update w.activated tenantId (entry :: w.activated tenantId)
            rollbacks := recordRollback (requests i) (activeBefore (w.activated tenantId))
              m.bundleId w.rollbacks }
      | _ => none

/-! ## What activation is for -/

/-- The manifest a request has written as active, and whose bundle it has not entered into the
map. -/
def BundlePhase.entering : BundlePhase → Option Manifest
  | .promoted _ m | .mapped _ m _ => some m
  | .waiting | .listing _ _ | .chosen _ | .loaded _ | .done _ | .refused _ => none

/-- The bundle a rollback has chosen, and not entered into the map. -/
def BundlePhase.returning : BundlePhase → Option String
  | .chosen bundleId => some bundleId
  | .loaded m | .promoted _ m | .mapped _ m _ => some m.bundleId
  | .waiting | .listing _ _ | .done _ | .refused _ => none

/-- The active manifest of a tenant is the one the map names, or the one that a request between
its two writes will name. -/
def Named (w : Bundles ι) (m : Manifest) : Prop :=
  (w.activeMap m.tenantId).map ActiveEntry.bundleId = some m.bundleId ∨
    ∃ i m', (w.phase i).entering = some m' ∧ m'.file = m.file

/-- Every tenant has at most one active manifest, the one the map names; rollbacks go back to
the bundle that was active before; and the entry of each tenant is the last one that its own
requests have written. -/
structure ActivationSafe (w : Bundles ι) : Prop where
  unique : ∀ m ∈ w.manifests.rows, ∀ m' ∈ w.manifests.rows,
    m.status = .active → m'.status = .active → m.tenantId = m'.tenantId → m = m'
  named : ∀ m ∈ w.manifests.rows, m.status = .active → Named w m
  returns : ∀ r ∈ w.rollbacks, r.1 = some r.2
  kept : ∀ tenantId, w.activeMap tenantId = (w.activated tenantId).head?

/-- The bundle is the first of those that were built last. -/
def LastBuilt (candidates : List Manifest) (bundleId : String) : Prop :=
  ∃ earlier m later, candidates = earlier ++ m :: later ∧ m.bundleId = bundleId ∧
    (∀ m' ∈ earlier, m'.builtAt < m.builtAt) ∧ ∀ m' ∈ later, m'.builtAt ≤ m.builtAt

/-- No other bundle of the tenant has an active manifest. -/
def OnlyActive (w : Bundles ι) (m : Manifest) : Prop :=
  ∀ m' ∈ w.manifests.rows, m'.status = .active → m'.tenantId = m.tenantId →
    m'.bundleId = m.bundleId

/-- A rollback of the tenant has chosen a bundle, and not entered it into the map. -/
def ReturnPending (requests : ι → BundleRequest) (w : Bundles ι) (i : ι) (tenantId : Int) : Prop :=
  ∃ j ≠ i, ∃ actor, requests j = .rollback tenantId actor ∧ (w.phase j).returning ≠ none

/-- A manifest is written as active, and a bundle is entered into the map, while no other bundle
of the tenant has an active manifest; the map is written while the entries of the other tenants
are those that were read; a rollback chooses while the bundle that was active before is the one
that was built last, and no other bundle is activated before it is done. -/
def Orderly (requests : ι → BundleRequest) (w : Bundles ι) : BundleAction ι → Prop
  | .choose i =>
      match requests i, w.phase i with
      | .rollback tenantId _, .listing [] found =>
          rollbackCandidates found (w.activeMap tenantId) = [] ∨
            ∃ b, activeBefore (w.activated tenantId) = some b ∧
              LastBuilt (rollbackCandidates found (w.activeMap tenantId)) b
      | _, _ => True
  | .writeManifest i _ =>
      match w.phase i with
      | .loaded m => OnlyActive w m
      | _ => True
  | .writeMap i =>
      match w.phase i with
      | .mapped _ m activeMap =>
          OnlyActive w m ∧
            (∀ tenantId, tenantId ≠ m.tenantId → activeMap tenantId = w.activeMap tenantId) ∧
            (ReturnPending requests w i m.tenantId →
              (w.activeMap m.tenantId).map ActiveEntry.bundleId = some m.bundleId)
      | _ => True
  | .build _ _ _ | .list _ | .readManifest _ | .load _ | .readMap _ => True

/-! ## The choice -/

/-- The bundle that a rollback promotes is the first of those that were built last. -/
theorem lastBuilt_of_split {b : String} {m : Manifest} {rest : List Manifest}
    (h : LastBuilt (m :: rest) b) : (lastBuilt m rest).bundleId = b := by
  induction rest generalizing m with
  | nil =>
      rcases h with ⟨earlier, best, later, hsplit, hb, -, -⟩
      cases earlier with
      | nil =>
          injection hsplit with hm _
          exact (congrArg Manifest.bundleId hm).trans hb
      | cons first earlier =>
          injection hsplit with _ hnil
          exact absurd hnil (by simp)
  | cons next rest ih =>
      rcases h with ⟨earlier, best, later, hsplit, hb, hearlier, hlater⟩
      refine ih ?_
      cases earlier with
      | nil =>
          injection hsplit with hm hrest
          subst hm hrest
          have hle : ¬ m.builtAt < next.builtAt := not_lt.mpr (hlater next List.mem_cons_self)
          rw [if_neg hle]
          refine ⟨[], m, rest, rfl, hb, by simp, ?_⟩
          intro m' hm'
          exact hlater m' (List.mem_cons_of_mem _ hm')
      | cons first earlier =>
          injection hsplit with hm hrest
          subst hm
          cases earlier with
          | nil =>
              injection hrest with hnext hrest
              subst hnext hrest
              rw [if_pos (hearlier m List.mem_cons_self)]
              exact ⟨[], next, rest, rfl, hb, by simp, hlater⟩
          | cons second earlier =>
              injection hrest with hnext hrest
              subst hnext
              have hfirst := hearlier m List.mem_cons_self
              have hsecond := hearlier next (List.mem_cons_of_mem _ List.mem_cons_self)
              refine ⟨(if m.builtAt < next.builtAt then next else m) :: earlier, best, later,
                by rw [hrest]; rfl, hb, ?_, hlater⟩
              intro m' hm'
              rcases List.mem_cons.mp hm' with rfl | hm'
              · split_ifs
                · exact hsecond
                · exact hfirst
              · exact hearlier m' (List.mem_cons_of_mem _ (List.mem_cons_of_mem _ hm'))

/-- Activating the current bundle again leaves the bundle that was active before. -/
theorem activeBefore_cons {entry : ActiveEntry} {entries : List ActiveEntry}
    (h : entries.head?.map ActiveEntry.bundleId = some entry.bundleId) :
    activeBefore (entry :: entries) = activeBefore entries := by
  cases entries with
  | nil => cases h
  | cons current earlier =>
      have hsame : current.bundleId = entry.bundleId := Option.some.inj h
      simp [activeBefore, hsame]

/-! ## What the steps keep -/

/-- What the steps of an orderly run keep. -/
structure ActivationSound (requests : ι → BundleRequest) (w : Bundles ι) : Prop where
  safe : ActivationSafe w
  loaded : ∀ i m, (w.phase i = .loaded m ∨ (w.phase i).entering = some m) →
    m.tenantId = (requests i).tenantId
  chosen : ∀ i tenantId actor b, requests i = .rollback tenantId actor →
    (w.phase i).returning = some b → activeBefore (w.activated tenantId) = some b

variable {s requests} {w w' : Bundles ι} {i : ι} {p : BundlePhase}

@[simp]
theorem advance_phase_self : (w.advance i p).phase i = p :=
  Function.update_self _ _ _

theorem advance_phase_of_ne {j : ι} (h : j ≠ i) : (w.advance i p).phase j = w.phase j :=
  Function.update_of_ne h _ _

omit [DecidableEq ι] in
/-- A manifest stays named while the map stays and no request leaves its two writes. -/
theorem Named.mono {m : Manifest} (h : Named w m)
    (hmap : w'.activeMap m.tenantId = w.activeMap m.tenantId)
    (hentering : ∀ j m', m'.file = m.file → (w.phase j).entering = some m' →
      (w'.phase j).entering = some m') : Named w' m := by
  rcases h with hnamed | ⟨j, m', hj, hfile⟩
  · left
    rw [hmap]
    exact hnamed
  · exact Or.inr ⟨j, m', hentering j m' hfile hj, hfile⟩

/-- A step of a request that leaves what it is about to activate. -/
theorem entering_advance (hentering : ∀ m, (w.phase i).entering = some m → p.entering = some m)
    {j : ι} {m : Manifest} (h : (w.phase j).entering = some m) :
    ((w.advance i p).phase j).entering = some m := by
  by_cases hj : j = i
  · subst hj
    rw [advance_phase_self]
    exact hentering m h
  · rw [advance_phase_of_ne hj]
    exact h

/-- A step that writes no file. -/
theorem ActivationSound.advance (h : ActivationSound requests w)
    (hentering : ∀ m, (w.phase i).entering = some m → p.entering = some m)
    (hloaded : ∀ m, (p = .loaded m ∨ p.entering = some m) → m.tenantId = (requests i).tenantId)
    (hreturning : ∀ tenantId actor b, requests i = .rollback tenantId actor →
      p.returning = some b → activeBefore (w.activated tenantId) = some b) :
    ActivationSound requests (w.advance i p) where
  safe := {
    unique := h.safe.unique
    named := fun m hm hactive =>
      (h.safe.named m hm hactive).mono rfl (fun _ _ _ => entering_advance hentering)
    returns := h.safe.returns
    kept := h.safe.kept }
  loaded := by
    intro j m hm
    by_cases hj : j = i
    · subst hj
      rw [advance_phase_self] at hm
      exact hloaded m hm
    · rw [advance_phase_of_ne hj] at hm
      exact h.loaded j m hm
  chosen := by
    intro j tenantId actor b hrequest hb
    by_cases hj : j = i
    · subst hj
      rw [advance_phase_self] at hb
      exact hreturning tenantId actor b hrequest hb
    · rw [advance_phase_of_ne hj] at hb
      exact h.chosen j tenantId actor b hrequest hb

/-- A step of a request that has not written its manifest, and does not load one. -/
theorem ActivationSound.advance_of_early (h : ActivationSound requests w)
    (hbefore : (w.phase i).entering = none) (hloaded : ∀ m, p ≠ .loaded m)
    (hafter : p.entering = none)
    (hreturning : ∀ tenantId actor b, requests i = .rollback tenantId actor →
      p.returning = some b → activeBefore (w.activated tenantId) = some b) :
    ActivationSound requests (w.advance i p) := by
  refine h.advance ?_ ?_ hreturning
  · intro m hm
    rw [hbefore] at hm
    cases hm
  · rintro m (hp | hp)
    · exact absurd hp (hloaded m)
    · rw [hafter] at hp
      cases hp

omit [DecidableEq ι] in
/-- A manifest is written. -/
theorem ActivationSound.put (h : ActivationSound requests w) {m : Manifest}
    (hunique : m.status = .active → OnlyActive w m) (hnamed : m.status = .active → Named w m) :
    ActivationSound requests { w with manifests := w.manifests.put m } := by
  have hother : ∀ m' ∈ w.manifests.rows, m'.file ≠ m.file → m.status = .active →
      m'.status = .active → m'.tenantId ≠ m.tenantId := by
    intro m' hm' hfile hactive hactive' htenant
    exact hfile (Prod.ext htenant (hunique hactive m' hm' hactive' htenant))
  refine ⟨⟨?_, ?_, h.safe.returns, h.safe.kept⟩, h.loaded, h.chosen⟩
  · intro m₁ hm₁ m₂ hm₂ hactive₁ hactive₂ htenant
    rcases Table.mem_put.mp hm₁ with rfl | ⟨hold₁, hfile₁⟩
    · rcases Table.mem_put.mp hm₂ with rfl | ⟨hold₂, hfile₂⟩
      · rfl
      · exact absurd htenant.symm (hother m₂ hold₂ hfile₂ hactive₁ hactive₂)
    · rcases Table.mem_put.mp hm₂ with rfl | ⟨hold₂, hfile₂⟩
      · exact absurd htenant (hother m₁ hold₁ hfile₁ hactive₂ hactive₁)
      · exact h.safe.unique m₁ hold₁ m₂ hold₂ hactive₁ hactive₂ htenant
  · intro m' hm' hactive
    rcases Table.mem_put.mp hm' with rfl | ⟨hm', -⟩
    · exact hnamed hactive
    · exact h.safe.named m' hm' hactive

/-- A request enters its bundle into the map. -/
theorem ActivationSound.enter (h : ActivationSound requests w) {now : String} {m : Manifest}
    {activeMap : Int → Option ActiveEntry} (hphase : w.phase i = .mapped now m activeMap)
    (horderly : Orderly requests w (.writeMap i))
    (hstep : bundleStep s requests w (.writeMap i) = some w') : ActivationSound requests w' := by
  have hentering : (w.phase i).entering = some m := by rw [hphase]; rfl
  have htenant : m.tenantId = (requests i).tenantId := h.loaded i m (Or.inr hentering)
  simp only [Orderly, hphase] at horderly
  rcases horderly with ⟨honly, hfresh, hpending⟩
  simp only [bundleStep, hphase, Option.some_inj] at hstep
  rw [← htenant] at hstep
  subst hstep
  refine ⟨⟨h.safe.unique, ?_, ?_, ?_⟩, ?_, ?_⟩
  · intro m' hm' hactive
    by_cases hown : m'.tenantId = m.tenantId
    · left
      dsimp only
      rw [hown, Function.update_self, honly m' hm' hactive hown]
      rfl
    · refine (h.safe.named m' hm' hactive).mono ?_ ?_
      · dsimp only
        rw [Function.update_of_ne hown]
        exact hfresh _ hown
      · intro j m'' hfile hj
        have hji : j ≠ i := by
          rintro rfl
          rw [hentering] at hj
          cases hj
          exact hown (congrArg Prod.fst hfile).symm
        exact (congrArg _ (advance_phase_of_ne hji)).trans hj
  · cases hrequest : requests i with
    | promote tenantId bundleId actor => exact h.safe.returns
    | rollback tenantId actor =>
        have hchosen : activeBefore (w.activated tenantId) = some m.bundleId :=
          h.chosen i tenantId actor m.bundleId hrequest (by rw [hphase]; rfl)
        rw [hrequest] at htenant
        intro r hr
        rcases List.mem_cons.mp hr with rfl | hr
        · dsimp only
          rw [htenant]
          exact hchosen
        · exact h.safe.returns r hr
  · intro tenantId
    dsimp only
    by_cases hown : tenantId = m.tenantId
    · rw [hown, Function.update_self, Function.update_self]
      rfl
    · rw [Function.update_of_ne hown, Function.update_of_ne hown, hfresh _ hown]
      exact h.safe.kept tenantId
  · intro j m' hm'
    by_cases hji : j = i
    · subst hji
      dsimp only at hm'
      rw [advance_phase_self] at hm'
      rcases hm' with hm' | hm' <;> cases hm'
    · dsimp only at hm'
      rw [advance_phase_of_ne hji] at hm'
      exact h.loaded j m' hm'
  · intro j tenantId actor b hrequest hb
    by_cases hji : j = i
    · subst hji
      dsimp only at hb
      rw [advance_phase_self] at hb
      cases hb
    · dsimp only at hb
      rw [advance_phase_of_ne hji] at hb
      dsimp only
      by_cases hown : tenantId = m.tenantId
      · subst hown
        have hcurrent := hpending ⟨j, hji, actor, hrequest, by rw [hb]; exact Option.some_ne_none b⟩
        rw [h.safe.kept] at hcurrent
        rw [Function.update_self, activeBefore_cons hcurrent]
        exact h.chosen j _ actor b hrequest hb
      · rw [Function.update_of_ne hown]
        exact h.chosen j tenantId actor b hrequest hb

/-- A rollback chooses the bundle that was active before. -/
theorem ActivationSound.choose (h : ActivationSound requests w)
    (horderly : Orderly requests w (.choose i))
    (hstep : bundleStep s requests w (.choose i) = some w') : ActivationSound requests w' := by
  simp only [bundleStep] at hstep
  split at hstep
  next tenantId actor found hrequest hphase =>
    have hearly : (w.phase i).entering = none := by rw [hphase]; rfl
    split at hstep
    next e hchoose =>
      cases hstep
      exact h.advance_of_early hearly (by simp) rfl (by simp [BundlePhase.returning])
    next bundleId hchoose =>
      cases hstep
      refine h.advance_of_early hearly (by simp) rfl ?_
      intro tenantId' actor' b hrequest' hb
      cases hb
      rw [hrequest] at hrequest'
      cases hrequest'
      simp only [Orderly, hrequest, hphase] at horderly
      unfold chooseBundle at hchoose
      split at hchoose
      next => cases hchoose
      next m rest hcandidates =>
        cases hchoose
        rw [hcandidates] at horderly
        rcases horderly with hnil | ⟨b, hbefore, hlast⟩
        · cases hnil
        · rw [lastBuilt_of_split hlast]
          exact hbefore
  next => cases hstep

/-- Before its manifest is read, a request has written nothing; a rollback reads the manifest of
the bundle it has chosen. -/
theorem bundleToLoad_eq_some {request : BundleRequest} {bundleId : String}
    (h : bundleToLoad request p = some bundleId) :
    p.entering = none ∧
      ∀ tenantId actor, request = .rollback tenantId actor → p.returning = some bundleId := by
  unfold bundleToLoad at h
  split at h
  next =>
    refine ⟨rfl, ?_⟩
    intro tenantId actor hrequest
    cases hrequest
  next =>
    cases h
    exact ⟨rfl, fun _ _ _ => rfl⟩
  next => cases h

/-- A request reads the manifest of its bundle. -/
theorem ActivationSound.load (h : ActivationSound requests w)
    (hstep : bundleStep s requests w (.load i) = some w') : ActivationSound requests w' := by
  simp only [bundleStep] at hstep
  split at hstep
  next bundleId hload =>
    rcases bundleToLoad_eq_some hload with ⟨hearly, hchosen⟩
    split at hstep
    next hfind =>
      cases hstep
      exact h.advance_of_early hearly (by simp) rfl (by simp [BundlePhase.returning])
    next m hfind =>
      cases hstep
      have hfile := Table.find_key hfind
      refine h.advance ?_ ?_ ?_
      · intro m' hm'
        rw [hearly] at hm'
        cases hm'
      · rintro m' (hm' | hm')
        · cases hm'
          exact congrArg Prod.fst hfile
        · cases hm'
      · intro tenantId actor b hrequest hb
        cases hb
        refine h.chosen i tenantId actor _ hrequest ?_
        rw [hchosen tenantId actor hrequest]
        exact congrArg some (congrArg Prod.snd hfile).symm
  next => cases hstep

/-- A request writes its manifest as active. -/
theorem ActivationSound.promote (h : ActivationSound requests w) {now : String}
    (horderly : Orderly requests w (.writeManifest i now))
    (hstep : bundleStep s requests w (.writeManifest i now) = some w') :
    ActivationSound requests w' := by
  simp only [bundleStep] at hstep
  split at hstep
  next m hphase =>
    cases hstep
    simp only [Orderly, hphase] at horderly
    have hadvance : ActivationSound requests
        (w.advance i (.promoted now (promotedManifest (requests i).actor now m))) := by
      refine h.advance ?_ ?_ ?_
      · intro m' hm'
        rw [hphase] at hm'
        cases hm'
      · rintro m' (hm' | hm')
        · cases hm'
        · cases hm'
          exact h.loaded i m (Or.inl hphase)
      · intro tenantId actor b hrequest hb
        cases hb
        exact h.chosen i tenantId actor _ hrequest (by rw [hphase]; rfl)
    refine hadvance.put ?_ ?_
    · intro _ m' hm' hactive htenant
      exact horderly m' hm' hactive htenant
    · intro _
      exact Or.inr ⟨i, _, by rw [advance_phase_self]; rfl, rfl⟩
  next => cases hstep

/-- A request reads the map. -/
theorem ActivationSound.readMap (h : ActivationSound requests w)
    (hstep : bundleStep s requests w (.readMap i) = some w') : ActivationSound requests w' := by
  simp only [bundleStep] at hstep
  split at hstep
  next now m hphase =>
    cases hstep
    have hentering : (w.phase i).entering = some m := by rw [hphase]; rfl
    refine h.advance ?_ ?_ ?_
    · intro m' hm'
      rw [hentering] at hm'
      exact hm'
    · rintro m' (hm' | hm')
      · cases hm'
      · exact h.loaded i m' (Or.inr (hentering.trans hm'))
    · intro tenantId actor b hrequest hb
      exact h.chosen i tenantId actor b hrequest (by rw [hphase]; exact hb)
  next => cases hstep

/-- What a step of an orderly run keeps. -/
theorem bundleStep_sound {a : BundleAction ι} (h : ActivationSound requests w)
    (horderly : Orderly requests w a) (hstep : bundleStep s requests w a = some w') :
    ActivationSound requests w' := by
  cases a with
  | build tenantId actor inputs =>
      simp only [bundleStep] at hstep
      split at hstep
      next =>
        cases hstep
        exact h
      next package =>
        cases hstep
        exact h.put (fun hactive => by cases hactive) (fun hactive => by cases hactive)
  | list i =>
      simp only [bundleStep] at hstep
      split at hstep
      next tenantId actor hrequest hphase =>
        cases hstep
        exact h.advance_of_early (by rw [hphase]; rfl) (by simp) rfl
          (by simp [BundlePhase.returning])
      next => cases hstep
  | readManifest i =>
      simp only [bundleStep] at hstep
      split at hstep
      next tenantId actor bundleId todo found hrequest hphase =>
        cases hstep
        exact h.advance_of_early (by rw [hphase]; rfl) (by simp) rfl
          (by simp [BundlePhase.returning])
      next => cases hstep
  | choose i => exact h.choose horderly hstep
  | load i => exact h.load hstep
  | writeManifest i now => exact h.promote horderly hstep
  | readMap i => exact h.readMap hstep
  | writeMap i =>
      cases hphase : w.phase i with
      | mapped now m activeMap => exact h.enter hphase horderly hstep
      | _ => simp [bundleStep, hphase] at hstep

omit [DecidableEq ι] in
theorem activationSound_start : ActivationSound requests (Bundles.start : Bundles ι) where
  safe := {
    unique := fun m hm => absurd hm List.not_mem_nil
    named := fun m hm => absurd hm List.not_mem_nil
    returns := fun r hr => absurd hr List.not_mem_nil
    kept := fun _ => rfl }
  loaded := by
    rintro i m (hm | hm) <;> cases hm
  chosen := by
    intro i tenantId actor b _ hb
    cases hb

/-- In a run whose steps are orderly, every tenant has at most one active manifest, the one the
map names, rollbacks go back to the bundle that was active before, and no request loses the
entry of another tenant. -/
theorem activation_safe (s : BundleSetting) (requests : ι → BundleRequest)
    (as : List (BundleAction ι))
    (h : Respects (bundleStep s requests) (Orderly requests) Bundles.start as) :
    Always (bundleStep s requests) ActivationSafe (Bundles.start : Bundles ι) as :=
  always_of_respects (fun _ hsound => hsound.safe) (fun _ _ _ => bundleStep_sound)
    activationSound_start h

end

/-! ## Runs on a sample directory -/

/-- What a bundle of the tenant at the time is built from. -/
def sampleInputs (builtAt : String) : BundleInputs where
  builtAt := builtAt
  yamlPolicy := [("opa", .obj [("package", .str "authclaw.policy")])]
  tenantPolicies := []
  archiveDigest := builtAt

/-- The hashes of the payloads that are built below, by tenant and time. -/
def samplePayloadHash : Json → String
  | .obj ((_, .int 1) :: (_, .str "2025-03-01T09:00:00.000001+00:00") :: _) =>
      "702ac416c0fb5695623ee1bd47c3a25c6d3de4e655bced90e088680fae38bae6"
  | .obj ((_, .int 1) :: (_, .str "2025-03-01T10:00:00.000001+00:00") :: _) =>
      "e9946a320160ddfde731265a999515cd7823eb8504d0ccac27f880bf5cdafee5"
  | .obj ((_, .int 1) :: (_, .str "2025-03-01T11:00:00.000001+00:00") :: _) =>
      "ddebb4c749f3d43a012e91e8c60e89ec71383165ee023de3414cfa7bb7e218cf"
  | _ => "8c8fb68adc3e7e8d982fb4e569a2066d78ebd0bb3cccd462ad3d995fe8b323a3"

def sampleBundles : BundleSetting :=
  ⟨"var/policy_bundles", samplePayloadHash⟩

def sampleBuild {ι : Type} (tenantId : Int) (builtAt : String) : BundleAction ι :=
  .build tenantId "ops" (sampleInputs builtAt)

/-- A promotion from its first read to its last write. -/
def promotion {ι : Type} (i : ι) (now : String) : List (BundleAction ι) :=
  [.load i, .writeManifest i now, .readMap i, .writeMap i]

/-- Two promotions and a rollback of a tenant, and a promotion of another. -/
def sampleRequests : Fin 4 → BundleRequest
  | 0 => .promote 1 "702ac416c0fb5695" "ops"
  | 1 => .promote 1 "e9946a320160ddfd" "ops"
  | 2 => .rollback 1 "ops"
  | 3 => .promote 2 "8c8fb68adc3e7e8d" "ops"

/-- Two bundles are built and promoted, one after the other. -/
def promoteTwice : List (BundleAction (Fin 4)) :=
  [sampleBuild 1 "2025-03-01T09:00:00.000001+00:00",
    sampleBuild 1 "2025-03-01T10:00:00.000001+00:00"] ++
    promotion 0 "2025-03-01T12:00:00.000001+00:00" ++
    promotion 1 "2025-03-01T13:00:00.000001+00:00"

/-- After that a third bundle is built, and the tenant rolls back. -/
def rollbackAfter : List (BundleAction (Fin 4)) :=
  promoteTwice ++ [sampleBuild 1 "2025-03-01T11:00:00.000001+00:00", .list 2, .readManifest 2,
    .readManifest 2, .readManifest 2, .choose 2] ++
    promotion 2 "2025-03-01T14:00:00.000001+00:00"

/-- Two tenants promote a bundle at once. -/
def promoteBoth : List (BundleAction (Fin 4)) :=
  [sampleBuild 1 "2025-03-01T09:00:00.000001+00:00",
    sampleBuild 2 "2025-03-01T09:00:00.000001+00:00", .load 0, .load 3,
    .writeManifest 0 "2025-03-01T12:00:00.000001+00:00",
    .writeManifest 3 "2025-03-01T12:00:00.000001+00:00", .readMap 0, .readMap 3, .writeMap 0,
    .writeMap 3]

/-- A second promotion leaves two active manifests, a rollback activates a bundle that was never
active, and of two promotions at once the entry of one tenant is lost. -/
theorem activation_unsafe :
    (∃ w, run (bundleStep sampleBundles sampleRequests) Bundles.start promoteTwice = some w ∧
      (w.manifests.rows.map (fun m => (m.tenantId, m.status))) = [(1, .active), (1, .active)] ∧
      ¬ ActivationSafe w) ∧
    (∃ w, run (bundleStep sampleBundles sampleRequests) Bundles.start rollbackAfter = some w ∧
      w.rollbacks = [(some "702ac416c0fb5695", "ddebb4c749f3d43a")] ∧ ¬ ActivationSafe w) ∧
    (∃ w, run (bundleStep sampleBundles sampleRequests) Bundles.start promoteBoth = some w ∧
      w.activeMap 1 = none ∧ w.activated 1 ≠ [] ∧ ¬ ActivationSafe w) := by
  refine ⟨?_, ?_, ?_⟩
  · have htwice : (run (bundleStep sampleBundles sampleRequests) Bundles.start promoteTwice).map
        (fun w => w.manifests.rows.map (fun m => (m.tenantId, m.bundleId, m.status))) =
          some [(1, "702ac416c0fb5695", .active), (1, "e9946a320160ddfd", .active)] := by
      decide +kernel
    rcases Option.map_eq_some_iff.mp htwice with ⟨w, hw, hrows⟩
    rcases List.map_eq_cons_iff.mp hrows with ⟨m, rest, hsplit, hm, hrest⟩
    rcases List.map_eq_singleton_iff.mp hrest with ⟨m', hsingle, hm'⟩
    subst hsingle
    injection hm with htenant hm
    injection hm with hbundle hactive
    injection hm' with htenant' hm'
    injection hm' with hbundle' hactive'
    refine ⟨w, hw, ?_, ?_⟩
    · simp [hsplit, htenant, htenant', hactive, hactive']
    · intro hsafe
      have hsame := hsafe.unique m (by simp [hsplit]) m' (by simp [hsplit]) hactive hactive'
        (htenant.trans htenant'.symm)
      rw [hsame, hbundle'] at hbundle
      exact absurd hbundle (by decide)
  · have hrollback : (run (bundleStep sampleBundles sampleRequests) Bundles.start rollbackAfter).map
        Bundles.rollbacks = some [(some "702ac416c0fb5695", "ddebb4c749f3d43a")] := by
      decide +kernel
    rcases Option.map_eq_some_iff.mp hrollback with ⟨w, hw, hrollbacks⟩
    refine ⟨w, hw, hrollbacks, ?_⟩
    intro hsafe
    have hreturn := hsafe.returns (some "702ac416c0fb5695", "ddebb4c749f3d43a")
      (by simp [hrollbacks])
    exact absurd hreturn (by decide)
  · have hboth : (run (bundleStep sampleBundles sampleRequests) Bundles.start promoteBoth).map
        (fun w => (w.activeMap 1, (w.activated 1).length)) = some (none, 1) := by
      decide +kernel
    rcases Option.map_eq_some_iff.mp hboth with ⟨w, hw, hmaps⟩
    injection hmaps with hmap hlength
    have hactivated : w.activated 1 ≠ [] := by
      intro hnil
      rw [hnil] at hlength
      cases hlength
    refine ⟨w, hw, hmap, hactivated, ?_⟩
    intro hsafe
    have hkept := hsafe.kept 1
    rw [hmap] at hkept
    exact hactivated (List.head?_eq_none_iff.mp hkept.symm)

/-- The first promotion of a tenant is orderly. -/
theorem activation_safe_promotion :
    Always (bundleStep sampleBundles sampleRequests) ActivationSafe Bundles.start
      (sampleBuild 1 "2025-03-01T09:00:00.000001+00:00" ::
        promotion (0 : Fin 4) "2025-03-01T12:00:00.000001+00:00") := by
  refine activation_safe sampleBundles sampleRequests _ ?_
  refine ⟨trivial, fun w hbuild => ?_⟩
  cases hbuild
  refine ⟨trivial, fun w hload => ?_⟩
  cases hload
  refine ⟨?_, fun w hpromote => ?_⟩
  · intro m hm hactive
    rcases List.mem_singleton.mp hm with rfl
    cases hactive
  cases hpromote
  refine ⟨trivial, fun w hread => ?_⟩
  cases hread
  refine ⟨⟨?_, fun _ _ => rfl, ?_⟩, fun w _ => trivial⟩
  · intro m hm _ _
    rcases Table.mem_put.mp hm with rfl | ⟨hm, hfile⟩
    · rfl
    · rcases List.mem_singleton.mp hm with rfl
      exact absurd rfl hfile
  · rintro ⟨j, hj, actor, hrequest, hreturning⟩
    rw [advance_phase_of_ne hj] at hreturning
    dsimp only at hreturning
    rw [advance_phase_of_ne hj, advance_phase_of_ne hj] at hreturning
    exact absurd rfl hreturning

end AuthClaw.Policy
