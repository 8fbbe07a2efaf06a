import AuthClaw.Identity.Oidc
import AuthClaw.Library.RowLock
import AuthClaw.Library.StepSystem

/-!
# The activation of a registration

Requests that verify the e-mail address or the domain of one registration, statement by
statement.  Both update the row of the registration before they read it again and create the
tenant: the update waits for the request before it to end, and what is read after it is what
that request committed.

Main results:

- Theorem {lit}`activate_alone`: the statements of a request are those of
  {lit}`activateVerifiedRegistration`.
- Theorem {lit}`one_tenant_per_registration`: however the requests interleave, at most one
  tenant and one admin user are created.
-/

namespace AuthClaw.Identity

open PythonText Rows StepSystem RowLock
open Events (columnText)

/-! ## Rows -/

/-- A row of `onboarding_registrations`. -/
structure RegistrationRow where
  id : Int
  organizationName : String
  fullName : Option String
  workEmail : String
  domain : String
  passwordHash : String
  emailVerificationToken : String
  domainVerificationToken : String
  emailVerified : Bool
  domainVerified : Bool
  tenantId : Option Int
  totpSecret : String
deriving DecidableEq

/-- A row of `tenants`, as a registration writes it. -/
structure OrganizationRow where
  id : Int
  name : String
  domain : String
  email : String
  emailVerified : Bool
  domainVerified : Bool
  domainVerificationToken : String
  totpSecret : String
deriving DecidableEq

/-- A row of `tenant_users` with the columns of multi-factor authentication. -/
structure AdminRow where
  tenantId : Int
  firstName : Option String
  lastName : Option String
  email : String
  passwordHash : String
  role : String
  permissions : String
  emailVerified : Bool
  mfaEnabled : Bool
  totpSecret : String
  status : String
deriving DecidableEq

/-- A row of `policies`, by its tenant and name. -/
structure StarterPolicy where
  tenantId : Int
  name : String
  type : String
  rules : String
deriving DecidableEq

/-- The registration and the tables that its activation writes. -/
structure Onboarding where
  registration : RegistrationRow
  tenants : List OrganizationRow
  admins : List AdminRow
  policies : List StarterPolicy
deriving DecidableEq

/-- What the handlers read from their surroundings. -/
structure OnboardingSetting where
  py : PyText
  /-- `lower` of the database. -/
  lower : String → String
  /-- `skip_domain_verification_for_testing()`. -/
  skipDomainVerification : Bool
  /-- `disable_mfa_for_testing()`. -/
  disableMfa : Bool

/-! ## Statements -/

/-- The tenant of a registration, when it has a true one. -/
def existingTenantId (r : RegistrationRow) : Option Int :=
  r.tenantId.filter (fun tenantId => tenantId ≠ 0)

/-- `UPDATE ... SET email_verified = true`. -/
def markEmailVerified (db : Onboarding) : Onboarding :=
  { db with registration := { db.registration with emailVerified := true } }

/-- `UPDATE ... SET domain_verified = true`. -/
def markDomainVerified (db : Onboarding) : Onboarding :=
  { db with registration := { db.registration with domainVerified := true } }

/-- `INSERT INTO tenants`. -/
def insertTenant (tenantId : Int) (r : RegistrationRow) (db : Onboarding) : Onboarding :=
  { db with
    tenants := db.tenants ++ [{
      id := tenantId
      name := r.organizationName
      domain := r.domain
      email := r.workEmail
      emailVerified := true
      domainVerified := true
      domainVerificationToken := r.domainVerificationToken
      totpSecret := r.totpSecret }] }

/-- A name in a column of `tenant_users`. -/
def adminName : Option String → Option (Option String)
  | none => some none
  | some name => (columnText 100 name).map some

/-- `INSERT INTO tenant_users`: an e-mail address stands once in the table, and a name fits
its column. -/
def insertAdmin (t : OnboardingSetting) (tenantId : Int) (r : RegistrationRow) (db : Onboarding) :
    Option Onboarding :=
  let name := splitOnce (t.py.strip (r.fullName.getD ""))
  match adminName (some name.1), adminName name.2 with
  | some firstName, some lastName =>
      if r.workEmail ∈ db.admins.map AdminRow.email then none
      else
        some { db with
          admins := db.admins ++ [{
            tenantId := tenantId
            firstName := firstName
            lastName := lastName
            email := r.workEmail
            passwordHash := r.passwordHash
            role := "Super Admin"
            permissions := "all_access"
            emailVerified := true
            mfaEnabled := !t.disableMfa
            totpSecret := r.totpSecret
            status := "active" }] }
  | _, _ => none

/-- `UPDATE ... SET tenant_id = ...`. -/
def linkTenant (tenantId : Int) (db : Onboarding) : Onboarding :=
  { db with registration := { db.registration with tenantId := some tenantId } }

/-- `ensure_default_tenant_policies` -/
def ensureDefaultTenantPolicies (tenantId : Int) (db : Onboarding) : Onboarding :=
  if db.policies.any (fun p => p.tenantId = tenantId) then db
  else
    { db with
      policies := db.policies ++ [
        ⟨tenantId, "PII Protection", "Security",
          "\x7b\"pii_redaction\": true, \"detect\": [\"email\", \"phone\", \"aadhaar\", " ++
          "\"credit_card\"], \"action\": \"redact\"\x7d"⟩,
        ⟨tenantId, "Prompt Injection Defense", "Security",
          "\x7b\"blocked_keywords\": [\"ignore previous instructions\", \"bypass policy\", " ++
          "\"reveal system prompt\"], \"action\": \"block_or_review\"\x7d"⟩,
        ⟨tenantId, "Secrets Exfiltration Guard", "Compliance",
          "\x7b\"secret_detection\": true, \"detect\": [\"api_key\", \"token\", \"password\", " ++
          "\"private_key\"], \"action\": \"block\"\x7d"⟩] }

/-- `activate_verified_registration`, with the next value of the sequence of `tenants`. -/
def activateVerifiedRegistration (t : OnboardingSetting) (next : Int) (r : RegistrationRow)
    (db : Onboarding) : Except IdentityError (Int × Onboarding) :=
  match existingTenantId r with
  | some tenantId => .ok (tenantId, db)
  | none =>
      match insertAdmin t next r (insertTenant next r db) with
      | none => .error .database
      | some db => .ok (next, ensureDefaultTenantPolicies next (linkTenant next db))

/-! ## Requests -/

/-- A request about the registration. -/
inductive VerifyRequest where
  /-- `auth_verify_email` with a token. -/
  | email (token : String)
  /-- `auth_verify_domain` with a domain. -/
  | domain (domain : String)

/-- How far a request is that has not written. -/
inductive VerifyPhase where
  | waiting
  /-- The row is read. -/
  | selected (expectedToken : String)
  /-- The token stands in the DNS records. -/
  | resolved
  /-- It has the lock of the row. -/
  | writing
  | done (tenantId : Option Int)
  | refused (e : IdentityError)

/-- How far the request is that has the lock of the row. -/
inductive VerifyStage where
  | verified
  | domainSkipped
  | reread (r : RegistrationRow)
  | tenantInserted (r : RegistrationRow) (tenantId : Int)
  | adminInserted (tenantId : Int)
  | linked (tenantId : Int)
  | finished (tenantId : Option Int)

/-- What is committed, the requests, and the sequence of `tenants`, which no rollback
returns. -/
structure Verifications (ι : Type) where
  db : Guarded ι Onboarding (VerifyStage × Onboarding)
  phase : ι → VerifyPhase
  nextTenantId : Int

/-- Before the requests. -/
def Verifications.start {ι : Type} (db : Onboarding) (nextTenantId : Int) : Verifications ι :=
  ⟨⟨db, none⟩, fun _ => .waiting, nextTenantId⟩

/-- A statement of a request, or its end. -/
inductive VerifyAction (ι : Type) where
  | select (i : ι)
  /-- What the resolver says about the domain: the records, or why there are none. -/
  | resolve (i : ι) (records : Except String (List String))
  | update (i : ι)
  | statement (i : ι)
  | commit (i : ι)
  | fail (i : ι) (e : IdentityError)

section

variable (t : OnboardingSetting)

/-- The first `SELECT` of a request, and the checks on its row. -/
def selectRegistration (request : VerifyRequest) (r : RegistrationRow) : VerifyPhase :=
  match request with
  | .email token =>
      if r.emailVerificationToken = token then .selected r.domainVerificationToken
      else .refused (.http 400 "Invalid verification token.")
  | .domain domain =>
      if t.lower r.domain ≠ t.lower domain then .refused (.http 400 "Domain not registered.")
      else if r.emailVerified = false then
        .refused (.http 400 "Email verification must be completed before domain activation.")
      else .selected r.domainVerificationToken

/-- What `auth_verify_domain` makes of the records. -/
def resolveDomain (expectedToken : String) (records : Except String (List String)) :
    VerifyPhase :=
  match records with
  | .ok texts =>
      if texts.any (fun text => contains expectedToken text) then .resolved
      else
        .refused (.http 400 ("Domain verification record not found. Expected record value " ++
          "containing: " ++ expectedToken))
  | .error e => .refused (.http 400 ("DNS resolver query failed: " ++ e))

/-- The first `UPDATE` of a request. -/
def firstUpdate : VerifyRequest → Onboarding → Onboarding
  | .email _ => markEmailVerified
  | .domain _ => markDomainVerified

/-- Whether a request may update the row. -/
def mayUpdate : VerifyRequest → VerifyPhase → Bool
  | .email _, .selected _ => true
  | .domain _, .resolved => true
  | _, _ => false

/-- The next statement of the request that has the lock, and whether it takes a value of the
sequence. -/
def nextStatement (request : VerifyRequest) (next : Int) :
    VerifyStage × Onboarding → Option (Except IdentityError (VerifyStage × Onboarding))
  | (.verified, view) =>
      match request with
      | .email _ =>
          if t.skipDomainVerification then some (.ok (.domainSkipped, markDomainVerified view))
          else some (.ok (.finished none, view))
      | .domain _ => some (.ok (.reread view.registration, view))
  | (.domainSkipped, view) => some (.ok (.reread view.registration, view))
  | (.reread r, view) =>
      match existingTenantId r with
      | some tenantId => some (.ok (.finished (some tenantId), view))
      | none => some (.ok (.tenantInserted r next, insertTenant next r view))
  | (.tenantInserted r tenantId, view) =>
      match insertAdmin t tenantId r view with
      | none => some (.error .database)
      | some view => some (.ok (.adminInserted tenantId, view))
  | (.adminInserted tenantId, view) => some (.ok (.linked tenantId, linkTenant tenantId view))
  | (.linked tenantId, view) =>
      some (.ok (.finished (some tenantId), ensureDefaultTenantPolicies tenantId view))
  | (.finished _, _) => none

/-- The value of the sequence after a statement. -/
def nextAfter (next : Int) : VerifyStage → Int
  | .tenantInserted _ _ => next + 1
  | _ => next

variable {ι : Type} [DecidableEq ι] (requests : ι → VerifyRequest)

/-- A request ends without a commit. -/
def Verifications.refuse (st : Verifications ι) (i : ι) (e : IdentityError) : Verifications ι :=
  { st with db := st.db.rollback i, phase := Function.update st.phase i (.refused e) }

/-- A step of a request. -/
def verifyStep (st : Verifications ι) : VerifyAction ι → Option (Verifications ι)
  | .select i =>
      match st.phase i with
      | .waiting =>
          some { st with
            phase := Function.update st.phase i
              (selectRegistration t (requests i) st.db.committed.registration) }
      | _ => none
  | .resolve i records =>
      match requests i, st.phase i with
      | .domain _, .selected expectedToken =>
          some { st with
            phase := Function.update st.phase i (resolveDomain expectedToken records) }
      | _, _ => none
  | .update i =>
      if mayUpdate (requests i) (st.phase i) then
        (st.db.enter i (fun db => (.verified, firstUpdate (requests i) db))).map (fun db =>
          { st with db := db, phase := Function.update st.phase i .writing })
      else none
  | .statement i =>
      match st.db.work i with
      | none => none
      | some w =>
          match nextStatement t (requests i) st.nextTenantId w with
          | none => none
          | some (.error e) => some (st.refuse i e)
          | some (.ok w) =>
              some { st with
                db := st.db.write i w, nextTenantId := nextAfter st.nextTenantId w.1 }
  | .commit i =>
      match st.db.work i with
      | some (.finished tenantId, view) =>
          some { st with
            db := Guarded.commit view, phase := Function.update st.phase i (.done tenantId) }
      | _ => none
  | .fail i e =>
      match st.phase i with
      | .selected _ | .resolved | .writing => some (st.refuse i e)
      | _ => none

end

/-! ## One request -/

section

variable {t : OnboardingSetting} {ι : Type} [DecidableEq ι] {requests : ι → VerifyRequest}

theorem nextStatement_email (token : String) (next : Int) (view : Onboarding) :
    nextStatement t (.email token) next (.verified, view) =
      if t.skipDomainVerification then some (.ok (.domainSkipped, markDomainVerified view))
      else some (.ok (.finished none, view)) :=
  rfl

theorem nextStatement_reread (request : VerifyRequest) (next : Int) (r : RegistrationRow)
    (view : Onboarding) : nextStatement t request next (.reread r, view) =
      match existingTenantId r with
      | some tenantId => some (.ok (.finished (some tenantId), view))
      | none => some (.ok (.tenantInserted r next, insertTenant next r view)) :=
  rfl

theorem run_statement {st : Verifications ι} {i : ι} {w w' : VerifyStage × Onboarding}
    {as : List (VerifyAction ι)} (hwriter : st.db.writer = some (i, w))
    (hnext : nextStatement t (requests i) st.nextTenantId w = some (.ok w')) :
    run (verifyStep t requests) st (.statement i :: as) =
      run (verifyStep t requests)
        { st with db := st.db.write i w', nextTenantId := nextAfter st.nextTenantId w'.1 } as := by
  have hwork := Guarded.work_eq_some.mpr hwriter
  simp only [run, verifyStep, hwork, hnext]

theorem run_commit {st : Verifications ι} {i : ι} {tenantId : Option Int} {view : Onboarding}
    (hwriter : st.db.writer = some (i, (.finished tenantId, view))) :
    run (verifyStep t requests) st [.commit i] = some { st with
      db := Guarded.commit view, phase := Function.update st.phase i (.done tenantId) } := by
  have hwork := Guarded.work_eq_some.mpr hwriter
  have hstep : verifyStep t requests st (.commit i) = some { st with
      db := Guarded.commit view, phase := Function.update st.phase i (.done tenantId) } := by
    unfold verifyStep
    dsimp only
    rw [hwork]
  exact run_cons_eq_some.mpr ⟨_, hstep, rfl⟩

/-- The statements of a request that has read the row again and finds no tenant are those of
`activate_verified_registration`. -/
theorem activate_alone {st : Verifications ι} {i : ι} {r : RegistrationRow} {tenantId : Int}
    {view db : Onboarding} (hwriter : st.db.writer = some (i, (.reread r, view)))
    (hactivate : activateVerifiedRegistration t st.nextTenantId r view = .ok (tenantId, db)) :
    ∃ as next, run (verifyStep t requests) st as =
      some ⟨Guarded.commit db, Function.update st.phase i (.done (some tenantId)), next⟩ := by
  unfold activateVerifiedRegistration at hactivate
  cases hexisting : existingTenantId r with
  | some existing =>
      rw [hexisting] at hactivate
      cases hactivate
      have hfinish : nextStatement t (requests i) st.nextTenantId (.reread r, view) =
          some (.ok (.finished (some tenantId), view)) := by
        rw [nextStatement_reread, hexisting]
      refine ⟨[.statement i, .commit i], st.nextTenantId, ?_⟩
      exact (run_statement hwriter hfinish).trans (run_commit rfl)
  | none =>
      rw [hexisting] at hactivate
      dsimp only at hactivate
      cases hadmin : insertAdmin t st.nextTenantId r (insertTenant st.nextTenantId r view) with
      | none =>
          rw [hadmin] at hactivate
          cases hactivate
      | some inserted =>
          rw [hadmin] at hactivate
          cases hactivate
          have htenant : nextStatement t (requests i) st.nextTenantId (.reread r, view) =
              some (.ok (.tenantInserted r st.nextTenantId,
                insertTenant st.nextTenantId r view)) := by
            rw [nextStatement_reread, hexisting]
          have hinsert : ∀ next, nextStatement t (requests i) next
              (.tenantInserted r st.nextTenantId, insertTenant st.nextTenantId r view) =
                some (.ok (.adminInserted st.nextTenantId, inserted)) := by
            intro next
            unfold nextStatement
            dsimp only
            rw [hadmin]
          refine ⟨[.statement i, .statement i, .statement i, .statement i, .commit i],
            st.nextTenantId + 1, ?_⟩
          refine (run_statement hwriter htenant).trans ?_
          refine (run_statement rfl (hinsert _)).trans ?_
          refine (run_statement rfl rfl).trans ?_
          exact (run_statement rfl rfl).trans (run_commit rfl)

end

/-! ## Any number of requests -/

section

variable {t : OnboardingSetting} {base view : Onboarding}

/-- A registration without a tenant has created nothing, and one with a tenant at most one
tenant and one admin user. -/
def CreatedOnce (base view : Onboarding) : Prop :=
  existingTenantId view.registration = none ∧ view.tenants = base.tenants ∧
      view.admins = base.admins ∨
    (existingTenantId view.registration).isSome ∧
      (∃ o : Option OrganizationRow, view.tenants = base.tenants ++ o.toList) ∧
      ∃ a : Option AdminRow, view.admins = base.admins ++ a.toList

/-- What a request with the lock has created at each of its stages. -/
def StageCreated (base : Onboarding) : VerifyStage × Onboarding → Prop
  | (.reread r, view) => CreatedOnce base view ∧ r = view.registration
  | (.tenantInserted _ tenantId, view) =>
      0 < tenantId ∧ (∃ o, view.tenants = base.tenants ++ [o]) ∧ view.admins = base.admins
  | (.adminInserted tenantId, view) =>
      0 < tenantId ∧ (∃ o, view.tenants = base.tenants ++ [o]) ∧
        ∃ a, view.admins = base.admins ++ [a]
  | (_, view) => CreatedOnce base view

theorem existingTenantId_pos {r : RegistrationRow} {tenantId : Int} (h : 0 < tenantId) :
    existingTenantId { r with tenantId := some tenantId } = some tenantId := by
  simp [existingTenantId, h.ne']

theorem createdOnce_self (base : Onboarding) : CreatedOnce base base := by
  cases hexisting : existingTenantId base.registration with
  | none => exact Or.inl ⟨hexisting, rfl, rfl⟩
  | some tenantId =>
      refine Or.inr ⟨by rw [hexisting]; rfl, ⟨none, ?_⟩, none, ?_⟩
      · rw [Option.toList_none, List.append_nil]
      · rw [Option.toList_none, List.append_nil]

/-- The policies and the marks of verification do not count. -/
theorem CreatedOnce.congr {view' : Onboarding} (h : CreatedOnce base view)
    (hregistration : view'.registration.tenantId = view.registration.tenantId)
    (htenants : view'.tenants = view.tenants) (hadmins : view'.admins = view.admins) :
    CreatedOnce base view' := by
  unfold CreatedOnce existingTenantId at *
  rwa [hregistration, htenants, hadmins]

theorem createdOnce_firstUpdate (request : VerifyRequest) (h : CreatedOnce base view) :
    CreatedOnce base (firstUpdate request view) := by
  cases request with
  | email token => exact h.congr rfl rfl rfl
  | domain domain => exact h.congr rfl rfl rfl

theorem createdOnce_policies (tenantId : Int) (h : CreatedOnce base view) :
    CreatedOnce base (ensureDefaultTenantPolicies tenantId view) := by
  unfold ensureDefaultTenantPolicies
  split_ifs
  · exact h
  · exact h.congr rfl rfl rfl

/-- A new user is one more row. -/
theorem insertAdmin_eq_some {tenantId : Int} {r : RegistrationRow} {after : Onboarding}
    (h : insertAdmin t tenantId r view = some after) :
    ∃ a, after = { view with admins := view.admins ++ [a] } ∧ a.email = r.workEmail ∧
      a.tenantId = tenantId := by
  unfold insertAdmin at h
  dsimp only at h
  split at h
  next =>
    split_ifs at h
    cases h
    exact ⟨_, rfl, rfl, rfl⟩
  next => cases h

/-- A statement of the request with the lock keeps what it has created. -/
theorem stageCreated_nextStatement {request : VerifyRequest} {next : Int}
    {w w' : VerifyStage × Onboarding} (hnext : 0 < next) (h : StageCreated base w)
    (hstatement : nextStatement t request next w = some (.ok w')) : StageCreated base w' := by
  rcases w with ⟨stage, view⟩
  cases stage with
  | verified =>
      cases request with
      | email token =>
          rw [nextStatement_email] at hstatement
          split_ifs at hstatement
          · cases hstatement
            exact CreatedOnce.congr h rfl rfl rfl
          · cases hstatement
            exact h
      | domain domain =>
          cases hstatement
          exact ⟨h, rfl⟩
  | domainSkipped =>
      cases hstatement
      exact ⟨h, rfl⟩
  | reread r =>
      rcases h with ⟨hcreated, rfl⟩
      rw [nextStatement_reread] at hstatement
      cases hexisting : existingTenantId view.registration with
      | some tenantId =>
          rw [hexisting] at hstatement
          cases hstatement
          exact hcreated
      | none =>
          rw [hexisting] at hstatement
          cases hstatement
          rcases hcreated with ⟨-, htenants, hadmins⟩ | ⟨hsome, -, -⟩
          · exact ⟨hnext, ⟨_, congrArg (· ++ [_]) htenants⟩, hadmins⟩
          · rw [hexisting] at hsome
            cases hsome
  | tenantInserted r tenantId =>
      rcases h with ⟨hpos, htenants, hadmins⟩
      unfold nextStatement at hstatement
      dsimp only at hstatement
      cases hinsert : insertAdmin t tenantId r view with
      | none =>
          rw [hinsert] at hstatement
          cases hstatement
      | some after =>
          rw [hinsert] at hstatement
          cases hstatement
          rcases insertAdmin_eq_some hinsert with ⟨a, rfl, -, -⟩
          exact ⟨hpos, htenants, a, by rw [hadmins]⟩
  | adminInserted tenantId =>
      cases hstatement
      rcases h with ⟨hpos, ⟨o, htenants⟩, a, hadmins⟩
      refine Or.inr ⟨?_, ⟨some o, htenants⟩, some a, hadmins⟩
      rw [linkTenant, existingTenantId_pos hpos]
      rfl
  | linked tenantId =>
      cases hstatement
      exact createdOnce_policies tenantId h
  | finished tenantId => cases hstatement

variable {ι : Type} {requests : ι → VerifyRequest} {st st' : Verifications ι}

/-- What is committed and what the request with the lock has done are within the bound, and
the sequence is positive. -/
structure VerifyInv (base : Onboarding) (st : Verifications ι) : Prop where
  created : Holds (CreatedOnce base) (StageCreated base) st.db
  positive : 0 < st.nextTenantId

theorem verifyInv_start {next : Int} (hnext : 0 < next) :
    VerifyInv base (Verifications.start base next : Verifications ι) where
  created := holds_of_free (createdOnce_self base)
  positive := hnext

theorem nextAfter_pos {next : Int} (h : 0 < next) (stage : VerifyStage) :
    0 < nextAfter next stage := by
  cases stage with
  | tenantInserted r tenantId => exact Int.lt_add_one_of_le h.le
  | verified => exact h
  | domainSkipped => exact h
  | reread r => exact h
  | adminInserted tenantId => exact h
  | linked tenantId => exact h
  | finished tenantId => exact h

variable [DecidableEq ι]

theorem VerifyInv.refuse (h : VerifyInv base st) (i : ι) (e : IdentityError) :
    VerifyInv base (st.refuse i e) where
  created := h.created.rollback
  positive := h.positive

/-- A step of a request keeps the bound. -/
theorem verifyInv_step {a : VerifyAction ι} (h : VerifyInv base st)
    (hstep : verifyStep t requests st a = some st') : VerifyInv base st' := by
  cases a with
  | select i =>
      simp only [verifyStep] at hstep
      split at hstep
      next =>
        cases hstep
        exact ⟨h.created, h.positive⟩
      next => cases hstep
  | resolve i records =>
      simp only [verifyStep] at hstep
      split at hstep
      next =>
        cases hstep
        exact ⟨h.created, h.positive⟩
      next => cases hstep
  | update i =>
      simp only [verifyStep] at hstep
      split_ifs at hstep
      rcases Option.map_eq_some_iff.mp hstep with ⟨db, henter, rfl⟩
      have hstart : ∀ db, CreatedOnce base db →
          StageCreated base (.verified, firstUpdate (requests i) db) :=
        fun _ hdb => createdOnce_firstUpdate (requests i) hdb
      exact ⟨h.created.enter hstart henter, h.positive⟩
  | statement i =>
      simp only [verifyStep] at hstep
      cases hwork : st.db.work i with
      | none =>
          rw [hwork] at hstep
          cases hstep
      | some w =>
          rw [hwork] at hstep
          dsimp only at hstep
          have hw := h.created.working i w (Guarded.work_eq_some.mp hwork)
          split at hstep
          next => cases hstep
          next e hnext =>
            cases hstep
            exact h.refuse i e
          next w' hnext =>
            cases hstep
            exact ⟨h.created.write (stageCreated_nextStatement h.positive hw hnext),
              nextAfter_pos h.positive w'.1⟩
  | commit i =>
      simp only [verifyStep] at hstep
      split at hstep
      next tenantId view hwork =>
        cases hstep
        exact ⟨holds_of_free (h.created.working i _ (Guarded.work_eq_some.mp hwork)), h.positive⟩
      next => cases hstep
  | fail i e =>
      simp only [verifyStep] at hstep
      split at hstep
      next =>
        cases hstep
        exact h.refuse i e
      next =>
        cases hstep
        exact h.refuse i e
      next =>
        cases hstep
        exact h.refuse i e
      next => cases hstep

/-- However the requests for a registration interleave, at most one tenant and one admin user
are created for it. -/
theorem one_tenant_per_registration {db : Onboarding} {next : Int} {as : List (VerifyAction ι)}
    (hnext : 0 < next)
    (hrun : run (verifyStep t requests) (Verifications.start db next) as = some st) :
    (∃ o : Option OrganizationRow, st.db.committed.tenants = db.tenants ++ o.toList) ∧
      ∃ a : Option AdminRow, st.db.committed.admins = db.admins ++ a.toList := by
  have hinv : VerifyInv db st :=
    invariant_of_run (fun _ _ _ h _ hstep => verifyInv_step h hstep) (verifyInv_start hnext)
      (respects_of_forall (fun _ _ => trivial) _ as) hrun
  rcases hinv.created.committed with ⟨-, htenants, hadmins⟩ | ⟨-, htenants, hadmins⟩
  · refine ⟨⟨none, ?_⟩, none, ?_⟩
    · rw [htenants, Option.toList_none, List.append_nil]
    · rw [hadmins, Option.toList_none, List.append_nil]
  · exact ⟨htenants, hadmins⟩

end

/-! ## Two requests that overlap -/

/-- A registration whose e-mail address is verified. -/
def pendingRegistration : Onboarding where
  registration :=
    { id := 1
      organizationName := "Acme"
      fullName := some "Ada Lovelace"
      workEmail := "ada@acme.io"
      domain := "acme.io"
      passwordHash := "h"
      emailVerificationToken := "e"
      domainVerificationToken := "authclaw-domain-verification=d"
      emailVerified := true
      domainVerified := false
      tenantId := none
      totpSecret := "s" }
  tenants := []
  admins := []
  policies := []

/-- Domain verification is skipped. -/
def localOnboarding : OnboardingSetting where
  py := asciiText
  lower := asciiLower
  skipDomainVerification := true
  disableMfa := false

/-- The link in the e-mail, and the button for the domain. -/
def linkAndButton : Bool → VerifyRequest
  | false => .email "e"
  | true => .domain "ACME.io"

/-- Both requests read the row before one of them updates it. -/
def overlappingVerification : List (VerifyAction Bool) :=
  [.select false, .select true, .resolve true (.ok ["authclaw-domain-verification=d"]),
    .update false, .statement false, .statement false, .statement false, .statement false,
    .statement false, .statement false, .commit false, .update true, .statement true,
    .statement true, .commit true]

/-- The second request finds the tenant of the first. -/
theorem one_tenant_linkAndButton :
    ∃ st, run (verifyStep localOnboarding linkAndButton)
        (Verifications.start pendingRegistration 7) overlappingVerification = some st ∧
      st.db.committed.tenants.map OrganizationRow.id = [7] ∧
      (∃ o : Option OrganizationRow,
        st.db.committed.tenants = pendingRegistration.tenants ++ o.toList) ∧
      ∃ a : Option AdminRow, st.db.committed.admins = pendingRegistration.admins ++ a.toList := by
  have hids : (run (verifyStep localOnboarding linkAndButton)
      (Verifications.start pendingRegistration 7) overlappingVerification).map
        (fun st => st.db.committed.tenants.map OrganizationRow.id) = some [7] := by
    decide +kernel
  rcases Option.map_eq_some_iff.mp hids with ⟨st, hrun, htenants⟩
  exact ⟨st, hrun, htenants, one_tenant_per_registration (by decide) hrun⟩

end AuthClaw.Identity
