import AuthClaw.Identity.Access
import AuthClaw.Library.StepSystem

/-!
# Who becomes a platform administrator

Tenant administrators configure identity providers and roles, users sign in through them
and refresh their tokens.  The roles an administrator may assign leave the platform out;
the roles a provider's mapping may give do not.

Main results:

- Theorem {lit}`callback_confined_iff`: when a callback keeps the role where it was.
- Theorem {lit}`confined_iff`: in which runs nobody becomes a platform administrator.
-/

namespace AuthClaw.Identity

open PythonText Rows StepSystem

/-! ## Access control -/

/-- `is_valid_work_email`. -/
def isValidWorkEmail (t : Setting) (value : String) : Bool :=
  let email := (t.py.strip value).toList
  if email.any t.py.isSpace || email.count '@' ≠ 1 then false
  else
    let domain := (email.dropWhile (fun c => c ≠ '@')).drop 1
    email.takeWhile (fun c => c ≠ '@') ≠ [] && domain.contains '.' &&
      domain.head? ≠ some '.' && domain.getLast? ≠ some '.'

/-- The `allowed_roles` of `create_user_role`. -/
def allowedRoles : List String :=
  ["Super Admin", "Security Admin", "Compliance Officer", "Developer", "Auditor", "Viewer"]

/-- `UserRoleRequest`. -/
structure UserRoleRequest where
  username : String
  role : String
  permissions : String

/-- `create_user_role`, up to its commit. -/
def createUserRole (t : Setting) (tenantId : Int) (r : UserRoleRequest) (users : List UserRow) :
    Except IdentityError (List UserRow) :=
  if !allowedRoles.contains r.role then .error (.http 400 "Unsupported tenant role.")
  else
    let email := t.py.lower (t.py.strip r.username)
    if !isValidWorkEmail t email then
      .error (.http 400
        "Enter a valid tenant user work email, for example user@company.com.")
    else if hasNul email || hasNul r.permissions then .error .database
    else if users.any (hasEmail t tenantId email) then
      .ok (updateWhere (hasEmail t tenantId email)
        (fun u => { u with role := r.role, permissions := r.permissions }) users)
    else .error (.http 404 ("Tenant user not found. Choose an existing tenant user from this " ++
      "tenant before assigning a role."))

/-! ## Runs -/

/-- What tenant administrators and their users do; an administrator calls with the claims
of a token. -/
inductive Action where
  | upsertProvider (admin : List (String × Json)) (call : ProviderCall)
  | setEnabled (admin : List (String × Json)) (providerId : Int) (enabled : Bool)
  | authorize (tenantId providerId now ttl : Int) (stateHash verifier nonce : String)
  | callback (c : Callback)
  | refresh (token : String) (now : Int)
  | assignRole (admin : List (String × Json)) (r : UserRoleRequest)

/-- The tables, and the claims of the access tokens issued. -/
structure Platform where
  db : Database
  issued : List (List (String × Json))

/-- The tables after a request that may fail. -/
def Platform.write (p : Platform) {α : Type} (result : Except IdentityError α)
    (f : α → Database) : Platform :=
  match result with
  | .ok a => { p with db := f a }
  | .error _ => p

/-- A request, which always ends. -/
def platformStep (t : Setting) (s : Signing) (p : Platform) : Action → Option Platform
  | .upsertProvider admin call =>
      some (p.write (do
        let tenantId ← requireTenantAccessAdmin admin
        upsertProviderConfig t tenantId call p.db.providers)
        (fun rows => { p.db with providers := rows }))
  | .setEnabled admin providerId enabled =>
      some (p.write (do
        let tenantId ← requireTenantAccessAdmin admin
        setProviderEnabled tenantId providerId enabled p.db.providers)
        (fun rows => { p.db with providers := rows }))
  | .authorize tenantId providerId now ttl stateHash verifier nonce =>
      some (p.write
        (createAuthorizationRequest tenantId providerId now ttl stateHash verifier nonce p.db) id)
  | .callback c =>
      match completeOidcLoginResponse t s c p.db with
      | (.ok (payload, _), db) => some ⟨db, p.issued ++ [payload]⟩
      | (.error _, db) => some { p with db := db }
  | .refresh token now =>
      match authRefresh now (decodeJwt s now token) p.db with
      | .ok payload => some { p with issued := p.issued ++ [payload] }
      | .error _ => some p
  | .assignRole admin r =>
      some (p.write (do
        let tenantId ← requireTenantAccessAdmin admin
        createUserRole t tenantId r p.db.users)
        (fun users => { p.db with users := users }))

/-- The user was a platform administrator. -/
def WasPlatformAdmin (start : Database) (userId : Int) : Prop :=
  ∃ u ∈ start.users, u.id = userId ∧ u.role = "Platform Admin"

/-- The user rows and the access tokens carry the role for those only who had it. -/
structure Confined (start : Database) (p : Platform) : Prop where
  users : ∀ u ∈ p.db.users, u.role = "Platform Admin" → WasPlatformAdmin start u.id
  issued : ∀ payload ∈ p.issued, getKey payload "role" = some (.str "Platform Admin") →
    ∃ userId, getKey payload "user_id" = some (.int userId) ∧ WasPlatformAdmin start userId

/-- The groups of a profile are mapped to the role. -/
def MapsToPlatformAdmin (provider : ProviderRow) (claims userinfo : List (String × Json)) : Prop :=
  ∃ mapping groups, provider.roleMapping = .obj mapping ∧
    groupsOf provider.groupsClaim claims userinfo = .ok groups ∧
    Grants mapping groups (.str "Platform Admin")

/-- A callback that stores its profile maps no groups to the role, except those of a user
who had it. -/
def KeepsConfined (t : Setting) (start : Database) (p : Platform) : Action → Prop
  | .callback c =>
      ∀ provider profile users, Provisions t c p.db provider profile users →
        MapsToPlatformAdmin provider c.claims c.userinfo → WasPlatformAdmin start profile.userId
  | _ => True

section

variable {t : Setting} {s : Signing} {start : Database} {p p' : Platform}

theorem mapRole_platformAdmin {provider : ProviderRow} {claims userinfo : List (String × Json)} :
    mapRole provider claims userinfo = .ok (.str "Platform Admin") ↔
      MapsToPlatformAdmin provider claims userinfo := by
  unfold mapRole MapsToPlatformAdmin
  constructor
  · intro h
    rcases bind_eq_ok h with ⟨groups, hgroups, h⟩
    split at h
    next mapping hmapping => exact ⟨mapping, groups, hmapping, hgroups, roleOfGroups_eq_ok.mp h⟩
    next => cases h
  · rintro ⟨mapping, groups, hmapping, hgroups, hgrants⟩
    rw [hgroups, hmapping]
    exact roleOfGroups_eq_ok.mpr hgrants

/-- The role is stored only of a profile with that role. -/
theorem columnValue_platformAdmin {v : Json} :
    columnValue t 50 v = some "Platform Admin" ↔ v = .str "Platform Admin" := by
  constructor
  · intro h
    exact columnValue_eq (by decide) h (by decide) (by decide)
  · rintro rfl
    rfl

/-- A request that touches neither users nor tokens keeps the role where it was. -/
theorem Confined.of_eq (h : Confined start p) (husers : p'.db.users = p.db.users)
    (hissued : p'.issued = p.issued) : Confined start p' where
  users := by
    rw [husers]
    exact h.users
  issued := by
    rw [hissued]
    exact h.issued

theorem write_confined (h : Confined start p) {α : Type} (result : Except IdentityError α)
    (f : α → Database)
    (husers : ∀ a, result = .ok a → ∀ u ∈ (f a).users, u.role = "Platform Admin" →
      WasPlatformAdmin start u.id) : Confined start (p.write result f) := by
  unfold Platform.write
  cases result with
  | ok a => exact ⟨husers a rfl, h.issued⟩
  | error e => exact h

/-- No role an administrator may assign is that of the platform. -/
theorem createUserRole_confined {tenantId : Int} {r : UserRoleRequest} {users users' : List UserRow}
    (h : createUserRole t tenantId r users = .ok users') :
    ∀ u ∈ users', u.role = "Platform Admin" → u ∈ users := by
  unfold createUserRole at h
  dsimp only at h
  split at h
  next => cases h
  next hrole =>
    rw [Bool.not_eq_true, Bool.not_eq_false'] at hrole
    split at h
    next => cases h
    next =>
      split at h
      next => cases h
      next =>
        split at h
        next =>
          cases h
          intro u hu hadmin
          rcases mem_updateWhere.mp hu with ⟨old, hold, ⟨-, rfl⟩ | ⟨-, rfl⟩⟩
          · change r.role = "Platform Admin" at hadmin
            rw [hadmin] at hrole
            exact absurd hrole (by decide)
          · exact hold
        next => cases h

/-- A callback keeps the role where it was exactly when it maps no groups to it, except
those of a user who had it. -/
theorem callback_confined_iff {c : Callback} (h : Confined start p)
    (hstep : platformStep t s p (.callback c) = some p') :
    Confined start p' ↔ KeepsConfined t start p (.callback c) := by
  simp only [platformStep] at hstep
  cases hcall : completeOidcLoginResponse t s c p.db with
  | mk result db' =>
  rw [hcall] at hstep
  rcases completeOidcLoginResponse_cases hcall with ⟨hnone, husers, e, rfl⟩ |
    ⟨provider, profile, users, hprovisions, husers, hpayload⟩
  · cases hstep
    refine iff_of_true (h.of_eq husers rfl) ?_
    intro provider profile users hprovisions
    exact absurd hprovisions (hnone provider profile users)
  · have hp' : p'.db.users = users := by
      cases result with
      | error e =>
          cases hstep
          exact husers
      | ok out =>
          cases hstep
          exact husers
    rcases upsertOidcUser_eq_ok hprovisions.stored with ⟨hrole, u', hu', hid, hcolumn, hothers⟩
    constructor
    · intro hconfined provider' profile' users' hprovisions' hmaps
      rcases hprovisions.unique hprovisions' with ⟨rfl, rfl, rfl⟩
      rw [← mapRole_platformAdmin, hrole, Except.ok.injEq] at hmaps
      rw [columnValue_platformAdmin.mpr hmaps] at hcolumn
      rw [← hid]
      exact hconfined.users u' (hp' ▸ hu') (Option.some.inj hcolumn).symm
    · intro hkeeps
      have hadmin : profile.role = .str "Platform Admin" →
          WasPlatformAdmin start profile.userId := by
        intro hprofile
        refine hkeeps provider profile users hprovisions (mapRole_platformAdmin.mp ?_)
        rw [hrole, hprofile]
      constructor
      · intro u hu hurole
        rw [hp'] at hu
        rcases hothers u hu with rfl | hold
        · rw [hid]
          rw [hurole] at hcolumn
          exact hadmin (columnValue_platformAdmin.mp hcolumn)
        · exact h.users u hold hurole
      · intro payload hissued hpayloadRole
        cases result with
        | error e =>
            cases hstep
            exact h.issued payload hissued hpayloadRole
        | ok out =>
            cases hstep
            rcases List.mem_append.mp hissued with hold | hnew
            · exact h.issued payload hold hpayloadRole
            · rw [List.mem_singleton] at hnew
              rw [hnew, hpayload _ _ rfl] at hpayloadRole ⊢
              refine ⟨profile.userId, rfl, hadmin ?_⟩
              exact Option.some.inj hpayloadRole

/-- A refreshed token carries the role of the user row. -/
theorem refresh_confined {now : Int} {payload : Option (List (String × Json))}
    {access : List (String × Json)} (h : Confined start p)
    (hrefresh : authRefresh now payload p.db = .ok access) :
    getKey access "role" = some (.str "Platform Admin") →
      ∃ userId, getKey access "user_id" = some (.int userId) ∧ WasPlatformAdmin start userId := by
  rcases authRefresh_eq_ok hrefresh with ⟨u, hu, rfl⟩
  intro hrole
  refine ⟨u.id, rfl, h.users u hu ?_⟩
  exact Json.str.inj (Option.some.inj hrole)

/-- A request keeps the role where it was exactly when its groups, if it is a callback, are
not mapped to it. -/
theorem step_confined_iff {a : Action} (h : Confined start p)
    (hstep : platformStep t s p a = some p') : Confined start p' ↔ KeepsConfined t start p a := by
  cases a with
  | upsertProvider admin call =>
      cases hstep
      exact iff_of_true (write_confined h _ _ (fun _ _ => h.users)) trivial
  | setEnabled admin providerId enabled =>
      cases hstep
      exact iff_of_true (write_confined h _ _ (fun _ _ => h.users)) trivial
  | authorize tenantId providerId now ttl stateHash verifier nonce =>
      cases hstep
      refine iff_of_true (write_confined h _ _ ?_) trivial
      intro db hdb
      rw [id, createAuthorizationRequest_users hdb]
      exact h.users
  | callback c => exact callback_confined_iff h hstep
  | refresh token now =>
      simp only [platformStep] at hstep
      refine iff_of_true ?_ trivial
      split at hstep
      next payload hrefresh =>
        cases hstep
        refine ⟨h.users, ?_⟩
        intro payload' hmem hrole
        rcases List.mem_append.mp hmem with hold | hnew
        · exact h.issued payload' hold hrole
        · rw [List.mem_singleton] at hnew
          rw [hnew] at hrole ⊢
          exact refresh_confined h hrefresh hrole
      next =>
        cases hstep
        exact h
  | assignRole admin r =>
      cases hstep
      refine iff_of_true (write_confined h _ _ ?_) trivial
      intro users husers u hu hrole
      rcases bind_eq_ok husers with ⟨tenantId, -, hassigned⟩
      exact h.users u (createUserRole_confined hassigned u hu hrole) hrole

theorem platformStep_isSome (p : Platform) (a : Action) : ∃ p', platformStep t s p a = some p' := by
  cases a with
  | callback c =>
      simp only [platformStep]
      split
      next => exact ⟨_, rfl⟩
      next => exact ⟨_, rfl⟩
  | refresh token now =>
      simp only [platformStep]
      split
      next => exact ⟨_, rfl⟩
      next => exact ⟨_, rfl⟩
  | upsertProvider admin call => exact ⟨_, rfl⟩
  | setEnabled admin providerId enabled => exact ⟨_, rfl⟩
  | authorize tenantId providerId now ttl stateHash verifier nonce => exact ⟨_, rfl⟩
  | assignRole admin r => exact ⟨_, rfl⟩

end

/-- Nobody becomes a platform administrator in a run exactly when no callback that stores its
profile has groups mapped to the role, except those of a user who had it. -/
theorem confined_iff (t : Setting) (s : Signing) (start : Database) (actions : List Action) :
    Always (platformStep t s) (Confined start) ⟨start, []⟩ actions ↔
      Respects (platformStep t s) (KeepsConfined t start) ⟨start, []⟩ actions := by
  refine @always_iff _ _ (platformStep t s) (KeepsConfined t start) (fun _ => True) _ ?_ _ _ trivial
    ⟨?_, ?_⟩ (run_total platformStep_isSome _ _)
  · intro p a p' _ hconfined hstep
    exact ⟨fun _ => trivial, step_confined_iff hconfined hstep⟩
  · intro u hu hrole
    exact ⟨u, hu, rfl, hrole⟩
  · intro payload hissued
    cases hissued

/-- A signing that signs nothing. -/
def plainSigning : Signing where
  dumps := fun _ => ""
  loads := fun _ => none
  hmac := fun _ => []
  sha256 := fun _ => ""
  intOf := fun _ => none
  production := false

/-- A provider whose users are all mapped to one role. -/
def providerOf (role : String) : ProviderCall where
  request := {
    id := none
    providerType := "okta"
    clientId := "c"
    clientSecret := "s"
    discoveryUrl := none
    issuer := some "https://idp"
    authorizationEndpoint := some "https://idp/a"
    tokenEndpoint := some "https://idp/t"
    jwksUri := some "https://idp/k"
    redirectUri := "https://app"
    groupsClaim := none
    roleMapping := some [("*", .str role)]
    enabled := true }
  fetched := none
  newId := 1
  accepted := true

/-- A sign-in through the provider. -/
def signIn : Callback where
  stateHash := "s"
  now := 1
  claims := [("email", .str "eve@acme.com")]
  userinfo := []
  stop := none
  draws := ⟨Choice.first, 2, "r"⟩
  jti := "j"

/-- An administrator maps everyone to the role, and a new user signs in. -/
theorem mapped_not_confined :
    ¬ Always (platformStep plainSetting plainSigning) (Confined tenantDatabase)
      ⟨tenantDatabase, []⟩
      [.upsertProvider (accessPayload tenantAdminRow 0) (providerOf "Platform Admin"),
        .authorize 1 1 0 600000000 "s" "v" "n", .callback signIn] := by
  intro halways
  have hconfined := halways _ [] _ (List.append_nil _).symm rfl
  rcases hconfined.users { tenantAdminRow with
    id := 2
    email := "eve@acme.com"
    passwordHash := "r"
    role := "Platform Admin" } (List.mem_cons_of_mem _ List.mem_cons_self) rfl with ⟨u, hu, hid, -⟩
  rw [List.mem_singleton.mp hu] at hid
  cases hid

end AuthClaw.Identity
