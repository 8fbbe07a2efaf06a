import AuthClaw.Identity.Tables

/-!
# Enterprise identity

The configuration of identity providers, the login states and what a callback makes of the
claims it gets: the role the provider's mapping gives the groups, and the user row that
carries it.

Main results:

- Theorem {lit}`roleOfGroups_eq_ok`: which entry of a mapping gives the role.
- Theorem {lit}`upsertOidcUser_eq_ok`: what a profile does to the user rows.
-/

namespace AuthClaw.Identity

open PythonText Rows
open Events (columnText)

/-! ## Providers -/

/-- `SUPPORTED_PROVIDER_TYPES`. -/
def supportedProviderTypes : List String :=
  ["microsoft_entra", "google_workspace", "okta", "auth0", "generic_oidc"]

/-- The `aliases` of `normalize_provider_type`. -/
def providerAliases : List (String × String) :=
  [("azure_ad", "microsoft_entra"), ("azure", "microsoft_entra"), ("entra", "microsoft_entra"),
    ("microsoft", "microsoft_entra"), ("google", "google_workspace"),
    ("workspace", "google_workspace"), ("oidc", "generic_oidc")]

/-- `normalize_provider_type`. -/
def normalizeProviderType (t : Setting) (providerType : String) : Except IdentityError String :=
  let normalized := replaceChar '-' '_' (replaceChar ' ' '_' (t.py.lower (t.py.strip providerType)))
  let normalized := (providerAliases.lookup normalized).getD normalized
  if supportedProviderTypes.contains normalized then .ok normalized
  else .error (.enterprise ("Unsupported OIDC provider type '" ++ providerType ++ "'."))

/-- `OIDCProviderConfigRequest`, less what only the exchange with the provider reads. -/
structure ProviderRequest where
  id : Option Int
  providerType : String
  clientId : String
  clientSecret : String
  discoveryUrl : Option String
  issuer : Option String
  authorizationEndpoint : Option String
  tokenEndpoint : Option String
  jwksUri : Option String
  redirectUri : String
  groupsClaim : Option String
  roleMapping : Option (List (String × Json))
  enabled : Bool

/-- The names of a list whose values are missing or empty. -/
def missingNames (values : List (String × Option Json)) : List String :=
  (values.filter (fun v => !(v.2.any Json.truthy))).map Prod.fst

/-- `discover_oidc_metadata` of what the request to the provider brings. -/
def discoverOidcMetadata (fetched : Option (List (String × Json))) :
    Except IdentityError (List (String × Json)) :=
  match fetched with
  | none => .error (.python .other)
  | some metadata =>
      match missingNames (["issuer", "authorization_endpoint", "token_endpoint", "jwks_uri"].map
          (fun name => (name, getKey metadata name))) with
      | [] => .ok metadata
      | missing => .error (.enterprise
          ("OIDC discovery metadata is missing: " ++ String.intercalate ", " missing))

/-- A text of a request that may be missing. -/
def requested (text : Option String) : Option Json :=
  text.map .str

/-- The row of a request, as its columns take it. -/
def storedProvider (t : Setting) (id tenantId : Int) (providerType : String)
    (issuer : Option Json) (r : ProviderRequest) : Option ProviderRow := do
  let clientId ← columnText 255 r.clientId
  let issuer ← issuer
  let issuer ← match issuer with
    | .str s => if hasNul s then none else some s
    | v => t.valueText v
  let groupsClaim ← columnText 100
    (match r.groupsClaim with
      | some "" => "groups"
      | some claim => claim
      | none => "groups")
  some {
    id := id
    tenantId := tenantId
    providerType := providerType
    clientId := clientId
    issuer := issuer
    groupsClaim := groupsClaim
    roleMapping := .obj (r.roleMapping.getD [])
    enabled := r.enabled }

/-- `uniq_tenant_identity_provider_client`. -/
def sameClient (a b : ProviderRow) : Bool :=
  a.tenantId = b.tenantId ∧ a.providerType = b.providerType ∧ a.clientId = b.clientId

/-- A call of `upsert_provider_config`: its payload, what discovery brings, the next
identifier and whether the database takes the other columns. -/
structure ProviderCall where
  request : ProviderRequest
  fetched : Option (List (String × Json))
  newId : Int
  accepted : Bool

/-- `upsert_provider_config`. -/
def upsertProviderConfig (t : Setting) (tenantId : Int) (c : ProviderCall)
    (rows : List ProviderRow) : Except IdentityError (List ProviderRow) := do
  let r := c.request
  let providerType ← normalizeProviderType t
    (if r.providerType = "" then "generic_oidc" else r.providerType)
  let metadata ←
    if r.discoveryUrl.any (fun url => url ≠ "") then discoverOidcMetadata c.fetched else .ok []
  let issuer := orElseJson (requested r.issuer) (getKey metadata "issuer")
  let missing := missingNames [
    ("client_id", some (.str r.clientId)),
    ("client_secret", some (.str r.clientSecret)),
    ("issuer", issuer),
    ("authorization_endpoint", orElseJson (requested r.authorizationEndpoint)
      (getKey metadata "authorization_endpoint")),
    ("token_endpoint", orElseJson (requested r.tokenEndpoint) (getKey metadata "token_endpoint")),
    ("jwks_uri", orElseJson (requested r.jwksUri) (getKey metadata "jwks_uri")),
    ("redirect_uri", some (.str r.redirectUri))]
  if missing ≠ [] then
    throw (.enterprise
      ("Identity provider config is missing: " ++ String.intercalate ", " missing))
  let id := match r.id with
    | some id => if id ≠ 0 then id else c.newId
    | none => c.newId
  match storedProvider t id tenantId providerType issuer r with
  | none => throw .database
  | some row =>
      let taken := (rows.filter (fun old => old.id ≠ id)).any (sameClient row)
      if r.id.any (fun id => id ≠ 0) then
        if rows.any (fun old => old.id = id ∧ old.tenantId = tenantId) then
          if taken || !c.accepted then throw .database
          else .ok (updateWhere (fun old => old.id = id ∧ old.tenantId = tenantId)
            (fun _ => row) rows)
        else throw (.enterprise "Identity provider config not found for tenant.")
      else if taken || rows.any (fun old => old.id = id) || !c.accepted then throw .database
      else .ok (rows ++ [row])

/-- `set_provider_enabled`. -/
def setProviderEnabled (tenantId providerId : Int) (enabled : Bool) (rows : List ProviderRow) :
    Except IdentityError (List ProviderRow) :=
  if rows.any (fun r => r.id = providerId ∧ r.tenantId = tenantId) then
    .ok (updateWhere (fun r => r.id = providerId ∧ r.tenantId = tenantId)
      (fun r => { r with enabled := enabled }) rows)
  else .error (.enterprise "Identity provider config not found for tenant.")

/-- `get_provider_config`. -/
def getProviderConfig (tenantId providerId : Int) (rows : List ProviderRow) :
    Except IdentityError ProviderRow :=
  match rows.find? (fun r => r.id = providerId ∧ r.tenantId = tenantId ∧ r.enabled) with
  | some row => .ok row
  | none => .error (.enterprise "Enabled identity provider not found for tenant.")

/-! ## Login states -/

/-- `_load_state`, of the hash of a state. -/
def loadState (stateHash : String) (now : Int) (rows : List LoginStateRow) :
    Except IdentityError LoginStateRow :=
  match rows.find? (fun r => r.stateHash = stateHash ∧ r.usedAt = none ∧ now < r.expiresAt) with
  | some row => .ok row
  | none => .error (.enterprise "OIDC login state is invalid or expired.")

theorem loadState_eq_ok {stateHash : String} {now : Int} {rows : List LoginStateRow}
    {row : LoginStateRow} (h : loadState stateHash now rows = .ok row) :
    row.stateHash = stateHash := by
  unfold loadState at h
  split at h
  next found hfound =>
    cases h
    have hmatch := List.find?_some hfound
    rw [decide_eq_true_eq] at hmatch
    exact hmatch.1
  next => cases h

/-- `_mark_state_used`. -/
def markStateUsed (stateHash : String) (now : Int) (rows : List LoginStateRow) :
    List LoginStateRow :=
  updateWhere (fun r => r.stateHash = stateHash) (fun r => { r with usedAt := some now }) rows

/-- `create_authorization_request`: the row of a new state, which is open for ten minutes
unless the environment says otherwise. -/
def createAuthorizationRequest (tenantId providerId now ttl : Int)
    (stateHash verifier nonce : String) (db : Database) : Except IdentityError Database :=
  match getProviderConfig tenantId providerId db.providers with
  | .error e => .error e
  | .ok _ =>
      if db.loginStates.any (fun r => r.stateHash = stateHash) then .error .database
      else .ok { db with loginStates := db.loginStates ++ [{
        stateHash := stateHash
        tenantId := tenantId
        providerId := providerId
        codeVerifier := verifier
        nonce := nonce
        expiresAt := now + ttl
        usedAt := none }] }

theorem createAuthorizationRequest_users {tenantId providerId now ttl : Int}
    {stateHash verifier nonce : String} {db db' : Database}
    (h : createAuthorizationRequest tenantId providerId now ttl stateHash verifier nonce db =
      .ok db') : db'.users = db.users := by
  unfold createAuthorizationRequest at h
  split at h
  next => cases h
  next =>
    split_ifs at h
    cases h
    rfl

/-! ## Roles -/

/-- The `groups` of `map_role`; what cannot be listed raises a {lit}`TypeError`. -/
def groupsOf (groupsClaim : String) (claims userinfo : List (String × Json)) :
    Except PyError (List Json) :=
  match ((getKey userinfo groupsClaim).orElse fun _ => getKey claims groupsClaim).getD
      (.arr []) with
  | .str s => .ok [.str s]
  | .arr items => .ok items
  | .obj members => .ok (members.map (fun m => .str m.1))
  | v => if v.truthy then .error .other else .ok []

/-- `role_mapping.get(group)`; a list or an object cannot be a key. -/
def mappedRole (mapping : List (String × Json)) : Json → Except PyError (Option Json)
  | .str s => .ok (getKey mapping s)
  | .arr _ => .error .other
  | .obj _ => .error .other
  | _ => .ok none

/-- The loop of `map_role`, and the role without a mapped group. -/
def roleOfGroups (mapping : List (String × Json)) : List Json → Except PyError Json
  | [] => .ok ((getKey mapping "*").getD (.str "Developer"))
  | group :: groups =>
      match mappedRole mapping group with
      | .error e => .error e
      | .ok (some v) => if v.truthy then .ok v else roleOfGroups mapping groups
      | .ok none => roleOfGroups mapping groups

/-- `map_role`. -/
def mapRole (provider : ProviderRow) (claims userinfo : List (String × Json)) :
    Except PyError Json := do
  let groups ← groupsOf provider.groupsClaim claims userinfo
  match provider.roleMapping with
  | .obj mapping => roleOfGroups mapping groups
  | _ => throw .attributeError

/-- `permissions_for_role`; a list or an object is in no set. -/
def permissionsForRole : Json → Except PyError String
  | .arr _ => .error .other
  | .obj _ => .error .other
  | .str "Super Admin" => .ok "all_access"
  | .str "Platform Admin" => .ok "all_access"
  | .str "Security Admin" => .ok "read_write_gateway,manage_policies,manage_approvals"
  | .str "Auditor" => .ok "audit_read"
  | _ => .ok "read_write_gateway"

/-! ## Profiles -/

/-- The `email` of a profile. -/
def profileEmail (claims userinfo : List (String × Json)) : Option Json :=
  orElseJson (getKey userinfo "email") (orElseJson (getKey claims "email")
    (orElseJson (getKey claims "preferred_username") (getKey claims "upn")))

/-- `text.split(" ", 1)`: what is before the first blank, and what is after it. -/
def splitOnce (text : String) : String × Option String :=
  match text.toList.dropWhile (fun c => c ≠ ' ') with
  | [] => (text, none)
  | _ :: rest => (String.ofList (text.toList.takeWhile (fun c => c ≠ ' ')), some (String.ofList rest))

/-- The `name` of a profile. -/
def profileName (claims userinfo : List (String × Json)) : Json :=
  match orElseJson (getKey userinfo "name") (orElseJson (getKey claims "name") none) with
  | some v => v
  | none => .str ""

/-- The `first_name` of a profile. -/
def firstName (claims userinfo : List (String × Json)) : Except PyError (Option Json) :=
  match orElseJson (getKey userinfo "given_name") none with
  | some v => .ok (some v)
  | none =>
      match profileName claims userinfo with
      | .str "" => .ok none
      | .str name => .ok (some (.str (splitOnce name).1))
      | _ => .error .attributeError

/-- The `last_name` of a profile; the blank may also be an item or a key. -/
def lastName (claims userinfo : List (String × Json)) : Except PyError (Option Json) :=
  match orElseJson (getKey userinfo "family_name") none with
  | some v => .ok (some v)
  | none =>
      match profileName claims userinfo with
      | .str name => .ok ((splitOnce name).2.map .str)
      | .arr items =>
          if items.any (fun v => match v with | .str " " => true | _ => false) then
            .error .attributeError
          else .ok none
      | .obj members =>
          if members.any (fun m => m.1 = " ") then .error .attributeError else .ok none
      | _ => .error .other

/-- A name in its column: `COALESCE` with the column takes texts only. -/
def columnName (t : Setting) (coalesced : Bool) : Option Json → Option (Option String)
  | none => some none
  | some (.str s) => (columnText 100 s).map some
  | some v => if coalesced then none else (columnValue t 100 v).map some

/-- What `upsert_oidc_user` returns. -/
structure Profile where
  userId : Int
  tenantId : Int
  email : String
  subject : Option Json
  role : Json
  permissions : String

/-- The values of a profile before the database is asked. -/
structure ProfileValues where
  email : Json
  role : Json
  permissions : String
  first : Option Json
  last : Option Json

/-- The first half of `upsert_oidc_user`. -/
def profileValues (provider : ProviderRow) (claims userinfo : List (String × Json)) :
    Except IdentityError ProfileValues :=
  match profileEmail claims userinfo with
  | none => .error (.enterprise "OIDC user profile did not include an email.")
  | some email =>
      if email.truthy then
        let values : Except PyError ProfileValues := do
          let role ← mapRole provider claims userinfo
          let permissions ← permissionsForRole role
          let first ← firstName claims userinfo
          let last ← lastName claims userinfo
          pure ⟨email, role, permissions, first, last⟩
        values.mapError .python
      else .error (.enterprise "OIDC user profile did not include an email.")

/-- The user of a tenant with an email. -/
def hasEmail (t : Setting) (tenantId : Int) (email : String) (u : UserRow) : Bool :=
  u.tenantId = tenantId ∧ t.lower u.email = t.lower email

/-- The user row of a profile that was there already. -/
def updatedUser (t : Setting) (v : ProfileValues) (u : UserRow) : Option UserRow := do
  let role ← columnValue t 50 v.role
  let first ← columnName t true v.first
  let last ← columnName t true v.last
  some { u with
    firstName := first.orElse fun _ => u.firstName
    lastName := last.orElse fun _ => u.lastName
    role := role
    permissions := v.permissions
    emailVerified := true
    status := "active" }

/-- The user row of a profile that is new. -/
def insertedUser (t : Setting) (tenantId newId : Int) (email passwordHash : String)
    (v : ProfileValues) : Option UserRow := do
  let email ← columnText 255 email
  let role ← columnValue t 50 v.role
  let first ← columnName t false v.first
  let last ← columnName t false v.last
  some {
    id := newId
    tenantId := tenantId
    firstName := first
    lastName := last
    email := email
    passwordHash := passwordHash
    role := role
    permissions := v.permissions
    emailVerified := true
    status := "active" }

/-- What `upsert_oidc_user` gets besides its arguments: how its query takes a row, the next
identifier and the hash of a random password. -/
structure UserDraws where
  choice : Choice UserRow
  newId : Int
  passwordHash : String

/-- `upsert_oidc_user`. -/
def upsertOidcUser (t : Setting) (provider : ProviderRow) (claims userinfo : List (String × Json))
    (d : UserDraws) (users : List UserRow) : Except IdentityError (Profile × List UserRow) := do
  let v ← profileValues provider claims userinfo
  match v.email with
  | .str email =>
      if hasNul email then throw .database
      match d.choice.fetch (hasEmail t provider.tenantId email) users with
      | some u =>
          match updatedUser t v u with
          | none => throw .database
          | some u' =>
              .ok (⟨u.id, provider.tenantId, email, getKey claims "sub", v.role, v.permissions⟩,
                updateWhere (fun old => old.id = u.id ∧ old.tenantId = provider.tenantId)
                  (fun _ => u') users)
      | none =>
          match insertedUser t provider.tenantId d.newId email d.passwordHash v with
          | none => throw .database
          | some u' =>
              if users.any (fun old => old.id = d.newId ∨ old.email = u'.email) then
                throw .database
              else
                .ok (⟨d.newId, provider.tenantId, email, getKey claims "sub", v.role,
                  v.permissions⟩, users ++ [u'])
  | _ => throw .database

/-! ## What a profile comes to -/

/-- A group that gives no role. -/
def Unmapped (mapping : List (String × Json)) (group : Json) : Prop :=
  ∃ entry, mappedRole mapping group = .ok entry ∧ entry.all (fun v => !v.truthy) = true

/-- The role of the first group with an entry, or else that of "*". -/
def Grants (mapping : List (String × Json)) (groups : List Json) (role : Json) : Prop :=
  (∃ before group after, groups = before ++ group :: after ∧ (∀ g ∈ before, Unmapped mapping g) ∧
      mappedRole mapping group = .ok (some role) ∧ role.truthy = true) ∨
    ((∀ g ∈ groups, Unmapped mapping g) ∧ role = (getKey mapping "*").getD (.str "Developer"))

section

variable {mapping : List (String × Json)} {group role : Json} {groups : List Json}

theorem roleOfGroups_unmapped (h : Unmapped mapping group) :
    roleOfGroups mapping (group :: groups) = roleOfGroups mapping groups := by
  rcases h with ⟨entry, hentry, hfalsy⟩
  cases entry with
  | none => simp [roleOfGroups, hentry]
  | some v =>
      have hv : v.truthy = false := by simpa using hfalsy
      simp [roleOfGroups, hentry, hv]

theorem roleOfGroups_mapped (h : mappedRole mapping group = .ok (some role))
    (htruthy : role.truthy = true) : roleOfGroups mapping (group :: groups) = .ok role := by
  simp [roleOfGroups, h, htruthy]

/-- The entry that gives the role. -/
theorem roleOfGroups_eq_ok :
    roleOfGroups mapping groups = .ok role ↔ Grants mapping groups role := by
  constructor
  · intro h
    induction groups with
    | nil =>
        refine Or.inr ⟨by simp, ?_⟩
        simp only [roleOfGroups, Except.ok.injEq] at h
        exact h.symm
    | cons group groups ih =>
        cases hentry : mappedRole mapping group with
        | error e => simp [roleOfGroups, hentry] at h
        | ok entry =>
            by_cases hunmapped : entry.all (fun v => !v.truthy) = true
            · have hfirst : Unmapped mapping group := ⟨entry, hentry, hunmapped⟩
              rw [roleOfGroups_unmapped hfirst] at h
              rcases ih h with ⟨before, g, after, heq, hbefore, hg⟩ | ⟨hall, hrole⟩
              · exact Or.inl ⟨group :: before, g, after, by rw [heq]; rfl,
                  List.forall_mem_cons.mpr ⟨hfirst, hbefore⟩, hg⟩
              · exact Or.inr ⟨List.forall_mem_cons.mpr ⟨hfirst, hall⟩, hrole⟩
            · cases entry with
              | none => exact absurd rfl hunmapped
              | some v =>
                  have htruthy : v.truthy = true := by simpa using hunmapped
                  rw [roleOfGroups_mapped hentry htruthy] at h
                  cases h
                  exact Or.inl ⟨[], group, groups, rfl, by simp, hentry, htruthy⟩
  · rintro (⟨before, g, after, rfl, hbefore, hg, htruthy⟩ | ⟨hall, hrole⟩)
    · induction before with
      | nil => exact roleOfGroups_mapped hg htruthy
      | cons first before ih =>
          rw [List.forall_mem_cons] at hbefore
          rw [List.cons_append, roleOfGroups_unmapped hbefore.1]
          exact ih hbefore.2
    · induction groups with
      | nil => rw [hrole, roleOfGroups]
      | cons first groups ih =>
          rw [List.forall_mem_cons] at hall
          rw [roleOfGroups_unmapped hall.1]
          exact ih hall.2

end

section

variable {t : Setting} {provider : ProviderRow} {claims userinfo : List (String × Json)}

theorem mapError_eq_ok {ε δ α : Type} {x : Except ε α} {f : ε → δ} {a : α}
    (h : x.mapError f = .ok a) : x = .ok a := by
  cases x with
  | error e => cases h
  | ok b =>
      cases h
      rfl

theorem profileValues_role {v : ProfileValues}
    (h : profileValues provider claims userinfo = .ok v) :
    mapRole provider claims userinfo = .ok v.role := by
  unfold profileValues at h
  split at h
  next => cases h
  next email _ =>
    split_ifs at h
    rcases bind_eq_ok (mapError_eq_ok h) with ⟨role, hrole, hvalues⟩
    rcases bind_eq_ok hvalues with ⟨permissions, -, hvalues⟩
    rcases bind_eq_ok hvalues with ⟨first, -, hvalues⟩
    rcases bind_eq_ok hvalues with ⟨last, -, hvalues⟩
    cases hvalues
    exact hrole

theorem updatedUser_eq_some {v : ProfileValues} {u u' : UserRow}
    (h : updatedUser t v u = some u') :
    u'.id = u.id ∧ u'.tenantId = u.tenantId ∧ columnValue t 50 v.role = some u'.role := by
  unfold updatedUser at h
  rcases Option.bind_eq_some_iff.mp h with ⟨role, hrole, h⟩
  rcases Option.bind_eq_some_iff.mp h with ⟨first, -, h⟩
  rcases Option.bind_eq_some_iff.mp h with ⟨last, -, h⟩
  cases h
  exact ⟨rfl, rfl, hrole⟩

theorem insertedUser_eq_some {tenantId newId : Int} {email passwordHash : String}
    {v : ProfileValues} {u' : UserRow}
    (h : insertedUser t tenantId newId email passwordHash v = some u') :
    u'.id = newId ∧ u'.tenantId = tenantId ∧ columnValue t 50 v.role = some u'.role := by
  unfold insertedUser at h
  rcases Option.bind_eq_some_iff.mp h with ⟨email', -, h⟩
  rcases Option.bind_eq_some_iff.mp h with ⟨role, hrole, h⟩
  rcases Option.bind_eq_some_iff.mp h with ⟨first, -, h⟩
  rcases Option.bind_eq_some_iff.mp h with ⟨last, -, h⟩
  cases h
  exact ⟨rfl, rfl, hrole⟩

/-- What a profile does to the user rows: one row carries the role of the profile, a row of
its tenant or a new one, and the others stay. -/
theorem upsertOidcUser_eq_ok {d : UserDraws} {users users' : List UserRow} {profile : Profile}
    (h : upsertOidcUser t provider claims userinfo d users = .ok (profile, users')) :
    mapRole provider claims userinfo = .ok profile.role ∧
      ∃ u' ∈ users', u'.id = profile.userId ∧ columnValue t 50 profile.role = some u'.role ∧
        ∀ u ∈ users', u = u' ∨ u ∈ users := by
  unfold upsertOidcUser at h
  rcases bind_eq_ok h with ⟨v, hv, h⟩
  have hrole := profileValues_role hv
  split at h
  next email hemail =>
    by_cases hnul : hasNul email = true
    · rw [if_pos hnul] at h
      cases h
    · rw [if_neg hnul] at h
      change (match d.choice.fetch (hasEmail t provider.tenantId email) users with
        | some u => _
        | none => _) = _ at h
      cases hfetch : d.choice.fetch (hasEmail t provider.tenantId email) users with
      | some u =>
          simp only [hfetch] at h
          cases hupdated : updatedUser t v u with
          | none =>
              rw [hupdated] at h
              cases h
          | some u' =>
              rw [hupdated] at h
              cases h
              rcases updatedUser_eq_some hupdated with ⟨hid, -, hcolumn⟩
              rcases Choice.fetch_eq_some hfetch with ⟨hu, hmatch⟩
              have htenant : u.tenantId = provider.tenantId := (of_decide_eq_true hmatch).1
              refine ⟨hrole, u', ?_, hid, hcolumn, ?_⟩
              · exact mem_updateWhere.mpr ⟨u, hu, Or.inl ⟨by simp [htenant], rfl⟩⟩
              · intro w hw
                rcases mem_updateWhere.mp hw with ⟨old, hold, ⟨-, heq⟩ | ⟨-, heq⟩⟩
                · exact Or.inl heq.symm
                · exact Or.inr (heq ▸ hold)
      | none =>
          simp only [hfetch] at h
          cases hinserted : insertedUser t provider.tenantId d.newId email d.passwordHash v with
          | none =>
              rw [hinserted] at h
              cases h
          | some u' =>
              rw [hinserted] at h
              simp only at h
              split_ifs at h
              cases h
              rcases insertedUser_eq_some hinserted with ⟨hid, -, hcolumn⟩
              refine ⟨hrole, u', by simp, hid, hcolumn, ?_⟩
              intro w hw
              rcases List.mem_append.mp hw with hold | hnew
              · exact Or.inr hold
              · exact Or.inl (List.mem_singleton.mp hnew)
  next => cases h

end

end AuthClaw.Identity
