import AuthClaw.Identity.Sessions

/-!
# Who a request is

The ways in which endpoints take a caller from the headers of a request, and the gate that
checks the role of the session first where role based access control is enforced.

Main results:

- Theorem {lit}`resolveTenant_signed`: a signed token that names a tenant authenticates.
- Theorem {lit}`not_identifies_of_unread`: a text that is no token and no key does not.
- Theorem {lit}`enforceRequestAccess_roleless`: the gate admits no session without a role.
-/

namespace AuthClaw.Identity

open PythonText

/-! ## Endpoints -/

/-- `TENANT_ADMIN_ROLES`. -/
def tenantAdminRoles : List String :=
  ["Super Admin", "Security Admin"]

/-- `TENANT_READ_ROLES`. -/
def tenantReadRoles : List String :=
  tenantAdminRoles ++ ["Compliance Officer", "Auditor", "Viewer"]

/-- `GATEWAY_USER_ROLES`. -/
def gatewayUserRoles : List String :=
  tenantReadRoles ++ ["Developer"]

/-- `ALL_ROLES`. -/
def allRoles : List String :=
  ["Platform Admin", "Super Admin", "Security Admin", "Compliance Officer", "Auditor",
    "Developer", "Viewer"]

/-- `PUBLIC_PATHS`. -/
def publicPaths : List String :=
  ["GET /", "GET /docs", "GET /docs/oauth2-redirect", "GET /openapi.json", "GET /redoc",
    "GET /health", "GET /health/details", "GET /health/ready", "GET /.well-known/jwks.json",
    "GET /auth/jwks", "GET /auth/oidc/providers", "GET /auth/oidc/login",
    "GET /auth/oidc/callback", "POST /auth/oidc/callback", "POST /auth/login",
    "POST /auth/register", "POST /auth/verify-email", "POST /auth/verify-domain",
    "POST /auth/password/reset-request", "POST /auth/password/reset-confirm",
    "POST /auth/mfa/reset-request", "POST /auth/mfa/reset-confirm", "POST /auth/verify-otp",
    "POST /auth/refresh", "POST /auth/logout", "POST /audit/export/verify", "GET /trust/public",
    "GET /trust/public/health"]

/-- `EndpointRule`, as far as access is decided by it. -/
structure EndpointRule where
  method : String
  pattern : String
  roles : List String
  tenantRequired : Bool

/-- `ENDPOINT_RULES`. -/
def endpointRules : List EndpointRule :=
  [
    ⟨"*", "/platform/*", ["Platform Admin"], false⟩,
    ⟨"*", "/identity/*", tenantAdminRoles, true⟩,
    ⟨"GET", "/security/posture", tenantReadRoles, true⟩,
    ⟨"GET", "/security/*", tenantAdminRoles, true⟩,
    ⟨"*", "/providers*", tenantAdminRoles, true⟩,
    ⟨"*", "/routes*", tenantAdminRoles, true⟩,
    ⟨"GET", "/gateway/requests*", tenantReadRoles ++ ["Developer"], true⟩,
    ⟨"GET", "/gateway/approvals*", tenantReadRoles, true⟩,
    ⟨"*", "/gateway/documents/*", gatewayUserRoles, true⟩,
    ⟨"*", "/gateway/chat", gatewayUserRoles, true⟩,
    ⟨"*", "/chat*", gatewayUserRoles, true⟩,
    ⟨"*", "/sessions*", gatewayUserRoles, true⟩,
    ⟨"*", "/v1/chat/completions", gatewayUserRoles, true⟩,
    ⟨"GET", "/approvals*", tenantReadRoles, true⟩,
    ⟨"POST", "/approve/*", tenantAdminRoles, true⟩,
    ⟨"POST", "/reject/*", tenantAdminRoles, true⟩,
    ⟨"POST", "/execute/*", tenantAdminRoles, true⟩,
    ⟨"POST", "/test/*", ["Super Admin"], true⟩,
    ⟨"GET", "/audit*", ["Super Admin", "Security Admin", "Compliance Officer", "Auditor"], true⟩,
    ⟨"POST", "/audit/export/verify", allRoles, false⟩,
    ⟨"*", "/policies*", ["Super Admin", "Security Admin", "Compliance Officer"], true⟩,
    ⟨"*", "/policy/bundles*", ["Super Admin", "Security Admin", "Compliance Officer"], true⟩,
    ⟨"POST", "/internal/policy/evaluate", gatewayUserRoles, true⟩,
    ⟨"*", "/rag*", ["Super Admin", "Security Admin", "Compliance Officer"], true⟩,
    ⟨"*", "/documents*", ["Super Admin", "Security Admin", "Compliance Officer"], true⟩,
    ⟨"*", "/compliance*",
      ["Super Admin", "Security Admin", "Compliance Officer", "Auditor"], true⟩,
    ⟨"*", "/evidence*", ["Super Admin", "Security Admin", "Compliance Officer", "Auditor"], true⟩,
    ⟨"*", "/auditor/*", ["Super Admin", "Security Admin", "Compliance Officer", "Auditor"], true⟩,
    ⟨"*", "/access-control/*", ["Super Admin", "Security Admin"], true⟩,
    ⟨"*", "/tenants*", tenantAdminRoles, true⟩,
    ⟨"*", "/tenant/plan*", tenantAdminRoles, true⟩,
    ⟨"*", "/keys*", tenantAdminRoles ++ ["Developer"], true⟩,
    ⟨"*", "/reports/*", ["Super Admin", "Security Admin", "Compliance Officer", "Auditor"], true⟩,
    ⟨"*", "/cloud/connectors/*", tenantAdminRoles, true⟩,
    ⟨"*", "/analytics/*", tenantReadRoles, true⟩,
    ⟨"*", "/remediation/*", tenantAdminRoles ++ ["Compliance Officer"], true⟩,
    ⟨"*", "/redteam/*", ["Super Admin", "Security Admin", "Compliance Officer", "Auditor"], true⟩,
    ⟨"GET", "/metrics", tenantReadRoles ++ ["Developer"], true⟩,
    ⟨"POST", "/observability/*", tenantAdminRoles, true⟩,
    ⟨"GET", "/trust/public", allRoles, false⟩,
    ⟨"GET", "/health*", allRoles, false⟩,
    ⟨"GET", "/", allRoles, false⟩,
    ⟨"*", "/auth/*", allRoles, false⟩]

/-- `fnmatch.fnmatch`, of a pattern without sets. -/
def fnmatch : List Char → List Char → Bool
  | [], [] => true
  | [], _ :: _ => false
  | '*' :: pattern, name =>
      name.tails.any (fun rest => fnmatch pattern rest)
  | '?' :: pattern, _ :: name => fnmatch pattern name
  | c :: pattern, d :: name => c = d && fnmatch pattern name
  | _ :: _, [] => false

/-- A segment of a path with what stands between its braces replaced. -/
def normalizeSegment (segment : List Char) : List Char :=
  match segment.reverse.dropWhile (fun c => c ≠ '}') with
  | [] => segment
  | _ :: reversed =>
      let before := reversed.reverse
      match before.dropWhile (fun c => c ≠ '{') with
      | _ :: _ :: _ => before.takeWhile (fun c => c ≠ '{') ++
          '*' :: segment.drop (before.length + 1)
      | _ => segment

/-- `_normalize_path_template`. -/
def normalizePathTemplate (path : String) : List Char :=
  let path := if path = "" then ['/'] else path.toList
  let path := ['/'].intercalate ((path.splitOn '/').map normalizeSegment)
  if path ≠ ['/'] ∧ path.getLast? = some '/' then path.dropLast else path

/-- `is_public_endpoint`. -/
def isPublicEndpoint (method path : String) : Bool :=
  publicPaths.any (fun pattern => fnmatch pattern.toList
    ((asciiUpper method).toList ++ ' ' :: normalizePathTemplate path))

/-- `EndpointRule.matches`. -/
def EndpointRule.admits (r : EndpointRule) (method path : String) : Bool :=
  (r.method = "*" || asciiUpper method = r.method) &&
    fnmatch (normalizePathTemplate r.pattern) (normalizePathTemplate path)

/-- `resolve_rule`. -/
def resolveRule (method path : String) : Option EndpointRule :=
  endpointRules.find? (fun r => r.admits method path)

/-- `role_allowed`; a role that is no text is in no set, and a list or an object raises. -/
def roleAllowed (role : Option Json) (method path : String) : Bool :=
  if isPublicEndpoint method path then true
  else
    match resolveRule method path with
    | none => false
    | some r =>
        match orElseJson role none with
        | some (.str role) => role = "Platform Admin" || r.roles.contains role
        | some _ => false
        | none => r.roles.contains ""

/-- `enforce_request_access`. -/
def enforceRequestAccess (method path : String) (payload : List (String × Json)) :
    Except IdentityError Unit :=
  if isPublicEndpoint method path then .ok ()
  else if !roleAllowed (getKey payload "role") method path then
    .error (.http 403 "Role is not authorized for this endpoint.")
  else if (resolveRule method path).any EndpointRule.tenantRequired &&
      (orElseJson (getKey payload "tenant_id") none).isNone then
    .error (.http 401 "Session token is missing tenant scope.")
  else .ok ()

/-! ## Guards -/

/-- The headers of a request that name its caller. -/
structure Headers where
  apiKey : Option String
  authorization : Option String

/-- The token of an authorization. -/
def bearerToken (authorization : String) : String :=
  if "Bearer ".toList.isPrefixOf authorization.toList then
    String.ofList (authorization.toList.drop 7)
  else authorization

/-- A header that is missing or empty. -/
def present (header : Option String) : Option String :=
  header.filter (fun text => text ≠ "")

section

variable (s : Signing) (now : Int) (db : Database) (h : Headers)

/-- The claims of the token of the authorization. -/
def authorizationPayload : Option (List (String × Json)) :=
  (present h.authorization).bind (fun text => decodeJwt s now (bearerToken text))

/-- The key of a text is live. -/
def liveApiKey (text : String) (k : ApiKeyRow) : Bool :=
  k.keyHash = s.sha256 text ∧ k.revokedAt = none ∧ k.expiresAt.all (fun e => now < e)

/-- `resolve_tenant`. -/
def resolveTenant : Except IdentityError Json :=
  match (present h.apiKey).orElse fun _ => ((present h.authorization).map bearerToken) with
  | none => .error (.http 401 "Authentication credentials missing.")
  | some "" => .error (.http 401 "Authentication credentials missing.")
  | some key =>
      match (decodeJwt s now key).bind (fun payload => getKey payload "tenant_id") with
      | some tenantId => .ok tenantId
      | none =>
          match db.apiKeys.find? (liveApiKey s now key) with
          | some k => .ok (.int k.tenantId)
          | none => .error (.http 401 "Invalid API Key.")

/-- `resolve_tenant_from_authorization`. -/
def resolveTenantFromAuthorization : Except IdentityError Json :=
  match present h.authorization with
  | none => .error (.http 401 "Authorization credentials missing.")
  | some text =>
      match decodeJwt s now (bearerToken text) with
      | none => .error (.http 401 "Invalid session token.")
      | some [] => .error (.http 401 "Invalid session token.")
      | some payload =>
          match orElseJson (getKey payload "tenant_id") none with
          | some tenantId => .ok tenantId
          | none => .error (.http 401 "Session token is missing tenant scope.")

/-- `get_current_user_from_authorization`. -/
def getCurrentUserFromAuthorization : Except IdentityError (List (String × Json)) :=
  match present h.authorization with
  | none => .error (.http 401 "Authorization credentials missing.")
  | some text =>
      match decodeJwt s now (bearerToken text) with
      | none => .error (.http 401 "Invalid session token.")
      | some [] => .error (.http 401 "Invalid session token.")
      | some payload => .ok payload

/-- `optional_user_from_request`. -/
def optionalUserFromRequest : List (String × Json) :=
  (authorizationPayload s now h).getD []

/-- `_username_from_authorization`: the name of a session, where there is one. -/
def usernameFromAuthorization : Option Json :=
  (authorizationPayload s now h).bind (fun payload => getKey payload "sub")

end

/-- `require_platform_admin`, of a decoded token. -/
def requirePlatformAdmin (payload : List (String × Json)) : Except IdentityError Unit :=
  match getKey payload "role" with
  | some (.str "Platform Admin") => .ok ()
  | _ => .error (.http 403 "Platform admin access required.")

/-- `require_tenant_access_admin`, of a decoded token: the tenant. -/
def requireTenantAccessAdmin (payload : List (String × Json)) : Except IdentityError Int :=
  match getKey payload "role" with
  | some (.arr _) => .error (.python .other)
  | some (.obj _) => .error (.python .other)
  | role =>
      if role.any (fun v => match v with
          | .str role => role = "Super Admin" || role = "Security Admin"
          | _ => false) then
        match orElseJson (getKey payload "tenant_id") none with
        | some (.int tenantId) => .ok tenantId
        | some _ => .error .database
        | none => .error (.http 401 "Session token is missing tenant scope.")
      else .error (.http 403 "Tenant access administrator role required.")

/-- How an endpoint takes its caller. -/
inductive Guard where
  /-- No caller is taken. -/
  | anyone
  /-- `resolve_tenant`. -/
  | tenant
  /-- `get_authenticated_tenant`. -/
  | sessionTenant
  /-- `get_current_user_from_authorization`. -/
  | user
  /-- `optional_user_from_request`. -/
  | optionalUser
  /-- `_username_from_authorization`. -/
  | username
  /-- `require_tenant_access_admin`. -/
  | tenantAdmin
  /-- `require_platform_admin`. -/
  | platformAdmin

/-- An endpoint; those that are public take no caller. -/
structure Endpoint where
  method : String
  path : String
  guard : Guard
  public_anyone : isPublicEndpoint method path = true → guard = .anyone

/-- The guard takes a caller from the headers. -/
def Guard.Identifies (s : Signing) (now : Int) (db : Database) (h : Headers) : Guard → Prop
  | .anyone => False
  | .tenant => ∃ tenantId, resolveTenant s now db h = .ok tenantId
  | .sessionTenant => ∃ tenantId, resolveTenantFromAuthorization s now h = .ok tenantId
  | .user => ∃ payload, getCurrentUserFromAuthorization s now h = .ok payload
  | .optionalUser => optionalUserFromRequest s now h ≠ []
  | .username => ∃ name, usernameFromAuthorization s now h = some name
  | .tenantAdmin => ∃ payload tenantId, getCurrentUserFromAuthorization s now h = .ok payload ∧
      requireTenantAccessAdmin payload = .ok tenantId
  | .platformAdmin => ∃ payload, getCurrentUserFromAuthorization s now h = .ok payload ∧
      requirePlatformAdmin payload = .ok ()

/-- A request authenticates its caller: the gate, where it is enforced, lets it through, and
the guard takes a caller. -/
def Authenticates (s : Signing) (enforced : Bool) (now : Int) (db : Database) (h : Headers)
    (e : Endpoint) : Prop :=
  (enforced = true →
      enforceRequestAccess e.method e.path (optionalUserFromRequest s now h) = .ok ()) ∧
    e.guard.Identifies s now db h

/-! ## Presenting a token -/

/-- How a token is presented as a credential. -/
inductive Presentation where
  | apiKey
  | bearer
  | raw

/-- The headers of a request that presents a token. -/
def Presentation.headers (token : String) : Presentation → Headers
  | .apiKey => ⟨some token, none⟩
  | .bearer => ⟨none, some ("Bearer " ++ token)⟩
  | .raw => ⟨none, some token⟩

section

variable {s : Signing} {now : Int} {db : Database} {token : String} {how : Presentation}

theorem present_some {text : String} (h : text ≠ "") : present (some text) = some text := by
  simp [present, Option.filter, h]

theorem bearer_ne_empty (token : String) : "Bearer " ++ token ≠ "" := by
  intro h
  have hchars := congrArg String.toList h
  rw [String.toList_append] at hchars
  cases hchars

theorem bearerToken_bearer (token : String) : bearerToken ("Bearer " ++ token) = token := by
  have hchars : ("Bearer " ++ token).toList = "Bearer ".toList ++ token.toList :=
    String.toList_append
  unfold bearerToken
  rw [hchars, if_pos (List.isPrefixOf_iff_prefix.mpr (List.prefix_append _ _))]
  exact String.ofList_toList

theorem bearerToken_raw (hblank : ' ' ∉ token.toList) : bearerToken token = token := by
  unfold bearerToken
  rw [if_neg]
  intro hprefix
  exact hblank ((List.isPrefixOf_iff_prefix.mp hprefix).subset (by decide))

/-- The claims of a presented token. -/
theorem authorizationPayload_headers (hblank : ' ' ∉ token.toList) (hempty : token ≠ "") :
    authorizationPayload s now (how.headers token) =
      match how with
      | .apiKey => none
      | .bearer => decodeJwt s now token
      | .raw => decodeJwt s now token := by
  cases how with
  | apiKey => rfl
  | bearer =>
      unfold authorizationPayload Presentation.headers
      rw [present_some (bearer_ne_empty token), Option.bind_some, bearerToken_bearer]
  | raw =>
      unfold authorizationPayload Presentation.headers
      rw [present_some hempty, Option.bind_some, bearerToken_raw hblank]

/-- `resolve_tenant` reads the token whichever way it is presented. -/
theorem resolveTenant_headers (hblank : ' ' ∉ token.toList) (hempty : token ≠ "") :
    resolveTenant s now db (how.headers token) =
      match (decodeJwt s now token).bind (fun payload => getKey payload "tenant_id") with
      | some tenantId => .ok tenantId
      | none =>
          match db.apiKeys.find? (liveApiKey s now token) with
          | some k => .ok (.int k.tenantId)
          | none => .error (.http 401 "Invalid API Key.") := by
  have hkey : ((present (how.headers token).apiKey).orElse fun _ =>
      (present (how.headers token).authorization).map bearerToken) = some token := by
    cases how with
    | apiKey =>
        unfold Presentation.headers
        rw [present_some hempty]
        rfl
    | bearer =>
        unfold Presentation.headers
        rw [present_some (bearer_ne_empty token)]
        exact congrArg some (bearerToken_bearer token)
    | raw =>
        unfold Presentation.headers
        rw [present_some hempty]
        exact congrArg some (bearerToken_raw hblank)
  unfold resolveTenant
  rw [hkey]
  split
  next h => cases h
  next h => exact absurd (Option.some.inj h) hempty
  next key _ h =>
    cases h
    rfl

/-- A signed token that names a tenant authenticates. -/
theorem resolveTenant_signed {payload : List (String × Json)} {tenantId : Json}
    (hblank : ' ' ∉ token.toList) (hempty : token ≠ "")
    (hdecode : decodeJwt s now token = some payload)
    (htenant : getKey payload "tenant_id" = some tenantId) :
    resolveTenant s now db (how.headers token) = .ok tenantId := by
  rw [resolveTenant_headers hblank hempty, hdecode, Option.bind_some, htenant]

/-- A text that is neither a token nor a key authenticates nobody. -/
theorem not_identifies_of_unread (hblank : ' ' ∉ token.toList) (hempty : token ≠ "")
    (hdecode : decodeJwt s now token = none)
    (hkeys : ∀ k ∈ db.apiKeys, liveApiKey s now token k = false) (g : Guard) :
    ¬ g.Identifies s now db (how.headers token) := by
  have hpayload : authorizationPayload s now (how.headers token) = none := by
    rw [authorizationPayload_headers hblank hempty]
    cases how with
    | apiKey => rfl
    | bearer => exact hdecode
    | raw => exact hdecode
  have huser : ∀ payload, getCurrentUserFromAuthorization s now (how.headers token) ≠
      .ok payload := by
    intro payload h
    unfold getCurrentUserFromAuthorization at h
    unfold authorizationPayload at hpayload
    split at h
    next => cases h
    next text htext =>
      rw [htext, Option.bind_some] at hpayload
      rw [hpayload] at h
      cases h
  cases g with
  | anyone => exact not_false
  | tenant =>
      rintro ⟨tenantId, h⟩
      rw [resolveTenant_headers hblank hempty, hdecode, Option.bind_none] at h
      have hfind : db.apiKeys.find? (liveApiKey s now token) = none := by
        rw [List.find?_eq_none]
        intro k hk
        rw [hkeys k hk]
        exact Bool.false_ne_true
      simp only [hfind] at h
      cases h
  | sessionTenant =>
      rintro ⟨tenantId, h⟩
      unfold resolveTenantFromAuthorization at h
      unfold authorizationPayload at hpayload
      split at h
      next => cases h
      next text htext =>
        rw [htext, Option.bind_some] at hpayload
        rw [hpayload] at h
        cases h
  | user =>
      rintro ⟨payload, h⟩
      exact huser payload h
  | optionalUser =>
      intro h
      change (authorizationPayload s now (how.headers token)).getD [] ≠ [] at h
      rw [hpayload] at h
      exact h rfl
  | username =>
      rintro ⟨name, h⟩
      unfold usernameFromAuthorization at h
      rw [hpayload] at h
      cases h
  | tenantAdmin =>
      rintro ⟨payload, tenantId, h, -⟩
      exact huser payload h
  | platformAdmin =>
      rintro ⟨payload, h, -⟩
      exact huser payload h

/-- No rule is for callers without a role. -/
theorem endpointRules_named : ∀ r ∈ endpointRules, r.roles.contains "" = false := by
  decide

/-- The gate admits no session without a role to an endpoint that is not public. -/
theorem enforceRequestAccess_roleless {method path : String} {payload : List (String × Json)}
    (hpublic : isPublicEndpoint method path = false) (hrole : getKey payload "role" = none) :
    enforceRequestAccess method path payload ≠ .ok () := by
  have hallowed : roleAllowed (getKey payload "role") method path = false := by
    unfold roleAllowed
    rw [hpublic, hrole]
    cases hrule : resolveRule method path with
    | none => rfl
    | some r =>
        exact endpointRules_named r (List.mem_of_find?_eq_some hrule)
  unfold enforceRequestAccess
  rw [hpublic, hallowed]
  intro h
  cases h

end

end AuthClaw.Identity
