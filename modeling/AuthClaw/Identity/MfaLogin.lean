import AuthClaw.Identity.OneTimeCodes
import AuthClaw.Identity.Passwords
import AuthClaw.Library.Rows
import AuthClaw.Library.StepSystem

/-!
# SignIns with a second factor

{lit}`/auth/login` takes a password and, for a user with a second factor, stores a session that
{lit}`/auth/verify-otp` exchanges for tokens against a code.  {lit}`/auth/mfa/reset-request` and
{lit}`/auth/mfa/reset-confirm` use the same table of sessions to give a user a new secret.  Each
handler is a sequence of transactions, which those of other handlers may come between.

Main results:

- Theorem {lit}`signInStep_inv`: every step keeps what sessions and handlers go back to.
- Theorem {lit}`tokens_traced`: what tokens go back to.
- Theorem {lit}`rotation_traced`: what a new secret goes back to.
- Theorem {lit}`session_used_up`: a session that was exchanged opens nothing more.
-/

namespace AuthClaw.Identity

open PythonText Rows StepSystem

/-! ## Tables -/

/-- A row of `tenant_users`. -/
structure LoginUser where
  id : Int
  tenantId : Int
  email : String
  passwordHash : String
  role : String
  permissions : String
  emailVerified : Bool
  mfaEnabled : Bool
  totpSecret : Option String
  status : String

/-- A row of `tenants`. -/
structure LoginTenant where
  id : Int
  name : String
  domain : Option String
  email : String
  domainVerified : Bool
  emailVerificationToken : Option String
  domainVerificationToken : Option String
  totpSecret : Option String

/-- A row of `onboarding_registrations` that is not activated. -/
structure PendingRegistration where
  workEmail : String
  domain : String
  emailVerified : Bool
  domainVerified : Bool
  emailVerificationToken : String
  domainVerificationToken : String

/-- Whom a session is of, and what it is for. -/
structure SessionClaims where
  username : String
  role : String
  permissions : String
  tenantId : Int
  userId : Int
  emailVerified : Bool
  domainVerified : Bool
  step : String

/-- A row of `auth_mfa_sessions`. -/
structure MfaSessionRow extends SessionClaims where
  sessionId : String
  expiresAt : Int

/-- The tables; the registrations are the newest first. -/
structure LoginTables where
  users : List LoginUser
  tenants : List LoginTenant
  registrations : List PendingRegistration
  mfaSessions : List MfaSessionRow
  refreshTokens : List RefreshRow

/-- What the handlers compute with; the database's `lower`, how it takes one of several rows, the
seconds a session lives, and the settings for tests and local runs. -/
structure LoginSetting where
  codes : CodeSetting
  passwords : PasswordSetting
  signing : Signing
  lower : String → String
  choice : Choice (LoginUser × LoginTenant)
  sessionTtlSeconds : Int
  disableMfaForTesting : Bool
  skipEmailDeliveryForTesting : Bool
  softFailEmailDeliveryForLocal : Bool

/-! ## Requests -/

/-- The body of a request. -/
inductive AuthBody where
  | login (username password : String)
  | verifyOtp (sessionId code : String)
  | mfaResetRequest (username password : String)
  | mfaResetConfirm (token : String) (username password : Option String)

/-- A request with what is drawn for it, and how `deliver_auth_email` refuses, if it does. -/
structure AuthRequest where
  body : AuthBody
  uuid : String
  jti : String
  secretBytes : List UInt8
  emailRefusal : Option (Nat × String)

/-- A reply. -/
inductive AuthReply where
  | tokens (access refresh : String) (user : List (String × Json))
  | json (status : Nat) (content : List (String × Json))
  /-- `HTTPException`. -/
  | refused (status : Nat) (detail : String)
  /-- An exception that nothing catches. -/
  | failed

/-- How far the handler of a request is. -/
inductive AuthPhase where
  | waiting
  /-- `auth_login`, without a second factor. -/
  | granted (c : SessionClaims) (organization : String)
  /-- `auth_login`, before the session is stored. -/
  | challenged (c : SessionClaims)
  /-- `auth_verify_otp`, with its session. -/
  | loaded (row : MfaSessionRow) (code : String)
  /-- `auth_verify_otp`, with a code that was taken. -/
  | passed (row : MfaSessionRow)
  /-- `auth_verify_otp`, before the session is deleted. -/
  | issued (row : MfaSessionRow) (access refresh : String)
  /-- `auth_mfa_reset_request`, before the session is stored. -/
  | resetting (c : SessionClaims)
  /-- `auth_mfa_reset_confirm`, without a session. -/
  | bypassing (token username password : String)
  /-- `auth_mfa_reset_confirm`, before the secret is changed. -/
  | confirming (token : String) (c : SessionClaims)
  /-- `auth_mfa_reset_confirm`, before the session is deleted. -/
  | rotated (token : String) (c : SessionClaims) (secret : String)
  | answered (reply : AuthReply)

/-- What a handler has done. -/
inductive AuthFact where
  /-- The password of a user's row was taken. -/
  | passwordTaken (u : LoginUser)
  | sessionStored (row : MfaSessionRow)
  | sessionLoaded (row : MfaSessionRow)
  /-- A code was taken for the secret of a user. -/
  | codeTaken (userId tenantId : Int) (secret : String)
  | tokensIssued (access : String)
  /-- A session was deleted after tokens were issued for it. -/
  | sessionUsed (sessionId : String)
  | secretRotated (userId tenantId : Int) (secret : String)

/-- What the handler of a request has done at a time. -/
structure AuthEvent (ι : Type) where
  request : ι
  now : Int
  fact : AuthFact

/-- What a transaction of a handler leads to. -/
structure Advance where
  phase : AuthPhase
  tables : LoginTables
  facts : List AuthFact

/-- The end of a handler that refuses. -/
def Advance.refuse (status : Nat) (detail : String) (tb : LoginTables) : Advance :=
  ⟨.answered (.refused status detail), tb, []⟩

/-! ## Sessions and tokens -/

/-- The claims of a user's session. -/
def sessionOf (u : LoginUser) (tenant : LoginTenant) (step : String) : SessionClaims where
  username := u.email
  role := u.role
  permissions := u.permissions
  tenantId := u.tenantId
  userId := u.id
  emailVerified := u.emailVerified
  domainVerified := tenant.domainVerified
  step := step

/-- The claims of an access token. -/
def SessionClaims.access (c : SessionClaims) (now : Int) : List (String × Json) :=
  [("sub", .str c.username), ("role", .str c.role), ("permissions", .str c.permissions),
    ("tenant_id", .int c.tenantId), ("user_id", .int c.userId), ("iat", .int (seconds now)),
    ("exp", .int (seconds now + 900))]

/-- The user in a reply. -/
def SessionClaims.content (c : SessionClaims) (organization : List (String × Json)) :
    List (String × Json) :=
  [("username", .str c.username), ("role", .str c.role), ("permissions", .str c.permissions),
    ("tenant_id", .int c.tenantId), ("user_id", .int c.userId)] ++ organization ++
    [("email_verified", .bool c.emailVerified), ("domain_verified", .bool c.domainVerified)]

section

variable (s : LoginSetting)

/-- The row `store_auth_session` writes. -/
def sessionRow (sessionId : String) (c : SessionClaims) (now : Int) : MfaSessionRow :=
  { c with sessionId := sessionId, expiresAt := now + s.sessionTtlSeconds * 1000000 }

/-- `store_auth_session`, in place of a session with the same id. -/
def storeAuthSession (row : MfaSessionRow) (tb : LoginTables) : LoginTables :=
  { tb with mfaSessions := tb.mfaSessions.filter (fun r => r.sessionId ≠ row.sessionId) ++ [row] }

/-- `load_auth_session`: the session, and the tables without those that have expired. -/
def loadAuthSession (sessionId : String) (now : Int) (tb : LoginTables) :
    Option MfaSessionRow × LoginTables :=
  let live := tb.mfaSessions.filter (fun r => now < r.expiresAt)
  (live.find? (fun r => r.sessionId = sessionId), { tb with mfaSessions := live })

/-- `delete_auth_session`. -/
def deleteAuthSession (sessionId : String) (tb : LoginTables) : LoginTables :=
  { tb with mfaSessions := tb.mfaSessions.filter (fun r => r.sessionId ≠ sessionId) }

/-- `create_refresh_token_for_user`. -/
def storeRefreshToken (c : SessionClaims) (jti : String) (now : Int) (tb : LoginTables) :
    Except IdentityError (String × LoginTables) :=
  match createRefreshTokenForUser s.signing c.userId c.tenantId c.username jti now
      ⟨[], [], [], tb.refreshTokens, [], []⟩ with
  | .error e => .error e
  | .ok (token, db) => .ok (token, { tb with refreshTokens := db.refreshTokens })

/-- The users with their tenants. -/
def LoginTables.accounts (tb : LoginTables) : List (LoginUser × LoginTenant) :=
  tb.users.flatMap (fun u => (tb.tenants.filter (fun t => t.id = u.tenantId)).map (fun t => (u, t)))

/-- The account of an address. -/
def findAccount (username : String) (tb : LoginTables) : Option (LoginUser × LoginTenant) :=
  s.choice.fetch (fun a => s.lower a.1.email = s.lower username) tb.accounts

/-! ## Login -/

/-- The reply where a registration waits for a verification. -/
def pendingReply (r : PendingRegistration) : Option AuthReply :=
  if !r.emailVerified then
    some (.json 400 [("detail", .str "Email not verified"), ("email_verified", .bool false),
      ("email", .str r.workEmail), ("domain", .str r.domain),
      ("email_token", .str r.emailVerificationToken),
      ("domain_token", .str r.domainVerificationToken)])
  else if !r.domainVerified then
    some (.json 400 [("detail", .str "Domain not verified"), ("domain_verified", .bool false),
      ("email", .str r.workEmail), ("domain", .str r.domain),
      ("domain_token", .str r.domainVerificationToken)])
  else none

/-- The reply where a user has no secret. -/
def notConfigured : AuthReply :=
  .json 400 [("error", .str "MFA_NOT_CONFIGURED"),
    ("message", .str "MFA is not configured for this tenant.")]

/-- A text that may be null. -/
def textOrNull (text : Option String) : Json :=
  (text.map Json.str).getD .null

/-- `auth_login`, up to its first write. -/
def startLogin (username password : String) (tb : LoginTables) : Advance :=
  match findAccount s username tb with
  | none =>
      let pending := (tb.registrations.find? (fun r =>
        s.lower r.workEmail = s.lower username)).bind pendingReply
      ⟨.answered (pending.getD (.refused 401 "Invalid email or password.")), tb, []⟩
  | some (u, tenant) =>
      if !verifyPassword s.passwords password u.passwordHash then
        .refuse 401 "Invalid email or password." tb
      else if u.status ≠ "active" then .refuse 403 "User account is not active." tb
      else if !u.emailVerified then
        ⟨.answered (.json 400 [("detail", .str "Email not verified"),
          ("email_verified", .bool false), ("email", .str username),
          ("email_token", textOrNull tenant.emailVerificationToken)]), tb, []⟩
      else if !tenant.domainVerified then
        ⟨.answered (.json 400 [("detail", .str "Domain not verified"),
          ("domain_verified", .bool false), ("domain", .str (tenant.domain.getD "")),
          ("domain_token", textOrNull tenant.domainVerificationToken)]), tb, []⟩
      else if u.mfaEnabled && !s.disableMfaForTesting then
        if u.totpSecret.getD "" = "" then
          ⟨.answered notConfigured, tb, []⟩
        else ⟨.challenged (sessionOf u tenant "otp"), tb, [.passwordTaken u]⟩
      else ⟨.granted (sessionOf u tenant "otp") tenant.name, tb, [.passwordTaken u]⟩

/-- `auth_login`, of a user without a second factor. -/
def grantTokens (request : AuthRequest) (c : SessionClaims) (organization : String) (now : Int)
    (tb : LoginTables) : Advance :=
  match storeRefreshToken s c request.jti now tb with
  | .error _ => ⟨.answered .failed, tb, []⟩
  | .ok (refresh, tb) =>
      let access := createJwt s.signing (c.access now)
      ⟨.answered (.tokens access refresh (c.content [("organization", .str organization)])), tb,
        [.tokensIssued access]⟩

/-- `auth_login`, of a user with one. -/
def storeChallenge (request : AuthRequest) (c : SessionClaims) (now : Int) (tb : LoginTables) :
    Advance :=
  let row := sessionRow s request.uuid c now
  ⟨.answered (.json 200 [("mfa_required", .bool true), ("session_id", .str request.uuid),
      ("message", .str "MFA required. Enter the 6-digit OTP code.")]),
    storeAuthSession row tb, [.sessionStored row]⟩

/-! ## Codes -/

/-- `auth_verify_otp`, up to the session. -/
def startVerify (sessionId code : String) (now : Int) (tb : LoginTables) : Advance :=
  let loaded := loadAuthSession sessionId now tb
  match loaded.1.filter (fun row => row.step = "otp") with
  | some row => ⟨.loaded row code, loaded.2, [.sessionLoaded row]⟩
  | none => .refuse 400 "Invalid or expired session." loaded.2

/-- The check of the code in `auth_verify_otp`. -/
def checkCode (row : MfaSessionRow) (code : String) (now : Int) (tb : LoginTables) : Advance :=
  let user := tb.users.find? (fun u => u.id = row.userId ∧ u.tenantId = row.tenantId)
  match (user.bind LoginUser.totpSecret).filter (· ≠ "") with
  | none =>
      ⟨.answered notConfigured, tb, []⟩
  | some secret =>
      if verifyTotpToken s.codes secret code now then
        ⟨.passed row, tb, [.codeTaken row.userId row.tenantId secret]⟩
      else .refuse 401 "Invalid OTP code." tb

/-- The tokens of `auth_verify_otp`. -/
def issueTokens (request : AuthRequest) (row : MfaSessionRow) (now : Int) (tb : LoginTables) :
    Advance :=
  match storeRefreshToken s row.toSessionClaims request.jti now tb with
  | .error _ => ⟨.answered .failed, tb, []⟩
  | .ok (refresh, tb) =>
      let access := createJwt s.signing (row.access now)
      ⟨.issued row access refresh, tb, [.tokensIssued access]⟩

/-- The end of `auth_verify_otp`. -/
def closeSession (row : MfaSessionRow) (access refresh : String) (tb : LoginTables) : Advance :=
  ⟨.answered (.tokens access refresh (row.content [])), deleteAuthSession row.sessionId tb,
    [.sessionUsed row.sessionId]⟩

/-! ## New secrets -/

/-- `auth_mfa_reset_request`, up to its first write. -/
def startReset (username password : String) (tb : LoginTables) : Advance :=
  match findAccount s username tb with
  | none => .refuse 401 "Invalid email or password." tb
  | some (u, tenant) =>
      if !verifyPassword s.passwords password u.passwordHash then
        .refuse 401 "Invalid email or password." tb
      else if u.status ≠ "active" then .refuse 403 "User account is not active." tb
      else if !u.emailVerified then
        .refuse 400 "Email must be verified before MFA reset." tb
      else if !tenant.domainVerified then
        .refuse 400 "Domain must be verified before MFA reset." tb
      else
        ⟨.resetting { sessionOf u tenant "mfa_reset" with
          emailVerified := true, domainVerified := true }, tb, [.passwordTaken u]⟩

/-- The reply of `auth_mfa_reset_request`, which shows the token where no mail was sent. -/
def resetReply (request : AuthRequest) : AuthReply :=
  match request.emailRefusal with
  | some (status, detail) =>
      if !s.softFailEmailDeliveryForLocal then .refused status detail
      else .json 200 ([("status", .str "success"),
        ("message", .str ("MFA reset token generated. " ++
          "Email delivery is unavailable locally, so use the token shown here.")),
        ("email_delivery", .str "failed_local_soft_bypass"),
        ("reset_token", .str request.uuid)] ++
          if detail = "" then [] else [("email_error", .str detail)])
  | none =>
      if s.skipEmailDeliveryForTesting then
        .json 200 [("status", .str "success"), ("message", .str ("MFA reset token generated. " ++
          "Email delivery is unavailable locally, so use the token shown here.")),
          ("email_delivery", .str "sent"), ("reset_token", .str request.uuid)]
      else
        .json 200 [("status", .str "success"),
          ("message", .str "MFA reset token sent to your verified email address."),
          ("email_delivery", .str "sent")]

/-- `auth_mfa_reset_request`, with its write. -/
def storeReset (request : AuthRequest) (c : SessionClaims) (now : Int) (tb : LoginTables) :
    Advance :=
  let row := sessionRow s request.uuid c now
  ⟨.answered (resetReply s request), storeAuthSession row tb, [.sessionStored row]⟩

/-- `auth_mfa_reset_confirm`, up to the session. -/
def startConfirm (token : String) (username password : Option String) (now : Int)
    (tb : LoginTables) : Advance :=
  let loaded := loadAuthSession token now tb
  match loaded.1.filter (fun row => row.step = "mfa_reset") with
  | some row => ⟨.confirming token row.toSessionClaims, loaded.2, [.sessionLoaded row]⟩
  | none =>
      match s.softFailEmailDeliveryForLocal, username.filter (· ≠ ""), password.filter (· ≠ "") with
      | true, some username, some password => ⟨.bypassing token username password, loaded.2, []⟩
      | _, _, _ => .refuse 400 "Invalid or expired MFA reset token." loaded.2

/-- `auth_mfa_reset_confirm` of a local run, with a password in place of a token. -/
def bypassReset (token username password : String) (tb : LoginTables) : Advance :=
  match findAccount s username tb with
  | none => .refuse 400 "Invalid or expired MFA reset token." tb
  | some (u, tenant) =>
      if !verifyPassword s.passwords password u.passwordHash ∨ u.status ≠ "active" ∨
          !u.emailVerified ∨ !tenant.domainVerified then
        .refuse 400 "Invalid or expired MFA reset token." tb
      else
        ⟨.confirming token { sessionOf u tenant "mfa_reset" with
          emailVerified := true, domainVerified := true }, tb, [.passwordTaken u]⟩

/-- The new secret of `auth_mfa_reset_confirm`. -/
def rotateSecret (request : AuthRequest) (token : String) (c : SessionClaims) (tb : LoginTables) :
    Advance :=
  let secret := generateTotpSecret request.secretBytes
  let matching : LoginUser → Bool := fun u =>
    u.id = c.userId ∧ u.tenantId = c.tenantId ∧ s.lower u.email = s.lower c.username
  if tb.users.any matching then
    ⟨.rotated token c secret, { tb with
      users := updateWhere matching (fun u =>
        { u with totpSecret := some secret, mfaEnabled := true }) tb.users
      tenants := updateWhere (fun t => t.id = c.tenantId ∧ s.lower t.email = s.lower c.username)
        (fun t => { t with totpSecret := some secret }) tb.tenants },
      [.secretRotated c.userId c.tenantId secret]⟩
  else .refuse 404 "User account not found for MFA reset." tb

/-- `build_otpauth_uri`, of a quoted address. -/
def buildOtpauthUri (account secret : String) : String :=
  "otpauth://totp/AuthClaw:" ++ account ++ "?secret=" ++ secret ++ "&issuer=AuthClaw"

/-- The end of `auth_mfa_reset_confirm`. -/
def closeReset (quote : String → String) (token : String) (c : SessionClaims) (secret : String)
    (tb : LoginTables) : Advance :=
  ⟨.answered (.json 200 [("status", .str "success"), ("message", .str ("MFA setup key rotated. " ++
      "Add the new key to your authenticator app, then sign in.")), ("totp_secret", .str secret),
      ("otpauth_uri", .str (buildOtpauthUri (quote c.username) secret))]),
    deleteAuthSession token tb, []⟩

/-- The next transaction of a handler. -/
def advance (quote : String → String) (request : AuthRequest) (now : Int) (tb : LoginTables) :
    AuthPhase → Option Advance
  | .waiting =>
      match request.body with
      | .login username password => some (startLogin s username password tb)
      | .verifyOtp sessionId code => some (startVerify sessionId code now tb)
      | .mfaResetRequest username password => some (startReset s username password tb)
      | .mfaResetConfirm token username password =>
          some (startConfirm s token username password now tb)
  | .granted c organization => some (grantTokens s request c organization now tb)
  | .challenged c => some (storeChallenge s request c now tb)
  | .loaded row code => some (checkCode s row code now tb)
  | .passed row => some (issueTokens s request row now tb)
  | .issued row access refresh => some (closeSession row access refresh tb)
  | .resetting c => some (storeReset s request c now tb)
  | .bypassing token username password => some (bypassReset s token username password tb)
  | .confirming token c => some (rotateSecret s request token c tb)
  | .rotated token c secret => some (closeReset quote token c secret tb)
  | .answered _ => none

end

/-! ## Runs -/

/-- The tables, the handlers and what they have done. -/
structure SignIns (ι : Type) where
  tables : LoginTables
  phase : ι → AuthPhase
  history : List (AuthEvent ι)

/-- Before the requests. -/
def SignIns.start {ι : Type} (tb : LoginTables) : SignIns ι :=
  ⟨tb, fun _ => .waiting, []⟩

/-- A transaction of a handler at a time, the failure of one, or what other handlers do to the
tables; the sessions of users they delete are deleted, too. -/
inductive SignInAction (ι : Type) where
  | advance (i : ι) (now : Int)
  | fail (i : ι)
  | others (users : List LoginUser) (tenants : List LoginTenant)
      (registrations : List PendingRegistration) (refreshTokens : List RefreshRow)
      (kept : MfaSessionRow → Bool)

section

variable {ι : Type} [DecidableEq ι] (s : LoginSetting) (quote : String → String)
  (requests : ι → AuthRequest)

/-- A step of the handlers. -/
def signInStep (st : SignIns ι) : SignInAction ι → Option (SignIns ι)
  | .advance i now =>
      (advance s quote (requests i) now st.tables (st.phase i)).map (fun next =>
        ⟨next.tables, Function.update st.phase i next.phase,
          st.history ++ next.facts.map (fun fact => ⟨i, now, fact⟩)⟩)
  | .fail i =>
      match st.phase i with
      | .answered _ => none
      | _ => some { st with phase := Function.update st.phase i (.answered .failed) }
  | .others users tenants registrations refreshTokens kept =>
      some { st with tables :=
        ⟨users, tenants, registrations, st.tables.mfaSessions.filter kept, refreshTokens⟩ }

/-! ## Where sessions come from -/

/-- The address and the password in a body, and what they ask for. -/
def AuthBody.credentials : AuthBody → Option (String × String × String)
  | .login username password => some (username, password, "otp")
  | .mfaResetRequest username password => some (username, password, "mfa_reset")
  | .mfaResetConfirm _ (some username) (some password) => some (username, password, "mfa_reset")
  | _ => none

/-- A request presents the password of a user who may have a session of these claims. -/
structure Presents (request : AuthRequest) (u : LoginUser) (tenant : LoginTenant)
    (c : SessionClaims) : Prop where
  taken : ∃ username password, request.body.credentials = some (username, password, c.step) ∧
    s.lower u.email = s.lower username ∧ verifyPassword s.passwords password u.passwordHash = true
  active : u.status = "active"
  emailVerified : u.emailVerified = true
  domainVerified : tenant.domainVerified = true
  claims : c = sessionOf u tenant c.step

/-- The events of a history that lead to a session, and more that follow them. -/
def Trail (h : List (AuthEvent ι)) (row : MfaSessionRow) (rest : List (AuthEvent ι)) : Prop :=
  ∃ (j : ι) (u : LoginUser) (tenant : LoginTenant) (t t₀ : Int),
    Presents s (requests j) u tenant row.toSessionClaims ∧ row.sessionId = (requests j).uuid ∧
      row.expiresAt = t₀ + s.sessionTtlSeconds * 1000000 ∧
      (⟨j, t, .passwordTaken u⟩ :: ⟨j, t₀, .sessionStored row⟩ :: rest).Sublist h

/-- The session was loaded before it expired. -/
def LoadedBy (h : List (AuthEvent ι)) (i : ι) (row : MfaSessionRow) : Prop :=
  ∃ t₁, t₁ < row.expiresAt ∧ Trail s requests h row [⟨i, t₁, .sessionLoaded row⟩]

/-- A code was taken, too. -/
def PassedBy (h : List (AuthEvent ι)) (i : ι) (row : MfaSessionRow) (code : String)
    (rest : List (AuthEvent ι)) : Prop :=
  ∃ t₁ t₂ secret, t₁ < row.expiresAt ∧ verifyTotpToken s.codes secret code t₂ = true ∧
    Trail s requests h row ([⟨i, t₁, .sessionLoaded row⟩,
      ⟨i, t₂, .codeTaken row.userId row.tenantId secret⟩] ++ rest)

/-- The password of a user was taken. -/
def TakenBy (h : List (AuthEvent ι)) (i : ι) (c : SessionClaims) (rest : List (AuthEvent ι))
    (P : LoginUser → Prop) : Prop :=
  ∃ (u : LoginUser) (tenant : LoginTenant) (t : Int), Presents s (requests i) u tenant c ∧ P u ∧
    (⟨i, t, .passwordTaken u⟩ :: rest).Sublist h

/-- A user logs in without a second factor. -/
def Unchallenged (u : LoginUser) : Prop :=
  u.mfaEnabled = false ∨ s.disableMfaForTesting = true

/-- What a handler in a phase goes back to. -/
def PhaseOk (h : List (AuthEvent ι)) (i : ι) : AuthPhase → Prop
  | .granted c _ => c.step = "otp" ∧ TakenBy s requests h i c [] (Unchallenged s)
  | .challenged c => TakenBy s requests h i c [] (fun _ => True)
  | .resetting c => TakenBy s requests h i c [] (fun _ => True)
  | .loaded row code => (requests i).body = .verifyOtp row.sessionId code ∧ row.step = "otp" ∧
      LoadedBy s requests h i row
  | .passed row => ∃ code, (requests i).body = .verifyOtp row.sessionId code ∧
      row.step = "otp" ∧ PassedBy s requests h i row code []
  | .bypassing token username password =>
      (requests i).body = .mfaResetConfirm token (some username) (some password)
  | .confirming token c => c.step = "mfa_reset" ∧
      ((∃ row, row.toSessionClaims = c ∧ row.sessionId = token ∧ LoadedBy s requests h i row ∧
        ∃ username password, (requests i).body = .mfaResetConfirm token username password) ∨
        TakenBy s requests h i c [] (fun _ => True))
  | .issued row access _ => (∃ code, (requests i).body = .verifyOtp row.sessionId code) ∧
      Trail s requests h row [] ∧ ∃ t, ⟨i, t, .tokensIssued access⟩ ∈ h
  | .answered (.tokens access _ _) => (∃ t, ⟨i, t, .tokensIssued access⟩ ∈ h) ∧
      ∀ sessionId code, (requests i).body = .verifyOtp sessionId code →
        ∃ t, ⟨i, t, .sessionUsed sessionId⟩ ∈ h
  | _ => True

/-- What a fact goes back to. -/
def FactOk (h : List (AuthEvent ι)) (e : AuthEvent ι) : Prop :=
  match e.fact with
  | .tokensIssued access =>
      (∃ c : SessionClaims, c.step = "otp" ∧ access = createJwt s.signing (c.access e.now) ∧
        TakenBy s requests h e.request c [e] (Unchallenged s)) ∨
      ∃ (row : MfaSessionRow) (code : String),
        (requests e.request).body = .verifyOtp row.sessionId code ∧ row.step = "otp" ∧
          access = createJwt s.signing (row.access e.now) ∧
          PassedBy s requests h e.request row code [e]
  | .secretRotated userId tenantId _ =>
      ∃ c : SessionClaims, c.userId = userId ∧ c.tenantId = tenantId ∧ c.step = "mfa_reset" ∧
        ((∃ (row : MfaSessionRow) (t₁ : Int), row.toSessionClaims = c ∧ t₁ < row.expiresAt ∧
          (∃ username password,
            (requests e.request).body = .mfaResetConfirm row.sessionId username password) ∧
          Trail s requests h row [⟨e.request, t₁, .sessionLoaded row⟩, e]) ∨
          TakenBy s requests h e.request c [e] (fun _ => True))
  | .sessionUsed sessionId => ∃ row, row.sessionId = sessionId ∧ Trail s requests h row []
  | _ => True

/-- What holds of the tables, the handlers and the history. -/
structure SignInInv (st : SignIns ι) : Prop where
  rows : ∀ row ∈ st.tables.mfaSessions, Trail s requests st.history row []
  phases : ∀ i, PhaseOk s requests st.history i (st.phase i)
  facts : ∀ e ∈ st.history, FactOk s requests st.history e

end

/-! ## Longer histories -/

section

variable {ι : Type} {s : LoginSetting} {requests : ι → AuthRequest} {h more : List (AuthEvent ι)}
  {i : ι} {row : MfaSessionRow} {c : SessionClaims} {code : String} {rest : List (AuthEvent ι)}
  {P : LoginUser → Prop} {e : AuthEvent ι}

theorem Trail.mono (ht : Trail s requests h row rest) : Trail s requests (h ++ more) row rest := by
  rcases ht with ⟨j, u, tenant, t, t₀, hpresents, hid, hexpires, hsub⟩
  exact ⟨j, u, tenant, t, t₀, hpresents, hid, hexpires, hsub.trans (List.sublist_append_left _ _)⟩

theorem Trail.snoc (ht : Trail s requests h row rest) :
    Trail s requests (h ++ [e]) row (rest ++ [e]) := by
  rcases ht with ⟨j, u, tenant, t, t₀, hpresents, hid, hexpires, hsub⟩
  exact ⟨j, u, tenant, t, t₀, hpresents, hid, hexpires, hsub.append (List.Sublist.refl [e])⟩

theorem Trail.opened (ht : Trail s requests h row rest) : Trail s requests h row [] := by
  rcases ht with ⟨j, u, tenant, t, t₀, hpresents, hid, hexpires, hsub⟩
  refine ⟨j, u, tenant, t, t₀, hpresents, hid, hexpires, List.Sublist.trans ?_ hsub⟩
  exact ((List.nil_sublist rest).cons_cons _).cons_cons _

theorem LoadedBy.mono (hl : LoadedBy s requests h i row) :
    LoadedBy s requests (h ++ more) i row := by
  rcases hl with ⟨t₁, hlive, ht⟩
  exact ⟨t₁, hlive, ht.mono⟩

theorem PassedBy.mono (hp : PassedBy s requests h i row code rest) :
    PassedBy s requests (h ++ more) i row code rest := by
  rcases hp with ⟨t₁, t₂, secret, hlive, hcode, ht⟩
  exact ⟨t₁, t₂, secret, hlive, hcode, ht.mono⟩

theorem TakenBy.mono (hp : TakenBy s requests h i c rest P) :
    TakenBy s requests (h ++ more) i c rest P := by
  rcases hp with ⟨u, tenant, t, hpresents, hP, hsub⟩
  exact ⟨u, tenant, t, hpresents, hP, hsub.trans (List.sublist_append_left _ _)⟩

theorem TakenBy.snoc (hp : TakenBy s requests h i c rest P) :
    TakenBy s requests (h ++ [e]) i c (rest ++ [e]) P := by
  rcases hp with ⟨u, tenant, t, hpresents, hP, hsub⟩
  exact ⟨u, tenant, t, hpresents, hP, hsub.append (List.Sublist.refl [e])⟩

theorem PhaseOk.mono {phase : AuthPhase} (hp : PhaseOk s requests h i phase) :
    PhaseOk s requests (h ++ more) i phase := by
  have hdone : ∀ fact, (∃ t, ⟨i, t, fact⟩ ∈ h) → ∃ t, ⟨i, t, fact⟩ ∈ h ++ more := by
    rintro fact ⟨t, hmem⟩
    exact ⟨t, List.mem_append_left _ hmem⟩
  cases phase with
  | granted c organization => exact ⟨hp.1, hp.2.mono⟩
  | challenged c => exact TakenBy.mono hp
  | resetting c => exact TakenBy.mono hp
  | loaded row code => exact ⟨hp.1, hp.2.1, hp.2.2.mono⟩
  | passed row =>
      rcases hp with ⟨code, hbody, hstep, hpassed⟩
      exact ⟨code, hbody, hstep, hpassed.mono⟩
  | confirming token c =>
      rcases hp with ⟨hstep, ⟨row, hclaims, htoken, hloaded, hbody⟩ | htaken⟩
      · exact ⟨hstep, Or.inl ⟨row, hclaims, htoken, hloaded.mono, hbody⟩⟩
      · exact ⟨hstep, Or.inr htaken.mono⟩
  | issued row access refresh => exact ⟨hp.1, hp.2.1.mono, hdone _ hp.2.2⟩
  | answered reply =>
      cases reply with
      | tokens access refresh user =>
          exact ⟨hdone _ hp.1, fun sessionId code hbody => hdone _ (hp.2 sessionId code hbody)⟩
      | _ => trivial
  | bypassing token username password => exact hp
  | _ => trivial

theorem FactOk.mono (hf : FactOk s requests h e) : FactOk s requests (h ++ more) e := by
  unfold FactOk at hf ⊢
  split at hf
  next access =>
    rcases hf with ⟨c, hstep, haccess, htaken⟩ | ⟨row, code, hbody, hstep, haccess, hpassed⟩
    · exact Or.inl ⟨c, hstep, haccess, htaken.mono⟩
    · exact Or.inr ⟨row, code, hbody, hstep, haccess, hpassed.mono⟩
  next userId tenantId secret =>
    rcases hf with ⟨c, huser, htenant, hstep, ⟨row, t₁, hclaims, hlive, hbody, ht⟩ | htaken⟩
    · exact ⟨c, huser, htenant, hstep, Or.inl ⟨row, t₁, hclaims, hlive, hbody, ht.mono⟩⟩
    · exact ⟨c, huser, htenant, hstep, Or.inr htaken.mono⟩
  next sessionId =>
    rcases hf with ⟨row, hid, ht⟩
    exact ⟨row, hid, ht.mono⟩
  next => trivial

end

/-! ## One transaction -/

section

variable {ι : Type} {s : LoginSetting} {requests : ι → AuthRequest} {h : List (AuthEvent ι)}
  {i : ι} {now : Int} {tb : LoginTables} {next : Advance}

/-- The history after a transaction. -/
def historyAfter (h : List (AuthEvent ι)) (i : ι) (now : Int) (next : Advance) :
    List (AuthEvent ι) :=
  h ++ next.facts.map (fun fact => ⟨i, now, fact⟩)

/-- What a transaction leaves goes back to the history after it; a session is new only where it is
stored, which ends a handler, and gone where it was used. -/
structure AdvanceOk (s : LoginSetting) (requests : ι → AuthRequest) (h : List (AuthEvent ι))
    (i : ι) (now : Int) (tb : LoginTables) (next : Advance) : Prop where
  rows : ∀ row ∈ next.tables.mfaSessions, row ∈ tb.mfaSessions ∨
    (row.sessionId = (requests i).uuid ∧ .sessionStored row ∈ next.facts ∧
      Trail s requests (historyAfter h i now next) row [])
  phase : PhaseOk s requests (historyAfter h i now next) i next.phase
  facts : ∀ fact ∈ next.facts, FactOk s requests (historyAfter h i now next) ⟨i, now, fact⟩
  stores : ∀ row, .sessionStored row ∈ next.facts → ∃ reply, next.phase = .answered reply
  uses : ∀ sessionId, .sessionUsed sessionId ∈ next.facts →
    ∀ row ∈ next.tables.mfaSessions, row.sessionId ≠ sessionId

/-- The sessions go back to the history. -/
def RowsOk (s : LoginSetting) (requests : ι → AuthRequest) (h : List (AuthEvent ι))
    (tb : LoginTables) : Prop :=
  ∀ row ∈ tb.mfaSessions, Trail s requests h row []

/-- A fact of no session that is stored or used. -/
def AuthFact.plain : AuthFact → Bool
  | .sessionStored _ | .sessionUsed _ => false
  | _ => true

/-- A transaction without a fact. -/
theorem advanceOk_silent (hsub : next.tables.mfaSessions ⊆ tb.mfaSessions)
    (hfacts : next.facts = []) (hphase : PhaseOk s requests h i next.phase) :
    AdvanceOk s requests h i now tb next where
  rows := fun row hrow => Or.inl (hsub hrow)
  phase := hphase.mono
  facts := by
    rw [hfacts]
    simp
  stores := by
    rw [hfacts]
    simp
  uses := by
    rw [hfacts]
    simp

/-- A handler that answers without tokens. -/
theorem advanceOk_answered {tables : LoginTables} {reply : AuthReply}
    (hsub : tables.mfaSessions ⊆ tb.mfaSessions)
    (hreply : ∀ access refresh user, reply ≠ .tokens access refresh user) :
    AdvanceOk s requests h i now tb ⟨.answered reply, tables, []⟩ := by
  refine advanceOk_silent hsub rfl ?_
  cases reply with
  | tokens access refresh user => exact absurd rfl (hreply access refresh user)
  | _ => trivial

theorem advanceOk_refuse {status : Nat} {detail : String} {tables : LoginTables}
    (hsub : tables.mfaSessions ⊆ tb.mfaSessions) :
    AdvanceOk s requests h i now tb (.refuse status detail tables) :=
  advanceOk_answered hsub (fun _ _ _ => AuthReply.noConfusion)

/-- A transaction with one fact that stores and uses no session. -/
theorem advanceOk_fact {phase : AuthPhase} {tables : LoginTables} {fact : AuthFact}
    (hplain : fact.plain = true) (hsub : tables.mfaSessions ⊆ tb.mfaSessions)
    (hphase : PhaseOk s requests (h ++ [⟨i, now, fact⟩]) i phase)
    (hfact : FactOk s requests (h ++ [⟨i, now, fact⟩]) ⟨i, now, fact⟩) :
    AdvanceOk s requests h i now tb ⟨phase, tables, [fact]⟩ where
  rows := fun row hrow => Or.inl (hsub hrow)
  phase := hphase
  facts := by
    intro fact' hfact'
    rw [List.mem_singleton.mp hfact']
    exact hfact
  stores := by
    intro row hrow
    rw [← List.mem_singleton.mp hrow] at hplain
    cases hplain
  uses := by
    intro sessionId hused
    rw [← List.mem_singleton.mp hused] at hplain
    cases hplain

/-- The account of an address whose password was taken and that is in order. -/
theorem presents_of_account {username password step : String} {u : LoginUser}
    {tenant : LoginTenant} {c : SessionClaims}
    (hfound : findAccount s username tb = some (u, tenant))
    (hpassword : verifyPassword s.passwords password u.passwordHash = true)
    (hactive : u.status = "active") (hemail : u.emailVerified = true)
    (hdomain : tenant.domainVerified = true)
    (hbody : (requests i).body.credentials = some (username, password, step))
    (hc : c = { sessionOf u tenant step with emailVerified := true, domainVerified := true }) :
    Presents s (requests i) u tenant c := by
  have hstep : c.step = step := by
    rw [hc]
    rfl
  have haddress := (Choice.fetch_eq_some hfound).2
  refine ⟨⟨username, password, ?_, of_decide_eq_true haddress, hpassword⟩, hactive, hemail,
    hdomain, ?_⟩
  · rw [hstep]
    exact hbody
  · rw [hstep, hc]
    unfold sessionOf
    rw [hemail, hdomain]

/-- A session that was loaded goes back to the history. -/
theorem loadAuthSession_spec {sessionId : String} {row : MfaSessionRow} {step : String}
    (hload : (loadAuthSession sessionId now tb).1.filter (fun row => row.step = step) = some row) :
    row ∈ tb.mfaSessions ∧ now < row.expiresAt ∧ row.sessionId = sessionId ∧ row.step = step := by
  rcases Option.filter_eq_some_iff.mp hload with ⟨hfind, hstep⟩
  have hmem := List.mem_of_find?_eq_some hfind
  have hid := List.find?_some hfind
  rcases List.mem_filter.mp hmem with ⟨hrow, hlive⟩
  exact ⟨hrow, of_decide_eq_true hlive, of_decide_eq_true hid, of_decide_eq_true hstep⟩

theorem loadAuthSession_subset (sessionId : String) (now : Int) (tb : LoginTables) :
    (loadAuthSession sessionId now tb).2.mfaSessions ⊆ tb.mfaSessions :=
  fun _ hrow => (List.mem_filter.mp hrow).1

theorem startLogin_ok {username password : String}
    (hbody : (requests i).body = .login username password) :
    AdvanceOk s requests h i now tb (startLogin s username password tb) := by
  unfold startLogin
  split
  next =>
    refine advanceOk_answered (List.Subset.refl _) ?_
    intro access refresh user heq
    cases hpending : (tb.registrations.find? (fun r =>
        s.lower r.workEmail = s.lower username)).bind pendingReply with
    | none =>
        rw [hpending] at heq
        cases heq
    | some reply =>
        rw [hpending] at heq
        rcases Option.bind_eq_some_iff.mp hpending with ⟨r, -, hreply⟩
        unfold pendingReply at hreply
        split_ifs at hreply <;> cases hreply <;> cases heq
  next u tenant hfound =>
    by_cases hpassword : verifyPassword s.passwords password u.passwordHash = true
    · rw [hpassword, if_neg (by simp)]
      by_cases hactive : u.status = "active"
      · rw [if_neg (by simpa using hactive)]
        by_cases hemail : u.emailVerified = true
        · rw [hemail, if_neg (by simp)]
          by_cases hdomain : tenant.domainVerified = true
          · rw [hdomain, if_neg (by simp)]
            have hpresents : Presents s (requests i) u tenant (sessionOf u tenant "otp") := by
              refine presents_of_account hfound hpassword hactive hemail hdomain
                (by rw [hbody]; rfl) ?_
              unfold sessionOf
              rw [hemail, hdomain]
            split_ifs with hfactor
            · exact advanceOk_answered (List.Subset.refl _) (fun _ _ _ => AuthReply.noConfusion)
            · refine advanceOk_fact rfl (List.Subset.refl _) ?_ trivial
              exact ⟨u, tenant, now, hpresents, trivial, List.sublist_append_right _ _⟩
            · refine advanceOk_fact rfl (List.Subset.refl _) ?_ trivial
              refine ⟨rfl, u, tenant, now, hpresents, ?_, List.sublist_append_right _ _⟩
              unfold Unchallenged
              rw [Bool.and_eq_true, not_and_or] at hfactor
              simpa using hfactor
          · rw [Bool.not_eq_true] at hdomain
            rw [hdomain]
            exact advanceOk_answered (List.Subset.refl _) (fun _ _ _ => AuthReply.noConfusion)
        · rw [Bool.not_eq_true] at hemail
          rw [hemail]
          exact advanceOk_answered (List.Subset.refl _) (fun _ _ _ => AuthReply.noConfusion)
      · rw [if_pos hactive]
        exact advanceOk_refuse (List.Subset.refl _)
    · rw [Bool.not_eq_true] at hpassword
      rw [hpassword]
      exact advanceOk_refuse (List.Subset.refl _)

/-- A token is stored beside the sessions. -/
theorem storeRefreshToken_sessions {c : SessionClaims} {jti token : String} {tables : LoginTables}
    (hstore : storeRefreshToken s c jti now tb = .ok (token, tables)) :
    tables.mfaSessions = tb.mfaSessions := by
  unfold storeRefreshToken at hstore
  split at hstore
  next => cases hstore
  next =>
    cases hstore
    rfl

theorem grantTokens_ok {c : SessionClaims} {organization : String}
    (hphase : PhaseOk s requests h i (.granted c organization)) :
    AdvanceOk s requests h i now tb (grantTokens s (requests i) c organization now tb) := by
  unfold grantTokens
  split
  next => exact advanceOk_answered (List.Subset.refl _) (fun _ _ _ => AuthReply.noConfusion)
  next refresh tables hstore =>
    have hsub : tables.mfaSessions ⊆ tb.mfaSessions := by
      rw [storeRefreshToken_sessions hstore]
      exact List.Subset.refl _
    refine advanceOk_fact rfl hsub ⟨⟨now, List.mem_append_right _ List.mem_cons_self⟩, ?_⟩ ?_
    · intro sessionId code hbody
      rcases hphase.2 with ⟨u, tenant, t, hpresents, -, -⟩
      rcases hpresents.taken with ⟨username, password, hcredentials, -, -⟩
      rw [hbody] at hcredentials
      cases hcredentials
    · exact Or.inl ⟨c, hphase.1, rfl, hphase.2.snoc⟩

/-- A session is stored for a user whose password was taken. -/
theorem storeSession_ok {c : SessionClaims} {reply : AuthReply}
    (htaken : TakenBy s requests h i c [] (fun _ => True))
    (hreply : ∀ access refresh user, reply ≠ .tokens access refresh user) :
    AdvanceOk s requests h i now tb ⟨.answered reply,
      storeAuthSession (sessionRow s (requests i).uuid c now) tb,
      [.sessionStored (sessionRow s (requests i).uuid c now)]⟩ where
  rows := by
    intro row hrow
    rcases List.mem_append.mp hrow with hrow | hrow
    · exact Or.inl (List.mem_filter.mp hrow).1
    · rw [List.mem_singleton.mp hrow]
      rcases htaken with ⟨u, tenant, t, hpresents, -, hsub⟩
      exact Or.inr ⟨rfl, List.mem_cons_self, i, u, tenant, t, now, hpresents, rfl, rfl,
        hsub.append (List.Sublist.refl _)⟩
  phase := by
    cases reply with
    | tokens access refresh user => exact absurd rfl (hreply access refresh user)
    | _ => trivial
  facts := by
    intro fact hfact
    rw [List.mem_singleton.mp hfact]
    trivial
  stores := fun _ _ => ⟨reply, rfl⟩
  uses := by
    intro sessionId hused
    cases List.mem_singleton.mp hused

theorem startVerify_ok {sessionId code : String} (hrows : RowsOk s requests h tb)
    (hbody : (requests i).body = .verifyOtp sessionId code) :
    AdvanceOk s requests h i now tb (startVerify sessionId code now tb) := by
  have hsub := loadAuthSession_subset sessionId now tb
  unfold startVerify
  dsimp only
  split
  next row hload =>
    rcases loadAuthSession_spec hload with ⟨hrow, hlive, hid, hstep⟩
    refine advanceOk_fact rfl hsub ?_ trivial
    refine ⟨?_, hstep, now, hlive, (hrows row hrow).snoc⟩
    rw [hid]
    exact hbody
  next => exact advanceOk_refuse hsub

theorem checkCode_ok {row : MfaSessionRow} {code : String}
    (hphase : PhaseOk s requests h i (.loaded row code)) :
    AdvanceOk s requests h i now tb (checkCode s row code now tb) := by
  unfold checkCode
  dsimp only
  split
  next => exact advanceOk_answered (List.Subset.refl _) (fun _ _ _ => AuthReply.noConfusion)
  next secret _ =>
    split_ifs with hcode
    · rcases hphase with ⟨hbody, hstep, t₁, hlive, ht⟩
      refine advanceOk_fact rfl (List.Subset.refl _) ?_ trivial
      refine ⟨code, hbody, hstep, t₁, now, secret, hlive, hcode, ?_⟩
      exact ht.snoc
    · exact advanceOk_refuse (List.Subset.refl _)

theorem issueTokens_ok {row : MfaSessionRow} (hphase : PhaseOk s requests h i (.passed row)) :
    AdvanceOk s requests h i now tb (issueTokens s (requests i) row now tb) := by
  unfold issueTokens
  split
  next => exact advanceOk_answered (List.Subset.refl _) (fun _ _ _ => AuthReply.noConfusion)
  next refresh tables hstore =>
    rcases hphase with ⟨code, hbody, hstep, t₁, t₂, secret, hlive, hcode, ht⟩
    have hsub : tables.mfaSessions ⊆ tb.mfaSessions := by
      rw [storeRefreshToken_sessions hstore]
      exact List.Subset.refl _
    refine advanceOk_fact rfl hsub ?_ ?_
    · exact ⟨⟨code, hbody⟩, ht.opened.mono, now, List.mem_append_right _ List.mem_cons_self⟩
    · exact Or.inr ⟨row, code, hbody, hstep, rfl, t₁, t₂, secret, hlive, hcode, ht.snoc⟩

theorem closeSession_ok {row : MfaSessionRow} {access refresh : String}
    (hphase : PhaseOk s requests h i (.issued row access refresh)) :
    AdvanceOk s requests h i now tb (closeSession row access refresh tb) where
  rows := fun _ hrow => Or.inl (List.mem_filter.mp hrow).1
  phase := by
    rcases hphase with ⟨⟨code, hbody⟩, -, t, hmem⟩
    refine ⟨⟨t, List.mem_append_left _ hmem⟩, ?_⟩
    intro sessionId code' hbody'
    rw [hbody] at hbody'
    cases hbody'
    exact ⟨now, List.mem_append_right _ List.mem_cons_self⟩
  facts := by
    intro fact hfact
    rw [List.mem_singleton.mp hfact]
    exact ⟨row, rfl, hphase.2.1.mono⟩
  stores := by
    intro row' hrow
    cases List.mem_singleton.mp hrow
  uses := by
    intro sessionId hused row' hrow
    cases List.mem_singleton.mp hused
    exact of_decide_eq_true (List.mem_filter.mp hrow).2

theorem startReset_ok {username password : String}
    (hbody : (requests i).body = .mfaResetRequest username password) :
    AdvanceOk s requests h i now tb (startReset s username password tb) := by
  unfold startReset
  split
  next => exact advanceOk_refuse (List.Subset.refl _)
  next u tenant hfound =>
    split_ifs with hpassword hactive hemail hdomain
    · exact advanceOk_refuse (List.Subset.refl _)
    · exact advanceOk_refuse (List.Subset.refl _)
    · exact advanceOk_refuse (List.Subset.refl _)
    · exact advanceOk_refuse (List.Subset.refl _)
    · refine advanceOk_fact rfl (List.Subset.refl _) ?_ trivial
      refine ⟨u, tenant, now, ?_, trivial, List.sublist_append_right _ _⟩
      exact presents_of_account hfound (by simpa using hpassword) (not_not.mp hactive)
        (by simpa using hemail) (by simpa using hdomain) (by rw [hbody]; rfl) rfl

theorem resetReply_ne_tokens (request : AuthRequest) (access refresh : String)
    (user : List (String × Json)) : resetReply s request ≠ .tokens access refresh user := by
  unfold resetReply
  split
  next => split_ifs <;> exact AuthReply.noConfusion
  next => split_ifs <;> exact AuthReply.noConfusion

theorem startConfirm_ok {token : String} {username password : Option String}
    (hrows : RowsOk s requests h tb)
    (hbody : (requests i).body = .mfaResetConfirm token username password) :
    AdvanceOk s requests h i now tb (startConfirm s token username password now tb) := by
  have hsub := loadAuthSession_subset token now tb
  unfold startConfirm
  dsimp only
  split
  next row hload =>
    rcases loadAuthSession_spec hload with ⟨hrow, hlive, hid, hstep⟩
    refine advanceOk_fact rfl hsub ?_ trivial
    exact ⟨hstep, Or.inl ⟨row, rfl, hid, ⟨now, hlive, (hrows row hrow).snoc⟩, username, password,
      hbody⟩⟩
  next =>
    split
    next username' password' _ husername hpassword =>
      refine advanceOk_silent hsub rfl ?_
      rw [(Option.filter_eq_some_iff.mp husername).1,
        (Option.filter_eq_some_iff.mp hpassword).1] at hbody
      exact hbody
    next => exact advanceOk_refuse hsub

theorem bypassReset_ok {token username password : String}
    (hphase : PhaseOk s requests h i (.bypassing token username password)) :
    AdvanceOk s requests h i now tb (bypassReset s token username password tb) := by
  have hbody : (requests i).body = .mfaResetConfirm token (some username) (some password) := hphase
  unfold bypassReset
  split
  next => exact advanceOk_refuse (List.Subset.refl _)
  next u tenant hfound =>
    split_ifs with hrefused
    · exact advanceOk_refuse (List.Subset.refl _)
    · simp only [not_or, Bool.not_eq_true, Bool.not_eq_false', ne_eq, not_not] at hrefused
      rcases hrefused with ⟨hpassword, hactive, hemail, hdomain⟩
      refine advanceOk_fact rfl (List.Subset.refl _) ?_ trivial
      refine ⟨rfl, Or.inr ⟨u, tenant, now, ?_, trivial, List.sublist_append_right _ _⟩⟩
      exact presents_of_account hfound hpassword hactive hemail hdomain (by rw [hbody]; rfl) rfl

theorem rotateSecret_ok {token : String} {c : SessionClaims}
    (hphase : PhaseOk s requests h i (.confirming token c)) :
    AdvanceOk s requests h i now tb (rotateSecret s (requests i) token c tb) := by
  unfold rotateSecret
  dsimp only
  split_ifs
  · refine advanceOk_fact rfl (List.Subset.refl _) trivial ?_
    rcases hphase with ⟨hstep, ⟨row, hclaims, rfl, ⟨t₁, hlive, ht⟩, hbody⟩ | htaken⟩
    · exact ⟨c, rfl, rfl, hstep, Or.inl ⟨row, t₁, hclaims, hlive, hbody, ht.snoc⟩⟩
    · exact ⟨c, rfl, rfl, hstep, Or.inr htaken.snoc⟩
  · exact advanceOk_refuse (List.Subset.refl _)

/-- Every transaction of a handler goes back to the history. -/
theorem advance_ok {quote : String → String} {phase : AuthPhase} (hrows : RowsOk s requests h tb)
    (hphase : PhaseOk s requests h i phase)
    (hnext : advance s quote (requests i) now tb phase = some next) :
    AdvanceOk s requests h i now tb next := by
  cases phase with
  | waiting =>
      rw [advance] at hnext
      split at hnext
      next hbody =>
        cases hnext
        exact startLogin_ok hbody
      next hbody =>
        cases hnext
        exact startVerify_ok hrows hbody
      next hbody =>
        cases hnext
        exact startReset_ok hbody
      next hbody =>
        cases hnext
        exact startConfirm_ok hrows hbody
  | granted c organization =>
      cases hnext
      exact grantTokens_ok hphase
  | challenged c =>
      cases hnext
      exact storeSession_ok hphase (fun _ _ _ => AuthReply.noConfusion)
  | loaded row code =>
      cases hnext
      exact checkCode_ok hphase
  | passed row =>
      cases hnext
      exact issueTokens_ok hphase
  | issued row access refresh =>
      cases hnext
      exact closeSession_ok hphase
  | resetting c =>
      cases hnext
      exact storeSession_ok hphase (resetReply_ne_tokens (requests i))
  | bypassing token username password =>
      cases hnext
      exact bypassReset_ok hphase
  | confirming token c =>
      cases hnext
      exact rotateSecret_ok hphase
  | rotated token c secret =>
      cases hnext
      exact advanceOk_answered (fun _ hrow => (List.mem_filter.mp hrow).1)
        (fun _ _ _ => AuthReply.noConfusion)
  | answered reply => cases hnext

end

/-! ## Every run -/

section

variable {ι : Type} [DecidableEq ι] {s : LoginSetting} {quote : String → String}
  {requests : ι → AuthRequest} {st st' : SignIns ι}

theorem signInStep_fail {i : ι} (hstep : signInStep s quote requests st (.fail i) = some st') :
    st' = { st with phase := Function.update st.phase i (.answered .failed) } := by
  unfold signInStep at hstep
  dsimp only at hstep
  split at hstep
  next => cases hstep
  next => exact (Option.some_inj.mp hstep).symm

/-- Every step keeps what sessions, handlers and facts go back to. -/
theorem signInStep_inv {a : SignInAction ι} (hinv : SignInInv s requests st)
    (hstep : signInStep s quote requests st a = some st') : SignInInv s requests st' := by
  cases a with
  | advance i now =>
      rcases Option.map_eq_some_iff.mp hstep with ⟨next, hnext, rfl⟩
      have hok := advance_ok hinv.rows (hinv.phases i) hnext
      refine ⟨?_, ?_, ?_⟩
      · intro row hrow
        rcases hok.rows row hrow with hold | ⟨-, -, ht⟩
        · exact (hinv.rows row hold).mono
        · exact ht
      · intro k
        dsimp only
        by_cases hk : k = i
        · subst hk
          rw [Function.update_self]
          exact hok.phase
        · rw [Function.update_of_ne hk]
          exact (hinv.phases k).mono
      · intro e he
        rcases List.mem_append.mp he with he | he
        · exact (hinv.facts e he).mono
        · rcases List.mem_map.mp he with ⟨fact, hfact, rfl⟩
          exact hok.facts fact hfact
  | fail i =>
      rw [signInStep_fail hstep]
      refine ⟨hinv.rows, ?_, hinv.facts⟩
      intro k
      dsimp only
      by_cases hk : k = i
      · subst hk
        rw [Function.update_self]
        trivial
      · rw [Function.update_of_ne hk]
        exact hinv.phases k
  | others users tenants registrations refreshTokens kept =>
      cases hstep
      exact ⟨fun row hrow => hinv.rows row (List.mem_filter.mp hrow).1, hinv.phases, hinv.facts⟩

theorem signInInv_of_run {tb : LoginTables} (hsessions : tb.mfaSessions = [])
    {as : List (SignInAction ι)}
    (hrun : run (signInStep s quote requests) (SignIns.start tb) as = some st) :
    SignInInv s requests st := by
  have hstart : SignInInv s requests (SignIns.start tb) := by
    refine ⟨?_, fun _ => trivial, ?_⟩
    · intro row hrow
      have hnone : row ∈ tb.mfaSessions := hrow
      rw [hsessions] at hnone
      cases hnone
    · intro e he
      cases he
  exact invariant_of_run (fun _ _ _ hinv _ hstep => signInStep_inv hinv hstep) hstart
    (@respects_of_forall _ _ _ (fun _ _ => True) (fun _ _ => trivial) _ _) hrun

/-- What is presented for a session of a login is presented to log in. -/
theorem login_of_presents {request : AuthRequest} {u : LoginUser} {tenant : LoginTenant}
    {c : SessionClaims} (hpresents : Presents s request u tenant c) (hstep : c.step = "otp") :
    ∃ username password, request.body = .login username password ∧
      s.lower u.email = s.lower username ∧
      verifyPassword s.passwords password u.passwordHash = true := by
  rcases hpresents.taken with ⟨username, password, hbody, haddress, hpassword⟩
  rw [hstep] at hbody
  refine ⟨username, password, ?_, haddress, hpassword⟩
  unfold AuthBody.credentials at hbody
  split at hbody
  next =>
    cases hbody
    assumption
  next => simp at hbody
  next => simp at hbody
  next => cases hbody

end

/-- In every run that starts without sessions, tokens are issued to a user who is active and
verified and whose password was taken before, with the claims of the user's row at that time:
without a second factor in the same request, and else for a session of this login that had not
expired when it was loaded and against a code that was taken for a secret of this user. -/
theorem tokens_traced {ι : Type} [DecidableEq ι] {s : LoginSetting} {quote : String → String}
    {requests : ι → AuthRequest} {tb : LoginTables} {as : List (SignInAction ι)} {st : SignIns ι}
    (hsessions : tb.mfaSessions = [])
    (hrun : run (signInStep s quote requests) (SignIns.start tb) as = some st) {i : ι}
    {access refresh : String} {user : List (String × Json)}
    (hanswered : st.phase i = .answered (.tokens access refresh user)) :
    ∃ (j : ι) (u : LoginUser) (tenant : LoginTenant) (username password : String) (t t₃ : Int),
      (requests j).body = .login username password ∧ s.lower u.email = s.lower username ∧
      verifyPassword s.passwords password u.passwordHash = true ∧ u.status = "active" ∧
      u.emailVerified = true ∧ tenant.domainVerified = true ∧
      access = createJwt s.signing ((sessionOf u tenant "otp").access t₃) ∧
      ((j = i ∧ (u.mfaEnabled = false ∨ s.disableMfaForTesting = true) ∧
          [⟨i, t, .passwordTaken u⟩, ⟨i, t₃, .tokensIssued access⟩].Sublist st.history) ∨
        ∃ (row : MfaSessionRow) (code secret : String) (t₀ t₁ t₂ : Int),
          (requests i).body = .verifyOtp (requests j).uuid code ∧
          t₁ < t₀ + s.sessionTtlSeconds * 1000000 ∧
          verifyTotpToken s.codes secret code t₂ = true ∧
          [⟨j, t, .passwordTaken u⟩, ⟨j, t₀, .sessionStored row⟩, ⟨i, t₁, .sessionLoaded row⟩,
            ⟨i, t₂, .codeTaken u.id u.tenantId secret⟩,
            ⟨i, t₃, .tokensIssued access⟩].Sublist st.history) := by
  have hinv := signInInv_of_run hsessions hrun
  have hphase := hinv.phases i
  rw [hanswered] at hphase
  rcases hphase with ⟨⟨t₃, hmem⟩, -⟩
  rcases hinv.facts _ hmem with ⟨c, hstep, haccess, u, tenant, t, hpresents, hfactor, hsub⟩ |
    ⟨row, code, hbody, hstep, haccess, t₁, t₂, secret, hlive, hcode, j, u, tenant, t, t₀, hpresents,
      hid, hexpires, hsub⟩
  · rcases login_of_presents hpresents hstep with ⟨username, password, hlogin, haddress, hpassword⟩
    have hclaims := hpresents.claims
    rw [hstep] at hclaims
    refine ⟨i, u, tenant, username, password, t, t₃, hlogin, haddress, hpassword,
      hpresents.active, hpresents.emailVerified, hpresents.domainVerified, ?_,
      Or.inl ⟨rfl, hfactor, hsub⟩⟩
    rw [← hclaims]
    exact haccess
  · rcases login_of_presents hpresents hstep with ⟨username, password, hlogin, haddress, hpassword⟩
    have hclaims := hpresents.claims
    rw [hstep] at hclaims
    have huser : row.userId = u.id := congrArg SessionClaims.userId hclaims
    have htenant : row.tenantId = u.tenantId := congrArg SessionClaims.tenantId hclaims
    rw [huser, htenant] at hsub
    rw [hid] at hbody
    rw [hexpires] at hlive
    refine ⟨j, u, tenant, username, password, t, t₃, hlogin, haddress, hpassword,
      hpresents.active, hpresents.emailVerified, hpresents.domainVerified, ?_,
      Or.inr ⟨row, code, secret, t₀, t₁, t₂, hbody, hlive, hcode, hsub⟩⟩
    rw [← hclaims]
    exact haccess

/-- A user with a second factor. -/
def exampleTables : LoginTables where
  users := [⟨1, 1, "a", "pbkdf2_sha256$600000$YQ==$c2VjcmV0", "Owner", "*", true, true, some "me",
    "active"⟩]
  tenants := [⟨1, "b", none, "a", true, none, none, none⟩]
  registrations := []
  mfaSessions := []
  refreshTokens := []

/-- A setting whose codes are zeros and whose passwords are kept as they are. -/
def exampleSetting : LoginSetting where
  codes := zeroCodes
  passwords := plainPasswords
  signing := ⟨fun _ => "", fun _ => none, fun _ => [], id, fun _ => none, false⟩
  lower := id
  choice := .first
  sessionTtlSeconds := 300
  disableMfaForTesting := false
  skipEmailDeliveryForTesting := false
  softFailEmailDeliveryForLocal := false

/-- A login, a code for its session, the code once more, and a new secret. -/
def exampleRequests (i : Fin 5) : AuthRequest where
  body := match i with
    | 0 => .login "a" "secret"
    | 1 => .verifyOtp "0" "000000"
    | 2 => .verifyOtp "0" "000000"
    | 3 => .mfaResetRequest "a" "secret"
    | 4 => .mfaResetConfirm "3" none none
  uuid := toString i.val
  jti := toString i.val
  secretBytes := []
  emailRefusal := none

/-- Where the steps lead. -/
def exampleSignIns (steps : List (SignInAction (Fin 5))) : SignIns (Fin 5) :=
  (run (signInStep exampleSetting id exampleRequests) (SignIns.start exampleTables) steps).getD
    (SignIns.start exampleTables)

/-- The login, and the first code. -/
def exchangeSteps : List (SignInAction (Fin 5)) :=
  [.advance 0 30000000, .advance 0 30000001, .advance 1 30000002, .advance 1 30000003,
    .advance 1 30000004, .advance 1 30000005]

/-- The new secret. -/
def rotationSteps : List (SignInAction (Fin 5)) :=
  [.advance 3 30000000, .advance 3 30000001, .advance 4 30000002, .advance 4 30000003]

theorem tokens_traced_example : ∃ (j : Fin 5) (u : LoginUser) (username password : String),
    (exampleRequests j).body = .login username password ∧
      verifyPassword plainPasswords password u.passwordHash = true := by
  rcases @tokens_traced (Fin 5) _ exampleSetting id exampleRequests exampleTables exchangeSteps
    (exampleSignIns exchangeSteps) rfl rfl 1 _ _ _ rfl with
    ⟨j, u, -, username, password, -, -, hbody, -, hpassword, -⟩
  exact ⟨j, u, username, password, hbody, hpassword⟩

section

variable {ι : Type} [DecidableEq ι] {s : LoginSetting} {quote : String → String}
  {requests : ι → AuthRequest} {st st' : SignIns ι}

/-- A session was exchanged for tokens. -/
def Used (st : SignIns ι) (sessionId : String) : Prop :=
  ∃ e ∈ st.history, e.fact = .sessionUsed sessionId

/-- What holds, too, where no two requests draw the same identifier: a request that stored a
session has ended, and no session is there after its use. -/
structure UsedInv (s : LoginSetting) (requests : ι → AuthRequest) (st : SignIns ι) : Prop extends
    SignInInv s requests st where
  stored : ∀ e ∈ st.history, ∀ row, e.fact = .sessionStored row →
    ∃ reply, st.phase e.request = .answered reply
  used : ∀ sessionId, Used st sessionId →
    ∀ row ∈ st.tables.mfaSessions, row.sessionId ≠ sessionId

/-- A handler that has ended takes no step. -/
theorem not_answered_of_advance {request : AuthRequest} {now : Int} {tb : LoginTables}
    {phase : AuthPhase} {next : Advance} {reply : AuthReply}
    (hnext : advance s quote request now tb phase = some next) : phase ≠ .answered reply := by
  rintro rfl
  cases hnext

omit [DecidableEq ι] in
/-- A session that was used was stored by the request that drew its identifier. -/
theorem storer_of_used {sessionId : String} (hinv : SignInInv s requests st)
    (hused : Used st sessionId) : ∃ j, (requests j).uuid = sessionId ∧
      ∃ e ∈ st.history, e.request = j ∧ ∃ row, e.fact = .sessionStored row := by
  rcases hused with ⟨e, he, hfact⟩
  have hok := hinv.facts e he
  unfold FactOk at hok
  rw [hfact] at hok
  rcases hok with ⟨row, hid, j, u, tenant, t, t₀, -, hdrawn, -, hsub⟩
  refine ⟨j, hdrawn.symm.trans hid, ⟨j, t₀, .sessionStored row⟩, ?_, rfl, row, rfl⟩
  exact hsub.subset (List.mem_cons_of_mem _ List.mem_cons_self)

/-- Every step keeps used sessions away. -/
theorem signInStep_usedInv (huuids : Function.Injective (fun i => (requests i).uuid))
    {a : SignInAction ι} (hinv : UsedInv s requests st)
    (hstep : signInStep s quote requests st a = some st') : UsedInv s requests st' := by
  have hlogin := signInStep_inv hinv.toSignInInv hstep
  cases a with
  | advance i now =>
      rcases Option.map_eq_some_iff.mp hstep with ⟨next, hnext, rfl⟩
      have hok := advance_ok hinv.rows (hinv.phases i) hnext
      -- A request that stored a session before has ended, and is not this one.
      have hother : ∀ e ∈ st.history, ∀ row, e.fact = .sessionStored row → e.request ≠ i := by
        rintro e he row hfact rfl
        rcases hinv.stored e he row hfact with ⟨reply, hreply⟩
        exact not_answered_of_advance hnext hreply
      refine ⟨hlogin, ?_, ?_⟩
      · intro e he row hfact
        dsimp only
        rcases List.mem_append.mp he with he | he
        · rw [Function.update_of_ne (hother e he row hfact)]
          exact hinv.stored e he row hfact
        · rcases List.mem_map.mp he with ⟨fact, hmem, rfl⟩
          cases hfact
          rw [Function.update_self]
          exact hok.stores row hmem
      · rintro sessionId ⟨e, he, hfact⟩ row hrow
        rcases List.mem_append.mp he with he | he
        · rcases hok.rows row hrow with hold | ⟨hid, -, -⟩
          · exact hinv.used sessionId ⟨e, he, hfact⟩ row hold
          · intro hsame
            rcases storer_of_used hinv.toSignInInv ⟨e, he, hfact⟩ with
              ⟨j, hj, e', he', rfl, row', hstored⟩
            exact hother e' he' row' hstored (huuids (hj.trans (hsame.symm.trans hid)))
        · rcases List.mem_map.mp he with ⟨fact, hmem, rfl⟩
          cases hfact
          exact hok.uses sessionId hmem row hrow
  | fail i =>
      cases signInStep_fail hstep
      refine ⟨hlogin, ?_, hinv.used⟩
      intro e he row hfact
      dsimp only
      by_cases hsame : e.request = i
      · rw [hsame, Function.update_self]
        exact ⟨_, rfl⟩
      · rw [Function.update_of_ne hsame]
        exact hinv.stored e he row hfact
  | others users tenants registrations refreshTokens kept =>
      cases hstep
      exact ⟨hlogin, hinv.stored,
        fun sessionId hused row hrow => hinv.used sessionId hused row (List.mem_filter.mp hrow).1⟩

theorem usedInv_of_run (huuids : Function.Injective (fun i => (requests i).uuid))
    {tb : LoginTables} (hsessions : tb.mfaSessions = []) {as : List (SignInAction ι)}
    (hrun : run (signInStep s quote requests) (SignIns.start tb) as = some st) :
    UsedInv s requests st := by
  have hstart : UsedInv s requests (SignIns.start tb) := by
    refine ⟨@signInInv_of_run _ _ _ quote _ _ _ hsessions [] rfl, ?_, ?_⟩
    · intro e he
      cases he
    · rintro sessionId ⟨e, he, -⟩
      cases he
  exact invariant_of_run (fun _ _ _ hinv _ hstep => signInStep_usedInv huuids hinv hstep) hstart
    (@respects_of_forall _ _ _ (fun _ _ => True) (fun _ _ => trivial) _ _) hrun

/-- The handler waits, or has refused or failed. -/
def TurnedAway (phase : AuthPhase) : Prop :=
  phase = .waiting ∨ phase = .answered (.refused 400 "Invalid or expired session.") ∨
    phase = .answered .failed

/-- A step keeps a request for a session that was used turned away. -/
theorem turnedAway_step {sessionId code : String} {k : ι}
    (hbody : (requests k).body = .verifyOtp sessionId code) {a : SignInAction ι}
    (hgone : ∀ row ∈ st.tables.mfaSessions, row.sessionId ≠ sessionId)
    (haway : TurnedAway (st.phase k)) (hstep : signInStep s quote requests st a = some st') :
    TurnedAway (st'.phase k) := by
  cases a with
  | advance i now =>
      rcases Option.map_eq_some_iff.mp hstep with ⟨next, hnext, rfl⟩
      dsimp only
      by_cases hk : k = i
      · subst hk
        rw [Function.update_self]
        rcases haway with hwaiting | hended | hended
        · rw [hwaiting, advance, hbody] at hnext
          cases hnext
          have hnone : (loadAuthSession sessionId now st.tables).1 = none := by
            unfold loadAuthSession
            rw [List.find?_eq_none]
            intro row hrow
            simpa using hgone row (List.mem_filter.mp hrow).1
          unfold startVerify
          dsimp only
          rw [hnone]
          exact Or.inr (Or.inl rfl)
        · exact absurd hended (not_answered_of_advance hnext)
        · exact absurd hended (not_answered_of_advance hnext)
      · rw [Function.update_of_ne hk]
        exact haway
  | fail i =>
      cases signInStep_fail hstep
      dsimp only
      by_cases hk : k = i
      · subst hk
        rw [Function.update_self]
        exact Or.inr (Or.inr rfl)
      · rw [Function.update_of_ne hk]
        exact haway
  | others users tenants registrations refreshTokens kept =>
      cases hstep
      exact haway

/-- A session that was used stays so. -/
theorem used_step {sessionId : String} {a : SignInAction ι} (hused : Used st sessionId)
    (hstep : signInStep s quote requests st a = some st') : Used st' sessionId := by
  rcases hused with ⟨e, he, hfact⟩
  cases a with
  | advance i now =>
      rcases Option.map_eq_some_iff.mp hstep with ⟨next, hnext, rfl⟩
      exact ⟨e, List.mem_append_left _ he, hfact⟩
  | fail i =>
      cases signInStep_fail hstep
      exact ⟨e, he, hfact⟩
  | others users tenants registrations refreshTokens kept =>
      cases hstep
      exact ⟨e, he, hfact⟩

end

/-- In every run that starts without sessions, where no two requests draw the same identifier, a
request that has not loaded its session when tokens are answered for this session is refused
or fails, whatever its code is. -/
theorem session_used_up {ι : Type} [DecidableEq ι] {s : LoginSetting} {quote : String → String}
    {requests : ι → AuthRequest} {tb : LoginTables} {as bs : List (SignInAction ι)}
    {st st' : SignIns ι} (huuids : Function.Injective (fun i => (requests i).uuid))
    (hsessions : tb.mfaSessions = [])
    (hrun : run (signInStep s quote requests) (SignIns.start tb) as = some st) {i k : ι}
    {sessionId code code' access refresh : String} {user : List (String × Json)}
    (hi : (requests i).body = .verifyOtp sessionId code)
    (hanswered : st.phase i = .answered (.tokens access refresh user))
    (hk : (requests k).body = .verifyOtp sessionId code') (hwaiting : st.phase k = .waiting)
    (hrest : run (signInStep s quote requests) st bs = some st') :
    st'.phase k = .waiting ∨
      st'.phase k = .answered (.refused 400 "Invalid or expired session.") ∨
      st'.phase k = .answered .failed := by
  have hinv := usedInv_of_run huuids hsessions hrun
  have hused : Used st sessionId := by
    have hphase := hinv.phases i
    rw [hanswered] at hphase
    rcases hphase.2 sessionId code hi with ⟨t, hmem⟩
    exact ⟨_, hmem, rfl⟩
  have hkept : ∀ st a st', (UsedInv s requests st ∧ Used st sessionId ∧ TurnedAway (st.phase k)) →
      True → signInStep s quote requests st a = some st' →
      UsedInv s requests st' ∧ Used st' sessionId ∧ TurnedAway (st'.phase k) := by
    rintro st a st' ⟨hinv, hused, haway⟩ - hstep
    exact ⟨signInStep_usedInv huuids hinv hstep, used_step hused hstep,
      turnedAway_step hk (hinv.used sessionId hused) haway hstep⟩
  exact (invariant_of_run hkept ⟨hinv, hused, Or.inl hwaiting⟩
    (@respects_of_forall _ _ _ (fun _ _ => True) (fun _ _ => trivial) _ _) hrest).2.2

theorem session_used_up_example :
    (exampleSignIns (exchangeSteps ++ [.advance 2 30000006])).phase 2 = .waiting ∨
      (exampleSignIns (exchangeSteps ++ [.advance 2 30000006])).phase 2 =
        .answered (.refused 400 "Invalid or expired session.") ∨
      (exampleSignIns (exchangeSteps ++ [.advance 2 30000006])).phase 2 = .answered .failed :=
  @session_used_up (Fin 5) _ exampleSetting id exampleRequests exampleTables exchangeSteps
    [.advance 2 30000006] (exampleSignIns exchangeSteps) _ (by decide) rfl rfl 1 2 "0" "000000"
    "000000" _ _ _ rfl rfl rfl rfl rfl

end AuthClaw.Identity
