import AuthClaw.Identity.Oidc
import AuthClaw.Library.Base64
import Mathlib.Data.List.Basic

/-!
# Sessions

A session is an access token and a refresh token, both signed texts of their claims.  The
refresh token is also a row, which {lit}`/auth/refresh` looks up and which a logout or a
password reset revokes.

Main results:

- Theorem {lit}`decodeJwt_createJwt`: a signed token is read back until it expires.
- Theorem {lit}`completeOidcLoginResponse_cases`: what a callback does.
-/

namespace AuthClaw.Identity

open PythonText Rows
open Events (columnText)

/-! ## Signed tokens -/

/-- What tokens are made with: JSON texts, the keyed hash, the plain hash, `int`, and whether
`AUTHCLAW_ENV` names a production environment. -/
structure Signing where
  dumps : List (String × Json) → String
  /-- `json.loads(payload_bytes.decode('utf-8'))`. -/
  loads : List UInt8 → Option Json
  hmac : String → List UInt8
  sha256 : String → String
  intOf : Json → Option Int
  production : Bool

/-- `text.encode('utf-8')`. -/
def utf8 (text : String) : List UInt8 :=
  text.toUTF8.data.toList

/-- `base64_url_encode`. -/
def base64UrlEncode (bytes : List UInt8) : List Char :=
  Base64.encodeUnpadded bytes

/-- `base64_url_decode`: a whole number of quads is padded, too. -/
def base64UrlDecode (text : List Char) : Option (List UInt8) :=
  if text.all (fun c => c.toNat < 128) then
    Base64.urlsafeDecode (text ++ List.replicate (4 - text.length % 4) '=')
  else none

/-- `json.dumps(header)`. -/
def jwtHeader : String :=
  "\x7b\"alg\": \"HS256\", \"typ\": \"JWT\"\x7d"

/-- `int(time.time())`. -/
def seconds (now : Int) : Int :=
  now / 1000000

section

variable (s : Signing)

/-- The signature of two encoded parts. -/
def jwtSignature (header payload : List Char) : List Char :=
  base64UrlEncode (s.hmac (String.ofList (header ++ '.' :: payload)))

/-- `create_jwt`. -/
def createJwt (payload : List (String × Json)) : String :=
  let header := base64UrlEncode (utf8 jwtHeader)
  let body := base64UrlEncode (utf8 (s.dumps payload))
  String.ofList (header ++ '.' :: (body ++ '.' :: jwtSignature s header body))

/-- `decode_jwt`. -/
def decodeJwt (now : Int) (token : String) : Option (List (String × Json)) :=
  match token.toList.splitOn '.' with
  | [header, body, signature] =>
      if signature = jwtSignature s header body then
        match (base64UrlDecode body).bind s.loads with
        | some (.obj payload) =>
            match orElseJson (getKey payload "exp") none with
            | some exp =>
                match s.intOf exp with
                | some exp => if exp < seconds now then none else some payload
                | none => none
            | none => if s.production then none else some payload
        | _ => none
      else none
  | _ => none

end

section

variable {s : Signing}

/-- Only digits are written. -/
theorem not_mem_base64 {c : Char} (hc : ∀ n : Fin 64, Base64.digit n ≠ c) (bytes : List UInt8) :
    c ∉ base64UrlEncode bytes := by
  intro hmem
  unfold base64UrlEncode Base64.encodeUnpadded at hmem
  rw [Base64.stripPadding_urlsafeEncode] at hmem
  rcases Base64.digit_of_mem_encode hmem with ⟨n, hn, rfl⟩
  exact hc ⟨n, hn⟩ rfl

theorem dot_not_mem_base64 (bytes : List UInt8) : '.' ∉ base64UrlEncode bytes :=
  not_mem_base64 (by decide) bytes

/-- A signed text has no blank and is not empty. -/
theorem createJwt_blank (payload : List (String × Json)) :
    ' ' ∉ (createJwt s payload).toList ∧ createJwt s payload ≠ "" := by
  have hblank : ∀ bytes, ' ' ∉ base64UrlEncode bytes := not_mem_base64 (by decide)
  unfold createJwt
  constructor
  · rw [String.toList_ofList]
    simp only [List.mem_append, List.mem_cons, not_or]
    exact ⟨hblank _, by decide, hblank _, by decide, hblank _⟩
  · intro hempty
    have hchars := congrArg String.toList hempty
    rw [String.toList_ofList] at hchars
    simp at hchars

/-- Encoded bytes are read back. -/
theorem base64UrlDecode_encode (bytes : List UInt8) :
    base64UrlDecode (base64UrlEncode bytes) = some bytes := by
  unfold base64UrlDecode base64UrlEncode Base64.encodeUnpadded
  rw [Base64.stripPadding_urlsafeEncode, if_pos]
  · exact Base64.a2b_encode_replicate bytes (Nat.mod_le _ _)
  · rw [List.all_eq_true]
    intro c hc
    exact decide_eq_true (Base64.mem_encode hc).2

/-- A token with that expiry has expired; one that expires at no time is not taken in
production. -/
def expiredAt (s : Signing) (now exp : Int) : Bool :=
  if exp = 0 then s.production else exp < seconds now

/-- A signed token splits into its parts. -/
theorem splitOn_createJwt (payload : List (String × Json)) :
    (createJwt s payload).toList.splitOn '.' =
      [base64UrlEncode (utf8 jwtHeader), base64UrlEncode (utf8 (s.dumps payload)),
        jwtSignature s (base64UrlEncode (utf8 jwtHeader))
          (base64UrlEncode (utf8 (s.dumps payload)))] := by
  have hsplit : ∀ header body signature : List Char, '.' ∉ header → '.' ∉ body →
      '.' ∉ signature → (header ++ '.' :: (body ++ '.' :: signature)).splitOn '.' =
        [header, body, signature] := by
    intro header body signature hheader hbody hsignature
    have hparts : ∀ part ∈ [header, body, signature], '.' ∉ part := by
      intro part hpart
      simp only [List.mem_cons, List.not_mem_nil, or_false] at hpart
      rcases hpart with rfl | rfl | rfl
      · exact hheader
      · exact hbody
      · exact hsignature
    simpa [List.intercalate] using List.splitOn_intercalate '.' hparts (by simp)
  unfold createJwt
  rw [String.toList_ofList]
  exact hsplit _ _ _ (dot_not_mem_base64 _) (dot_not_mem_base64 _) (dot_not_mem_base64 _)

/-- A signed token is read back until it expires. -/
theorem decodeJwt_createJwt {payload : List (String × Json)} {exp : Int}
    (hloads : s.loads (utf8 (s.dumps payload)) = some (.obj payload))
    (hexp : getKey payload "exp" = some (.int exp)) (hint : s.intOf (.int exp) = some exp)
    (now : Int) :
    decodeJwt s now (createJwt s payload) =
      if expiredAt s now exp then none else some payload := by
  unfold decodeJwt
  rw [splitOn_createJwt]
  simp only [if_true, base64UrlDecode_encode, Option.bind_some, hloads, hexp]
  unfold expiredAt
  by_cases hzero : exp = 0
  · have hnever : orElseJson (some (Json.int exp)) none = none := by
      rw [hzero]
      rfl
    rw [hnever, if_pos hzero]
  · have hset : orElseJson (some (Json.int exp)) none = some (.int exp) := by
      simp [orElseJson, Json.truthy, hzero]
    rw [hset, if_neg hzero]
    simp only [hint, decide_eq_true_eq]

end

/-! ## Refresh tokens -/

/-- The claims of a refresh token. -/
def refreshPayload (userId tenantId : Int) (subject jti : String) (now : Int) :
    List (String × Json) :=
  [("sub", .str subject), ("tenant_id", .int tenantId), ("user_id", .int userId),
    ("jti", .str jti), ("iat", .int (seconds now)), ("exp", .int (seconds now + 86400))]

/-- `create_refresh_token_for_user`, with the tables after it. -/
def createRefreshTokenForUser (s : Signing) (userId tenantId : Int) (subject jti : String)
    (now : Int) (db : Database) : Except IdentityError (String × Database) :=
  match columnText 255 subject with
  | none => .error .database
  | some stored =>
      if db.refreshTokens.any (fun r => r.jti = jti) then .error .database
      else .ok (createJwt s (refreshPayload userId tenantId subject jti now),
        { db with refreshTokens := db.refreshTokens ++ [{
          jti := jti
          tenantId := tenantId
          userId := userId
          subject := stored
          expiresAt := now + 86400000000
          revokedAt := none }] })

/-- A refresh token is the signed text of its claims, and a new row. -/
theorem createRefreshToken_eq_ok {s : Signing} {userId tenantId now : Int}
    {subject jti token : String} {db db' : Database}
    (h : createRefreshTokenForUser s userId tenantId subject jti now db = .ok (token, db')) :
    token = createJwt s (refreshPayload userId tenantId subject jti now) ∧
      (∀ r ∈ db.refreshTokens, r.jti ≠ jti) ∧
      ∃ row : RefreshRow, row.jti = jti ∧
        db' = { db with refreshTokens := db.refreshTokens ++ [row] } := by
  unfold createRefreshTokenForUser at h
  split at h
  next => cases h
  next =>
    split_ifs at h with hused
    cases h
    refine ⟨rfl, ?_, _, rfl, rfl⟩
    intro r hr hjti
    exact hused (List.any_eq_true.mpr ⟨r, hr, decide_eq_true hjti⟩)

/-- The row of a refresh token that is neither revoked nor expired. -/
def liveRefresh (jti : String) (userId tenantId now : Int) (r : RefreshRow) : Bool :=
  r.jti = jti ∧ r.userId = userId ∧ r.tenantId = tenantId ∧ r.revokedAt = none ∧ now < r.expiresAt

/-- `validate_refresh_token_record`. -/
def validateRefreshTokenRecord (now : Int) (payload : List (String × Json)) (db : Database) :
    Except IdentityError (Option UserRow) :=
  match orElseJson (getKey payload "jti") none, orElseJson (getKey payload "user_id") none,
      orElseJson (getKey payload "tenant_id") none with
  | some (.str jti), some (.int userId), some (.int tenantId) =>
      if db.refreshTokens.any (liveRefresh jti userId tenantId now) then
        .ok (db.users.find? (fun u => u.id = userId ∧ u.status = "active"))
      else .ok none
  | some _, some _, some _ => .error .database
  | _, _, _ => .ok none

/-- The claims of an access token of fifteen minutes. -/
def accessPayload (u : UserRow) (now : Int) : List (String × Json) :=
  [("sub", .str u.email), ("role", .str u.role), ("permissions", .str u.permissions),
    ("tenant_id", .int u.tenantId), ("user_id", .int u.id), ("iat", .int (seconds now)),
    ("exp", .int (seconds now + 900))]

/-- `auth_refresh`, of a token that is decoded: the claims of the access token. -/
def authRefresh (now : Int) (payload : Option (List (String × Json))) (db : Database) :
    Except IdentityError (List (String × Json)) :=
  match payload with
  | none => .error (.http 401 "Invalid refresh token.")
  | some [] => .error (.http 401 "Invalid refresh token.")
  | some payload =>
      match validateRefreshTokenRecord now payload db with
      | .error e => .error e
      | .ok none => .error (.http 401 "User no longer exists.")
      | .ok (some u) =>
          if u.emailVerified then .ok (accessPayload u now)
          else .error (.http 401 "User email is no longer verified.")

/-- A refreshed access token has the claims of a user row. -/
theorem authRefresh_eq_ok {now : Int} {payload : Option (List (String × Json))} {db : Database}
    {access : List (String × Json)} (h : authRefresh now payload db = .ok access) :
    ∃ u ∈ db.users, access = accessPayload u now := by
  unfold authRefresh at h
  split at h
  next => cases h
  next => cases h
  next claims _ _ =>
    split at h
    next => cases h
    next => cases h
    next u hvalid =>
      split_ifs at h
      cases h
      refine ⟨u, ?_, rfl⟩
      unfold validateRefreshTokenRecord at hvalid
      split at hvalid
      next =>
        split_ifs at hvalid
        · exact List.mem_of_find?_eq_some (Except.ok.inj hvalid)
        · cases hvalid
      next => cases hvalid
      next => cases hvalid

/-- `revoke_authclaw_refresh_token`, of a token that is decoded: whether a row was revoked,
and the tables after it. -/
def revokeRefreshToken (now : Int) (payload : Option (List (String × Json))) (db : Database) :
    Except IdentityError (Bool × Database) :=
  match payload with
  | none => .ok (false, db)
  | some payload =>
      match orElseJson (getKey payload "jti") none,
          orElseJson (getKey payload "tenant_id") none with
      | some (.str jti), some (.int tenantId) =>
          let matching : RefreshRow → Bool :=
            fun r => r.jti = jti ∧ r.tenantId = tenantId ∧ r.revokedAt = none
          .ok (db.refreshTokens.any matching, { db with
            refreshTokens :=
              updateWhere matching (fun r => { r with revokedAt := some now }) db.refreshTokens })
      | some _, some _ => .error .database
      | _, _ => .ok (false, db)

/-! ## Password resets -/

/-- `auth_password_reset_request`, up to its commit: the row of a new token, which is open for
thirty minutes, in place of those the user has not used. -/
def authPasswordResetRequest (t : Setting) (domainVerified : Int → Bool)
    (choice : Choice UserRow) (username tokenHash : String) (now : Int) (db : Database) :
    Except IdentityError Database :=
  let email := t.py.lower (t.py.strip username)
  if email = "" then .error (.http 400 "Email is required.")
  else if hasNul email then .error .database
  else
    match choice.fetch (fun u => t.lower u.email = t.lower email) db.users with
    | none => .ok db
    | some u =>
        if u.status ≠ "active" then .error (.http 403 "User account is not active.")
        else if !u.emailVerified then
          .error (.http 400 "Email must be verified before password reset.")
        else if !domainVerified u.tenantId then
          .error (.http 400 "Domain must be verified before password reset.")
        else
          let kept := db.resetTokens.filter (fun r => !(r.userId = u.id ∧ r.usedAt = none))
          if kept.any (fun r => r.tokenHash = tokenHash) then .error .database
          else .ok { db with resetTokens := kept ++ [{
            tokenHash := tokenHash
            tenantId := u.tenantId
            userId := u.id
            email := u.email
            expiresAt := now + 1800000000
            usedAt := none }] }

/-- The row a reset token opens, and the email of its user. -/
def selectReset (tokenHash : String) (now : Int) (db : Database) : Option (ResetRow × String) :=
  match db.resetTokens.find? (fun r => r.tokenHash = tokenHash ∧ r.usedAt = none ∧
      now < r.expiresAt) with
  | none => none
  | some r =>
      (db.users.find? (fun u => u.id = r.userId ∧ u.tenantId = r.tenantId ∧
        u.status = "active")).map (fun u => (r, u.email))

/-- `UPDATE tenant_users SET password_hash`. -/
def updatePassword (r : ResetRow) (passwordHash : String) (db : Database) : Database :=
  { db with
    users := updateWhere (fun u => u.id = r.userId ∧ u.tenantId = r.tenantId)
      (fun u => { u with passwordHash := passwordHash }) db.users }

/-- `UPDATE auth_password_reset_tokens SET used_at`. -/
def markResetUsed (tokenHash : String) (now : Int) (db : Database) : Database :=
  { db with
    resetTokens := updateWhere (fun r => r.tokenHash = tokenHash)
      (fun r => { r with usedAt := some now }) db.resetTokens }

/-- `UPDATE auth_refresh_tokens SET revoked_at` of a user. -/
def revokeRefreshTokens (r : ResetRow) (now : Int) (db : Database) : Database :=
  { db with
    refreshTokens :=
      updateWhere (fun q => q.userId = r.userId ∧ q.tenantId = r.tenantId ∧ q.revokedAt = none)
        (fun q => { q with revokedAt := some now }) db.refreshTokens }

/-- `auth_password_reset_confirm`, of the hash of a token and of a password. -/
def authPasswordResetConfirm (tokenHash password passwordHash : String) (now : Int)
    (db : Database) : Except IdentityError (String × Database) :=
  if password.length < 8 then
    .error (.http 400 "Password must be at least 8 characters.")
  else
    match selectReset tokenHash now db with
    | none => .error (.http 400 "Invalid or expired password reset token.")
    | some (r, email) =>
        .ok (email,
          revokeRefreshTokens r now
            (markResetUsed tokenHash now (updatePassword r passwordHash db)))

/-! ## Callbacks -/

/-- Where a callback stops after its state is loaded. -/
inductive CallbackStop where
  | exchange
  | providerSession
  | marking
  | refreshToken
deriving DecidableEq

/-- A callback: the hash of its state, the claims and the user information of its code, where
it stops if it does, and what it draws. -/
structure Callback where
  stateHash : String
  now : Int
  claims : List (String × Json)
  userinfo : List (String × Json)
  stop : Option CallbackStop
  draws : UserDraws
  jti : String

/-- The claims of the access token of a callback. -/
def oidcPayload (p : Profile) (now : Int) : List (String × Json) :=
  [("sub", .str p.email), ("email", .str p.email), ("tenant_id", .int p.tenantId),
    ("user_id", .int p.userId), ("role", p.role), ("permissions", .str p.permissions),
    ("auth_source", .str "oidc"), ("iat", .int (seconds now)),
    ("exp", .int (seconds now + 3600))]

/-- `complete_oidc_callback`, with the tables when it ends: what is written before it stops
stays. -/
def completeOidcCallback (t : Setting) (c : Callback) (db : Database) :
    Except IdentityError Profile × Database :=
  match loadState c.stateHash c.now db.loginStates with
  | .error e => (.error e, db)
  | .ok state =>
      match getProviderConfig state.tenantId state.providerId db.providers with
      | .error e => (.error e, db)
      | .ok provider =>
          if c.stop = some .exchange then (.error (.python .other), db)
          else
            match upsertOidcUser t provider c.claims c.userinfo c.draws db.users with
            | .error e => (.error e, db)
            | .ok (profile, users) =>
                let db := { db with users := users }
                if c.stop = some .providerSession ∨ c.stop = some .marking then
                  (.error .database, db)
                else (.ok profile, { db with
                  loginStates := markStateUsed state.stateHash c.now db.loginStates })

/-- `_complete_oidc_login_response`: the claims of the access token, the refresh token and
the tables. -/
def completeOidcLoginResponse (t : Setting) (s : Signing) (c : Callback) (db : Database) :
    Except IdentityError (List (String × Json) × String) × Database :=
  match completeOidcCallback t c db with
  | (.error (.enterprise message), db) => (.error (.http 401 message), db)
  | (.error e, db) => (.error e, db)
  | (.ok profile, db) =>
      if c.stop = some .refreshToken then (.error .database, db)
      else
        match createRefreshTokenForUser s profile.userId profile.tenantId profile.email c.jti
            c.now db with
        | .error e => (.error e, db)
        | .ok (token, db) => (.ok (oidcPayload profile c.now, token), db)

/-- A callback gets as far as its user row. -/
structure Provisions (t : Setting) (c : Callback) (db : Database) (provider : ProviderRow)
    (profile : Profile) (users : List UserRow) : Prop where
  opened : ∃ state, loadState c.stateHash c.now db.loginStates = .ok state ∧
    getProviderConfig state.tenantId state.providerId db.providers = .ok provider
  exchanged : c.stop ≠ some .exchange
  stored : upsertOidcUser t provider c.claims c.userinfo c.draws db.users = .ok (profile, users)

section

variable {t : Setting} {s : Signing} {c : Callback} {db db' : Database}

theorem Provisions.unique {provider provider' : ProviderRow} {profile profile' : Profile}
    {users users' : List UserRow} (h : Provisions t c db provider profile users)
    (h' : Provisions t c db provider' profile' users') :
    provider = provider' ∧ profile = profile' ∧ users = users' := by
  rcases h.opened with ⟨state, hstate, hprovider⟩
  rcases h'.opened with ⟨state', hstate', hprovider'⟩
  rw [hstate] at hstate'
  cases hstate'
  rw [hprovider] at hprovider'
  cases hprovider'
  have hstored := h'.stored
  rw [h.stored] at hstored
  cases hstored
  exact ⟨rfl, rfl, rfl⟩

/-- What `complete_oidc_callback` does: it fails without a trace, or it gets as far as its
user row. -/
theorem completeOidcCallback_cases :
    ((∀ provider profile users, ¬ Provisions t c db provider profile users) ∧
        ∃ e, completeOidcCallback t c db = (.error e, db)) ∨
      ∃ provider profile users, Provisions t c db provider profile users ∧
        ((∃ e, completeOidcCallback t c db = (.error e, { db with users := users })) ∨
          completeOidcCallback t c db = (.ok profile, { db with
            users := users
            loginStates := markStateUsed c.stateHash c.now db.loginStates })) := by
  unfold completeOidcCallback
  cases hstate : loadState c.stateHash c.now db.loginStates with
  | error e =>
      refine Or.inl ⟨?_, e, rfl⟩
      rintro _ _ _ ⟨⟨state, hstate', -⟩, -, -⟩
      rw [hstate] at hstate'
      cases hstate'
  | ok state =>
      have hhash : state.stateHash = c.stateHash := loadState_eq_ok hstate
      cases hprovider : getProviderConfig state.tenantId state.providerId db.providers with
      | error e =>
          refine Or.inl ⟨?_, e, by simp only [hprovider]⟩
          rintro _ _ _ ⟨⟨state', hstate', hprovider'⟩, -, -⟩
          rw [hstate] at hstate'
          cases hstate'
          rw [hprovider] at hprovider'
          cases hprovider'
      | ok provider =>
          simp only [hprovider]
          by_cases hexchange : c.stop = some .exchange
          · rw [if_pos hexchange]
            exact Or.inl ⟨fun _ _ _ h => h.exchanged hexchange, _, rfl⟩
          · rw [if_neg hexchange]
            cases hstored : upsertOidcUser t provider c.claims c.userinfo c.draws db.users with
            | error e =>
                refine Or.inl ⟨?_, e, rfl⟩
                rintro _ _ _ ⟨⟨state', hstate', hprovider'⟩, -, hstored'⟩
                rw [hstate] at hstate'
                cases hstate'
                rw [hprovider] at hprovider'
                cases hprovider'
                rw [hstored] at hstored'
                cases hstored'
            | ok stored =>
                rcases stored with ⟨profile, users⟩
                refine Or.inr ⟨provider, profile, users,
                  ⟨⟨state, hstate, hprovider⟩, hexchange, hstored⟩, ?_⟩
                simp only [hhash]
                split_ifs
                · exact Or.inl ⟨_, rfl⟩
                · exact Or.inr rfl

theorem completeOidcLoginResponse_error {e : IdentityError}
    (h : completeOidcCallback t c db = (.error e, db')) :
    ∃ e', completeOidcLoginResponse t s c db = (.error e', db') := by
  unfold completeOidcLoginResponse
  rw [h]
  cases e with
  | enterprise message => exact ⟨_, rfl⟩
  | http status detail => exact ⟨_, rfl⟩
  | python e => exact ⟨_, rfl⟩
  | database => exact ⟨_, rfl⟩

/-- What a callback does: it fails and changes no user, or its profile is stored, and its
token carries the role of the profile. -/
theorem completeOidcLoginResponse_cases
    {result : Except IdentityError (List (String × Json) × String)}
    (h : completeOidcLoginResponse t s c db = (result, db')) :
    ((∀ provider profile users, ¬ Provisions t c db provider profile users) ∧
        db'.users = db.users ∧ ∃ e, result = .error e) ∨
      ∃ provider profile users, Provisions t c db provider profile users ∧ db'.users = users ∧
        ∀ payload token, result = .ok (payload, token) → payload = oidcPayload profile c.now := by
  rcases @completeOidcCallback_cases t c db with ⟨hnone, e, heq⟩ |
    ⟨provider, profile, users, hprovisions, ⟨e, heq⟩ | heq⟩
  · rcases @completeOidcLoginResponse_error t s c db db e heq with ⟨e', heq'⟩
    rw [heq'] at h
    cases h
    exact Or.inl ⟨hnone, rfl, e', rfl⟩
  · rcases @completeOidcLoginResponse_error t s c db _ e heq with ⟨e', heq'⟩
    rw [heq'] at h
    cases h
    exact Or.inr ⟨provider, profile, users, hprovisions, rfl, fun _ _ hok => by cases hok⟩
  · unfold completeOidcLoginResponse at h
    rw [heq] at h
    refine Or.inr ⟨provider, profile, users, hprovisions, ?_⟩
    simp only at h
    split_ifs at h
    · cases h
      exact ⟨rfl, fun _ _ hok => by cases hok⟩
    · split at h
      next e _ =>
        cases h
        exact ⟨rfl, fun _ _ hok => by cases hok⟩
      next token db'' hcreated =>
        cases h
        rcases createRefreshToken_eq_ok hcreated with ⟨-, -, row, -, rfl⟩
        refine ⟨rfl, ?_⟩
        intro payload token' hok
        cases hok
        rfl

/-- What a callback does to the refresh tokens: it issues one when it succeeds. -/
theorem completeOidcLoginResponse_tokens
    {result : Except IdentityError (List (String × Json) × String)}
    (h : completeOidcLoginResponse t s c db = (result, db')) :
    ((∃ e, result = .error e) ∧ db'.refreshTokens = db.refreshTokens) ∨
      ∃ payload token userId tenantId subject, result = .ok (payload, token) ∧
        token = createJwt s (refreshPayload userId tenantId subject c.jti c.now) ∧
        (∀ r ∈ db.refreshTokens, r.jti ≠ c.jti) ∧
        ∃ row : RefreshRow, row.jti = c.jti ∧
          db'.refreshTokens = db.refreshTokens ++ [row] := by
  rcases @completeOidcCallback_cases t c db with ⟨-, e, heq⟩ |
    ⟨provider, profile, users, -, ⟨e, heq⟩ | heq⟩
  · rcases @completeOidcLoginResponse_error t s c db db e heq with ⟨e', heq'⟩
    rw [heq'] at h
    cases h
    exact Or.inl ⟨⟨e', rfl⟩, rfl⟩
  · rcases @completeOidcLoginResponse_error t s c db _ e heq with ⟨e', heq'⟩
    rw [heq'] at h
    cases h
    exact Or.inl ⟨⟨e', rfl⟩, rfl⟩
  · unfold completeOidcLoginResponse at h
    rw [heq] at h
    simp only at h
    split_ifs at h
    · cases h
      exact Or.inl ⟨⟨_, rfl⟩, rfl⟩
    · split at h
      next e _ =>
        cases h
        exact Or.inl ⟨⟨_, rfl⟩, rfl⟩
      next token db'' hcreated =>
        cases h
        rcases createRefreshToken_eq_ok hcreated with ⟨htoken, hfresh, row, hjti, rfl⟩
        exact Or.inr ⟨_, token, _, _, _, rfl, htoken, hfresh, row, hjti, rfl⟩

end

end AuthClaw.Identity
