import AuthClaw.Identity.Access
import AuthClaw.Library.JsonText
import AuthClaw.Library.StepSystem

/-!
# Revoked refresh tokens

A logout or a password reset revokes the row of a refresh token, and no revoked token is
refreshed.  The guards of the other endpoints do not ask the table: a refresh token is a
signed text with a tenant, which is what they take for a session.

Main results:

- Theorem {lit}`sessionStep_tokens`: what a request does to the rows of refresh tokens.
- Theorem {lit}`logout_revokes` and {lit}`reset_revokes`: which rows are revoked.
- Theorem {lit}`revoked_not_refreshed`: a revoked token yields no session.
- Theorem {lit}`revocation_effective_iff`: when a revoked token is good for nothing.
-/

namespace AuthClaw.Identity

open PythonText Rows StepSystem

/-! ## Runs -/

/-- What users do with their sessions. -/
inductive SessionAction where
  /-- The end of `auth_login` or `auth_verify_otp`, once the user is accepted. -/
  | login (userId : Int) (jti : String) (now : Int)
  | callback (c : Callback)
  | refresh (token : String) (now : Int)
  | logout (token : Option String) (now : Int)
  | resetRequest (choice : Choice UserRow) (username tokenHash : String) (now : Int)
  | resetConfirm (token password passwordHash : String) (now : Int)

/-- A refresh token that was issued. -/
structure IssuedToken where
  text : String
  jti : String
  issuedAt : Int

/-- The tables, the refresh tokens issued and the claims of the access tokens. -/
structure Sessions where
  db : Database
  issued : List IssuedToken
  sessions : List (List (String × Json))

/-- The sessions before a run. -/
def Sessions.start (db : Database) : Sessions :=
  ⟨db, [], []⟩

section

variable (t : Setting) (s : Signing) (domainVerified : Int → Bool)

/-- A request, which always ends. -/
def sessionStep (st : Sessions) : SessionAction → Option Sessions
  | .login userId jti now =>
      match st.db.users.find? (fun u => u.id = userId ∧ u.status = "active" ∧ u.emailVerified) with
      | none => some st
      | some u =>
          match createRefreshTokenForUser s u.id u.tenantId u.email jti now st.db with
          | .error _ => some st
          | .ok (token, db) =>
              some ⟨db, st.issued ++ [⟨token, jti, now⟩], st.sessions ++ [accessPayload u now]⟩
  | .callback c =>
      match completeOidcLoginResponse t s c st.db with
      | (.error _, db) => some { st with db := db }
      | (.ok (payload, token), db) =>
          some ⟨db, st.issued ++ [⟨token, c.jti, c.now⟩], st.sessions ++ [payload]⟩
  | .refresh token now =>
      match authRefresh now (decodeJwt s now token) st.db with
      | .error _ => some st
      | .ok payload => some { st with sessions := st.sessions ++ [payload] }
  | .logout token now =>
      match present token with
      | none => some st
      | some token =>
          match revokeRefreshToken now (decodeJwt s now token) st.db with
          | .error _ => some st
          | .ok (_, db) => some { st with db := db }
  | .resetRequest choice username tokenHash now =>
      match authPasswordResetRequest t domainVerified choice username tokenHash now st.db with
      | .error _ => some st
      | .ok db => some { st with db := db }
  | .resetConfirm token password passwordHash now =>
      match authPasswordResetConfirm (s.sha256 (t.py.strip token)) password passwordHash now
          st.db with
      | .error _ => some st
      | .ok (_, db) => some { st with db := db }

end

/-! ## Steps -/

/-- The row of a token is revoked. -/
def Revoked (db : Database) (jti : String) : Prop :=
  ∃ r ∈ db.refreshTokens, r.jti = jti ∧ r.revokedAt.isSome = true

/-- Rows that were not revoked are, or none. -/
def Revokes (st st' : Sessions) : Prop :=
  ∃ (p : RefreshRow → Bool) (now : Int), (∀ r, p r = true → r.revokedAt = none) ∧
    st'.db.refreshTokens =
      updateWhere p (fun r => { r with revokedAt := some now }) st.db.refreshTokens ∧
    st'.issued = st.issued

/-- A token is signed, and its row is new. -/
def Issues (s : Signing) (st st' : Sessions) : Prop :=
  ∃ (row : RefreshRow) (token : IssuedToken) (userId tenantId : Int) (subject : String),
    st'.db.refreshTokens = st.db.refreshTokens ++ [row] ∧ st'.issued = st.issued ++ [token] ∧
    row.jti = token.jti ∧ (∀ r ∈ st.db.refreshTokens, r.jti ≠ token.jti) ∧
    token.text = createJwt s (refreshPayload userId tenantId subject token.jti token.issuedAt)

section

variable {t : Setting} {s : Signing} {domainVerified : Int → Bool} {st st' : Sessions}

/-- Nothing is revoked where the rows stay. -/
theorem revokes_of_eq (hrows : st'.db.refreshTokens = st.db.refreshTokens)
    (hissued : st'.issued = st.issued) : Revokes st st' := by
  refine ⟨fun _ => false, 0, fun _ h => (Bool.false_ne_true h).elim, ?_, hissued⟩
  rw [updateWhere_of_none (fun _ _ => rfl)]
  exact hrows

theorem resetRequest_tokens {choice : Choice UserRow} {username tokenHash : String} {now : Int}
    {db db' : Database}
    (h : authPasswordResetRequest t domainVerified choice username tokenHash now db = .ok db') :
    db'.refreshTokens = db.refreshTokens := by
  unfold authPasswordResetRequest at h
  dsimp only at h
  split_ifs at h
  split at h
  next =>
    cases h
    rfl
  next =>
    split_ifs at h
    cases h
    rfl

/-- A logout revokes the row of its token, if that is not revoked. -/
theorem revokeRefreshToken_tokens {payload : Option (List (String × Json))} {now : Int}
    {db db' : Database} {revoked : Bool}
    (h : revokeRefreshToken now payload db = .ok (revoked, db')) :
    ∃ p : RefreshRow → Bool, (∀ r, p r = true → r.revokedAt = none) ∧
      db'.refreshTokens =
        updateWhere p (fun r => { r with revokedAt := some now }) db.refreshTokens := by
  have hnone : db.refreshTokens = updateWhere (fun _ => false)
      (fun r => { r with revokedAt := some now }) db.refreshTokens :=
    (updateWhere_of_none (fun _ _ => rfl)).symm
  unfold revokeRefreshToken at h
  split at h
  next =>
    cases h
    exact ⟨fun _ => false, fun _ h => (Bool.false_ne_true h).elim, hnone⟩
  next payload _ =>
    split at h
    next =>
      cases h
      exact ⟨_, fun r hr => (of_decide_eq_true hr).2.2, rfl⟩
    next => cases h
    next =>
      cases h
      exact ⟨fun _ => false, fun _ h => (Bool.false_ne_true h).elim, hnone⟩

/-- A reset of a password revokes the rows of its user that are not revoked. -/
theorem resetConfirm_tokens {tokenHash password passwordHash email : String} {now : Int}
    {db db' : Database}
    (h : authPasswordResetConfirm tokenHash password passwordHash now db = .ok (email, db')) :
    ∃ p : RefreshRow → Bool, (∀ r, p r = true → r.revokedAt = none) ∧
      db'.refreshTokens =
        updateWhere p (fun r => { r with revokedAt := some now }) db.refreshTokens := by
  unfold authPasswordResetConfirm at h
  split_ifs at h
  split at h
  next => cases h
  next r _ _ =>
    cases h
    exact ⟨_, fun q hq => (of_decide_eq_true hq).2.2, rfl⟩

/-- A request issues one refresh token, or revokes some. -/
theorem sessionStep_tokens {a : SessionAction}
    (h : sessionStep t s domainVerified st a = some st') : Revokes st st' ∨ Issues s st st' := by
  cases a with
  | login userId jti now =>
      simp only [sessionStep] at h
      split at h
      next =>
        cases h
        exact Or.inl (revokes_of_eq rfl rfl)
      next u _ =>
        split at h
        next =>
          cases h
          exact Or.inl (revokes_of_eq rfl rfl)
        next token db hcreated =>
          cases h
          rcases createRefreshToken_eq_ok hcreated with ⟨htoken, hfresh, row, hjti, rfl⟩
          exact Or.inr ⟨row, ⟨token, jti, now⟩, _, _, _, rfl, rfl, hjti, hfresh, htoken⟩
  | callback c =>
      simp only [sessionStep] at h
      split at h
      next e db hcall =>
        cases h
        rcases completeOidcLoginResponse_tokens hcall with ⟨-, hrows⟩ | ⟨_, _, _, _, _, heq, -⟩
        · exact Or.inl (revokes_of_eq hrows rfl)
        · cases heq
      next payload token db hcall =>
        cases h
        rcases completeOidcLoginResponse_tokens hcall with ⟨⟨e, heq⟩, -⟩ |
          ⟨_, _, userId, tenantId, subject, heq, htoken, hfresh, row, hjti, hrows⟩
        · cases heq
        · cases heq
          exact Or.inr ⟨row, ⟨token, c.jti, c.now⟩, userId, tenantId, subject, hrows, rfl, hjti,
            hfresh, htoken⟩
  | refresh token now =>
      simp only [sessionStep] at h
      split at h
      next =>
        cases h
        exact Or.inl (revokes_of_eq rfl rfl)
      next =>
        cases h
        exact Or.inl (revokes_of_eq rfl rfl)
  | logout token now =>
      simp only [sessionStep] at h
      split at h
      next =>
        cases h
        exact Or.inl (revokes_of_eq rfl rfl)
      next text _ =>
        split at h
        next =>
          cases h
          exact Or.inl (revokes_of_eq rfl rfl)
        next revoked db hrevoke =>
          cases h
          rcases revokeRefreshToken_tokens hrevoke with ⟨p, hopen, hrows⟩
          exact Or.inl ⟨p, now, hopen, hrows, rfl⟩
  | resetRequest choice username tokenHash now =>
      simp only [sessionStep] at h
      split at h
      next =>
        cases h
        exact Or.inl (revokes_of_eq rfl rfl)
      next db hrequest =>
        cases h
        exact Or.inl (revokes_of_eq (resetRequest_tokens hrequest) rfl)
  | resetConfirm token password passwordHash now =>
      simp only [sessionStep] at h
      split at h
      next =>
        cases h
        exact Or.inl (revokes_of_eq rfl rfl)
      next email db hconfirm =>
        cases h
        rcases resetConfirm_tokens hconfirm with ⟨p, hopen, hrows⟩
        exact Or.inl ⟨p, now, hopen, hrows, rfl⟩

/-- The rows have different keys, and the tokens issued are signed. -/
structure SessionInv (s : Signing) (st : Sessions) : Prop where
  jtis : (st.db.refreshTokens.map RefreshRow.jti).Nodup
  signed : ∀ token ∈ st.issued, ∃ userId tenantId subject,
    token.text = createJwt s (refreshPayload userId tenantId subject token.jti token.issuedAt)

theorem start_inv {db : Database} (h : (db.refreshTokens.map RefreshRow.jti).Nodup) :
    SessionInv s (Sessions.start db) :=
  ⟨h, fun _ htoken => by cases htoken⟩

theorem step_inv {a : SessionAction} (hinv : SessionInv s st)
    (h : sessionStep t s domainVerified st a = some st') : SessionInv s st' := by
  rcases sessionStep_tokens h with ⟨p, now, -, hrows, hissued⟩ |
    ⟨row, token, userId, tenantId, subject, hrows, hissued, hjti, hfresh, htext⟩
  · constructor
    · have hkept : st'.db.refreshTokens.map RefreshRow.jti =
          st.db.refreshTokens.map RefreshRow.jti := by
        rw [hrows]
        refine map_updateWhere ?_ _
        intro r _
        rfl
      rw [hkept]
      exact hinv.jtis
    · rw [hissued]
      exact hinv.signed
  · constructor
    · rw [hrows, List.map_append, List.nodup_append]
      refine ⟨hinv.jtis, by simp, ?_⟩
      intro j hj j' hj' heq
      rcases List.mem_map.mp hj with ⟨r, hr, rfl⟩
      rw [List.map_singleton, List.mem_singleton] at hj'
      exact hfresh r hr (heq.trans (hj'.trans hjti))
    · rw [hissued]
      intro token' htoken'
      rcases List.mem_append.mp htoken' with hold | hnew
      · exact hinv.signed token' hold
      · rw [List.mem_singleton.mp hnew]
        exact ⟨userId, tenantId, subject, htext⟩

/-- A revoked row stays revoked. -/
theorem step_revoked {a : SessionAction} {jti : String} (hrevoked : Revoked st.db jti)
    (h : sessionStep t s domainVerified st a = some st') : Revoked st'.db jti := by
  rcases hrevoked with ⟨r, hr, hjti, hset⟩
  refine ⟨r, ?_, hjti, hset⟩
  rcases sessionStep_tokens h with ⟨p, now, hunset, hrows, -⟩ | ⟨row, _, _, _, _, hrows, -⟩
  · rw [hrows, mem_updateWhere]
    refine ⟨r, hr, Or.inr ⟨?_, rfl⟩⟩
    by_contra hp
    rw [hunset r (by simpa using hp)] at hset
    cases hset
  · rw [hrows]
    exact List.mem_append_left _ hr

theorem run_revoked {actions : List SessionAction} {jti : String}
    (hrevoked : Revoked st.db jti)
    (h : run (sessionStep t s domainVerified) st actions = some st') : Revoked st'.db jti := by
  induction actions generalizing st with
  | nil =>
      cases h
      exact hrevoked
  | cons a actions ih =>
      rcases run_cons_eq_some.mp h with ⟨st₁, hstep, hrest⟩
      exact ih (step_revoked hrevoked hstep) hrest

theorem run_inv {actions : List SessionAction} (hinv : SessionInv s st)
    (h : run (sessionStep t s domainVerified) st actions = some st') : SessionInv s st' := by
  induction actions generalizing st with
  | nil =>
      cases h
      exact hinv
  | cons a actions ih =>
      rcases run_cons_eq_some.mp h with ⟨st₁, hstep, hrest⟩
      exact ih (step_inv hinv hstep) hrest

/-! ## A revoked token -/

/-- A revoked token yields no session. -/
theorem revoked_not_refreshed {db : Database} {userId tenantId issuedAt now : Int}
    {subject jti : String} (hjtis : (db.refreshTokens.map RefreshRow.jti).Nodup)
    (hrevoked : Revoked db jti) (access : List (String × Json)) :
    authRefresh now (some (refreshPayload userId tenantId subject jti issuedAt)) db ≠
      .ok access := by
  rcases hrevoked with ⟨r, hr, hjti, hset⟩
  have hdead : ∀ userId tenantId,
      db.refreshTokens.any (liveRefresh jti userId tenantId now) = false := by
    intro userId tenantId
    rw [List.any_eq_false]
    intro q hq hlive
    have hmatch := of_decide_eq_true hlive
    rw [eq_of_key hjtis hq hr (hmatch.1.trans hjti.symm)] at hmatch
    rw [hmatch.2.2.2.1] at hset
    cases hset
  have hvalid : ∀ u, validateRefreshTokenRecord now
      (refreshPayload userId tenantId subject jti issuedAt) db ≠ .ok (some u) := by
    intro u hu
    unfold validateRefreshTokenRecord at hu
    split at hu
    next jti' userId' tenantId' hjti' _ _ =>
      have hsame : jti' = jti := by
        have hkey : getKey (refreshPayload userId tenantId subject jti issuedAt) "jti" =
            some (.str jti) := rfl
        rw [hkey, orElseJson] at hjti'
        split_ifs at hjti'
        cases hjti'
        rfl
      rw [hsame, hdead] at hu
      cases hu
    next => cases hu
    next => cases hu
  intro h
  unfold authRefresh at h
  split at h
  next => cases h
  next => cases h
  next claims _ heq =>
    cases heq
    split at h
    next => cases h
    next => cases h
    next u hu => exact hvalid u hu

end

/-- A text authenticates nobody at any endpoint, and yields no session. -/
structure Powerless (s : Signing) (enforced : Bool) (now : Int) (db : Database)
    (token : String) : Prop where
  bearer : ∀ (e : Endpoint) (how : Presentation),
    ¬ Authenticates s enforced now db (how.headers token) e
  refresh : ∀ access, authRefresh now (decodeJwt s now token) db ≠ .ok access

/-- The token has expired. -/
def Expired (s : Signing) (now : Int) (token : IssuedToken) : Prop :=
  expiredAt s now (seconds token.issuedAt + 86400) = true

/-- The claims of refresh tokens are read back from their JSON text. -/
structure Signing.Reads (s : Signing) : Prop where
  claims : ∀ userId tenantId subject jti now,
    s.loads (utf8 (s.dumps (refreshPayload userId tenantId subject jti now))) =
      some (.obj (refreshPayload userId tenantId subject jti now))
  numbers : ∀ n, s.intOf (.int n) = some n

theorem evidence_not_public : isPublicEndpoint "GET" "/evidence" = false := by
  decide

/-- An endpoint of a tenant, such as the vault of its evidence. -/
def evidenceEndpoint : Endpoint where
  method := "GET"
  path := "/evidence"
  guard := .tenant
  public_anyone := by
    rw [evidence_not_public]
    intro h
    cases h

section

variable {t : Setting} {s : Signing} {domainVerified : Int → Bool} {db : Database} {now : Int}

theorem decode_issued (hreads : s.Reads) {token : IssuedToken} {userId tenantId : Int}
    {subject : String}
    (h : token.text =
      createJwt s (refreshPayload userId tenantId subject token.jti token.issuedAt)) :
    (Expired s now token → decodeJwt s now token.text = none) ∧
      (¬ Expired s now token → decodeJwt s now token.text =
        some (refreshPayload userId tenantId subject token.jti token.issuedAt)) := by
  have hdecode := decodeJwt_createJwt (hreads.claims userId tenantId subject token.jti
    token.issuedAt) rfl (hreads.numbers _) now
  rw [← h] at hdecode
  unfold Expired
  rw [hdecode]
  constructor
  · intro hexpired
    rw [if_pos hexpired]
  · intro hlive
    rw [if_neg hlive]

/-- A logout revokes the row of a token that has not expired. -/
theorem logout_revokes (hreads : s.Reads) {st : Sessions} {token : IssuedToken}
    {userId tenantId : Int} {subject : String}
    (htext : token.text =
      createJwt s (refreshPayload userId tenantId subject token.jti token.issuedAt))
    (hlive : ¬ Expired s now token) (hjti : token.jti ≠ "") (htenant : tenantId ≠ 0)
    {r : RefreshRow} (hr : r ∈ st.db.refreshTokens) (hrow : r.jti = token.jti)
    (hrowTenant : r.tenantId = tenantId) :
    ∃ db', sessionStep t s domainVerified st (.logout (some token.text) now) =
        some { st with db := db' } ∧ Revoked db' token.jti := by
  have hempty : token.text ≠ "" := by
    rw [htext]
    exact (createJwt_blank _).2
  have hkey : orElseJson (getKey (refreshPayload userId tenantId subject token.jti
      token.issuedAt) "jti") none = some (.str token.jti) := by
    have hlookup : getKey (refreshPayload userId tenantId subject token.jti token.issuedAt)
      "jti" = some (.str token.jti) := rfl
    rw [hlookup, orElseJson, if_pos]
    simpa [Json.truthy] using hjti
  have hscope : orElseJson (getKey (refreshPayload userId tenantId subject token.jti
      token.issuedAt) "tenant_id") none = some (.int tenantId) := by
    have hlookup : getKey (refreshPayload userId tenantId subject token.jti token.issuedAt)
      "tenant_id" = some (.int tenantId) := rfl
    rw [hlookup, orElseJson, if_pos]
    simpa [Json.truthy] using htenant
  simp only [sessionStep]
  rw [present_some hempty]
  simp only [(decode_issued hreads htext).2 hlive, revokeRefreshToken, hkey, hscope]
  refine ⟨_, rfl, ?_⟩
  by_cases hset : r.revokedAt = none
  · refine ⟨{ r with revokedAt := some now }, ?_, hrow, rfl⟩
    exact mem_updateWhere.mpr ⟨r, hr, Or.inl ⟨by simp [hrow, hrowTenant, hset], rfl⟩⟩
  · refine ⟨r, ?_, hrow, Option.isSome_iff_ne_none.mpr hset⟩
    exact mem_updateWhere.mpr ⟨r, hr, Or.inr ⟨by simp [hset], rfl⟩⟩

/-- A password reset revokes the rows of the user. -/
theorem reset_revokes {st : Sessions} {text password passwordHash email : String} {r : ResetRow}
    (hlength : 8 ≤ password.length)
    (hselect : selectReset (s.sha256 (t.py.strip text)) now st.db = some (r, email))
    {q : RefreshRow} (hq : q ∈ st.db.refreshTokens) (huser : q.userId = r.userId)
    (htenant : q.tenantId = r.tenantId) :
    ∃ db', sessionStep t s domainVerified st (.resetConfirm text password passwordHash now) =
        some { st with db := db' } ∧ Revoked db' q.jti := by
  have hconfirm : authPasswordResetConfirm (s.sha256 (t.py.strip text)) password passwordHash now
      st.db = .ok (email, revokeRefreshTokens r now (markResetUsed (s.sha256 (t.py.strip text)) now
        (updatePassword r passwordHash st.db))) := by
    unfold authPasswordResetConfirm
    rw [if_neg (by omega), hselect]
  simp only [sessionStep, hconfirm]
  refine ⟨_, rfl, ?_⟩
  by_cases hset : q.revokedAt = none
  · refine ⟨{ q with revokedAt := some now }, ?_, rfl, rfl⟩
    exact mem_updateWhere.mpr ⟨q, hq, Or.inl ⟨by simp [huser, htenant, hset], rfl⟩⟩
  · refine ⟨q, ?_, rfl, Option.isSome_iff_ne_none.mpr hset⟩
    exact mem_updateWhere.mpr ⟨q, hq, Or.inr ⟨by simp [hset], rfl⟩⟩

/-- An enforced gate lets no refresh token through. -/
theorem enforced_powerless {token : String} {payload : List (String × Json)}
    (hblank : ' ' ∉ token.toList) (hempty : token ≠ "")
    (hdecode : decodeJwt s now token = none ∨ decodeJwt s now token = some payload)
    (hrole : getKey payload "role" = none) (e : Endpoint) (how : Presentation) :
    ¬ Authenticates s true now db (how.headers token) e := by
  rintro ⟨hgate, hidentifies⟩
  by_cases hpublic : isPublicEndpoint e.method e.path = true
  · rw [e.public_anyone hpublic] at hidentifies
    exact hidentifies
  · refine enforceRequestAccess_roleless (by simpa using hpublic) ?_ (hgate rfl)
    unfold optionalUserFromRequest
    rw [authorizationPayload_headers hblank hempty]
    cases how with
    | apiKey => rfl
    | bearer =>
        rcases hdecode with hnone | hsome
        · simp only [hnone]
          rfl
        · simp only [hsome]
          exact hrole
    | raw =>
        rcases hdecode with hnone | hsome
        · simp only [hnone]
          rfl
        · simp only [hsome]
          exact hrole

/-- A revoked token is powerless where the gate is enforced, or once it has expired, unless it
is a key as well. -/
theorem powerless_iff (hreads : s.Reads) {enforced : Bool} {token : IssuedToken}
    {userId tenantId : Int} {subject : String}
    (htext : token.text =
      createJwt s (refreshPayload userId tenantId subject token.jti token.issuedAt))
    (hjtis : (db.refreshTokens.map RefreshRow.jti).Nodup) (hrevoked : Revoked db token.jti) :
    Powerless s enforced now db token.text ↔
      enforced = true ∨
        (Expired s now token ∧ ∀ k ∈ db.apiKeys, liveApiKey s now token.text k = false) := by
  have hread := @decode_issued s now hreads token userId tenantId subject htext
  have hblank := @createJwt_blank s (refreshPayload userId tenantId subject token.jti
    token.issuedAt)
  rw [← htext] at hblank
  constructor
  · intro hpowerless
    by_contra hneither
    rw [not_or, Bool.not_eq_true] at hneither
    rcases hneither with ⟨henforced, hneither⟩
    have hopen := hpowerless.bearer evidenceEndpoint .bearer
    refine hopen ⟨fun h => ?_, ?_⟩
    · rw [henforced] at h
      cases h
    · by_cases hexpired : Expired s now token
      · -- the text is taken for a key
        rw [not_and] at hneither
        have hkeys := hneither hexpired
        push Not at hkeys
        rcases hkeys with ⟨k, hk, hlive⟩
        change ∃ tenantId, resolveTenant s now db _ = .ok tenantId
        rw [resolveTenant_headers hblank.1 hblank.2, hread.1 hexpired, Option.bind_none]
        cases hfind : db.apiKeys.find? (liveApiKey s now token.text) with
        | none =>
            rw [List.find?_eq_none] at hfind
            exact absurd (by simpa using hlive) (hfind k hk)
        | some k' => exact ⟨_, rfl⟩
      · exact ⟨_, resolveTenant_signed hblank.1 hblank.2 (hread.2 hexpired) rfl⟩
  · intro hcondition
    constructor
    · intro e how
      rcases hcondition with henforced | ⟨hexpired, hkeys⟩
      · rw [henforced]
        have hdecode : decodeJwt s now token.text = none ∨ decodeJwt s now token.text =
            some (refreshPayload userId tenantId subject token.jti token.issuedAt) := by
          by_cases hexpired : Expired s now token
          · exact Or.inl (hread.1 hexpired)
          · exact Or.inr (hread.2 hexpired)
        exact enforced_powerless hblank.1 hblank.2 hdecode rfl e how
      · intro hauthenticates
        exact not_identifies_of_unread hblank.1 hblank.2 (hread.1 hexpired) hkeys e.guard
          hauthenticates.2
    · intro access
      by_cases hexpired : Expired s now token
      · rw [hread.1 hexpired]
        intro h
        cases h
      · rw [hread.2 hexpired]
        exact revoked_not_refreshed hjtis hrevoked access

/-- In every run, a refresh token that was revoked authenticates nobody and yields no session
ever after exactly when the gate is enforced or the token has expired and is no key. -/
theorem revocation_effective_iff (t : Setting) (s : Signing) (domainVerified : Int → Bool)
    (hreads : s.Reads) (enforced : Bool) {start : Database}
    (hjtis : (start.refreshTokens.map RefreshRow.jti).Nodup)
    {before after : List SessionAction} {st st' : Sessions}
    (hbefore : run (sessionStep t s domainVerified) (Sessions.start start) before = some st)
    {token : IssuedToken} (htoken : token ∈ st.issued) (hrevoked : Revoked st.db token.jti)
    (hafter : run (sessionStep t s domainVerified) st after = some st') (now : Int) :
    Powerless s enforced now st'.db token.text ↔
      enforced = true ∨
        (Expired s now token ∧ ∀ k ∈ st'.db.apiKeys, liveApiKey s now token.text k = false) := by
  have hinv := run_inv (start_inv hjtis) hbefore
  rcases hinv.signed token htoken with ⟨userId, tenantId, subject, htext⟩
  exact powerless_iff hreads htext (run_inv hinv hafter).jtis (run_revoked hrevoked hafter)

end

/-! ## A logout -/

/-- A text or a number as a scalar. -/
def scalarOf : Json → JsonText.Scalar
  | .str s => .str s
  | .int n => .int n
  | .bool b => .bool b
  | _ => .null

/-- A scalar as a value. -/
def ofScalar : JsonText.Scalar → Json
  | .null => .null
  | .bool b => .bool b
  | .int n => .int n
  | .str s => .str s

/-- The JSON text of a flat object. -/
def flatText (members : List (String × JsonText.Scalar)) : String :=
  String.ofList (JsonText.encodeObject members)

open Classical in
/-- A signing with the JSON texts of flat objects, which are read back. -/
noncomputable def flatSigning : Signing where
  dumps := fun payload => flatText (payload.map (fun m => (m.1, scalarOf m.2)))
  loads := fun bytes =>
    if h : ∃ members, utf8 (flatText members) = bytes then
      some (.obj ((Classical.choose h).map (fun m => (m.1, ofScalar m.2))))
    else none
  hmac := utf8
  sha256 := id
  intOf := fun v => match v with
    | .int n => some n
    | _ => none
  production := false

theorem flatText_injective : Function.Injective (fun members => utf8 (flatText members)) := by
  intro a b h
  have hbytes : (flatText a).toUTF8 = (flatText b).toUTF8 :=
    ByteArray.ext (Array.toList_inj.mp h)
  have htext : flatText a = flatText b := String.toByteArray_inj.mp hbytes
  have hchars := congrArg String.toList htext
  unfold flatText at hchars
  rw [String.toList_ofList, String.toList_ofList] at hchars
  exact JsonText.encodeObject_injective hchars

theorem flatSigning_reads : flatSigning.Reads where
  claims := by
    intro userId tenantId subject jti now
    have hread : ∀ members : List (String × JsonText.Scalar),
        flatSigning.loads (utf8 (flatText members)) =
          some (.obj (members.map (fun m => (m.1, ofScalar m.2)))) := by
      intro members
      have hex : ∃ members', utf8 (flatText members') = utf8 (flatText members) := ⟨members, rfl⟩
      unfold flatSigning
      simp only
      rw [dif_pos hex, flatText_injective (Classical.choose_spec hex)]
    exact hread _
  numbers := fun _ => rfl

/-- The token of the administrator's login. -/
noncomputable def loginToken : IssuedToken where
  text := createJwt flatSigning (refreshPayload 1 1 "admin@acme.com" "j" 0)
  jti := "j"
  issuedAt := 0

theorem loginToken_live {now : Int} (h : now = 1 ∨ now = 2) :
    ¬ Expired flatSigning now loginToken := by
  unfold Expired
  rcases h with rfl | rfl
  · decide
  · decide

theorem tenantDatabase_jtis : (tenantDatabase.refreshTokens.map RefreshRow.jti).Nodup :=
  List.nodup_nil

/-- An administrator logs in and out again. -/
theorem logged_out :
    ∃ st, run (sessionStep plainSetting flatSigning (fun _ => true))
        (Sessions.start tenantDatabase) [.login 1 "j" 0, .logout (some loginToken.text) 1] =
          some st ∧
      loginToken ∈ st.issued ∧ Revoked st.db loginToken.jti := by
  have hlogin : sessionStep plainSetting flatSigning (fun _ => true)
      (Sessions.start tenantDatabase) (.login 1 "j" 0) = some ⟨{ tenantDatabase with
        refreshTokens := [⟨"j", 1, 1, "admin@acme.com", 86400000000, none⟩] }, [loginToken],
        [accessPayload tenantAdminRow 0]⟩ := rfl
  rcases @logout_revokes plainSetting flatSigning (fun _ => true) 1 flatSigning_reads
    ⟨{ tenantDatabase with
      refreshTokens := [⟨"j", 1, 1, "admin@acme.com", 86400000000, none⟩] }, [loginToken],
      [accessPayload tenantAdminRow 0]⟩ loginToken 1 1 "admin@acme.com" rfl
    (loginToken_live (Or.inl rfl)) (by decide) (by decide) _ List.mem_cons_self rfl rfl with
    ⟨db', hlogout, hrevoked⟩
  refine ⟨_, run_cons_eq_some.mpr ⟨_, hlogin, run_cons_eq_some.mpr ⟨_, hlogout, rfl⟩⟩,
    List.mem_cons_self, hrevoked⟩

/-- Where the gate is enforced, the token is good for nothing after the logout. -/
theorem revocation_effective_enforced :
    ∃ st, run (sessionStep plainSetting flatSigning (fun _ => true))
        (Sessions.start tenantDatabase) [.login 1 "j" 0, .logout (some loginToken.text) 1] =
          some st ∧
      Powerless flatSigning true 2 st.db loginToken.text := by
  rcases logged_out with ⟨st, hrun, hissued, hrevoked⟩
  refine ⟨st, hrun, ?_⟩
  exact (revocation_effective_iff plainSetting flatSigning (fun _ => true) flatSigning_reads true
    tenantDatabase_jtis hrun hissued hrevoked (run_nil st) 2).mpr (Or.inl rfl)

/-- Where it is not, the token authenticates its user after the logout. -/
theorem revocation_ineffective :
    ¬ ∀ before st token, run (sessionStep plainSetting flatSigning (fun _ => true))
        (Sessions.start tenantDatabase) before = some st → token ∈ st.issued →
      Revoked st.db token.jti → Powerless flatSigning false 2 st.db token.text := by
  intro hall
  rcases logged_out with ⟨st, hrun, hissued, hrevoked⟩
  have hinv := run_inv (start_inv tenantDatabase_jtis) hrun
  have hpowerless := hall _ st loginToken hrun hissued hrevoked
  rcases (@powerless_iff flatSigning st.db 2 flatSigning_reads false loginToken 1 1
    "admin@acme.com" rfl hinv.jtis hrevoked).mp hpowerless with henforced | ⟨hexpired, -⟩
  · cases henforced
  · exact loginToken_live (Or.inr rfl) hexpired

end AuthClaw.Identity
