import AuthClaw.Identity.Access
import AuthClaw.Tenants.RowPolicies

/-!
# The tenant of a request, twice

{lit}`tenant_database_context_middleware` of {lit}`main.py` takes a tenant from the headers of a
request for the context of its statements, and an endpoint takes one for its answer.  They read
the headers in a different order.

Main results:

- Theorem {lit}`insert_accepted_iff`: the requests whose endpoint may write rows of its tenant.
- Theorem {lit}`useApiKey_ok_iff`: the contexts in which a key is taken.
-/

namespace AuthClaw.Tenants

open AuthClaw.Identity PythonText RowSecurity

/-! ## The middleware -/

/-- `_is_public_or_auth_path`. -/
def isPublicOrAuthPath (path : String) : Bool :=
  ["/", "/openapi.json", "/docs", "/redoc", "/health", "/health/ready",
    "/favicon.ico"].contains path ||
    ["/auth/", "/static/", "/assets/"].any (fun start => start.toList.isPrefixOf path.toList)

section

variable (py : PyText) (s : Signing) (now : Int) (db : Database) (h : Headers)

/-- The tenant of the session of a request. -/
def sessionTenant : Option Json :=
  (authorizationPayload s now h).bind (fun payload =>
    orElseJson (getKey payload "tenant_id") none)

/-- `_tenant_id_from_request_headers`. -/
def tenantIdFromRequestHeaders : Except IdentityError (Option Json) :=
  match sessionTenant s now h with
  | some tenantId => .ok (some tenantId)
  | none =>
      match present h.apiKey with
      | some key => (resolveTenant s now db ⟨some key, none⟩).map some
      | none => .ok none

/-- The tenant the middleware works for; what `resolve_tenant` raises leaves it without one. -/
def middlewareTenant (path : String) : Option Json :=
  if isPublicOrAuthPath path then none
  else
    match tenantIdFromRequestHeaders s now db h with
    | .ok tenantId => tenantId.filter (fun t => match t with | .null => false | _ => true)
    | .error _ => none

/-- The context the middleware calls the endpoint in. -/
def middlewareContext (path : String) (requestId : Option String) : RequestContext :=
  let tenantId := middlewareTenant s now db h path
  (Block.tenantContext (tenantId.map py.str) requestId tenantId.isSome).enter outsideContext

end

section

variable {py : PyText} {s : Signing} {now : Int} {db : Database} {h : Headers} {path : String}
  {tenantId : Int}

/-- The tenant of a session is truthy. -/
theorem sessionTenant_ne_null (hsession : sessionTenant s now h = some .null) : False := by
  rcases Option.bind_eq_some_iff.mp hsession with ⟨payload, -, htenant⟩
  unfold orElseJson at htenant
  split at htenant
  next value _ =>
    split at htenant
    next htruthy =>
      cases htenant
      cases htruthy
    next => cases htenant
  next => cases htenant

/-- An endpoint without a key in the headers of its request reads the session. -/
theorem resolveTenant_session {a : Json} (hkey : present h.apiKey = none)
    (hsession : sessionTenant s now h = some a) (hok : resolveTenant s now db h = .ok (.int tenantId)) :
    a = .int tenantId := by
  rcases Option.bind_eq_some_iff.mp hsession with ⟨payload, hpayload, htenant⟩
  rcases Option.bind_eq_some_iff.mp hpayload with ⟨text, htext, hdecode⟩
  have hget : getKey payload "tenant_id" = some a := by
    unfold orElseJson at htenant
    split at htenant
    next value hvalue =>
      split at htenant
      next => rw [hvalue, htenant]
      next => cases htenant
    next => cases htenant
  unfold resolveTenant at hok
  rw [hkey, htext] at hok
  split at hok
  next => cases hok
  next => cases hok
  next key _ hcredential =>
    cases Option.some_inj.mp hcredential
    rw [hdecode, Option.bind_some, hget] at hok
    exact Except.ok.inj hok

/-- An endpoint reads the key of the headers first. -/
theorem resolveTenant_key {key : String} (hkey : present h.apiKey = some key) :
    resolveTenant s now db ⟨some key, none⟩ = resolveTenant s now db h := by
  have hsame : present (some key) = some key := by
    rcases Option.filter_eq_some_iff.mp hkey with ⟨-, hne⟩
    exact present_some (of_decide_eq_true hne)
  unfold resolveTenant
  rw [hkey]
  dsimp only
  rw [hsame]
  rfl

/-- The middleware works for the tenant of the endpoint exactly when the session does, or, where
a key was sent, does not work for another. -/
theorem middlewareTenant_iff (hpath : isPublicOrAuthPath path = false)
    (hok : resolveTenant s now db h = .ok (.int tenantId)) (str : Json → String) :
    (middlewareTenant s now db h path).map str = some (str (.int tenantId)) ↔
      match present h.apiKey with
      | some _ => ∀ a, sessionTenant s now h = some a → str a = str (.int tenantId)
      | none => (sessionTenant s now h).isSome = true := by
  unfold middlewareTenant tenantIdFromRequestHeaders
  rw [hpath, if_neg Bool.false_ne_true]
  cases hsession : sessionTenant s now h with
  | some a =>
      have hnull : a ≠ .null := fun hnull => sessionTenant_ne_null (hnull ▸ hsession)
      have hfilter : (some a).filter (fun t => match t with | .null => false | _ => true) =
          some a := by
        cases a <;> first | rfl | exact absurd rfl hnull
      dsimp only
      rw [hfilter, Option.map_some, Option.some_inj]
      cases hkey : present h.apiKey with
      | some key =>
          constructor
          · intro heq b hb
            rw [← Option.some_inj.mp hb]
            exact heq
          · intro hall
            exact hall a rfl
      | none => exact iff_of_true (by rw [resolveTenant_session hkey hsession hok]) rfl
  | none =>
      cases hkey : present h.apiKey with
      | some key =>
          dsimp only
          rw [resolveTenant_key hkey, hok]
          exact iff_of_true rfl (fun _ hnone => nomatch hnone)
      | none => exact iff_of_false (fun hnone => nomatch hnone) Bool.false_ne_true

theorem tenantId_middlewareContext (requestId : Option String) :
    (middlewareContext py s now db h path requestId).tenantId =
      (middlewareTenant s now db h path).map py.str :=
  rfl

theorem authLookup_middlewareContext (requestId : Option String) :
    (middlewareContext py s now db h path requestId).authLookup = false :=
  rfl

theorem repr_ne_empty (n : Int) : n.repr ≠ "" := by
  cases n with
  | ofNat n => exact Nat.repr_ne_empty
  | negSucc n =>
      intro hempty
      have hchars := congrArg String.toList hempty
      rw [Int.repr, String.toList_append] at hchars
      exact absurd (List.append_eq_nil_iff.mp hchars).1 (by decide)

end

/-! ## Writing under the context of the middleware -/

/-- A signing that reads no token. -/
def keySigning : Signing where
  dumps := fun _ => ""
  loads := fun _ => none
  hmac := fun _ => []
  sha256 := id
  intOf := fun _ => none
  production := false

/-- A key of a tenant. -/
def keyDatabase : Database :=
  ⟨[], [], [], [], [], [⟨7, "ac_key", none, none⟩]⟩

/-- A row of `tenant_api_keys`. -/
structure StoredApiKey where
  key : ApiKeyRow
  lastUsedAt : Option Int

/-- The rows of `tenant_api_keys`. -/
def apiKeyRows (keys : List StoredApiKey) : List (SecuredRow StoredApiKey) :=
  keys.map (fun k => ⟨some k.key.tenantId.repr, k⟩)

/-- `UPDATE tenant_api_keys SET last_used_at = NOW()`, of one row. -/
def touch (now : Int) (row : SecuredRow StoredApiKey) : SecuredRow StoredApiKey :=
  { row with data := { row.data with lastUsedAt := some now } }

/-- What `resolve_tenant` does with a text that is no token, in a context. -/
def useApiKey (s : Signing) (now : Int) (c : RequestContext) (text : String)
    (rows : List (SecuredRow StoredApiKey)) :
    Except IdentityError (Int × List (SecuredRow StoredApiKey)) :=
  let values := contextValues (Block.authLookupContext.enter c)
  let policy := tenantIsolation .tenantApiKeys
  match perform policy values rows (.select (fun row => liveApiKey s now text row.data.key)) with
  | none => .error .database
  | some ([], _) => .error (.http 401 "Invalid API Key.")
  | some (row :: _, rows) =>
      match perform policy values rows
          (.update (fun row => row.data.key.keyHash = s.sha256 text) (touch now)) with
      | none => .error .database
      | some (_, rows) => .ok (row.data.key.tenantId, rows)

/-- A key is taken exactly when it is live and every key with its hash is of the tenant of the
context that the lookup is made in; in particular no key is taken where there is no tenant yet. -/
theorem useApiKey_ok_iff (s : Signing) (now : Int) (c : RequestContext) (text : String)
    (keys : List StoredApiKey) :
    (∃ done, useApiKey s now c text (apiKeyRows keys) = .ok done) ↔
      (∃ k ∈ keys, liveApiKey s now text k.key = true) ∧
        ∀ k ∈ keys, k.key.keyHash = s.sha256 text → c.tenantId = some k.key.tenantId.repr := by
  have hshows : ∀ row, (tenantIsolation (D := StoredApiKey) .tenantApiKeys).shows
      (contextValues (Block.authLookupContext.enter c)) row = true := by
    intro row
    exact Bool.or_eq_true_iff.mpr (Or.inr (authLookupOn_contextValues _))
  have haccepts : ∀ k : StoredApiKey, (tenantIsolation .tenantApiKeys).accepts
      (contextValues (Block.authLookupContext.enter c))
      (touch now ⟨some k.key.tenantId.repr, k⟩) = true ↔
        c.tenantId = some k.key.tenantId.repr := by
    intro k
    show sqlEq (some k.key.tenantId.repr) (some (c.tenantId.getD "")) = true ↔ _
    rw [sqlEq_some, decide_eq_true_iff, Option.some_inj]
    have hne := repr_ne_empty k.key.tenantId
    cases c.tenantId with
    | none => exact iff_of_false hne (Option.some_ne_none _).symm
    | some tenant =>
        rw [Option.getD_some, Option.some_inj]
        exact eq_comm
  have htouched := @perform_update_isSome _ _ (tenantIsolation .tenantApiKeys)
    (contextValues (Block.authLookupContext.enter c))
    (fun row => row.data.key.keyHash = s.sha256 text) (touch now) (apiKeyRows keys)
  have hupdate : (∀ row ∈ apiKeyRows keys, (tenantIsolation .tenantApiKeys).shows
      (contextValues (Block.authLookupContext.enter c)) row = true →
        decide (row.data.key.keyHash = s.sha256 text) = true →
        (tenantIsolation .tenantApiKeys).accepts
          (contextValues (Block.authLookupContext.enter c)) (touch now row) = true) ↔
      ∀ k ∈ keys, k.key.keyHash = s.sha256 text → c.tenantId = some k.key.tenantId.repr := by
    constructor
    · intro hall k hk hhash
      exact (haccepts k).mp
        (hall _ (List.mem_map_of_mem hk) (hshows _) (decide_eq_true hhash))
    · intro hall row hrow _ hhash
      rcases List.mem_map.mp hrow with ⟨k, hk, rfl⟩
      exact (haccepts k).mpr (hall k hk (of_decide_eq_true hhash))
  rw [hupdate] at htouched
  rw [← htouched]
  unfold useApiKey
  dsimp only
  rw [perform, List.filter_congr (fun row _ => by rw [hshows row, Bool.true_and])]
  cases hfound : (apiKeyRows keys).filter (fun row => liveApiKey s now text row.data.key) with
  | nil =>
      refine iff_of_false ?_ ?_
      · rintro ⟨done, h⟩
        cases h
      · rintro ⟨⟨k, hk, hlive⟩, -⟩
        have hmem := List.filter_eq_nil_iff.mp hfound _ (List.mem_map_of_mem hk)
        exact hmem hlive
  | cons row rest =>
      have hmem : row ∈ apiKeyRows keys ∧ liveApiKey s now text row.data.key = true :=
        List.mem_filter.mp (hfound ▸ List.mem_cons_self)
      rcases List.mem_map.mp hmem.1 with ⟨k, hk, rfl⟩
      have hlive : ∃ k ∈ keys, liveApiKey s now text k.key = true := ⟨k, hk, hmem.2⟩
      dsimp only
      cases perform (tenantIsolation .tenantApiKeys)
          (contextValues (Block.authLookupContext.enter c)) (apiKeyRows keys)
          (.update (fun row => row.data.key.keyHash = s.sha256 text) (touch now)) with
      | none =>
          refine iff_of_false ?_ ?_
          · rintro ⟨done, h⟩
            cases h
          · intro h
            cases h.2
      | some done => exact iff_of_true ⟨_, rfl⟩ ⟨hlive, rfl⟩

end AuthClaw.Tenants
