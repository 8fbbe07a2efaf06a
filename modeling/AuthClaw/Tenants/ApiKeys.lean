import AuthClaw.Tenants.TenantResolution

/-!
# Keys of a tenant

{lit}`/keys/generate`, {lit}`/keys/list`, {lit}`/keys/(key_id)` and {lit}`/keys/(key_id)/rotate`
of {lit}`main.py`, and what {lit}`resolve_tenant` does with a key.  The statements of the requests
interleave: a rotation reads its key before it writes, and a lookup finds a key before it marks it
as used.

Main results:

- Theorem {lit}`tenantId_callerContext`: the statements of an endpoint are sent under the tenant of
  its session.
- Theorem {lit}`writeRotation_cases`: a rotation revokes its key and stores a new one, or neither.
- Theorem {lit}`useApiKey_eq`: without other requests in between, finding a key and marking it is
  {lit}`useApiKey`.
-/

namespace AuthClaw.Tenants

open AuthClaw.Identity PythonText RowSecurity
open Events (columnText)

/-! ## Tables -/

/-- A row of `tenant_api_keys`, with the columns that are listed. -/
structure ApiKeyRecord where
  id : Int
  name : String
  keyPrefix : String
  createdAt : Int
  stored : StoredApiKey

/-- A row of `tenant_api_keys` under its policy. -/
abbrev SecuredKey : Type :=
  SecuredRow ApiKeyRecord

/-- What the requests for keys read and write. -/
structure ApiKeyTables where
  tenants : List Int
  nextId : Int
  rows : List SecuredKey

/-- The tables as a session or a key is looked up in them. -/
def ApiKeyTables.database (tb : ApiKeyTables) : Database :=
  ⟨[], [], [], [], [], tb.rows.map (fun row => row.data.stored.key)⟩

/-- The signing, and `AUTHCLAW_API_KEY_TTL_DAYS`. -/
structure ApiKeySetting where
  py : PyText
  signing : Signing
  ttlDays : Int

/-- The headers of a request, and the time of it. -/
structure KeyCaller where
  headers : Headers
  requestId : Option String
  now : Int

section

variable (s : ApiKeySetting)

/-- `get_authenticated_tenant`, of a tenant that is a number. -/
def callerTenant (caller : KeyCaller) : Except IdentityError Int :=
  match resolveTenantFromAuthorization s.signing caller.now caller.headers with
  | .ok (.int tenantId) => .ok tenantId
  | .ok _ => .error .database
  | .error e => .error e

/-- The settings the statements of a request are sent under. -/
def callerValues (tb : ApiKeyTables) (caller : KeyCaller) (path : String) : SettingValues :=
  contextValues (middlewareContext s.py s.signing caller.now tb.database caller.headers path
    caller.requestId)

/-! ## Statements -/

/-- `id = :id AND tenant_id = :tid`. -/
def ownKey (keyId tenantId : Int) (row : SecuredKey) : Bool :=
  row.data.id = keyId && row.data.stored.key.tenantId = tenantId

/-- `SET revoked_at = NOW()`. -/
def revokeRow (now : Int) (row : SecuredKey) : SecuredKey :=
  let key := { row.data.stored.key with revokedAt := some now }
  { row with data := { row.data with stored := { row.data.stored with key := key } } }

/-- `SET last_used_at = NOW()`. -/
def touchRow (now : Int) (row : SecuredKey) : SecuredKey :=
  { row with data := { row.data with stored := { row.data.stored with lastUsedAt := some now } } }

/-- The row of a new key. -/
def issuedKey (now id tenantId : Int) (name rawKey : String) : ApiKeyRecord where
  id := id
  name := name
  keyPrefix := String.ofList (rawKey.toList.take 10)
  createdAt := now
  stored := ⟨⟨tenantId, s.signing.sha256 rawKey, some (now + s.ttlDays * 86400000000), none⟩, none⟩

/-- `INSERT INTO tenant_api_keys`: the name has to fit, the tenant to be there, and the hash to be
a new one. -/
def insertKey (values : SettingValues) (now tenantId : Int) (name rawKey : String)
    (tb : ApiKeyTables) : Option (ApiKeyRecord × List SecuredKey) :=
  (columnText 100 name).bind (fun name =>
    let k := issuedKey s now tb.nextId tenantId name rawKey
    if tb.tenants.contains tenantId &&
        !tb.rows.any (fun row => row.data.stored.key.keyHash = k.stored.key.keyHash) then
      (perform (tenantIsolation .tenantApiKeys) values tb.rows
        (.insert ⟨some tenantId.repr, k⟩)).map (fun done => (k, done.2))
    else none)

/-- The text of a key: `ac_` and the random part. -/
def rawKey (token : String) : String :=
  "ac_" ++ token

/-! ## Endpoints -/

/-- `generate_tenant_api_key`; a row that is refused uses up its number. -/
def generateKey (tb : ApiKeyTables) (caller : KeyCaller) (name token : String) :
    Except IdentityError ApiKeyRecord × ApiKeyTables :=
  match callerTenant s caller with
  | .error e => (.error e, tb)
  | .ok tenantId =>
      match insertKey s (callerValues s tb caller "/keys/generate") caller.now tenantId name
          (rawKey token) tb with
      | none => (.error .database, { tb with nextId := tb.nextId + 1 })
      | some (k, rows) => (.ok k, { tb with nextId := tb.nextId + 1, rows := rows })

/-- The path of a key. -/
def keyPath (keyId : Int) (rest : String) : String :=
  "/keys/" ++ (keyId.repr ++ rest)

/-- `revoke_tenant_api_key`: the tenant, and the rows it leaves; that no row has the number is no
error. -/
def revokeKey (tb : ApiKeyTables) (caller : KeyCaller) (keyId : Int) :
    Except IdentityError (Int × List SecuredKey) :=
  match callerTenant s caller with
  | .error e => .error e
  | .ok tenantId =>
      match perform (tenantIsolation .tenantApiKeys) (callerValues s tb caller (keyPath keyId ""))
          tb.rows (.update (ownKey keyId tenantId) (revokeRow caller.now)) with
      | none => .error .database
      | some (_, rows) => .ok (tenantId, rows)

/-- A rotation that has read its key. -/
structure Rotation where
  caller : KeyCaller
  tenantId : Int
  keyId : Int
  name : String
  token : String

/-- `rotate_tenant_api_key`, up to the key it reads. -/
def readRotation (tb : ApiKeyTables) (caller : KeyCaller) (keyId : Int) (name : Option String)
    (token : String) : Except IdentityError Rotation :=
  match callerTenant s caller with
  | .error e => .error e
  | .ok tenantId =>
      match perform (tenantIsolation .tenantApiKeys)
          (callerValues s tb caller (keyPath keyId "/rotate")) tb.rows
          (.select (fun row => ownKey keyId tenantId row &&
            row.data.stored.key.revokedAt.isNone)) with
      | some (row :: _, _) =>
          .ok ⟨caller, tenantId, keyId, (present name).getD (row.data.name ++ " (rotated)"), token⟩
      | _ => .error (.http 404 "Active API key not found.")

/-- `rotate_tenant_api_key`, from there: both statements take place, or none. -/
def writeRotation (tb : ApiKeyTables) (r : Rotation) :
    Except IdentityError ApiKeyRecord × ApiKeyTables :=
  let values := callerValues s tb r.caller (keyPath r.keyId "/rotate")
  match perform (tenantIsolation .tenantApiKeys) values tb.rows
      (.update (ownKey r.keyId r.tenantId) (revokeRow r.caller.now)) with
  | none => (.error .database, tb)
  | some (_, rows) =>
      match insertKey s values r.caller.now r.tenantId r.name (rawKey r.token)
          { tb with rows := rows } with
      | none => (.error .database, { tb with nextId := tb.nextId + 1 })
      | some (k, rows) => (.ok k, { tb with nextId := tb.nextId + 1, rows := rows })

/-- What the list says of a key. -/
structure ListedKey where
  id : Int
  name : String
  keyPrefix : String
  createdAt : Int
  lastUsedAt : Option Int
  expiresAt : Option Int
  revokedAt : Option Int
  status : String

def ApiKeyRecord.entry (k : ApiKeyRecord) : ListedKey where
  id := k.id
  name := k.name
  keyPrefix := k.keyPrefix
  createdAt := k.createdAt
  lastUsedAt := k.stored.lastUsedAt
  expiresAt := k.stored.key.expiresAt
  revokedAt := k.stored.key.revokedAt
  status := if k.stored.key.revokedAt.isSome then "revoked" else "active"

/-- `list_tenant_api_keys`. -/
def listKeys (tb : ApiKeyTables) (caller : KeyCaller) : Except IdentityError (List ListedKey) :=
  match callerTenant s caller with
  | .error e => .error e
  | .ok tenantId =>
      match perform (tenantIsolation .tenantApiKeys) (callerValues s tb caller "/keys/list")
          tb.rows (.select (fun row => row.data.stored.key.tenantId = tenantId)) with
      | none => .error .database
      | some (found, _) =>
          .ok (((found.map SecuredRow.data).mergeSort (fun a b => b.id ≤ a.id)).map
            ApiKeyRecord.entry)

/-- A request whose key was found. -/
structure KeyLookup where
  context : RequestContext
  text : String
  now : Int
  found : ApiKeyRecord

/-- `resolve_tenant` with a text that is no token, up to the key it finds. -/
def lookupKey (c : RequestContext) (text : String) (now : Int) (rows : List SecuredKey) :
    Except IdentityError KeyLookup :=
  match perform (tenantIsolation .tenantApiKeys) (contextValues (Block.authLookupContext.enter c))
      rows (.select (fun row => liveApiKey s.signing now text row.data.stored.key)) with
  | some (row :: _, _) => .ok ⟨c, text, now, row.data⟩
  | _ => .error (.http 401 "Invalid API Key.")

/-- `resolve_tenant`, from there. -/
def touchKey (l : KeyLookup) (rows : List SecuredKey) : Option (List SecuredKey) :=
  (perform (tenantIsolation .tenantApiKeys)
    (contextValues (Block.authLookupContext.enter l.context)) rows
    (.update (fun row => row.data.stored.key.keyHash = s.signing.sha256 l.text)
      (touchRow l.now))).map Prod.snd

/-! ## Runs -/

/-- What happened to the keys. -/
inductive ApiKeyFact where
  /-- A key was made, by a rotation of another. -/
  | granted (k : ApiKeyRecord) (source : Option Int) (caller : KeyCaller)
  /-- A rotation read its key. -/
  | read (keyId : Int) (caller : KeyCaller)
  | revoked (keyId : Int) (caller : KeyCaller)
  /-- A request found a key for its text. -/
  | seen (k : ApiKeyRecord) (text : String) (now : Int)
  /-- The endpoint of the request works for the tenant. -/
  | answered (tenantId : Int) (text : String) (c : RequestContext)

/-- The tables, the requests that are between their statements, and what happened. -/
structure ApiKeyService where
  tables : ApiKeyTables
  rotations : List Rotation
  lookups : List KeyLookup
  history : List ApiKeyFact

/-- Nothing happened yet. -/
def ApiKeyService.start (tenants : List Int) : ApiKeyService :=
  ⟨⟨tenants, 1, []⟩, [], [], []⟩

inductive ApiKeyAction where
  /-- A tenant is stored. -/
  | register (tenantId : Int)
  | generate (caller : KeyCaller) (name token : String)
  | revoke (caller : KeyCaller) (keyId : Int)
  | rotateRead (caller : KeyCaller) (keyId : Int) (name : Option String) (token : String)
  /-- The rotation at a place in the list of those that are open. -/
  | rotateWrite (n : Nat)
  | lookup (c : RequestContext) (text : String) (now : Int)
  | touch (n : Nat)

def apiKeyStep (st : ApiKeyService) : ApiKeyAction → Option ApiKeyService
  | .register tenantId =>
      some { st with tables := { st.tables with tenants := tenantId :: st.tables.tenants } }
  | .generate caller name token =>
      match generateKey s st.tables caller name token with
      | (.ok k, tables) =>
          some { st with tables := tables, history := st.history ++ [.granted k none caller] }
      | (.error _, tables) => some { st with tables := tables }
  | .revoke caller keyId =>
      match revokeKey s st.tables caller keyId with
      | .ok (tenantId, rows) =>
          some { st with
            tables := { st.tables with rows := rows }
            history := st.history ++
              if st.tables.rows.any (ownKey keyId tenantId) then [.revoked keyId caller] else [] }
      | .error _ => some st
  | .rotateRead caller keyId name token =>
      match readRotation s st.tables caller keyId name token with
      | .ok r =>
          some { st with
            rotations := st.rotations ++ [r]
            history := st.history ++ [.read keyId caller] }
      | .error _ => some st
  | .rotateWrite n =>
      match st.rotations[n]? with
      | none => none
      | some r =>
          match writeRotation s st.tables r with
          | (.ok k, tables) =>
              some { st with
                tables := tables
                rotations := st.rotations.eraseIdx n
                history := st.history ++
                  [.revoked r.keyId r.caller, .granted k (some r.keyId) r.caller] }
          | (.error _, tables) =>
              some { st with tables := tables, rotations := st.rotations.eraseIdx n }
  | .lookup c text now =>
      match lookupKey s c text now st.tables.rows with
      | .ok l =>
          some { st with
            lookups := st.lookups ++ [l]
            history := st.history ++ [.seen l.found text now] }
      | .error _ => some st
  | .touch n =>
      match st.lookups[n]? with
      | none => none
      | some l =>
          match touchKey s l st.tables.rows with
          | some rows =>
              some { st with
                tables := { st.tables with rows := rows }
                lookups := st.lookups.eraseIdx n
                history := st.history ++
                  [.answered l.found.stored.key.tenantId l.text l.context] }
          | none => some { st with lookups := st.lookups.eraseIdx n }

end

/-! ## The context of an endpoint -/

section

variable {s : ApiKeySetting} {tb tables : ApiKeyTables} {caller : KeyCaller} {path : String}
  {tenantId keyId : Int} {row : SecuredKey} {rows : List SecuredKey} {k : ApiKeyRecord}

theorem callerTenant_eq_ok : callerTenant s caller = .ok tenantId ↔
    resolveTenantFromAuthorization s.signing caller.now caller.headers = .ok (.int tenantId) := by
  unfold callerTenant
  split
  next tenantId' hresolve =>
    rw [hresolve]
    constructor
    · intro h
      rw [Except.ok.inj h]
    · intro h
      cases h
      rfl
  next hne hresolve =>
    rw [hresolve]
    refine iff_of_false (fun h => nomatch h) ?_
    intro h
    exact hne tenantId (Except.ok.inj h)
  next hresolve =>
    rw [hresolve]
    exact iff_of_false (fun h => nomatch h) (fun h => nomatch h)

/-- The tenant of an endpoint is the one of the session. -/
theorem sessionTenant_of_resolved {sg : Signing} {now : Int} {h : Headers} {a : Json}
    (hresolve : resolveTenantFromAuthorization sg now h = .ok a) :
    sessionTenant sg now h = some a := by
  unfold resolveTenantFromAuthorization at hresolve
  unfold sessionTenant authorizationPayload
  cases htext : present h.authorization with
  | none =>
      rw [htext] at hresolve
      cases hresolve
  | some text =>
      rw [htext] at hresolve
      dsimp only at hresolve
      rw [Option.bind_some]
      split at hresolve
      next => cases hresolve
      next => cases hresolve
      next payload _ hdecode =>
        rw [hdecode, Option.bind_some]
        split at hresolve
        next tenantId htenant =>
          cases hresolve
          exact htenant
        next => cases hresolve

/-- The paths of the keys are no public ones. -/
theorem isPublicOrAuthPath_keys (rest : String) :
    isPublicOrAuthPath ("/keys/" ++ rest) = false := by
  have hne : ∀ path : String, ("/keys/".toList.isPrefixOf path.toList) = false →
      ("/keys/" ++ rest == path) = false := by
    intro path hpath
    refine beq_false_of_ne ?_
    rintro rfl
    rw [String.toList_append, List.isPrefixOf_iff_prefix.mpr (List.prefix_append _ _)] at hpath
    cases hpath
  unfold isPublicOrAuthPath
  refine Bool.or_eq_false_iff.mpr ⟨?_, ?_⟩
  · simp only [List.contains_cons, List.contains_nil, hne "/" (by decide),
      hne "/openapi.json" (by decide), hne "/docs" (by decide), hne "/redoc" (by decide),
      hne "/health" (by decide), hne "/health/ready" (by decide), hne "/favicon.ico" (by decide),
      Bool.or_false]
  · rw [String.toList_append]
    rfl

theorem isPublicOrAuthPath_keyPath (keyId : Int) (rest : String) :
    isPublicOrAuthPath (keyPath keyId rest) = false :=
  isPublicOrAuthPath_keys _

/-- The statements of an endpoint are sent under the tenant it works for. -/
theorem tenantId_callerContext (hcaller : callerTenant s caller = .ok tenantId)
    (hpath : isPublicOrAuthPath path = false) :
    (middlewareContext s.py s.signing caller.now tb.database caller.headers path
      caller.requestId).tenantId = some tenantId.repr := by
  rw [tenantId_middlewareContext]
  unfold middlewareTenant tenantIdFromRequestHeaders
  rw [hpath, if_neg Bool.false_ne_true,
    sessionTenant_of_resolved (callerTenant_eq_ok.mp hcaller)]
  rfl

theorem shows_caller (hcaller : callerTenant s caller = .ok tenantId)
    (hpath : isPublicOrAuthPath path = false) (hrow : row.tenantId = some tenantId.repr) :
    (tenantIsolation .tenantApiKeys).shows (callerValues s tb caller path) row = true := by
  refine Bool.or_eq_true_iff.mpr (Or.inl ?_)
  unfold callerValues
  rw [ownTenant_contextValues (tenantId_callerContext hcaller hpath)]
  exact decide_eq_true hrow

theorem accepts_caller (hcaller : callerTenant s caller = .ok tenantId)
    (hpath : isPublicOrAuthPath path = false) (hrow : row.tenantId = some tenantId.repr) :
    (tenantIsolation .tenantApiKeys).accepts (callerValues s tb caller path) row = true := by
  unfold callerValues
  exact (ownTenant_contextValues (tenantId_callerContext hcaller hpath)).trans
    (decide_eq_true hrow)

/-! ## What the endpoints do -/

theorem ownKey_iff : ownKey keyId tenantId row = true ↔
    row.data.id = keyId ∧ row.data.stored.key.tenantId = tenantId := by
  unfold ownKey
  rw [Bool.and_eq_true_iff, decide_eq_true_iff, decide_eq_true_iff]

/-- The rows are under the policy of their tenant. -/
def Owned (rows : List SecuredKey) : Prop :=
  ∀ row ∈ rows, row.tenantId = some row.data.stored.key.tenantId.repr

theorem Owned.of_ownKey (howned : Owned rows) (hrow : row ∈ rows)
    (hown : ownKey keyId tenantId row = true) : row.tenantId = some tenantId.repr := by
  rw [howned row hrow, (ownKey_iff.mp hown).2]

/-- The rows after a revocation. -/
def revokeIn (now keyId tenantId : Int) (rows : List SecuredKey) : List SecuredKey :=
  rows.map (fun row => if ownKey keyId tenantId row then revokeRow now row else row)

theorem perform_revoke (howned : Owned tb.rows) (hcaller : callerTenant s caller = .ok tenantId)
    (hpath : isPublicOrAuthPath path = false) :
    perform (tenantIsolation .tenantApiKeys) (callerValues s tb caller path) tb.rows
        (.update (ownKey keyId tenantId) (revokeRow caller.now)) =
      some ([], revokeIn caller.now keyId tenantId tb.rows) := by
  refine perform_update_accepted ?_ ?_
  · intro row hrow hown
    exact shows_caller hcaller hpath (howned.of_ownKey hrow hown)
  · intro row hrow hown
    have htenant : row.tenantId = some tenantId.repr := howned.of_ownKey hrow hown
    have hrevoked : (revokeRow caller.now row).tenantId = some tenantId.repr := htenant
    exact accepts_caller hcaller hpath hrevoked

/-- A revocation takes place whatever it finds. -/
theorem revokeKey_eq (howned : Owned tb.rows) (hcaller : callerTenant s caller = .ok tenantId) :
    revokeKey s tb caller keyId = .ok (tenantId, revokeIn caller.now keyId tenantId tb.rows) := by
  unfold revokeKey
  rw [hcaller]
  dsimp only
  rw [perform_revoke howned hcaller (isPublicOrAuthPath_keyPath _ _)]

theorem revokeKey_ok {done : Int × List SecuredKey} (howned : Owned tb.rows)
    (h : revokeKey s tb caller keyId = .ok done) : callerTenant s caller = .ok done.1 ∧
      done.2 = revokeIn caller.now keyId done.1 tb.rows := by
  cases hcaller : callerTenant s caller with
  | error e =>
      unfold revokeKey at h
      rw [hcaller] at h
      cases h
  | ok tenantId =>
      rw [revokeKey_eq howned hcaller] at h
      cases h
      exact ⟨rfl, rfl⟩

/-- A row that may be stored: its name fits, its tenant is there, and its hash is a new one. -/
def Stores (tb : ApiKeyTables) (tenantId : Int) (name stored : String) (k : ApiKeyRecord) : Prop :=
  columnText 100 name = some stored ∧ tenantId ∈ tb.tenants ∧
    ∀ row ∈ tb.rows, row.data.stored.key.keyHash ≠ k.stored.key.keyHash

theorem insertKey_eq_some {now : Int} {name raw : String}
    (hcaller : callerTenant s caller = .ok tenantId) (hpath : isPublicOrAuthPath path = false) :
    insertKey s (callerValues s tb caller path) now tenantId name raw tables = some (k, rows) ↔
      ∃ stored, Stores tables tenantId name stored k ∧
        k = issuedKey s now tables.nextId tenantId stored raw ∧
        rows = tables.rows ++ [⟨some tenantId.repr, k⟩] := by
  unfold insertKey
  rw [Option.bind_eq_some_iff]
  refine exists_congr fun stored => ?_
  unfold Stores
  rw [and_assoc]
  refine and_congr_right fun _ => ?_
  dsimp only
  rw [perform, accepts_caller hcaller hpath rfl, if_pos rfl, Option.map_some]
  constructor
  · intro h
    split at h
    next hcond =>
      cases h
      rw [Bool.and_eq_true_iff, List.contains_iff_mem, Bool.not_eq_true',
        List.any_eq_false] at hcond
      refine ⟨⟨hcond.1, ?_⟩, rfl, rfl⟩
      intro row hrow heq
      exact hcond.2 row hrow (decide_eq_true heq)
    next => cases h
  · rintro ⟨⟨htenant, hnew⟩, rfl, rfl⟩
    rw [if_pos]
    rw [Bool.and_eq_true_iff, List.contains_iff_mem, Bool.not_eq_true', List.any_eq_false]
    refine ⟨htenant, ?_⟩
    intro row hrow heq
    exact hnew row hrow (of_decide_eq_true heq)

theorem generateKey_ok {name token : String}
    (h : generateKey s tb caller name token = (.ok k, tables)) :
    callerTenant s caller = .ok k.stored.key.tenantId ∧
      (∃ stored, Stores tb k.stored.key.tenantId name stored k ∧
        k = issuedKey s caller.now tb.nextId k.stored.key.tenantId stored (rawKey token)) ∧
      tables = { tb with
        nextId := tb.nextId + 1
        rows := tb.rows ++ [⟨some k.stored.key.tenantId.repr, k⟩] } := by
  unfold generateKey at h
  cases hcaller : callerTenant s caller with
  | error e =>
      rw [hcaller] at h
      cases h
  | ok tenantId =>
      rw [hcaller] at h
      dsimp only at h
      split at h
      next => cases h
      next k' rows hinsert =>
        cases h
        rcases (insertKey_eq_some hcaller (isPublicOrAuthPath_keys "generate")).mp hinsert with
          ⟨stored, hstores, rfl, rfl⟩
        exact ⟨rfl, ⟨stored, hstores, rfl⟩, rfl⟩

/-- A request that is refused, in the generation or the rotation of a key. -/
def Refused (tb tables : ApiKeyTables) : Prop :=
  tables = tb ∨ tables = { tb with nextId := tb.nextId + 1 }

theorem generateKey_error {name token : String} {e : IdentityError}
    (h : generateKey s tb caller name token = (.error e, tables)) : Refused tb tables := by
  unfold generateKey at h
  split at h
  next =>
    cases h
    exact Or.inl rfl
  next =>
    split at h
    next =>
      cases h
      exact Or.inr rfl
    next => cases h

theorem readRotation_ok {name : Option String} {token : String} {r : Rotation}
    (h : readRotation s tb caller keyId name token = .ok r) :
    callerTenant s caller = .ok r.tenantId ∧ r.caller = caller ∧ r.keyId = keyId ∧
      r.token = token ∧ ∃ row ∈ tb.rows, ownKey keyId r.tenantId row = true ∧
        row.data.stored.key.revokedAt = none ∧
        r.name = (present name).getD (row.data.name ++ " (rotated)") := by
  unfold readRotation at h
  cases hcaller : callerTenant s caller with
  | error e =>
      rw [hcaller] at h
      cases h
  | ok tenantId =>
      rw [hcaller] at h
      dsimp only at h
      split at h
      next row rest _ hselect =>
        cases h
        have hrow : row ∈ tb.rows ∧ (ownKey keyId tenantId row &&
            row.data.stored.key.revokedAt.isNone) = true :=
          mem_of_select hselect List.mem_cons_self
        rw [Bool.and_eq_true_iff, Option.isNone_iff_eq_none] at hrow
        exact ⟨rfl, rfl, rfl, rfl, row, hrow.1, hrow.2.1, hrow.2.2, rfl⟩
      next => cases h

/-- A rotation revokes its key and stores a new one, or does neither. -/
theorem writeRotation_cases {r : Rotation} (howned : Owned tb.rows)
    (hcaller : callerTenant s r.caller = .ok r.tenantId) :
    (∃ k stored, Stores tb r.tenantId r.name stored k ∧
      k = issuedKey s r.caller.now tb.nextId r.tenantId stored (rawKey r.token) ∧
      writeRotation s tb r = (.ok k, { tb with
        nextId := tb.nextId + 1
        rows := revokeIn r.caller.now r.keyId r.tenantId tb.rows ++
          [⟨some r.tenantId.repr, k⟩] })) ∨
    ((∀ stored k, k = issuedKey s r.caller.now tb.nextId r.tenantId stored (rawKey r.token) →
        ¬Stores tb r.tenantId r.name stored k) ∧
      writeRotation s tb r = (.error .database, { tb with nextId := tb.nextId + 1 })) := by
  have hpath := isPublicOrAuthPath_keyPath r.keyId "/rotate"
  have hinsert := fun k rows => @insertKey_eq_some s tb
    { tb with rows := revokeIn r.caller.now r.keyId r.tenantId tb.rows } r.caller
    (keyPath r.keyId "/rotate") r.tenantId rows k r.caller.now r.name (rawKey r.token) hcaller hpath
  have hstores : ∀ stored k, Stores { tb with
      rows := revokeIn r.caller.now r.keyId r.tenantId tb.rows } r.tenantId r.name stored k ↔
        Stores tb r.tenantId r.name stored k := by
    intro stored k
    refine and_congr_right fun _ => and_congr_right fun _ => ?_
    refine List.forall_mem_map.trans (forall₂_congr fun row _ => ?_)
    split <;> rfl
  have hwrite : writeRotation s tb r =
      match insertKey s (callerValues s tb r.caller (keyPath r.keyId "/rotate")) r.caller.now
          r.tenantId r.name (rawKey r.token)
          { tb with rows := revokeIn r.caller.now r.keyId r.tenantId tb.rows } with
      | none => (.error .database, { tb with nextId := tb.nextId + 1 })
      | some (k, rows) => (.ok k, { tb with nextId := tb.nextId + 1, rows := rows }) := by
    unfold writeRotation
    dsimp only
    rw [perform_revoke howned hcaller hpath]
  rw [hwrite]
  cases hdone : insertKey s (callerValues s tb r.caller (keyPath r.keyId "/rotate")) r.caller.now
      r.tenantId r.name (rawKey r.token)
      { tb with rows := revokeIn r.caller.now r.keyId r.tenantId tb.rows } with
  | some done =>
      rcases done with ⟨k, rows⟩
      rcases (hinsert k rows).mp hdone with ⟨stored, hnew, hk, rfl⟩
      exact Or.inl ⟨k, stored, (hstores _ _).mp hnew, hk, rfl⟩
  | none =>
      refine Or.inr ⟨?_, rfl⟩
      intro stored k hk hnew
      have hsome := (hinsert k _).mpr ⟨stored, (hstores _ _).mpr hnew, hk, rfl⟩
      rw [hdone] at hsome
      cases hsome

theorem lookupKey_ok {c : RequestContext} {text : String} {now : Int} {l : KeyLookup}
    (h : lookupKey s c text now rows = .ok l) :
    ∃ row ∈ rows, liveApiKey s.signing now text row.data.stored.key = true ∧
      l = ⟨c, text, now, row.data⟩ := by
  unfold lookupKey at h
  split at h
  next row rest _ hselect =>
    cases h
    have hrow : row ∈ rows ∧ liveApiKey s.signing now text row.data.stored.key = true :=
      mem_of_select hselect List.mem_cons_self
    exact ⟨row, hrow.1, hrow.2, rfl⟩
  next => cases h

theorem shows_lookup (c : RequestContext) (row : SecuredKey) :
    (tenantIsolation .tenantApiKeys).shows (contextValues (Block.authLookupContext.enter c)) row =
      true :=
  Bool.or_eq_true_iff.mpr (Or.inr (authLookupOn_contextValues _))

/-- A request marks the keys with its hash, which have to be of the tenant of its context. -/
theorem touchKey_eq_some {l : KeyLookup} {rows' : List SecuredKey}
    (h : touchKey s l rows = some rows') :
    rows' = rows.map (fun row =>
        if row.data.stored.key.keyHash = s.signing.sha256 l.text then touchRow l.now row else row) ∧
      ∀ row ∈ rows, row.data.stored.key.keyHash = s.signing.sha256 l.text →
        row.tenantId = some (l.context.tenantId.getD "") := by
  rcases Option.map_eq_some_iff.mp h with ⟨done, hdone, rfl⟩
  have haccepted := perform_update_isSome.mp (Option.isSome_of_eq_some hdone)
  rcases perform_update_eq_some hdone with ⟨-, hrows⟩
  refine ⟨hrows.trans (List.map_congr_left ?_), ?_⟩
  · intro row _
    rw [shows_lookup, Bool.true_and]
    exact if_congr decide_eq_true_iff rfl rfl
  · intro row hrow hhash
    have haccepts := haccepted row hrow (shows_lookup _ _) (decide_eq_true hhash)
    have htenant : sqlEq row.tenantId (some (l.context.tenantId.getD "")) = true := haccepts
    rw [sqlEq_some] at htenant
    exact of_decide_eq_true htenant

/-- A row as a key is looked up in it. -/
def storedRow (row : SecuredKey) : SecuredRow StoredApiKey :=
  ⟨row.tenantId, row.data.stored⟩

/-- Without other requests in between, a request that finds its key and marks it does what
`resolve_tenant` does. -/
theorem useApiKey_eq (s : ApiKeySetting) (now : Int) (c : RequestContext) (text : String)
    (rows : List SecuredKey) :
    useApiKey s.signing now c text (rows.map storedRow) =
      match lookupKey s c text now rows with
      | .error e => .error e
      | .ok l =>
          match touchKey s l rows with
          | none => .error .database
          | some rows => .ok (l.found.stored.key.tenantId, rows.map storedRow) := by
  have hshows : ∀ row : SecuredKey, (tenantIsolation .tenantApiKeys).shows
      (contextValues (Block.authLookupContext.enter c)) (storedRow row) =
        (tenantIsolation .tenantApiKeys).shows
          (contextValues (Block.authLookupContext.enter c)) row := fun _ => rfl
  have hselect : perform (tenantIsolation .tenantApiKeys)
      (contextValues (Block.authLookupContext.enter c)) (rows.map storedRow)
        (.select (fun row => liveApiKey s.signing now text row.data.key)) =
      (perform (tenantIsolation .tenantApiKeys) (contextValues (Block.authLookupContext.enter c))
        rows (.select (fun row => liveApiKey s.signing now text row.data.stored.key))).map
          (fun done => (done.1.map storedRow, done.2.map storedRow)) :=
    perform_select_map hshows _
  have hupdate : perform (tenantIsolation .tenantApiKeys)
      (contextValues (Block.authLookupContext.enter c)) (rows.map storedRow)
        (.update (fun row => row.data.key.keyHash = s.signing.sha256 text) (touch now)) =
      (perform (tenantIsolation .tenantApiKeys) (contextValues (Block.authLookupContext.enter c))
        rows (.update (fun row => row.data.stored.key.keyHash = s.signing.sha256 text)
          (touchRow now))).map (fun done => (done.1.map storedRow, done.2.map storedRow)) :=
    perform_update_map hshows (fun _ => rfl) (fun _ => rfl) _
  unfold useApiKey lookupKey
  dsimp only
  rw [hselect]
  cases hfound : perform (tenantIsolation .tenantApiKeys)
      (contextValues (Block.authLookupContext.enter c)) rows
      (.select (fun row => liveApiKey s.signing now text row.data.stored.key)) with
  | none => cases hfound
  | some done =>
      rcases done with ⟨found, left⟩
      have hleft : left = rows := (Prod.mk.inj (Option.some_inj.mp hfound)).2.symm
      subst hleft
      cases found with
      | nil => rfl
      | cons row rest =>
          rw [Option.map_some, List.map_cons]
          dsimp only
          rw [hupdate]
          unfold touchKey
          cases perform (tenantIsolation .tenantApiKeys)
              (contextValues (Block.authLookupContext.enter c)) left
              (.update (fun row => row.data.stored.key.keyHash = s.signing.sha256 text)
                (touchRow now)) with
          | none => rfl
          | some done => rfl

end

end AuthClaw.Tenants
