import AuthClaw.Library.JsonText
import AuthClaw.Secrets.Encryption

/-!
# The credentials of providers

{lit}`store_provider_payload` puts a payload under a name made of the tenant and the provider,
and returns a row with the name and, encrypted, a reference to it.

Main results:

- Theorem {lit}`normalizeProvider_idem`: a normalized provider is its own normal form.
- Theorem {lit}`secretName_inj`: the name tells the tenant and the normalized provider.
- Theorem {lit}`storeProviderPayload_spec`: a store puts its payload under the name, touches no
  other secret and returns a row for the name or none.
-/

namespace AuthClaw.Secrets

open Gateway Gateway.Providers PythonText

/-! ## Storing a payload -/

/-- `secret_name_for_provider` -/
def secretNameForProvider (py : PyText) (tenantId : Int) (provider : String) : String :=
  s!"authclaw/tenants/{tenantId}/providers/" ++ normalizeProvider py provider

/-- What the backend outside of the process answers to a write. -/
structure Reply where
  accepted : Bool
  version : Option String
deriving DecidableEq, Repr

/-- `StoredSecret` -/
structure StoredSecret where
  name : String
  backend : String
  versionId : Option String
deriving DecidableEq, Repr

/-- What `store_provider_payload` returns. -/
structure ProviderRow where
  provider : String
  secretRef : String
  secretBackend : String
  secretVersion : Option String
  encryptedPayload : String
  keyFingerprint : String
  keyPrefix : String
  rotatedAt : String
deriving DecidableEq, Repr

section

variable (s : SecretServices) (backend : String)

/-- `_version` -/
def versionOf (value : String) : String :=
  String.ofList ((s.sha256 value).toList.take 16)

/-- The version a backend outside of the process gives. -/
def remoteVersion (value : String) (reply : Reply) : Option String :=
  if backend ∈ ["hashicorp_vault", "vault"] then some (versionOf s value)
  else if backend = "azure_key_vault" then
    some ((nonemptySecret reply.version).getD (versionOf s value))
  else reply.version

/-- `put_secret`, and the secrets after it. -/
def putSecret (st : SecretState) (name value : String) (reply : Reply) :
    Except ProviderError StoredSecret × SecretState :=
  if value = "" then (.error .secret, st)
  else if backend ∈ localBackends then
    (.ok ⟨name, backend, some (versionOf s value)⟩,
      { st with
        cache := Function.update st.cache name (some value)
        environ := Function.update st.environ name (some value) })
  else if backend ∈ remoteBackends then
    if reply.accepted then
      (.ok ⟨name, if backend = "vault" then "hashicorp_vault" else backend,
          remoteVersion s backend value reply⟩,
        { st with remote := Function.update st.remote name (some value) })
    else (.error (remoteError backend), st)
  else (.error .secret, st)

/-- `credential_fingerprint` -/
def credentialFingerprint (payload : List (String × Json)) : String :=
  let apiKey := s.py.strOrEmpty (getKey payload "api_key")
  if apiKey = "" then "" else versionOf s apiKey

/-- `credential_prefix` -/
def credentialPrefix (payload : List (String × Json)) : String :=
  let apiKey := s.py.strOrEmpty (getKey payload "api_key")
  if apiKey = "" then ""
  else if 12 < apiKey.length then
    String.ofList (apiKey.toList.take 6) ++ "..." ++
      String.ofList (apiKey.toList.drop (apiKey.length - 4))
  else String.ofList (apiKey.toList.take 3) ++ "..."

/-- The members of a reference. -/
def referenceMembers (provider : String) (stored : StoredSecret) :
    List (String × Option String) :=
  [("provider", some provider), ("secret_ref", some stored.name),
    ("secret_backend", some stored.backend), ("secret_version", stored.versionId)]

/-- A call of `store_provider_payload`, with its random bytes, the answer of the backend and the
time. -/
structure StoreCall where
  tenantId : Int
  provider : String
  payload : List (String × Json)
  draw : Draw
  reply : Reply
  now : String

/-- `store_provider_payload`, and the secrets after it. -/
def storeProviderPayload (st : SecretState) (call : StoreCall) :
    Except ProviderError ProviderRow × SecretState :=
  let provider := normalizeProvider s.py call.provider
  let name := secretNameForProvider s.py call.tenantId provider
  match putSecret s backend st name (s.dumps call.payload) call.reply with
  | (.error e, st) => (.error e, st)
  | (.ok stored, st) =>
      match encryptForDatabase s backend st
          (s.dumps (textMembers (referenceMembers provider stored))) call.draw with
      | .error e => (.error e, st)
      | .ok encrypted =>
          (.ok
            { provider := provider
              secretRef := stored.name
              secretBackend := stored.backend
              secretVersion := stored.versionId
              encryptedPayload := encrypted
              keyFingerprint := credentialFingerprint s call.payload
              keyPrefix := credentialPrefix s call.payload
              rotatedAt := call.now },
            st)

/-- The call puts its payload. -/
def Puts (call : StoreCall) : Bool :=
  backend ∈ localBackends || (backend ∈ remoteBackends && call.reply.accepted)

/-! ## Reading a row -/

/-- The manager as a reader of credentials. -/
def reader (st : SecretState) : ProviderSetting where
  toRouteSetting := s.toRouteSetting
  env := st.environ
  getSecret := getSecret backend st
  loads := s.loads
  decrypt := decryptFromDatabase s backend st
  dictOf := s.dictOf

/-- The row as it stands in the table, with the name of the secret or without. -/
def credentialRow (tenantId : Int) (row : ProviderRow) (secretRef : Option String) :
    CredentialRow where
  tenantId := tenantId
  provider := row.provider
  encryptedPayload := row.encryptedPayload
  secretRef := secretRef
  revokedAt := none
  updatedAt := none

end

/-! ## Names -/

section

variable {s : SecretServices} {backend : String}

theorem replaceChar_of_not_mem {old new : Char} {text : String} (h : old ∉ text.toList) :
    replaceChar old new text = text := by
  unfold replaceChar
  conv_rhs => rw [← String.ofList_toList (s := text), ← List.map_id text.toList]
  refine congrArg String.ofList (List.map_congr_left ?_)
  intro c hc
  rw [if_neg]
  · rfl
  · rintro rfl
    exact h hc

/-- What the blanks of a lower-case text become is in lower case, and has no blank. -/
theorem lower_replaceChar (hlawful : s.Lawful) (text : String) :
    s.py.lower (replaceChar ' ' '_' (s.py.lower text)) = replaceChar ' ' '_' (s.py.lower text) ∧
      ' ' ∉ (replaceChar ' ' '_' (s.py.lower text)).toList := by
  have hmem : ∀ c ∈ (replaceChar ' ' '_' (s.py.lower text)).toList,
      (c ∈ (s.py.lower text).toList ∨ c = '_') ∧ c ≠ ' ' := by
    intro c hc
    unfold replaceChar at hc
    rw [String.toList_ofList] at hc
    rcases List.mem_map.mp hc with ⟨d, hd, rfl⟩
    by_cases hblank : d = ' '
    · rw [if_pos hblank]
      exact ⟨Or.inr rfl, by decide⟩
    · rw [if_neg hblank]
      exact ⟨Or.inl hd, hblank⟩
  exact ⟨hlawful.lower_lowered text _ (fun c hc => (hmem c hc).1),
    fun hblank => (hmem ' ' hblank).2 rfl⟩

/-- The names that aliases stand for. -/
def aliasedProviders : List String :=
  ["gemini", "azure_openai", "anthropic", "cohere"]

theorem normalizeProvider_cases (py : PyText) (provider : String) :
    normalizeProvider py provider ∈ aliasedProviders ∨
      normalizeProvider py provider = replaceChar ' ' '_' (py.lower provider) := by
  unfold normalizeProvider
  simp only
  split_ifs
  · exact Or.inl (by decide)
  · exact Or.inl (by decide)
  · exact Or.inl (by decide)
  · exact Or.inl (by decide)
  · exact Or.inr rfl

theorem normalizeProvider_aliased {py : PyText} {provider : String}
    (h : provider ∈ aliasedProviders) : normalizeProvider py provider = provider := by
  have hascii : ∀ provider ∈ aliasedProviders,
      isAscii provider = true ∧ asciiLower provider = provider ∧ ' ' ∉ provider.toList := by
    decide
  rcases hascii provider h with ⟨hprovider, hlower, hblank⟩
  unfold normalizeProvider
  rw [py.lower_ascii provider hprovider, hlower, replaceChar_of_not_mem hblank]
  simp only [aliasedProviders, List.mem_cons, List.not_mem_nil, or_false] at h
  rcases h with rfl | rfl | rfl | rfl <;> decide

/-- A normalized provider is its own normal form. -/
theorem normalizeProvider_idem (hlawful : s.Lawful) (provider : String) :
    normalizeProvider s.py (normalizeProvider s.py provider) =
      normalizeProvider s.py provider := by
  rcases normalizeProvider_cases s.py provider with haliased | hsame
  · exact normalizeProvider_aliased haliased
  · rcases lower_replaceChar hlawful provider with ⟨hlower, hblank⟩
    rw [hsame]
    unfold normalizeProvider at hsame ⊢
    rw [hlower, replaceChar_of_not_mem hblank]
    exact hsame

/-- The name tells the tenant and the normalized provider. -/
theorem secretName_inj {py : PyText} {tenantId other : Int} {provider provider' : String}
    (h : secretNameForProvider py tenantId provider = secretNameForProvider py other provider') :
    tenantId = other ∧ normalizeProvider py provider = normalizeProvider py provider' := by
  have hsplit : ∀ (n : Int) (p : String), (secretNameForProvider py n p).toList =
      "authclaw/tenants/".toList ++ (n.repr.toList ++
        '/' :: ("providers/".toList ++ (normalizeProvider py p).toList)) := by
    intro n p
    change ("authclaw/tenants/" ++ n.repr ++ "/providers/" ++ normalizeProvider py p).toList = _
    simp
  have hdigits : ∀ n : Int, '/' ∉ n.repr.toList := by
    intro n hmem
    rcases JsonText.mem_int_repr hmem with hsign | hdigit
    · exact absurd hsign (by decide)
    · exact absurd hdigit (by decide)
  have hfirst : ∀ (n : Int) (tail : List Char),
      (n.repr.toList ++ '/' :: tail).takeWhile (· ≠ '/') = n.repr.toList := by
    intro n tail
    rw [List.takeWhile_append_of_pos, List.takeWhile_cons_of_neg (by simp), List.append_nil]
    intro c hc
    simp only [ne_eq, decide_not, Bool.not_eq_true', decide_eq_false_iff_not]
    rintro rfl
    exact hdigits n hc
  have hchars := congrArg String.toList h
  rw [hsplit, hsplit, List.append_cancel_left_eq] at hchars
  have htaken := congrArg (List.takeWhile (· ≠ '/')) hchars
  rw [hfirst, hfirst] at htaken
  refine ⟨JsonText.int_repr_inj htaken, ?_⟩
  rw [htaken, List.append_cancel_left_eq, List.cons.injEq, List.append_cancel_left_eq] at hchars
  exact String.toList_inj.mp hchars.2

/-- The names of providers begin otherwise than the names of other secrets and settings. -/
theorem secretName_ne {py : PyText} (tenantId : Int) (provider : String) {name : String}
    (h : name.toList.head? ≠ some 'a') : secretNameForProvider py tenantId provider ≠ name := by
  rintro rfl
  apply h
  change ("authclaw/tenants/" ++ tenantId.repr ++ "/providers/" ++
    normalizeProvider py provider).toList.head? = some 'a'
  simp

/-! ## One store -/

theorem getSecret_congr {st st' : SecretState} {name : String}
    (henviron : st'.environ name = st.environ name) (hcache : st'.cache name = st.cache name)
    (hremote : st'.remote name = st.remote name) :
    getSecret backend st' name = getSecret backend st name := by
  unfold getSecret
  rw [henviron, hcache, hremote]

theorem encryptionKey_congr {st st' : SecretState}
    (h : getSecret backend st' "AUTHCLAW_ENCRYPTION_KEY" =
      getSecret backend st "AUTHCLAW_ENCRYPTION_KEY") :
    encryptionKey s backend st' = encryptionKey s backend st := by
  unfold encryptionKey
  rw [h]

/-- A write that is taken is read back and touches no other secret; another changes nothing. -/
theorem putSecret_spec (st : SecretState) (name : String) {value : String} (reply : Reply)
    (hvalue : value ≠ "") :
    ((backend ∈ localBackends ∨ backend ∈ remoteBackends ∧ reply.accepted = true) ∧
      ∃ stored st', putSecret s backend st name value reply = (.ok stored, st') ∧
        stored.name = name ∧ getSecret backend st' name = .ok (some value) ∧
        ∀ other, other ≠ name → getSecret backend st' other = getSecret backend st other) ∨
    ¬ (backend ∈ localBackends ∨ backend ∈ remoteBackends ∧ reply.accepted = true) ∧
      ∃ e, putSecret s backend st name value reply = (.error e, st) := by
  unfold putSecret
  rw [if_neg hvalue]
  by_cases hlocal : backend ∈ localBackends
  · refine Or.inl ⟨Or.inl hlocal, _, _, if_pos hlocal, rfl, ?_, fun other hother => ?_⟩
    · unfold getSecret
      rw [if_pos hlocal]
      simp only [Function.update_self, nonemptySecret_of_ne hvalue]
    · exact getSecret_congr (Function.update_of_ne hother _ _) (Function.update_of_ne hother _ _)
        rfl
  · rw [if_neg hlocal]
    by_cases hremote : backend ∈ remoteBackends
    · rw [if_pos hremote]
      cases haccepted : reply.accepted with
      | true =>
          refine Or.inl ⟨Or.inr ⟨hremote, rfl⟩, _, _, if_pos rfl, rfl, ?_, fun other hother => ?_⟩
          · unfold getSecret
            rw [if_neg hlocal, if_pos hremote]
            simp
          · exact getSecret_congr rfl rfl (Function.update_of_ne hother _ _)
      | false =>
          refine Or.inr ⟨?_, _, if_neg Bool.false_ne_true⟩
          rintro (hin | ⟨-, hfalse⟩)
          · exact hlocal hin
          · cases hfalse
    · refine Or.inr ⟨?_, _, if_neg hremote⟩
      rintro (hin | ⟨hin, -⟩)
      · exact hlocal hin
      · exact hremote hin

theorem puts_iff {call : StoreCall} : Puts backend call = true ↔
    backend ∈ localBackends ∨ backend ∈ remoteBackends ∧ call.reply.accepted = true := by
  unfold Puts
  simp only [Bool.or_eq_true, Bool.and_eq_true, decide_eq_true_eq]

theorem dumps_ne_empty (hlawful : s.Lawful) {members : List (String × Json)}
    (h : JsonDictionary s members) : s.dumps members ≠ "" := by
  intro hempty
  have hread := hlawful.loads_dumps members h
  rw [hempty, hlawful.loads_empty] at hread
  cases hread

theorem secretName_normalized (hlawful : s.Lawful) (tenantId : Int) (provider : String) :
    secretNameForProvider s.py tenantId (normalizeProvider s.py provider) =
      secretNameForProvider s.py tenantId provider := by
  unfold secretNameForProvider
  rw [normalizeProvider_idem hlawful]

/-- What a row is, with regard to the name of its secret. -/
structure RefersTo (s : SecretServices) (backend : String) (key : Except ProviderError String)
    (row : ProviderRow) (name : String) : Prop where
  secretRef : row.secretRef = name
  nonempty : row.encryptedPayload ≠ ""
  decrypted : ∃ stored : StoredSecret, stored.name = name ∧ ∀ st,
    encryptionKey s backend st = key →
      decryptFromDatabase s backend st row.encryptedPayload =
        some (s.dumps (textMembers (referenceMembers row.provider stored)))

/-- A store puts its payload under the name, and returns a row for the name or none. -/
theorem storeProviderPayload_spec (hlawful : s.Lawful) (st : SecretState) {call : StoreCall}
    (hpayload : JsonDictionary s call.payload) :
    (Puts backend call = true ∧ ∃ st' result,
      storeProviderPayload s backend st call = (result, st') ∧
      getSecret backend st' (secretNameForProvider s.py call.tenantId call.provider) =
        .ok (some (s.dumps call.payload)) ∧
      (∀ other, other ≠ secretNameForProvider s.py call.tenantId call.provider →
        getSecret backend st' other = getSecret backend st other) ∧
      ∀ row, result = .ok row → RefersTo s backend (encryptionKey s backend st') row
        (secretNameForProvider s.py call.tenantId call.provider)) ∨
    Puts backend call = false ∧ ∃ e, storeProviderPayload s backend st call = (.error e, st) := by
  have hname := secretName_normalized hlawful call.tenantId call.provider
  unfold storeProviderPayload
  simp only [hname]
  rcases @putSecret_spec s backend st
      (secretNameForProvider s.py call.tenantId call.provider) _ call.reply
      (dumps_ne_empty hlawful hpayload) with
    ⟨hputs, stored, st', hput, hstored, hread, hframe⟩ | ⟨hputs, e, hput⟩
  · refine Or.inl ⟨puts_iff.mpr hputs, st', ?_⟩
    rw [hput]
    dsimp only
    cases hencrypt : encryptForDatabase s backend st'
        (s.dumps (textMembers (referenceMembers (normalizeProvider s.py call.provider) stored)))
        call.draw with
    | error e =>
        refine ⟨.error e, rfl, hread, hframe, ?_⟩
        intro row hrow
        cases hrow
    | ok encrypted =>
        refine ⟨_, rfl, hread, hframe, ?_⟩
        intro row hrow
        cases hrow
        exact
          { secretRef := hstored
            nonempty := encrypted_ne_empty hlawful hencrypt
            decrypted :=
              ⟨stored, hstored, fun st'' hkey => decrypt_encrypt hlawful hencrypt hkey⟩ }
  · refine Or.inr ⟨?_, e, ?_⟩
    · rw [← Bool.not_eq_true, puts_iff]
      exact hputs
    · rw [hput]

end

end AuthClaw.Secrets
