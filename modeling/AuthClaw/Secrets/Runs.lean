import AuthClaw.Identity.Revocation
import AuthClaw.Library.AsciiText
import AuthClaw.Secrets.ProviderPayloads

/-!
# Runs of the secret store

A run is a list of stores and of changes to the way texts are encrypted.  The abstract store is
a map from tenants and normalized providers to the payload that was stored last; the secrets
refine it, and every row that a run has returned resolves to what it says.

Main results:

- Theorem {lit}`kept_run`: the secrets are the payloads of the abstract store, in every run.
- Theorem {lit}`resolve_refersTo`: a row resolves by the name and by the encrypted reference.
- Theorem {lit}`secrets_kept`: texts are decrypted, and rows resolve to what was stored last.
-/

namespace AuthClaw.Secrets

open Gateway Gateway.Providers Identity PythonText

section

variable (s : SecretServices) (backend : String)

/-! ## Runs -/

/-- The variables that say how to encrypt. -/
inductive EnvelopeVariable where
  | envelopeProvider
  | kmsProvider
  | environment
  | requireRemoteKms
  | authclawKmsKeyId
  | awsKmsKeyId
  | vaultTransitKey
deriving DecidableEq, Repr

def EnvelopeVariable.name : EnvelopeVariable → String
  | .envelopeProvider => "AUTHCLAW_ENVELOPE_PROVIDER"
  | .kmsProvider => "AUTHCLAW_KMS_PROVIDER"
  | .environment => "AUTHCLAW_ENV"
  | .requireRemoteKms => "AUTHCLAW_REQUIRE_REMOTE_KMS"
  | .authclawKmsKeyId => "AUTHCLAW_AWS_KMS_KEY_ID"
  | .awsKmsKeyId => "AWS_KMS_KEY_ID"
  | .vaultTransitKey => "VAULT_TRANSIT_KEY"

/-- What happens in a run: a payload is stored, or the encryption is set up differently. -/
inductive SecretAction where
  | store (call : StoreCall)
  | setenv (setting : EnvelopeVariable) (value : Option String)

/-- The secrets, and the rows that were returned with their calls. -/
structure SecretRun where
  st : SecretState
  rows : List (StoreCall × ProviderRow)

/-- One action. -/
def secretStep (r : SecretRun) : SecretAction → SecretRun
  | .store call =>
      match storeProviderPayload s backend r.st call with
      | (.ok row, st) => ⟨st, r.rows ++ [(call, row)]⟩
      | (.error _, st) => ⟨st, r.rows⟩
  | .setenv setting value =>
      { r with st := { r.st with
        environ := Function.update r.st.environ setting.name value } }

/-- A run from some secrets. -/
def secretRun (st : SecretState) (actions : List SecretAction) : SecretRun :=
  actions.foldl (secretStep s backend) ⟨st, []⟩

/-! ## The abstract store -/

/-- The call is for the tenant and the normalized provider. -/
def StoresFor (tenantId : Int) (provider : String) (call : StoreCall) : Bool :=
  Puts backend call && (call.tenantId = tenantId) &&
    (normalizeProvider s.py call.provider = provider)

/-- The stores of a run. -/
def storeCalls (actions : List SecretAction) : List StoreCall :=
  actions.filterMap (fun
    | .store call => some call
    | .setenv _ _ => none)

/-- The payload that was stored last for a tenant and a normalized provider. -/
def lastStored (actions : List SecretAction) (tenantId : Int) (provider : String) :
    Option (List (String × Json)) :=
  ((storeCalls actions).filter (StoresFor s backend tenantId provider)).getLast?.map
    StoreCall.payload

end

section

variable {s : SecretServices} {backend : String}

/-! ## Runs refine the abstract store -/

theorem lastStored_store (actions : List SecretAction) (call : StoreCall) (tenantId : Int)
    (provider : String) :
    lastStored s backend (actions ++ [.store call]) tenantId provider =
      if StoresFor s backend tenantId provider call then some call.payload
      else lastStored s backend actions tenantId provider := by
  unfold lastStored storeCalls
  rw [List.filterMap_append, List.filter_append]
  by_cases hfor : StoresFor s backend tenantId provider call = true
  · rw [if_pos hfor]
    simp [hfor]
  · rw [if_neg hfor]
    simp [hfor]

theorem lastStored_setenv (actions : List SecretAction) (setting : EnvelopeVariable)
    (value : Option String) (tenantId : Int) (provider : String) :
    lastStored s backend (actions ++ [.setenv setting value]) tenantId provider =
      lastStored s backend actions tenantId provider := by
  unfold lastStored storeCalls
  rw [List.filterMap_append, List.filter_append]
  simp

theorem storesFor_iff {tenantId : Int} {provider : String} {call : StoreCall} :
    StoresFor s backend tenantId provider call = true ↔
      Puts backend call = true ∧ call.tenantId = tenantId ∧
        normalizeProvider s.py call.provider = provider := by
  unfold StoresFor
  simp only [Bool.and_eq_true, decide_eq_true_eq, and_assoc]

/-- The secrets of a run are those of the abstract store, each returned row refers to one of
them, and the key of the process is as it was. -/
structure Kept (s : SecretServices) (backend : String) (st : SecretState)
    (actions : List SecretAction) (r : SecretRun) : Prop where
  key : encryptionKey s backend r.st = encryptionKey s backend st
  secrets : ∀ tenantId provider payload,
    lastStored s backend actions tenantId (normalizeProvider s.py provider) = some payload →
      getSecret backend r.st (secretNameForProvider s.py tenantId provider) =
        .ok (some (s.dumps payload))
  rows : ∀ call row, (call, row) ∈ r.rows →
    RefersTo s backend (encryptionKey s backend st) row
        (secretNameForProvider s.py call.tenantId call.provider) ∧
      (lastStored s backend actions call.tenantId
        (normalizeProvider s.py call.provider)).isSome = true

/-- A store that puts nothing is not seen by the abstract store. -/
theorem lastStored_of_not_puts (actions : List SecretAction) {call : StoreCall}
    (hputs : Puts backend call = false) (tenantId : Int) (provider : String) :
    lastStored s backend (actions ++ [.store call]) tenantId provider =
      lastStored s backend actions tenantId provider := by
  rw [lastStored_store, if_neg]
  intro hfor
  rw [(storesFor_iff.mp hfor).1] at hputs
  cases hputs

theorem lastStored_store_isSome {actions : List SecretAction} {tenantId : Int}
    {provider : String} (call : StoreCall)
    (h : (lastStored s backend actions tenantId provider).isSome = true) :
    (lastStored s backend (actions ++ [.store call]) tenantId provider).isSome = true := by
  rw [lastStored_store]
  split_ifs
  · rfl
  · exact h

/-- The secret that is put is the payload of its tenant and provider, and the others stay. -/
theorem Kept.secrets_store {st st' : SecretState} {actions : List SecretAction} {r : SecretRun}
    (hkept : Kept s backend st actions r) {call : StoreCall} (hputs : Puts backend call = true)
    (hread : getSecret backend st' (secretNameForProvider s.py call.tenantId call.provider) =
      .ok (some (s.dumps call.payload)))
    (hframe : ∀ other, other ≠ secretNameForProvider s.py call.tenantId call.provider →
      getSecret backend st' other = getSecret backend r.st other)
    (tenantId : Int) (provider : String) (payload : List (String × Json))
    (hlast : lastStored s backend (actions ++ [.store call]) tenantId
      (normalizeProvider s.py provider) = some payload) :
    getSecret backend st' (secretNameForProvider s.py tenantId provider) =
      .ok (some (s.dumps payload)) := by
  rw [lastStored_store] at hlast
  by_cases hfor : StoresFor s backend tenantId (normalizeProvider s.py provider) call = true
  · rw [if_pos hfor] at hlast
    cases hlast
    rcases storesFor_iff.mp hfor with ⟨-, htenant, hprovider⟩
    have hname : secretNameForProvider s.py tenantId provider =
        secretNameForProvider s.py call.tenantId call.provider := by
      unfold secretNameForProvider
      rw [htenant, hprovider]
    rw [hname]
    exact hread
  · rw [if_neg hfor] at hlast
    rw [hframe _ ?_]
    · exact hkept.secrets tenantId provider payload hlast
    · intro hname
      rcases secretName_inj hname with ⟨htenant, hprovider⟩
      exact hfor (storesFor_iff.mpr ⟨hputs, htenant.symm, hprovider.symm⟩)

/-- A store keeps the secrets in step with the abstract store. -/
theorem kept_store (hlawful : s.Lawful) {st : SecretState} {actions : List SecretAction}
    {r : SecretRun} (hkept : Kept s backend st actions r) {call : StoreCall}
    (hpayload : JsonDictionary s call.payload) :
    Kept s backend st (actions ++ [.store call]) (secretStep s backend r (.store call)) := by
  rcases @storeProviderPayload_spec s backend hlawful r.st call hpayload with
    ⟨hputs, st', result, hstore, hread, hframe, hrow⟩ | ⟨hputs, e, hstore⟩
  · have hkey : encryptionKey s backend st' = encryptionKey s backend st := by
      refine (encryptionKey_congr (hframe _ ?_)).trans hkept.key
      exact (secretName_ne call.tenantId call.provider (by decide)).symm
    have hsecrets := hkept.secrets_store hputs hread hframe
    unfold secretStep
    simp only [hstore]
    cases result with
    | error e =>
        refine ⟨hkey, hsecrets, fun call' row hmem => ?_⟩
        rcases hkept.rows call' row hmem with ⟨hrefers, hlast⟩
        exact ⟨hrefers, lastStored_store_isSome call hlast⟩
    | ok row =>
        refine ⟨hkey, hsecrets, fun call' row' hmem => ?_⟩
        rcases List.mem_append.mp hmem with hold | hnew
        · rcases hkept.rows call' row' hold with ⟨hrefers, hlast⟩
          exact ⟨hrefers, lastStored_store_isSome call hlast⟩
        · cases List.mem_singleton.mp hnew
          have hrefers := hrow row rfl
          rw [hkey] at hrefers
          refine ⟨hrefers, ?_⟩
          rw [lastStored_store, if_pos (storesFor_iff.mpr ⟨hputs, rfl, rfl⟩)]
          rfl
  · unfold secretStep
    simp only [hstore]
    refine ⟨hkept.key, ?_, ?_⟩
    · intro tenantId provider payload hlast
      rw [lastStored_of_not_puts actions hputs] at hlast
      exact hkept.secrets tenantId provider payload hlast
    · intro call' row hmem
      rw [lastStored_of_not_puts actions hputs]
      exact hkept.rows call' row hmem

/-- A change to the encryption touches no secret. -/
theorem kept_setenv {st : SecretState} {actions : List SecretAction} {r : SecretRun}
    (hkept : Kept s backend st actions r) (setting : EnvelopeVariable) (value : Option String) :
    Kept s backend st (actions ++ [.setenv setting value])
      (secretStep s backend r (.setenv setting value)) := by
  have hframe : ∀ name, name ≠ setting.name →
      getSecret backend (secretStep s backend r (.setenv setting value)).st name =
        getSecret backend r.st name :=
    fun name hname => getSecret_congr (Function.update_of_ne hname _ _) rfl rfl
  have hkey : "AUTHCLAW_ENCRYPTION_KEY" ≠ setting.name := by
    cases setting <;> decide
  have hsetting : setting.name.toList.head? ≠ some 'a' := by
    cases setting <;> decide
  refine ⟨(encryptionKey_congr (hframe _ hkey)).trans hkept.key, ?_, ?_⟩
  · intro tenantId provider payload hlast
    rw [lastStored_setenv] at hlast
    rw [hframe _ (secretName_ne tenantId provider hsetting)]
    exact hkept.secrets tenantId provider payload hlast
  · intro call row hmem
    rw [lastStored_setenv]
    exact hkept.rows call row hmem

/-- The secrets are the payloads of the abstract store, in every run; the induction is on the
actions. -/
theorem kept_run (hlawful : s.Lawful) (st : SecretState) {actions : List SecretAction}
    (hpayloads : ∀ call, SecretAction.store call ∈ actions → JsonDictionary s call.payload) :
    Kept s backend st actions (secretRun s backend st actions) := by
  induction actions using List.reverseRecOn with
  | nil =>
      refine ⟨rfl, ?_, ?_⟩
      · intro tenantId provider payload hlast
        cases hlast
      · intro call row hmem
        cases hmem
  | append_singleton actions action ih =>
      have hkept := ih (fun call hcall => hpayloads call (List.mem_append_left _ hcall))
      have hstep : secretRun s backend st (actions ++ [action]) =
          secretStep s backend (secretRun s backend st actions) action := by
        unfold secretRun
        rw [List.foldl_append]
        rfl
      rw [hstep]
      cases action with
      | store call => exact kept_store hlawful hkept (hpayloads call (by simp))
      | setenv setting value => exact kept_setenv hkept setting value

/-! ## Rows are resolved -/

/-- The name of a row is followed. -/
theorem resolve_direct {p : ProviderSetting} {row : CredentialRow} {name text : String} {v : Json}
    (href : row.secretRef = some name) (hname : name ≠ "")
    (hget : p.getSecret name = .ok (some text)) (htext : text ≠ "")
    (hloads : p.loads text = some v) : resolveProviderPayload p row = .ok (v, some name) := by
  have hfound : (p.getSecret name).map
      (fun v => (nonemptySecret v).map (fun v => (name, v))) = .ok (some (name, text)) := by
    rw [hget]
    change Except.ok ((nonemptySecret (some text)).map _) = _
    rw [nonemptySecret_of_ne htext]
    rfl
  unfold resolveProviderPayload
  simp only [href, nonemptySecret_of_ne hname]
  rw [bind_ok hfound]
  simp only [hloads]

/-- The encrypted reference of a row without a name is followed. -/
theorem resolve_referenced {p : ProviderSetting} {row : CredentialRow}
    {name text document : String} {members : List (String × Json)} {v : Json}
    (href : row.secretRef = none) (hne : row.encryptedPayload ≠ "")
    (hdecrypt : p.decrypt row.encryptedPayload = some document)
    (hdocument : p.loads document = some (.obj members))
    (hsecret : orElseJson (getKey members "secret_ref") none = some (.str name))
    (hkey : orElseJson (getKey members "api_key") none = none)
    (hget : p.getSecret name = .ok (some text)) (htext : text ≠ "")
    (hloads : p.loads text = some v) : resolveProviderPayload p row = .ok (v, some name) := by
  have hnone : nonemptySecret none = none := rfl
  unfold resolveProviderPayload
  simp only [href, hnone]
  rw [bind_ok rfl]
  simp only [if_neg hne, hdecrypt, hdocument]
  rw [bind_ok rfl]
  simp only [hsecret, hkey]
  rw [bind_ok hget]
  simp only [nonemptySecret_of_ne htext, hloads]

theorem nodup_reference (provider : String) (stored : StoredSecret) :
    ((referenceMembers provider stored).map Prod.fst).Nodup := by
  change ["provider", "secret_ref", "secret_backend", "secret_version"].Nodup
  decide

/-- What was stored last is a payload of the run. -/
theorem dictionary_of_lastStored {actions : List SecretAction} {tenantId : Int}
    {provider : String} {payload : List (String × Json)}
    (hpayloads : ∀ call, SecretAction.store call ∈ actions → JsonDictionary s call.payload)
    (h : lastStored s backend actions tenantId provider = some payload) :
    JsonDictionary s payload := by
  rcases Option.map_eq_some_iff.mp h with ⟨call, hcall, rfl⟩
  have hmem := (List.mem_filter.mp (List.mem_of_getLast? hcall)).1
  rcases List.mem_filterMap.mp hmem with ⟨action, haction, hstore⟩
  cases action with
  | setenv setting value => cases hstore
  | store call' =>
      cases hstore
      exact hpayloads call haction

/-- A row that refers to a secret resolves to its payload, by the name and without it. -/
theorem resolve_refersTo (hlawful : s.Lawful) {st : SecretState} {row : ProviderRow}
    {name : String} {payload : List (String × Json)} (hname : name ≠ "")
    (hrefers : RefersTo s backend (encryptionKey s backend st) row name)
    (hget : getSecret backend st name = .ok (some (s.dumps payload)))
    (hpayload : JsonDictionary s payload) (tenantId : Int) {secretRef : Option String}
    (href : secretRef = some row.secretRef ∨ secretRef = none) :
    resolveProviderPayload (reader s backend st) (credentialRow tenantId row secretRef) =
      .ok (.obj payload, some name) := by
  have htext := dumps_ne_empty hlawful hpayload
  have hread := hlawful.loads_dumps payload hpayload
  rcases href with rfl | rfl
  · rw [hrefers.secretRef]
    exact resolve_direct rfl hname hget htext hread
  · rcases hrefers.decrypted with ⟨stored, hstored, hdecrypted⟩
    have hdocument := hlawful.loads_dumps _
      (hlawful.dictionary_of_texts _ (nodup_reference row.provider stored))
    have hsecret : orElseJson (getKey (textMembers (referenceMembers row.provider stored))
        "secret_ref") none = some (.str name) := by
      change orElseJson (some (.str stored.name)) none = _
      rw [hstored]
      unfold orElseJson Json.truthy
      simp [hname]
    exact resolve_referenced rfl hrefers.nonempty (hdecrypted st rfl) hdocument hsecret rfl hget
      htext hread

/-- Texts that are encrypted for the database are decrypted, whatever the environment says at
either time, and rows resolve to the payload that was stored last for their tenant and
provider. -/
theorem secrets_kept (s : SecretServices) (hlawful : s.Lawful) (backend : String) :
    (∀ st st' value draw, encryptionKey s backend st' = encryptionKey s backend st →
      (∀ encrypted, encryptForDatabase s backend st value draw = .ok encrypted →
        decryptFromDatabase s backend st' encrypted = some value) ∧
      ∀ key, encryptionKey s backend st = .ok key → remoteKmsRequired s st.environ = false →
        ∃ encrypted, encryptForDatabase s backend st value draw = .ok encrypted) ∧
    ∀ st actions, (∀ call, SecretAction.store call ∈ actions → JsonDictionary s call.payload) →
      ∀ call row, (call, row) ∈ (secretRun s backend st actions).rows →
        ∃ payload, lastStored s backend actions call.tenantId
            (normalizeProvider s.py call.provider) = some payload ∧
          ∀ secretRef, secretRef = some row.secretRef ∨ secretRef = none →
            (resolveProviderPayload (reader s backend (secretRun s backend st actions).st)
              (credentialRow call.tenantId row secretRef)).map Prod.fst = .ok (.obj payload) := by
  refine ⟨fun st st' value draw hkey => ⟨fun encrypted h => decrypt_encrypt hlawful h hkey,
    fun key h hrequired => encrypt_total hlawful value draw h hrequired⟩, ?_⟩
  intro st actions hpayloads call row hmem
  have hkept : Kept s backend st actions _ := kept_run hlawful st hpayloads
  rcases hkept.rows call row hmem with ⟨hrefers, hsome⟩
  rcases Option.isSome_iff_exists.mp hsome with ⟨payload, hlast⟩
  refine ⟨payload, hlast, fun secretRef href => ?_⟩
  rw [← hkept.key] at hrefers
  have hname : secretNameForProvider s.py call.tenantId call.provider ≠ "" :=
    secretName_ne call.tenantId call.provider (by decide)
  rw [resolve_refersTo hlawful hname hrefers (hkept.secrets _ _ payload hlast)
    (dictionary_of_lastStored hpayloads hlast) call.tenantId href]
  rfl

end

/-! ## A process with its own key -/

open Classical in
/-- Services with the JSON texts of flat objects and a key service that hides nothing. -/
noncomputable def sampleServices : SecretServices where
  py := asciiText
  bypassesPolicies := false
  loads := fun text =>
    if h : ∃ members, flatText members = text then
      some (.obj ((Classical.choose h).map (fun m => (m.1, ofScalar m.2))))
    else none
  dumps := fun members => flatText (members.map (fun m => (m.1, scalarOf m.2)))
  dictOf := fun _ => none
  sha256 := id
  fernetKey := fun key => (Base64.urlsafeDecode key.toList).any (fun bytes => bytes.length = 32)
  fernetDecrypt := fun _ _ => none
  aesEncrypt := fun _ _ plaintext => some plaintext
  aesDecrypt := fun _ _ ciphertext => some ciphertext
  kmsDataKey := fun _ seed =>
    some (List.replicate 32 (UInt8.ofNat seed), List.replicate 32 (UInt8.ofNat seed))
  kmsDecrypt := some
  vaultDataKey := fun _ _ => none
  vaultDecrypt := fun _ _ => none

theorem sampleServices_loads (members : List (String × JsonText.Scalar)) :
    sampleServices.loads (flatText members) =
      some (.obj (members.map (fun m => (m.1, ofScalar m.2)))) := by
  have hex : ∃ members', flatText members' = flatText members := ⟨members, rfl⟩
  unfold sampleServices
  simp only
  rw [dif_pos hex, flatText_injective (congrArg Identity.utf8 (Classical.choose_spec hex))]

theorem toLower_toLower (c : Char) : c.toLower.toLower = c.toLower := by
  by_cases hc : c.toNat < 128
  · have hall : ∀ n, n < 128 → (Char.ofNat n).toLower.toLower = (Char.ofNat n).toLower := by
      decide
    exact AsciiText.forall_ascii (P := fun c => c.toLower.toLower = c.toLower) hall hc
  · have hsame : c.toLower = c := AsciiText.toLower_of_not_ascii (Nat.not_lt.mp hc)
    rw [hsame, hsame]

theorem sampleServices_loads_dumps (members : List (String × Json))
    (h : JsonDictionary sampleServices members) :
    sampleServices.loads (sampleServices.dumps members) = some (.obj members) := by
  rcases h with ⟨text, htext⟩
  have hmembers : ∃ flat : List (String × JsonText.Scalar),
      members = flat.map (fun m => (m.1, ofScalar m.2)) := by
    unfold sampleServices at htext
    simp only at htext
    split_ifs at htext
    cases htext
    exact ⟨_, rfl⟩
  rcases hmembers with ⟨flat, rfl⟩
  have hback : (flat.map (fun m => (m.1, ofScalar m.2))).map (fun m => (m.1, scalarOf m.2)) =
      flat := by
    rw [List.map_map]
    conv_rhs => rw [← List.map_id flat]
    refine List.map_congr_left ?_
    rintro ⟨key, value⟩ -
    cases value <;> rfl
  change sampleServices.loads (flatText _) = _
  rw [hback]
  exact sampleServices_loads flat

/-- The lower case of a text, and underscores, are in lower case. -/
theorem asciiLower_lowered (text other : String)
    (hmem : ∀ c ∈ other.toList, c ∈ (asciiLower text).toList ∨ c = '_') :
    asciiLower other = other := by
  unfold asciiLower
  conv_rhs => rw [← String.ofList_toList (s := other), ← List.map_id other.toList]
  refine congrArg String.ofList (List.map_congr_left ?_)
  intro c hc
  rcases hmem c hc with hlower | rfl
  · have hfound : c ∈ (asciiLower text).toList := hlower
    unfold asciiLower at hfound
    rw [String.toList_ofList] at hfound
    rcases List.mem_map.mp hfound with ⟨d, -, rfl⟩
    exact toLower_toLower d
  · decide

theorem sampleServices_lawful : sampleServices.Lawful where
  loads_dumps := sampleServices_loads_dumps
  loads_empty := by
    have hnone : ¬ ∃ members, flatText members = "" := by
      rintro ⟨members, h⟩
      have hchars := congrArg String.toList h
      unfold flatText JsonText.encodeObject at hchars
      simp at hchars
    unfold sampleServices
    simp only
    rw [dif_neg hnone]
  dictionary_of_texts := by
    intro members _
    refine ⟨flatText (members.map (fun m => (m.1, m.2.elim .null .str))), ?_⟩
    rw [sampleServices_loads, List.map_map]
    unfold textMembers
    refine congrArg (fun l => some (Json.obj l)) (List.map_congr_left ?_)
    rintro ⟨key, value⟩ -
    cases value <;> rfl
  lower_lowered := asciiLower_lowered
  fernetKey_bytes := by
    intro key hkey
    change (Base64.urlsafeDecode key.toList).any (fun bytes => bytes.length = 32) = true at hkey
    cases hbytes : Base64.urlsafeDecode key.toList with
    | none =>
        rw [hbytes] at hkey
        cases hkey
    | some bytes =>
        rw [hbytes] at hkey
        exact ⟨bytes, rfl, of_decide_eq_true hkey⟩
  aes_total := fun _ _ plaintext _ _ => ⟨plaintext, rfl⟩
  aes_decrypt := by
    rintro _ _ plaintext _ ⟨⟩
    rfl
  kms_decrypt := by
    rintro _ _ _ _ ⟨⟩
    rfl
  vault_decrypt := by
    rintro _ _ _ _ ⟨⟩

/-- An environment with nothing but a key. -/
def sampleSecrets : SecretState where
  environ := fun name =>
    if name = "AUTHCLAW_ENCRYPTION_KEY" then
      some "AAAAAAAAAAAAAAAAAAAAAAAAAAAAAAAAAAAAAAAAAAA="
    else none
  cache := fun _ => none
  remote := fun _ => none

/-- A store of a key of a tenant. -/
def sampleCall (tenantId : Int) (provider key : String) : StoreCall where
  tenantId := tenantId
  provider := provider
  payload := [("api_key", .str key)]
  draw := ⟨List.replicate 12 0, List.replicate 12 0, 7, rfl, rfl⟩
  reply := ⟨true, none⟩
  now := "2026-01-01T00:00:00+00:00"

/-- Two keys of a tenant and one of another; the second is stored with an envelope. -/
def sampleActions : List SecretAction :=
  [.store (sampleCall 1 "Google Gemini" "old"), .setenv .envelopeProvider (some "kms"),
    .setenv .awsKmsKeyId (some "alias/authclaw"), .store (sampleCall 2 "gemini" "other"),
    .store (sampleCall 1 "gemini" "new")]

theorem sampleActions_dictionaries (call : StoreCall)
    (h : SecretAction.store call ∈ sampleActions) : JsonDictionary sampleServices call.payload := by
  have hkeys : ∃ key, call.payload = textMembers [("api_key", some key)] := by
    simp only [sampleActions, List.mem_cons, SecretAction.store.injEq, reduceCtorEq, false_or,
      List.not_mem_nil, or_false] at h
    rcases h with rfl | rfl | rfl <;> exact ⟨_, rfl⟩
  rcases hkeys with ⟨key, hpayload⟩
  rw [hpayload]
  exact sampleServices_lawful.dictionary_of_texts _ (List.nodup_singleton _)

/-- Three rows are returned, and each resolves to what was stored last. -/
theorem secrets_kept_gemini :
    (secretRun sampleServices "local_env" sampleSecrets sampleActions).rows.length = 3 ∧
      ∀ call row,
        (call, row) ∈ (secretRun sampleServices "local_env" sampleSecrets sampleActions).rows →
        ∃ payload, lastStored sampleServices "local_env" sampleActions call.tenantId
            (normalizeProvider sampleServices.py call.provider) = some payload ∧
          ∀ secretRef, secretRef = some row.secretRef ∨ secretRef = none →
            (resolveProviderPayload
              (reader sampleServices "local_env"
                (secretRun sampleServices "local_env" sampleSecrets sampleActions).st)
              (credentialRow call.tenantId row secretRef)).map Prod.fst = .ok (.obj payload) :=
  ⟨by decide +kernel,
    (secrets_kept sampleServices sampleServices_lawful "local_env").2 sampleSecrets sampleActions
      sampleActions_dictionaries⟩

end AuthClaw.Secrets
