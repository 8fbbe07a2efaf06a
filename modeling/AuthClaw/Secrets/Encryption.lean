import AuthClaw.Gateway.ProviderSelection
import AuthClaw.Library.Base64

/-!
# Encryption for the database

{lit}`encrypt_for_database` writes one of two formats, chosen by the environment: an envelope
whose data key a key service has made, or a text under the key of the process.  Where the key
service fails the second is written instead of the first, unless production requires the
service.  {lit}`decrypt_from_database` tells the formats, and an older third one, by their
prefix.

The ciphers, the key services, the hash and the JSON texts are parameters, with the laws that
are relied on.

Main results:

- Theorem {lit}`decryptWithEnvelope_seal`: an envelope is opened in every environment.
- Theorem {lit}`decrypt_encrypt`: what is encrypted is decrypted in every environment with the
  same key of the process.
- Theorem {lit}`encrypt_total`: only a required key service keeps a text from being encrypted.
-/

namespace AuthClaw.Secrets

open Gateway Gateway.Providers PythonText

/-! ## What the manager is made with -/

/-- The random bytes of a call, and what tells the data keys of its calls apart. -/
structure Draw where
  nonce : List UInt8
  envelopeNonce : List UInt8
  seed : Nat
  nonce_length : nonce.length = 12
  envelopeNonce_length : envelopeNonce.length = 12

/-- The interpreter, the JSON texts, the hash, the ciphers and the key services. -/
structure SecretServices extends RouteSetting where
  loads : String → Option Json
  /-- `json.dumps` of a dictionary. -/
  dumps : List (String × Json) → String
  dictOf : Json → Option (List (String × Json))
  /-- `hashlib.sha256(...).hexdigest()` -/
  sha256 : String → String
  /-- `Fernet` takes the key. -/
  fernetKey : String → Bool
  fernetDecrypt : String → String → Option String
  /-- `AESGCM(key).encrypt(nonce, plaintext, None)` -/
  aesEncrypt : List UInt8 → List UInt8 → List UInt8 → Option (List UInt8)
  aesDecrypt : List UInt8 → List UInt8 → List UInt8 → Option (List UInt8)
  /-- A data key of a KMS key and its encryption. -/
  kmsDataKey : String → Nat → Option (List UInt8 × List UInt8)
  kmsDecrypt : List UInt8 → Option (List UInt8)
  /-- A data key of a Vault key and its encryption, a text. -/
  vaultDataKey : String → Nat → Option (List UInt8 × String)
  vaultDecrypt : String → String → Option (List UInt8)

/-- A dictionary of texts, some of them null. -/
def textMembers (members : List (String × Option String)) : List (String × Json) :=
  members.map (fun m => (m.1, m.2.elim .null .str))

/-- Some text is read as the dictionary. -/
def JsonDictionary (s : SecretServices) (members : List (String × Json)) : Prop :=
  ∃ text, s.loads text = some (.obj members)

/-- The laws that the manager relies on: a JSON text is read back, a lower-case text is its own
lower case, and a cipher or a key service decrypts what it has encrypted. -/
structure SecretServices.Lawful (s : SecretServices) : Prop where
  loads_dumps : ∀ members, JsonDictionary s members →
    s.loads (s.dumps members) = some (.obj members)
  loads_empty : s.loads "" = none
  dictionary_of_texts : ∀ members : List (String × Option String),
    (members.map Prod.fst).Nodup → JsonDictionary s (textMembers members)
  lower_lowered : ∀ text other : String,
    (∀ c ∈ other.toList, c ∈ (s.py.lower text).toList ∨ c = '_') → s.py.lower other = other
  fernetKey_bytes : ∀ key, s.fernetKey key = true →
    ∃ bytes, Base64.urlsafeDecode key.toList = some bytes ∧ bytes.length = 32
  aes_total : ∀ key nonce plaintext, key.length = 32 → nonce.length = 12 →
    ∃ ciphertext, s.aesEncrypt key nonce plaintext = some ciphertext
  aes_decrypt : ∀ key nonce plaintext ciphertext,
    s.aesEncrypt key nonce plaintext = some ciphertext →
      s.aesDecrypt key nonce ciphertext = some plaintext
  kms_decrypt : ∀ keyId seed key encrypted, s.kmsDataKey keyId seed = some (key, encrypted) →
    s.kmsDecrypt encrypted = some key
  vault_decrypt : ∀ keyName seed key encrypted,
    s.vaultDataKey keyName seed = some (key, encrypted) →
      keyName ≠ "" ∧ s.vaultDecrypt keyName encrypted = some key

/-! ## Secrets by name -/

/-- `os.environ`, `_LOCAL_SECRET_CACHE` and what the backend keeps. -/
structure SecretState where
  environ : String → Option String
  cache : String → Option String
  remote : String → Option String

/-- The backends that are in the process. -/
def localBackends : List String :=
  ["local_env", "local"]

/-- What a backend outside of the process raises. -/
def remoteError (backend : String) : ProviderError :=
  if backend ∈ ["azure_key_vault", "google_secret_manager"] then .other else .secret

/-- The backends outside of the process. -/
def remoteBackends : List String :=
  ["aws_secrets_manager", "hashicorp_vault", "vault", "azure_key_vault", "google_secret_manager"]

/-- `get_secret` -/
def getSecret (backend : String) (st : SecretState) (name : String) :
    Except ProviderError (Option String) :=
  if backend ∈ localBackends then
    match nonemptySecret (st.environ name) with
    | some value => .ok (some value)
    | none => .ok (st.cache name)
  else if backend ∈ remoteBackends then
    match st.remote name with
    | some value => .ok (some value)
    | none => .error (remoteError backend)
  else .error .secret

section

variable (s : SecretServices) (backend : String)

/-- `encryption_key` -/
def encryptionKey (st : SecretState) : Except ProviderError String := do
  match nonemptySecret (← getSecret backend st "AUTHCLAW_ENCRYPTION_KEY") with
  | none => throw .secret
  | some key =>
      if key.length < 32 then throw .secret
      else if s.fernetKey key then return key
      else throw .secret

/-! ## Texts and bytes -/

/-- `value.encode("utf-8")` -/
def utf8 (text : String) : List UInt8 :=
  text.toByteArray.data.toList

/-- `value.decode("utf-8")` -/
def utf8Decode (bytes : List UInt8) : Option String :=
  String.fromUTF8? ⟨⟨bytes⟩⟩

/-- `base64.urlsafe_b64encode(bytes).decode("utf-8")` -/
def b64Text (bytes : List UInt8) : String :=
  String.ofList (Base64.urlsafeEncode bytes)

/-- `base64.urlsafe_b64decode(text.encode("utf-8"))` -/
def b64Bytes (text : String) : Option (List UInt8) :=
  Base64.urlsafeDecode text.toList

/-- What comes after the first colon. -/
def afterColon (text : List Char) : Option (List Char) :=
  (text.dropWhile (· ≠ ':')).tail?

/-- `text.split(":", 2)[2]` -/
def thirdPart (text : String) : Option String :=
  ((afterColon text.toList).bind afterColon).map String.ofList

def envelopePrefix : String :=
  "v3:envelope:"

def aesPrefix : String :=
  "v2:aes256gcm:"

/-! ## Envelopes -/

/-- `_envelope_provider` -/
def envelopeProvider (environ : String → Option String) : String :=
  s.py.lower (s.py.strip
    ((nonemptySecret (environ "AUTHCLAW_ENVELOPE_PROVIDER")).getD
      ((nonemptySecret (environ "AUTHCLAW_KMS_PROVIDER")).getD "")))

/-- `_is_production` -/
def isProduction (environ : String → Option String) : Bool :=
  s.py.lower ((environ "AUTHCLAW_ENV").getD "development") ∈ ["production", "prod"]

/-- Production that requires the key service. -/
def remoteKmsRequired (environ : String → Option String) : Bool :=
  isProduction s environ &&
    s.py.lower ((environ "AUTHCLAW_REQUIRE_REMOTE_KMS").getD "") ∈ ["1", "true", "yes", "on"]

/-- `_aws_kms_key_id` -/
def awsKmsKeyId (environ : String → Option String) : Option String :=
  (nonemptySecret (environ "AUTHCLAW_AWS_KMS_KEY_ID")).or
    (nonemptySecret (environ "AWS_KMS_KEY_ID"))

/-- `_vault_transit_key` -/
def vaultTransitKey (environ : String → Option String) : String :=
  (environ "VAULT_TRANSIT_KEY").getD "authclaw-tenant-key"

def awsProviders : List String :=
  ["aws", "aws_kms", "kms"]

def vaultProviders : List String :=
  ["vault", "hashicorp_vault"]

/-- `_generate_envelope_data_key`: the data key, its encryption and the name of the key that
encrypts it. -/
def generateEnvelopeDataKey (environ : String → Option String) (provider : String) (seed : Nat) :
    Option (List UInt8 × List UInt8 × String) :=
  if provider ∈ awsProviders then do
    let keyId ← awsKmsKeyId environ
    let (key, encrypted) ← s.kmsDataKey keyId seed
    return (key, encrypted, keyId)
  else if provider ∈ vaultProviders then do
    let keyName := vaultTransitKey environ
    let (key, encrypted) ← s.vaultDataKey keyName seed
    return (key, utf8 encrypted, keyName)
  else none

/-- `_decrypt_envelope_data_key` -/
def decryptEnvelopeDataKey (environ : String → Option String) (provider : String)
    (encrypted : List UInt8) (keyId : Option String) : Option (List UInt8) :=
  if provider ∈ awsProviders then s.kmsDecrypt encrypted
  else if provider ∈ vaultProviders then do
    let keyName := (nonemptySecret keyId).getD (vaultTransitKey environ)
    s.vaultDecrypt keyName (← utf8Decode encrypted)
  else none

/-- The members of an envelope. -/
def envelopeMembers (provider keyId encryptedKey ciphertext : String) :
    List (String × Option String) :=
  [("provider", some provider), ("key_id", some keyId),
    ("encrypted_data_key", some encryptedKey), ("ciphertext", some ciphertext),
    ("alg", some "AES-256-GCM")]

/-- An envelope, when nothing raises. -/
def sealEnvelope (environ : String → Option String) (provider value : String) (draw : Draw) :
    Option String := do
  let (key, encryptedKey, keyId) ← generateEnvelopeDataKey s environ provider draw.seed
  let ciphertext ← s.aesEncrypt key draw.envelopeNonce (utf8 value)
  let payload := envelopeMembers provider keyId (b64Text encryptedKey)
    (b64Text (draw.envelopeNonce ++ ciphertext))
  return envelopePrefix ++ b64Text (utf8 (s.dumps (textMembers payload)))

/-- `_encrypt_with_envelope` -/
def encryptWithEnvelope (environ : String → Option String) (value : String) (draw : Draw) :
    Except ProviderError (Option String) :=
  let provider := envelopeProvider s environ
  if provider ∈ ["", "local", "local_env", "disabled", "none"] then .ok none
  else
    match sealEnvelope s environ provider value draw with
    | some envelope => .ok (some envelope)
    | none => if remoteKmsRequired s environ then .error .other else .ok none

/-- `payload[key].encode("utf-8")` as base64, where the member is a text. -/
def memberBytes (members : List (String × Json)) (key : String) : Option (List UInt8) :=
  match getKey members key with
  | some (.str text) => b64Bytes text
  | _ => none

/-- `payload.get("key_id")`, where it is a text. -/
def memberText (members : List (String × Json)) (key : String) : Option String :=
  match getKey members key with
  | some (.str text) => some text
  | _ => none

/-- `_decrypt_with_envelope` -/
def decryptWithEnvelope (environ : String → Option String) (encrypted : String) :
    Option String := do
  let bytes ← b64Bytes (← thirdPart encrypted)
  match ← s.loads (← utf8Decode bytes) with
  | .obj members =>
      let provider := s.py.lower
        (((orElseJson (getKey members "provider") none).map s.py.str).getD
          (envelopeProvider s environ))
      let key ← decryptEnvelopeDataKey s environ provider
        (← memberBytes members "encrypted_data_key") (memberText members "key_id")
      let ciphertext ← memberBytes members "ciphertext"
      utf8Decode (← s.aesDecrypt key (ciphertext.take 12) (ciphertext.drop 12))
  | _ => none

/-! ## The formats -/

/-- `encrypt_for_database` -/
def encryptForDatabase (st : SecretState) (value : String) (draw : Draw) :
    Except ProviderError String := do
  match nonemptySecret (← encryptWithEnvelope s st.environ value draw) with
  | some envelope => return envelope
  | none =>
      let key ← encryptionKey s backend st
      match (b64Bytes key).bind (fun bytes => s.aesEncrypt bytes draw.nonce (utf8 value)) with
      | some ciphertext => return aesPrefix ++ b64Text (draw.nonce ++ ciphertext)
      | none => throw .other

/-- `decrypt_from_database`, when nothing raises. -/
def decryptFromDatabase (st : SecretState) (encrypted : String) : Option String :=
  if envelopePrefix.toList.isPrefixOf encrypted.toList then
    decryptWithEnvelope s st.environ encrypted
  else
    match encryptionKey s backend st with
    | .error _ => none
    | .ok key =>
        if aesPrefix.toList.isPrefixOf encrypted.toList then do
          let payload ← b64Bytes (← thirdPart encrypted)
          utf8Decode (← s.aesDecrypt (← b64Bytes key) (payload.take 12) (payload.drop 12))
        else s.fernetDecrypt key encrypted

end

/-! ## Round trips of texts -/

theorem utf8Decode_utf8 (text : String) : utf8Decode (utf8 text) = some text := by
  unfold utf8Decode utf8 String.fromUTF8?
  exact dif_pos text.isValidUTF8

theorem b64Bytes_b64Text (bytes : List UInt8) : b64Bytes (b64Text bytes) = some bytes := by
  unfold b64Bytes b64Text Base64.urlsafeDecode Base64.urlsafeEncode
  rw [String.toList_ofList]
  exact Base64.a2b_encode bytes

theorem afterColon_append {head rest : List Char} (h : ':' ∉ head) :
    afterColon (head ++ ':' :: rest) = some rest := by
  unfold afterColon
  rw [List.dropWhile_append_of_pos]
  · rw [List.dropWhile_cons_of_neg (by simp)]
    rfl
  · intro c hc
    simp only [ne_eq, decide_not, Bool.not_eq_true', decide_eq_false_iff_not]
    rintro rfl
    exact h hc

/-- The third part of a text that begins with a format. -/
theorem thirdPart_append (first second : List Char) {format : String} (rest : String)
    (hformat : format.toList = first ++ ':' :: (second ++ [':'])) (hfirst : ':' ∉ first)
    (hsecond : ':' ∉ second) : thirdPart (format ++ rest) = some rest := by
  unfold thirdPart
  rw [String.toList_append, hformat]
  have hparts : first ++ ':' :: (second ++ [':']) ++ rest.toList =
      first ++ ':' :: (second ++ ':' :: rest.toList) := by
    simp
  rw [hparts, afterColon_append hfirst, Option.bind_some, afterColon_append hsecond,
    Option.map_some, String.ofList_toList]

theorem thirdPart_envelope (rest : String) : thirdPart (envelopePrefix ++ rest) = some rest :=
  thirdPart_append "v3".toList "envelope".toList rest (by decide) (by decide) (by decide)

theorem thirdPart_aes (rest : String) : thirdPart (aesPrefix ++ rest) = some rest :=
  thirdPart_append "v2".toList "aes256gcm".toList rest (by decide) (by decide) (by decide)

theorem isPrefixOf_append (format rest : String) :
    format.toList.isPrefixOf (format ++ rest).toList = true := by
  rw [String.toList_append, List.isPrefixOf_iff_prefix]
  exact List.prefix_append _ _

theorem not_isPrefixOf_aes (rest : String) :
    envelopePrefix.toList.isPrefixOf (aesPrefix ++ rest).toList = false := by
  rw [String.toList_append]
  rfl

theorem nonemptySecret_of_ne {value : String} (h : value ≠ "") :
    nonemptySecret (some value) = some value := by
  unfold nonemptySecret
  simp [h]

/-! ## Envelopes are opened -/

section

variable {s : SecretServices} {backend : String} {environ : String → Option String}

/-- A data key is recovered in every environment; its provider has its own lower case. -/
theorem generateEnvelopeDataKey_spec (hlawful : s.Lawful) {provider : String} {seed : Nat}
    {key encrypted : List UInt8} {keyId : String}
    (h : generateEnvelopeDataKey s environ provider seed = some (key, encrypted, keyId)) :
    provider ≠ "" ∧ s.py.lower provider = provider ∧ ∀ environ',
      decryptEnvelopeDataKey s environ' provider encrypted (some keyId) = some key := by
  have hlower : ∀ provider ∈ awsProviders ++ vaultProviders,
      provider ≠ "" ∧ isAscii provider = true ∧ asciiLower provider = provider := by
    decide
  unfold generateEnvelopeDataKey at h
  unfold decryptEnvelopeDataKey
  split_ifs at h with haws hvault
  · rcases hlower provider (List.mem_append_left _ haws) with ⟨hne, hascii, hsame⟩
    refine ⟨hne, (s.py.lower_ascii provider hascii).trans hsame, fun environ' => ?_⟩
    rcases Option.bind_eq_some_iff.mp h with ⟨name, -, hmake⟩
    rcases Option.bind_eq_some_iff.mp hmake with ⟨⟨made, sealed⟩, hdata, hpure⟩
    cases hpure
    rw [if_pos haws]
    exact hlawful.kms_decrypt _ _ _ _ hdata
  · rcases hlower provider (List.mem_append_right _ hvault) with ⟨hne, hascii, hsame⟩
    refine ⟨hne, (s.py.lower_ascii provider hascii).trans hsame, fun environ' => ?_⟩
    rcases Option.bind_eq_some_iff.mp h with ⟨⟨made, sealed⟩, hdata, hpure⟩
    cases hpure
    rcases hlawful.vault_decrypt _ _ _ _ hdata with ⟨hname, hdecrypt⟩
    rw [if_neg haws, if_pos hvault]
    simp only [nonemptySecret_of_ne hname, Option.getD_some, utf8Decode_utf8]
    exact hdecrypt

/-- The members of an envelope that is read. -/
theorem getKey_envelope (provider keyId encryptedKey ciphertext : String) :
    getKey (textMembers (envelopeMembers provider keyId encryptedKey ciphertext)) "provider" =
        some (.str provider) ∧
      memberText (textMembers (envelopeMembers provider keyId encryptedKey ciphertext)) "key_id" =
        some keyId ∧
      memberBytes (textMembers (envelopeMembers provider keyId encryptedKey ciphertext))
        "encrypted_data_key" = b64Bytes encryptedKey ∧
      memberBytes (textMembers (envelopeMembers provider keyId encryptedKey ciphertext))
        "ciphertext" = b64Bytes ciphertext :=
  ⟨rfl, rfl, rfl, rfl⟩

theorem nodup_envelope (provider keyId encryptedKey ciphertext : String) :
    ((envelopeMembers provider keyId encryptedKey ciphertext).map Prod.fst).Nodup := by
  change ["provider", "key_id", "encrypted_data_key", "ciphertext", "alg"].Nodup
  decide

/-- An envelope is opened in every environment. -/
theorem decryptWithEnvelope_seal (hlawful : s.Lawful) {provider value envelope : String}
    {draw : Draw} (h : sealEnvelope s environ provider value draw = some envelope) :
    (∃ rest, envelope = envelopePrefix ++ rest) ∧
      ∀ environ', decryptWithEnvelope s environ' envelope = some value := by
  unfold sealEnvelope at h
  rcases Option.bind_eq_some_iff.mp h with ⟨⟨key, encryptedKey, keyId⟩, hkey, hrest⟩
  rcases Option.bind_eq_some_iff.mp hrest with ⟨ciphertext, hcipher, hpure⟩
  cases hpure
  refine ⟨⟨_, rfl⟩, fun environ' => ?_⟩
  rcases generateEnvelopeDataKey_spec hlawful hkey with ⟨hprovider, hlower, hrecovered⟩
  rcases getKey_envelope provider keyId (b64Text encryptedKey)
    (b64Text (draw.envelopeNonce ++ ciphertext)) with ⟨hname, hid, hsealed, hpayload⟩
  have hread := hlawful.loads_dumps _ (hlawful.dictionary_of_texts _
    (nodup_envelope provider keyId (b64Text encryptedKey)
      (b64Text (draw.envelopeNonce ++ ciphertext))))
  have hpresent : orElseJson (some (.str provider)) none = some (.str provider) := by
    unfold orElseJson Json.truthy
    simp [hprovider]
  unfold decryptWithEnvelope
  simp only [thirdPart_envelope, b64Bytes_b64Text, utf8Decode_utf8, hread, hname, hid, hsealed,
    hpayload, hpresent, Option.bind_eq_bind, Option.bind_some, Option.map_some, Option.getD_some]
  change (decryptEnvelopeDataKey s environ' (s.py.lower provider) encryptedKey (some keyId)).bind
    _ = some value
  rw [hlower, hrecovered environ', Option.bind_some,
    List.take_left' draw.envelopeNonce_length, List.drop_left' draw.envelopeNonce_length,
    hlawful.aes_decrypt _ _ _ _ hcipher, Option.bind_some, utf8Decode_utf8]

/-! ## What is encrypted is decrypted -/

/-- Where the key service is not used or fails there is no envelope, unless it is required. -/
theorem encryptWithEnvelope_cases (s : SecretServices) (environ : String → Option String)
    (value : String) (draw : Draw) :
    encryptWithEnvelope s environ value draw = .ok none ∨
      (∃ provider envelope, sealEnvelope s environ provider value draw = some envelope ∧
        encryptWithEnvelope s environ value draw = .ok (some envelope)) ∨
      remoteKmsRequired s environ = true ∧
        encryptWithEnvelope s environ value draw = .error .other := by
  unfold encryptWithEnvelope
  by_cases hoff : envelopeProvider s environ ∈ ["", "local", "local_env", "disabled", "none"]
  · exact Or.inl (if_pos hoff)
  · simp only [if_neg hoff]
    cases hseal : sealEnvelope s environ (envelopeProvider s environ) value draw with
    | some envelope => exact Or.inr (Or.inl ⟨_, envelope, hseal, rfl⟩)
    | none =>
        cases hrequired : remoteKmsRequired s environ with
        | true => exact Or.inr (Or.inr ⟨rfl, rfl⟩)
        | false => exact Or.inl rfl

/-- A call writes an envelope, or a text under the key of the process. -/
theorem encryptForDatabase_cases {st : SecretState} {value encrypted : String} {draw : Draw}
    (h : encryptForDatabase s backend st value draw = .ok encrypted) :
    (∃ provider, sealEnvelope s st.environ provider value draw = some encrypted) ∨
      ∃ key bytes ciphertext, encryptionKey s backend st = .ok key ∧ b64Bytes key = some bytes ∧
        s.aesEncrypt bytes draw.nonce (utf8 value) = some ciphertext ∧
        encrypted = aesPrefix ++ b64Text (draw.nonce ++ ciphertext) := by
  unfold encryptForDatabase at h
  rcases bind_eq_ok h with ⟨envelope, henvelope, hrest⟩
  cases hpresent : nonemptySecret envelope with
  | some text =>
      rw [hpresent] at hrest
      cases hrest
      have htext : envelope = some encrypted := (Option.filter_eq_some_iff.mp hpresent).1
      left
      rcases encryptWithEnvelope_cases s st.environ value draw with
        hnone | ⟨provider, sealed, hseal, hsome⟩ | ⟨-, herror⟩
      · cases htext.symm.trans (Except.ok.inj (henvelope.symm.trans hnone))
      · cases htext.symm.trans (Except.ok.inj (henvelope.symm.trans hsome))
        exact ⟨provider, hseal⟩
      · cases henvelope.symm.trans herror
  | none =>
      rw [hpresent] at hrest
      rcases bind_eq_ok hrest with ⟨key, hkey, hwrite⟩
      right
      cases hbytes : b64Bytes key with
      | none =>
          rw [hbytes] at hwrite
          cases hwrite
      | some bytes =>
          rw [hbytes, Option.bind_some] at hwrite
          cases hcipher : s.aesEncrypt bytes draw.nonce (utf8 value) with
          | none =>
              rw [hcipher] at hwrite
              cases hwrite
          | some ciphertext =>
              rw [hcipher] at hwrite
              cases hwrite
              exact ⟨key, bytes, ciphertext, hkey, hbytes, hcipher, rfl⟩

/-- What is encrypted is decrypted, in every environment with the same key of the process. -/
theorem decrypt_encrypt (hlawful : s.Lawful) {st st' : SecretState} {value encrypted : String}
    {draw : Draw} (h : encryptForDatabase s backend st value draw = .ok encrypted)
    (hkey : encryptionKey s backend st' = encryptionKey s backend st) :
    decryptFromDatabase s backend st' encrypted = some value := by
  unfold decryptFromDatabase
  rcases encryptForDatabase_cases h with
    ⟨provider, hseal⟩ | ⟨key, bytes, ciphertext, hwritten, hbytes, hcipher, rfl⟩
  · rcases decryptWithEnvelope_seal hlawful hseal with ⟨⟨rest, rfl⟩, hopen⟩
    rw [if_pos (isPrefixOf_append envelopePrefix rest)]
    exact hopen st'.environ
  · rw [not_isPrefixOf_aes, if_neg Bool.false_ne_true, hkey, hwritten]
    simp only [isPrefixOf_append, if_true, thirdPart_aes, b64Bytes_b64Text, hbytes,
      Option.bind_eq_bind, Option.bind_some]
    rw [List.take_left' draw.nonce_length, List.drop_left' draw.nonce_length,
      hlawful.aes_decrypt _ _ _ _ hcipher, Option.bind_some, utf8Decode_utf8]

/-- What is encrypted is not empty. -/
theorem encrypted_ne_empty (hlawful : s.Lawful) {st : SecretState} {value encrypted : String}
    {draw : Draw} (h : encryptForDatabase s backend st value draw = .ok encrypted) :
    encrypted ≠ "" := by
  have hformat : ∀ format rest : String, format.toList ≠ [] → format ++ rest ≠ "" := by
    intro format rest hformat hempty
    have hchars := congrArg String.toList hempty
    rw [String.toList_append] at hchars
    exact hformat (List.append_eq_nil_iff.mp hchars).1
  rcases encryptForDatabase_cases h with
    ⟨provider, hseal⟩ | ⟨key, bytes, ciphertext, -, -, -, rfl⟩
  · rcases decryptWithEnvelope_seal hlawful hseal with ⟨⟨rest, rfl⟩, -⟩
    exact hformat envelopePrefix rest (by decide)
  · exact hformat aesPrefix _ (by decide)

theorem encryptionKey_bytes (hlawful : s.Lawful) {st : SecretState} {key : String}
    (h : encryptionKey s backend st = .ok key) :
    ∃ bytes, b64Bytes key = some bytes ∧ bytes.length = 32 := by
  unfold encryptionKey at h
  rcases bind_eq_ok h with ⟨value, -, hrest⟩
  cases hpresent : nonemptySecret value with
  | none =>
      rw [hpresent] at hrest
      cases hrest
  | some text =>
      rw [hpresent] at hrest
      dsimp only at hrest
      by_cases hshort : text.length < 32
      · rw [if_pos hshort] at hrest
        cases hrest
      · rw [if_neg hshort] at hrest
        cases hfernet : s.fernetKey text with
        | false =>
            rw [hfernet, if_neg Bool.false_ne_true] at hrest
            cases hrest
        | true =>
            rw [hfernet, if_pos rfl] at hrest
            cases hrest
            exact hlawful.fernetKey_bytes key hfernet

/-- With a key of the process, only a key service that is required and fails keeps a text from
being encrypted. -/
theorem encrypt_total (hlawful : s.Lawful) {st : SecretState} {key : String} (value : String)
    (draw : Draw) (hkey : encryptionKey s backend st = .ok key)
    (hrequired : remoteKmsRequired s st.environ = false) :
    ∃ encrypted, encryptForDatabase s backend st value draw = .ok encrypted := by
  have henvelope : ∃ envelope, encryptWithEnvelope s st.environ value draw = .ok envelope := by
    rcases encryptWithEnvelope_cases s st.environ value draw with
      hnone | ⟨_, sealed, -, hsome⟩ | ⟨htrue, -⟩
    · exact ⟨none, hnone⟩
    · exact ⟨some sealed, hsome⟩
    · rw [hrequired] at htrue
      cases htrue
  rcases henvelope with ⟨envelope, henvelope⟩
  rcases encryptionKey_bytes hlawful hkey with ⟨bytes, hbytes, hlength⟩
  rcases hlawful.aes_total bytes draw.nonce (utf8 value) hlength draw.nonce_length with
    ⟨ciphertext, hcipher⟩
  unfold encryptForDatabase
  rw [bind_ok henvelope]
  cases nonemptySecret envelope with
  | some text => exact ⟨text, rfl⟩
  | none =>
      simp only
      rw [bind_ok hkey, hbytes, Option.bind_some, hcipher]
      exact ⟨_, rfl⟩

end

end AuthClaw.Secrets
