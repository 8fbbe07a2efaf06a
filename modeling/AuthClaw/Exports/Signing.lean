import AuthClaw.Exports.Canonical
import AuthClaw.Library.Base64

/-!
# Signed exports

{lit}`create_signed_export_package` hashes the payload of an export, puts the hash into
a manifest and signs the manifest.  {lit}`verify_signed_export_package` checks a package:
the hash against the payload, and the signature against the public key, both of which it
takes from the package.

Signatures are ideal: a signature is one of a single key on a single message.

Main results:

- Theorem {lit}`verify_valid_iff`: the verifier accepts exactly the packages that pass
  its checks.
- Theorem {lit}`payloadBound_iff`: the payload of a package that passes is bound when its
  two forms agree.
- Theorem {lit}`export_authentic_iff`: when an accepted package is an authentic one.
-/

namespace AuthClaw.Exports

open PythonText

/-! ## Signatures and hashes -/

/-- An exception: the name of its class, and whether the class is one of
`InvalidSignature`, `ValueError` and `TypeError`. -/
structure ExportError where
  name : String
  handled : Bool
deriving DecidableEq

/-- The cryptography the exports use. -/
structure ExportCrypto (Key : Type) where
  /-- `hashlib.sha256(data).hexdigest()` -/
  sha256Hex : List UInt8 → String
  /-- The PEM text of the public key. -/
  publicPem : Key → String
  /-- `load_pem_public_key` -/
  loadPublicKey : String → Except ExportError Key
  /-- `sign` with a salt. -/
  sign : Key → List UInt8 → List UInt8 → List UInt8
  /-- `verify` -/
  verify : Key → List UInt8 → List UInt8 → Except ExportError Unit

/-- `_b64url`. -/
def b64url (data : List UInt8) : String :=
  String.ofList (Base64.encodeUnpadded data)

/-- `_b64url_decode`. -/
def b64urlDecode (data : String) : Except ExportError (List UInt8) :=
  if data.toList.all (fun c => c.toNat < 128) then
    match Base64.decodeUnpadded data.toList with
    | some bytes => .ok bytes
    | none => .error ⟨"Error", true⟩
  else .error ⟨"UnicodeEncodeError", true⟩

/-- The decoder reads back what the encoder writes. -/
theorem b64urlDecode_b64url (data : List UInt8) : b64urlDecode (b64url data) = .ok data := by
  have hascii : (b64url data).toList.all (fun c => c.toNat < 128) = true := by
    rw [b64url, String.toList_ofList, List.all_eq_true]
    intro c hc
    rw [Base64.encodeUnpadded, Base64.stripPadding_urlsafeEncode] at hc
    simpa using (Base64.mem_encode hc).2
  unfold b64urlDecode
  rw [if_pos hascii, b64url, String.toList_ofList, Base64.decodeUnpadded_encodeUnpadded]

section

variable {Key : Type} (c : ExportCrypto Key)

/-- The hash as the manifest carries it. -/
def payloadHash (bytes : List UInt8) : String :=
  "sha256-" ++ c.sha256Hex bytes

/-! ## Signing -/

/-- What a call of `create_signed_export_package` reads besides the payload. -/
structure ExportCall where
  tenantId : Option Int
  exportType : String
  frameworkScope : String
  timeframe : Option (List (String × Json))
  generatedAt : String
  hashChainRoot : String
  recordsChecked : Int
  salt : List UInt8

/-- `_export_signing_key_id`. -/
def signingKeyId (key : Key) : String :=
  "authclaw-export-" ++
    String.ofList ((c.sha256Hex (utf8Bytes (c.publicPem key).toList)).toList.take 16)

/-- `str(tenant_id or "")`. -/
def tenantText : Option Int → String
  | some n => if n = 0 then "" else n.repr
  | none => ""

/-- `timeframe or {"from": None, "to": generated_at}`. -/
def timeframeJson (call : ExportCall) : Json :=
  match call.timeframe with
  | some (m :: ms) => .obj (m :: ms)
  | _ => .obj [("from", .null), ("to", .str call.generatedAt)]

/-- The manifest before it is signed. -/
def unsignedManifest (key : Key) (call : ExportCall) (hash : String) : List (String × Json) :=
  [("version", .str "authclaw.signed-export.v1"),
    ("tenant", .str (tenantText call.tenantId)),
    ("timeframe", timeframeJson call),
    ("hash_chain_root", .str call.hashChainRoot),
    ("records_checked", .int call.recordsChecked),
    ("framework_scope", .str (if call.frameworkScope = "" then "all" else call.frameworkScope)),
    ("export_type", .str call.exportType),
    ("payload_sha256", .str hash),
    ("signing_key_id", .str (signingKeyId c key)),
    ("signing_algorithm", .str "RSASSA-PSS-SHA256"),
    ("generated_at", .str call.generatedAt),
    ("public_key_pem", .str (c.publicPem key))]

/-- The package `create_signed_export_package` returns. -/
structure SignedPackage where
  manifest : List (String × Json)
  payload : List (String × PyValue)
  payloadB64 : String

/-- `create_signed_export_package`. -/
def createSignedExportPackage (key : Key) (call : ExportCall)
    (payload : List (String × PyValue)) : SignedPackage :=
  let payloadBytes := canonicalBytes (.obj payload)
  let manifest := unsignedManifest c key call (payloadHash c payloadBytes)
  let signature := c.sign key call.salt (canonicalJsonBytes (.obj manifest))
  { manifest := manifest ++ [("signature", .str (b64url signature))]
    payload := payload
    payloadB64 := b64url payloadBytes }

/-! ## Verifying -/

/-- `SignedExportVerifyRequest`. -/
structure VerifyRequest where
  payload : Option (List (String × Json))
  payloadB64 : Option String
  manifest : List (String × Json)

/-- What the verifier answers. -/
structure Verdict where
  valid : Bool
  reason : String
  details : List (String × Json)

/-- A refusal. -/
def Verdict.invalid (reason : String) : Verdict where
  valid := false
  reason := reason
  details := []

/-- The bytes the verifier hashes; `none` when the package has no payload. -/
def VerifyRequest.payloadBytes (r : VerifyRequest) : Option (Except ExportError (List UInt8)) :=
  match r.payloadB64 with
  | some text =>
      if text = "" then r.payload.map (fun p => .ok (canonicalJsonBytes (.obj p)))
      else some (b64urlDecode text)
  | none => r.payload.map (fun p => .ok (canonicalJsonBytes (.obj p)))

/-- `unsigned_manifest`. -/
def VerifyRequest.unsigned (r : VerifyRequest) : List (String × Json) :=
  r.manifest.filter (fun m => m.1 != "signature")

/-- The hash the manifest carries. -/
def VerifyRequest.expectedHash (r : VerifyRequest) : Option Json :=
  getKey r.manifest "payload_sha256"

/-- `expected_hash == actual_hash`. -/
def hashMatches (expected : Option Json) (actual : String) : Bool :=
  match expected with
  | some (.str text) => text = actual
  | _ => false

/-- A member that may be missing. -/
def orNull (value : Option Json) : Json :=
  value.getD .null

/-- The signature of the manifest; a value that is no text cannot be padded. -/
def VerifyRequest.signature (r : VerifyRequest) : Except ExportError (List UInt8) :=
  match getKey r.manifest "signature" with
  | some (.str text) => b64urlDecode text
  | _ => .error ⟨"TypeError", true⟩

/-- The public key of the manifest, when it has one; a value that is no text cannot be
encoded. -/
def VerifyRequest.publicKey (r : VerifyRequest) : Except ExportError (Option Key) :=
  match getKey r.unsigned "public_key_pem" with
  | some (.str pem) => if pem = "" then .ok none else (c.loadPublicKey pem).map some
  | some v => if v.truthy then .error ⟨"AttributeError", false⟩ else .ok none
  | none => .ok none

/-- The `try` block of `verify_signed_export_package`. -/
def attemptVerify (r : VerifyRequest) (payloadBytes : Except ExportError (List UInt8)) :
    Except ExportError Verdict := do
  let bytes ← payloadBytes
  let actual := payloadHash c bytes
  if hashMatches r.expectedHash actual then
    let signature ← r.signature
    match ← r.publicKey c with
    | none => return .invalid "missing public key"
    | some key =>
        let _ ← c.verify key signature (canonicalJsonBytes (.obj r.unsigned))
        return {
          valid := true
          reason := "signature verified"
          details := [("payload_sha256", .str actual),
            ("signing_key_id", orNull (getKey r.unsigned "signing_key_id")),
            ("hash_chain_root", orNull (getKey r.unsigned "hash_chain_root")),
            ("framework_scope", orNull (getKey r.unsigned "framework_scope")),
            ("export_type", orNull (getKey r.unsigned "export_type"))] }
  else
    return {
      valid := false
      reason := "payload hash mismatch"
      details := [("expected", orNull r.expectedHash), ("actual", .str actual)] }

/-- `verify_signed_export_package`. -/
def verifySignedExportPackage (r : VerifyRequest) : Except ExportError Verdict :=
  if (getKey r.manifest "signature").isNone then .ok (.invalid "missing signature manifest")
  else
    match r.payloadBytes with
    | none => .ok (.invalid "missing payload")
    | some payloadBytes =>
        match attemptVerify c r payloadBytes with
        | .ok verdict => .ok verdict
        | .error e =>
            if e.handled then .ok (.invalid ("signature verification failed: " ++ e.name))
            else .error e

/-- The package passes the checks, with the key and the signature it carries. -/
structure Passes (r : VerifyRequest) (key : Key) (signature : List UInt8) : Prop where
  payload : ∃ bytes, r.payloadBytes = some (.ok bytes) ∧
    hashMatches r.expectedHash (payloadHash c bytes) = true
  signed : r.signature = .ok signature
  carries : r.publicKey c = .ok (some key)
  verified : c.verify key signature (canonicalJsonBytes (.obj r.unsigned)) = .ok ()

variable {c}

theorem attemptVerify_valid {r : VerifyRequest} {payloadBytes : Except ExportError (List UInt8)}
    {v : Verdict} (h : attemptVerify c r payloadBytes = .ok v) (hvalid : v.valid = true) :
    ∃ bytes key signature, payloadBytes = .ok bytes ∧
      hashMatches r.expectedHash (payloadHash c bytes) = true ∧
      r.signature = .ok signature ∧ r.publicKey c = .ok (some key) ∧
      c.verify key signature (canonicalJsonBytes (.obj r.unsigned)) = .ok () := by
  rcases bind_eq_ok h with ⟨bytes, hbytes, h⟩
  simp only at h
  split_ifs at h with hhash
  · rcases bind_eq_ok h with ⟨signature, hsignature, h⟩
    rcases bind_eq_ok h with ⟨carried, hcarried, h⟩
    cases carried with
    | none =>
        cases h
        cases hvalid
    | some key =>
        rcases bind_eq_ok h with ⟨_, hverify, -⟩
        exact ⟨bytes, key, signature, hbytes, hhash, hsignature, hcarried, hverify⟩
  · cases h
    cases hvalid

/-- The verifier accepts exactly the packages that pass its checks. -/
theorem verify_valid_iff {r : VerifyRequest} :
    (∃ v, verifySignedExportPackage c r = .ok v ∧ v.valid = true) ↔
      ∃ key signature, Passes c r key signature := by
  constructor
  · rintro ⟨v, hv, hvalid⟩
    unfold verifySignedExportPackage at hv
    split_ifs at hv with hmissing
    · cases hv
      cases hvalid
    · cases hpayload : r.payloadBytes with
      | none =>
          rw [hpayload] at hv
          cases hv
          cases hvalid
      | some payloadBytes =>
          rw [hpayload] at hv
          simp only at hv
          cases hattempt : attemptVerify c r payloadBytes with
          | ok verdict =>
              rw [hattempt] at hv
              cases hv
              rcases attemptVerify_valid hattempt hvalid with
                ⟨bytes, key, signature, rfl, hhash, hsignature, hkey, hverify⟩
              exact ⟨key, signature, ⟨bytes, hpayload, hhash⟩, hsignature, hkey, hverify⟩
          | error e =>
              rw [hattempt] at hv
              simp only at hv
              split_ifs at hv
              cases hv
              cases hvalid
  · rintro ⟨key, signature, ⟨bytes, hbytes, hhash⟩, hsignature, hkey, hverify⟩
    have hsome : (getKey r.manifest "signature").isNone = false := by
      unfold VerifyRequest.signature at hsignature
      cases hmember : getKey r.manifest "signature" with
      | none =>
          rw [hmember] at hsignature
          cases hsignature
      | some _ => rfl
    unfold verifySignedExportPackage
    rw [if_neg (by simp [hsome]), hbytes]
    simp only [attemptVerify, bind, Except.bind, hhash, if_true, hsignature, hkey, hverify, pure,
      Except.pure]
    exact ⟨_, rfl, rfl⟩

/-! ## Authenticity -/

variable (c)

/-- Every payload the package supplies has the hash the manifest carries. -/
def PayloadBound (r : VerifyRequest) : Prop :=
  (∀ payload, r.payload = some payload →
      hashMatches r.expectedHash (payloadHash c (canonicalJsonBytes (.obj payload))) = true) ∧
    ∀ text, r.payloadB64 = some text → text ≠ "" →
      ∃ bytes, b64urlDecode text = .ok bytes ∧
        hashMatches r.expectedHash (payloadHash c bytes) = true

/-- The manifest carries a signature of the key, and the payload is the one signed. -/
def Authentic (signer : List UInt8 → Option (Key × List UInt8)) (own : Key) (r : VerifyRequest) :
    Prop :=
  (∃ signature, r.signature = .ok signature ∧
      signer signature = some (own, canonicalJsonBytes (.obj r.unsigned))) ∧
    PayloadBound c r

/-- A payload that is supplied besides its encoded form has the hash of the manifest,
too. -/
def FormsAgree (r : VerifyRequest) : Prop :=
  ∀ payload text, r.payload = some payload → r.payloadB64 = some text → text ≠ "" →
    hashMatches r.expectedHash (payloadHash c (canonicalJsonBytes (.obj payload))) = true

variable {c}

/-- For a package that passes, the payload is bound exactly when its forms agree. -/
theorem payloadBound_iff {r : VerifyRequest} {key : Key} {signature : List UInt8}
    (h : Passes c r key signature) : PayloadBound c r ↔ FormsAgree c r := by
  rcases h.payload with ⟨bytes, hbytes, hhash⟩
  constructor
  · intro hbound payload text hpayload _ _
    exact hbound.1 payload hpayload
  · intro hagree
    unfold VerifyRequest.payloadBytes at hbytes
    constructor
    · intro payload hpayload
      rw [hpayload] at hbytes
      cases hb64 : r.payloadB64 with
      | none =>
          rw [hb64] at hbytes
          cases hbytes
          exact hhash
      | some text =>
          rw [hb64] at hbytes
          by_cases htext : text = ""
          · simp only [htext, if_true] at hbytes
            cases hbytes
            exact hhash
          · exact hagree payload text hpayload hb64 htext
    · intro text htext hne
      rw [htext] at hbytes
      simp only [hne, if_false, Option.some.injEq] at hbytes
      exact ⟨bytes, hbytes, hhash⟩

/-- An accepted package is an authentic one exactly when, if it passes the checks, the key
it carries is the own one and the two forms of the payload agree. -/
theorem export_authentic_iff {Key : Type} (c : ExportCrypto Key)
    (signer : List UInt8 → Option (Key × List UInt8))
    (hsigner : ∀ key signature message,
      c.verify key signature message = .ok () → signer signature = some (key, message))
    (own : Key) (r : VerifyRequest) :
    ((∃ v, verifySignedExportPackage c r = .ok v ∧ v.valid = true) → Authentic c signer own r) ↔
      ∀ key signature, Passes c r key signature → key = own ∧ FormsAgree c r := by
  rw [verify_valid_iff]
  constructor
  · intro hauthentic key signature hpasses
    rcases hauthentic ⟨key, signature, hpasses⟩ with ⟨⟨signature', hsigned, howner⟩, hbound⟩
    rw [hpasses.signed] at hsigned
    cases hsigned
    have hkey := hsigner key signature _ hpasses.verified
    rw [howner] at hkey
    cases hkey
    exact ⟨rfl, (payloadBound_iff hpasses).mp hbound⟩
  · rintro htrusted ⟨key, signature, hpasses⟩
    rcases htrusted key signature hpasses with ⟨rfl, hagree⟩
    exact ⟨⟨signature, hpasses.signed, hsigner key signature _ hpasses.verified⟩,
      (payloadBound_iff hpasses).mpr hagree⟩

end

/-! ## Foreign keys and foreign payloads -/

/-- Two keys, `true` the own one; a signature is the key before the message, and a hash is
the encoded text. -/
def toyCrypto : ExportCrypto Bool where
  sha256Hex := b64url
  publicPem := fun key => if key then "own" else "foreign"
  loadPublicKey := fun pem =>
    if pem = "own" then .ok true
    else if pem = "foreign" then .ok false
    else .error ⟨"ValueError", true⟩
  sign := fun key _ message => (if key then 1 else 0) :: message
  verify := fun key signature message =>
    if signature = (if key then 1 else 0) :: message then .ok ()
    else .error ⟨"InvalidSignature", true⟩

/-- The key and the message of a signature. -/
def toySigner : List UInt8 → Option (Bool × List UInt8)
  | [] => none
  | b :: message => some (b = 1, message)

theorem toySigner_of_verify (key : Bool) (signature message : List UInt8)
    (h : toyCrypto.verify key signature message = .ok ()) :
    toySigner signature = some (key, message) := by
  by_cases heq : signature = (if key then 1 else 0) :: message
  · rw [heq]
    cases key <;> rfl
  · simp [toyCrypto, heq] at h

/-- A manifest for a payload under a key. -/
def toyManifest (key : Bool) (payload : List (String × Json)) : List (String × Json) :=
  [("payload_sha256", .str (payloadHash toyCrypto (canonicalJsonBytes (.obj payload)))),
    ("public_key_pem", .str (toyCrypto.publicPem key))]

/-- A package with a payload signed by a key, which may come with another payload. -/
def toyRequest (key : Bool) (signed : List (String × Json))
    (supplied : Option (List (String × Json))) : VerifyRequest where
  payload := supplied
  payloadB64 := some (b64url (canonicalJsonBytes (.obj signed)))
  manifest := toyManifest key signed ++
    [("signature", .str (b64url (toyCrypto.sign key []
      (canonicalJsonBytes (.obj (toyManifest key signed))))))]

theorem toyRequest_passes (key : Bool) (signed : List (String × Json))
    (supplied : Option (List (String × Json)))
    (hpayload : b64url (canonicalJsonBytes (.obj signed)) ≠ "") :
    Passes toyCrypto (toyRequest key signed supplied) key
      (toyCrypto.sign key [] (canonicalJsonBytes (.obj (toyManifest key signed)))) where
  payload := by
    refine ⟨canonicalJsonBytes (.obj signed), ?_, ?_⟩
    · simp only [VerifyRequest.payloadBytes, toyRequest, if_neg hpayload]
      rw [b64urlDecode_b64url]
    · simp [VerifyRequest.expectedHash, toyRequest, toyManifest, getKey, hashMatches]
  signed := by
    have hmember : getKey (toyRequest key signed supplied).manifest "signature" =
        some (.str (b64url (toyCrypto.sign key []
          (canonicalJsonBytes (.obj (toyManifest key signed)))))) := rfl
    unfold VerifyRequest.signature
    rw [hmember]
    exact b64urlDecode_b64url _
  carries := by
    cases key <;> rfl
  verified := by
    have hunsigned : (toyRequest key signed supplied).unsigned = toyManifest key signed := rfl
    rw [hunsigned]
    simp [toyCrypto]

/-- A package under the own key is an authentic one. -/
theorem export_authentic_own :
    Authentic toyCrypto toySigner true (toyRequest true [] none) := by
  have hpayload : b64url (canonicalJsonBytes (.obj [])) ≠ "" := by decide +kernel
  have hpasses := toyRequest_passes true [] none hpayload
  refine (export_authentic_iff toyCrypto toySigner toySigner_of_verify true
    (toyRequest true [] none)).mpr ?_ (verify_valid_iff.mpr ⟨_, _, hpasses⟩)
  intro key signature hother
  have hkey := hother.carries
  rw [hpasses.carries] at hkey
  cases hkey
  refine ⟨rfl, ?_⟩
  intro payload text hnone
  cases hnone

/-- The verifier accepts a package under a foreign key, and one whose payload is not the
one that was signed. -/
theorem verify_accepts_forged :
    ((∃ v, verifySignedExportPackage toyCrypto (toyRequest false [] none) = .ok v ∧
        v.valid = true) ∧
      ¬ Authentic toyCrypto toySigner true (toyRequest false [] none)) ∧
    ((∃ v, verifySignedExportPackage toyCrypto
          (toyRequest true [] (some [("tenant_id", .int 999999)])) = .ok v ∧ v.valid = true) ∧
      ¬ Authentic toyCrypto toySigner true
        (toyRequest true [] (some [("tenant_id", .int 999999)]))) := by
  have hpayload : b64url (canonicalJsonBytes (.obj [])) ≠ "" := by decide +kernel
  have hforeign := toyRequest_passes false [] none hpayload
  have hother := toyRequest_passes true [] (some [("tenant_id", .int 999999)]) hpayload
  refine ⟨⟨verify_valid_iff.mpr ⟨_, _, hforeign⟩, ?_⟩, ⟨verify_valid_iff.mpr ⟨_, _, hother⟩, ?_⟩⟩
  · rintro ⟨⟨signature, hsigned, howner⟩, -⟩
    rw [hforeign.signed] at hsigned
    cases hsigned
    cases howner
  · rintro ⟨-, hbound⟩
    have hhash := hbound.1 _ rfl
    have hdiffer : hashMatches
        (some (.str (payloadHash toyCrypto (canonicalJsonBytes (.obj [])))))
        (payloadHash toyCrypto (canonicalJsonBytes (.obj [("tenant_id", .int 999999)]))) =
        false := by
      decide +kernel
    exact absurd (hdiffer.symm.trans hhash) (by decide)

end AuthClaw.Exports
