import AuthClaw.Exports.Signing

/-!
# Signed exports and their readers

The endpoints return a signed package as a JSON response.  The response encoder writes
points in time and decimals its own way, while the bytes that were hashed hold their
{lit}`str`.  The client gets the payload twice: as JSON, and as the encoded bytes.

Main results:

- Theorem {lit}`write_aligned`: the two writings of a document differ exactly where it
  holds a point in time or a decimal.
- Theorem {lit}`verify_encoded`: the encoded payload of a package always verifies.
- Theorem {lit}`roundTrips_iff`: the payload of a package verifies exactly when it is
  plain.
-/

namespace AuthClaw.Exports

open PythonText JsonText

/-! ## The response -/

mutual

/-- The document as the client parses it from the response. -/
def jsonResponse : PyValue → Json
  | .null => .null
  | .bool b => .bool b
  | .int n => .int n
  | .float text zero => .float text zero
  | .str s => .str s
  | .arr items => .arr (jsonResponseItems items)
  | .obj members => .obj (jsonResponseMembers members)
  | .datetime t => .str t.isoformat
  | .decimal _ encoded => .float encoded.text encoded.zero

def jsonResponseItems : List PyValue → List Json
  | [] => []
  | item :: rest => jsonResponse item :: jsonResponseItems rest

def jsonResponseMembers : List (String × PyValue) → List (String × Json)
  | [] => []
  | (key, value) :: rest => (key, jsonResponse value) :: jsonResponseMembers rest

end

mutual

/-- The document holds no point in time and no decimal. -/
def plain : PyValue → Bool
  | .arr items => plainItems items
  | .obj members => plainMembers members
  | .datetime _ => false
  | .decimal _ _ => false
  | _ => true

def plainItems : List PyValue → Bool
  | [] => true
  | item :: rest => plain item && plainItems rest

def plainMembers : List (String × PyValue) → Bool
  | [] => true
  | (_, value) :: rest => plain value && plainMembers rest

end

theorem jsonResponseItems_eq (items : List PyValue) :
    jsonResponseItems items = items.map jsonResponse := by
  induction items with
  | nil => rfl
  | cons item rest ih => rw [jsonResponseItems, ih, List.map_cons]

theorem jsonResponseMembers_eq (members : List (String × PyValue)) :
    jsonResponseMembers members = members.map (fun m => (m.1, jsonResponse m.2)) := by
  induction members with
  | nil => rfl
  | cons m rest ih => rw [jsonResponseMembers, ih, List.map_cons]

theorem plainItems_iff {items : List PyValue} :
    plainItems items = true ↔ ∀ a ∈ items, plain a = true := by
  induction items with
  | nil => simp [plainItems]
  | cons item rest ih => rw [plainItems, Bool.and_eq_true, ih, List.forall_mem_cons]

theorem plainMembers_iff {members : List (String × PyValue)} :
    plainMembers members = true ↔ ∀ m ∈ members, plain m.2 = true := by
  induction members with
  | nil => simp [plainMembers]
  | cons m rest ih => rw [plainMembers, Bool.and_eq_true, ih, List.forall_mem_cons]

/-! ## The two writings -/

/-- A point in time is written with a space and sent with a letter. -/
theorem text_ne_isoformat (t : Timestamp) : t.text ≠ t.isoformat := by
  intro h
  have hchars := congrArg String.toList h
  simp only [Timestamp.text, Timestamp.isoformat, String.toList_append, List.append_assoc] at hchars
  have hrest := List.append_cancel_left hchars
  simp at hrest

/-- A string is not aligned with a number. -/
theorem encodeString_number_aligned (s : String) (n : NumberText) :
    Aligned (encodeString s) n.text.toList False := by
  intro r r' heq
  rcases n.numeric with ⟨c, rest, htext, hquote⟩
  rw [htext, encodeString, List.cons_append, List.cons_append, List.cons.injEq] at heq
  exact absurd heq.1.symm hquote

mutual

/-- The text that was hashed and the text of what the client received differ where the
document is not plain. -/
theorem write_aligned : (v : PyValue) →
    Aligned (write (jsonDefault v)) (write (jsonResponse v)) (plain v = true)
  | .null => aligned_self rfl
  | .bool _ => aligned_self rfl
  | .int _ => aligned_self rfl
  | .float _ _ => aligned_self rfl
  | .str _ => aligned_self rfl
  | .arr items => by
      have hitems := joinWith_aligned ',' (writeItems_aligned items)
      have hopen : Aligned ['['] ['['] True := aligned_self trivial
      have hclose : Aligned [']'] [']'] True := aligned_self trivial
      have hall := hopen.append (hitems.append hclose)
      simp only [jsonDefault, jsonResponse, write, writeItems_eq, jsonDefaultItems_eq,
        jsonResponseItems_eq, List.map_map]
      refine hall.imp ?_
      rintro ⟨-, hp, -⟩
      rw [plain, plainItems_iff]
      exact hp
  | .obj members => by
      have hmembers := @writeObject_aligned PyValue (fun v => write (jsonDefault v))
        (fun v => write (jsonResponse v)) (fun v => plain v = true) members
        (writeMembers_aligned members)
      simp only [jsonDefault, jsonResponse, write, writeMembers_eq, jsonDefaultMembers_eq,
        jsonResponseMembers_eq, List.map_map]
      refine hmembers.imp ?_
      intro hp
      rw [plain, plainMembers_iff]
      exact hp
  | .datetime t => (encodeString_aligned t.text t.isoformat).imp
      (fun heq => absurd heq (text_ne_isoformat t))
  | .decimal text encoded => (encodeString_number_aligned text encoded).imp False.elim

theorem writeItems_aligned : (items : List PyValue) → ∀ a ∈ items,
    Aligned (write (jsonDefault a)) (write (jsonResponse a)) (plain a = true)
  | [] => by simp
  | item :: rest => List.forall_mem_cons.mpr ⟨write_aligned item, writeItems_aligned rest⟩

theorem writeMembers_aligned : (members : List (String × PyValue)) → ∀ m ∈ members,
    Aligned (write (jsonDefault m.2)) (write (jsonResponse m.2)) (plain m.2 = true)
  | [] => by simp
  | (_, value) :: rest => List.forall_mem_cons.mpr ⟨write_aligned value, writeMembers_aligned rest⟩

end

mutual

/-- A plain document is sent as it is written. -/
theorem jsonResponse_of_plain : (v : PyValue) → plain v = true → jsonResponse v = jsonDefault v
  | .null, _ => rfl
  | .bool _, _ => rfl
  | .int _, _ => rfl
  | .float _ _, _ => rfl
  | .str _, _ => rfl
  | .arr items, h => by
      rw [jsonResponse, jsonDefault, jsonResponseItems_of_plain items h]
  | .obj members, h => by
      rw [jsonResponse, jsonDefault, jsonResponseMembers_of_plain members h]
  | .datetime _, h => by cases h
  | .decimal _ _, h => by cases h

theorem jsonResponseItems_of_plain : (items : List PyValue) → plainItems items = true →
    jsonResponseItems items = jsonDefaultItems items
  | [], _ => rfl
  | item :: rest, h => by
      rw [plainItems, Bool.and_eq_true] at h
      rw [jsonResponseItems, jsonDefaultItems, jsonResponse_of_plain item h.1,
        jsonResponseItems_of_plain rest h.2]

theorem jsonResponseMembers_of_plain : (members : List (String × PyValue)) →
    plainMembers members = true → jsonResponseMembers members = jsonDefaultMembers members
  | [], _ => rfl
  | (key, value) :: rest, h => by
      rw [plainMembers, Bool.and_eq_true] at h
      rw [jsonResponseMembers, jsonDefaultMembers, jsonResponse_of_plain value h.1,
        jsonResponseMembers_of_plain rest h.2]

end

/-- The bytes that were hashed are those of what the client received exactly when the
document is plain. -/
theorem canonicalBytes_eq_iff (v : PyValue) :
    canonicalBytes v = canonicalJsonBytes (jsonResponse v) ↔ plain v = true := by
  constructor
  · intro h
    have htext := utf8Bytes_injective h
    have happend : write (jsonDefault v) ++ [] = write (jsonResponse v) ++ [] := by rw [htext]
    exact (write_aligned v _ _ happend).1
  · intro h
    rw [jsonResponse_of_plain v h]
    rfl

/-! ## The round trip -/

section

variable {Key : Type} {c : ExportCrypto Key} {key : Key}

/-- The documented behaviour of the keys and signatures. -/
structure SoundKey (c : ExportCrypto Key) (key : Key) : Prop where
  pem_ne_empty : c.publicPem key ≠ ""
  load_publicPem : c.loadPublicKey (c.publicPem key) = .ok key
  verify_sign : ∀ salt message, c.verify key (c.sign key salt message) message = .ok ()

/-- The package as the client hands it on with its payload. -/
def SignedPackage.withPayload (p : SignedPackage) : VerifyRequest where
  payload := some (jsonResponseMembers p.payload)
  payloadB64 := none
  manifest := p.manifest

/-- The package as the client hands it on with its encoded payload. -/
def SignedPackage.withEncoded (p : SignedPackage) : VerifyRequest where
  payload := none
  payloadB64 := some p.payloadB64
  manifest := p.manifest

/-- A request with the manifest of a created package passes when the bytes it brings have
the hash. -/
theorem passes_of_created (hsound : SoundKey c key) (call : ExportCall)
    (payload : List (String × PyValue)) {r : VerifyRequest} {bytes : List UInt8}
    (hmanifest : r.manifest = (createSignedExportPackage c key call payload).manifest)
    (hbytes : r.payloadBytes = some (.ok bytes))
    (hhash : c.sha256Hex bytes = c.sha256Hex (canonicalBytes (.obj payload))) :
    ∃ signature, Passes c r key signature := by
  have hunsigned : r.unsigned =
      unsignedManifest c key call (payloadHash c (canonicalBytes (.obj payload))) := by
    unfold VerifyRequest.unsigned
    rw [hmanifest]
    rfl
  refine ⟨c.sign key call.salt (canonicalJsonBytes (.obj (unsignedManifest c key call
    (payloadHash c (canonicalBytes (.obj payload)))))), ⟨bytes, hbytes, ?_⟩, ?_, ?_, ?_⟩
  · have hexpected : r.expectedHash =
        some (.str (payloadHash c (canonicalBytes (.obj payload)))) := by
      unfold VerifyRequest.expectedHash
      rw [hmanifest]
      rfl
    rw [hexpected]
    simp [hashMatches, payloadHash, hhash]
  · have hsignature : getKey r.manifest "signature" = some (.str (b64url (c.sign key call.salt
        (canonicalJsonBytes (.obj (unsignedManifest c key call
          (payloadHash c (canonicalBytes (.obj payload))))))))) := by
      rw [hmanifest]
      rfl
    unfold VerifyRequest.signature
    rw [hsignature]
    exact b64urlDecode_b64url _
  · have hpem : getKey r.unsigned "public_key_pem" = some (.str (c.publicPem key)) := by
      rw [hunsigned]
      rfl
    unfold VerifyRequest.publicKey
    rw [hpem]
    simp only [if_neg hsound.pem_ne_empty, hsound.load_publicPem]
    rfl
  · rw [hunsigned]
    exact hsound.verify_sign _ _

theorem b64url_ne_empty {data : List UInt8} (h : data ≠ []) : b64url data ≠ "" := by
  intro hempty
  have hdecoded := b64urlDecode_b64url data
  rw [hempty] at hdecoded
  have hnil : b64urlDecode "" = .ok [] := rfl
  rw [hnil] at hdecoded
  cases hdecoded
  exact h rfl

theorem canonicalBytes_obj_ne_nil (payload : List (String × PyValue)) :
    canonicalBytes (.obj payload) ≠ [] := by
  intro h
  have hnil : utf8Bytes [] = [] := rfl
  have htext := utf8Bytes_injective (h.trans hnil.symm)
  simp only [jsonDefault, write, writeObject] at htext
  cases htext

/-- The encoded payload of a created package verifies. -/
theorem verify_encoded (hsound : SoundKey c key) (call : ExportCall)
    (payload : List (String × PyValue)) :
    ∃ v, verifySignedExportPackage c
      (createSignedExportPackage c key call payload).withEncoded = .ok v ∧ v.valid = true := by
  have hbytes : (createSignedExportPackage c key call payload).withEncoded.payloadBytes =
      some (.ok (canonicalBytes (.obj payload))) := by
    have hne := b64url_ne_empty (canonicalBytes_obj_ne_nil payload)
    simp only [VerifyRequest.payloadBytes, SignedPackage.withEncoded, createSignedExportPackage,
      if_neg hne]
    rw [b64urlDecode_b64url]
  rcases passes_of_created hsound call payload rfl hbytes rfl with ⟨signature, hpasses⟩
  exact verify_valid_iff.mpr ⟨key, signature, hpasses⟩

/-- The payload of a created package verifies exactly when its two writings have one
hash. -/
theorem verify_payload_iff (hsound : SoundKey c key) (call : ExportCall)
    (payload : List (String × PyValue)) :
    (∃ v, verifySignedExportPackage c
        (createSignedExportPackage c key call payload).withPayload = .ok v ∧ v.valid = true) ↔
      c.sha256Hex (canonicalJsonBytes (jsonResponse (.obj payload))) =
        c.sha256Hex (canonicalBytes (.obj payload)) := by
  have hbytes : (createSignedExportPackage c key call payload).withPayload.payloadBytes =
      some (.ok (canonicalJsonBytes (jsonResponse (.obj payload)))) := rfl
  constructor
  · intro hpayload
    rcases verify_valid_iff.mp hpayload with ⟨_, _, ⟨bytes, hbytes', hhash⟩, -, -, -⟩
    rw [hbytes] at hbytes'
    cases hbytes'
    have hexpected : (createSignedExportPackage c key call payload).withPayload.expectedHash =
        some (.str (payloadHash c (canonicalBytes (.obj payload)))) := rfl
    rw [hexpected] at hhash
    simp only [hashMatches, decide_eq_true_eq, payloadHash, String.append_right_inj] at hhash
    exact hhash.symm
  · intro hhash
    rcases passes_of_created hsound call payload rfl hbytes hhash with ⟨signature, hpasses⟩
    exact verify_valid_iff.mpr ⟨key, signature, hpasses⟩

/-- Both forms of the payload of a created package verify. -/
def RoundTrips (c : ExportCrypto Key) (key : Key) (call : ExportCall)
    (payload : List (String × PyValue)) : Prop :=
  (∃ v, verifySignedExportPackage c
      (createSignedExportPackage c key call payload).withPayload = .ok v ∧ v.valid = true) ∧
    ∃ v, verifySignedExportPackage c
      (createSignedExportPackage c key call payload).withEncoded = .ok v ∧ v.valid = true

/-- A created package verifies in both forms exactly when its payload is plain, unless the
two writings collide. -/
theorem roundTrips_iff {Key : Type} (c : ExportCrypto Key) (key : Key) (hsound : SoundKey c key)
    (call : ExportCall) (payload : List (String × PyValue))
    (hcollision : c.sha256Hex (canonicalJsonBytes (jsonResponse (.obj payload))) =
      c.sha256Hex (canonicalBytes (.obj payload)) →
      canonicalJsonBytes (jsonResponse (.obj payload)) = canonicalBytes (.obj payload)) :
    RoundTrips c key call payload ↔ plain (.obj payload) = true := by
  unfold RoundTrips
  rw [verify_payload_iff hsound, ← canonicalBytes_eq_iff]
  constructor
  · rintro ⟨hhash, -⟩
    exact (hcollision hhash).symm
  · intro heq
    exact ⟨by rw [heq], verify_encoded hsound call payload⟩

end

/-! ## A point in time in a package -/

theorem toyKey_sound : SoundKey toyCrypto true where
  pem_ne_empty := by decide
  load_publicPem := rfl
  verify_sign := by
    intro salt message
    simp [toyCrypto]

theorem toyHash_injective : Function.Injective toyCrypto.sha256Hex := by
  intro a b h
  have hdecoded := b64urlDecode_b64url a
  rw [show b64url a = b64url b from h, b64urlDecode_b64url] at hdecoded
  cases hdecoded
  rfl

/-- A call of the endpoints. -/
def toyCall : ExportCall where
  tenantId := some 1
  exportType := "auditor-package"
  frameworkScope := "all"
  timeframe := none
  generatedAt := "2026-01-01T00:00:00+00:00"
  hashChainRoot := "00"
  recordsChecked := 0
  salt := []

/-- A package of texts and numbers verifies in both forms. -/
theorem roundTrips_plain :
    RoundTrips toyCrypto true toyCall [("tenant_id", .int 1), ("score", .float "0.5" false)] :=
  (roundTrips_iff toyCrypto true toyKey_sound toyCall _ (fun h => toyHash_injective h)).mpr rfl

/-- The status of the corpus holds the time it was created. -/
def corpusPayload : List (String × PyValue) :=
  [("corpus", .obj [("created_at", .datetime ⟨"2026-01-01", "00:00:00"⟩)])]

/-- A package with a point in time verifies in its encoded form only. -/
theorem corpus_not_roundTrips : ¬ RoundTrips toyCrypto true toyCall corpusPayload := by
  rintro ⟨hpayload, -⟩
  have hhash := (verify_payload_iff toyKey_sound toyCall corpusPayload).mp hpayload
  have hplain := (canonicalBytes_eq_iff (.obj corpusPayload)).mp (toyHash_injective hhash).symm
  cases hplain

end AuthClaw.Exports
