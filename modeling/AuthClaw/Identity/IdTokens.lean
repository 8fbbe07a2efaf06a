import AuthClaw.Identity.Sessions
import AuthClaw.Library.Base32
import AuthClaw.Library.StepSystem
import AuthClaw.Library.TimedCache

/-!
# ID tokens and signing keys

{lit}`validate_id_token` of {lit}`services/enterprise_identity.py` checks a token of an identity
provider against one of the provider's keys and against its configuration.  The keys come from
a table that serves all processes, and from the provider where the table has none that is fresh,
or not the one that is asked for; where the provider does not answer, older keys serve for a
while.  A validation is a sequence of statements and requests, which those of others come
between.

Main results:

- Theorem {lit}`checkClaims_spec`: what the claims of an accepted token say.
- Theorem {lit}`keyStep_inv`: every step keeps what keys go back to.
- Theorem {lit}`accepted_traced`: which key an accepted token was verified with, and how old it
  may be.
- Theorem {lit}`new_key_accepted`: a key that the provider has changed to is found.
-/

namespace AuthClaw.Identity

open PythonText StepSystem TimedCache

/-! ## Tokens -/

/-- `OIDCProviderConfig`, as far as ID tokens are validated with it. -/
structure IdTokenProvider where
  id : Int
  jwksUri : String
  issuer : String
  clientId : String

/-- What validations compute with: JSON texts, `int`, `==`, the check of a signature by the key
of two numbers, and the seconds for which keys are fresh and stale. -/
structure IdTokenSetting where
  /-- `json.loads(raw.decode("utf-8"))`. -/
  loads : List UInt8 → Option Json
  intOf : Json → Option Int
  equal : Json → Json → Bool
  rsaVerify : (e n : Nat) → (signature message : List UInt8) → Bool
  cacheTtlSeconds : Int
  staleTtlSeconds : Int
  equal_str : ∀ v text, equal v (.str text) = true ↔ v = .str text

/-- `_b64url_decode`. -/
def b64urlDecode (text : List Char) : Option (List UInt8) :=
  if text.all (fun c => c.toNat < 128) then
    Base64.urlsafeDecode (text ++ List.replicate ((4 - text.length % 4) % 4) '=')
  else none

/-- An ID token in its parts, and the text that is signed. -/
structure IdToken where
  header : List (String × Json)
  claims : Json
  signature : List UInt8
  signed : List UInt8

/-- A member that is some text. -/
def hasText (s : IdTokenSetting) (members : List (String × Json)) (key text : String) : Bool :=
  (getKey members key).any (fun v => s.equal v (.str text))

/-- `raise EnterpriseIdentityError(message)`, unless the condition holds. -/
def require (condition : Bool) (message : String) : Except IdentityError Unit :=
  if condition then .ok () else .error (.enterprise message)

section

variable (s : IdTokenSetting)

/-- The first lines of `validate_id_token`. -/
def readIdToken (idToken : String) : Except IdentityError IdToken :=
  match idToken.toList.splitOn '.' with
  | [header, claims, signature] =>
      match (b64urlDecode header).bind s.loads, (b64urlDecode claims).bind s.loads,
          b64urlDecode signature with
      | some (.obj members), some body, some bytes => do
          require (hasText s members "alg" "RS256") "Unsupported ID token signing algorithm."
          return ⟨members, body, bytes, utf8 (String.ofList (header ++ '.' :: claims))⟩
      | some _, some _, some _ => .error (.python .attributeError)
      | _, _, _ => .error (.python .other)
  | _ => .error (.enterprise "Invalid ID token format.")

/-- The `kid` of a header or of a key. -/
def kidOf (members : List (String × Json)) : Json :=
  (getKey members "kid").getD .null

/-- The first key with a `kid`. -/
def findKey (kid : Json) : List Json → Except IdentityError (Option (List (String × Json)))
  | [] => .ok none
  | .obj jwk :: keys => if s.equal (kidOf jwk) kid then .ok (some jwk) else findKey kid keys
  | _ :: _ => .error (.python .attributeError)

/-- The numbers `e` and `n` of `_public_key_from_jwk`. -/
def publicNumbers (jwk : List (String × Json)) : Except IdentityError (Nat × Nat) := do
  require (hasText s jwk "kty" "RSA") "Only RSA OIDC signing keys are supported."
  match getKey jwk "n", getKey jwk "e" with
  | some (.str n), some (.str e) =>
      match b64urlDecode n.toList, b64urlDecode e.toList with
      | some n, some e => return (Base32.ofBytes e, Base32.ofBytes n)
      | _, _ => throw (.python .other)
  | _, _ => throw (.python .other)

/-- `public_key.verify`, with the key of a JWK. -/
def verifySignature (token : IdToken) (jwk : List (String × Json)) : Except IdentityError Unit := do
  let (e, n) ← publicNumbers s jwk
  if s.rsaVerify e n token.signature token.signed then return () else throw (.python .other)

/-- `valid_audience`. -/
def validAudience (clientId : String) : Option Json → Bool
  | some (.arr items) => items.any (fun item => s.equal item (.str clientId))
  | audience => audience.any (fun v => s.equal v (.str clientId))

/-- `int(value)`. -/
def intValue (v : Json) : Except IdentityError Int :=
  match s.intOf v with
  | some n => .ok n
  | none => .error (.python .other)

/-- The check of `nbf` in `validate_id_token`. -/
def checkBegins (now : Int) (claims : List (String × Json)) : Except IdentityError Unit :=
  match (getKey claims "nbf").filter Json.truthy with
  | none => .ok ()
  | some nbf => do
      let nbf ← intValue s nbf
      require (nbf ≤ seconds now + 60) "ID token is not valid yet."

/-- The last lines of `validate_id_token`, from the issuer on. -/
def checkClaims (provider : IdTokenProvider) (nonce : String) (now : Int) :
    Json → Except IdentityError (List (String × Json))
  | .obj claims => do
      require (hasText s claims "iss" provider.issuer)
        "ID token issuer does not match tenant IdP config."
      require (validAudience s provider.clientId (getKey claims "aud"))
        "ID token audience does not match tenant IdP config."
      let exp ← intValue s ((getKey claims "exp").getD (.int 0))
      require (seconds now < exp) "ID token has expired."
      checkBegins s now claims
      require (nonce = "" || hasText s claims "nonce" nonce)
        "ID token nonce does not match login state."
      return claims
  | _ => .error (.python .attributeError)

end

section

variable {s : IdTokenSetting}

theorem require_eq_ok {condition : Bool} {message : String} {u : Unit}
    (h : require condition message = .ok u) : condition = true := by
  unfold require at h
  split_ifs at h with hcondition
  exact hcondition

theorem hasText_iff {members : List (String × Json)} {key text : String} :
    hasText s members key text = true ↔ getKey members key = some (.str text) := by
  unfold hasText
  rw [Option.any_eq_true]
  constructor
  · rintro ⟨v, hv, hequal⟩
    rw [hv, (s.equal_str v text).mp hequal]
  · intro hv
    exact ⟨_, hv, (s.equal_str _ text).mpr rfl⟩

/-- A token that is read names the one algorithm. -/
theorem readIdToken_alg {idToken : String} {token : IdToken}
    (h : readIdToken s idToken = .ok token) :
    getKey token.header "alg" = some (.str "RS256") := by
  unfold readIdToken at h
  split at h
  next =>
    split at h
    next =>
      rcases bind_eq_ok h with ⟨u, halg, h⟩
      cases h
      exact hasText_iff.mp (require_eq_ok halg)
    next => cases h
    next => cases h
  next => cases h

/-- A key that is found is one of them. -/
theorem findKey_spec {kid : Json} {keys : List Json} {jwk : List (String × Json)}
    (h : findKey s kid keys = .ok (some jwk)) :
    .obj jwk ∈ keys ∧ s.equal (kidOf jwk) kid = true := by
  induction keys with
  | nil => cases h
  | cons key keys ih =>
      cases key with
      | obj members =>
          rw [findKey] at h
          split_ifs at h with hequal
          · cases h
            exact ⟨List.mem_cons_self, hequal⟩
          · exact ⟨List.mem_cons_of_mem _ (ih h).1, (ih h).2⟩
      | _ => cases h

/-- The signature of a token was made with the key of these numbers. -/
theorem verifySignature_spec {token : IdToken} {jwk : List (String × Json)} {u : Unit}
    (h : verifySignature s token jwk = .ok u) :
    ∃ e n, publicNumbers s jwk = .ok (e, n) ∧
      s.rsaVerify e n token.signature token.signed = true := by
  unfold verifySignature at h
  rcases bind_eq_ok h with ⟨⟨e, n⟩, hnumbers, h⟩
  refine ⟨e, n, hnumbers, ?_⟩
  dsimp only at h
  split_ifs at h with hverify
  exact hverify

/-- The audience of a token is the client, or has it. -/
def Audience (clientId : String) (claims : List (String × Json)) : Prop :=
  getKey claims "aud" = some (.str clientId) ∨
    ∃ items, getKey claims "aud" = some (.arr items) ∧ .str clientId ∈ items

theorem validAudience_spec {clientId : String} {claims : List (String × Json)}
    (h : validAudience s clientId (getKey claims "aud") = true) : Audience clientId claims := by
  unfold validAudience at h
  split at h
  next items haud =>
    rcases List.any_eq_true.mp h with ⟨item, hitem, hequal⟩
    rw [(s.equal_str item clientId).mp hequal] at hitem
    exact Or.inr ⟨items, haud, hitem⟩
  next => exact Or.inl (hasText_iff.mp h)

/-- What the claims of a token say that is accepted: they name the issuer, the client and the
nonce, and the token has not expired and is valid by now, give or take a minute. -/
structure ClaimsOk (s : IdTokenSetting) (provider : IdTokenProvider) (nonce : String) (now : Int)
    (claims : List (String × Json)) : Prop where
  issuer : getKey claims "iss" = some (.str provider.issuer)
  audience : Audience provider.clientId claims
  expires : ∃ n, s.intOf ((getKey claims "exp").getD (.int 0)) = some n ∧ seconds now < n
  begins : ∀ v, getKey claims "nbf" = some v → v.truthy = true →
    ∃ n, s.intOf v = some n ∧ n ≤ seconds now + 60
  nonce : nonce ≠ "" → getKey claims "nonce" = some (.str nonce)

theorem intValue_eq_ok {v : Json} {n : Int} (h : intValue s v = .ok n) : s.intOf v = some n := by
  unfold intValue at h
  split at h
  next hn =>
    cases h
    exact hn
  next => cases h

/-- What the claims of an accepted token say. -/
theorem checkClaims_spec {provider : IdTokenProvider} {nonce : String} {now : Int} {body : Json}
    {claims : List (String × Json)} (h : checkClaims s provider nonce now body = .ok claims) :
    body = .obj claims ∧ ClaimsOk s provider nonce now claims := by
  cases body with
  | obj members =>
      rw [checkClaims] at h
      rcases bind_eq_ok h with ⟨_, hissuer, h⟩
      rcases bind_eq_ok h with ⟨_, haudience, h⟩
      rcases bind_eq_ok h with ⟨exp, hexp, h⟩
      rcases bind_eq_ok h with ⟨_, hexpires, h⟩
      rcases bind_eq_ok h with ⟨_, hbegins, h⟩
      rcases bind_eq_ok h with ⟨_, hnonce, h⟩
      cases h
      refine ⟨rfl, hasText_iff.mp (require_eq_ok hissuer),
        validAudience_spec (require_eq_ok haudience),
        ⟨exp, intValue_eq_ok hexp, of_decide_eq_true (require_eq_ok hexpires)⟩, ?_, ?_⟩
      · intro v hv htruthy
        have hfound : (getKey claims "nbf").filter Json.truthy = some v := by
          rw [hv, Option.filter_some, if_pos htruthy]
        unfold checkBegins at hbegins
        rw [hfound] at hbegins
        rcases bind_eq_ok hbegins with ⟨n, hn, hbegun⟩
        exact ⟨n, intValue_eq_ok hn, of_decide_eq_true (require_eq_ok hbegun)⟩
      · intro hgiven
        have hchecked := require_eq_ok hnonce
        rw [Bool.or_eq_true, decide_eq_true_iff] at hchecked
        exact hasText_iff.mp (hchecked.resolve_left hgiven)
  | _ => cases h

end

/-! ## Validations -/

/-- The arguments of `validate_id_token`; there is no nonce where it is empty. -/
structure IdTokenRequest where
  idToken : String
  provider : IdTokenProvider
  nonce : String

/-- How far a validation is.  The keys are looked through at most twice after a refresh: those of
`get_jwks`, and, where the key is not among these, those of a last refresh. -/
inductive KeyPhase where
  | waiting
  /-- `refresh_jwks`, before its request. -/
  | fetching (token : IdToken) (last : Bool)
  /-- `refresh_jwks`, with keys. -/
  | storing (token : IdToken) (last : Bool) (keys : List Json) (expiresAt : Int)
  /-- `refresh_jwks`, after an exception of its first part. -/
  | failing (token : IdToken) (last : Bool) (message : String)
  /-- `refresh_jwks`, before it looks for older keys. -/
  | falling (token : IdToken) (last : Bool) (message : String)
  | keyed (token : IdToken) (jwk : List (String × Json))
  | accepted (claims : List (String × Json))
  | rejected (e : IdentityError)

/-- Whether a validation has ended. -/
def KeyPhase.ended : KeyPhase → Bool
  | .accepted _ | .rejected _ => true
  | _ => false

/-- A row of `oidc_jwks_cache`: its keys, unless it was made for an error. -/
abbrev KeyEntry :=
  Entry (Option (List Json))

/-- What a validation has done. -/
inductive KeyFact where
  /-- The provider's `jwks_uri` has answered with keys. -/
  | fetched (keys : List Json)
  | refreshFailed
  | stored (entry : KeyEntry)
  /-- The keys of the provider's row were read. -/
  | loaded (keys : List Json)

/-- What the validation of a request has done at a time. -/
structure KeyEvent (ι : Type) where
  request : ι
  now : Int
  fact : KeyFact

/-- What happens to a validation. -/
inductive KeyMove where
  | start
  /-- The provider answers, or the request fails. -/
  | fetch (reply : Except String Json)
  /-- The row is written, or that fails. -/
  | store (failure : Option String)
  | record
  | fallBack
  | verify

/-- The text of an attribute error of `.get`. -/
def noGet (typeName : String) : String :=
  "'" ++ typeName ++ "' object has no attribute 'get'"

/-- The keys that `refresh_jwks` finds in an answer. -/
def readJwks : Json → Except String (List Json)
  | .obj members =>
      match getKey members "keys" with
      | some (.arr keys) => .ok keys
      | _ => .error "JWKS payload is missing keys."
  | .null => .error (noGet "NoneType")
  | .bool _ => .error (noGet "bool")
  | .int _ => .error (noGet "int")
  | .float _ _ => .error (noGet "float")
  | .str _ => .error (noGet "str")
  | .arr _ => .error (noGet "list")

/-- What a move leads to. -/
structure KeyNext where
  phase : KeyPhase
  cache : Int → Option KeyEntry
  facts : List KeyFact

section

variable (s : IdTokenSetting)

/-- The key of a token, or another refresh. -/
def chooseKey (token : IdToken) (last : Bool) (keys : List Json) : KeyPhase :=
  match findKey s (kidOf token.header) keys with
  | .error e => .rejected e
  | .ok found =>
      match found.filter (fun jwk => !jwk.isEmpty) with
      | some jwk => .keyed token jwk
      | none =>
          if last then .rejected (.enterprise "OIDC signing key not found in JWKS.")
          else .fetching token true

/-- `validate_id_token`, up to the keys of `_load_cached_jwks`. -/
def startValidation (r : IdTokenRequest) (now : Int) (cache : Int → Option KeyEntry) : KeyNext :=
  match readIdToken s r.idToken with
  | .error e => ⟨.rejected e, cache, []⟩
  | .ok token =>
      match (lookupFresh now cache r.provider.id).join with
      | some keys => ⟨chooseKey s token false keys, cache, [.loaded keys]⟩
      | none => ⟨.fetching token false, cache, []⟩

/-- The request of `refresh_jwks`. -/
def fetchKeys (token : IdToken) (last : Bool) (reply : Except String Json) (now : Int)
    (cache : Int → Option KeyEntry) : KeyNext :=
  match reply.bind readJwks with
  | .error message => ⟨.failing token last message, cache, [.refreshFailed]⟩
  | .ok keys =>
      ⟨.storing token last keys (now + s.cacheTtlSeconds * 1000000), cache, [.fetched keys]⟩

/-- The first statement of `refresh_jwks`. -/
def storeKeys (r : IdTokenRequest) (token : IdToken) (last : Bool) (keys : List Json)
    (expiresAt : Int) (failure : Option String) (now : Int) (cache : Int → Option KeyEntry) :
    KeyNext :=
  match failure with
  | some message => ⟨.failing token last message, cache, [.refreshFailed]⟩
  | none =>
      ⟨chooseKey s token last keys, put r.provider.id ⟨some keys, now, expiresAt⟩ cache,
        [.stored ⟨some keys, now, expiresAt⟩]⟩

/-- The statement of `refresh_jwks` after an exception, which leaves the keys of a row alone. -/
def recordError (r : IdTokenRequest) (token : IdToken) (last : Bool) (message : String)
    (now : Int) (cache : Int → Option KeyEntry) : KeyNext :=
  match cache r.provider.id with
  | some _ => ⟨.falling token last message, cache, []⟩
  | none =>
      ⟨.falling token last message, put r.provider.id ⟨none, now, now⟩ cache,
        [.stored ⟨none, now, now⟩]⟩

/-- The end of `refresh_jwks` after an exception. -/
def fallBack (r : IdTokenRequest) (token : IdToken) (last : Bool) (message : String) (now : Int)
    (cache : Int → Option KeyEntry) : KeyNext :=
  match (lookupStale (s.staleTtlSeconds * 1000000) now cache r.provider.id).join with
  | some keys => ⟨chooseKey s token last keys, cache, [.loaded keys]⟩
  | none =>
      ⟨.rejected (.enterprise ("Unable to refresh JWKS: " ++ message)), cache, []⟩

/-- The checks of `validate_id_token`. -/
def verifyIdToken (r : IdTokenRequest) (token : IdToken) (jwk : List (String × Json)) (now : Int)
    (cache : Int → Option KeyEntry) : KeyNext :=
  match verifySignature s token jwk with
  | .error e => ⟨.rejected e, cache, []⟩
  | .ok _ =>
      match checkClaims s r.provider r.nonce now token.claims with
      | .error e => ⟨.rejected e, cache, []⟩
      | .ok claims => ⟨.accepted claims, cache, []⟩

/-- A move of a validation. -/
def keyMove (r : IdTokenRequest) (now : Int) (cache : Int → Option KeyEntry) :
    KeyPhase → KeyMove → Option KeyNext
  | .waiting, .start => some (startValidation s r now cache)
  | .fetching token last, .fetch reply => some (fetchKeys s token last reply now cache)
  | .storing token last keys expiresAt, .store failure =>
      some (storeKeys s r token last keys expiresAt failure now cache)
  | .failing token last message, .record => some (recordError r token last message now cache)
  | .falling token last message, .fallBack => some (fallBack s r token last message now cache)
  | .keyed token jwk, .verify => some (verifyIdToken s r token jwk now cache)
  | _, _ => none

end

/-! ## Runs -/

/-- The rows, the validations and what they have done. -/
structure KeyRun (ι : Type) where
  cache : Int → Option KeyEntry
  phase : ι → KeyPhase
  history : List (KeyEvent ι)

/-- Before the validations. -/
def KeyRun.start {ι : Type} : KeyRun ι :=
  ⟨fun _ => none, fun _ => .waiting, []⟩

/-- A move of a validation, an exception of one, or the removal of providers, with their rows. -/
inductive KeyAction (ι : Type) where
  | move (i : ι) (now : Int) (m : KeyMove)
  | fail (i : ι) (e : IdentityError)
  | removeProviders (kept : Int → Bool)

section

variable {ι : Type} [DecidableEq ι] (s : IdTokenSetting) (requests : ι → IdTokenRequest)

/-- A step of the validations. -/
def keyStep (st : KeyRun ι) : KeyAction ι → Option (KeyRun ι)
  | .move i now m =>
      (keyMove s (requests i) now st.cache (st.phase i) m).map (fun next =>
        ⟨next.cache, Function.update st.phase i next.phase,
          st.history ++ next.facts.map (KeyEvent.mk i now)⟩)
  | .fail i e =>
      if (st.phase i).ended then none
      else some { st with phase := Function.update st.phase i (.rejected e) }
  | .removeProviders kept => some { st with cache := restrict kept st.cache }

end

/-! ## What keys go back to -/

section

variable {ι : Type} (s : IdTokenSetting) (requests : ι → IdTokenRequest)

/-- The row that a fact writes for a provider. -/
def KeyEvent.put (e : KeyEvent ι) : Option (Int × KeyEntry) :=
  match e.fact with
  | .stored entry => some ((requests e.request).provider.id, entry)
  | _ => none

/-- The keys of a provider's row: the last ones that were stored for it, by a validation that had
them from the provider.  They are fresh, or a refresh has failed and they are not too old. -/
def ReadKeys (before : List (KeyEvent ι)) (i : ι) (now : Int) (keys : List Json) : Prop :=
  ∃ (j : ι) (t₁ t₂ : Int), (requests j).provider.id = (requests i).provider.id ∧
    [⟨j, t₁, .fetched keys⟩,
      ⟨j, t₂, .stored ⟨some keys, t₂, t₁ + s.cacheTtlSeconds * 1000000⟩⟩].Sublist before ∧
    lastPut (before.filterMap (KeyEvent.put requests)) (requests i).provider.id =
      some ⟨some keys, t₂, t₁ + s.cacheTtlSeconds * 1000000⟩ ∧
    (now < t₁ + s.cacheTtlSeconds * 1000000 ∨
      (now - s.staleTtlSeconds * 1000000 < t₂ ∧ ∃ t, ⟨i, t, .refreshFailed⟩ ∈ before))

/-- The keys a validation looks through: those it had from the provider, or those of its row. -/
def KeysFrom (h : List (KeyEvent ι)) (i : ι) (keys : List Json) : Prop :=
  (∃ t, ⟨i, t, .fetched keys⟩ ∈ h) ∨
    ∃ before after t, h = before ++ ⟨i, t, .loaded keys⟩ :: after ∧
      ReadKeys s requests before i t keys

/-- The key is one of these, of the token's `kid`. -/
def KeyedBy (h : List (KeyEvent ι)) (i : ι) (token : IdToken) (jwk : List (String × Json)) : Prop :=
  ∃ keys, .obj jwk ∈ keys ∧ s.equal (kidOf jwk) (kidOf token.header) = true ∧
    KeysFrom s requests h i keys

/-- The token of a validation. -/
def ReadsToken (i : ι) (token : IdToken) : Prop :=
  readIdToken s (requests i).idToken = .ok token

/-- What a validation in a phase goes back to. -/
def KeyPhaseOk (h : List (KeyEvent ι)) (i : ι) : KeyPhase → Prop
  | .fetching token _ => ReadsToken s requests i token
  | .storing token _ keys expiresAt => ReadsToken s requests i token ∧
      ∃ t₁, expiresAt = t₁ + s.cacheTtlSeconds * 1000000 ∧ ⟨i, t₁, .fetched keys⟩ ∈ h
  | .failing token _ _ => ReadsToken s requests i token ∧ ∃ t, ⟨i, t, .refreshFailed⟩ ∈ h
  | .falling token _ _ => ReadsToken s requests i token ∧ ∃ t, ⟨i, t, .refreshFailed⟩ ∈ h
  | .keyed token jwk => ReadsToken s requests i token ∧ KeyedBy s requests h i token jwk
  | .accepted claims => ∃ token jwk now u, ReadsToken s requests i token ∧
      KeyedBy s requests h i token jwk ∧ verifySignature s token jwk = .ok u ∧
      checkClaims s (requests i).provider (requests i).nonce now token.claims = .ok claims
  | _ => True

/-- Keys that were stored came from the provider, and are fresh for a time since then. -/
def StoresOk (h : List (KeyEvent ι)) : Prop :=
  ∀ e ∈ h, ∀ entry keys, e.fact = .stored entry → entry.value = some keys →
    entry.refreshedAt = e.now ∧ ∃ t₁, entry.expiresAt = t₁ + s.cacheTtlSeconds * 1000000 ∧
      [⟨e.request, t₁, .fetched keys⟩, e].Sublist h

/-- What holds of the rows, the validations and the history. -/
structure KeyInv (st : KeyRun ι) : Prop where
  holds : Holds (st.history.filterMap (KeyEvent.put requests)) st.cache
  stores : StoresOk s st.history
  phases : ∀ i, KeyPhaseOk s requests st.history i (st.phase i)

end

section

variable {ι : Type} {s : IdTokenSetting} {requests : ι → IdTokenRequest}
  {h more : List (KeyEvent ι)} {i : ι} {now : Int} {keys : List Json} {token : IdToken}
  {jwk : List (String × Json)} {cache : Int → Option KeyEntry}

theorem KeysFrom.mono (hkeys : KeysFrom s requests h i keys) :
    KeysFrom s requests (h ++ more) i keys := by
  rcases hkeys with ⟨t, hmem⟩ | ⟨before, after, t, rfl, hread⟩
  · exact Or.inl ⟨t, List.mem_append_left _ hmem⟩
  · refine Or.inr ⟨before, after ++ more, t, ?_, hread⟩
    rw [List.append_assoc, List.cons_append]

theorem KeyedBy.mono (hkeyed : KeyedBy s requests h i token jwk) :
    KeyedBy s requests (h ++ more) i token jwk := by
  rcases hkeyed with ⟨keys, hmem, hkid, hfrom⟩
  exact ⟨keys, hmem, hkid, hfrom.mono⟩

theorem KeyPhaseOk.mono {phase : KeyPhase} (hphase : KeyPhaseOk s requests h i phase) :
    KeyPhaseOk s requests (h ++ more) i phase := by
  cases phase with
  | storing token last keys expiresAt =>
      rcases hphase with ⟨hreads, t₁, hexpires, hmem⟩
      exact ⟨hreads, t₁, hexpires, List.mem_append_left _ hmem⟩
  | failing token last message =>
      rcases hphase with ⟨hreads, t, hmem⟩
      exact ⟨hreads, t, List.mem_append_left _ hmem⟩
  | falling token last message =>
      rcases hphase with ⟨hreads, t, hmem⟩
      exact ⟨hreads, t, List.mem_append_left _ hmem⟩
  | keyed token jwk => exact ⟨hphase.1, hphase.2.mono⟩
  | accepted claims =>
      rcases hphase with ⟨token, jwk, now, u, hreads, hkeyed, hrest⟩
      exact ⟨token, jwk, now, u, hreads, hkeyed.mono, hrest⟩
  | fetching token last => exact hphase
  | waiting => trivial
  | rejected e => trivial

/-- The keys of a row that was put last are those of a refresh. -/
theorem readKeys_of_lastPut {entry : KeyEntry} (hstores : StoresOk s h)
    (hlast : lastPut (h.filterMap (KeyEvent.put requests)) (requests i).provider.id = some entry)
    (hvalue : entry.value = some keys)
    (hage : now < entry.expiresAt ∨ (now - s.staleTtlSeconds * 1000000 < entry.refreshedAt ∧
      ∃ t, ⟨i, t, .refreshFailed⟩ ∈ h)) : ReadKeys s requests h i now keys := by
  rcases List.mem_filterMap.mp (mem_of_lastPut hlast) with ⟨⟨j, t₂, fact⟩, hmem, hput⟩
  cases fact with
  | stored written =>
      rcases Prod.mk.inj (Option.some_inj.mp hput) with ⟨hid, rfl⟩
      rcases hstores _ hmem written keys rfl hvalue with ⟨hrefreshed, t₁, hexpires, hsub⟩
      rcases written with ⟨value, refreshedAt, expiresAt⟩
      dsimp only at hvalue hrefreshed hexpires hage
      subst hvalue hrefreshed hexpires
      exact ⟨j, t₁, _, hid, hsub, hlast, hage⟩
  | _ => cases hput

/-- A key that is chosen is one of the keys. -/
theorem chooseKey_ok {last : Bool} (hreads : ReadsToken s requests i token)
    (hfrom : KeysFrom s requests h i keys) :
    KeyPhaseOk s requests h i (chooseKey s token last keys) := by
  unfold chooseKey
  split
  next => trivial
  next found hfind =>
    split
    next jwk hkept =>
      rw [(Option.filter_eq_some_iff.mp hkept).1] at hfind
      rcases findKey_spec hfind with ⟨hmem, hkid⟩
      exact ⟨hreads, keys, hmem, hkid, hfrom⟩
    next =>
      split_ifs
      · trivial
      · exact hreads

/-- What a move leaves goes back to the history after it. -/
structure KeyMoveOk (s : IdTokenSetting) (requests : ι → IdTokenRequest) (h : List (KeyEvent ι))
    (i : ι) (now : Int) (next : KeyNext) : Prop where
  holds : Holds ((h ++ next.facts.map (KeyEvent.mk i now)).filterMap
    (KeyEvent.put requests)) next.cache
  stores : ∀ entry keys, .stored entry ∈ next.facts → entry.value = some keys →
    entry.refreshedAt = now ∧ ∃ t₁, entry.expiresAt = t₁ + s.cacheTtlSeconds * 1000000 ∧
      ⟨i, t₁, .fetched keys⟩ ∈ h
  phase : KeyPhaseOk s requests (h ++ next.facts.map (KeyEvent.mk i now)) i next.phase

/-- A fact that writes no row. -/
def KeyFact.silent : KeyFact → Bool
  | .stored _ => false
  | _ => true

/-- A move that writes no row. -/
theorem keyMoveOk_of_silent {phase : KeyPhase} {facts : List KeyFact}
    (hholds : Holds (h.filterMap (KeyEvent.put requests)) cache)
    (hsilent : ∀ fact ∈ facts, fact.silent = true)
    (hphase : KeyPhaseOk s requests (h ++ facts.map (KeyEvent.mk i now)) i phase) :
    KeyMoveOk s requests h i now ⟨phase, cache, facts⟩ where
  holds := by
    have hnone : (facts.map (KeyEvent.mk i now)).filterMap
        (KeyEvent.put requests) = [] := by
      rw [List.filterMap_eq_nil_iff]
      intro e he
      rcases List.mem_map.mp he with ⟨fact, hfact, rfl⟩
      have hkept := hsilent fact hfact
      cases fact with
      | stored entry => cases hkept
      | _ => rfl
    rw [List.filterMap_append, hnone, List.append_nil]
    exact hholds
  stores := by
    intro entry keys hmem
    cases hsilent _ hmem
  phase := hphase

/-- A move that writes the row of the provider. -/
theorem keyMoveOk_of_put {phase : KeyPhase} {entry : KeyEntry}
    (hholds : Holds (h.filterMap (KeyEvent.put requests)) cache)
    (hstored : ∀ keys, entry.value = some keys → entry.refreshedAt = now ∧
      ∃ t₁, entry.expiresAt = t₁ + s.cacheTtlSeconds * 1000000 ∧ ⟨i, t₁, .fetched keys⟩ ∈ h)
    (hphase : KeyPhaseOk s requests h i phase) :
    KeyMoveOk s requests h i now
      ⟨phase, put (requests i).provider.id entry cache, [.stored entry]⟩ where
  holds := by
    rw [List.filterMap_append]
    exact holds_put hholds _ entry
  stores := by
    intro entry' keys hmem hvalue
    cases List.mem_singleton.mp hmem
    exact hstored keys hvalue
  phase := hphase.mono

/-- Every move goes back to the history. -/
theorem keyMove_ok {phase : KeyPhase} {m : KeyMove} {next : KeyNext}
    (hholds : Holds (h.filterMap (KeyEvent.put requests)) cache) (hstores : StoresOk s h)
    (hphase : KeyPhaseOk s requests h i phase)
    (hnext : keyMove s (requests i) now cache phase m = some next) :
    KeyMoveOk s requests h i now next := by
  unfold keyMove at hnext
  split at hnext
  next =>
    cases hnext
    unfold startValidation
    split
    next => exact keyMoveOk_of_silent hholds (by simp) trivial
    next token hreads =>
      split
      next keys hfresh =>
        rcases lookupFresh_spec hholds (Option.join_eq_some_iff.mp hfresh) with
          ⟨entry, hlast, hvalue, hage⟩
        refine keyMoveOk_of_silent hholds (by simp [KeyFact.silent]) ?_
        exact chooseKey_ok hreads (Or.inr ⟨h, [], now, rfl,
          readKeys_of_lastPut hstores hlast hvalue (Or.inl hage)⟩)
      next => exact keyMoveOk_of_silent hholds (by simp) hreads
  next token last reply =>
    cases hnext
    unfold fetchKeys
    split
    next =>
      refine keyMoveOk_of_silent hholds (by simp [KeyFact.silent]) ⟨hphase, now, ?_⟩
      exact List.mem_append_right _ List.mem_cons_self
    next keys _ =>
      refine keyMoveOk_of_silent hholds (by simp [KeyFact.silent]) ⟨hphase, now, rfl, ?_⟩
      exact List.mem_append_right _ List.mem_cons_self
  next token last keys expiresAt failure =>
    cases hnext
    rcases hphase with ⟨hreads, t₁, hexpires, hmem⟩
    unfold storeKeys
    split
    next =>
      refine keyMoveOk_of_silent hholds (by simp [KeyFact.silent]) ⟨hreads, now, ?_⟩
      exact List.mem_append_right _ List.mem_cons_self
    next =>
      refine keyMoveOk_of_put hholds ?_ (chooseKey_ok hreads (Or.inl ⟨t₁, hmem⟩))
      intro keys' hvalue
      cases hvalue
      exact ⟨rfl, t₁, hexpires, hmem⟩
  next token last message =>
    cases hnext
    unfold recordError
    split
    next => exact keyMoveOk_of_silent hholds (by simp) (KeyPhaseOk.mono hphase)
    next =>
      refine keyMoveOk_of_put hholds ?_ hphase
      intro keys hvalue
      cases hvalue
  next token last message =>
    cases hnext
    rcases hphase with ⟨hreads, hfailed⟩
    unfold fallBack
    split
    next keys hstale =>
      rcases lookupStale_spec hholds (Option.join_eq_some_iff.mp hstale) with
        ⟨entry, hlast, hvalue, hage⟩
      refine keyMoveOk_of_silent hholds (by simp [KeyFact.silent]) ?_
      exact chooseKey_ok hreads (Or.inr ⟨h, [], now, rfl,
        readKeys_of_lastPut hstores hlast hvalue (Or.inr ⟨hage, hfailed⟩)⟩)
    next => exact keyMoveOk_of_silent hholds (by simp) trivial
  next token jwk =>
    cases hnext
    rcases hphase with ⟨hreads, hkeyed⟩
    unfold verifyIdToken
    split
    next => exact keyMoveOk_of_silent hholds (by simp) trivial
    next u hverify =>
      split
      next => exact keyMoveOk_of_silent hholds (by simp) trivial
      next claims hclaims =>
        exact keyMoveOk_of_silent hholds (by simp)
          ⟨token, jwk, now, u, hreads, hkeyed.mono, hverify, hclaims⟩
  next => cases hnext

end

/-! ## Every run -/

section

variable {ι : Type} [DecidableEq ι] {s : IdTokenSetting} {requests : ι → IdTokenRequest}
  {st st' : KeyRun ι}

/-- Every step keeps what rows and validations go back to. -/
theorem keyStep_inv {a : KeyAction ι} (hinv : KeyInv s requests st)
    (hstep : keyStep s requests st a = some st') : KeyInv s requests st' := by
  cases a with
  | move i now m =>
      rcases Option.map_eq_some_iff.mp hstep with ⟨next, hnext, rfl⟩
      have hok := keyMove_ok hinv.holds hinv.stores (hinv.phases i) hnext
      refine ⟨hok.holds, ?_, ?_⟩
      · intro e he entry keys hfact hvalue
        rcases List.mem_append.mp he with he | he
        · rcases hinv.stores e he entry keys hfact hvalue with ⟨hnow, t₁, hexpires, hsub⟩
          exact ⟨hnow, t₁, hexpires, hsub.trans (List.sublist_append_left _ _)⟩
        · have hadded := he
          rcases List.mem_map.mp he with ⟨fact, hmem, rfl⟩
          cases hfact
          rcases hok.stores entry keys hmem hvalue with ⟨hnow, t₁, hexpires, hfetched⟩
          exact ⟨hnow, t₁, hexpires, List.Sublist.append (List.singleton_sublist.mpr hfetched)
            (List.singleton_sublist.mpr hadded)⟩
      · intro k
        dsimp only
        by_cases hk : k = i
        · subst hk
          rw [Function.update_self]
          exact hok.phase
        · rw [Function.update_of_ne hk]
          exact (hinv.phases k).mono
  | fail i e =>
      rw [keyStep] at hstep
      split_ifs at hstep
      cases hstep
      refine ⟨hinv.holds, hinv.stores, ?_⟩
      intro k
      dsimp only
      by_cases hk : k = i
      · subst hk
        rw [Function.update_self]
        trivial
      · rw [Function.update_of_ne hk]
        exact hinv.phases k
  | removeProviders kept =>
      cases hstep
      exact ⟨holds_restrict hinv.holds kept, hinv.stores, hinv.phases⟩

theorem keyInv_of_run {as : List (KeyAction ι)}
    (hrun : run (keyStep s requests) KeyRun.start as = some st) : KeyInv s requests st := by
  have hstart : KeyInv s requests (KeyRun.start : KeyRun ι) := by
    refine ⟨holds_empty, ?_, fun _ => trivial⟩
    intro e he
    cases he
  exact invariant_of_run (fun _ _ _ hinv _ hstep => keyStep_inv hinv hstep) hstart
    (@respects_of_forall _ _ _ (fun _ _ => True) (fun _ _ => trivial) _ _) hrun

end

/-- In every run, a token that was accepted is signed by a key of its provider with the token's
`kid`, and its claims are in order.  The key is among the keys that the provider itself has just
served to this validation; or among those that were stored last for the provider when this
validation read them, not longer after they were served than keys are fresh, or, after a refresh
that failed, not longer after they were stored than stale keys are taken. -/
theorem accepted_traced {ι : Type} [DecidableEq ι] {s : IdTokenSetting}
    {requests : ι → IdTokenRequest} {as : List (KeyAction ι)} {st : KeyRun ι}
    (hrun : run (keyStep s requests) KeyRun.start as = some st) {i : ι}
    {claims : List (String × Json)} (haccepted : st.phase i = .accepted claims) :
    ∃ (token : IdToken) (keys : List Json) (jwk : List (String × Json)) (e n : Nat) (now : Int),
      readIdToken s (requests i).idToken = .ok token ∧
      getKey token.header "alg" = some (.str "RS256") ∧ token.claims = .obj claims ∧
      ClaimsOk s (requests i).provider (requests i).nonce now claims ∧
      .obj jwk ∈ keys ∧ s.equal (kidOf jwk) (kidOf token.header) = true ∧
      publicNumbers s jwk = .ok (e, n) ∧
      s.rsaVerify e n token.signature token.signed = true ∧
      KeysFrom s requests st.history i keys := by
  have hphase := (keyInv_of_run hrun).phases i
  rw [haccepted] at hphase
  rcases hphase with ⟨token, jwk, now, u, hreads, ⟨keys, hmem, hkid, hfrom⟩, hverify, hclaims⟩
  rcases verifySignature_spec hverify with ⟨e, n, hnumbers, hsigned⟩
  rcases checkClaims_spec hclaims with ⟨hbody, hok⟩
  exact ⟨token, keys, jwk, e, n, now, hreads, readIdToken_alg hreads, hbody, hok, hmem, hkid,
    hnumbers, hsigned, hfrom⟩

/-- A setting with one token and one signature. -/
def exampleIdTokens : IdTokenSetting where
  loads := fun bytes =>
    if bytes = utf8 "\x7b\"alg\":\"RS256\",\"kid\":\"k\"\x7d" then
      some (.obj [("alg", .str "RS256"), ("kid", .str "k")])
    else if bytes = utf8 "\x7b\"iss\":\"i\",\"aud\":\"c\",\"exp\":9\x7d" then
      some (.obj [("iss", .str "i"), ("aud", .str "c"), ("exp", .int 9)])
    else none
  intOf := fun
    | .int n => some n
    | _ => none
  equal := fun
    | .str a, .str b => a == b
    | .null, .null => true
    | _, _ => false
  rsaVerify := fun _ _ signature _ => signature = [115]
  cacheTtlSeconds := 3600
  staleTtlSeconds := 86400
  equal_str := by
    intro v text
    cases v <;> simp

/-- The keys of a provider. -/
def exampleKeys : List Json :=
  [.obj [("kty", .str "RSA"), ("kid", .str "k"), ("n", .str "Bw"), ("e", .str "Aw")]]

/-- Two validations of one token. -/
def exampleTokens (_ : Bool) : IdTokenRequest where
  idToken := "eyJhbGciOiJSUzI1NiIsImtpZCI6ImsifQ.eyJpc3MiOiJpIiwiYXVkIjoiYyIsImV4cCI6OX0.cw"
  provider := ⟨1, "https://idp/jwks", "i", "c"⟩
  nonce := ""

/-- One has the keys from the provider, the other one from the row. -/
def exampleMoves : List (KeyAction Bool) :=
  [.move false 1 .start, .move false 2 (.fetch (.ok (.obj [("keys", .arr exampleKeys)]))),
    .move false 3 (.store none), .move true 4 .start, .move true 5 .verify]

/-- Where these moves lead. -/
def exampleKeyRun : KeyRun Bool :=
  (run (keyStep exampleIdTokens exampleTokens) KeyRun.start exampleMoves).getD KeyRun.start

theorem accepted_traced_example :
    ∃ keys, KeysFrom exampleIdTokens exampleTokens exampleKeyRun.history true keys := by
  rcases @accepted_traced Bool _ exampleIdTokens exampleTokens exampleMoves exampleKeyRun rfl true
    [("iss", .str "i"), ("aud", .str "c"), ("exp", .int 9)] rfl with
    ⟨-, keys, -, -, -, -, -, -, -, -, -, -, -, -, hfrom⟩
  exact ⟨keys, hfrom⟩

/-! ## New keys -/

/-- The validation of an action. -/
def KeyAction.request {ι : Type} : KeyAction ι → Option ι
  | .move i _ _ => some i
  | .fail i _ => some i
  | .removeProviders _ => none

section

variable {ι : Type} [DecidableEq ι] {s : IdTokenSetting} {requests : ι → IdTokenRequest}
  {st st' : KeyRun ι}

/-- A validation stays where it is while others move. -/
theorem phase_of_others {as : List (KeyAction ι)} {i : ι}
    (hothers : ∀ a ∈ as, a.request ≠ some i)
    (hrun : run (keyStep s requests) st as = some st') : st'.phase i = st.phase i := by
  induction as generalizing st with
  | nil =>
      cases hrun
      rfl
  | cons a as ih =>
      rcases run_cons_eq_some.mp hrun with ⟨m, hstep, hrest⟩
      rw [ih (fun b hb => hothers b (List.mem_cons_of_mem _ hb)) hrest]
      have hother := hothers a List.mem_cons_self
      cases a with
      | move k now move =>
          rcases Option.map_eq_some_iff.mp hstep with ⟨next, -, rfl⟩
          exact Function.update_of_ne (fun heq => hother (congrArg some heq.symm)) _ _
      | fail k e =>
          rw [keyStep] at hstep
          split_ifs at hstep
          cases hstep
          exact Function.update_of_ne (fun heq => hother (congrArg some heq.symm)) _ _
      | removeProviders kept =>
          cases hstep
          rfl

/-- A move leads its validation on. -/
theorem phase_of_move {as : List (KeyAction ι)} {i : ι} {now : Int} {m : KeyMove}
    {phase : KeyPhase}
    (hmove : ∃ cache facts,
      keyMove s (requests i) now st.cache (st.phase i) m = some ⟨phase, cache, facts⟩)
    (hrun : run (keyStep s requests) st (.move i now m :: as) = some st') :
    ∃ mid, mid.phase i = phase ∧ run (keyStep s requests) mid as = some st' := by
  rcases run_cons_eq_some.mp hrun with ⟨mid, hstep, hrest⟩
  rcases hmove with ⟨cache, facts, hnext⟩
  rw [keyStep, hnext] at hstep
  cases hstep
  exact ⟨_, Function.update_self _ _ _, hrest⟩

/-- Where the row has no fresh keys, or not the one of the token, the provider is asked. -/
theorem startValidation_fetching {r : IdTokenRequest} {now : Int} {cache : Int → Option KeyEntry}
    {token : IdToken} (hreads : readIdToken s r.idToken = .ok token)
    (hmissing : ∀ old, (lookupFresh now cache r.provider.id).join = some old →
      findKey s (kidOf token.header) old = .ok none) :
    ∃ last facts, startValidation s r now cache = ⟨.fetching token last, cache, facts⟩ := by
  unfold startValidation
  rw [hreads]
  dsimp only
  cases hfresh : (lookupFresh now cache r.provider.id).join with
  | none => exact ⟨false, [], rfl⟩
  | some old =>
      have hchosen : chooseKey s token false old = .fetching token true := by
        unfold chooseKey
        rw [hmissing old hfresh]
        rfl
      refine ⟨true, [.loaded old], ?_⟩
      dsimp only
      rw [hchosen]

end

/-- In whatever state a validation starts and whatever comes between its moves: where the row has
no fresh keys or not the one of the token, a token is accepted when the provider serves the key it
is signed with and its claims are in order. -/
theorem new_key_accepted {ι : Type} [DecidableEq ι] {s : IdTokenSetting}
    {requests : ι → IdTokenRequest} {st st' : KeyRun ι} {i : ι} {t₀ t₁ t₂ t₃ : Int}
    {as₁ as₂ as₃ : List (KeyAction ι)} {token : IdToken} {body : Json} {keys : List Json}
    {jwk claims : List (String × Json)} (hwaiting : st.phase i = .waiting)
    (hreads : readIdToken s (requests i).idToken = .ok token)
    (hmissing : ∀ old, (lookupFresh t₀ st.cache (requests i).provider.id).join = some old →
      findKey s (kidOf token.header) old = .ok none)
    (hserved : readJwks body = .ok keys)
    (hfound : findKey s (kidOf token.header) keys = .ok (some jwk)) (hjwk : jwk ≠ [])
    (hverify : verifySignature s token jwk = .ok ())
    (hclaims : checkClaims s (requests i).provider (requests i).nonce t₃ token.claims = .ok claims)
    (hothers : ∀ a ∈ as₁ ++ as₂ ++ as₃, a.request ≠ some i)
    (hrun : run (keyStep s requests) st (.move i t₀ .start :: (as₁ ++
      .move i t₁ (.fetch (.ok body)) :: (as₂ ++ .move i t₂ (.store none) :: (as₃ ++
        [.move i t₃ .verify])))) = some st') :
    st'.phase i = .accepted claims := by
  have hothers₁ : ∀ a ∈ as₁, a.request ≠ some i :=
    fun a ha => hothers a (List.mem_append_left _ (List.mem_append_left _ ha))
  have hothers₂ : ∀ a ∈ as₂, a.request ≠ some i :=
    fun a ha => hothers a (List.mem_append_left _ (List.mem_append_right _ ha))
  have hothers₃ : ∀ a ∈ as₃, a.request ≠ some i :=
    fun a ha => hothers a (List.mem_append_right _ ha)
  rcases startValidation_fetching hreads hmissing with ⟨last, facts, hstart⟩
  -- The provider is asked.
  rcases phase_of_move ⟨_, _, by rw [hwaiting, keyMove, hstart]⟩ hrun with ⟨st₁, hphase₁, hrun⟩
  rcases run_append.mp hrun with ⟨m₁, hbetween, hrun⟩
  have hfetching := (phase_of_others hothers₁ hbetween).trans hphase₁
  -- It answers with the keys.
  have hfetch : fetchKeys s token last (.ok body) t₁ m₁.cache =
      ⟨.storing token last keys (t₁ + s.cacheTtlSeconds * 1000000), m₁.cache, [.fetched keys]⟩ := by
    unfold fetchKeys
    rw [Except.bind, hserved]
  rcases phase_of_move ⟨_, _, by rw [hfetching, keyMove, hfetch]⟩ hrun with ⟨st₂, hphase₂, hrun⟩
  rcases run_append.mp hrun with ⟨m₂, hbetween, hrun⟩
  have hstoring := (phase_of_others hothers₂ hbetween).trans hphase₂
  -- They are stored, and the key is among them.
  have hchosen : chooseKey s token last keys = .keyed token jwk := by
    unfold chooseKey
    rw [hfound]
    dsimp only
    rw [Option.filter_some, if_pos (by simpa using hjwk)]
  rcases phase_of_move ⟨_, _, by rw [hstoring, keyMove, storeKeys, hchosen]⟩ hrun with
    ⟨st₃, hphase₃, hrun⟩
  rcases run_append.mp hrun with ⟨m₃, hbetween, hrun⟩
  have hkeyed := (phase_of_others hothers₃ hbetween).trans hphase₃
  -- The token is in order.
  have hchecked : verifyIdToken s (requests i) token jwk t₃ m₃.cache =
      ⟨.accepted claims, m₃.cache, []⟩ := by
    unfold verifyIdToken
    rw [hverify]
    dsimp only
    rw [hclaims]
  rcases phase_of_move ⟨_, _, by rw [hkeyed, keyMove, hchecked]⟩ hrun with ⟨st₄, hphase₄, hrun⟩
  cases hrun
  exact hphase₄

theorem new_key_accepted_example :
    ((run (keyStep exampleIdTokens exampleTokens) KeyRun.start
      [.move false 1 .start, .move true 1 .start,
        .move false 2 (.fetch (.ok (.obj [("keys", .arr exampleKeys)]))),
        .move false 3 (.store none), .move false 4 .verify]).getD KeyRun.start).phase false =
      .accepted [("iss", .str "i"), ("aud", .str "c"), ("exp", .int 9)] := by
  exact @new_key_accepted Bool _ exampleIdTokens exampleTokens KeyRun.start _ false 1 2 3 4
    [.move true 1 .start] [] [] _ (.obj [("keys", .arr exampleKeys)]) exampleKeys _ _ rfl rfl
    (by intro old hold; cases hold) rfl rfl (by decide) rfl rfl (by decide) rfl

end AuthClaw.Identity
