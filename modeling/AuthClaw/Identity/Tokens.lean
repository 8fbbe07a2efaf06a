import AuthClaw.Identity.Sessions

/-!
# Signed tokens

Reading a token may raise at each of its steps: where the parts are compared, decoded, parsed, and
where the expiry is read.  Whatever is raised gives no claims.

Main results:

- Theorem {lit}`decodeJwtCaught_eq`: what the caught body gives.
- Theorem {lit}`decodeJwtCaught_createJwt`: a token that was made is read back until it expires.
- Theorem {lit}`signedToken_of_decodeJwtCaught`: a token that is accepted carries the signature of
  its first two parts.
- Theorem {lit}`eq_createJwt_of_signature`: with a collision-free hash nothing but the token that
  was made is accepted under its signature.
-/

namespace AuthClaw.Identity

open PythonText

section Decoding

variable (s : Signing)

/-- `hmac.compare_digest` of texts, which raises unless both are in ASCII. -/
def compareDigest (a b : List Char) : Except PyError Bool :=
  if a.all (fun c => c.toNat < 128) && b.all (fun c => c.toNat < 128) then .ok (a = b)
  else .error .other

/-- A result, or what is raised where there is none. -/
def orRaise {α : Type} (e : PyError) : Option α → Except PyError α
  | some a => .ok a
  | none => .error e

/-- `payload.get("exp") and int(payload["exp"]) < int(time.time())`. -/
def hasExpired (now : Int) (exp : Option Json) : Except PyError Bool :=
  match exp with
  | some exp => (orRaise .valueError (s.intOf exp)).map (fun exp => decide (exp < seconds now))
  | none => .ok false

/-- The claims of the second part of a token, unless it has expired. -/
def readPayload (now : Int) (payloadEncoded : List Char) :
    Except PyError (Option (List (String × Json))) := do
  let payloadBytes ← orRaise .valueError (base64UrlDecode payloadEncoded)
  let payload ← orRaise .valueError (s.loads payloadBytes)
  match payload with
  | .obj payload =>
      let exp := orElseJson (getKey payload "exp") none
      let expired ← hasExpired s now exp
      if expired then return none
      if s.production && exp.isNone then return none
      return some payload
  | _ => throw .attributeError

/-- The body of `decode_jwt`. -/
def decodeJwtBody (now : Int) (token : String) :
    Except PyError (Option (List (String × Json))) :=
  match token.toList.splitOn '.' with
  | [headerEncoded, payloadEncoded, signatureEncoded] => do
      let expectedSig := jwtSignature s headerEncoded payloadEncoded
      let same ← compareDigest signatureEncoded expectedSig
      if same then readPayload s now payloadEncoded else return none
  | _ => return none

/-- `decode_jwt`: whatever its body raises is caught. -/
def decodeJwtCaught (now : Int) (token : String) :
    Except PyError (Option (List (String × Json))) :=
  tryCatch (decodeJwtBody s now token) (fun _ => return none)

/-- A token of three parts, the last of which is the signature of the other two. -/
def SignedToken (token : String) : Prop :=
  ∃ header payload, token.toList.splitOn '.' = [header, payload, jwtSignature s header payload]

end Decoding

section

variable {s : Signing}

theorem jwtSignature_ascii (header payload : List Char) :
    (jwtSignature s header payload).all (fun c => c.toNat < 128) = true := by
  unfold jwtSignature base64UrlEncode Base64.encodeUnpadded
  rw [Base64.stripPadding_urlsafeEncode, List.all_eq_true]
  intro c hc
  exact decide_eq_true (Base64.mem_encode hc).2

/-- A signature is compared with the right one, or what is compared is not in ASCII. -/
theorem compareDigest_signature (signature header payload : List Char) :
    compareDigest signature (jwtSignature s header payload) =
        .ok (decide (signature = jwtSignature s header payload)) ∨
      (signature ≠ jwtSignature s header payload ∧
        compareDigest signature (jwtSignature s header payload) = .error .other) := by
  unfold compareDigest
  rw [jwtSignature_ascii, Bool.and_true]
  by_cases hascii : signature.all (fun c => c.toNat < 128) = true
  · rw [if_pos hascii]
    exact Or.inl rfl
  · rw [if_neg hascii]
    refine Or.inr ⟨?_, rfl⟩
    intro heq
    rw [heq] at hascii
    exact hascii (jwtSignature_ascii header payload)

/-- What is raised while the claims are read is caught. -/
theorem readPayload_caught (now : Int) (payloadEncoded : List Char) :
    tryCatch (readPayload s now payloadEncoded) (fun _ => return none) =
      .ok (match (base64UrlDecode payloadEncoded).bind s.loads with
        | some (.obj payload) =>
            match orElseJson (getKey payload "exp") none with
            | some exp =>
                match s.intOf exp with
                | some exp => if exp < seconds now then none else some payload
                | none => none
            | none => if s.production then none else some payload
        | _ => none) := by
  have hraise : ∀ {α : Type} (a : α), orRaise PyError.valueError (some a) = .ok a :=
    fun _ => rfl
  unfold readPayload
  cases base64UrlDecode payloadEncoded with
  | none => rfl
  | some bytes =>
      rw [bind_ok (hraise bytes), Option.bind_some]
      cases s.loads bytes with
      | none => rfl
      | some payload =>
          rw [bind_ok (hraise payload)]
          cases payload with
          | obj payload =>
              dsimp only
              unfold hasExpired
              cases orElseJson (getKey payload "exp") none with
              | none => cases s.production <;> rfl
              | some exp =>
                  dsimp only
                  cases s.intOf exp with
                  | none => rfl
                  | some exp =>
                      have hread : (orRaise PyError.valueError (some exp)).map
                          (fun exp => decide (exp < seconds now)) =
                          .ok (decide (exp < seconds now)) := rfl
                      rw [bind_ok hread]
                      dsimp only
                      by_cases hexpired : exp < seconds now
                      · rw [if_pos hexpired, if_pos (decide_eq_true hexpired)]
                        rfl
                      · rw [if_neg hexpired, if_neg (by simpa using hexpired),
                          if_neg (by simp)]
                        rfl
          | _ => rfl

/-- What the body gives is caught where it raises: nothing is raised, and the claims are those
of the token that is read step by step. -/
theorem decodeJwtCaught_eq (now : Int) (token : String) :
    decodeJwtCaught s now token = .ok (decodeJwt s now token) := by
  unfold decodeJwtCaught decodeJwtBody decodeJwt
  cases token.toList.splitOn '.' with
  | nil => rfl
  | cons header rest =>
      cases rest with
      | nil => rfl
      | cons payload rest =>
          cases rest with
          | nil => rfl
          | cons signature rest =>
              cases rest with
              | cons more rest => rfl
              | nil =>
                  dsimp only
                  rcases @compareDigest_signature s signature header payload with
                    hsame | ⟨hne, hraises⟩
                  · rw [bind_ok hsame]
                    by_cases heq : signature = jwtSignature s header payload
                    · rw [if_pos (decide_eq_true heq), if_pos heq]
                      exact readPayload_caught now payload
                    · rw [if_neg (by simpa using heq), if_neg heq]
                      rfl
                  · rw [hraises, if_neg hne]
                    rfl

/-- A token that was made is read back until it expires. -/
theorem decodeJwtCaught_createJwt {payload : List (String × Json)} {exp : Int}
    (hloads : s.loads (utf8 (s.dumps payload)) = some (.obj payload))
    (hexp : getKey payload "exp" = some (.int exp)) (hpos : 0 < exp)
    (hint : s.intOf (.int exp) = some exp) (now : Int) :
    decodeJwtCaught s now (createJwt s payload) =
      .ok (if exp < seconds now then none else some payload) := by
  have hne : exp ≠ 0 := by omega
  rw [decodeJwtCaught_eq, decodeJwt_createJwt hloads hexp hint]
  simp [expiredAt, hne]

/-- A token that is accepted carries the signature of its first two parts. -/
theorem signedToken_of_decodeJwt {now : Int} {token : String} {claims : List (String × Json)}
    (h : decodeJwt s now token = some claims) : SignedToken s token := by
  unfold decodeJwt at h
  split at h
  next header payload signature hparts =>
    by_cases hsame : signature = jwtSignature s header payload
    · exact ⟨header, payload, by rw [hparts, hsame]⟩
    · rw [if_neg hsame] at h
      cases h
  next => cases h

/-- A token is the text of its parts. -/
theorem toList_of_parts {token : String} {header payload signature : List Char}
    (h : token.toList.splitOn '.' = [header, payload, signature]) :
    token.toList = header ++ '.' :: (payload ++ '.' :: signature) := by
  have htext : ['.'].intercalate (token.toList.splitOn '.') = token.toList :=
    List.intercalate_splitOn '.'
  rw [h] at htext
  rw [← htext]
  simp [List.intercalate]

/-- Two texts of bytes are the same text only where the bytes are. -/
theorem base64UrlEncode_injective : Function.Injective base64UrlEncode := by
  intro a b h
  have hdecoded := congrArg base64UrlDecode h
  rw [base64UrlDecode_encode, base64UrlDecode_encode] at hdecoded
  exact Option.some.inj hdecoded

/-- With a collision-free hash, what is accepted under the signature of a token that was made is
that token. -/
theorem eq_createJwt_of_signature (hinj : Function.Injective s.hmac) {now : Int}
    {token : String} {claims payload : List (String × Json)}
    (h : decodeJwt s now token = some claims)
    (hsame : (token.toList.splitOn '.').getLast? =
      ((createJwt s payload).toList.splitOn '.').getLast?) :
    token = createJwt s payload := by
  rcases signedToken_of_decodeJwt h with ⟨header, body, hparts⟩
  have hmade := splitOn_createJwt (s := s) payload
  rw [hparts, hmade] at hsame
  have hsignature : jwtSignature s header body =
      jwtSignature s (base64UrlEncode (utf8 jwtHeader))
        (base64UrlEncode (utf8 (s.dumps payload))) :=
    Option.some.inj hsame
  have hsigned := String.ofList_injective (hinj (base64UrlEncode_injective hsignature))
  have htoken := toList_of_parts hparts
  have htext := toList_of_parts hmade
  have happend : ∀ header body signature : List Char,
      header ++ '.' :: (body ++ '.' :: signature) =
        (header ++ '.' :: body) ++ '.' :: signature := by
    intro header body signature
    rw [List.append_assoc, List.cons_append]
  refine String.toList_injective ?_
  rw [htoken, htext, happend, happend, hsigned, hsignature]

end

/-- The claims of a token that was made are read back until it expires, and nothing else than a
token that carries its own signature is accepted; nothing is raised. -/
theorem decodeJwtCaught_spec (s : Signing) (hint : ∀ n, s.intOf (.int n) = some n) (now : Int) :
    (∀ payload exp, s.loads (utf8 (s.dumps payload)) = some (.obj payload) →
      getKey payload "exp" = some (.int exp) → 0 < exp →
      decodeJwtCaught s now (createJwt s payload) =
        .ok (if exp < seconds now then none else some payload)) ∧
    (∀ token, ∃ claims, decodeJwtCaught s now token = .ok claims) ∧
    (∀ token claims, decodeJwtCaught s now token = .ok (some claims) → SignedToken s token) ∧
    ∀ token, ¬SignedToken s token → decodeJwtCaught s now token = .ok none := by
  refine ⟨?_, ?_, ?_, ?_⟩
  · intro payload exp hloads hexp hpos
    exact decodeJwtCaught_createJwt hloads hexp hpos (hint exp) now
  · intro token
    exact ⟨_, decodeJwtCaught_eq now token⟩
  · intro token claims h
    rw [decodeJwtCaught_eq] at h
    exact signedToken_of_decodeJwt (Except.ok.inj h)
  · intro token h
    rw [decodeJwtCaught_eq]
    cases hclaims : decodeJwt s now token with
    | none => rfl
    | some claims => exact absurd (signedToken_of_decodeJwt hclaims) h

/-- The claims of a token that only expires. -/
def expiringClaims : List (String × Json) :=
  [("exp", .int 2000000000)]

/-- `json.dumps` of these claims. -/
def expiringText : String :=
  "\x7b\"exp\": 2000000000\x7d"

/-- Signing that writes and reads these claims. -/
def expiringSigning : Signing where
  dumps := fun _ => expiringText
  loads := fun bytes => if bytes = utf8 expiringText then some (.obj expiringClaims) else none
  hmac := utf8
  sha256 := fun text => text
  intOf := fun value =>
    match value with
    | .int n => some n
    | .bool b => some (if b then 1 else 0)
    | _ => none
  production := true

/-- A token is read back in its last second, and no longer in the next. -/
theorem decodeJwtCaught_expiring :
    (∀ n, expiringSigning.intOf (.int n) = some n) ∧
      decodeJwtCaught expiringSigning 2000000000000000
        (createJwt expiringSigning expiringClaims) = .ok (some expiringClaims) ∧
      decodeJwtCaught expiringSigning 2000000001000000
        (createJwt expiringSigning expiringClaims) = .ok none := by
  have hint : ∀ n, expiringSigning.intOf (.int n) = some n := fun _ => rfl
  have hloads : expiringSigning.loads (utf8 (expiringSigning.dumps expiringClaims)) =
      some (.obj expiringClaims) := by
    change (if utf8 expiringText = utf8 expiringText then some (Json.obj expiringClaims)
      else none) = _
    rw [if_pos rfl]
  refine ⟨hint, ?_, ?_⟩
  · exact (decodeJwtCaught_spec expiringSigning hint _).1 expiringClaims 2000000000 hloads rfl
      (by decide)
  · exact (decodeJwtCaught_spec expiringSigning hint _).1 expiringClaims 2000000000 hloads rfl
      (by decide)

end AuthClaw.Identity
