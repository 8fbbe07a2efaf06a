import AuthClaw.Identity.Sessions
import AuthClaw.Library.Base64

/-!
# Passwords

{lit}`hash_password` of {lit}`main.py` writes what it derives from a password as one text, with
the salt and the number of iterations, and {lit}`verify_password` reads such a text and derives
again.

Main results:

- Theorem {lit}`b64decode_b64encode`: bytes written in plain base64 are read back.
- Theorem {lit}`verifyPassword_iff`: which passwords are taken for a stored text.
-/

namespace AuthClaw.Identity

/-! ## Plain base64 -/

/-- The digit of the plain alphabet for one of the URL-safe alphabet. -/
def plainDigit (c : Char) : Char :=
  if c = '-' then '+' else if c = '_' then '/' else c

/-- `base64.b64encode`. -/
def b64encode (bytes : List UInt8) : List Char :=
  (Base64.urlsafeEncode bytes).map plainDigit

/-- `base64.b64decode`: the digits of the other alphabet are discarded, as all else is. -/
def b64decode (text : List Char) : Option (List UInt8) :=
  Base64.a2b 0 0 0 (text.filter (fun c => c ≠ '-' ∧ c ≠ '_'))

theorem plainDigit_spec (c : Char) : Base64.value (plainDigit c) = Base64.value c ∧
    (plainDigit c = '=' ↔ c = '=') ∧ plainDigit c ≠ '-' ∧ plainDigit c ≠ '_' := by
  unfold plainDigit
  by_cases hminus : c = '-'
  · rw [if_pos hminus, hminus]
    decide
  · rw [if_neg hminus]
    by_cases hline : c = '_'
    · rw [if_pos hline, hline]
      decide
    · rw [if_neg hline]
      exact ⟨rfl, Iff.rfl, hminus, hline⟩

/-- The decoder reads both alphabets. -/
theorem a2b_plain (quad left pads : Nat) (text : List Char) :
    Base64.a2b quad left pads (text.map plainDigit) = Base64.a2b quad left pads text := by
  induction text generalizing quad left pads with
  | nil => rfl
  | cons c text ih =>
      rcases plainDigit_spec c with ⟨hvalue, hpad, -, -⟩
      rw [List.map_cons, Base64.a2b, Base64.a2b]
      simp only [hpad, hvalue, ih]

/-- Bytes written in plain base64 are read back. -/
theorem b64decode_b64encode (bytes : List UInt8) : b64decode (b64encode bytes) = some bytes := by
  have hkept : (b64encode bytes).filter (fun c => c ≠ '-' ∧ c ≠ '_') = b64encode bytes := by
    rw [List.filter_eq_self]
    intro c hc
    rcases List.mem_map.mp hc with ⟨d, -, rfl⟩
    exact decide_eq_true (plainDigit_spec d).2.2
  unfold b64decode
  rw [hkept]
  unfold b64encode Base64.urlsafeEncode
  rw [a2b_plain]
  exact Base64.a2b_encode bytes

/-- A dollar sign is no digit and no padding. -/
theorem dollar_not_mem_b64encode (bytes : List UInt8) : '$' ∉ b64encode bytes := by
  intro hmem
  rcases List.mem_map.mp hmem with ⟨c, hc, hdollar⟩
  have hsame : c = '$' := by
    unfold plainDigit at hdollar
    split_ifs at hdollar
    · exact absurd hdollar (by decide)
    · exact absurd hdollar (by decide)
    · exact hdollar
  have htable : ∀ n : Fin 64, Base64.digit n ≠ '$' := by
    decide
  rcases List.mem_append.mp hc with hc | hc
  · rcases Base64.digit_of_mem_encode hc with ⟨n, hn, hdigit⟩
    exact htable ⟨n, hn⟩ (hdigit.symm.trans hsame)
  · rw [List.eq_of_mem_replicate hc] at hsame
    exact absurd hsame (by decide)

/-! ## Stored passwords -/

/-- What passwords are stored with: `hashlib.pbkdf2_hmac` with SHA-256, where it does not raise,
`DEFAULT_ITERATIONS`, and `int` of a text, which reads their number back. -/
structure PasswordSetting where
  pbkdf2 : List UInt8 → List UInt8 → Int → Option (List UInt8)
  defaultIterations : Int
  intOf : String → Option Int
  intOf_repr : intOf defaultIterations.repr = some defaultIterations

section

variable (s : PasswordSetting)

/-- `hash_password`, with the salt it draws. -/
def hashPassword (password : String) (salt : List UInt8) : Option String :=
  (s.pbkdf2 (utf8 password) salt s.defaultIterations).map (fun key =>
    String.ofList ("pbkdf2_sha256$".toList ++ s.defaultIterations.repr.toList ++
      '$' :: b64encode salt ++ '$' :: b64encode key))

/-- `verify_password`. -/
def verifyPassword (password hashedPassword : String) : Bool :=
  if hashedPassword = "" ∨ "pbkdf2_sha256$".toList.isPrefixOf hashedPassword.toList = false then
    false
  else
    match hashedPassword.toList.splitOn '$' with
    | [_, iterations, salt, key] =>
        match s.intOf (String.ofList iterations), b64decode salt, b64decode key with
        | some iterations, some salt, some key =>
            s.pbkdf2 (utf8 password) salt iterations = some key
        | _, _, _ => false
    | _ => false

end

/-- A dollar sign is no part of a number. -/
theorem dollar_not_mem_repr (n : Int) : '$' ∉ n.repr.toList := by
  intro hmem
  have hdigit : ∀ m : Nat, '$' ∉ (Nat.repr m).toList := by
    intro m hm
    unfold Nat.repr at hm
    rw [String.toList_ofList] at hm
    exact absurd (Nat.isDigit_of_mem_toDigits (by decide) (by decide) hm) (by decide)
  cases n with
  | ofNat m => exact hdigit m hmem
  | negSucc m =>
      rw [Int.repr, String.toList_append] at hmem
      rcases List.mem_append.mp hmem with hmem | hmem
      · exact absurd hmem (by decide)
      · exact hdigit _ hmem

/-- A password is taken for what another one was stored as exactly when the same is derived from
both; the password itself is. -/
theorem verifyPassword_iff {s : PasswordSetting} {password password' stored : String}
    {salt : List UInt8} (h : hashPassword s password salt = some stored) :
    (verifyPassword s password' stored = true ↔
      s.pbkdf2 (utf8 password') salt s.defaultIterations =
        s.pbkdf2 (utf8 password) salt s.defaultIterations) ∧
      verifyPassword s password stored = true := by
  rcases Option.map_eq_some_iff.mp h with ⟨key, hkey, rfl⟩
  have hsplit : ("pbkdf2_sha256$".toList ++ s.defaultIterations.repr.toList ++
      '$' :: b64encode salt ++ '$' :: b64encode key).splitOn '$' =
        ["pbkdf2_sha256".toList, s.defaultIterations.repr.toList,
          b64encode salt, b64encode key] := by
    have hparts : ∀ part ∈ ["pbkdf2_sha256".toList, s.defaultIterations.repr.toList,
        b64encode salt, b64encode key], '$' ∉ part := by
      intro part hpart
      simp only [List.mem_cons, List.not_mem_nil, or_false] at hpart
      rcases hpart with rfl | rfl | rfl | rfl
      · decide
      · exact dollar_not_mem_repr _
      · exact dollar_not_mem_b64encode _
      · exact dollar_not_mem_b64encode _
    have hjoined := List.splitOn_intercalate '$' hparts (by simp)
    rw [← hjoined]
    congr 1
    simp [List.intercalate]
  have hstart : "pbkdf2_sha256$".toList.isPrefixOf ("pbkdf2_sha256$".toList ++
      s.defaultIterations.repr.toList ++ '$' :: b64encode salt ++ '$' :: b64encode key) = true := by
    rw [List.append_assoc, List.append_assoc]
    exact List.isPrefixOf_iff_prefix.mpr (List.prefix_append _ _)
  generalize "pbkdf2_sha256$".toList ++ s.defaultIterations.repr.toList ++
    '$' :: b64encode salt ++ '$' :: b64encode key = text at hsplit hstart ⊢
  have hverify : ∀ password', verifyPassword s password' (String.ofList text) =
      decide (s.pbkdf2 (utf8 password') salt s.defaultIterations = some key) := by
    intro password'
    unfold verifyPassword
    rw [@String.toList_ofList text, if_neg, hsplit]
    · dsimp only
      rw [String.ofList_toList, s.intOf_repr, b64decode_b64encode, b64decode_b64encode]
    · rintro (hempty | hother)
      · have hchars := congrArg String.toList hempty
        rw [@String.toList_ofList text] at hchars
        rw [hchars] at hstart
        exact absurd hstart (by decide)
      · rw [hstart] at hother
        cases hother
  rw [hverify, hverify, hkey]
  exact ⟨decide_eq_true_iff, decide_eq_true rfl⟩

/-- A setting that derives the password itself. -/
def plainPasswords : PasswordSetting where
  pbkdf2 := fun password _ _ => some password
  defaultIterations := 600000
  intOf := fun text => if text = "600000" then some 600000 else none
  intOf_repr := by decide

theorem verifyPassword_plain : (verifyPassword plainPasswords "other"
    "pbkdf2_sha256$600000$YQ==$c2VjcmV0" = true ↔ utf8 "other" = utf8 "secret") ∧
      verifyPassword plainPasswords "secret" "pbkdf2_sha256$600000$YQ==$c2VjcmV0" = true := by
  have h : hashPassword plainPasswords "secret" [97] =
      some "pbkdf2_sha256$600000$YQ==$c2VjcmV0" := by
    decide +kernel
  rcases @verifyPassword_iff _ _ "other" _ _ h with ⟨hother, hself⟩
  exact ⟨hother.trans Option.some_inj, hself⟩

end AuthClaw.Identity
