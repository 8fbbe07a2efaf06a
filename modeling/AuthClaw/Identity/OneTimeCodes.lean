import AuthClaw.Identity.Sessions
import AuthClaw.Library.Base32

/-!
# One-time codes

The secret of a user's authenticator is a base32 text, and {lit}`verify_totp_token` of
{lit}`main.py` compares a code with those of the secret in three intervals of thirty seconds.

Main results:

- Theorem {lit}`secretKey_written`: the key of a secret does not depend on how it is written.
- Theorem {lit}`verifyTotpToken_iff`: which codes are taken.
-/

namespace AuthClaw.Identity

open PythonText

/-! ## Codes -/

/-- What codes are made with: the interpreter, `str.isdigit` of one character, and the keyed
hash, of twenty bytes. -/
structure CodeSetting where
  py : PyText
  isDigit : Char → Bool
  isDigit_ascii : ∀ c : Char, c.toNat < 128 → isDigit c = c.isDigit
  hmacSha1 : List UInt8 → List UInt8 → Vector UInt8 20

section

variable (t : CodeSetting)

/-- The key that `get_hotp_token` reads from a secret. -/
def secretKey (secret : String) : Option (List UInt8) :=
  let text := (t.py.strip secret).toList.filter (· ≠ ' ')
  Base32.b32decode (text ++ Base32.padding text.length)

/-- The number of a code in a hash. -/
def hotpNumber (digest : Vector UInt8 20) : Nat :=
  let o := digest[19].toNat % 16
  have ho : o < 16 := Nat.mod_lt _ (by decide)
  Base32.ofBytes [digest[o], digest[o + 1], digest[o + 2], digest[o + 3]] % 2147483648 % 1000000

/-- `f"{token:06d}"`. -/
def sixDigits (n : Nat) : String :=
  let text := Nat.toDigits 10 n
  String.ofList (List.replicate (6 - text.length) '0' ++ text)

/-- The code of a key for a counter. -/
def hotpCode (key : List UInt8) (counter : Nat) : String :=
  sixDigits (hotpNumber (t.hmacSha1 key (Base32.toBytes 8 counter)))

/-- `get_hotp_token`, where it does not raise. -/
def getHotpToken (secret : String) (counter : Int) : Option String :=
  match secretKey t secret with
  | none => none
  | some key =>
      if 0 ≤ counter ∧ counter < 18446744073709551616 then some (hotpCode t key counter.toNat)
      else none

/-- `text.isdigit()`. -/
def CodeSetting.isDigits (text : String) : Bool :=
  text ≠ "" && text.toList.all t.isDigit

/-- `verify_totp_token`, with a window of one. -/
def verifyTotpToken (secret token : String) (now : Int) : Bool :=
  if secret = "" ∨ token = "" then false
  else
    let token := t.py.strip token
    if t.isDigits token = false ∨ token.length ≠ 6 then false
    else [-1, 0, 1].any (fun i => getHotpToken t secret (seconds now / 30 + i) = some token)

/-- `generate_totp_secret`, of the ten bytes it draws. -/
def generateTotpSecret (bytes : List UInt8) : String :=
  String.ofList (Base32.b32encode bytes)

end

/-! ## Secrets -/

/-- A text a key may be written as: the digits in any case, with blanks among them. -/
def Written (secret : String) (key : List UInt8) : Prop :=
  (secret.toList.filter (· ≠ ' ')).map Char.toUpper = Base32.encode key

section

variable {t : CodeSetting} {secret token : String} {key : List UInt8}

/-- Only blanks are stripped off a text of digits. -/
theorem filter_strip {py : PyText} {text : String}
    (h : ∀ c ∈ text.toList, py.isSpace c = true → c = ' ') :
    (py.strip text).toList.filter (· ≠ ' ') = text.toList.filter (· ≠ ' ') := by
  rcases py.exists_eq_strip text with ⟨front, back, htext, hfront, hback⟩
  have hblank : ∀ part : List Char, (∀ c ∈ part, c ∈ text.toList) →
      (∀ c ∈ part, py.isSpace c = true) → part.filter (· ≠ ' ') = [] := by
    intro part hmem hspace
    rw [List.filter_eq_nil_iff]
    intro c hc
    rw [h c (hmem c hc) (hspace c hc)]
    decide
  have hmem : ∀ c, c ∈ front ++ (py.strip text).toList ++ back → c ∈ text.toList := by
    rw [← htext]
    exact fun c hc => hc
  rw [htext, List.filter_append, List.filter_append,
    hblank front (fun c hc => hmem c (by simp [hc])) hfront,
    hblank back (fun c hc => hmem c (by simp [hc])) hback, List.nil_append, List.append_nil]

/-- A character whose capital is a digit of base32 is no whitespace. -/
theorem isSpace_of_toUpper {py : PyText} {c : Char} {n : Nat} (hn : n < 32)
    (h : c.toUpper = Base32.digit n) : py.isSpace c = false := by
  have hdigit := Base32.digit_spec hn
  have hascii : c.toNat < 128 := by
    by_contra hlarge
    rw [AsciiText.toUpper_of_not_ascii (Nat.not_lt.mp hlarge)] at h
    exact hlarge (h ▸ hdigit.2.2.2)
  have htable : ∀ c : Char, c.toNat < 128 → c.toUpper.isAlphanum = true →
      asciiSpace c = false := by
    intro c hc
    exact AsciiText.forall_ascii (P := fun c => c.toUpper.isAlphanum = true →
      asciiSpace c = false) (by decide) hc
  rw [py.isSpace_ascii c hascii]
  exact htable c hascii (h ▸ hdigit.2.2.1)

/-- The key of a secret does not depend on how it is written. -/
theorem secretKey_written (h : Written secret key) : secretKey t secret = some key := by
  have hspaces : ∀ c ∈ secret.toList, t.py.isSpace c = true → c = ' ' := by
    intro c hc hspace
    by_contra hne
    have hmem : c.toUpper ∈ Base32.encode key := by
      rw [← h]
      exact List.mem_map_of_mem (List.mem_filter.mpr ⟨hc, by simpa using hne⟩)
    rcases Base32.mem_encode hmem with ⟨n, hn, hdigit⟩
    rw [isSpace_of_toUpper hn hdigit] at hspace
    cases hspace
  unfold secretKey
  rw [filter_strip hspaces]
  exact Base32.b32decode_padded h

/-- A drawn secret is written as its key. -/
theorem written_generated {bytes : List UInt8} (h : bytes.length = 10) :
    Written (generateTotpSecret bytes) bytes := by
  have hpadding : Base32.padding (Base32.encode bytes).length = [] := by
    match bytes, h with
    | [a, b, c, d, e, f, g, h, i, j], _ =>
        have hlength : (Base32.encode [a, b, c, d, e, f, g, h, i, j]).length = 16 := by
          simp [Base32.encode, Base32.length_encodeQuantum, Base32.places]
        rw [hlength]
        rfl
  have htable : ∀ n : Fin 32, Base32.digit n ≠ ' ' ∧ (Base32.digit n).toUpper = Base32.digit n := by
    decide
  have hdigit : ∀ c ∈ Base32.encode bytes, c ≠ ' ' ∧ c.toUpper = c := by
    intro c hc
    rcases Base32.mem_encode hc with ⟨n, hn, rfl⟩
    exact htable ⟨n, hn⟩
  unfold Written generateTotpSecret Base32.b32encode
  rw [hpadding, List.append_nil, String.toList_ofList,
    List.filter_eq_self.mpr (fun c hc => decide_eq_true (hdigit c hc).1)]
  exact (List.map_congr_left (fun c hc => (hdigit c hc).2)).trans (List.map_id _)

/-! ## Accepted codes -/

/-- A code has six figures. -/
theorem hotpCode_spec (t : CodeSetting) (key : List UInt8) (counter : Nat) :
    (hotpCode t key counter).length = 6 ∧ t.isDigits (hotpCode t key counter) = true := by
  have hnumber : hotpNumber (t.hmacSha1 key (Base32.toBytes 8 counter)) < 10 ^ 6 :=
    Nat.mod_lt _ (by decide)
  unfold hotpCode
  generalize hotpNumber (t.hmacSha1 key (Base32.toBytes 8 counter)) = n at hnumber
  have hshort : (Nat.toDigits 10 n).length ≤ 6 :=
    (Nat.length_toDigits_le_iff (by decide) (by decide)).mpr hnumber
  have hlength : (sixDigits n).length = 6 := by
    unfold sixDigits
    rw [String.length_ofList, List.length_append, List.length_replicate]
    omega
  refine ⟨hlength, ?_⟩
  unfold CodeSetting.isDigits
  rw [Bool.and_eq_true, decide_eq_true_iff, List.all_eq_true]
  constructor
  · intro hempty
    rw [hempty] at hlength
    cases hlength
  · intro c hc
    have hfigure : c.isDigit = true := by
      unfold sixDigits at hc
      rw [String.toList_ofList] at hc
      rcases List.mem_append.mp hc with hc | hc
      · rw [List.eq_of_mem_replicate hc]
        rfl
      · exact Nat.isDigit_of_mem_toDigits (by decide) (by decide) hc
    rw [t.isDigit_ascii c ?_, hfigure]
    unfold Char.isDigit at hfigure
    rw [Bool.and_eq_true, decide_eq_true_iff, decide_eq_true_iff] at hfigure
    have hnine : c.toNat ≤ 57 := hfigure.2
    omega

/-- The codes of a secret. -/
theorem getHotpToken_written {counter : Int} (hsecret : Written secret key) :
    getHotpToken t secret counter = some token ↔ ∃ n : Nat, (n : Int) = counter ∧
      n < 18446744073709551616 ∧ hotpCode t key n = token := by
  unfold getHotpToken
  rw [secretKey_written hsecret]
  dsimp only
  constructor
  · intro h
    split at h
    next hrange =>
      refine ⟨counter.toNat, by omega, by omega, ?_⟩
      exact Option.some_inj.mp h
    next => cases h
  · rintro ⟨n, rfl, hn, rfl⟩
    rw [if_pos ⟨by omega, by omega⟩]
    rfl

/-- A code is taken for a secret exactly when, but for whitespace around it, it is the code of the
secret's key for the interval, the one before or the one after. -/
theorem verifyTotpToken_iff {now : Int} (hkey : key ≠ []) (hsecret : Written secret key) :
    verifyTotpToken t secret token now = true ↔
      ∃ counter : Nat, counter < 18446744073709551616 ∧
        seconds now / 30 - 1 ≤ counter ∧ counter ≤ seconds now / 30 + 1 ∧
          t.py.strip token = hotpCode t key counter := by
  have hnonempty : secret ≠ "" := by
    rintro rfl
    have hnone : Base32.encode key = [] := hsecret.symm
    have hempty := Base32.quanta_encode key
    rw [hnone] at hempty
    exact hkey (Option.some_inj.mp hempty).symm
  have hloop : [-1, 0, 1].any (fun i : Int =>
      getHotpToken t secret (seconds now / 30 + i) = some (t.py.strip token)) = true ↔
      ∃ counter : Nat, counter < 18446744073709551616 ∧
        seconds now / 30 - 1 ≤ counter ∧ counter ≤ seconds now / 30 + 1 ∧
          t.py.strip token = hotpCode t key counter := by
    rw [List.any_eq_true]
    constructor
    · rintro ⟨i, hi, hcode⟩
      rcases (getHotpToken_written hsecret).mp (of_decide_eq_true hcode) with ⟨n, hn, hlt, heq⟩
      simp only [List.mem_cons, List.not_mem_nil, or_false] at hi
      exact ⟨n, hlt, by omega, by omega, heq.symm⟩
    · rintro ⟨n, hlt, hle, hge, heq⟩
      refine ⟨n - seconds now / 30, ?_, ?_⟩
      · simp only [List.mem_cons, List.not_mem_nil, or_false]
        omega
      · exact decide_eq_true ((getHotpToken_written hsecret).mpr ⟨n, by omega, hlt, heq.symm⟩)
  rw [← hloop]
  unfold verifyTotpToken
  by_cases hblank : token = ""
  · rw [if_pos (Or.inr hblank)]
    refine iff_of_false Bool.false_ne_true ?_
    intro htaken
    rcases hloop.mp htaken with ⟨n, -, -, -, heq⟩
    have hsix := (hotpCode_spec t key n).1
    rw [← heq, hblank] at hsix
    cases hsix
  · rw [if_neg (not_or.mpr ⟨hnonempty, hblank⟩)]
    dsimp only
    by_cases hshape : t.isDigits (t.py.strip token) = false ∨ (t.py.strip token).length ≠ 6
    · rw [if_pos hshape]
      refine iff_of_false Bool.false_ne_true ?_
      intro htaken
      rcases hloop.mp htaken with ⟨n, -, -, -, heq⟩
      rw [heq, (hotpCode_spec t key n).1, (hotpCode_spec t key n).2] at hshape
      rcases hshape with hfalse | hsix
      · cases hfalse
      · exact hsix rfl
    · rw [if_neg hshape]

end

/-- ASCII texts, and a hash of zeros. -/
def zeroCodes : CodeSetting where
  py := asciiText
  isDigit := Char.isDigit
  isDigit_ascii := fun _ _ => rfl
  hmacSha1 := fun _ _ => Vector.replicate 20 0

theorem verifyTotpToken_zeros : verifyTotpToken zeroCodes "me" " 000000" 30000000 = true :=
  (@verifyTotpToken_iff zeroCodes "me" " 000000" [97] _ (List.cons_ne_nil _ _)
    (by unfold Written; decide)).mpr ⟨0, by decide, by decide, by decide, by decide⟩

end AuthClaw.Identity
