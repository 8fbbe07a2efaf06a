import Mathlib.Data.List.DropRight
import Mathlib.Tactic.Common

/-!
# URL-safe base64

The text {lit}`base64.urlsafe_b64encode` writes for some bytes, and what
{lit}`base64.urlsafe_b64decode` reads from a text.  The decoder is the lenient one of
{lit}`binascii`: it discards characters that are no digits and stops at the padding.

Main results:

- Theorem {lit}`a2b_encode`: the decoder reads the digits back.
- Theorem {lit}`decodeUnpadded_encodeUnpadded`: bytes whose padding is stripped and put back are
  read back.
-/

namespace Base64

/-! ## Digits -/

/-- The digit of a value. -/
def digit (n : Nat) : Char :=
  if n < 26 then Char.ofNat (65 + n)
  else if n < 52 then Char.ofNat (97 + (n - 26))
  else if n < 62 then Char.ofNat (48 + (n - 52))
  else if n = 62 then '-'
  else '_'

/-- The value of a digit; the digits of the plain alphabet are read, too. -/
def value (c : Char) : Option Nat :=
  if 'A' ≤ c ∧ c ≤ 'Z' then some (c.toNat - 65)
  else if 'a' ≤ c ∧ c ≤ 'z' then some (c.toNat - 97 + 26)
  else if '0' ≤ c ∧ c ≤ '9' then some (c.toNat - 48 + 52)
  else if c = '-' ∨ c = '+' then some 62
  else if c = '_' ∨ c = '/' then some 63
  else none

/-- A digit is read back, is no padding and is in ASCII. -/
theorem digit_spec {n : Nat} (h : n < 64) :
    value (digit n) = some n ∧ digit n ≠ '=' ∧ (digit n).toNat < 128 := by
  have htable : ∀ n : Fin 64,
      value (digit n) = some n.val ∧ digit n ≠ '=' ∧ (digit n).toNat < 128 := by
    decide
  exact htable ⟨n, h⟩

/-! ## Encoding -/

/-- The digits of the bytes, without padding. -/
def encode : List UInt8 → List Char
  | [] => []
  | [a] => [digit (a.toNat / 4), digit (a.toNat % 4 * 16)]
  | [a, b] =>
      [digit (a.toNat / 4), digit (a.toNat % 4 * 16 + b.toNat / 16),
        digit (b.toNat % 16 * 4)]
  | a :: b :: c :: rest =>
      digit (a.toNat / 4) :: digit (a.toNat % 4 * 16 + b.toNat / 16) ::
        digit (b.toNat % 16 * 4 + c.toNat / 64) :: digit (c.toNat % 64) :: encode rest

/-- The padding of a text of so many digits. -/
def padding (n : Nat) : List Char :=
  List.replicate ((4 - n % 4) % 4) '='

/-- `urlsafe_b64encode`. -/
def urlsafeEncode (bytes : List UInt8) : List Char :=
  encode bytes ++ padding (encode bytes).length

/-- `text.rstrip("=")`. -/
def stripPadding (text : List Char) : List Char :=
  text.rdropWhile (fun c => c == '=')

/-- The decoder of `binascii` after so many digits of a quad, with what is left of the
last one and the padding seen. -/
def a2b : Nat → Nat → Nat → List Char → Option (List UInt8)
  | quad, _, _, [] => if quad = 0 then some [] else none
  | quad, left, pads, c :: rest =>
      if c = '=' then
        if 2 ≤ quad then
          if 4 ≤ quad + (pads + 1) then some [] else a2b quad left (pads + 1) rest
        else a2b quad left pads rest
      else
        match value c with
        | none => a2b quad left pads rest
        | some v =>
            match quad with
            | 0 => a2b 1 v 0 rest
            | 1 => (a2b 2 (v % 16) 0 rest).map (UInt8.ofNat (left * 4 + v / 16) :: ·)
            | 2 => (a2b 3 (v % 4) 0 rest).map (UInt8.ofNat (left * 16 + v / 4) :: ·)
            | _ => (a2b 0 0 0 rest).map (UInt8.ofNat (left * 64 + v) :: ·)

/-- `urlsafe_b64decode` of an ASCII text. -/
def urlsafeDecode (text : List Char) : Option (List UInt8) :=
  a2b 0 0 0 text

/-! ## The round trip -/

section

variable {left pads n : Nat}

/-- The decoder on the four digits of a quad. -/
theorem a2b_opening (h : n < 64) (rest : List Char) :
    a2b 0 left pads (digit n :: rest) = a2b 1 n 0 rest := by
  rcases digit_spec h with ⟨hvalue, hpad, -⟩
  simp only [a2b, if_neg hpad, hvalue]

theorem a2b_second (h : n < 64) (rest : List Char) :
    a2b 1 left pads (digit n :: rest) =
      (a2b 2 (n % 16) 0 rest).map (UInt8.ofNat (left * 4 + n / 16) :: ·) := by
  rcases digit_spec h with ⟨hvalue, hpad, -⟩
  simp only [a2b, if_neg hpad, hvalue]

theorem a2b_third (h : n < 64) (rest : List Char) :
    a2b 2 left pads (digit n :: rest) =
      (a2b 3 (n % 4) 0 rest).map (UInt8.ofNat (left * 16 + n / 4) :: ·) := by
  rcases digit_spec h with ⟨hvalue, hpad, -⟩
  simp only [a2b, if_neg hpad, hvalue]

theorem a2b_closing (h : n < 64) (rest : List Char) :
    a2b 3 left pads (digit n :: rest) =
      (a2b 0 0 0 rest).map (UInt8.ofNat (left * 64 + n) :: ·) := by
  rcases digit_spec h with ⟨hvalue, hpad, -⟩
  simp only [a2b, if_neg hpad, hvalue]

end

theorem ofNat_eq {b : UInt8} {n : Nat} (h : n = b.toNat) : UInt8.ofNat n = b := by
  rw [h]
  exact UInt8.ofNat_toNat

/-- The decoder skips padding between quads. -/
theorem a2b_padding (left pads k : Nat) : a2b 0 left pads (List.replicate k '=') = some [] := by
  induction k with
  | zero => rfl
  | succ k ih =>
      rw [List.replicate_succ]
      simp only [a2b, if_true]
      exact ih

/-- The decoder reads the digits back before enough padding. -/
theorem a2b_encode_replicate (bytes : List UInt8) {k : Nat}
    (hk : (4 - (encode bytes).length % 4) % 4 ≤ k) :
    a2b 0 0 0 (encode bytes ++ List.replicate k '=') = some bytes := by
  induction bytes using encode.induct with
  | case1 => exact a2b_padding 0 0 k
  | case2 a =>
      have ha := a.toNat_lt
      rcases Nat.exists_eq_add_of_le' hk with ⟨more, rfl⟩
      simp only [encode, List.cons_append, List.nil_append]
      rw [a2b_opening (by omega), a2b_second (by omega)]
      have hbyte : UInt8.ofNat (a.toNat / 4 * 4 + a.toNat % 4 * 16 / 16) = a :=
        ofNat_eq (by omega)
      rw [hbyte]
      rfl
  | case3 a b =>
      have ha := a.toNat_lt
      have hb := b.toNat_lt
      rcases Nat.exists_eq_add_of_le' hk with ⟨more, rfl⟩
      simp only [encode, List.cons_append, List.nil_append]
      rw [a2b_opening (by omega), a2b_second (by omega), a2b_third (by omega)]
      have hfirst : UInt8.ofNat (a.toNat / 4 * 4 + (a.toNat % 4 * 16 + b.toNat / 16) / 16) = a :=
        ofNat_eq (by omega)
      have hsecond : UInt8.ofNat ((a.toNat % 4 * 16 + b.toNat / 16) % 16 * 16 +
          b.toNat % 16 * 4 / 4) = b :=
        ofNat_eq (by omega)
      rw [hfirst, hsecond]
      rfl
  | case4 a b c rest ih =>
      have ha := a.toNat_lt
      have hb := b.toNat_lt
      have hc := c.toNat_lt
      have hrest : (4 - (encode rest).length % 4) % 4 ≤ k := by
        simp only [encode, List.length_cons] at hk
        omega
      simp only [encode, List.cons_append]
      rw [a2b_opening (by omega), a2b_second (by omega), a2b_third (by omega),
        a2b_closing (by omega), ih hrest]
      have hfirst : UInt8.ofNat (a.toNat / 4 * 4 + (a.toNat % 4 * 16 + b.toNat / 16) / 16) = a :=
        ofNat_eq (by omega)
      have hsecond : UInt8.ofNat ((a.toNat % 4 * 16 + b.toNat / 16) % 16 * 16 +
          (b.toNat % 16 * 4 + c.toNat / 64) / 4) = b :=
        ofNat_eq (by omega)
      have hthird : UInt8.ofNat ((b.toNat % 16 * 4 + c.toNat / 64) % 4 * 64 +
          c.toNat % 64) = c :=
        ofNat_eq (by omega)
      rw [hfirst, hsecond, hthird]
      rfl

/-- The decoder reads the digits back, and then the padding. -/
theorem a2b_encode (bytes : List UInt8) :
    a2b 0 0 0 (encode bytes ++ padding (encode bytes).length) = some bytes :=
  a2b_encode_replicate bytes le_rfl

/-- Every character written is a digit. -/
theorem digit_of_mem_encode {bytes : List UInt8} {c : Char} (h : c ∈ encode bytes) :
    ∃ n, n < 64 ∧ c = digit n := by
  induction bytes using encode.induct with
  | case1 => cases h
  | case2 a =>
      have ha := a.toNat_lt
      simp only [encode, List.mem_cons, List.not_mem_nil, or_false] at h
      rcases h with rfl | rfl <;> exact ⟨_, by omega, rfl⟩
  | case3 a b =>
      have ha := a.toNat_lt
      have hb := b.toNat_lt
      simp only [encode, List.mem_cons, List.not_mem_nil, or_false] at h
      rcases h with rfl | rfl | rfl <;> exact ⟨_, by omega, rfl⟩
  | case4 a b c' rest ih =>
      have ha := a.toNat_lt
      have hb := b.toNat_lt
      have hc := c'.toNat_lt
      simp only [encode, List.mem_cons] at h
      rcases h with rfl | rfl | rfl | rfl | h
      · exact ⟨_, by omega, rfl⟩
      · exact ⟨_, by omega, rfl⟩
      · exact ⟨_, by omega, rfl⟩
      · exact ⟨_, by omega, rfl⟩
      · exact ih h

theorem mem_encode {bytes : List UInt8} {c : Char} (h : c ∈ encode bytes) :
    c ≠ '=' ∧ c.toNat < 128 := by
  rcases digit_of_mem_encode h with ⟨n, hn, rfl⟩
  exact (digit_spec hn).2

/-- Stripping the padding leaves the digits. -/
theorem stripPadding_urlsafeEncode (bytes : List UInt8) :
    stripPadding (urlsafeEncode bytes) = encode bytes := by
  unfold stripPadding urlsafeEncode padding
  generalize (4 - (encode bytes).length % 4) % 4 = n
  induction n with
  | zero =>
      rw [List.replicate_zero, List.append_nil, List.rdropWhile_eq_self_iff]
      intro hne
      have hlast := mem_encode (List.getLast_mem hne)
      simpa using hlast.1
  | succ n ih =>
      rw [List.replicate_succ', ← List.append_assoc, List.rdropWhile_concat_pos _ _ _ (by simp)]
      exact ih

/-- `_b64url`. -/
def encodeUnpadded (bytes : List UInt8) : List Char :=
  stripPadding (urlsafeEncode bytes)

/-- `_b64url_decode`, of an ASCII text. -/
def decodeUnpadded (text : List Char) : Option (List UInt8) :=
  urlsafeDecode (text ++ padding text.length)

/-- Bytes whose padding is stripped and put back are read back. -/
theorem decodeUnpadded_encodeUnpadded (bytes : List UInt8) :
    decodeUnpadded (encodeUnpadded bytes) = some bytes := by
  unfold decodeUnpadded encodeUnpadded urlsafeDecode
  rw [stripPadding_urlsafeEncode]
  exact a2b_encode bytes

end Base64
