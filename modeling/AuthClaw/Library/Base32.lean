import AuthClaw.Library.AsciiText
import Mathlib.Data.List.DropRight
import Mathlib.Tactic.Common
import Mathlib.Tactic.Positivity
import Mathlib.Tactic.Ring

/-!
# Base32

The text {lit}`base64.b32encode` writes for some bytes, and what {lit}`base64.b32decode` reads
from a text.  Five bytes are one number of eight digits; fewer bytes at the end are written with
as many digits as they need, and the padding tells how many bytes they were.

Main results:

- Theorem {lit}`ofNumeral_numeral` and {lit}`numeral_ofNumeral`: numbers and their numerals.
- Theorem {lit}`quanta_encode`: the decoder reads the digits back.
- Theorem {lit}`b32decode_padded`: digits in any case, padded to a whole number of quanta, are
  read back.
-/

namespace Base32

/-! ## Numerals -/

/-- The numeral of a number in a base, of so many places, the highest first. -/
def numeral (b : Nat) : Nat → Nat → List Nat
  | 0, _ => []
  | places + 1, n => numeral b places (n / b) ++ [n % b]

/-- The number of a numeral. -/
def ofNumeral (b : Nat) (ds : List Nat) : Nat :=
  ds.foldl (fun acc d => acc * b + d) 0

section

variable {b places m n : Nat} {ds : List Nat}

@[simp]
theorem length_numeral (places n : Nat) : (numeral b places n).length = places := by
  induction places generalizing n with
  | zero => rfl
  | succ places ih => rw [numeral, List.length_append, ih, List.length_singleton]

theorem ofNumeral_append (ds : List Nat) (d : Nat) :
    ofNumeral b (ds ++ [d]) = ofNumeral b ds * b + d := by
  unfold ofNumeral
  rw [List.foldl_append]
  rfl

/-- A number is read back from its numeral. -/
theorem ofNumeral_numeral (h : n < b ^ places) : ofNumeral b (numeral b places n) = n := by
  induction places generalizing n with
  | zero =>
      rw [pow_zero, Nat.lt_one_iff] at h
      rw [h]
      rfl
  | succ places ih =>
      have hquotient : n / b < b ^ places := by
        apply Nat.div_lt_of_lt_mul
        rwa [← pow_succ']
      rw [numeral, ofNumeral_append, ih hquotient]
      exact Nat.div_add_mod' n b

/-- A numeral is read back from its number. -/
theorem numeral_ofNumeral (h : ∀ d ∈ ds, d < b) : numeral b ds.length (ofNumeral b ds) = ds := by
  induction ds using List.reverseRecOn with
  | nil => rfl
  | append_singleton ds d ih =>
      have hd : d < b := h d (by simp)
      have hpos : 0 < b := by omega
      have hquotient : (ofNumeral b ds * b + d) / b = ofNumeral b ds := by
        rw [Nat.add_comm, Nat.add_mul_div_right d _ hpos, Nat.div_eq_of_lt hd, Nat.zero_add]
      have hremainder : (ofNumeral b ds * b + d) % b = d := by
        rw [Nat.add_comm, Nat.add_mul_mod_self_right, Nat.mod_eq_of_lt hd]
      rw [List.length_append, List.length_singleton, numeral, ofNumeral_append, hquotient,
        hremainder, ih (fun d hd => h d (by simp [hd]))]

/-- The digits of a numeral are below its base. -/
theorem lt_of_mem_numeral (hb : 0 < b) {d : Nat} (h : d ∈ numeral b places n) : d < b := by
  induction places generalizing n with
  | zero => cases h
  | succ places ih =>
      rcases List.mem_append.mp h with h | h
      · exact ih h
      · rw [List.mem_singleton.mp h]
        exact Nat.mod_lt n hb

/-- The first places of a numeral are those of a quotient. -/
theorem take_numeral (h : m ≤ places) :
    (numeral b places n).take m = numeral b m (n / b ^ (places - m)) := by
  induction places generalizing n with
  | zero =>
      rw [Nat.le_zero.mp h]
      rfl
  | succ places ih =>
      rcases Nat.eq_or_lt_of_le h with rfl | hlt
      · rw [Nat.sub_self, pow_zero, Nat.div_one]
        exact List.take_of_length_le (by simp)
      · have hm : m ≤ places := by omega
        rw [numeral, List.take_append_of_le_length (by simpa using hm), ih hm,
          Nat.div_div_eq_div_mul, ← pow_succ', Nat.succ_sub hm]

/-- A numeral is below the power of its base. -/
theorem ofNumeral_lt (h : ∀ d ∈ ds, d < b) : ofNumeral b ds < b ^ ds.length := by
  induction ds using List.reverseRecOn with
  | nil => simp [ofNumeral]
  | append_singleton ds d ih =>
      have hd : d < b := h d (by simp)
      have hlt := ih (fun d hd => h d (by simp [hd]))
      rw [ofNumeral_append, List.length_append, List.length_singleton, pow_succ]
      calc ofNumeral b ds * b + d < ofNumeral b ds * b + b := by omega
        _ = (ofNumeral b ds + 1) * b := by ring
        _ ≤ b ^ ds.length * b := Nat.mul_le_mul_right b hlt

end

/-! ## Digits -/

/-- The digit of a value. -/
def digit (n : Nat) : Char :=
  if n < 26 then Char.ofNat (65 + n) else Char.ofNat (50 + (n - 26))

/-- The value of a digit. -/
def value (c : Char) : Option Nat :=
  if 'A' ≤ c ∧ c ≤ 'Z' then some (c.toNat - 65)
  else if '2' ≤ c ∧ c ≤ '7' then some (c.toNat - 50 + 26)
  else none

/-- A digit is read back, is a capital letter or a figure, and is no padding. -/
theorem digit_spec {n : Nat} (h : n < 32) :
    value (digit n) = some n ∧ digit n ≠ '=' ∧ (digit n).isAlphanum = true ∧
      (digit n).toNat < 128 := by
  have htable : ∀ n : Fin 32, value (digit n) = some n.val ∧ digit n ≠ '=' ∧
      (digit n).isAlphanum = true ∧ (digit n).toNat < 128 := by
    decide
  exact htable ⟨n, h⟩

/-- The values of digits. -/
theorem mapM_value {ds : List Nat} (h : ∀ d ∈ ds, d < 32) :
    (ds.map digit).mapM value = some ds := by
  induction ds with
  | nil => rfl
  | cons d ds ih =>
      rw [List.map_cons, List.mapM_cons, (digit_spec (h d (by simp))).1,
        ih (fun d hd => h d (by simp [hd]))]
      rfl

/-! ## Encoding -/

/-- The number of bytes. -/
def ofBytes (bytes : List UInt8) : Nat :=
  ofNumeral 256 (bytes.map UInt8.toNat)

/-- The bytes of a number. -/
def toBytes (places n : Nat) : List UInt8 :=
  (numeral 256 places n).map UInt8.ofNat

/-- The digits that so many bytes need. -/
def places (bytes : Nat) : Nat :=
  (8 * bytes + 4) / 5

/-- The digits of at most five bytes, with zeros for the bits the last one lacks. -/
def encodeQuantum (bytes : List UInt8) : List Char :=
  (numeral 32 (places bytes.length)
    (ofBytes bytes * 2 ^ (5 * places bytes.length - 8 * bytes.length))).map digit

/-- The digits of the bytes, without padding. -/
def encode : List UInt8 → List Char
  | [] => []
  | a :: b :: c :: d :: e :: rest => encodeQuantum [a, b, c, d, e] ++ encode rest
  | part => encodeQuantum part

/-- The padding of a text of so many digits. -/
def padding (n : Nat) : List Char :=
  List.replicate ((8 - n % 8) % 8) '='

/-- `b32encode`. -/
def b32encode (bytes : List UInt8) : List Char :=
  encode bytes ++ padding (encode bytes).length

/-! ## Decoding -/

/-- The bytes of at most eight digits: those the missing digits leave. -/
def decodeQuantum (text : List Char) : Option (List UInt8) :=
  (text.mapM value).map (fun ds =>
    (toBytes 5 (ofNumeral 32 ds * 32 ^ (8 - text.length))).take
      ((43 - 5 * (8 - text.length)) / 8))

/-- The bytes of the quanta of a text without padding. -/
def quanta : List Char → Option (List UInt8)
  | [] => some []
  | a :: b :: c :: d :: e :: f :: g :: h :: rest =>
      (decodeQuantum [a, b, c, d, e, f, g, h]).bind (fun bytes =>
        (quanta rest).map (fun more => bytes ++ more))
  | part => decodeQuantum part

/-- `b32decode`, with `casefold`. -/
def b32decode (text : List Char) : Option (List UInt8) :=
  if text.all (fun c => c.toNat < 128) ∧ text.length % 8 = 0 then
    let digits := (text.map Char.toUpper).rdropWhile (fun c => c = '=')
    if text.length - digits.length ∈ [0, 1, 3, 4, 6] then quanta digits else none
  else none

/-! ## The round trip -/

section

variable {bytes : List UInt8} {text rest : List Char}

theorem length_encodeQuantum : (encodeQuantum bytes).length = places bytes.length := by
  unfold encodeQuantum
  rw [List.length_map, length_numeral]

theorem toBytes_ofBytes (bytes : List UInt8) : toBytes bytes.length (ofBytes bytes) = bytes := by
  have hlt : ∀ d ∈ bytes.map UInt8.toNat, d < 256 := by
    intro d hd
    rcases List.mem_map.mp hd with ⟨byte, -, rfl⟩
    exact byte.toNat_lt
  have hnumeral := numeral_ofNumeral hlt
  rw [List.length_map] at hnumeral
  unfold toBytes ofBytes
  rw [hnumeral, List.map_map]
  refine (List.map_congr_left ?_).trans (List.map_id bytes)
  intro byte _
  exact UInt8.ofNat_toNat

theorem ofBytes_lt (bytes : List UInt8) : ofBytes bytes < 256 ^ bytes.length := by
  have hlt : ∀ d ∈ bytes.map UInt8.toNat, d < 256 := by
    intro d hd
    rcases List.mem_map.mp hd with ⟨byte, -, rfl⟩
    exact byte.toNat_lt
  have hbound := ofNumeral_lt hlt
  rwa [List.length_map] at hbound

/-- The digits of at most five bytes are read back. -/
theorem decodeQuantum_encodeQuantum (hlength : bytes.length ≤ 5) :
    decodeQuantum (encodeQuantum bytes) = some bytes := by
  have hplaces : places bytes.length = (8 * bytes.length + 4) / 5 := rfl
  have hshift : 8 * bytes.length ≤ 5 * places bytes.length := by omega
  have hbytes := ofBytes_lt bytes
  have hlt : ofBytes bytes * 2 ^ (5 * places bytes.length - 8 * bytes.length) <
      32 ^ places bytes.length := by
    have hpow : (32 : Nat) ^ places bytes.length =
        256 ^ bytes.length * 2 ^ (5 * places bytes.length - 8 * bytes.length) := by
      rw [show (32 : Nat) = 2 ^ 5 from rfl, show (256 : Nat) = 2 ^ 8 from rfl, ← pow_mul, ← pow_mul,
        ← pow_add, Nat.add_sub_cancel' hshift]
    rw [hpow]
    exact Nat.mul_lt_mul_of_pos_right hbytes (by positivity)
  have hvalues := mapM_value (fun d hd => @lt_of_mem_numeral 32 (places bytes.length)
    (ofBytes bytes * 2 ^ (5 * places bytes.length - 8 * bytes.length)) (by decide) d hd)
  have hnumber : ofBytes bytes * 2 ^ (5 * places bytes.length - 8 * bytes.length) *
      32 ^ (8 - places bytes.length) = ofBytes bytes * 256 ^ (5 - bytes.length) := by
    rw [show (32 : Nat) = 2 ^ 5 from rfl, show (256 : Nat) = 2 ^ 8 from rfl, mul_assoc, ← pow_mul,
      ← pow_mul, ← pow_add]
    congr 2
    omega
  have hcount : (43 - 5 * (8 - places bytes.length)) / 8 = bytes.length := by
    omega
  unfold decodeQuantum
  rw [length_encodeQuantum]
  unfold encodeQuantum
  rw [hvalues, Option.map_some, ofNumeral_numeral hlt, hnumber, hcount]
  unfold toBytes
  rw [← List.map_take, take_numeral hlength, Nat.mul_div_cancel _ (by positivity)]
  exact congrArg some (toBytes_ofBytes bytes)

/-- What is not five bytes and more is fewer. -/
theorem length_lt_of_few {part : List UInt8}
    (hfew : ∀ a b c d e rest, part = a :: b :: c :: d :: e :: rest → False) : part.length < 5 := by
  match part, hfew with
  | [], _ => simp
  | [_], _ => simp
  | [_, _], _ => simp
  | [_, _, _], _ => simp
  | [_, _, _, _], _ => simp
  | a :: b :: c :: d :: e :: rest, hfew => exact absurd rfl (hfew a b c d e rest)

theorem quanta_append (htext : text.length = 8) :
    quanta (text ++ rest) =
      (decodeQuantum text).bind (fun bytes => (quanta rest).map (fun more => bytes ++ more)) := by
  match text, htext with
  | [_, _, _, _, _, _, _, _], _ => rfl

theorem quanta_of_lt (hne : text ≠ []) (htext : text.length < 8) :
    quanta text = decodeQuantum text := by
  match text, hne, htext with
  | [_], _, _ => rfl
  | [_, _], _, _ => rfl
  | [_, _, _], _, _ => rfl
  | [_, _, _, _], _, _ => rfl
  | [_, _, _, _, _], _, _ => rfl
  | [_, _, _, _, _, _], _, _ => rfl
  | [_, _, _, _, _, _, _], _, _ => rfl

/-- The decoder reads the digits back. -/
theorem quanta_encode (bytes : List UInt8) : quanta (encode bytes) = some bytes := by
  induction bytes using encode.induct with
  | case1 => rfl
  | case2 a b c d e rest ih =>
      have hlength : (encodeQuantum [a, b, c, d, e]).length = 8 :=
        length_encodeQuantum.trans (by simp [places])
      rw [encode, quanta_append hlength, decodeQuantum_encodeQuantum (by simp), ih]
      rfl
  | case3 part hne hfew =>
      have hpart : encode part = encodeQuantum part := by
        rw [encode]
        · exact hne
        · exact hfew
      have hlength := length_lt_of_few hfew
      have hpos : 0 < part.length := List.length_pos_iff.mpr hne
      have hdigits : (encodeQuantum part).length = (8 * part.length + 4) / 5 :=
        length_encodeQuantum
      rw [hpart, quanta_of_lt (List.ne_nil_of_length_pos (by omega)) (by omega),
        decodeQuantum_encodeQuantum (by omega)]

/-- Every character written is a digit. -/
theorem mem_encode {c : Char} (h : c ∈ encode bytes) : ∃ n, n < 32 ∧ c = digit n := by
  have hquantum : ∀ bytes : List UInt8, c ∈ encodeQuantum bytes → ∃ n, n < 32 ∧ c = digit n := by
    intro bytes h
    rcases List.mem_map.mp h with ⟨n, hn, rfl⟩
    exact ⟨n, lt_of_mem_numeral (by decide) hn, rfl⟩
  induction bytes using encode.induct with
  | case1 => cases h
  | case2 a b c d e rest ih =>
      rw [encode] at h
      rcases List.mem_append.mp h with h | h
      · exact hquantum _ h
      · exact ih h
  | case3 part hne hfew =>
      rw [encode] at h
      · exact hquantum _ h
      · exact hne
      · exact hfew

/-- How many digits are in the last quantum. -/
theorem length_encode_mod (bytes : List UInt8) :
    (encode bytes).length % 8 ∈ [0, 2, 4, 5, 7] := by
  induction bytes using encode.induct with
  | case1 => decide
  | case2 a b c d e rest ih =>
      rw [encode, List.length_append, length_encodeQuantum]
      have hplaces : places [a, b, c, d, e].length = 8 := by simp [places]
      rwa [hplaces, Nat.add_mod_left]
  | case3 part hne hfew =>
      have hlength := length_lt_of_few hfew
      rw [encode, length_encodeQuantum]
      · have htable : ∀ n : Fin 5, places n % 8 ∈ [0, 2, 4, 5, 7] := by
          decide
        exact htable ⟨part.length, hlength⟩
      · exact hne
      · exact hfew

/-- Digits in any case, padded to a whole number of quanta, are read back. -/
theorem b32decode_padded (h : text.map Char.toUpper = encode bytes) :
    b32decode (text ++ padding text.length) = some bytes := by
  have hlength : text.length = (encode bytes).length := by
    rw [← h, List.length_map]
  have hupper : (text ++ padding text.length).map Char.toUpper =
      encode bytes ++ padding text.length := by
    rw [List.map_append, h]
    unfold padding
    rw [List.map_replicate]
    rfl
  have hstripped : (encode bytes ++ padding text.length).rdropWhile (fun c => c = '=') =
      encode bytes := by
    have hnone : (encode bytes).rdropWhile (fun c => c = '=') = encode bytes := by
      rw [List.rdropWhile_eq_self_iff]
      intro hne
      rcases mem_encode (List.getLast_mem hne) with ⟨n, hn, heq⟩
      rw [heq, decide_eq_true_iff]
      exact (digit_spec hn).2.1
    unfold padding
    generalize (8 - text.length % 8) % 8 = k
    induction k with
    | zero => rwa [List.replicate_zero, List.append_nil]
    | succ k ih =>
        rw [List.replicate_succ', ← List.append_assoc, List.rdropWhile_concat_pos _ _ _ (by rfl)]
        exact ih
  have hascii : (text ++ padding text.length).all (fun c => c.toNat < 128) = true := by
    rw [List.all_eq_true]
    intro c hc
    rcases List.mem_append.mp hc with hc | hc
    · have hmem : c.toUpper ∈ encode bytes := h ▸ List.mem_map_of_mem hc
      rcases mem_encode hmem with ⟨n, hn, heq⟩
      rw [decide_eq_true_iff]
      by_contra hlarge
      rw [AsciiText.toUpper_of_not_ascii (Nat.not_lt.mp hlarge)] at heq
      exact hlarge (heq ▸ (digit_spec hn).2.2.2)
    · rw [List.eq_of_mem_replicate hc]
      rfl
  have hpads := length_encode_mod bytes
  rw [← hlength] at hpads
  have hpad : (padding text.length).length = (8 - text.length % 8) % 8 := List.length_replicate
  have htotal : (text ++ padding text.length).length % 8 = 0 := by
    rw [List.length_append, hpad]
    omega
  unfold b32decode
  rw [if_pos ⟨hascii, htotal⟩]
  dsimp only
  rw [hupper, hstripped, if_pos, quanta_encode]
  have hcount : (8 - text.length % 8) % 8 ∈ [0, 1, 3, 4, 6] := by
    simp only [List.mem_cons, List.not_mem_nil, or_false] at hpads ⊢
    omega
  rwa [List.length_append, hpad, ← hlength, Nat.add_sub_cancel_left]

end

end Base32
