import AuthClaw.Library.JsonText
import AuthClaw.Library.PythonText

/-!
# Reading JSON back

{lit}`json.dumps` with its default separators and {lit}`json.loads`.  The reader follows
the scanner of the interpreter: strings with their escapes, numbers taken as far as they
go, and objects whose last member of a key wins.

Main results:

- Theorem {lit}`readChar_escapeChar`: an escaped character is read back.
- Theorem {lit}`readNumber_text`: a number is read up to what follows it.
- Theorem {lit}`loads_dumps`: a value that was written is read back.
-/

namespace JsonReader

open PythonText JsonText

/-! ## Strings -/

/-- The value of a hexadecimal digit. -/
def hexValue (c : Char) : Option Nat :=
  if '0' ≤ c ∧ c ≤ '9' then some (c.toNat - 48)
  else if 'a' ≤ c ∧ c ≤ 'f' then some (c.toNat - 87)
  else if 'A' ≤ c ∧ c ≤ 'F' then some (c.toNat - 55)
  else none

/-- Four hexadecimal digits. -/
def readUnit : List Char → Option (Nat × List Char)
  | a :: b :: c :: d :: rest => do
      let a ← hexValue a
      let b ← hexValue b
      let c ← hexValue c
      let d ← hexValue d
      return (a * 4096 + b * 256 + c * 16 + d, rest)
  | _ => none

/-- A code unit after its {lit}`\u`, with the second one of a pair.  A surrogate on its
own is no character and is not read. -/
def readCode (text : List Char) : Option (Char × List Char) := do
  let (unit, rest) ← readUnit text
  if unit < 0xd800 ∨ 0xe000 ≤ unit then return (Char.ofNat unit, rest)
  else if unit < 0xdc00 ∧ rest.take 2 = ['\\', 'u'] then
    let (low, rest) ← readUnit (rest.drop 2)
    if 0xdc00 ≤ low ∧ low < 0xe000 then
      return (Char.ofNat (0x10000 + (unit - 0xd800) * 0x400 + (low - 0xdc00)), rest)
    else none
  else none

/-- One character of a string. -/
def readChar : List Char → Option (Char × List Char)
  | [] => none
  | '\\' :: letter :: rest =>
      if letter = 'u' then readCode rest
      else if letter = '/' then some ('/', rest)
      else (readShort letter).map (fun c => (c, rest))
  | c :: rest => if c = '\\' ∨ c.toNat < 0x20 then none else some (c, rest)

/-- The characters up to the closing quote. -/
def readChars : Nat → List Char → Option (List Char × List Char)
  | 0, _ => none
  | n + 1, text =>
      if text.head? = some '"' then some ([], text.tail)
      else do
        let (c, rest) ← readChar text
        let (cs, rest) ← readChars n rest
        return (c :: cs, rest)

/-- A string after its opening quote. -/
def readString (text : List Char) : Option (String × List Char) :=
  (readChars (text.length + 1) text).map (fun read => (String.ofList read.1, read.2))

theorem hexValue_digitChar {k : Nat} (h : k < 16) : hexValue (Nat.digitChar k) = some k := by
  have htable : ∀ k : Fin 16, hexValue (Nat.digitChar k.val) = some k.val := by
    decide
  exact htable ⟨k, h⟩

/-- A written code unit is read back. -/
theorem readUnit_hex4 {n : Nat} (h : n < 0x10000) (rest : List Char) :
    readUnit (hex4 n ++ rest) = some (n, rest) := by
  have hdigit : ∀ k, hexValue (Nat.digitChar (k % 16)) = some (k % 16) :=
    fun k => hexValue_digitChar (Nat.mod_lt k (by decide))
  simp only [hex4, List.cons_append, List.nil_append, readUnit, hdigit]
  simp only [Option.bind_eq_bind, Option.bind_some, Option.pure_def, Option.some.injEq,
    Prod.mk.injEq, and_true]
  omega

/-- A unit that is no surrogate is read as its character. -/
theorem readCode_unit {c : Char} (h : c.toNat < 0x10000) (rest : List Char) :
    readCode (hex4 c.toNat ++ rest) = some (c, rest) := by
  have hplane : c.toNat < 0xd800 ∨ 0xe000 ≤ c.toNat := by
    have := char_toNat_not_surrogate c
    omega
  unfold readCode
  rw [readUnit_hex4 h]
  simp only [Option.bind_eq_bind, Option.bind_some, Option.pure_def, if_pos hplane]
  rw [Char.ofNat_toNat]

/-- Two surrogates are read as one character. -/
theorem readCode_surrogates {high low : Nat} (hhigh : 0xd800 ≤ high ∧ high < 0xdc00)
    (hlow : 0xdc00 ≤ low ∧ low < 0xe000) (rest : List Char) :
    readCode (hex4 high ++ '\\' :: 'u' :: (hex4 low ++ rest)) =
      some (Char.ofNat (0x10000 + (high - 0xd800) * 0x400 + (low - 0xdc00)), rest) := by
  have hplane : ¬(high < 0xd800 ∨ 0xe000 ≤ high) := by omega
  unfold readCode
  rw [readUnit_hex4 (by omega)]
  simp only [Option.bind_eq_bind, Option.bind_some, Option.pure_def, if_neg hplane,
    List.take_succ_cons, List.take_zero, List.drop_succ_cons, List.drop_zero, hhigh.2, and_self,
    if_true]
  rw [readUnit_hex4 (by omega), Option.bind_some, if_pos hlow]

/-- The pair of a character is read as the character. -/
theorem readCode_pair {c : Char} (h : 0x10000 ≤ c.toNat) (rest : List Char) :
    readCode (hex4 (0xd800 + (c.toNat - 0x10000) / 0x400) ++
      '\\' :: 'u' :: (hex4 (0xdc00 + (c.toNat - 0x10000) % 0x400) ++ rest)) = some (c, rest) := by
  have hbound := char_toNat_lt c
  rw [readCode_surrogates (by omega) (by omega)]
  have hvalue : 0x10000 + (0xd800 + (c.toNat - 0x10000) / 0x400 - 0xd800) * 0x400 +
      (0xdc00 + (c.toNat - 0x10000) % 0x400 - 0xdc00) = c.toNat := by omega
  rw [hvalue, Char.ofNat_toNat]

/-- An escaped character is read back; the cases are those of the escape. -/
theorem readChar_escapeChar (c : Char) (rest : List Char) :
    readChar (escapeChar c ++ rest) = some (c, rest) := by
  unfold escapeChar
  split
  · rename_i letter hshort
    have hu := shortEscape_ne_u hshort
    have hslash : letter ≠ '/' := by
      rintro rfl
      exact absurd (readShort_of_shortEscape hshort) (by simp [readShort])
    simp only [List.cons_append, List.nil_append, readChar, if_neg hu, if_neg hslash,
      readShort_of_shortEscape hshort, Option.map_some]
  · rename_i hshort
    have hslash : c ≠ '\\' := by
      rintro rfl
      simp [shortEscape] at hshort
    split_ifs with hprint hunit
    · have hread : ¬(c = '\\' ∨ c.toNat < 0x20) := by
        push Not
        exact ⟨hslash, hprint.1⟩
      rw [List.cons_append, List.nil_append, readChar.eq_def]
      split
      · cases ‹_›
      · rename_i heq
        injection heq with hhead
        exact absurd hhead hslash
      · rename_i heq
        injection heq with hhead htail
        rw [← hhead, ← htail, if_neg hread]
    · exact readCode_unit hunit rest
    · rw [List.append_assoc]
      exact readCode_pair (Nat.le_of_not_lt hunit) rest

/-- A string is read up to its closing quote. -/
theorem readChars_escapes (cs rest : List Char) {n : Nat} (h : cs.length < n) :
    readChars n (cs.flatMap escapeChar ++ '"' :: rest) = some (cs, rest) := by
  induction cs generalizing n with
  | nil =>
      cases n with
      | zero => omega
      | succ n => rfl
  | cons c cs ih =>
      cases n with
      | zero => omega
      | succ n =>
          have hquote : (escapeChar c ++ (cs.flatMap escapeChar ++ '"' :: rest)).head? ≠
              some '"' := by
            intro hhead
            rcases List.head?_eq_some_iff.mp hhead with ⟨tail, htail⟩
            exact escapeChar_append_ne_quote c _ tail htail
          rw [List.flatMap_cons, List.append_assoc, readChars, if_neg hquote,
            readChar_escapeChar]
          simp only [Option.bind_eq_bind, Option.bind_some]
          rw [ih (by simpa using h)]
          rfl

/-- Escapes are not empty. -/
theorem length_le_escapes (cs : List Char) : cs.length ≤ (cs.flatMap escapeChar).length := by
  induction cs with
  | nil => exact Nat.le_refl _
  | cons c cs ih =>
      have hne : escapeChar c ≠ [] := by
        intro hnil
        have hread := readChar_escapeChar c []
        rw [hnil] at hread
        cases hread
      have hpos := List.length_pos_of_ne_nil hne
      rw [List.flatMap_cons, List.length_append, List.length_cons]
      omega

/-- A written string is read back. -/
theorem readString_encodeString (s : String) (rest : List Char) :
    readString (s.toList.flatMap escapeChar ++ '"' :: rest) = some (s, rest) := by
  have hlength : s.toList.length < (s.toList.flatMap escapeChar ++ '"' :: rest).length + 1 := by
    rw [List.length_append]
    exact Nat.lt_succ_of_le (Nat.le_add_right_of_le (length_le_escapes s.toList))
  unfold readString
  rw [readChars_escapes _ _ hlength, Option.map_some, String.ofList_toList]

/-! ## Numbers -/

/-- The digits a text begins with, and what follows them. -/
def splitDigits (text : List Char) : List Char × List Char :=
  (text.takeWhile Char.isDigit, text.dropWhile Char.isDigit)

/-- A sign. -/
def splitSign (text : List Char) : List Char × List Char :=
  if text.head? = some '-' then (['-'], text.tail) else ([], text)

/-- The whole part, which is no longer than its leading zero. -/
def splitWhole (text : List Char) : List Char × List Char :=
  if text.head? = some '0' then (['0'], text.tail) else splitDigits text

/-- A point with the digits after it; without any it is left. -/
def splitFraction (text : List Char) : List Char × List Char :=
  if text.head? = some '.' then
    match splitDigits text.tail with
    | ([], _) => ([], text)
    | (digits, rest) => ('.' :: digits, rest)
  else ([], text)

/-- The sign of an exponent. -/
def splitExponentSign (text : List Char) : List Char × List Char :=
  if text.head? = some '+' then (['+'], text.tail) else splitSign text

/-- An exponent with its digits; without any it is left. -/
def splitExponent : List Char → List Char × List Char
  | [] => ([], [])
  | e :: text =>
      if e = 'e' ∨ e = 'E' then
        let (sign, rest) := splitExponentSign text
        match splitDigits rest with
        | ([], _) => ([], e :: text)
        | (digits, rest) => (e :: (sign ++ digits), rest)
      else ([], e :: text)

/-- The parts of a number. -/
structure Number where
  sign : List Char
  whole : List Char
  fraction : List Char
  exponent : List Char

/-- The text of a number. -/
def Number.text (n : Number) : List Char :=
  n.sign ++ (n.whole ++ (n.fraction ++ n.exponent))

/-- The number a text begins with. -/
def splitNumber (text : List Char) : Option (Number × List Char) :=
  let (sign, rest) := splitSign text
  let (whole, rest) := splitWhole rest
  let (fraction, rest) := splitFraction rest
  let (exponent, rest) := splitExponent rest
  if whole = [] then none
  else some ({ sign := sign, whole := whole, fraction := fraction, exponent := exponent }, rest)

/-- `int(text)` of a sign and digits. -/
def intOf (sign whole : List Char) : Int :=
  if sign = [] then Nat.ofDigitChars 10 whole 0 else -Nat.ofDigitChars 10 whole 0

/-- The value of a number; what `float` makes of a text is a parameter. -/
def Number.value (float : String → String × Bool) (n : Number) : Json :=
  if n.fraction = [] ∧ n.exponent = [] then .int (intOf n.sign n.whole)
  else .float (float (String.ofList n.text)).1 (float (String.ofList n.text)).2

/-- Some digits and nothing else. -/
def Digits (text : List Char) : Prop :=
  text ≠ [] ∧ ∀ c ∈ text, c.isDigit = true

/-- The numbers of JSON. -/
structure Number.Lawful (n : Number) : Prop where
  sign : n.sign = [] ∨ n.sign = ['-']
  whole : n.whole = ['0'] ∨ n.whole.head? ≠ some '0' ∧ Digits n.whole
  fraction : n.fraction = [] ∨ ∃ digits, Digits digits ∧ n.fraction = '.' :: digits
  exponent : n.exponent = [] ∨ ∃ e sign digits, (e = 'e' ∨ e = 'E') ∧
    (sign = [] ∨ sign = ['+'] ∨ sign = ['-']) ∧ Digits digits ∧ n.exponent = e :: (sign ++ digits)

/-- A text a number does not go on with. -/
def EndsNumber (rest : List Char) : Prop :=
  ∀ c, rest.head? = some c → c.isDigit = false ∧ c ≠ '.' ∧ c ≠ 'e' ∧ c ≠ 'E'

/-- Digits are taken up to what is none. -/
theorem splitDigits_append {digits rest : List Char} (hdigits : ∀ c ∈ digits, c.isDigit = true)
    (hrest : ∀ c, rest.head? = some c → c.isDigit = false) :
    splitDigits (digits ++ rest) = (digits, rest) := by
  unfold splitDigits
  rw [List.takeWhile_append_of_pos hdigits, List.dropWhile_append_of_pos hdigits]
  cases rest with
  | nil => simp
  | cons c rest =>
      have hc : ¬c.isDigit = true := by
        simpa using hrest c rfl
      rw [List.takeWhile_cons_of_neg hc, List.dropWhile_cons_of_neg hc, List.append_nil]

/-- Digits begin with one. -/
theorem Digits.head {text : List Char} (h : Digits text) (rest : List Char) :
    ∃ c, (text ++ rest).head? = some c ∧ c.isDigit = true := by
  cases text with
  | nil => exact absurd rfl h.1
  | cons c text => exact ⟨c, rfl, h.2 c (by simp)⟩

theorem Digits.head_ne {text : List Char} (h : Digits text) (rest : List Char) {d : Char}
    (hd : d.isDigit = false) : (text ++ rest).head? ≠ some d := by
  rcases h.head rest with ⟨c, hhead, hc⟩
  rw [hhead]
  intro heq
  cases heq
  rw [hc] at hd
  cases hd

theorem splitSign_append {sign rest : List Char} (hsign : sign = [] ∨ sign = ['-'])
    (hrest : rest.head? ≠ some '-') : splitSign (sign ++ rest) = (sign, rest) := by
  unfold splitSign
  rcases hsign with rfl | rfl
  · rw [List.nil_append, if_neg hrest]
  · rfl

theorem splitWhole_append {whole rest : List Char}
    (hwhole : whole = ['0'] ∨ whole.head? ≠ some '0' ∧ Digits whole)
    (hrest : ∀ c, rest.head? = some c → c.isDigit = false) :
    splitWhole (whole ++ rest) = (whole, rest) := by
  unfold splitWhole
  rcases hwhole with rfl | ⟨hzero, hdigits⟩
  · rfl
  · have hhead : (whole ++ rest).head? ≠ some '0' := by
      cases whole with
      | nil => exact absurd rfl hdigits.1
      | cons c whole => exact hzero
    rw [if_neg hhead, splitDigits_append hdigits.2 hrest]

theorem splitFraction_append {fraction rest : List Char}
    (hfraction : fraction = [] ∨ ∃ digits, Digits digits ∧ fraction = '.' :: digits)
    (hrest : ∀ c, rest.head? = some c → c.isDigit = false ∧ c ≠ '.') :
    splitFraction (fraction ++ rest) = (fraction, rest) := by
  unfold splitFraction
  rcases hfraction with rfl | ⟨digits, hdigits, rfl⟩
  · have hhead : rest.head? ≠ some '.' := fun hhead => (hrest '.' hhead).2 rfl
    rw [List.nil_append, if_neg hhead]
  · rw [List.cons_append, List.head?_cons, if_pos rfl, List.tail_cons,
      splitDigits_append hdigits.2 (fun c hc => (hrest c hc).1)]
    cases digits with
    | nil => exact absurd rfl hdigits.1
    | cons d digits => rfl

theorem splitExponentSign_append {sign digits : List Char} (rest : List Char)
    (hsign : sign = [] ∨ sign = ['+'] ∨ sign = ['-']) (hdigits : Digits digits) :
    splitExponentSign (sign ++ (digits ++ rest)) = (sign, digits ++ rest) := by
  have hplus := hdigits.head_ne rest (d := '+') (by decide)
  have hminus := hdigits.head_ne rest (d := '-') (by decide)
  unfold splitExponentSign
  rcases hsign with rfl | rfl | rfl
  · rw [List.nil_append, if_neg hplus]
    exact splitSign_append (Or.inl rfl) hminus
  · rfl
  · rw [if_neg (by simp)]
    exact splitSign_append (Or.inr rfl) hminus

theorem splitExponent_append {exponent rest : List Char}
    (hexponent : exponent = [] ∨ ∃ e sign digits, (e = 'e' ∨ e = 'E') ∧
      (sign = [] ∨ sign = ['+'] ∨ sign = ['-']) ∧ Digits digits ∧
        exponent = e :: (sign ++ digits))
    (hrest : EndsNumber rest) : splitExponent (exponent ++ rest) = (exponent, rest) := by
  rcases hexponent with rfl | ⟨e, sign, digits, he, hsign, hdigits, rfl⟩
  · cases rest with
    | nil => rfl
    | cons c rest =>
        have hc : ¬(c = 'e' ∨ c = 'E') := by
          push Not
          exact (hrest c rfl).2.2
        rw [List.nil_append, splitExponent, if_neg hc]
  · rw [List.cons_append, List.append_assoc, splitExponent, if_pos he,
      splitExponentSign_append rest hsign hdigits]
    simp only
    rw [splitDigits_append hdigits.2 (fun c hc => (hrest c hc).1)]
    cases digits with
    | nil => exact absurd rfl hdigits.1
    | cons d digits => rfl

/-- A number is read up to what it does not go on with. -/
theorem splitNumber_text {n : Number} (hn : n.Lawful) {rest : List Char}
    (hrest : EndsNumber rest) : splitNumber (n.text ++ rest) = some (n, rest) := by
  have hexponent : ∀ c, (n.exponent ++ rest).head? = some c → c.isDigit = false ∧ c ≠ '.' := by
    intro c hc
    rcases hn.exponent with hnil | ⟨e, sign, digits, he, -, -, hexponent⟩
    · rw [hnil] at hc
      exact ⟨(hrest c hc).1, (hrest c hc).2.1⟩
    · rw [hexponent] at hc
      cases hc
      rcases he with rfl | rfl <;> decide
  have hfraction : ∀ c, (n.fraction ++ (n.exponent ++ rest)).head? = some c →
      c.isDigit = false := by
    intro c hc
    rcases hn.fraction with hnil | ⟨digits, -, hfraction⟩
    · rw [hnil] at hc
      exact (hexponent c hc).1
    · rw [hfraction] at hc
      cases hc
      decide
  have hne : n.whole ≠ [] := by
    rcases hn.whole with hzero | ⟨-, hdigits⟩
    · rw [hzero]
      exact List.cons_ne_nil _ _
    · exact hdigits.1
  have hwhole : (n.whole ++ (n.fraction ++ (n.exponent ++ rest))).head? ≠ some '-' := by
    rcases hn.whole with hzero | ⟨-, hdigits⟩
    · rw [hzero]
      simp
    · exact hdigits.head_ne _ (by decide)
  unfold splitNumber Number.text
  rw [List.append_assoc, List.append_assoc, List.append_assoc, splitSign_append hn.sign hwhole]
  simp only
  rw [splitWhole_append hn.whole hfraction]
  simp only
  rw [splitFraction_append hn.fraction hexponent]
  simp only
  rw [splitExponent_append hn.exponent hrest]
  simp only
  rw [if_neg hne]

/-- The decimal digits of a number do not begin with a zero. -/
theorem toDigits_head {m : Nat} (hm : 0 < m) : (Nat.toDigits 10 m).head? ≠ some '0' := by
  induction m using Nat.strongRecOn with
  | ind m ih =>
      by_cases hsmall : m < 10
      · rw [Nat.toDigits_of_lt_base hsmall]
        have htable : ∀ k : Fin 10, 0 < k.val → [Nat.digitChar k.val].head? ≠ some '0' := by
          decide
        exact htable ⟨m, hsmall⟩ hm
      · have hbase : 10 ≤ m := Nat.le_of_not_lt hsmall
        rw [Nat.toDigits_of_base_le (by decide) hbase, List.head?_append_of_ne_nil _
          Nat.toDigits_ne_nil]
        exact ih (m / 10) (by omega) (by omega)

/-- The parts of the text of an integer. -/
def Number.ofInt (n : Int) : Number where
  sign := if n < 0 then ['-'] else []
  whole := n.natAbs.repr.toList
  fraction := []
  exponent := []

theorem ofInt_text (n : Int) : (Number.ofInt n).text = n.repr.toList := by
  cases n with
  | ofNat m => simp [Number.ofInt, Number.text, Int.repr]
  | negSucc m => simp [Number.ofInt, Number.text, Int.repr, Int.negSucc_lt_zero]

theorem ofInt_lawful (n : Int) : (Number.ofInt n).Lawful := by
  refine ⟨?_, ?_, Or.inl rfl, Or.inl rfl⟩
  · unfold Number.ofInt
    by_cases hn : n < 0
    · exact Or.inr (if_pos hn)
    · exact Or.inl (if_neg hn)
  · change n.natAbs.repr.toList = ['0'] ∨ _
    rcases Nat.eq_zero_or_pos n.natAbs with hzero | hpos
    · rw [hzero]
      exact Or.inl (by decide)
    · right
      change n.natAbs.repr.toList.head? ≠ some '0' ∧ Digits n.natAbs.repr.toList
      refine ⟨?_, ?_, fun c hc => isDigit_of_mem_repr hc⟩
      · rw [Nat.toList_repr]
        exact toDigits_head hpos
      · rw [Nat.toList_repr]
        exact Nat.toDigits_ne_nil

/-- The text of an integer has its value. -/
theorem ofInt_value (float : String → String × Bool) (n : Int) :
    (Number.ofInt n).value float = .int n := by
  have hvalue : Nat.ofDigitChars 10 n.natAbs.repr.toList 0 = n.natAbs := by
    rw [Nat.toList_repr, Nat.ofDigitChars_ten_toDigits]
  unfold Number.value
  rw [if_pos ⟨rfl, rfl⟩]
  unfold intOf Number.ofInt
  simp only [hvalue]
  by_cases hn : n < 0
  · simp only [if_pos hn, List.cons_ne_nil, if_false]
    congr 1
    omega
  · simp only [if_neg hn, if_true]
    congr 1
    omega

/-! ## Writing values -/

mutual

/-- `json.dumps(value)`. -/
def dumps : Json → List Char
  | .null => "null".toList
  | .bool true => "true".toList
  | .bool false => "false".toList
  | .int n => n.repr.toList
  | .float text _ => text.toList
  | .str s => encodeString s
  | .arr [] => ['[', ']']
  | .arr (item :: rest) => '[' :: (dumps item ++ dumpsItems rest)
  | .obj [] => ['{', '}']
  | .obj ((key, value) :: rest) =>
      '{' :: (encodeString key ++ ':' :: ' ' :: (dumps value ++ dumpsMembers rest))

/-- What follows an item of an array. -/
def dumpsItems : List Json → List Char
  | [] => [']']
  | item :: rest => ',' :: ' ' :: (dumps item ++ dumpsItems rest)

/-- What follows a member of an object. -/
def dumpsMembers : List (String × Json) → List Char
  | [] => ['}']
  | (key, value) :: rest =>
      ',' :: ' ' :: (encodeString key ++ ':' :: ' ' :: (dumps value ++ dumpsMembers rest))

end

/-! ## Reading values -/

/-- The whitespace of JSON. -/
def isSpace (c : Char) : Bool :=
  c == ' ' || c == '\t' || c == '\n' || c == '\r'

/-- The text after its whitespace. -/
def skipSpace (text : List Char) : List Char :=
  text.dropWhile isSpace

/-- The words for values. -/
def constants : List (List Char × Json) :=
  [("null".toList, .null), ("true".toList, .bool true), ("false".toList, .bool false),
    ("NaN".toList, .float "NaN" false), ("Infinity".toList, .float "Infinity" false),
    ("-Infinity".toList, .float "-Infinity" false)]

/-- A word for a value. -/
def readConstant (text : List Char) : Option (Json × List Char) :=
  constants.findSome? (fun entry =>
    if entry.1.isPrefixOf text then some (entry.2, text.drop entry.1.length) else none)

/-- A number. -/
def readNumber (float : String → String × Bool) (text : List Char) : Option (Json × List Char) :=
  (splitNumber text).map (fun split => (split.1.value float, split.2))

/-- A key with its colon, up to its value. -/
def readKey (text : List Char) : Option (String × List Char) :=
  if text.head? = some '"' then do
    let (key, rest) ← readString text.tail
    if (skipSpace rest).head? = some ':' then return (key, skipSpace (skipSpace rest).tail)
    else none
  else none

/-- `d[key] = value`. -/
def setMember (members : List (String × Json)) (m : String × Json) : List (String × Json) :=
  if m.1 ∈ members.map Prod.fst then members.map (fun old => if old.1 = m.1 then m else old)
  else members ++ [m]

/-- `dict(pairs)`. -/
def dict (pairs : List (String × Json)) : List (String × Json) :=
  pairs.foldl setMember []

mutual

/-- The value a text begins with. -/
def readValue (float : String → String × Bool) : Nat → List Char → Option (Json × List Char)
  | 0, _ => none
  | _ + 1, [] => none
  | n + 1, c :: rest =>
      if c = '"' then (readString rest).map (fun read => (.str read.1, read.2))
      else if c = '[' then
        if (skipSpace rest).head? = some ']' then some (.arr [], (skipSpace rest).tail)
        else do
          let (item, rest) ← readValue float n (skipSpace rest)
          let (items, rest) ← readItems float n rest
          return (.arr (item :: items), rest)
      else if c = '{' then
        if (skipSpace rest).head? = some '}' then some (.obj [], (skipSpace rest).tail)
        else do
          let (key, rest) ← readKey (skipSpace rest)
          let (value, rest) ← readValue float n rest
          let (members, rest) ← readMembers float n rest
          return (.obj (dict ((key, value) :: members)), rest)
      else (readConstant (c :: rest)).or (readNumber float (c :: rest))

/-- What follows an item of an array. -/
def readItems (float : String → String × Bool) : Nat → List Char → Option (List Json × List Char)
  | 0, _ => none
  | n + 1, text =>
      if (skipSpace text).head? = some ']' then some ([], (skipSpace text).tail)
      else if (skipSpace text).head? = some ',' then do
        let (item, rest) ← readValue float n (skipSpace (skipSpace text).tail)
        let (items, rest) ← readItems float n rest
        return (item :: items, rest)
      else none

/-- What follows a member of an object. -/
def readMembers (float : String → String × Bool) :
    Nat → List Char → Option (List (String × Json) × List Char)
  | 0, _ => none
  | n + 1, text =>
      if (skipSpace text).head? = some '}' then some ([], (skipSpace text).tail)
      else if (skipSpace text).head? = some ',' then do
        let (key, rest) ← readKey (skipSpace (skipSpace text).tail)
        let (value, rest) ← readValue float n rest
        let (members, rest) ← readMembers float n rest
        return ((key, value) :: members, rest)
      else none

end

/-- `json.loads(text)`; `none` is a {lit}`JSONDecodeError`. -/
def loads (float : String → String × Bool) (text : List Char) : Option Json :=
  match readValue float text.length (skipSpace text) with
  | some (value, rest) => if skipSpace rest = [] then some value else none
  | none => none

/-! ## The round trip -/

section

variable (float : String → String × Bool)

/-- The text of a float: a number with a fraction or an exponent that `float` leaves as it
is, or one of the words. -/
def FloatText (text : String) (zero : Bool) : Prop :=
  (∃ n : Number, n.Lawful ∧ (n.fraction ≠ [] ∨ n.exponent ≠ []) ∧ n.text = text.toList ∧
      float text = (text, zero)) ∨
    ((text = "NaN" ∨ text = "Infinity" ∨ text = "-Infinity") ∧ zero = false)

/-- The values of JSON: floats have the text of a float, and the keys of an object
differ. -/
inductive IsJson : Json → Prop where
  | null : IsJson .null
  | bool (b : Bool) : IsJson (.bool b)
  | int (n : Int) : IsJson (.int n)
  | float {text : String} {zero : Bool} (h : FloatText float text zero) : IsJson (.float text zero)
  | str (s : String) : IsJson (.str s)
  | arr {items : List Json} (h : ∀ item ∈ items, IsJson item) : IsJson (.arr items)
  | obj {members : List (String × Json)} (hkeys : (members.map Prod.fst).Nodup)
      (h : ∀ m ∈ members, IsJson m.2) : IsJson (.obj members)

variable {float}

/-- A lawful number begins with a digit, or with a sign and a digit. -/
theorem Number.Lawful.head {n : Number} (hn : n.Lawful) :
    ∃ c tail, c.isDigit = true ∧ (n.text = c :: tail ∨ n.text = '-' :: c :: tail) := by
  have hwhole : ∃ c tail, c.isDigit = true ∧ n.whole = c :: tail := by
    rcases hn.whole with hzero | ⟨-, hdigits⟩
    · exact ⟨'0', [], by decide, hzero⟩
    · cases hw : n.whole with
      | nil => exact absurd hw hdigits.1
      | cons c tail => exact ⟨c, tail, hdigits.2 c (by rw [hw]; simp), rfl⟩
  rcases hwhole with ⟨c, tail, hc, hw⟩
  refine ⟨c, tail ++ (n.fraction ++ n.exponent), hc, ?_⟩
  unfold Number.text
  rcases hn.sign with hsign | hsign
  · left
    rw [hsign, hw]
    rfl
  · right
    rw [hsign, hw]
    rfl

/-- A number is no word. -/
theorem readConstant_number {n : Number} (hn : n.Lawful) (rest : List Char) :
    readConstant (n.text ++ rest) = none := by
  rcases hn.head with ⟨c, tail, hc, htext⟩
  have hne : ∀ d : Char, d.isDigit = false → d ≠ c := by
    rintro d hd rfl
    rw [hc] at hd
    cases hd
  have hletter := hne 'I' (by decide)
  rcases htext with htext | htext
  · rw [htext]
    simp [readConstant, constants, hne 'n' (by decide), hne 't' (by decide),
      hne 'f' (by decide), hne 'N' (by decide), hletter, hne '-' (by decide)]
  · rw [htext]
    simp [readConstant, constants, hletter]

/-- A number is read with its value. -/
theorem readNumber_text {n : Number} (hn : n.Lawful) {rest : List Char}
    (hrest : EndsNumber rest) :
    readNumber float (n.text ++ rest) = some (n.value float, rest) := by
  unfold readNumber
  rw [splitNumber_text hn hrest]
  rfl

/-- Texts that are no string, array or object are words or numbers. -/
theorem readValue_scalar {n : Nat} {c : Char} {text : List Char}
    (hc : c ≠ '"' ∧ c ≠ '[' ∧ c ≠ '{') :
    readValue float (n + 1) (c :: text) =
      (readConstant (c :: text)).or (readNumber float (c :: text)) := by
  rw [readValue, if_neg hc.1, if_neg hc.2.1, if_neg hc.2.2]

/-- A number is read as a value. -/
theorem readValue_number {m : Number} (hm : m.Lawful) {rest : List Char}
    (hrest : EndsNumber rest) (n : Nat) :
    readValue float (n + 1) (m.text ++ rest) = some (m.value float, rest) := by
  have hread : readNumber float (m.text ++ rest) = some (m.value float, rest) :=
    readNumber_text hm hrest
  have hconstant := readConstant_number hm rest
  rcases hm.head with ⟨c, tail, hc, htext⟩
  have hstart : ∃ d text, m.text ++ rest = d :: text ∧ (d.isDigit = true ∨ d = '-') := by
    rcases htext with htext | htext
    · exact ⟨c, tail ++ rest, by rw [htext]; rfl, Or.inl hc⟩
    · exact ⟨'-', c :: tail ++ rest, by rw [htext]; rfl, Or.inr rfl⟩
  rcases hstart with ⟨d, text, hd, hdigit⟩
  rw [hd] at hread hconstant ⊢
  rw [readValue_scalar, hconstant, hread]
  · rfl
  · refine ⟨?_, ?_, ?_⟩ <;> rintro rfl <;> rcases hdigit with hdigit | hdigit <;> cases hdigit

theorem skipSpace_cons {c : Char} (hc : isSpace c = false) (text : List Char) :
    skipSpace (c :: text) = c :: text := by
  unfold skipSpace
  rw [List.dropWhile_cons_of_neg]
  simpa using hc

/-- The text of a value begins neither with whitespace nor with a closing bracket. -/
theorem dumps_head {v : Json} (hv : IsJson float v) :
    ∃ c text, dumps v = c :: text ∧ isSpace c = false ∧ c ≠ ']' := by
  have hnumber : ∀ n : Number, n.Lawful →
      ∃ c text, n.text = c :: text ∧ isSpace c = false ∧ c ≠ ']' := by
    intro n hn
    rcases hn.head with ⟨c, tail, hc, htext | htext⟩
    · refine ⟨c, tail, htext, ?_, ?_⟩
      · unfold isSpace
        simp only [Bool.or_eq_false_iff, beq_eq_false_iff_ne]
        refine ⟨⟨⟨?_, ?_⟩, ?_⟩, ?_⟩ <;> rintro rfl <;> cases hc
      · rintro rfl
        cases hc
    · exact ⟨'-', c :: tail, htext, by decide, by decide⟩
  cases hv with
  | null => exact ⟨'n', _, rfl, by decide, by decide⟩
  | bool b =>
      cases b
      · exact ⟨'f', _, rfl, by decide, by decide⟩
      · exact ⟨'t', _, rfl, by decide, by decide⟩
  | int n =>
      rw [dumps, ← ofInt_text]
      exact hnumber _ (ofInt_lawful n)
  | float h =>
      rw [dumps]
      rcases h with ⟨n, hn, -, htext, -⟩ | ⟨rfl | rfl | rfl, -⟩
      · rw [← htext]
        exact hnumber n hn
      · exact ⟨'N', _, rfl, by decide, by decide⟩
      · exact ⟨'I', _, rfl, by decide, by decide⟩
      · exact ⟨'-', _, rfl, by decide, by decide⟩
  | str s => exact ⟨'"', _, rfl, by decide, by decide⟩
  | @arr items h =>
      cases items with
      | nil => exact ⟨'[', _, rfl, by decide, by decide⟩
      | cons item rest => exact ⟨'[', _, rfl, by decide, by decide⟩
  | @obj members hkeys h =>
      rcases members with - | ⟨⟨key, value⟩, rest⟩
      · exact ⟨'{', _, rfl, by decide, by decide⟩
      · exact ⟨'{', _, rfl, by decide, by decide⟩

theorem skipSpace_dumps {v : Json} (hv : IsJson float v) (rest : List Char) :
    skipSpace (dumps v ++ rest) = dumps v ++ rest := by
  rcases dumps_head hv with ⟨c, text, htext, hspace, -⟩
  rw [htext]
  exact skipSpace_cons hspace _

/-- A number does not go on with the rest of an array. -/
theorem endsNumber_items (items : List Json) (rest : List Char) :
    EndsNumber (dumpsItems items ++ rest) := by
  intro c hc
  cases items with
  | nil =>
      cases hc
      decide
  | cons item items =>
      cases hc
      decide

/-- A number does not go on with the rest of an object. -/
theorem endsNumber_members (members : List (String × Json)) (rest : List Char) :
    EndsNumber (dumpsMembers members ++ rest) := by
  intro c hc
  rcases members with - | ⟨⟨key, value⟩, members⟩
  · cases hc
    decide
  · cases hc
    decide

/-- The text of a value is read up to what follows it. -/
def ReadsBack (float : String → String × Bool) (v : Json) : Prop :=
  ∀ n rest, EndsNumber rest → (dumps v).length ≤ n →
    readValue float n (dumps v ++ rest) = some (v, rest)

/-- The rest of an array is read back when its items are. -/
theorem readItems_dumps {items : List Json} (hjson : ∀ item ∈ items, IsJson float item)
    (hread : ∀ item ∈ items, ReadsBack float item) {n : Nat} (rest : List Char)
    (hn : (dumpsItems items).length ≤ n) :
    readItems float n (dumpsItems items ++ rest) = some (items, rest) := by
  induction items generalizing n with
  | nil =>
      cases n with
      | zero => simp [dumpsItems] at hn
      | succ n => rfl
  | cons item items ih =>
      cases n with
      | zero => simp [dumpsItems] at hn
      | succ n =>
          simp only [dumpsItems, List.length_cons, List.length_append] at hn
          have hitem := hread item (by simp) n (dumpsItems items ++ rest)
            (endsNumber_items items rest) (by omega)
          have hitems := ih (fun i hi => hjson i (by simp [hi]))
            (fun i hi => hread i (by simp [hi])) (n := n) (by omega)
          have hcomma : skipSpace (dumpsItems (item :: items) ++ rest) =
              ',' :: ' ' :: (dumps item ++ (dumpsItems items ++ rest)) := by
            rw [dumpsItems, List.cons_append, List.cons_append, List.append_assoc]
            rfl
          have hspace : skipSpace (' ' :: (dumps item ++ (dumpsItems items ++ rest))) =
              dumps item ++ (dumpsItems items ++ rest) :=
            skipSpace_dumps (hjson item (by simp)) _
          rw [readItems, hcomma, List.head?_cons, if_neg (by decide), if_pos rfl, List.tail_cons,
            hspace, hitem]
          simp only [Option.bind_eq_bind, Option.bind_some]
          rw [hitems]
          rfl

/-- A key is read up to the value after it. -/
theorem readKey_encodeString (key : String) {rest : List Char} (hrest : skipSpace rest = rest) :
    readKey (encodeString key ++ ':' :: ' ' :: rest) = some (key, rest) := by
  have hkey : encodeString key ++ ':' :: ' ' :: rest =
      '"' :: (key.toList.flatMap escapeChar ++ '"' :: ':' :: ' ' :: rest) := by
    unfold encodeString
    rw [List.cons_append, List.append_assoc]
    rfl
  have hcolon : skipSpace (':' :: ' ' :: rest) = ':' :: ' ' :: rest :=
    skipSpace_cons (by decide) _
  have hspace : skipSpace (' ' :: rest) = rest := hrest
  unfold readKey
  rw [hkey, List.head?_cons, if_pos rfl, List.tail_cons, readString_encodeString]
  simp only [Option.bind_eq_bind, Option.bind_some, hcolon, List.head?_cons, if_true,
    List.tail_cons, hspace, Option.pure_def]

/-- The rest of an object is read back when its values are. -/
theorem readMembers_dumps {members : List (String × Json)}
    (hjson : ∀ m ∈ members, IsJson float m.2)
    (hread : ∀ m ∈ members, ReadsBack float m.2) {n : Nat} (rest : List Char)
    (hn : (dumpsMembers members).length ≤ n) :
    readMembers float n (dumpsMembers members ++ rest) = some (members, rest) := by
  induction members generalizing n with
  | nil =>
      cases n with
      | zero => simp [dumpsMembers] at hn
      | succ n => rfl
  | cons m members ih =>
      rcases m with ⟨key, value⟩
      cases n with
      | zero => simp [dumpsMembers] at hn
      | succ n =>
          simp only [dumpsMembers, List.length_cons, List.length_append] at hn
          have hback : ReadsBack float value := hread (key, value) (by simp)
          have hvalue := hback n (dumpsMembers members ++ rest)
            (endsNumber_members members rest) (by omega)
          have hmembers := ih (fun m hm => hjson m (by simp [hm]))
            (fun m hm => hread m (by simp [hm])) (n := n) (by omega)
          have hkey := readKey_encodeString key
            (skipSpace_dumps (hjson (key, value) (by simp)) (dumpsMembers members ++ rest))
          have hcomma : skipSpace (dumpsMembers ((key, value) :: members) ++ rest) =
              ',' :: ' ' :: (encodeString key ++
                ':' :: ' ' :: (dumps value ++ (dumpsMembers members ++ rest))) := by
            rw [dumpsMembers]
            simp only [List.cons_append, List.append_assoc]
            rfl
          have hspace : skipSpace (' ' :: (encodeString key ++
                ':' :: ' ' :: (dumps value ++ (dumpsMembers members ++ rest)))) =
              encodeString key ++ ':' :: ' ' :: (dumps value ++ (dumpsMembers members ++ rest)) :=
            rfl
          rw [readMembers, hcomma, List.head?_cons, if_neg (by decide), if_pos rfl,
            List.tail_cons, hspace, hkey]
          simp only [Option.bind_eq_bind, Option.bind_some]
          rw [hvalue]
          simp only [Option.bind_some]
          rw [hmembers]
          rfl

/-- Pairs with different keys are their own dictionary. -/
theorem dict_eq_self {pairs : List (String × Json)} (h : (pairs.map Prod.fst).Nodup) :
    dict pairs = pairs := by
  have hadd : ∀ members rest : List (String × Json),
      ((members ++ rest).map Prod.fst).Nodup → rest.foldl setMember members = members ++ rest := by
    intro members rest
    induction rest generalizing members with
    | nil => simp
    | cons m rest ih =>
        intro hnodup
        have hnew : m.1 ∉ members.map Prod.fst := by
          rw [List.map_append, List.nodup_append] at hnodup
          intro hmem
          exact hnodup.2.2 _ hmem m.1 (by simp) rfl
        rw [List.foldl_cons, setMember, if_neg hnew, ih _ (by simpa using hnodup)]
        simp
  exact hadd [] pairs h

/-- A number is read back with any fuel its text allows. -/
theorem readValue_fuel {m : Number} (hm : m.Lawful) {rest : List Char}
    (hrest : EndsNumber rest) {n : Nat} (hn : m.text.length ≤ n) :
    readValue float n (m.text ++ rest) = some (m.value float, rest) := by
  cases n with
  | zero =>
      rcases hm.head with ⟨c, tail, -, htext | htext⟩
      · simp [htext] at hn
      · simp [htext] at hn
  | succ n => exact readValue_number hm hrest n

theorem readsBack_float {text : String} {zero : Bool} (h : FloatText float text zero) :
    ReadsBack float (.float text zero) := by
  intro n rest hrest hn
  rw [dumps] at hn ⊢
  rcases h with ⟨m, hm, hfloat, htext, hvalue⟩ | ⟨hword, rfl⟩
  · have hself : m.value float = .float text zero := by
      unfold Number.value
      rw [if_neg (by rwa [not_and_or]), htext, String.ofList_toList, hvalue]
    rw [← htext] at hn ⊢
    rw [readValue_fuel hm hrest hn, hself]
  · cases n with
    | zero => rcases hword with rfl | rfl | rfl <;> simp at hn
    | succ n => rcases hword with rfl | rfl | rfl <;> rfl

/-- An array is read back when its items are. -/
theorem readsBack_arr {items : List Json} (hjson : ∀ item ∈ items, IsJson float item)
    (hread : ∀ item ∈ items, ReadsBack float item) : ReadsBack float (.arr items) := by
  intro n rest _ hn
  cases n with
  | zero => cases items <;> simp [dumps] at hn
  | succ n =>
      cases items with
      | nil => rfl
      | cons item items =>
          rw [List.forall_mem_cons] at hjson hread
          simp only [dumps, List.length_cons, List.length_append] at hn
          have hitem := hread.1 n (dumpsItems items ++ rest) (endsNumber_items items rest)
            (by omega)
          have hitems := readItems_dumps hjson.2 hread.2 (n := n) rest (by omega)
          have hspace := skipSpace_dumps hjson.1 (dumpsItems items ++ rest)
          have hclosing : (dumps item ++ (dumpsItems items ++ rest)).head? ≠ some ']' := by
            rcases dumps_head hjson.1 with ⟨c, text, htext, -, hc⟩
            rw [htext]
            simpa using hc
          rw [dumps, List.cons_append, List.append_assoc, readValue, if_neg (by decide),
            if_pos rfl, hspace, if_neg hclosing, hitem]
          simp only [Option.bind_eq_bind, Option.bind_some]
          rw [hitems]
          rfl

/-- An object is read back when its values are. -/
theorem readsBack_obj {members : List (String × Json)}
    (hkeys : (members.map Prod.fst).Nodup) (hjson : ∀ m ∈ members, IsJson float m.2)
    (hread : ∀ m ∈ members, ReadsBack float m.2) : ReadsBack float (.obj members) := by
  intro n rest _ hn
  cases n with
  | zero => rcases members with - | ⟨⟨key, value⟩, members⟩ <;> simp [dumps] at hn
  | succ n =>
      rcases members with - | ⟨⟨key, value⟩, members⟩
      · rfl
      · rw [List.forall_mem_cons] at hjson hread
        simp only [dumps, List.length_cons, List.length_append] at hn
        have hvalue := hread.1 n (dumpsMembers members ++ rest)
          (endsNumber_members members rest) (by simp only; omega)
        have hmembers := readMembers_dumps hjson.2 hread.2 (n := n) rest (by omega)
        have hkey := readKey_encodeString key
          (skipSpace_dumps hjson.1 (dumpsMembers members ++ rest))
        have hspace : skipSpace (encodeString key ++
              ':' :: ' ' :: (dumps value ++ (dumpsMembers members ++ rest))) =
            encodeString key ++ ':' :: ' ' :: (dumps value ++ (dumpsMembers members ++ rest)) :=
          rfl
        have hclosing : (encodeString key ++
            ':' :: ' ' :: (dumps value ++ (dumpsMembers members ++ rest))).head? ≠ some '}' := by
          simp [encodeString]
        rw [dumps]
        simp only [List.cons_append, List.append_assoc]
        rw [readValue, if_neg (by decide), if_neg (by decide), if_pos rfl, hspace,
          if_neg hclosing, hkey]
        simp only [Option.bind_eq_bind, Option.bind_some]
        rw [hvalue]
        simp only [Option.bind_some]
        rw [hmembers]
        simp only [Option.bind_some, Option.pure_def, dict_eq_self hkeys]

/-- Every value of JSON is read back; the induction is on the value. -/
theorem readsBack {v : Json} (hv : IsJson float v) : ReadsBack float v := by
  induction hv with
  | null =>
      intro n rest _ hn
      cases n with
      | zero => simp [dumps] at hn
      | succ n => rfl
  | bool b =>
      intro n rest _ hn
      cases n with
      | zero => cases b <;> simp [dumps] at hn
      | succ n => cases b <;> rfl
  | int k =>
      intro n rest hrest hn
      rw [dumps, ← ofInt_text] at hn ⊢
      rw [readValue_fuel (ofInt_lawful k) hrest hn, ofInt_value]
  | float h => exact readsBack_float h
  | str s =>
      intro n rest _ hn
      cases n with
      | zero => simp [dumps, encodeString] at hn
      | succ n =>
          have htext : dumps (.str s) ++ rest =
              '"' :: (s.toList.flatMap escapeChar ++ '"' :: rest) := by
            rw [dumps, encodeString, List.cons_append, List.append_assoc]
            rfl
          rw [htext, readValue, if_pos rfl, readString_encodeString]
          rfl
  | arr hjson ih => exact readsBack_arr hjson ih
  | obj hkeys hjson ih => exact readsBack_obj hkeys hjson ih

/-- A value that was written is read back. -/
theorem loads_dumps {v : Json} (hv : IsJson float v) : loads float (dumps v) = some v := by
  have hspace := skipSpace_dumps hv []
  have hread := readsBack hv (dumps v).length [] (by simp [EndsNumber]) (Nat.le_refl _)
  rw [List.append_nil] at hspace hread
  unfold loads
  rw [hspace, hread]
  rfl

end

end JsonReader
