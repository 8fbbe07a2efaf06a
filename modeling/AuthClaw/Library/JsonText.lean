import Mathlib.Data.List.Basic
import Mathlib.Tactic.Common
import Mathlib.Tactic.IntervalCases

/-!
# JSON text of flat objects

The text `json.dumps` writes for an object of scalars, with its default
separators and ASCII escapes.  The text is a list of characters; every encoder
is shown to be self-delimiting, so the text of an object determines the object.

Main results:

- Theorem {lit}`escapeChar_append_inj`: the escape of one character is a prefix
  code.
- Theorem {lit}`encodeString_append_inj`: a string literal determines its string
  and whatever follows it.
- Theorem {lit}`encodeObject_injective`: two flat objects with the same text have
  the same keys and the same values in the same order.
-/

namespace JsonText

/-! ## Escapes -/

/-- Four lower-case hexadecimal digits of a code unit. -/
def hex4 (n : Nat) : List Char :=
  [Nat.digitChar (n / 4096 % 16), Nat.digitChar (n / 256 % 16),
    Nat.digitChar (n / 16 % 16), Nat.digitChar (n % 16)]

/-- The one-letter escapes: the letter written after the backslash. -/
def shortEscape (c : Char) : Option Char :=
  if c = '"' then some '"'
  else if c = '\\' then some '\\'
  else if c = '\n' then some 'n'
  else if c = '\r' then some 'r'
  else if c = '\t' then some 't'
  else if c = '\x08' then some 'b'
  else if c = '\x0c' then some 'f'
  else none

/-- Escape of one character under `ensure_ascii`: printable ASCII stands for
itself, the rest of the first plane is one code unit and the other planes are a
surrogate pair. -/
def escapeChar (c : Char) : List Char :=
  match shortEscape c with
  | some letter => ['\\', letter]
  | none =>
      if 0x20 ≤ c.toNat ∧ c.toNat ≤ 0x7e then [c]
      else if c.toNat < 0x10000 then '\\' :: 'u' :: hex4 c.toNat
      else
        '\\' :: 'u' :: hex4 (0xd800 + (c.toNat - 0x10000) / 0x400) ++
          '\\' :: 'u' :: hex4 (0xdc00 + (c.toNat - 0x10000) % 0x400)

private theorem digitChar_inj {a b : Nat} (ha : a < 16) (hb : b < 16)
    (h : Nat.digitChar a = Nat.digitChar b) : a = b := by
  have htable : ∀ x : Fin 16, ∀ y : Fin 16,
      Nat.digitChar x.val = Nat.digitChar y.val → x = y := by
    decide
  have hxy := htable ⟨a, ha⟩ ⟨b, hb⟩ h
  exact congrArg Fin.val hxy

/-- The four digits of a 16-bit code unit determine it. -/
theorem hex4_inj {a b : Nat} (ha : a < 0x10000) (hb : b < 0x10000)
    (h : hex4 a = hex4 b) : a = b := by
  simp only [hex4, List.cons.injEq, and_true] at h
  obtain ⟨h₁, h₂, h₃, h₄⟩ := h
  have e₁ := digitChar_inj (Nat.mod_lt _ (by decide)) (Nat.mod_lt _ (by decide)) h₁
  have e₂ := digitChar_inj (Nat.mod_lt _ (by decide)) (Nat.mod_lt _ (by decide)) h₂
  have e₃ := digitChar_inj (Nat.mod_lt _ (by decide)) (Nat.mod_lt _ (by decide)) h₃
  have e₄ := digitChar_inj (Nat.mod_lt _ (by decide)) (Nat.mod_lt _ (by decide)) h₄
  omega

@[simp]
theorem hex4_length (n : Nat) : (hex4 n).length = 4 :=
  rfl

/-- The first code unit of an escape and what follows it are determined. -/
theorem hex4_append_inj {a b : Nat} (ha : a < 0x10000) (hb : b < 0x10000)
    {r r' : List Char} (h : hex4 a ++ r = hex4 b ++ r') : a = b ∧ r = r' := by
  have hsplit := List.append_inj h (by simp)
  exact ⟨hex4_inj ha hb hsplit.1, hsplit.2⟩

/-- The character a one-letter escape stands for. -/
def readShort (letter : Char) : Option Char :=
  if letter = '"' then some '"'
  else if letter = '\\' then some '\\'
  else if letter = 'n' then some '\n'
  else if letter = 'r' then some '\r'
  else if letter = 't' then some '\t'
  else if letter = 'b' then some '\x08'
  else if letter = 'f' then some '\x0c'
  else none

/-- Reading a one-letter escape gives back the character. -/
theorem readShort_of_shortEscape {c letter : Char} (h : shortEscape c = some letter) :
    readShort letter = some c := by
  unfold shortEscape at h
  split_ifs at h with h₁ h₂ h₃ h₄ h₅ h₆ h₇ <;> cases h <;> subst c <;> decide

/-- A one-letter escape determines its character. -/
theorem shortEscape_inj {c d letter : Char} (hc : shortEscape c = some letter)
    (hd : shortEscape d = some letter) : c = d := by
  have hread := readShort_of_shortEscape hc
  rw [readShort_of_shortEscape hd] at hread
  exact (Option.some.inj hread).symm

/-- No one-letter escape uses the letter that opens a code unit. -/
theorem shortEscape_ne_u {c letter : Char} (h : shortEscape c = some letter) :
    letter ≠ 'u' := by
  rintro rfl
  exact absurd (readShort_of_shortEscape h) (by simp [readShort])

/-- The four shapes an escape can have. -/
inductive EscapeShape (c : Char) : List Char → Prop
  | short (letter : Char) (h : shortEscape c = some letter) :
      EscapeShape c ['\\', letter]
  | plain (hslash : c ≠ '\\') (hquote : c ≠ '"') : EscapeShape c [c]
  | unit (h : c.toNat < 0x10000) : EscapeShape c ('\\' :: 'u' :: hex4 c.toNat)
  | pair (h : 0x10000 ≤ c.toNat) :
      EscapeShape c ('\\' :: 'u' :: hex4 (0xd800 + (c.toNat - 0x10000) / 0x400) ++
        '\\' :: 'u' :: hex4 (0xdc00 + (c.toNat - 0x10000) % 0x400))

theorem escapeChar_shape (c : Char) : EscapeShape c (escapeChar c) := by
  unfold escapeChar
  split
  next letter h => exact .short letter h
  next h =>
    have hslash : c ≠ '\\' := by
      intro hc
      subst hc
      simp [shortEscape] at h
    have hquote : c ≠ '"' := by
      intro hc
      subst hc
      simp [shortEscape] at h
    split_ifs with hprint hplane
    · exact .plain hslash hquote
    · exact .unit hplane
    · exact .pair (Nat.le_of_not_lt hplane)

theorem char_toNat_lt (c : Char) : c.toNat < 0x110000 := by
  have hvalid := c.valid
  change c.val.toNat.isValidChar at hvalid
  change c.val.toNat < 0x110000
  rcases hvalid with h | h <;> omega

theorem char_toNat_not_surrogate (c : Char) :
    c.toNat < 0xd800 ∨ 0xdfff < c.toNat := by
  have hvalid := c.valid
  change c.val.toNat.isValidChar at hvalid
  change c.val.toNat < 0xd800 ∨ 0xdfff < c.val.toNat
  rcases hvalid with h | h <;> omega

private theorem char_eq_of_toNat_eq {c d : Char} (h : c.toNat = d.toNat) : c = d := by
  apply Char.ext
  exact UInt32.toNat_inj.mp h

/-- The escape of a character determines the character and what follows it.

The cases are the shapes of the two escapes: the first character separates
plain from escaped, the second separates letters from code units, and the first
code unit separates the planes because no character is a surrogate. -/
theorem escapeChar_append_inj {c d : Char} {r r' : List Char}
    (h : escapeChar c ++ r = escapeChar d ++ r') : c = d ∧ r = r' := by
  have hcShape := escapeChar_shape c
  have hdShape := escapeChar_shape d
  have hcBound := char_toNat_lt c
  have hdBound := char_toNat_lt d
  have hcPlane := char_toNat_not_surrogate c
  have hdPlane := char_toNat_not_surrogate d
  generalize escapeChar c = xs at h hcShape
  generalize escapeChar d = ys at h hdShape
  cases hcShape with
  | short l hl =>
      cases hdShape with
      | short l' hl' =>
          simp only [List.cons_append, List.nil_append, List.cons.injEq, true_and] at h
          obtain ⟨rfl, rfl⟩ := h
          exact ⟨shortEscape_inj hl hl', rfl⟩
      | plain hslash hquote =>
          simp only [List.cons_append, List.nil_append, List.cons.injEq] at h
          exact absurd h.1.symm hslash
      | unit hplane =>
          simp only [List.cons_append, List.nil_append, List.cons.injEq, true_and] at h
          exact absurd h.1 (shortEscape_ne_u hl)
      | pair hplane =>
          simp only [List.cons_append, List.nil_append, List.cons.injEq, true_and] at h
          exact absurd h.1 (shortEscape_ne_u hl)
  | plain hslash hquote =>
      cases hdShape with
      | short l' hl' =>
          simp only [List.cons_append, List.nil_append, List.cons.injEq] at h
          exact absurd h.1 hslash
      | plain hslash' hquote' =>
          simp only [List.cons_append, List.nil_append, List.cons.injEq] at h
          exact h
      | unit hplane =>
          simp only [List.cons_append, List.nil_append, List.cons.injEq] at h
          exact absurd h.1 hslash
      | pair hplane =>
          simp only [List.cons_append, List.nil_append, List.cons.injEq] at h
          exact absurd h.1 hslash
  | unit hplane =>
      cases hdShape with
      | short l' hl' =>
          simp only [List.cons_append, List.nil_append, List.cons.injEq, true_and] at h
          exact absurd h.1.symm (shortEscape_ne_u hl')
      | plain hslash hquote =>
          simp only [List.cons_append, List.nil_append, List.cons.injEq] at h
          exact absurd h.1.symm hslash
      | unit hplane' =>
          simp only [List.cons_append, List.cons.injEq, true_and] at h
          obtain ⟨hcode, hrest⟩ := hex4_append_inj hplane hplane' h
          exact ⟨char_eq_of_toNat_eq hcode, hrest⟩
      | pair hplane' =>
          simp only [List.cons_append, List.append_assoc, List.cons.injEq, true_and] at h
          obtain ⟨hcode, -⟩ := hex4_append_inj hplane (by omega) h
          omega
  | pair hplane =>
      cases hdShape with
      | short l' hl' =>
          simp only [List.cons_append, List.nil_append, List.cons.injEq, true_and] at h
          exact absurd h.1.symm (shortEscape_ne_u hl')
      | plain hslash hquote =>
          simp only [List.cons_append, List.nil_append, List.cons.injEq] at h
          exact absurd h.1.symm hslash
      | unit hplane' =>
          simp only [List.cons_append, List.append_assoc, List.cons.injEq, true_and] at h
          obtain ⟨hcode, -⟩ := hex4_append_inj (by omega) hplane' h
          omega
      | pair hplane' =>
          simp only [List.cons_append, List.append_assoc, List.cons.injEq, true_and] at h
          obtain ⟨hhigh, hlowText⟩ := hex4_append_inj (by omega) (by omega) h
          simp only [List.cons.injEq, true_and] at hlowText
          obtain ⟨hlow, hrest⟩ := hex4_append_inj (by omega) (by omega) hlowText
          refine ⟨char_eq_of_toNat_eq ?_, hrest⟩
          omega

/-- An escape never begins with the closing quote. -/
theorem escapeChar_append_ne_quote (c : Char) (r r' : List Char) :
    escapeChar c ++ r ≠ '"' :: r' := by
  intro h
  have hshape := escapeChar_shape c
  generalize escapeChar c = xs at h hshape
  cases hshape with
  | short l hl => simp at h
  | plain hslash hquote =>
      simp only [List.cons_append, List.nil_append, List.cons.injEq] at h
      exact hquote h.1
  | unit hplane => simp at h
  | pair hplane => simp at h

/-! ## String literals -/

/-- A quoted and escaped string. -/
def encodeString (s : String) : List Char :=
  '"' :: (s.toList.flatMap escapeChar ++ ['"'])

private theorem escapes_append_inj (xs ys : List Char) {r r' : List Char}
    (h : xs.flatMap escapeChar ++ '"' :: r = ys.flatMap escapeChar ++ '"' :: r') :
    xs = ys ∧ r = r' := by
  induction xs generalizing ys with
  | nil =>
      cases ys with
      | nil => simpa using h
      | cons d ys =>
          simp only [List.flatMap_nil, List.nil_append, List.flatMap_cons,
            List.append_assoc] at h
          exact absurd h.symm (escapeChar_append_ne_quote d _ r)
  | cons c xs ih =>
      cases ys with
      | nil =>
          simp only [List.flatMap_nil, List.nil_append, List.flatMap_cons,
            List.append_assoc] at h
          exact absurd h (escapeChar_append_ne_quote c _ r')
      | cons d ys =>
          simp only [List.flatMap_cons, List.append_assoc] at h
          obtain ⟨hhead, htail⟩ := escapeChar_append_inj h
          obtain ⟨hrest, hsuffix⟩ := ih ys htail
          exact ⟨by rw [hhead, hrest], hsuffix⟩

/-- A string literal determines the string and the text after it. -/
theorem encodeString_append_inj {s t : String} {r r' : List Char}
    (h : encodeString s ++ r = encodeString t ++ r') : s = t ∧ r = r' := by
  simp only [encodeString, List.cons_append, List.append_assoc, List.nil_append,
    List.cons.injEq, true_and] at h
  obtain ⟨hchars, hrest⟩ := escapes_append_inj _ _ h
  exact ⟨String.ext hchars, hrest⟩

/-! ## Scalars and flat objects -/

/-- The values a flat object holds. -/
inductive Scalar where
  | null
  | bool (b : Bool)
  | int (n : Int)
  | str (s : String)
deriving DecidableEq

/-- Text of a scalar. -/
def Scalar.encode : Scalar → List Char
  | .null => "null".toList
  | .bool true => "true".toList
  | .bool false => "false".toList
  | .int n => n.repr.toList
  | .str s => encodeString s

/-- Text of the members after the opening brace, up to and including the closing
brace. -/
def encodeMembers : List (String × Scalar) → List Char
  | [] => ['}']
  | [(key, value)] => encodeString key ++ (':' :: ' ' :: value.encode ++ ['}'])
  | (key, value) :: rest =>
      encodeString key ++ (':' :: ' ' :: value.encode ++ (',' :: ' ' :: encodeMembers rest))

/-- Text of a flat object with the separators `", "` and `": "`. -/
def encodeObject (members : List (String × Scalar)) : List Char :=
  '{' :: encodeMembers members

/-! ## Integers -/

theorem isDigit_of_mem_repr {m : Nat} {c : Char} (hc : c ∈ m.repr.toList) :
    c.isDigit := by
  rw [Nat.toList_repr] at hc
  exact Nat.isDigit_of_mem_toDigits (by decide) (by decide) hc

/-- The text of an integer is made of digits and at most a sign. -/
theorem mem_int_repr {n : Int} {c : Char} (hc : c ∈ n.repr.toList) : c = '-' ∨ c.isDigit := by
  cases n with
  | ofNat m => exact Or.inr (isDigit_of_mem_repr hc)
  | negSucc m =>
      rw [Int.repr, String.toList_append, List.mem_append] at hc
      rcases hc with hsign | hm
      · left
        simpa using hsign
      · exact Or.inr (isDigit_of_mem_repr hm)

/-- The decimal text of a number determines it. -/
theorem nat_repr_toList_inj {m k : Nat} (h : m.repr.toList = k.repr.toList) : m = k := by
  rw [Nat.toList_repr, Nat.toList_repr] at h
  have hvalue := congrArg (fun ds => Nat.ofDigitChars 10 ds 0) h
  simpa only [Nat.ofDigitChars_ten_toDigits] using hvalue

private theorem nat_repr_ne_sign (m : Nat) (xs : List Char) : m.repr.toList ≠ '-' :: xs := by
  intro h
  have hdigit : ('-').isDigit := isDigit_of_mem_repr (m := m) (by rw [h]; simp)
  exact absurd hdigit (by decide)

/-- The decimal text of an integer determines it. -/
theorem int_repr_inj {a b : Int} (h : a.repr.toList = b.repr.toList) : a = b := by
  cases a with
  | ofNat m =>
      cases b with
      | ofNat k => exact congrArg Int.ofNat (nat_repr_toList_inj h)
      | negSucc k =>
          simp only [Int.repr, String.toList_append] at h
          exact absurd h (nat_repr_ne_sign m _)
  | negSucc m =>
      cases b with
      | ofNat k =>
          simp only [Int.repr, String.toList_append] at h
          exact absurd h.symm (nat_repr_ne_sign k _)
      | negSucc k =>
          simp only [Int.repr, String.toList_append, List.append_cancel_left_eq] at h
          have hsucc := nat_repr_toList_inj h
          exact congrArg Int.negSucc (Nat.succ.inj hsucc)

/-! ## Self-delimiting members -/

/-- Characters that end a member: the comma before the next one or the brace. -/
def IsEnd (c : Char) : Prop :=
  c = ',' ∨ c = '}'

/-- Texts without end characters are determined when an end character follows. -/
theorem append_end_inj {xs ys : List Char} {e e' : Char} {r r' : List Char}
    (hxs : ∀ c ∈ xs, ¬ IsEnd c) (hys : ∀ c ∈ ys, ¬ IsEnd c) (he : IsEnd e) (he' : IsEnd e')
    (h : xs ++ e :: r = ys ++ e' :: r') : xs = ys ∧ e :: r = e' :: r' := by
  induction xs generalizing ys with
  | nil =>
      cases ys with
      | nil => exact ⟨rfl, h⟩
      | cons y ys =>
          simp only [List.nil_append, List.cons_append, List.cons.injEq] at h
          rw [h.1] at he
          exact absurd he (hys y (by simp))
  | cons x xs ih =>
      cases ys with
      | nil =>
          simp only [List.nil_append, List.cons_append, List.cons.injEq] at h
          rw [← h.1] at he'
          exact absurd he' (hxs x (by simp))
      | cons y ys =>
          simp only [List.cons_append, List.cons.injEq] at h
          obtain ⟨hhead, hrest⟩ := h
          obtain ⟨htail, hsuffix⟩ := ih
            (fun c hc => hxs c (List.mem_cons_of_mem x hc))
            (fun c hc => hys c (List.mem_cons_of_mem y hc)) hrest
          exact ⟨by rw [hhead, htail], hsuffix⟩

private theorem encode_not_isEnd {v : Scalar} (hv : ∀ s, v ≠ .str s) :
    ∀ c ∈ v.encode, ¬ IsEnd c := by
  intro c hc
  cases v with
  | null => revert c; simp [Scalar.encode, IsEnd]
  | bool b => cases b <;> revert c <;> simp [Scalar.encode, IsEnd]
  | int n =>
      rintro (rfl | rfl) <;> simpa using mem_int_repr hc
  | str s => exact absurd rfl (hv s)

/-- Texts of scalars that are not strings determine them. -/
private theorem encode_inj {v w : Scalar} (hv : ∀ s, v ≠ .str s) (hw : ∀ s, w ≠ .str s)
    (h : v.encode = w.encode) : v = w := by
  have hletter : ∀ n : Int, 'l' ∉ n.repr.toList ∧ 'e' ∉ n.repr.toList := by
    intro n
    constructor <;> intro hc <;> simpa using mem_int_repr hc
  have hint : ∀ n : Int, ∀ u : Scalar, ('l' ∈ u.encode ∨ 'e' ∈ u.encode) →
      (Scalar.int n).encode ≠ u.encode := by
    rintro n u (hu | hu) heq <;> rw [← heq] at hu
    · exact (hletter n).1 hu
    · exact (hletter n).2 hu
  cases v with
  | null =>
      cases w with
      | null => rfl
      | bool b => cases b <;> simp [Scalar.encode] at h
      | int n => exact absurd h.symm (hint n _ (by simp [Scalar.encode]))
      | str s => exact absurd rfl (hw s)
  | bool b =>
      cases w with
      | null => cases b <;> simp [Scalar.encode] at h
      | bool b' => cases b <;> cases b' <;> simp_all [Scalar.encode]
      | int n => exact absurd h.symm (hint n _ (by cases b <;> simp [Scalar.encode]))
      | str s => exact absurd rfl (hw s)
  | int n =>
      cases w with
      | null => exact absurd h (hint n _ (by simp [Scalar.encode]))
      | bool b => exact absurd h (hint n _ (by cases b <;> simp [Scalar.encode]))
      | int m => exact congrArg Scalar.int (int_repr_inj h)
      | str s => exact absurd rfl (hw s)
  | str s => exact absurd rfl (hv s)

private theorem encode_append_ne_quote {v : Scalar} (hv : ∀ s, v ≠ .str s) {e : Char}
    (he : IsEnd e) (r r' : List Char) : v.encode ++ e :: r ≠ '"' :: r' := by
  intro h
  have hquote : '"' ∉ v.encode := by
    cases v with
    | null => simp [Scalar.encode]
    | bool b => cases b <;> simp [Scalar.encode]
    | int n =>
        intro hc
        simpa using mem_int_repr hc
    | str s => exact absurd rfl (hv s)
  cases htext : v.encode with
  | nil =>
      rw [htext, List.nil_append, List.cons.injEq] at h
      rw [h.1] at he
      rcases he with he | he <;> simp at he
  | cons c cs =>
      rw [htext, List.cons_append, List.cons.injEq] at h
      rw [htext, h.1] at hquote
      exact hquote (by simp)

/-- A scalar is determined by its text when an end character follows it. -/
theorem Scalar.encode_append_inj {v w : Scalar} {e e' : Char} {r r' : List Char}
    (he : IsEnd e) (he' : IsEnd e')
    (h : v.encode ++ e :: r = w.encode ++ e' :: r') : v = w ∧ e :: r = e' :: r' := by
  by_cases hv : ∃ s, v = .str s
  · obtain ⟨s, rfl⟩ := hv
    by_cases hw : ∃ t, w = .str t
    · obtain ⟨t, rfl⟩ := hw
      obtain ⟨hst, hrest⟩ := encodeString_append_inj h
      exact ⟨congrArg Scalar.str hst, hrest⟩
    · have hw' : ∀ t, w ≠ .str t := fun t ht => hw ⟨t, ht⟩
      exact absurd h.symm (encode_append_ne_quote hw' he' r' _)
  · have hv' : ∀ s, v ≠ .str s := fun s hs => hv ⟨s, hs⟩
    by_cases hw : ∃ t, w = .str t
    · obtain ⟨t, rfl⟩ := hw
      exact absurd h (encode_append_ne_quote hv' he r _)
    · have hw' : ∀ t, w ≠ .str t := fun t ht => hw ⟨t, ht⟩
      obtain ⟨htext, hrest⟩ :=
        append_end_inj (encode_not_isEnd hv') (encode_not_isEnd hw') he he' h
      exact ⟨encode_inj hv' hw' htext, hrest⟩

private theorem encodeMembers_ne_brace (key : String) (value : Scalar)
    (rest : List (String × Scalar)) : encodeMembers ((key, value) :: rest) ≠ ['}'] := by
  cases rest <;> simp [encodeMembers, encodeString]

private theorem encodeMembers_inj : ∀ {xs ys : List (String × Scalar)},
    encodeMembers xs = encodeMembers ys → xs = ys
  | [], [], _ => rfl
  | [], (key, value) :: rest, h => absurd h.symm (encodeMembers_ne_brace key value rest)
  | (key, value) :: rest, [], h => absurd h (encodeMembers_ne_brace key value rest)
  | [(k, v)], [(k', v')], h => by
      obtain ⟨hkey, htail⟩ := encodeString_append_inj h
      simp only [List.cons.injEq, true_and, List.cons_append] at htail
      obtain ⟨hvalue, -⟩ := Scalar.encode_append_inj (Or.inr rfl) (Or.inr rfl) htail
      rw [hkey, hvalue]
  | [(k, v)], (k', v') :: m :: rest, h => by
      obtain ⟨-, htail⟩ := encodeString_append_inj h
      simp only [List.cons.injEq, true_and, List.cons_append] at htail
      obtain ⟨-, hend⟩ := Scalar.encode_append_inj (Or.inr rfl) (Or.inl rfl) htail
      simp at hend
  | (k, v) :: m :: rest, [(k', v')], h => by
      obtain ⟨-, htail⟩ := encodeString_append_inj h
      simp only [List.cons.injEq, true_and, List.cons_append] at htail
      obtain ⟨-, hend⟩ := Scalar.encode_append_inj (Or.inl rfl) (Or.inr rfl) htail
      simp at hend
  | (k, v) :: m :: rest, (k', v') :: m' :: rest', h => by
      obtain ⟨hkey, htail⟩ := encodeString_append_inj h
      simp only [List.cons.injEq, true_and, List.cons_append] at htail
      obtain ⟨hvalue, hend⟩ := Scalar.encode_append_inj (Or.inl rfl) (Or.inl rfl) htail
      simp only [List.cons.injEq, true_and] at hend
      have hrest := encodeMembers_inj hend
      rw [hkey, hvalue, hrest]

/-- The text of a flat object determines its members. -/
theorem encodeObject_injective : Function.Injective encodeObject := by
  intro xs ys h
  exact encodeMembers_inj (List.cons.inj h).2

end JsonText
