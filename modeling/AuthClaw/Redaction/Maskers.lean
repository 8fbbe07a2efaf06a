import AuthClaw.Redaction.PythonStreaming

/-!
# The two maskers

The detector and the redactor behind the chat each mask the values of emails, phone numbers,
Aadhaar numbers and cards.  They are compared on the values that the patterns of the detector
match.

Main results:

- Theorem {lit}`masked_mask`: what the detector leaves of a value that one of its patterns matches.
- Theorem {lit}`maskers_agree`: the maskers agree on these values, but for phone numbers with a
  country prefix.
-/

namespace AuthClaw.Redaction

open Regex CharClass PythonText AuthClaw.Detection TokenStream

/-! ## What a masked value shows -/

/-- The entities whose digits are masked. -/
def numericTypes : List String :=
  ["aadhaar", "credit_card", "phone"]

/-- Whether the character of a numeric value at a position is hidden: it is a digit, and four
digits come after it. -/
def hiddenDigit (isDigit : Char → Bool) (value : List Char) (i : Nat) (c : Char) : Prop :=
  isDigit c = true ∧ 4 ≤ (value.drop (i + 1)).countP isDigit

instance (isDigit : Char → Bool) (value : List Char) (i : Nat) (c : Char) :
    Decidable (hiddenDigit isDigit value i c) :=
  inferInstanceAs (Decidable (_ ∧ _))

/-- Whether the character of an address at a position is hidden: it is in the local part, and
neither its first nor its last character, unless these are all. -/
def hiddenLocal (value : List Char) (i : Nat) : Prop :=
  i < (value.takeWhile (· ≠ '@')).length ∧
    ((value.takeWhile (· ≠ '@')).length ≤ 2 ∨
      (0 < i ∧ i + 1 < (value.takeWhile (· ≠ '@')).length))

instance (value : List Char) (i : Nat) : Decidable (hiddenLocal value i) :=
  inferInstanceAs (Decidable (_ ∧ _))

/-- A masked value has the length of the value, and stars in place of what is hidden. -/
structure Masked (isDigit : Char → Bool) (entityType : String) (value masked : List Char) :
    Prop where
  length : masked.length = value.length
  numeric : entityType ∈ numericTypes → ∀ i c, value[i]? = some c →
    masked[i]? = some (if hiddenDigit isDigit value i c then '*' else c)
  address : entityType = "email" → ∀ i c, value[i]? = some c →
    masked[i]? = some (if hiddenLocal value i then '*' else c)

section

variable {isDigit : Char → Bool}

/-- The masked digits are those with fewer than so many digits before them. -/
theorem getElem?_maskDigits {hidden i : Nat} {value : List Char} {c : Char}
    (h : value[i]? = some c) :
    (maskDigits isDigit hidden value)[i]? =
      some (if isDigit c = true ∧ (value.take i).countP isDigit < hidden then '*' else c) := by
  induction value generalizing hidden i with
  | nil => cases h
  | cons a rest ih =>
      unfold maskDigits
      cases i with
      | zero =>
          cases h
          by_cases hdigit : isDigit c = true
          · by_cases hzero : hidden = 0
            · simp [hdigit, hzero]
            · simp [hdigit, hzero, Nat.pos_of_ne_zero hzero]
          · simp [hdigit]
      | succ i =>
          rw [List.getElem?_cons_succ] at h
          by_cases hdigit : isDigit a = true
          · rw [if_pos hdigit, List.getElem?_cons_succ, ih h, List.take_succ_cons,
              List.countP_cons_of_pos hdigit]
            have hless : (rest.take i).countP isDigit < hidden - 1 ↔
                (rest.take i).countP isDigit + 1 < hidden := by
              omega
            simp only [hless]
          · rw [if_neg hdigit, List.getElem?_cons_succ, ih h, List.take_succ_cons,
              List.countP_cons_of_neg hdigit]

/-- A digit has four digits after it exactly when so many are before it. -/
theorem hiddenDigit_iff {value : List Char} {i : Nat} {c : Char} (h : value[i]? = some c) :
    hiddenDigit isDigit value i c ↔
      isDigit c = true ∧ (value.take i).countP isDigit < value.countP isDigit - 4 := by
  unfold hiddenDigit
  refine and_congr_right ?_
  intro hdigit
  rcases List.getElem?_eq_some_iff.mp h with ⟨hi, hc⟩
  have hsplit : value.countP isDigit =
      (value.take i).countP isDigit + (1 + (value.drop (i + 1)).countP isDigit) := by
    conv => lhs; rw [← List.take_append_drop i value]
    rw [List.countP_append, List.drop_eq_getElem_cons hi, hc, List.countP_cons_of_pos hdigit,
      Nat.add_comm 1]
  omega

/-- A mask of at least four digits shows the last four. -/
theorem getElem?_mask_numeric {entityType : String} (htype : entityType ∈ numericTypes)
    {value : List Char} (hdigits : 4 ≤ value.countP isDigit) {i : Nat} {c : Char}
    (h : value[i]? = some c) :
    (mask isDigit entityType value)[i]? =
      some (if hiddenDigit isDigit value i c then '*' else c) := by
  have hemail : ¬(entityType = "email" ∧ '@' ∈ value) := by
    rintro ⟨rfl, -⟩
    exact absurd htype (by decide)
  have hlisted : entityType ∈ ["aadhaar", "credit_card", "phone"] := htype
  unfold mask
  rw [if_neg hemail, if_pos hlisted]
  dsimp only
  rw [if_pos hdigits, getElem?_maskDigits h]
  simp only [hiddenDigit_iff h]

/-- The middle of a text of more than two characters is hidden. -/
theorem getElem?_maskMiddle {name : List Char} {i : Nat} {c : Char} (hlong : 2 < name.length)
    (h : name[i]? = some c) :
    (maskMiddle name)[i]? = some (if 0 < i ∧ i + 1 < name.length then '*' else c) := by
  rcases List.getElem?_eq_some_iff.mp h with ⟨hi, -⟩
  unfold maskMiddle stars
  have htake : (name.take 1).length = 1 := by
    rw [List.length_take]
    omega
  rw [List.append_assoc]
  by_cases hfirst : i = 0
  · rw [if_neg (by omega), List.getElem?_append_left (by omega),
      List.getElem?_take_of_lt (by omega), h]
  · rw [List.getElem?_append_right (by omega), htake]
    by_cases hlast : i + 1 = name.length
    · rw [if_neg (by omega), List.getElem?_append_right (by
          rw [List.length_replicate]
          omega), List.length_replicate, List.getElem?_drop,
        show name.length - 1 + (i - 1 - (name.length - 2)) = i by omega, h]
    · rw [if_pos (by omega), List.getElem?_append_left (by
          rw [List.length_replicate]
          omega), List.getElem?_replicate, if_pos (by omega)]

/-- An address is its local part, the first `@` and what is behind it. -/
theorem address_split {value : List Char} (hat : '@' ∈ value) :
    value = value.takeWhile (· ≠ '@') ++
      '@' :: value.drop ((value.takeWhile (· ≠ '@')).length + 1) := by
  induction value with
  | nil => cases hat
  | cons a rest ih =>
      by_cases ha : a = '@'
      · rw [ha, List.takeWhile_cons_of_neg (by simp)]
        rfl
      · have hrest : '@' ∈ rest := by
          rcases List.mem_cons.mp hat with heq | hrest
          · exact absurd heq.symm ha
          · exact hrest
        rw [List.takeWhile_cons_of_pos (by simpa using ha), List.cons_append, List.length_cons,
          List.drop_succ_cons]
        exact congrArg (List.cons a) (ih hrest)

/-- The middle of a local part is hidden, or all of it where it is short. -/
theorem getElem?_maskLocal {name domain : List Char} {i : Nat} {c : Char}
    (h : (name ++ '@' :: domain)[i]? = some c) :
    ((if name.length ≤ 2 then stars name.length else maskMiddle name) ++ '@' :: domain)[i]? =
      some (if i < name.length ∧ (name.length ≤ 2 ∨ (0 < i ∧ i + 1 < name.length)) then '*'
        else c) := by
  have hkept : ∀ shown : List Char, shown.length = name.length → name.length ≤ i →
      (shown ++ '@' :: domain)[i]? = some c := by
    intro shown hlength hi
    rw [List.getElem?_append_right (by omega)] at h ⊢
    rwa [hlength]
  by_cases hshort : name.length ≤ 2
  · rw [if_pos hshort]
    by_cases hi : i < name.length
    · rw [if_pos ⟨hi, Or.inl hshort⟩, List.getElem?_append_left (by
          rw [stars, List.length_replicate]
          exact hi), stars, List.getElem?_replicate, if_pos hi]
    · rw [if_neg (fun hhidden => hi hhidden.1)]
      exact hkept _ List.length_replicate (by omega)
  · rw [if_neg hshort]
    have hlength := @length_maskMiddle name (by omega)
    by_cases hi : i < name.length
    · rw [List.getElem?_append_left hi] at h
      rw [List.getElem?_append_left (by omega), getElem?_maskMiddle (by omega) h]
      have hhidden : (0 < i ∧ i + 1 < name.length) ↔
          (i < name.length ∧ (name.length ≤ 2 ∨ (0 < i ∧ i + 1 < name.length))) := by
        omega
      exact congrArg some (if_congr hhidden rfl rfl)
    · rw [if_neg (fun hhidden => hi hhidden.1)]
      exact hkept _ hlength (by omega)

/-- The mask of an address hides the middle of its local part, or all of it where it is short. -/
theorem getElem?_mask_address {value : List Char} (hat : '@' ∈ value) {i : Nat} {c : Char}
    (h : value[i]? = some c) :
    (mask isDigit "email" value)[i]? = some (if hiddenLocal value i then '*' else c) := by
  rw [address_split hat] at h
  have hlocal := getElem?_maskLocal h
  unfold mask
  rw [if_pos ⟨rfl, hat⟩]
  exact hlocal

end

/-! ## What the patterns match -/

section

variable {unicode : PyUnicode} {p q : Option Char} {value : List Char}

/-- The pattern can match the value, between some neighbours. -/
def CanMatch (unicode : PyUnicode) (pattern : CustomPattern) (value : List Char) : Prop :=
  ∃ p groups q, MatchesParts unicode.accepts pattern.parts p groups q ∧
    value = groups.getD pattern.group []

/-- The patterns whose values both maskers know. -/
def maskedPatterns : List CustomPattern :=
  [emailPattern, phonePattern, aadhaarPattern, cardBrandPattern, cardDelimitedPattern]

/-- They are those of the table for these entities. -/
theorem filter_customPatterns : customPatterns.filter
    (fun p => p.entityType ∈ "email" :: numericTypes) = maskedPatterns := by
  rfl

/-- A match of a pattern without a group is a match of its expression. -/
theorem CanMatch.matches {entityType : String} {r : Regex CharClass} {confidence : Rat}
    {hpos : 1 ≤ r.minLength} (h : CanMatch unicode (ungrouped entityType r confidence hpos) value) :
    ∃ p q, Matches unicode.accepts r p value q := by
  rcases h with ⟨p, groups, q, ⟨u, us, rfl, hr, -⟩, rfl⟩
  exact ⟨p, _, hr⟩

/-- What a digit class accepts is a digit. -/
theorem digit_of_accepts {c : Char} (h : unicode.accepts digitClass c = true) :
    unicode.isDigit c = true := by
  refine unicode.isDigit_of_isDecimal c ?_
  simpa [PyUnicode.accepts, CharClass.accepts, digitClass, CharClass.inRanges, PyUnicode.tables]
    using h

/-- A match has the digits that its expression asks for. -/
theorem minCount_le_digits {r : Regex CharClass} (h : Matches unicode.accepts r p value q) :
    r.minCount (fun k => decide (k = digitClass)) ≤ value.countP unicode.isDigit := by
  refine h.minCount_le ?_
  intro k a hk hacc
  rw [of_decide_eq_true hk] at hacc
  exact digit_of_accepts hacc

/-- A match of an expression that asks for an `@` has one. -/
theorem at_mem_of_matches {r : Regex CharClass} (h : Matches unicode.accepts r p value q)
    (hasks : 1 ≤ r.minCount (fun k => decide (k = lit '@'))) : '@' ∈ value := by
  have hcount : r.minCount (fun k => decide (k = lit '@')) ≤
      value.countP (fun a => decide (a = '@')) := by
    refine h.minCount_le ?_
    intro k a hk hacc
    rw [of_decide_eq_true hk] at hacc
    exact decide_eq_true (accepts_lit.mp hacc)
  rcases List.countP_pos_iff.mp (lt_of_lt_of_le Nat.zero_lt_one (hasks.trans hcount)) with
    ⟨a, hmem, ha⟩
  rw [of_decide_eq_true ha] at hmem
  exact hmem

/-- What the patterns for the two kinds of values ask for. -/
theorem CanMatch.content {pattern : CustomPattern} (hpattern : pattern ∈ maskedPatterns)
    (h : CanMatch unicode pattern value) :
    (pattern.entityType = "email" ∧ '@' ∈ value) ∨
      (pattern.entityType ∈ numericTypes ∧ 4 ≤ value.countP unicode.isDigit) := by
  unfold maskedPatterns at hpattern
  simp only [List.mem_cons, List.not_mem_nil, or_false] at hpattern
  rcases hpattern with rfl | rfl | rfl | rfl | rfl
  · rcases h.matches with ⟨p, q, hmatch⟩
    exact Or.inl ⟨rfl, at_mem_of_matches hmatch (by decide +kernel)⟩
  · rcases h.matches with ⟨p, q, hmatch⟩
    exact Or.inr ⟨by decide, le_trans (by decide +kernel) (minCount_le_digits hmatch)⟩
  · rcases h.matches with ⟨p, q, hmatch⟩
    exact Or.inr ⟨by decide, le_trans (by decide +kernel) (minCount_le_digits hmatch)⟩
  · rcases h.matches with ⟨p, q, hmatch⟩
    exact Or.inr ⟨by decide, le_trans (by decide +kernel) (minCount_le_digits hmatch)⟩
  · rcases h.matches with ⟨p, q, hmatch⟩
    exact Or.inr ⟨by decide, le_trans (by decide +kernel) (minCount_le_digits hmatch)⟩

/-- The detector masks every value that one of these patterns matches as it should. -/
theorem masked_mask {pattern : CustomPattern} (hpattern : pattern ∈ maskedPatterns)
    (h : CanMatch unicode pattern value) :
    Masked unicode.isDigit pattern.entityType value
      (mask unicode.isDigit pattern.entityType value) := by
  have hemail : "email" ∉ numericTypes := by decide
  rcases h.content hpattern with ⟨htype, hat⟩ | ⟨htype, hdigits⟩
  · rw [htype]
    refine ⟨length_mask _ _, fun hnumeric => absurd hnumeric hemail, ?_⟩
    intro _ i c hc
    exact getElem?_mask_address hat hc
  · refine ⟨length_mask _ _, ?_, ?_⟩
    · intro _ i c hc
      exact getElem?_mask_numeric htype hdigits hc
    · intro haddress
      rw [haddress] at htype
      exact absurd htype hemail

end

/-! ## The redactor's masker -/

section

variable {redactor : Redactor} {value : List Char}

/-- The two walks over the digits are one. -/
theorem starDigits_plain (hidden : Nat) (value : List Char) :
    starDigits redactor plainCells hidden value =
      maskDigits redactor.detector.unicode.isDigit hidden value := by
  induction value generalizing hidden with
  | nil => rfl
  | cons c rest ih =>
      unfold starDigits maskDigits
      rw [ih, ih]
      rfl

/-- The two masks of an address are one. -/
theorem maskAddress_plain {isDigit : Char → Bool} (hat : '@' ∈ value) :
    maskAddress plainCells value = mask isDigit "email" value := by
  have hdomain : value.drop (value.takeWhile (· ≠ '@')).length =
      '@' :: value.drop ((value.takeWhile (· ≠ '@')).length + 1) := by
    have hdropped := congrArg (List.drop (value.takeWhile (· ≠ '@')).length) (address_split hat)
    rwa [List.drop_left] at hdropped
  unfold mask
  rw [if_pos ⟨rfl, hat⟩]
  dsimp only
  rw [← hdomain]
  change (if 2 < (value.takeWhile (· ≠ '@')).length then _ else _) = _
  by_cases hshort : (value.takeWhile (· ≠ '@')).length ≤ 2
  · rw [if_pos hshort, if_neg (by omega)]
    rfl
  · rw [if_neg hshort, if_pos (by omega)]
    rfl

/-- `"mask".lower()` -/
theorem lower_mask (py : PyText) : py.lower "mask" = "mask" := by
  rw [py.lower_ascii "mask" (by decide)]
  decide

/-- The redactor masks an address as the detector does. -/
theorem applyRedaction_email {isDigit : Char → Bool} (hat : '@' ∈ value) :
    applyRedaction redactor plainCells "email" value "mask" = mask isDigit "email" value := by
  have hany : value.any (fun a => plainCells.char a = '@') = true :=
    List.any_eq_true.mpr ⟨'@', hat, decide_eq_true rfl⟩
  unfold applyRedaction
  dsimp only
  rw [if_pos (lower_mask _), if_pos rfl, if_pos hany]
  exact maskAddress_plain hat

/-- The redactor masks the digits of a number as the detector does. -/
theorem applyRedaction_number {entityType : String}
    (htype : entityType = "aadhaar" ∨ entityType = "credit_card")
    (hdigits : 4 ≤ value.countP redactor.detector.unicode.isDigit) :
    applyRedaction redactor plainCells entityType value "mask" =
      mask redactor.detector.unicode.isDigit entityType value := by
  have hemail : entityType ≠ "email" := by
    rcases htype with rfl | rfl <;> decide
  have hphone : entityType ≠ "phone" := by
    rcases htype with rfl | rfl <;> decide
  have hnumeric : entityType ∈ ["aadhaar", "credit_card", "phone"] := by
    rcases htype with rfl | rfl <;> decide
  unfold applyRedaction mask
  dsimp only
  rw [if_pos (lower_mask _), if_neg hemail, if_neg hphone, if_pos htype,
    if_neg (fun h => hemail h.1), if_pos hnumeric, if_pos hdigits]
  exact starDigits_plain _ value

/-! ## Phone numbers -/

/-- A numeral of a phone number's first digit is a digit, and no sign. -/
theorem digit_of_firstDigit {unicode : PyUnicode} {c : Char}
    (h : unicode.accepts { ranges := [('6', '9')] } c = true) :
    unicode.isDigit c = true ∧ c ≠ '+' := by
  have hrange : '6'.toNat ≤ c.toNat ∧ c.toNat ≤ '9'.toNat := by
    simpa [PyUnicode.accepts, CharClass.accepts, CharClass.inRanges, PyUnicode.tables] using h
  have hsix : '6'.toNat = 54 := rfl
  have hnine : '9'.toNat = 57 := rfl
  refine ⟨unicode.isDigit_of_isDecimal c ?_, ?_⟩
  · rw [unicode.isDecimal_ascii c (AsciiText.asciiChar_iff.mpr (by omega))]
    unfold Char.isDigit
    simp only [Bool.and_eq_true, decide_eq_true_eq]
    constructor
    · change '0'.toNat ≤ c.toNat
      have hzero : '0'.toNat = 48 := rfl
      omega
    · change c.toNat ≤ '9'.toNat
      omega
  · rintro rfl
    have hplus : '+'.toNat = 43 := rfl
    omega

/-- A country prefix begins with a sign. -/
theorem head?_countryPrefix {unicode : PyUnicode} {p q : Option Char} {u : List Char}
    (h : Matches unicode.accepts (.seq (lits "+91") maybeDashOrSpace) p u q) :
    u.head? = some '+' ∧ 3 ≤ u.length := by
  refine ⟨?_, le_trans (by decide +kernel) h.minLength_le⟩
  have hheads : (Regex.seq (lits "+91") maybeDashOrSpace).heads 1 = [[lit '+']] := by
    decide +kernel
  rcases h.exists_head 1 with ⟨ks, hks, hspells⟩
  rw [hheads, List.mem_singleton] at hks
  subst hks
  cases u with
  | nil => cases hspells
  | cons a rest =>
      rcases List.forall₂_cons.mp hspells with ⟨ha, -⟩
      rw [accepts_lit.mp ha]
      rfl

/-- A phone number has ten digits, or a country prefix and more. -/
theorem CanMatch.phone {unicode : PyUnicode} (h : CanMatch unicode phonePattern value) :
    (value.head? = some '+' ∧ 13 ≤ value.length) ∨
      (value.head? ≠ some '+' ∧ value.length = 10 ∧ ∀ c ∈ value, unicode.isDigit c = true) := by
  rcases h.matches with ⟨p, q, v, w, rfl, ⟨rfl, -⟩, country, number, rfl, hcountry, hnumber⟩
  rw [List.nil_append]
  rcases hcountry with hcountry | rfl
  · left
    rcases head?_countryPrefix hcountry with ⟨hhead, hthree⟩
    have hten : 10 ≤ number.length := le_trans (by decide +kernel) hnumber.minLength_le
    rw [List.head?_append, hhead, List.length_append]
    exact ⟨rfl, by omega⟩
  · right
    rcases hnumber with ⟨v, w, rfl, ⟨c, rfl, hc⟩, ds, w, rfl, hds, rfl, -⟩
    rcases hds.of_pow_one with ⟨hlength, hall⟩
    rcases digit_of_firstDigit hc with ⟨hdigit, hplus⟩
    simp only [List.nil_append, List.append_nil, List.singleton_append, List.head?_cons,
      List.length_cons, hlength, List.mem_cons]
    refine ⟨fun h => hplus (Option.some.inj h), trivial, ?_⟩
    rintro d (rfl | hd)
    · exact hdigit
    · exact digit_of_accepts (hall d hd)

/-- Of a text of digits the last ones are shown. -/
theorem maskDigits_of_all {isDigit : Char → Bool} {hidden : Nat}
    (hall : ∀ c ∈ value, isDigit c = true) (hle : hidden ≤ value.length) :
    maskDigits isDigit hidden value = stars hidden ++ value.drop hidden := by
  induction value generalizing hidden with
  | nil =>
      rw [Nat.le_zero.mp hle]
      rfl
  | cons c rest ih =>
      unfold maskDigits
      rw [if_pos (hall c List.mem_cons_self)]
      cases hidden with
      | zero =>
          rw [if_pos rfl, ih (fun d hd => hall d (List.mem_cons_of_mem c hd)) (Nat.zero_le _)]
          rfl
      | succ hidden =>
          rw [List.length_cons] at hle
          rw [if_neg (Nat.succ_ne_zero hidden), Nat.succ_sub_one,
            ih (fun d hd => hall d (List.mem_cons_of_mem c hd)) (by omega)]
          rfl

/-- The redactor masks a phone number as the detector does, unless it has a country prefix. -/
theorem applyRedaction_phone_iff
    (h : CanMatch redactor.detector.unicode phonePattern value) :
    applyRedaction redactor plainCells "phone" value "mask" =
        mask redactor.detector.unicode.isDigit "phone" value ↔
      value.head? ≠ some '+' := by
  have happly : applyRedaction redactor plainCells "phone" value "mask" =
      stars 6 ++ value.drop (value.length - 4) := by
    unfold applyRedaction
    dsimp only
    rw [if_pos (lower_mask _), if_neg (by decide), if_pos rfl]
    rfl
  rw [happly]
  rcases h.phone with ⟨hhead, hlong⟩ | ⟨hhead, hlength, hall⟩
  · refine iff_of_false ?_ (fun hne => hne hhead)
    intro heq
    have hlengths := congrArg List.length heq
    rw [length_mask, stars, List.length_append, List.length_replicate, List.length_drop] at hlengths
    omega
  · refine iff_of_true ?_ hhead
    have hcount : value.countP redactor.detector.unicode.isDigit = 10 := by
      rw [List.countP_eq_length.mpr hall, hlength]
    unfold mask
    dsimp only
    rw [if_neg (fun hemail => absurd hemail.1 (by decide)), if_pos (by decide), hcount,
      if_pos (by decide), maskDigits_of_all hall (by omega), hlength]

/-- The two maskers give the same of a value that one of these patterns matches, exactly when it
is no phone number with a country prefix. -/
theorem applyRedaction_eq_mask_iff {pattern : CustomPattern} (hpattern : pattern ∈ maskedPatterns)
    (h : CanMatch redactor.detector.unicode pattern value) :
    applyRedaction redactor plainCells pattern.entityType value "mask" =
        mask redactor.detector.unicode.isDigit pattern.entityType value ↔
      ¬(pattern.entityType = "phone" ∧ value.head? = some '+') := by
  have hcontent := h.content hpattern
  unfold maskedPatterns at hpattern
  simp only [List.mem_cons, List.not_mem_nil, or_false] at hpattern
  have hnumber : ∀ entityType, (entityType = "aadhaar" ∨ entityType = "credit_card") →
      pattern.entityType = entityType →
      (applyRedaction redactor plainCells pattern.entityType value "mask" =
          mask redactor.detector.unicode.isDigit pattern.entityType value ↔
        ¬(pattern.entityType = "phone" ∧ value.head? = some '+')) := by
    intro entityType htype heq
    rcases hcontent with ⟨hemail, -⟩ | ⟨-, hdigits⟩
    · rw [heq] at hemail
      rcases htype with rfl | rfl <;> exact absurd hemail (by decide)
    · rw [heq]
      refine iff_of_true (applyRedaction_number htype hdigits) ?_
      rintro ⟨hphone, -⟩
      rcases htype with rfl | rfl <;> exact absurd hphone (by decide)
  rcases hpattern with rfl | rfl | rfl | rfl | rfl
  · rcases hcontent with ⟨-, hat⟩ | ⟨hnumeric, -⟩
    · exact iff_of_true (applyRedaction_email hat) (fun hphone => absurd hphone.1 (by decide))
    · exact absurd hnumeric (by decide)
  · rw [not_and]
    exact (applyRedaction_phone_iff h).trans ⟨fun hne _ => hne, fun hne => hne rfl⟩
  · exact hnumber "aadhaar" (Or.inl rfl) rfl
  · exact hnumber "credit_card" (Or.inr rfl) rfl
  · exact hnumber "credit_card" (Or.inr rfl) rfl

end

/-- The detector masks each value that one of these patterns matches as it should, and the
redactor gives the same, but for phone numbers with a country prefix. -/
theorem maskers_agree (redactor : Redactor) {pattern : CustomPattern}
    (hpattern : pattern ∈ maskedPatterns) {value : List Char}
    (h : CanMatch redactor.detector.unicode pattern value) :
    Masked redactor.detector.unicode.isDigit pattern.entityType value
        (mask redactor.detector.unicode.isDigit pattern.entityType value) ∧
      (applyRedaction redactor plainCells pattern.entityType value "mask" =
          mask redactor.detector.unicode.isDigit pattern.entityType value ↔
        ¬(pattern.entityType = "phone" ∧ value.head? = some '+')) :=
  ⟨masked_mask hpattern h, applyRedaction_eq_mask_iff hpattern h⟩

/-- What the matcher finds can be matched. -/
theorem canMatch_of_mem {unicode : PyUnicode} {pattern : CustomPattern} {text : List Char}
    {groups : List (List Char)} {rest : List Char}
    (h : (groups, rest) ∈ runParts unicode.accepts pattern.parts none text) :
    CanMatch unicode pattern (groups.getD pattern.group []) :=
  ⟨none, groups, rest.head?, (mem_runParts_iff.mp h).2, rfl⟩

/-- The maskers agree on a card. -/
theorem maskers_agree_card :
    cardDelimitedPattern ∈ maskedPatterns ∧
      CanMatch bareRedactor.detector.unicode cardDelimitedPattern "4111-1111 11111111".toList ∧
      applyRedaction bareRedactor plainCells "credit_card" "4111-1111 11111111".toList "mask" =
        mask bareRedactor.detector.unicode.isDigit "credit_card" "4111-1111 11111111".toList := by
  have hpattern : cardDelimitedPattern ∈ maskedPatterns := by
    unfold maskedPatterns
    simp only [List.mem_cons, true_or, or_true]
  have hmem : (["4111-1111 11111111".toList], []) ∈
      runParts bareRedactor.detector.unicode.accepts cardDelimitedPattern.parts none
        "4111-1111 11111111".toList := by
    decide +kernel
  have hmatch : CanMatch bareRedactor.detector.unicode cardDelimitedPattern
      "4111-1111 11111111".toList := canMatch_of_mem hmem
  exact ⟨hpattern, hmatch, (maskers_agree bareRedactor hpattern hmatch).2.mpr
    (fun hphone => absurd hphone.1 (by decide))⟩

/-- They do not agree on a phone number with a country prefix. -/
theorem maskers_differ :
    ¬∀ (redactor : Redactor) (pattern : CustomPattern), pattern ∈ maskedPatterns →
      ∀ value : List Char, CanMatch redactor.detector.unicode pattern value →
        applyRedaction redactor plainCells pattern.entityType value "mask" =
          mask redactor.detector.unicode.isDigit pattern.entityType value := by
  intro h
  have hpattern : phonePattern ∈ maskedPatterns := by
    unfold maskedPatterns
    simp only [List.mem_cons, true_or, or_true]
  have hmem : (["+91 9876543210".toList], []) ∈
      runParts bareRedactor.detector.unicode.accepts phonePattern.parts none
        "+91 9876543210".toList := by
    decide +kernel
  have hmatch : CanMatch bareRedactor.detector.unicode phonePattern
      "+91 9876543210".toList := canMatch_of_mem hmem
  have hsame := h bareRedactor phonePattern hpattern _ hmatch
  exact (applyRedaction_phone_iff hmatch).mp hsame rfl

end AuthClaw.Redaction
