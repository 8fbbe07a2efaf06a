import AuthClaw.Library.Rewriting
import AuthClaw.Redaction.PythonStreaming

/-!
# The hints of the token stream

{lit}`_stream_needs_redaction_scan` decides from a list of hints and the number of
digits whether a pending text is redacted at all.  The list is kept apart from the
patterns.  Is a text without a hint one that the redactor leaves alone?

Most patterns ask for a hint or for four digits.  Ten recognizers and the keyword
patterns of the tenant policies do not.

Main results:

- Theorem {lit}`not_occurs_of_hinted`: a pattern that asks for a hint does not occur in
  a text without one.
- Theorem {lit}`marks_le_sub`: a pass takes away no mark of a redaction.
- Theorem {lit}`unscanned_unchanged_iff`: a text without a hint is left alone exactly
  when none of the other patterns occurs in it.
- Theorem {lit}`name_unscanned`: a name is found without a hint.
-/

namespace AuthClaw.Redaction.TokenStream

open Regex CharClass PythonText AsciiText AuthClaw.Detection AuthClaw.Policy

/-! ## Patterns that ask for a hint -/

/-- The classes that accept digits only. -/
def digitOnly (k : CharClass) : Bool :=
  k = digitClass || k = numeralClass

/-- The lower case of the letter that a class stands for. -/
def readsLower (k : CharClass) : Option Char :=
  match k.ranges with
  | [(c, _)] =>
      if asciiChar c ∧ (k = lit c ∨ k = (lit c).caseless ∧ c ∉ foldedLetters) then some c.toLower
      else none
  | _ => none

/-- Every match has four digits or an `@`, or begins with a hint in some case. -/
def AsksForHint (parts : List (Regex CharClass)) : Bool :=
  4 ≤ (parts.map (minCount digitOnly)).sum || 1 ≤ (parts.map (minCount (· = lit '@'))).sum ||
    parts.head?.any (headsRead readsLower 6 (streamHintWords.map String.toList))

/-- A recognizer that asks for a hint. -/
structure HintedPattern extends CustomPattern where
  asks : AsksForHint parts = true

/-- The recognizers that ask for a hint. -/
def hintedPatterns : List HintedPattern :=
  [⟨emailPattern, by decide +kernel⟩, ⟨phonePattern, by decide +kernel⟩,
    ⟨aadhaarPattern, by decide +kernel⟩, ⟨panPattern, by decide +kernel⟩,
    ⟨gstinPattern, by decide +kernel⟩, ⟨cardBrandPattern, by decide +kernel⟩,
    ⟨cardDelimitedPattern, by decide +kernel⟩, ⟨ssnPattern, by decide +kernel⟩,
    ⟨medicalNumberPattern, by decide +kernel⟩, ⟨openaiKeyPattern, by decide +kernel⟩,
    ⟨googleKeyPattern, by decide +kernel⟩, ⟨awsKeyPattern, by decide +kernel⟩,
    ⟨jwtPattern, by decide +kernel⟩, ⟨bearerPattern, by decide +kernel⟩]

/-- The recognizers that do not. -/
def unhintedPatterns : List CustomPattern :=
  [namePattern, addressPattern, medicalRecordPattern, accountPattern, ifscPattern,
    apiKeyParamPattern, secretParamPattern, tokenParamPattern, accessTokenPattern,
    privateKeyPattern]

theorem mem_customPatterns {p : CustomPattern} (h : p ∈ customPatterns) :
    (∃ q ∈ hintedPatterns, q.toCustomPattern = p) ∨ p ∈ unhintedPatterns := by
  have hsplit : customPatterns ⊆
      hintedPatterns.map HintedPattern.toCustomPattern ++ unhintedPatterns := by
    simp [customPatterns, hintedPatterns, unhintedPatterns]
  rcases List.mem_append.mp (hsplit h) with hhinted | hunhinted
  · exact Or.inl (List.mem_map.mp hhinted)
  · exact Or.inr hunhinted

theorem unhinted_subset {p : CustomPattern} (h : p ∈ unhintedPatterns) : p ∈ customPatterns := by
  have hsubset : unhintedPatterns ⊆ customPatterns := by
    simp [customPatterns, unhintedPatterns]
  exact hsubset h

/-- Every pass that some policy asks for. -/
def allPasses : List PyPass :=
  gdprPasses ++ hipaaPasses ++ soc2Passes ++ baselinePasses

theorem mem_allPasses {e : Enforced} {p : PyPass} (h : p ∈ e.passes) : p ∈ allPasses := by
  unfold Enforced.passes at h
  unfold allPasses
  simp only [List.mem_append] at h ⊢
  rcases h with ((h | h) | h) | h
  · split at h
    · exact Or.inl (Or.inl (Or.inl h))
    · cases h
  · split at h
    · exact Or.inl (Or.inl (Or.inr h))
    · cases h
  · split at h
    · exact Or.inl (Or.inr h)
    · cases h
  · exact Or.inr h

section

variable {unicode : PyUnicode}

theorem matchesParts_minCount_le {good : CharClass → Bool} {kind : Char → Bool}
    (hgood : ∀ k c, good k = true → unicode.accepts k c = true → kind c = true)
    {rs : List (Regex CharClass)} {p q : Option Char} {us : List (List Char)}
    (h : MatchesParts unicode.accepts rs p us q) :
    (rs.map (minCount good)).sum ≤ us.flatten.countP kind := by
  induction rs generalizing p us with
  | nil => exact Nat.zero_le _
  | cons r rs ih =>
      rcases h with ⟨u, vs, rfl, hr, hrs⟩
      rw [List.map_cons, List.sum_cons, List.flatten_cons, List.countP_append]
      exact Nat.add_le_add (hr.minCount_le hgood) (ih hrs)

theorem isDigit_of_digitOnly {k : CharClass} {c : Char} (hk : digitOnly k = true)
    (h : unicode.accepts k c = true) : unicode.isDigit c = true := by
  apply unicode.isDigit_of_isDecimal
  unfold digitOnly at hk
  rw [Bool.or_eq_true, decide_eq_true_eq, decide_eq_true_eq] at hk
  rcases hk with rfl | rfl
  · simpa [PyUnicode.accepts, CharClass.accepts, digitClass, inRanges, PyUnicode.tables] using h
  · have hrange : 48 ≤ c.toNat ∧ c.toNat ≤ 57 := by
      simpa [PyUnicode.accepts, CharClass.accepts, numeralClass, inRanges] using h
    rw [unicode.isDecimal_ascii c (asciiChar_iff.mpr (by omega))]
    simpa [Char.isDigit, UInt32.le_iff_toNat_le] using hrange

theorem toLower_of_mem_asciiVariants {c d : Char} (hc : asciiChar c = true)
    (hd : asciiChar d = true) (h : c ∈ asciiVariants d) : d.toLower = c.toLower := by
  have hall : ∀ d : Char, d.toNat < 128 →
      (asciiVariants d).all (fun c => !asciiChar c || d.toLower == c.toLower) = true :=
    fun d => forall_ascii
      (P := fun d => (asciiVariants d).all (fun c => !asciiChar c || d.toLower == c.toLower) = true)
      (by decide +kernel)
  have hone := List.all_eq_true.mp (hall d (asciiChar_iff.mp hd)) c h
  rw [hc] at hone
  simpa using hone

/-- A class of one letter is read in lower case. -/
theorem readsLower_spec {k : CharClass} {c b : Char} (hk : readsLower k = some b)
    (h : unicode.accepts k c = true) : c.toLower = b := by
  unfold readsLower at hk
  split at hk
  · split at hk
    · rename_i letter _ hclass
      rw [Option.some.injEq] at hk
      rw [← hk]
      rcases hclass with ⟨hascii, rfl | ⟨rfl, hplain⟩⟩
      · rw [accepts_lit.mp h]
      · rcases mem_variants_plain hascii hplain (accepts_caseless.mp h) with ⟨hc, hmem⟩
        exact toLower_of_mem_asciiVariants hascii hc hmem
    · cases hk
  · cases hk

/-- A text whose lower case begins with a hint has the hint in its lower case. -/
theorem containsText_of_head {text u : List Char} {word : String} (hu : u <:+: text)
    (hword : word.toList.all asciiChar = true) (h : word.toList <+: u.map Char.toLower) :
    containsText (unicode.lower text) word = true := by
  rcases h with ⟨rest, hrest⟩
  rcases List.map_eq_append_iff.mp hrest.symm with ⟨v, w, rfl, hv, -⟩
  rcases hu with ⟨before, after, rfl⟩
  have hascii : v.all asciiChar = true := by
    rw [List.all_eq_true]
    intro c hc
    apply ascii_of_toLower
    rw [← hv] at hword
    exact List.all_eq_true.mp hword _ (List.mem_map_of_mem hc)
  have hlower := unicode.lower_ascii before v (w ++ after) hascii
  rw [hv] at hlower
  rw [containsText_iff]
  simpa only [List.append_assoc] using hlower

/-- A pattern that asks for a hint does not occur in a text without one. -/
theorem not_occurs_of_hinted {pattern : Pattern CharClass}
    (hpattern : AsksForHint pattern.parts = true) {text : List Char}
    (hscan : streamNeedsRedactionScan unicode text = false) :
    ¬ Occurs unicode.accepts pattern text := by
  rintro ⟨before, us, after, hsplit, hmatch⟩
  have hwithin : us.flatten <:+: text := ⟨before, after, hsplit.symm⟩
  unfold streamNeedsRedactionScan at hscan
  rw [Bool.or_eq_false_iff, List.any_eq_false, decide_eq_false_iff_not] at hscan
  rcases hscan with ⟨hhints, hdigits⟩
  unfold AsksForHint at hpattern
  rw [Bool.or_eq_true, Bool.or_eq_true, decide_eq_true_eq, decide_eq_true_eq] at hpattern
  rcases hpattern with (hcount | hat) | hhead
  · -- four digits
    apply hdigits
    have hmatched := matchesParts_minCount_le (fun k c => isDigit_of_digitOnly) hmatch
    exact le_trans hcount (le_trans hmatched hwithin.sublist.countP_le)
  · -- an `@`
    have hread : ∀ k c, decide (k = lit '@') = true → unicode.accepts k c = true →
        decide (c = '@') = true := by
      intro k c hk hacc
      rw [decide_eq_true_eq] at hk ⊢
      subst hk
      exact accepts_lit.mp hacc
    have hmatched := matchesParts_minCount_le hread hmatch
    have hpos := le_trans hat (le_trans hmatched hwithin.sublist.countP_le)
    rcases List.countP_pos_iff.mp hpos with ⟨c, hc, hcat⟩
    rw [decide_eq_true_eq] at hcat
    subst hcat
    rcases List.append_of_mem hc with ⟨front, back, rfl⟩
    apply hhints "@" (by decide)
    exact @containsText_of_head unicode _ ['@'] "@" ⟨front, back, by simp⟩ (by decide) ⟨[], rfl⟩
  · -- a hint at the head of the match
    cases hparts : pattern.parts with
    | nil =>
        rw [hparts] at hhead
        cases hhead
    | cons r rs =>
        rw [hparts] at hhead hmatch
        rcases hmatch with ⟨u, vs, rfl, hr, -⟩
        rcases hr.exists_word (fun k c b hk hacc => readsLower_spec hk hacc) hhead with
          ⟨w, hw, hbegins⟩
        rcases List.mem_map.mp hw with ⟨word, hword, rfl⟩
        have hascii : ∀ word ∈ streamHintWords, word.toList.all asciiChar = true := by
          decide +kernel
        apply hhints word hword
        refine containsText_of_head ?_ (hascii word hword) hbegins
        rw [List.flatten_cons] at hwithin
        exact (List.infix_append_of_infix_left (List.infix_refl u)).trans hwithin

end

/-! ## Marks -/

/-- The characters that a redaction leaves and no pattern takes away. -/
def isMark (c : Char) : Bool :=
  c = '[' || c = '*'

/-- The number of marks in a text. -/
def marks (text : List Char) : Nat :=
  text.countP isMark

/-- The class accepts no mark. -/
def RejectsMarks (k : CharClass) : Bool :=
  !k.accepts asciiTables '[' && !k.accepts asciiTables '*'

section

variable {redactor : Redactor}

theorem marks_append (u v : List Char) : marks (u ++ v) = marks u + marks v :=
  List.countP_append

/-- A match of classes without marks has no mark. -/
theorem marks_of_matches {r : Regex CharClass} (hr : r.classes.all RejectsMarks = true)
    {p q : Option Char} {u : List Char} (h : Matches (accepts redactor) r p u q) :
    marks u = 0 := by
  unfold marks
  rw [List.countP_eq_zero]
  intro c hc hmark
  rcases h.exists_class hc with ⟨k, hk, hacc⟩
  have hrejects := List.all_eq_true.mp hr k hk
  unfold RejectsMarks at hrejects
  rw [Bool.and_eq_true, Bool.not_eq_true', Bool.not_eq_true'] at hrejects
  unfold isMark at hmark
  rw [Bool.or_eq_true, decide_eq_true_eq, decide_eq_true_eq] at hmark
  rcases hmark with rfl | rfl
  · rw [accepts, accepts_ascii (by decide), hrejects.1] at hacc
    cases hacc
  · rw [accepts, accepts_ascii (by decide), hrejects.2] at hacc
    cases hacc

theorem marks_of_matchesParts {rs : List (Regex CharClass)}
    (hrs : rs.all (fun r => r.classes.all RejectsMarks) = true) {p q : Option Char}
    {us : List (List Char)} (h : MatchesParts (accepts redactor) rs p us q) :
    marks us.flatten = 0 := by
  induction rs generalizing p us with
  | nil =>
      change us = [] at h
      rw [h]
      rfl
  | cons r rs ih =>
      rcases h with ⟨u, vs, rfl, hr, hvs⟩
      rw [List.all_cons, Bool.and_eq_true] at hrs
      rw [List.flatten_cons, marks_append, marks_of_matches hrs.1 hr, ih hrs.2 hvs]

/-- Replacing a text without marks takes away none. -/
theorem marks_le_replaceNeedle {needle new : List Char} (hneedle : marks needle = 0) (n : Nat)
    (text : List Char) :
    marks text ≤ marks (replaceNeedle plainCells needle new n text) := by
  induction n generalizing text with
  | zero => exact le_refl _
  | succ n ih =>
      cases text with
      | nil => exact le_refl _
      | cons a rest =>
          unfold replaceNeedle
          split
          · rename_i hbegins
            rw [show List.map plainCells.char (a :: rest) = a :: rest from List.map_id _] at hbegins
            rcases List.isPrefixOf_iff_prefix.mp hbegins with ⟨later, hlater⟩
            rw [← hlater, List.drop_left, marks_append, marks_append, hneedle, Nat.zero_add]
            exact le_trans (ih later) (Nat.le_add_left _ _)
          · have hrest := ih rest
            unfold marks at hrest ⊢
            rw [List.countP_cons, List.countP_cons]
            exact Nat.add_le_add_right hrest _

/-- The parts of a pass whose match is not kept accept no marks. -/
def Writes (p : PyPass) : Bool :=
  match p.rewrite with
  | .pinDigits => (p.parts.getD 1 .empty).classes.all RejectsMarks
  | _ => p.parts.all (fun r => r.classes.all RejectsMarks)

/-- Only the keyword patterns ask for no hint, and no pass takes a mark away. -/
theorem pass_spec {p : PyPass} (h : p ∈ allPasses) :
    Writes p = true ∧ (p.rewrite = .keepKeyword ∨ AsksForHint p.parts = true) := by
  have hall : ∀ p ∈ allPasses,
      Writes p = true ∧ (p.rewrite = .keepKeyword ∨ AsksForHint p.parts = true) := by
    decide +kernel
  exact hall p h

/-- What a match is replaced by has the marks of the match. -/
theorem marks_le_apply {p : PyPass} (hp : Writes p = true) {prev next : Option Char}
    {us : List (List Char)} (h : MatchesParts (accepts redactor) p.parts prev us next) :
    marks us.flatten ≤ marks (p.rewrite.apply redactor plainCells us) := by
  unfold Writes at hp
  cases hrewrite : p.rewrite with
  | pinDigits =>
      rw [hrewrite] at hp
      rcases matchesParts_getD h 1 with ⟨q, q', hdigits⟩
      apply marks_le_replaceNeedle
      rw [show List.map plainCells.char (us.getD 1 []) = us.getD 1 [] from List.map_id _]
      exact marks_of_matches hp hdigits
  | _ =>
      rw [hrewrite] at hp
      rw [marks_of_matchesParts hp h]
      exact Nat.zero_le _

/-- Rewriting the hits adds so many marks for each, when each rewritten hit has so many
more. -/
theorem marks_add_hits_le {pattern : Pattern CharClass} {new : List (List Char) → List Char}
    {k : Nat} {text : List Char}
    (h : ∀ prev us next, MatchesParts (accepts redactor) pattern.parts prev us next →
      marks us.flatten + k ≤ marks (new us)) :
    marks text + k * (tokens (accepts redactor) pattern text).countP Token.isHit ≤
      marks (replaceAll (accepts redactor) pattern new text) := by
  have hscan := @scan_tokens _ _ (accepts redactor) pattern text
  have hhits : ∀ us, Token.hit us ∈ tokens (accepts redactor) pattern text →
      marks us.flatten + k ≤ marks (new us) := by
    intro us hmem
    rcases hscan.matches_of_mem hmem with ⟨prev, next, hmatch⟩
    exact h prev us next hmatch
  unfold replaceAll
  conv_lhs =>
    lhs
    rw [← hscan.flatMap_text]
  generalize tokens (accepts redactor) pattern text = toks at hhits
  induction toks with
  | nil => exact le_refl _
  | cons token toks ih =>
      have hrest := ih (fun us hmem => hhits us (List.mem_cons_of_mem _ hmem))
      rw [List.flatMap_cons, List.flatMap_cons, marks_append, marks_append, List.countP_cons]
      cases token with
      | skip a =>
          change marks [a] + _ + k * _ ≤ marks [a] + _
          rw [if_neg (show ¬ Token.isHit (Token.skip a) = true from Bool.false_ne_true),
            Nat.add_zero]
          omega
      | hit us =>
          have hfirst := hhits us List.mem_cons_self
          change marks us.flatten + _ + k * (_ + 1) ≤ marks (new us) + _
          rw [Nat.mul_add, Nat.mul_one]
          omega

/-- A pass takes away no mark of a redaction. -/
theorem marks_le_sub {p : PyPass} (hp : Writes p = true) (text : List Char) :
    marks text ≤ marks (p.sub redactor plainCells text) := by
  rw [sub_eq]
  exact le_trans (Nat.le_add_right _ _)
    (marks_add_hits_le (k := 0) (fun _ _ _ hmatch => marks_le_apply hp hmatch))

theorem marks_le_runPasses {passes : List PyPass} (h : ∀ p ∈ passes, Writes p = true)
    (text : List Char) : marks text ≤ marks (runPasses redactor plainCells passes text) := by
  unfold runPasses
  induction passes generalizing text with
  | nil => exact le_refl _
  | cons p rest ih =>
      exact le_trans (marks_le_sub (h p (by simp)) text) (ih (fun q hq => h q (by simp [hq])) _)

/-- A keyword pattern that occurs adds a mark. -/
theorem marks_lt_sub {p : PyPass} (hp : Writes p = true) (hkeyword : p.rewrite = .keepKeyword)
    {text : List Char} (hoccurs : Occurs (accepts redactor) p.pattern text) :
    marks text < marks (p.sub redactor plainCells text) := by
  have hmore : ∀ prev us next, MatchesParts (accepts redactor) p.pattern.parts prev us next →
      marks us.flatten + 1 ≤ marks (p.rewrite.apply redactor plainCells us) := by
    intro prev us next hmatch
    have hnone : marks us.flatten = 0 := by
      unfold Writes at hp
      rw [hkeyword] at hp
      exact marks_of_matchesParts hp hmatch
    have hwritten : marks (plainCells.literal "[REDACTED]") = 1 := by decide
    rw [hnone, hkeyword]
    change 0 + 1 ≤ marks (us.getD 0 [] ++ us.getD 1 [] ++ plainCells.literal "[REDACTED]")
    rw [marks_append, hwritten]
    exact Nat.le_add_left 1 _
  have hle : marks text + 1 * (tokens (accepts redactor) p.pattern text).countP Token.isHit ≤
      marks (replaceAll (accepts redactor) p.pattern
        (fun us => p.rewrite.apply redactor plainCells us) text) := marks_add_hits_le hmore
  have hhit : 0 < (tokens (accepts redactor) p.pattern text).countP Token.isHit := by
    rw [List.countP_pos_iff]
    rcases any_isHit_iff.mp (any_isHit_tokens_iff.mpr hoccurs) with ⟨us, hmem⟩
    exact ⟨_, hmem, rfl⟩
  rw [sub_eq]
  omega

/-! ## The detector -/

/-- The text of a span. -/
def spanText (text : List Char) (f : SensitiveFinding) : List Char :=
  (text.drop f.start).take (f.stop - f.start)

theorem drop_eq_of_span (text : List Char) {f : SensitiveFinding} {i : Nat} (hi : i ≤ f.start) :
    text.drop i =
      (text.drop i).take (f.start - i) ++ (spanText text f ++ text.drop f.stop) := by
  have hspan : spanText text f ++ text.drop f.stop = text.drop f.start := by
    have hsplit := List.take_append_drop (f.stop - f.start) (text.drop f.start)
    rw [List.drop_drop, Nat.add_sub_cancel' f.valid] at hsplit
    exact hsplit
  have hsplit := List.take_append_drop (f.start - i) (text.drop i)
  rw [List.drop_drop, Nat.add_sub_cancel' hi] at hsplit
  rw [hspan, hsplit]

/-- Each kept finding adds a mark when its replacement has one more than its span. -/
theorem marks_add_length_le {replacement : SensitiveFinding → List Char} {text : List Char}
    {kept : List SensitiveFinding} (hordered : Ordered kept) {i : Nat}
    (hi : ∀ f ∈ kept, i ≤ f.start)
    (hmarks : ∀ f ∈ kept, marks (spanText text f) + 1 ≤ marks (replacement f)) :
    marks (text.drop i) + kept.length ≤ marks (weave replacement text i kept) := by
  induction kept generalizing i with
  | nil => exact le_refl _
  | cons f rest ih =>
      rcases List.pairwise_cons.mp hordered with ⟨hfirst, hrest⟩
      have hlater := ih hrest hfirst (fun g hg => hmarks g (by simp [hg]))
      have hone := hmarks f (by simp)
      rw [drop_eq_of_span text (hi f (by simp)), weave_cons, marks_append, marks_append,
        marks_append, marks_append, List.length_cons]
      omega

theorem groups_reject_marks {p : CustomPattern} (hp : p ∈ customPatterns) :
    (p.parts.getD p.group .empty).classes.all RejectsMarks = true := by
  have hall : ∀ p ∈ customPatterns,
      (p.parts.getD p.group .empty).classes.all RejectsMarks = true := by
    decide +kernel
  exact hall p hp

theorem marks_cons (c : Char) (text : List Char) :
    marks (c :: text) = marks text + if isMark c then 1 else 0 :=
  List.countP_cons

theorem one_le_marks_stars {n : Nat} (h : 1 ≤ n) : 1 ≤ marks (stars n) := by
  cases n with
  | zero => omega
  | succ n =>
      change 1 ≤ marks ('*' :: stars n)
      rw [marks_cons, if_pos (by decide)]
      exact Nat.le_add_left 1 _

/-- A bracketed replacement has a mark. -/
theorem one_le_marks_bracket (opening rest : String) (h : opening.toList.any isMark = true) :
    1 ≤ marks (opening ++ rest).toList := by
  rw [String.toList_append, marks_append]
  have hpos : 0 < marks opening.toList := List.countP_pos_iff.mpr (List.any_eq_true.mp h)
  omega

/-- The types of the recognizers that ask for no hint are masked by stars alone. -/
theorem one_le_marks_mask {entityType : String}
    (htype : entityType ∉ ["email", "aadhaar", "credit_card", "phone"]) (isDigit : Char → Bool)
    {value : List Char} (hvalue : 1 ≤ value.length) :
    1 ≤ marks (mask isDigit entityType value) := by
  simp only [List.mem_cons, List.not_mem_nil, or_false, not_or] at htype
  unfold mask
  rw [if_neg (fun h => htype.1 h.1), if_neg (by simp [htype.2])]
  split
  · exact one_le_marks_stars hvalue
  · rename_i hlong
    unfold maskMiddle
    have hstars := @one_le_marks_stars (value.length - 2) (by omega)
    rw [marks_append, marks_append]
    omega

/-- What is not allowed leaves a mark in the place of its value. -/
theorem one_le_marks_replacement {f : SensitiveFinding} (hsource : f.source ≠ "presidio")
    (htype : f.entityType ∉ ["email", "aadhaar", "credit_card", "phone"])
    (hvalue : 1 ≤ f.value.length)
    (hallow : f.action redactor.detector.config ≠ "allow") :
    1 ≤ marks (redactor.detector.replacement f) := by
  unfold Detector.replacement replacementFor
  simp only
  rw [if_neg hsource]
  simp only
  rw [if_neg hallow]
  split
  · rw [String.append_assoc]
    exact one_le_marks_bracket _ _ (by decide +kernel)
  · split
    · rw [String.append_assoc]
      exact one_le_marks_bracket _ _ (by decide +kernel)
    · split
      · rw [String.append_assoc]
        exact one_le_marks_bracket _ _ (by decide +kernel)
      · split
        · simp only [String.append_assoc]
          exact one_le_marks_bracket _ _ (by decide +kernel)
        · split
          · exact one_le_marks_mask htype _ hvalue
          · decide +kernel

end

/-! ## Texts without a hint -/

/-- The redactor with its built-in patterns only. -/
def builtIn (redactor : Redactor) : Redactor :=
  { redactor with
    detector :=
      { redactor.detector with
        enterpriseFindings := fun _ => []
        presidioFindings := fun _ => [] } }

/-- The policy file allows none of the types that are found without a hint. -/
def AllowsNone (config : SensitivePolicy) : Prop :=
  ∀ p ∈ unhintedPatterns, actionFor config p.entityType p.confidence ≠ "allow"

section

variable (redactor : Redactor) (e : Enforced)

/-- None of the patterns that ask for no hint occurs. -/
structure NoneUnhinted (text : List Char) : Prop where
  recognizers : ∀ p ∈ unhintedPatterns, ¬ Occurs (accepts redactor) p.pattern text
  keywords : ∀ p ∈ e.passes, p.rewrite = .keepKeyword → ¬ Occurs (accepts redactor) p.pattern text

instance (text : List Char) : Decidable (NoneUnhinted redactor e text) :=
  decidable_of_iff
    ((∀ p ∈ unhintedPatterns, ¬ Occurs (accepts redactor) p.pattern text) ∧
      ∀ p ∈ e.passes, p.rewrite = .keepKeyword → ¬ Occurs (accepts redactor) p.pattern text)
    ⟨fun h => ⟨h.1, h.2⟩, fun h => ⟨h.recognizers, h.keywords⟩⟩

variable {redactor e} {text : List Char}

theorem redactWith_builtIn (usePresidio : Bool) (text : List Char) :
    redactWith (builtIn redactor) e usePresidio text =
      redactWith (builtIn redactor) e false text := by
  cases usePresidio with
  | false => rfl
  | true => rfl

/-- A text without a hint in which none of the other patterns occurs has no match. -/
theorem unmatched_of_noneUnhinted
    (hscan : streamNeedsRedactionScan redactor.detector.unicode text = false)
    (h : NoneUnhinted redactor e text) : Unmatched (builtIn redactor) e text := by
  refine ⟨?_, rfl, ?_⟩
  · intro p hp
    rcases mem_customPatterns hp with hhinted | hunhinted
    · rcases hhinted with ⟨q, -, rfl⟩
      exact not_occurs_of_hinted q.asks hscan
    · exact h.recognizers p hunhinted
  · intro p hp
    rcases (pass_spec (mem_allPasses hp)).2 with hkeyword | hhinted
    · exact h.keywords p hp hkeyword
    · exact not_occurs_of_hinted hhinted hscan

/-- In a text without a hint a finding comes from a pattern that asks for none. -/
theorem unhinted_of_mem_findings
    (hscan : streamNeedsRedactionScan redactor.detector.unicode text = false)
    {f : SensitiveFinding} (hf : f ∈ customFindings redactor.detector.unicode text) :
    ∃ p ∈ unhintedPatterns, f.entityType = p.entityType ∧ f.confidence = p.confidence := by
  rcases customFindings_spec hf with ⟨p, hp, hfp, -⟩
  rcases mem_customPatterns hp with hhinted | hunhinted
  · rcases hhinted with ⟨q, -, rfl⟩
    have hnone := findingsOf_eq_nil_iff.mpr (@not_occurs_of_hinted _ q.pattern q.asks _ hscan)
    rw [hnone] at hfp
    cases hfp
  · rcases mem_findingsFrom hfp with ⟨before, groups, after, -, rfl⟩
    exact ⟨p, hunhinted, rfl, rfl⟩

theorem masked_by_stars {p : CustomPattern} (hp : p ∈ unhintedPatterns) :
    p.entityType ∉ ["email", "aadhaar", "credit_card", "phone"] := by
  have hall : ∀ p ∈ unhintedPatterns,
      p.entityType ∉ ["email", "aadhaar", "credit_card", "phone"] := by
    decide +kernel
  exact hall p hp

theorem spanText_eq_value {f : SensitiveFinding} {before after : List Char}
    (htext : text = before ++ f.value ++ after) (hbefore : before.length = f.start)
    (hvalue : f.value.length = f.stop - f.start) : spanText text f = f.value := by
  unfold spanText
  rw [htext, List.append_assoc, ← hbefore, List.drop_left, hbefore, ← hvalue, List.take_left]

/-- The detector adds a mark for every finding that it keeps. -/
theorem marks_add_inspect_le
    (hscan : streamNeedsRedactionScan redactor.detector.unicode text = false)
    (hactions : AllowsNone redactor.detector.config) :
    marks text + ((builtIn redactor).detector.inspect text false).length ≤
      marks ((builtIn redactor).detector.redact text false) := by
  have hfindings : (builtIn redactor).detector.findings text =
      customFindings redactor.detector.unicode text := List.append_nil _
  have hcustom : ∀ f ∈ (builtIn redactor).detector.inspect text false,
      f ∈ customFindings redactor.detector.unicode text := by
    intro f hf
    rw [← hfindings]
    exact mem_findings_of_mem_inspect hf
  rw [redact_eq_weave (by rw [hfindings]; exact inside_customFindings)]
  have hle := @marks_add_length_le (builtIn redactor).detector.replacement text
    ((builtIn redactor).detector.inspect text false) ?_ 0 (fun _ _ => Nat.zero_le _) ?_
  · exact hle
  · rw [inspect_eq, hfindings]
    exact ordered_dedupe (fun f hf => (inside_customFindings f hf).1)
  · intro f hf
    have hmem := hcustom f hf
    rcases unhinted_of_mem_findings hscan hmem with ⟨p, hp, htype, hconfidence⟩
    rcases customFindings_spec hmem with
      ⟨q, hq, -, -, hpos, ⟨before, after, htext, hbefore, hvalue⟩, s, s', hmatch⟩
    have hnone : marks (spanText text f) = 0 := by
      rw [spanText_eq_value htext hbefore hvalue]
      exact marks_of_matches (groups_reject_marks hq) hmatch
    rw [hnone, Nat.zero_add]
    apply one_le_marks_replacement (inside_customFindings f hmem).2.2
    · rw [htype]
      exact masked_by_stars hp
    · rw [hvalue]
      omega
    · change actionFor redactor.detector.config f.entityType f.confidence ≠ "allow"
      rw [htype, hconfidence]
      exact hactions p hp

/-- Passes that add no mark to a text without a hint change nothing, and no keyword
pattern occurs; the induction is on the passes. -/
theorem none_occurs_of_marks_eq
    (hscan : streamNeedsRedactionScan redactor.detector.unicode text = false)
    {passes : List PyPass} (hpasses : ∀ p ∈ passes, p ∈ allPasses)
    (hmarks : marks (runPasses redactor plainCells passes text) = marks text) :
    ∀ p ∈ passes, p.rewrite = .keepKeyword → ¬ Occurs (accepts redactor) p.pattern text := by
  induction passes with
  | nil => exact fun _ hp => by cases hp
  | cons p rest ih =>
      have hmem := hpasses p (by simp)
      have hlater := @marks_le_runPasses redactor rest
        (fun q hq => (pass_spec (hpasses q (by simp [hq]))).1)
        (p.sub redactor plainCells text)
      change marks (runPasses redactor plainCells rest (p.sub redactor plainCells text)) = _
        at hmarks
      have hnone : ¬ Occurs (accepts redactor) p.pattern text := by
        rcases (pass_spec hmem).2 with hkeyword | hhinted
        · intro hoccurs
          have hlt := marks_lt_sub (pass_spec hmem).1 hkeyword hoccurs
          omega
        · exact not_occurs_of_hinted hhinted hscan
      rw [sub_of_not_occurs hnone] at hmarks
      intro q hq hkeyword
      rcases List.mem_cons.mp hq with rfl | hq
      · exact hnone
      · exact ih (fun r hr => hpasses r (by simp [hr])) hmarks q hq hkeyword

/-- A text that is left alone has none of the patterns that ask for no hint, when no type
that they find is allowed. -/
theorem noneUnhinted_of_unchanged
    (hscan : streamNeedsRedactionScan redactor.detector.unicode text = false)
    (hactions : AllowsNone redactor.detector.config)
    (h : redactWith (builtIn redactor) e false text = text) : NoneUnhinted redactor e text := by
  have hdetector := marks_add_inspect_le hscan hactions
  have hpasses := @marks_le_runPasses (builtIn redactor) e.passes
    (fun p hp => (pass_spec (mem_allPasses hp)).1) ((builtIn redactor).detector.redact text false)
  change marks _ ≤ marks (redactWith (builtIn redactor) e false text) at hpasses
  rw [h] at hpasses
  have hinspect : (builtIn redactor).detector.inspect text false = [] :=
    List.eq_nil_of_length_eq_zero (by omega)
  have hredact := Detector.redact_of_no_findings hinspect
  have hfindings : customFindings redactor.detector.unicode text = [] := by
    rw [inspect_eq, dedupe_eq_nil_iff] at hinspect
    exact (List.append_eq_nil_iff.mp hinspect).1
  unfold redactWith at h
  rw [hredact] at h
  constructor
  · intro p hp
    have hnone := List.flatMap_eq_nil_iff.mp hfindings p (unhinted_subset hp)
    exact findingsOf_eq_nil_iff.mp hnone
  · exact @none_occurs_of_marks_eq (builtIn redactor) text hscan e.passes
      (fun p hp => mem_allPasses hp) (congrArg marks h)

/-- A text without a hint is left alone when the rules of the active policies can be
read and none of the patterns that ask for no hint occurs in it, and only then when no
type that these patterns find is allowed. -/
theorem unscanned_unchanged_iff (redactor : Redactor) (policies : List DbPolicy)
    (usePresidio : Bool) (text : List Char)
    (hscan : streamNeedsRedactionScan redactor.detector.unicode text = false) :
    ((∃ e, enforcedTypes policies = .ok e ∧ NoneUnhinted redactor e text) →
        redactSensitiveDataRich (builtIn redactor) policies usePresidio text = .ok text) ∧
      (AllowsNone redactor.detector.config →
        redactSensitiveDataRich (builtIn redactor) policies usePresidio text = .ok text →
          ∃ e, enforcedTypes policies = .ok e ∧ NoneUnhinted redactor e text) := by
  constructor
  · rintro ⟨e, henforced, hnone⟩
    unfold redactSensitiveDataRich
    rw [henforced]
    change Except.ok (redactWith (builtIn redactor) e usePresidio text) = .ok text
    rw [redactWith_builtIn, redactWith_of_unmatched (unmatched_of_noneUnhinted hscan hnone)]
  · intro hactions h
    unfold redactSensitiveDataRich at h
    rcases bind_eq_ok h with ⟨e, henforced, hredacted⟩
    injection hredacted with hsame
    rw [redactWith_builtIn] at hsame
    exact ⟨e, henforced, noneUnhinted_of_unchanged hscan hactions hsame⟩

end

/-! ## A name -/

/-- The `sensitive_data` section of the policy file. -/
def shippedPolicy : SensitivePolicy where
  actions :=
    [("secrets", "block"), ("openai_api_key", "block"), ("google_api_key", "block"),
      ("aws_access_key", "block"), ("jwt_token", "block"), ("bearer_token", "block"),
      ("api_key_param", "block"), ("secret_param", "block"), ("token_param", "block"),
      ("access_token", "block"), ("private_key", "block"), ("email", "mask"), ("phone", "hash"),
      ("aadhaar", "mask"), ("pan", "tokenize"), ("gstin", "tokenize"),
      ("credit_card", "redact"), ("ssn", "redact"), ("name", "redact"), ("person", "redact"),
      ("address", "redact"), ("medical_identifier", "redact"),
      ("financial_identifier", "tokenize")]
  approvalConfidenceThreshold := 101 / 100
  defaultAction := "redact"

/-- The redactor with the policy file of the repository. -/
def shippedRedactor : Redactor where
  detector := { bareRedactor.detector with config := shippedPolicy }
  fingerprint := fun _ => ""
  redactionRules :=
    [("email", "mask"), ("phone", "hash"), ("aadhaar", "mask"), ("credit_card", "synthetic")]

/-- A greeting has no hint and is left alone. -/
theorem greeting_unchanged :
    redactSensitiveDataRich (builtIn shippedRedactor) [] true "good morning".toList =
      .ok "good morning".toList :=
  (unscanned_unchanged_iff shippedRedactor [] true "good morning".toList (by decide +kernel)).1
    ⟨noneEnforced, rfl, by decide +kernel⟩

/-- A name is found without a hint. -/
theorem name_unscanned :
    ¬ ∀ (redactor : Redactor) (policies : List DbPolicy) (text : List Char),
      streamNeedsRedactionScan redactor.detector.unicode text = false →
        redactSensitiveDataRich (builtIn redactor) policies true text = .ok text := by
  intro h
  have hsame := h shippedRedactor [] "name: John Smith".toList (by decide +kernel)
  revert hsame
  decide +kernel

end AuthClaw.Redaction.TokenStream
