import AuthClaw.Library.AsciiText
import AuthClaw.Library.Rewriting
import AuthClaw.Redaction.GoRedactor

/-!
# The test before a pattern

{lit}`redactText` asks a test about the input before it runs a pattern on the text
that the earlier patterns have left.  Does the test ever keep back a pattern that
would have matched?

For fourteen of the patterns the test asks for something that every match has and
that no placeholder brings in.  The other six ask for more than their expressions
do: ten digits where nine make a match, one blank where any white space does, and
the letter `s` where its long form matches too.

Main results:

- Theorem {lit}`met_of_occurs`: a pattern that occurs meets what its test asks for.
- Theorem {lit}`met_of_met_pass`: what a test asks for was there before a pass.
- Theorem {lit}`prefilter_agrees_iff`: the redactor agrees with the one without tests
  exactly when none of the six patterns is kept back where it occurs.
- Theorem {lit}`nine_digits_missed`: a number of nine digits.
-/

namespace AuthClaw.Redaction

open Regex CharClass AsciiText

/-! ## What the tests ask for -/

/-- What a test asks for: one of the words in the text, one of the words in the text
in lower case, and some digits and dots. -/
structure Needs where
  raw : List String
  low : List String
  digits : Nat
  dots : Nat

/-- The tests that ask for what every match has. -/
def Trigger.needs : Trigger → Option Needs
  | .jwt => some { raw := [], low := ["eyj"], digits := 0, dots := 2 }
  | .awsAccessKey => some { raw := ["AKIA", "ASIA"], low := [], digits := 0, dots := 0 }
  | .anthropicApiKey => some { raw := [], low := ["sk-ant-"], digits := 0, dots := 0 }
  | .openaiApiKey => some { raw := [], low := ["sk-"], digits := 0, dots := 0 }
  | .sendgridApiKey => some { raw := ["SG."], low := [], digits := 0, dots := 0 }
  | .googleApiKey => some { raw := ["AIza"], low := [], digits := 0, dots := 0 }
  | .authclawApiKey => some { raw := [], low := ["ac_"], digits := 0, dots := 0 }
  | .bearerToken => some { raw := [], low := ["bearer"], digits := 0, dots := 0 }
  | .azureOpenaiKey => some { raw := [], low := ["azure"], digits := 0, dots := 0 }
  | .cohereApiKey => some { raw := [], low := ["cohere"], digits := 0, dots := 0 }
  | .email => some { raw := ["@"], low := [], digits := 0, dots := 0 }
  | .creditCard => some { raw := [], low := [], digits := 13, dots := 0 }
  | .ssn => some { raw := ["-"], low := [], digits := 9, dots := 0 }
  | .medicalIdentifier =>
      some { raw := [], low := ["mrn", "medical record", "patient id", "patient identifier"],
             digits := 0, dots := 0 }
  | .secretAssignment => none
  | .phone => none
  | .phiContext => none
  | .promptInjection => none
  | .systemPrompt => none
  | .hiddenMetadata => none

/-- A digit as {lit}`countDigits` counts it. -/
def isDigitRune (r : Rune) : Bool :=
  '0' ≤ r.value && r.value ≤ '9'

/-- A full stop. -/
def isDotRune (r : Rune) : Bool :=
  r.value == '.'

section

variable (unicode : GoUnicode)

/-- The text has what a test asks for. -/
def Needs.met (needs : Needs) (text : List Rune) : Bool :=
  (needs.raw.isEmpty || needs.raw.any (containsText (text.map Rune.value))) &&
    (needs.low.isEmpty || needs.low.any (containsText (lowerText unicode text))) &&
    (needs.digits ≤ text.countP isDigitRune && needs.dots ≤ text.countP isDotRune)

variable {unicode}

/-- The test of such a pattern is that its needs are met. -/
theorem mayMatch_eq_met {trigger : Trigger} {needs : Needs} (h : trigger.needs = some needs)
    (input : List Rune) : mayMatch unicode input trigger = needs.met unicode input := by
  have hdots : (input.map Rune.value).count '.' = input.countP isDotRune := by
    rw [List.count, List.countP_map]
    rfl
  have hdigits : countDigits input = input.countP isDigitRune := rfl
  cases trigger <;> cases h <;>
    simp [mayMatch, redactionPatternMayMatch, Needs.met, hdots, hdigits, Bool.and_comm]

/-! ## Before a pass -/

/-- The placeholder has no part in what a test asks for. -/
def Needs.unaffected (needs : Needs) (trigger : Trigger) : Bool :=
  needs.raw.all (fun w => Apart w.toList trigger.replacement.toList) &&
    needs.low.all (fun w => Apart w.toList (trigger.replacement.toList.map Char.toLower)) &&
    ((runes trigger.replacement).countP isDigitRune == 0 &&
      (runes trigger.replacement).countP isDotRune == 0)

theorem map_value_runes (text : String) : (runes text).map Rune.value = text.toList := by
  unfold runes
  rw [List.map_map]
  exact List.map_id' _

/-- The placeholders are in ASCII and have two characters at least. -/
theorem replacement_spec (trigger : Trigger) :
    trigger.replacement.toList.all (fun c => c.toNat < 128) = true ∧
      2 ≤ (runes trigger.replacement).length := by
  cases trigger <;> decide +kernel

theorem lowerText_replacement (trigger : Trigger) :
    lowerText unicode (runes trigger.replacement) =
      trigger.replacement.toList.map Char.toLower := by
  unfold lowerText runes
  rw [List.map_map]
  apply List.map_congr_left
  intro c hc
  have hascii := List.all_eq_true.mp (replacement_spec trigger).1 c hc
  exact unicode.toLower_ascii c (by simpa using hascii)

/-- What a test asks for was there before a pass. -/
theorem met_of_met_pass {needs : Needs} {trigger : Trigger}
    (hunaffected : needs.unaffected trigger = true) {text : List Rune}
    (h : needs.met unicode (pass text trigger) = true) : needs.met unicode text = true := by
  unfold Needs.unaffected at hunaffected
  unfold Needs.met at h ⊢
  simp only [Bool.and_eq_true, Bool.or_eq_true, List.all_eq_true, List.any_eq_true,
    beq_iff_eq, decide_eq_true_eq] at hunaffected h ⊢
  rcases hunaffected with ⟨⟨hraw, hlow⟩, hdigits, hdots⟩
  rcases h with ⟨⟨hraw', hlow'⟩, hdigits', hdots'⟩
  refine ⟨⟨hraw'.imp_right ?_, hlow'.imp_right ?_⟩, ?_, ?_⟩
  · rintro ⟨w, hw, hcontains⟩
    refine ⟨w, hw, containsText_iff.mpr ?_⟩
    have happart : Apart w.toList ((runes trigger.replacement).map Rune.value) = true := by
      rw [map_value_runes]
      exact hraw w hw
    exact infix_of_infix_replaceAll trigger.re happart (containsText_iff.mp hcontains)
  · rintro ⟨w, hw, hcontains⟩
    refine ⟨w, hw, containsText_iff.mpr ?_⟩
    have happart : Apart w.toList (lowerText unicode (runes trigger.replacement)) = true := by
      rw [lowerText_replacement]
      exact hlow w hw
    exact infix_of_infix_replaceAll trigger.re happart (containsText_iff.mp hcontains)
  · exact le_trans hdigits' (countP_replaceAll_le trigger.re hdigits text)
  · exact le_trans hdots' (countP_replaceAll_le trigger.re hdots text)

/-! ## What every match has -/

/-- The character that a class stands for. -/
def rawReads (k : CharClass) : Option Char :=
  match k.ranges with
  | [(c, _)] => if k = lit c then some c else none
  | _ => none

/-- The character that a class stands for in lower case.  The letters `s` and `k` have
a third form that a class without case accepts. -/
def lowReads (k : CharClass) : Option Char :=
  match k.ranges with
  | [(c, _)] =>
      if c.toNat < 128 ∧ (k = lit c ∨ k = (lit c).caseless ∧ c ∉ ['s', 'S', 'k', 'K']) then
        some c.toLower
      else none
  | _ => none

theorem rawReads_spec {k : CharClass} {r : Rune} {c : Char} (h : rawReads k = some c)
    (hacc : goAccepts k r = true) : r.value = c := by
  unfold rawReads at h
  split at h
  · split at h
    · rename_i hk
      cases h
      rw [hk] at hacc
      exact accepts_lit.mp hacc
    · cases h
  · cases h

theorem toLower_of_mem_goVariants {c d : Char} (hc : c.toNat < 128)
    (hletter : c ∉ ['s', 'S', 'k', 'K']) (h : c ∈ goVariants d) :
    d.toNat < 128 ∧ d.toLower = c.toLower := by
  have hcase : c = d.toLower ∨ c = d.toUpper := by
    unfold goVariants at h
    rcases List.mem_append.mp h with h | h
    · simpa using h
    · exfalso
      split at h
      · rcases List.mem_cons.mp h with rfl | h
        · exact hletter (by decide)
        · rcases List.mem_pair.mp h with rfl | rfl
          · exact hletter (by decide)
          · exact absurd hc (by decide)
      · split at h
        · rcases List.mem_cons.mp h with rfl | h
          · exact hletter (by decide)
          · rcases List.mem_pair.mp h with rfl | rfl
            · exact hletter (by decide)
            · exact absurd hc (by decide)
        · cases h
  have hd : d.toNat < 128 := by
    by_contra hd
    rw [Nat.not_lt] at hd
    rw [toLower_of_not_ascii hd, toUpper_of_not_ascii hd, or_self] at hcase
    rw [hcase] at hc
    omega
  refine ⟨hd, ?_⟩
  have hlower : d.toLower.toLower = d.toLower ∧ d.toUpper.toLower = d.toLower :=
    forall_ascii (P := fun d => d.toLower.toLower = d.toLower ∧ d.toUpper.toLower = d.toLower)
      (by decide +kernel) hd
  rcases hcase with rfl | rfl
  · exact hlower.1.symm
  · exact hlower.2.symm

theorem lowReads_spec {k : CharClass} {r : Rune} {c : Char} (h : lowReads k = some c)
    (hacc : goAccepts k r = true) : unicode.toLower r.value = c := by
  unfold lowReads at h
  split at h
  · split at h
    · rename_i hk
      cases h
      rcases hk with ⟨hascii, hlit | ⟨hcaseless, hletter⟩⟩
      · rw [hlit] at hacc
        rw [accepts_lit.mp hacc]
        exact unicode.toLower_ascii _ hascii
      · rw [hcaseless] at hacc
        rcases toLower_of_mem_goVariants hascii hletter (accepts_caseless.mp hacc) with
          ⟨hvalue, hlower⟩
        rw [unicode.toLower_ascii _ hvalue, hlower]
    · cases h
  · cases h

/-- An occurrence is a match inside the text. -/
theorem exists_match_of_occurs {trigger : Trigger} {text : List Rune}
    (h : Occurs goAccepts trigger.re text) :
    ∃ p u q, Matches goAccepts trigger.regex p u q ∧ u <:+: text := by
  rcases h with ⟨before, us, after, rfl, hmatch⟩
  rcases hmatch with ⟨u, vs, rfl, hmatch, hnil⟩
  cases hnil
  refine ⟨_, u, _, hmatch, ?_⟩
  rw [List.flatten_singleton]
  exact List.infix_append _ _ _

theorem any_of_exists_head {words : List String} {u text : List Rune} {view : Rune → Char}
    (hwithin : u <:+: text)
    (h : ∃ w ∈ words.map String.toList, w <+: u.map view) :
    words.any (containsText (text.map view)) = true := by
  rcases h with ⟨w, hw, hbegins⟩
  rcases List.mem_map.mp hw with ⟨word, hword, rfl⟩
  exact List.any_eq_true.mpr ⟨word, hword,
    containsText_iff.mpr (hbegins.isInfix.trans (hwithin.map view))⟩

/-- A pattern whose heads read one of the words meets the words. -/
theorem raw_of_occurs {trigger : Trigger} {words : List String} (n : Nat)
    (hheads : headsRead rawReads n (words.map String.toList) trigger.regex = true)
    {text : List Rune} (h : Occurs goAccepts trigger.re text) :
    words.any (containsText (text.map Rune.value)) = true := by
  rcases exists_match_of_occurs h with ⟨p, u, q, hmatch, hwithin⟩
  exact any_of_exists_head hwithin
    (hmatch.exists_word (fun _ _ _ hk hacc => rawReads_spec hk hacc) hheads)

/-- A pattern whose heads read one of the words in lower case meets the words. -/
theorem low_of_occurs {trigger : Trigger} {words : List String} (n : Nat)
    (hheads : headsRead lowReads n (words.map String.toList) trigger.regex = true)
    {text : List Rune} (h : Occurs goAccepts trigger.re text) :
    words.any (containsText (lowerText unicode text)) = true := by
  rcases exists_match_of_occurs h with ⟨p, u, q, hmatch, hwithin⟩
  exact @any_of_exists_head words u text (fun r => unicode.toLower r.value) hwithin
    (hmatch.exists_word (fun _ _ _ hk hacc => lowReads_spec hk hacc) hheads)

/-- A text in which a pattern occurs has the characters that every match has. -/
theorem count_of_occurs {trigger : Trigger} {good : CharClass → Bool} {kind : Rune → Bool}
    (hgood : ∀ k r, good k = true → goAccepts k r = true → kind r = true)
    {text : List Rune} (h : Occurs goAccepts trigger.re text) :
    trigger.regex.minCount good ≤ text.countP kind := by
  rcases exists_match_of_occurs h with ⟨p, u, q, hmatch, hwithin⟩
  exact le_trans (hmatch.minCount_le hgood) hwithin.sublist.countP_le

theorem digits_of_occurs {trigger : Trigger} {text : List Rune}
    (h : Occurs goAccepts trigger.re text) :
    trigger.regex.minCount (· = digitClass) ≤ text.countP isDigitRune := by
  refine count_of_occurs ?_ h
  intro k r hk hacc
  rw [decide_eq_true_eq] at hk
  subst hk
  have hdigit : 48 ≤ r.value.val ∧ r.value.val ≤ 57 := by
    simpa [goAccepts, accepts, digitClass, inRanges, goTables, Char.isDigit] using hacc
  simp only [isDigitRune, Bool.and_eq_true, decide_eq_true_eq]
  exact hdigit

/-- A character that every match has is in the text. -/
theorem char_of_occurs {trigger : Trigger} {needle : String} {c : Char}
    (hneedle : needle.toList = [c]) (hcount : 1 ≤ trigger.regex.minCount (· = lit c))
    {text : List Rune} (h : Occurs goAccepts trigger.re text) :
    containsText (text.map Rune.value) needle = true := by
  have hle : 1 ≤ text.countP (fun r => r.value = c) := by
    refine le_trans hcount (count_of_occurs ?_ h)
    intro k r hk hacc
    rw [decide_eq_true_eq] at hk
    subst hk
    simpa using accepts_lit.mp hacc
  rcases List.countP_pos_iff.mp hle with ⟨r, hr, hvalue⟩
  rw [containsText_iff, hneedle]
  rw [decide_eq_true_eq] at hvalue
  rw [← hvalue, List.singleton_infix_iff]
  exact List.mem_map_of_mem hr

theorem dots_of_occurs {trigger : Trigger} {text : List Rune}
    (h : Occurs goAccepts trigger.re text) :
    trigger.regex.minCount (· = lit '.') ≤ text.countP isDotRune := by
  refine count_of_occurs ?_ h
  intro k r hk hacc
  rw [decide_eq_true_eq] at hk
  subst hk
  simpa [isDotRune] using accepts_lit.mp hacc

/-- The expression alone shows that every match has what the test asks for. -/
def Needs.provided (needs : Needs) (r : Regex CharClass) : Bool :=
  (needs.raw.isEmpty ||
      needs.raw.any (fun w =>
        w.toList.any (fun c => w.toList = [c] && 1 ≤ r.minCount (· = lit c))) ||
      headsRead rawReads 14 (needs.raw.map String.toList) r) &&
    (needs.low.isEmpty || headsRead lowReads 14 (needs.low.map String.toList) r) &&
    (needs.digits ≤ r.minCount (· = digitClass) && needs.dots ≤ r.minCount (· = lit '.'))

theorem provided_of_needs {trigger : Trigger} {needs : Needs} (h : trigger.needs = some needs) :
    needs.provided trigger.regex = true := by
  cases trigger <;> cases h <;> decide +kernel

/-- A pattern that occurs meets what its test asks for. -/
theorem met_of_occurs {trigger : Trigger} {needs : Needs} (hneeds : trigger.needs = some needs)
    {text : List Rune} (h : Occurs goAccepts trigger.re text) : needs.met unicode text = true := by
  have hprovided := provided_of_needs hneeds
  unfold Needs.provided at hprovided
  unfold Needs.met
  simp only [Bool.and_eq_true, Bool.or_eq_true, decide_eq_true_eq] at hprovided ⊢
  rcases hprovided with ⟨⟨hraw, hlow⟩, hdigits, hdots⟩
  refine ⟨⟨?_, ?_⟩, ?_, ?_⟩
  · rcases hraw with (hempty | hchar) | hheads
    · exact Or.inl hempty
    · right
      rcases List.any_eq_true.mp hchar with ⟨w, hw, hchar⟩
      rcases List.any_eq_true.mp hchar with ⟨c, -, hchar⟩
      simp only [Bool.and_eq_true, decide_eq_true_eq] at hchar
      exact List.any_eq_true.mpr ⟨w, hw, char_of_occurs hchar.1 hchar.2 h⟩
    · exact Or.inr (raw_of_occurs 14 hheads h)
  · rcases hlow with hempty | hheads
    · exact Or.inl hempty
    · exact Or.inr (low_of_occurs 14 hheads h)
  · exact le_trans hdigits (digits_of_occurs h)
  · exact le_trans hdots (dots_of_occurs h)

/-! ## The redactor without tests -/

/-- The text after some turns of {lit}`redactText`. -/
def textAfter (unicode : GoUnicode) (done : List Trigger) (input : List Rune) : List Rune :=
  done.foldl (filteredPass unicode input) input

/-- The text after some patterns, each of them run. -/
def plainAfter (done : List Trigger) (input : List Rune) : List Rune :=
  done.foldl pass input

/-- The redactor that runs every pattern. -/
def redactPlain (input : List Rune) : List Rune :=
  plainAfter triggers input

/-- The two redactors agree after every pattern. -/
def AgreeThroughout (unicode : GoUnicode) (input : List Rune) : Prop :=
  ∀ done, done <+: triggers → textAfter unicode done input = plainAfter done input

/-- None of the patterns whose tests ask for too much is kept back where it occurs. -/
def NothingMissed (unicode : GoUnicode) (input : List Rune) : Prop :=
  ∀ done trigger, done ++ [trigger] <+: triggers → trigger.needs = none →
    mayMatch unicode input trigger = false →
      ¬ Occurs goAccepts trigger.re (plainAfter done input)

theorem plainAfter_append (done : List Trigger) (trigger : Trigger) (input : List Rune) :
    plainAfter (done ++ [trigger]) input = pass (plainAfter done input) trigger := by
  unfold plainAfter
  rw [List.foldl_append]
  rfl

theorem textAfter_append (done : List Trigger) (trigger : Trigger) (input : List Rune) :
    textAfter unicode (done ++ [trigger]) input =
      filteredPass unicode input (textAfter unicode done input) trigger := by
  unfold textAfter
  rw [List.foldl_append]
  rfl

/-- The patterns before a pattern. -/
def Trigger.before (trigger : Trigger) : List Trigger :=
  triggers.takeWhile (· ≠ trigger)

theorem subset_before {done : List Trigger} {trigger : Trigger}
    (h : done ++ [trigger] <+: triggers) : done = trigger.before := by
  have hnodup : (done ++ [trigger]).Nodup := by
    refine List.Nodup.sublist h.sublist ?_
    decide
  rcases h with ⟨rest, hrest⟩
  unfold Trigger.before
  rw [← hrest, List.append_assoc, List.takeWhile_append_of_pos]
  · simp
  · intro other hother
    rw [decide_eq_true_eq]
    rintro rfl
    exact (List.nodup_append.mp hnodup).2.2 other hother other (by simp) rfl

/-- No placeholder of an earlier pattern has a part in what a test asks for. -/
theorem unaffected_before {trigger : Trigger} {needs : Needs} (h : trigger.needs = some needs) :
    trigger.before.all needs.unaffected = true := by
  cases trigger <;> cases h <;> decide +kernel

/-- What a test asks for was in the input; the induction is on the patterns that have
been run. -/
theorem met_input_of_met {needs : Needs} {input : List Rune} {done : List Trigger}
    (hall : done.all needs.unaffected = true)
    (h : needs.met unicode (plainAfter done input) = true) : needs.met unicode input = true := by
  induction done using List.reverseRecOn with
  | nil => exact h
  | append_singleton done other ih =>
      rw [List.all_append, Bool.and_eq_true] at hall
      rw [plainAfter_append] at h
      apply ih hall.1
      exact met_of_met_pass (by simpa using hall.2) h

/-- A test that asks for what every match has keeps back no pattern that occurs. -/
theorem mayMatch_of_occurs {done : List Trigger} {trigger : Trigger} {needs : Needs}
    (hbegins : done ++ [trigger] <+: triggers) (hneeds : trigger.needs = some needs)
    {input : List Rune} (h : Occurs goAccepts trigger.re (plainAfter done input)) :
    mayMatch unicode input trigger = true := by
  rw [mayMatch_eq_met hneeds]
  apply @met_input_of_met unicode needs input done
  · rw [subset_before hbegins]
    exact unaffected_before hneeds
  · exact met_of_occurs hneeds h

/-- A match of one of the other patterns does not begin like its placeholder. -/
theorem head_ne_replacement {trigger : Trigger} (hneeds : trigger.needs = none)
    {p q : Option Rune} {u : List Rune} (h : Matches goAccepts trigger.regex p u q) :
    2 ≤ u.length ∧ u.take 2 ≠ (runes trigger.replacement).take 2 := by
  have hheads : (trigger.regex.heads 2).all (fun ks => ks.length == 2 &&
      !((ks.zip ((runes trigger.replacement).take 2)).all (fun m => goAccepts m.1 m.2))) =
        true := by
    cases trigger <;> cases hneeds <;> decide +kernel
  rcases h.exists_head 2 with ⟨ks, hks, hspells⟩
  have hks := List.all_eq_true.mp hheads ks hks
  simp only [Bool.and_eq_true, beq_iff_eq, Bool.not_eq_true'] at hks
  have hlength := hspells.length_eq
  rw [hks.1, List.length_take] at hlength
  refine ⟨by omega, ?_⟩
  intro heq
  rw [heq] at hspells
  have hall : (ks.zip ((runes trigger.replacement).take 2)).all
      (fun m => goAccepts m.1 m.2) = true := by
    rw [List.all_eq_true]
    intro m hm
    exact (List.forall₂_iff_zip.mp hspells).2 hm
  rw [hall] at hks
  exact Bool.noConfusion hks.2

/-- A pattern that occurs changes the text. -/
theorem pass_ne_of_occurs {trigger : Trigger} (hneeds : trigger.needs = none) {text : List Rune}
    (h : Occurs goAccepts trigger.re text) : pass text trigger ≠ text := by
  refine replaceAll_ne_of_occurs (replacement_spec trigger).2 ?_ h
  rintro p us q ⟨u, vs, rfl, hmatch, hnil⟩
  cases hnil
  rw [List.flatten_singleton]
  exact head_ne_replacement hneeds hmatch

/-- One turn of the loop does what the pattern does exactly when the pattern is run or
occurs nowhere. -/
theorem filteredPass_eq_pass {input text : List Rune} {trigger : Trigger}
    (h : mayMatch unicode input trigger = false → ¬ Occurs goAccepts trigger.re text) :
    filteredPass unicode input text trigger = pass text trigger := by
  unfold filteredPass
  cases hmay : mayMatch unicode input trigger with
  | true => rfl
  | false => exact (pass_of_not_occurs (h hmay)).symm

/-- The redactor agrees with the one without tests after every pattern exactly when
none of the six patterns is kept back where it occurs; its result is then the same. -/
theorem prefilter_agrees_iff (unicode : GoUnicode) (input : List Rune) :
    (AgreeThroughout unicode input ↔ NothingMissed unicode input) ∧
      (NothingMissed unicode input → redactText unicode input = redactPlain input) := by
  have hagree : NothingMissed unicode input → AgreeThroughout unicode input := by
    intro h done
    induction done using List.reverseRecOn with
    | nil => exact fun _ => rfl
    | append_singleton done trigger ih =>
        intro hbegins
        have hdone : done <+: triggers := (List.prefix_append done [trigger]).trans hbegins
        rw [textAfter_append, plainAfter_append, ih hdone]
        apply filteredPass_eq_pass
        intro hskipped hoccurs
        cases hneeds : trigger.needs with
        | none => exact h done trigger hbegins hneeds hskipped hoccurs
        | some needs =>
            rw [mayMatch_of_occurs hbegins hneeds hoccurs] at hskipped
            cases hskipped
  refine ⟨⟨?_, hagree⟩, fun h => hagree h triggers (List.prefix_refl _)⟩
  intro h done trigger hbegins hneeds hskipped hoccurs
  have hdone : done <+: triggers := (List.prefix_append done [trigger]).trans hbegins
  have hafter := h _ hbegins
  rw [textAfter_append, plainAfter_append, h done hdone] at hafter
  unfold filteredPass at hafter
  rw [if_neg (by simp [hskipped])] at hafter
  exact pass_ne_of_occurs hneeds hoccurs hafter.symm

end

/-! ## Nine digits -/

/-- A conversion that knows the ASCII letters and the Kelvin sign. -/
def plainUnicode : GoUnicode where
  toLower c := if c = '\u212a' then 'k' else c.toLower
  toLower_ascii := by
    intro c hc
    rw [if_neg]
    rintro rfl
    exact absurd hc (by decide)
  toLower_kelvin := rfl

/-- A telephone number of nine digits matches, and the test asks for ten. -/
theorem nine_digits_missed :
    ¬ ∀ (unicode : GoUnicode) (input : List Rune),
      redactText unicode input = redactPlain input := by
  intro h
  have hdiffer : redactText plainUnicode (runes "123456789") ≠ redactPlain (runes "123456789") := by
    decide +kernel
  exact hdiffer (h plainUnicode (runes "123456789"))

end AuthClaw.Redaction
