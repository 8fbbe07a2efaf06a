import AuthClaw.Library.Placeholders
import AuthClaw.Redaction.Prefilter

/-!
# Redacting a redacted text

Is a redacted text left alone by {lit}`redactText`?  A pass leaves no match of its own
pattern in the text it skips, but its placeholders end words: where a match needs a
word boundary, a placeholder can put one after a text that went on in the input.

Main results:

- Theorem {lit}`occurs_iff_core`: a match is found by the part of its expression that
  does not reach through a placeholder.
- Theorem {lit}`occurs_pass_iff`: a pass leaves exactly the matches of a pattern that it
  revives beside its placeholders.
- Theorem {lit}`fixed_iff`: the redacted text is a fixpoint without matches exactly when
  no pattern that is followed only by patterns that change nothing leaves a match.
- Theorem {lit}`email_revived`: an address that a telephone number follows.
-/

namespace AuthClaw.Redaction

open Regex CharClass

/-- Redacting the redacted text changes nothing, and no pattern matches it. -/
structure Fixed (unicode : GoUnicode) (input : List Rune) : Prop where
  stable : redactText unicode (redactText unicode input) = redactText unicode input
  unmatched : ∀ trigger : Trigger, ¬ Occurs goAccepts trigger.re (redactText unicode input)

/-! ## Cores -/

/-- The parts of an expression that do not reach through a placeholder. -/
def Trigger.coreParts : Trigger → List (Regex CharClass)
  | .phiContext => [wordBoundary,
      alts [caselessLits "patient", caselessLits "diagnosis", caselessLits "prescription",
        caselessLits "treatment plan", caselessLits "health history"],
      wordBoundary]
  | .promptInjection => [wordBoundary,
      alts [seqs [caselessLits "ignore", someSpaces,
            opt (.seq (caselessLits "all") someSpaces),
            opt (.seq (caselessLits "previous") someSpaces), caselessLits "instructions"],
        seqs [caselessLits "reveal", someSpaces, caselessLits "system", someSpaces,
          caselessLits "prompt"],
        seqs [caselessLits "show", someSpaces, caselessLits "internal", someSpaces,
          caselessLits "system", someSpaces, caselessLits "prompts"],
        seqs [caselessLits "developer", someSpaces, caselessLits "mode"],
        caselessLits "jailbreak",
        seqs [caselessLits "bypass", someSpaces, caselessLits "policy"]],
      wordBoundary]
  | .systemPrompt => [
      alts [seqs [caselessLits "system", someSpaces, caselessLits "prompt"],
        seqs [caselessLits "developer", someSpaces, caselessLits "message"],
        seqs [caselessLits "hidden", someSpaces, caselessLits "instruction"],
        seqs [caselessLits "internal", someSpaces, caselessLits "instruction"]],
      opt (caselessLits "s"), spaces, .one (oneOf ":="), spaces]
  | .hiddenMetadata => [maybe "\"",
      alts [caselessLits "hidden_metadata", caselessLits "policy_sensitive_metadata",
        caselessLits "internal_policy", caselessLits "system_prompt"],
      maybe "\"", spaces, lits ":", spaces, lits "\""]
  | trigger => [trigger.regex]

/-- The parts that come after the core. -/
def Trigger.tailParts : Trigger → List (Regex CharClass)
  | .phiContext => [upTo (.one notNewline) 120]
  | .promptInjection => [upTo (.one notNewline) 120]
  | .systemPrompt => [atLeast notNewline 1]
  | .hiddenMetadata => [.many { oneOf "\"" with negated := true } true, lits "\""]
  | _ => []

/-- The core of an expression. -/
def Trigger.core (trigger : Trigger) : Regex CharClass :=
  seqs trigger.coreParts

/-- What has to follow the core. -/
def Trigger.follows : Trigger → List Rune → Prop
  | .systemPrompt, after => ∃ r, after.head? = some r ∧ goAccepts notNewline r = true
  | .hiddenMetadata, after => Rune.char '"' ∈ after
  | _, _ => True

theorem regex_eq_seqs (trigger : Trigger) :
    trigger.regex = seqs (trigger.coreParts ++ trigger.tailParts) := by
  cases trigger <;> rfl

theorem accepts_quote {r : Rune} : goAccepts (lit '"') r = true ↔ r = .char '"' := by
  cases r with
  | char c => simp [goAccepts, Rune.value, accepts_lit]
  | invalid b => simp [goAccepts, Rune.value, accepts_lit]

theorem accepts_notQuote {r : Rune} :
    goAccepts { oneOf "\"" with negated := true } r = true ↔ r ≠ .char '"' := by
  rw [← not_iff_not, not_not, ← accepts_quote]
  simp [goAccepts, accepts, oneOf, lit]
  rfl

/-- Some text that begins what follows the core is matched by the tail exactly when
what follows is as it has to be. -/
theorem follows_iff_tail (trigger : Trigger) (p : Option Rune) (after : List Rune) :
    trigger.follows after ↔ ∃ w after', after = w ++ after' ∧
      Matches goAccepts (seqs trigger.tailParts) p w after'.head? := by
  have hempty : ∀ k n, ∃ w after', after = w ++ after' ∧
      Matches goAccepts (upTo (.one k) n) p w after'.head? := by
    intro k n
    refine ⟨[], after, rfl, ?_⟩
    cases n with
    | zero => rfl
    | succ n => exact Or.inr rfl
  cases trigger with
  | phiContext => exact iff_of_true trivial (hempty _ _)
  | promptInjection => exact iff_of_true trivial (hempty _ _)
  | systemPrompt =>
      constructor
      · rintro ⟨r, hhead, hacc⟩
        cases after with
        | nil => cases hhead
        | cons a after =>
            cases hhead
            refine ⟨[r], after, rfl, [r], [], rfl, ?_, fun _ hmem => by cases hmem⟩
            exact ⟨[r], [], rfl, ⟨r, rfl, hacc⟩, rfl⟩
      · rintro ⟨w, after', rfl, v, x, rfl, hv, -⟩
        rcases hv with ⟨y, z, rfl, ⟨r, rfl, hacc⟩, -⟩
        exact ⟨r, rfl, hacc⟩
  | hiddenMetadata =>
      constructor
      · intro hmem
        rcases List.eq_append_cons_of_mem hmem with ⟨w, after', rfl, hnone⟩
        refine ⟨w ++ [.char '"'], after', by simp, w, [.char '"'], rfl, ?_, ?_⟩
        · intro r hr
          rw [accepts_notQuote]
          rintro rfl
          exact hnone hr
        · exact ⟨.char '"', rfl, accepts_quote.mpr rfl⟩
      · rintro ⟨w, after', rfl, v, x, rfl, -, ⟨r, rfl, hacc⟩⟩
        rw [accepts_quote.mp hacc]
        exact List.mem_append_left _ (List.mem_append_right _ (List.mem_singleton_self _))
  | _ => exact iff_of_true trivial ⟨[], after, rfl, rfl⟩

/-- A match is found by the part of its expression that does not reach through a
placeholder. -/
theorem occurs_iff_core {trigger : Trigger} {text : List Rune} :
    Occurs goAccepts trigger.re text ↔
      OccursThen goAccepts trigger.core trigger.follows text := by
  constructor
  · rintro ⟨before, us, after, hsplit, u, vs, rfl, hmatch, hnil⟩
    cases hnil
    rw [List.flatten_singleton] at hsplit
    change Matches goAccepts trigger.regex (before.getLast?.or none) u after.head? at hmatch
    rw [Option.or_none, regex_eq_seqs] at hmatch
    rcases matches_seqs_append.mp hmatch with ⟨v, w, rfl, hcore, htail⟩
    refine ⟨before, v, w ++ after, by rw [hsplit]; simp, ?_, ?_⟩
    · have hnext := head?_append_or w after none
      rw [Option.or_none, Option.or_none] at hnext
      rw [hnext]
      exact hcore
    · exact (follows_iff_tail trigger _ _).mpr ⟨w, after, rfl, htail⟩
  · rintro ⟨before, v, after, hsplit, hcore, hfollows⟩
    rcases (follows_iff_tail trigger (v.getLast?.or before.getLast?) _).mp hfollows with
      ⟨w, after', rfl, htail⟩
    refine ⟨before, [v ++ w], after', by rw [hsplit]; simp, v ++ w, [], rfl, ?_, rfl⟩
    change Matches goAccepts trigger.regex (before.getLast?.or none) (v ++ w) after'.head?
    rw [Option.or_none, regex_eq_seqs]
    have hnext := head?_append_or w after' none
    rw [Option.or_none, Option.or_none] at hnext
    rw [hnext] at hcore
    exact matches_seqs_append.mpr ⟨v, w, rfl, hcore, htail⟩

/-! ## Brackets -/

/-- What a placeholder has before its brackets. -/
def Trigger.opening (trigger : Trigger) : List Rune :=
  (runes trigger.replacement).takeWhile (· ≠ .char '[')

/-- What a placeholder has between its brackets. -/
def Trigger.inside (trigger : Trigger) : List Rune :=
  ((runes trigger.replacement).dropWhile (· ≠ .char '[')).tail.takeWhile (· ≠ .char ']')

/-- What a placeholder has after its brackets. -/
def Trigger.closing (trigger : Trigger) : List Rune :=
  ((runes trigger.replacement).dropWhile (· ≠ .char ']')).tail

/-- A placeholder has its two brackets, and no core matches a bracket. -/
theorem brackets_spec (trigger : Trigger) :
    runes trigger.replacement =
        trigger.opening ++ .char '[' :: (trigger.inside ++ .char ']' :: trigger.closing) ∧
      ∀ k ∈ trigger.core.classes,
        goAccepts k (.char '[') = false ∧ goAccepts k (.char ']') = false := by
  cases trigger <;> decide +kernel

theorem follows_append {trigger : Trigger} {z : List Rune} (t : List Rune)
    (h : trigger.follows z) : trigger.follows (z ++ t) := by
  cases trigger with
  | systemPrompt =>
      rcases h with ⟨r, hhead, hacc⟩
      exact ⟨r, by rw [List.head?_append, hhead]; rfl, hacc⟩
  | hiddenMetadata => exact List.mem_append_left _ h
  | _ => trivial

theorem mem_triggers (trigger : Trigger) : trigger ∈ triggers := by
  cases trigger <;> decide

/-- What stands beside the brackets is too short for a core.  Only its own placeholder
stands beside the last pattern, and it ends with a quote. -/
theorem beside_brackets {other trigger : Trigger} (h : other ∈ trigger.before ++ [trigger]) :
    (trigger.opening.length < other.core.minLength ∧
        trigger.closing.length < other.core.minLength) ∧
      (other = .hiddenMetadata → Rune.char '"' ∈ trigger.closing) := by
  have hall : ∀ trigger ∈ triggers, ∀ other ∈ trigger.before ++ [trigger],
      (trigger.opening.length < other.core.minLength ∧
          trigger.closing.length < other.core.minLength) ∧
        (other = .hiddenMetadata → Rune.char '"' ∈ trigger.closing) := by
    decide +kernel
  exact hall trigger (mem_triggers trigger) other h

/-- The placeholder of a pass has brackets for each pattern that has been run. -/
theorem brackets_of_mem {other trigger : Trigger} (h : other ∈ trigger.before ++ [trigger]) :
    Brackets goAccepts other.core other.follows (runes trigger.replacement) trigger.opening
      trigger.inside trigger.closing (.char '[') (.char ']') where
  parts := (brackets_spec trigger).1
  opening k hk := ((brackets_spec other).2 k hk).1
  closing k hk := ((brackets_spec other).2 k hk).2
  shortBefore := (beside_brackets h).1.1
  shortAfter := (beside_brackets h).1.2
  closed z t hfollows := by
    cases other with
    | systemPrompt =>
        rcases hfollows with ⟨r, hhead, hacc⟩
        rw [head?_append_cons z _ trigger.closing] at hhead
        exact ⟨r, hhead, hacc⟩
    | hiddenMetadata =>
        exact List.mem_append_right _ (List.mem_cons_of_mem _ ((beside_brackets h).2 rfl))
    | _ => trivial
  extended _ t hfollows := follows_append t hfollows

/-! ## Revived matches -/

/-- A pass makes a match of a pattern beside one of its placeholders. -/
def Revives (trigger other : Trigger) (text : List Rune) : Prop :=
  ∃ window ∈ windows (runes trigger.replacement) (tokens goAccepts trigger.re text),
    Occurs goAccepts other.re window

instance (trigger other : Trigger) (text : List Rune) : Decidable (Revives trigger other text) :=
  inferInstanceAs (Decidable (∃ window ∈ windows _ _, _))

/-- A pass leaves exactly the matches of a pattern that it revives. -/
theorem occurs_pass_iff {other trigger : Trigger} (h : other ∈ trigger.before ++ [trigger])
    {text : List Rune} (hoccurs : Occurs goAccepts trigger.re text) :
    Occurs goAccepts other.re (pass text trigger) ↔ Revives trigger other text := by
  have hhit := any_isHit_tokens_iff.mpr hoccurs
  rw [occurs_iff_core, pass, replaceAll_eq_withPlaceholder,
    occursThen_iff_window (brackets_of_mem h) hhit]
  simp only [Revives, occurs_iff_core]

/-- A pass that changes nothing revives nothing. -/
theorem not_revives_of_not_occurs {other trigger : Trigger} {text : List Rune}
    (h : ¬ Occurs goAccepts trigger.re text) : ¬ Revives trigger other text := by
  rintro ⟨window, hmem, -⟩
  unfold windows at hmem
  rw [if_neg (fun hhit => h (any_isHit_tokens_iff.mp hhit))] at hmem
  cases hmem

/-! ## The redacted text -/

section

variable (unicode : GoUnicode)

/-- The patterns after a pattern. -/
def Trigger.after (trigger : Trigger) : List Trigger :=
  (triggers.dropWhile (· ≠ trigger)).tail

/-- The pattern in its turn leaves a match of a pattern that has had its turn: it
revives one, or its test keeps it back where it occurs. -/
def Spoils (input : List Rune) (trigger : Trigger) : Prop :=
  if mayMatch unicode input trigger = true then
    ∃ other ∈ trigger.before ++ [trigger],
      Revives trigger other (textAfter unicode trigger.before input)
  else Occurs goAccepts trigger.re (textAfter unicode trigger.before input)

/-- The pattern in its turn changes nothing. -/
def Idle (input : List Rune) (trigger : Trigger) : Prop :=
  mayMatch unicode input trigger = true →
    ¬ Occurs goAccepts trigger.re (textAfter unicode trigger.before input)

variable {unicode}

theorem before_append_after (trigger : Trigger) :
    trigger.before ++ trigger :: trigger.after = triggers := by
  cases trigger <;> decide

theorem filteredPass_of_idle {input : List Rune} {trigger : Trigger}
    (h : Idle unicode input trigger) :
    filteredPass unicode input (textAfter unicode trigger.before input) trigger =
      textAfter unicode trigger.before input := by
  unfold filteredPass
  cases hmay : mayMatch unicode input trigger with
  | false => rfl
  | true => exact pass_of_not_occurs (h hmay)

theorem redactText_of_none_occurs {text : List Rune}
    (h : ∀ trigger : Trigger, ¬ Occurs goAccepts trigger.re text) :
    redactText unicode text = text := by
  have hpass : ∀ trigger, filteredPass unicode text text trigger = text := by
    intro trigger
    unfold filteredPass
    split
    · exact pass_of_not_occurs (h trigger)
    · rfl
  unfold redactText
  induction triggers with
  | nil => rfl
  | cons trigger rest ih =>
      rw [List.foldl_cons, hpass]
      exact ih

/-- The text after a pattern whose later patterns change nothing is the redacted text. -/
theorem redactText_of_idle {input : List Rune} {done rest : List Trigger}
    (hsplit : done ++ rest = triggers) (hidle : ∀ later ∈ rest, Idle unicode input later) :
    redactText unicode input = textAfter unicode done input := by
  induction rest generalizing done with
  | nil =>
      rw [List.append_nil] at hsplit
      rw [hsplit]
      rfl
  | cons trigger rest ih =>
      have hnext : done ++ [trigger] ++ rest = triggers := by
        rw [List.append_assoc]
        exact hsplit
      have hbefore := subset_before ⟨rest, hnext⟩
      rw [ih hnext (fun later hlater => hidle later (List.mem_cons_of_mem _ hlater)),
        textAfter_append, hbefore]
      exact filteredPass_of_idle (hidle trigger List.mem_cons_self)

/-- Nothing is left of the patterns that have had their turn; the induction takes the
patterns from the last, as long as they change nothing. -/
theorem not_occurs_of_not_spoils {input : List Rune}
    (h : ∀ trigger : Trigger, (∀ later ∈ trigger.after, Idle unicode input later) →
      ¬ Spoils unicode input trigger)
    {done rest : List Trigger} (hsplit : done ++ rest = triggers)
    (hidle : ∀ later ∈ rest, Idle unicode input later) :
    ∀ other ∈ done, ¬ Occurs goAccepts other.re (redactText unicode input) := by
  induction done using List.reverseRecOn generalizing rest with
  | nil => exact fun _ hmem => by cases hmem
  | append_singleton done trigger ih =>
      have hnext : done ++ (trigger :: rest) = triggers := by
        rw [← hsplit, List.append_assoc]
        rfl
      have hbefore : done = trigger.before := subset_before ⟨rest, hsplit⟩
      have hafter : rest = trigger.after := by
        have hsame := hnext.trans (before_append_after trigger).symm
        rw [hbefore] at hsame
        exact (List.cons.inj (List.append_cancel_left hsame)).2
      have hspoils := h trigger (hafter ▸ hidle)
      unfold Spoils at hspoils
      by_cases hidle' : Idle unicode input trigger
      · -- the pattern itself changed nothing
        have hall : ∀ later ∈ trigger :: rest, Idle unicode input later := by
          intro later hlater
          rcases List.mem_cons.mp hlater with rfl | hlater
          · exact hidle'
          · exact hidle later hlater
        intro other hother
        rcases List.mem_append.mp hother with hother | hother
        · exact ih hnext hall other hother
        · rw [List.mem_singleton] at hother
          subst hother
          rw [redactText_of_idle hnext hall, hbefore]
          cases hmay : mayMatch unicode input other with
          | true => exact hidle' hmay
          | false =>
              rw [hmay] at hspoils
              exact hspoils
      · -- the pattern was the last to change the text
        unfold Idle at hidle'
        rw [Classical.not_imp, not_not] at hidle'
        rcases hidle' with ⟨hmay, hoccurs⟩
        rw [if_pos hmay] at hspoils
        intro other hother
        rw [redactText_of_idle hsplit hidle, textAfter_append, hbefore]
        unfold filteredPass
        rw [if_pos hmay, occurs_pass_iff (hbefore ▸ hother) hoccurs]
        exact fun hrevives => hspoils ⟨other, hbefore ▸ hother, hrevives⟩

/-- A redacted text is a fixpoint without matches exactly when no pattern that is
followed only by patterns that change nothing leaves a match. -/
theorem fixed_iff (unicode : GoUnicode) (input : List Rune) :
    Fixed unicode input ↔
      ∀ trigger : Trigger, (∀ later ∈ trigger.after, Idle unicode input later) →
        ¬ Spoils unicode input trigger := by
  constructor
  · rintro ⟨-, hnone⟩ trigger hidle hspoils
    have hsplit : (trigger.before ++ [trigger]) ++ trigger.after = triggers := by
      rw [List.append_assoc]
      exact before_append_after trigger
    rw [redactText_of_idle hsplit hidle, textAfter_append] at hnone
    unfold Spoils at hspoils
    unfold filteredPass at hnone
    split at hspoils
    · rename_i hmay
      rcases hspoils with ⟨other, hother, hrevives⟩
      rw [if_pos hmay] at hnone
      have hoccurs : Occurs goAccepts trigger.re (textAfter unicode trigger.before input) := by
        by_contra hnot
        exact not_revives_of_not_occurs hnot hrevives
      exact hnone other ((occurs_pass_iff hother hoccurs).mpr hrevives)
    · rename_i hmay
      rw [if_neg hmay] at hnone
      exact hnone trigger hspoils
  · intro h
    have hnone : ∀ trigger : Trigger, ¬ Occurs goAccepts trigger.re (redactText unicode input) :=
      fun trigger => not_occurs_of_not_spoils h (List.append_nil triggers)
        (fun _ hmem => by cases hmem) trigger (mem_triggers trigger)
    exact ⟨redactText_of_none_occurs hnone, hnone⟩

end

/-! ## An address before a number -/

/-- A telephone number that follows an address ends it only when it has been replaced. -/
theorem email_revived :
    ¬ ∀ (unicode : GoUnicode) (input : List Rune),
      redactText unicode (redactText unicode input) = redactText unicode input := by
  intro h
  have hchanged : redactText plainUnicode (redactText plainUnicode (runes "a@b.co5551234567")) ≠
      redactText plainUnicode (runes "a@b.co5551234567") := by
    decide +kernel
  exact hchanged (h plainUnicode (runes "a@b.co5551234567"))

end AuthClaw.Redaction
