import AuthClaw.Library.CharClass

/-!
# The gateway's text redactor

The patterns of the Go gateway and {lit}`redactText`, which runs them one after the
other over the text.  Before each pattern a cheap test on the input decides whether
the pattern is worth running.  The statistics are left out.

A Go string is scanned rune by rune; a byte that begins no rune is scanned as the
replacement character.

Main results:

- Theorem {lit}`pass_of_not_occurs`: a pattern that occurs nowhere changes nothing.
-/

namespace AuthClaw.Redaction

open Regex CharClass

/-! ## Text -/

/-- What a Go string is scanned into. -/
inductive Rune where
  | char (c : Char)
  | invalid (b : UInt8)
deriving DecidableEq

/-- The code point the scanner sees. -/
def Rune.value : Rune → Char
  | .char c => c
  | .invalid _ => '\ufffd'

/-- A text literal. -/
def runes (text : String) : List Rune :=
  text.toList.map .char

/-- The simple case folding of the letters that occur in the patterns. -/
def goVariants (c : Char) : List Char :=
  [c.toLower, c.toUpper] ++
    (if c = 's' ∨ c = 'S' ∨ c = '\u017f' then ['s', 'S', '\u017f']
      else if c = 'k' ∨ c = 'K' ∨ c = '\u212a' then ['k', 'K', '\u212a']
      else [])

/-- The Perl classes of Go's expressions, which are ASCII. -/
def goTables : CharTables where
  isWord c := c.isAlphanum || c = '_'
  isDigit c := c.isDigit
  isSpace c := c = ' ' || c = '\t' || c = '\n' || c = '\x0c' || c = '\r'
  variants := goVariants

/-- A class accepts a rune. -/
def goAccepts (k : CharClass) (r : Rune) : Bool :=
  k.accepts goTables r.value

/-- `unicode.ToLower` beyond what the patterns depend on. -/
structure GoUnicode where
  toLower : Char → Char
  toLower_ascii : ∀ c : Char, c.toNat < 128 → toLower c = c.toLower
  toLower_kelvin : toLower '\u212a' = 'k'

/-! ## Patterns -/

/-- `[\s.-]?` -/
def phoneSeparator : Regex CharClass :=
  opt (.one { oneOf ".-" with space := true })

/-- `["']?` -/
def maybeQuote : Regex CharClass :=
  maybe "\"'"

/-- `[^\n\r]` -/
def notNewline : CharClass :=
  { oneOf "\n\r" with negated := true }

/-- `trigger` of a pattern. -/
inductive Trigger where
  | jwt
  | awsAccessKey
  | anthropicApiKey
  | openaiApiKey
  | sendgridApiKey
  | googleApiKey
  | authclawApiKey
  | bearerToken
  | azureOpenaiKey
  | cohereApiKey
  | secretAssignment
  | email
  | creditCard
  | phone
  | ssn
  | medicalIdentifier
  | phiContext
  | promptInjection
  | systemPrompt
  | hiddenMetadata
deriving DecidableEq

/-- The expression of a pattern. -/
def Trigger.regex : Trigger → Regex CharClass
  | .jwt => seqs [wordBoundary, caselessLits "eyJ", atLeast (alnumAnd "_-").caseless 8,
      lits ".", atLeast (alnumAnd "_-").caseless 8, lits ".",
      atLeast (alnumAnd "_-").caseless 8, wordBoundary]
  | .awsAccessKey => seqs [wordBoundary, lits "A", alts [lits "KIA", lits "SIA"],
      pow (.one { ranges := [('A', 'Z'), ('0', '9')] }) 16, wordBoundary]
  | .anthropicApiKey => seqs [wordBoundary, lits "sk-ant-", atLeast (alnumAnd "_-") 16,
      wordBoundary]
  | .openaiApiKey => seqs [wordBoundary, lits "sk-", atLeast (alnumAnd "_-") 16, wordBoundary]
  | .sendgridApiKey => seqs [wordBoundary, lits "SG.", atLeast (alnumAnd "_-") 10, lits ".",
      atLeast (alnumAnd "_-") 10, wordBoundary]
  | .googleApiKey => seqs [wordBoundary, lits "AIza", atLeast (alnumAnd "_-") 20, wordBoundary]
  | .authclawApiKey => seqs [wordBoundary, lits "ac_", atLeast (alnumAnd "_-") 20, wordBoundary]
  | .bearerToken => seqs [wordBoundary, caselessLits "Bearer", someSpaces,
      atLeast (alnumAnd "._~+/=-").caseless 16, wordBoundary]
  | .azureOpenaiKey => seqs [wordBoundary, caselessLits "azure", maybe "_-",
      caselessLits "openai", maybe "_-", opt (.seq (caselessLits "api") (maybe "_-")),
      caselessLits "key", spaces, .one (oneOf ":="), spaces, maybeQuote,
      atLeast (alnumAnd "._-").caseless 16, maybeQuote]
  | .cohereApiKey => seqs [wordBoundary, caselessLits "cohere", maybe "_-",
      opt (.seq (caselessLits "api") (maybe "_-")), caselessLits "key", spaces,
      .one (oneOf ":="), spaces, maybeQuote, atLeast (alnumAnd "._-").caseless 16, maybeQuote]
  | .secretAssignment => seqs [wordBoundary,
      alts [seqs [caselessLits "api", maybe "_-", caselessLits "key"], caselessLits "secret",
        seqs [caselessLits "access", maybe "_-", caselessLits "token"],
        seqs [caselessLits "refresh", maybe "_-", caselessLits "token"],
        caselessLits "password", seqs [caselessLits "client", maybe "_-", caselessLits "secret"]],
      spaces, .one (oneOf ":="), spaces, maybeQuote,
      atLeast (alnumAnd "._~+/=-").caseless 12, maybeQuote]
  | .email => seqs [wordBoundary, atLeast (alnumAnd "._%+-") 1, lits "@",
      atLeast (alnumAnd ".-") 1, lits ".",
      atLeast { ranges := [('A', 'Z'), ('a', 'z')] } 2, wordBoundary]
  | .creditCard => seqs [wordBoundary,
      between (.seq (.one digitClass) (.many (oneOf " -") false)) 13 19, wordBoundary]
  | .phone => seqs [
      opt (seqs [maybe "+", between (.one digitClass) 1 3, phoneSeparator]),
      maybe "(", between (.one digitClass) 3 5, maybe ")", phoneSeparator,
      between (.one digitClass) 3 5, phoneSeparator, between (.one digitClass) 3 6, wordBoundary]
  | .ssn => seqs [wordBoundary, pow (.one digitClass) 3, lits "-", pow (.one digitClass) 2,
      lits "-", pow (.one digitClass) 4, wordBoundary]
  | .medicalIdentifier => seqs [wordBoundary,
      alts [caselessLits "MRN", caselessLits "medical record", caselessLits "patient id",
        caselessLits "patient identifier"],
      spaces, maybe ":#=", spaces, atLeast (alnumAnd "-").caseless 5, wordBoundary]
  | .phiContext => seqs [wordBoundary,
      alts [caselessLits "patient", caselessLits "diagnosis", caselessLits "prescription",
        caselessLits "treatment plan", caselessLits "health history"],
      wordBoundary, upTo (.one notNewline) 120]
  | .promptInjection => seqs [wordBoundary,
      alts [seqs [caselessLits "ignore", someSpaces,
            opt (.seq (caselessLits "all") someSpaces),
            opt (.seq (caselessLits "previous") someSpaces), caselessLits "instructions"],
        seqs [caselessLits "reveal", someSpaces, caselessLits "system", someSpaces,
          caselessLits "prompt"],
        seqs [caselessLits "show", someSpaces, caselessLits "internal", someSpaces,
          caselessLits "system", someSpaces, caselessLits "prompts"],
        seqs [caselessLits "developer", someSpaces, caselessLits "mode"],
        caselessLits "jailbreak",
        seqs [caselessLits "bypass", someSpaces, caselessLits "policy"]],
      wordBoundary, upTo (.one notNewline) 120]
  | .systemPrompt => seqs [
      alts [seqs [caselessLits "system", someSpaces, caselessLits "prompt"],
        seqs [caselessLits "developer", someSpaces, caselessLits "message"],
        seqs [caselessLits "hidden", someSpaces, caselessLits "instruction"],
        seqs [caselessLits "internal", someSpaces, caselessLits "instruction"]],
      opt (caselessLits "s"), spaces, .one (oneOf ":="), spaces, atLeast notNewline 1]
  | .hiddenMetadata => seqs [maybe "\"",
      alts [caselessLits "hidden_metadata", caselessLits "policy_sensitive_metadata",
        caselessLits "internal_policy", caselessLits "system_prompt"],
      maybe "\"", spaces, lits ":", spaces, lits "\"",
      .many { oneOf "\"" with negated := true } true, lits "\""]

/-- The placeholder of a pattern. -/
def Trigger.replacement : Trigger → String
  | .jwt => "[REDACTED_JWT]"
  | .awsAccessKey => "[REDACTED_AWS_KEY]"
  | .anthropicApiKey => "[REDACTED_API_KEY]"
  | .openaiApiKey => "[REDACTED_API_KEY]"
  | .sendgridApiKey => "[REDACTED_API_KEY]"
  | .googleApiKey => "[REDACTED_API_KEY]"
  | .authclawApiKey => "[REDACTED_API_KEY]"
  | .bearerToken => "Bearer [REDACTED_TOKEN]"
  | .azureOpenaiKey => "[REDACTED_AZURE_OPENAI_KEY]"
  | .cohereApiKey => "[REDACTED_COHERE_KEY]"
  | .secretAssignment => "[REDACTED_SECRET_ASSIGNMENT]"
  | .email => "[REDACTED_EMAIL]"
  | .creditCard => "[REDACTED_FINANCIAL_IDENTIFIER]"
  | .phone => "[REDACTED_PHONE]"
  | .ssn => "[REDACTED_SSN]"
  | .medicalIdentifier => "[REDACTED_MEDICAL_IDENTIFIER]"
  | .phiContext => "[REDACTED_PHI_CONTEXT]"
  | .promptInjection => "[REDACTED_PROMPT_INJECTION]"
  | .systemPrompt => "[REDACTED_INTERNAL_PROMPT]"
  | .hiddenMetadata => "\"[REDACTED_METADATA]\""

/-- The patterns in the order of the redactor. -/
def triggers : List Trigger :=
  [.jwt, .awsAccessKey, .anthropicApiKey, .openaiApiKey, .sendgridApiKey, .googleApiKey,
    .authclawApiKey, .bearerToken, .azureOpenaiKey, .cohereApiKey, .secretAssignment, .email,
    .creditCard, .phone, .ssn, .medicalIdentifier, .phiContext, .promptInjection, .systemPrompt,
    .hiddenMetadata]

theorem Trigger.one_le_minLength (trigger : Trigger) : 1 ≤ trigger.regex.minLength := by
  cases trigger <;> decide +kernel

/-- `re` of a pattern. -/
def Trigger.re (trigger : Trigger) : Pattern CharClass :=
  Pattern.ofRegex trigger.regex trigger.one_le_minLength

/-! ## The redactor -/

/-- `countDigits` -/
def countDigits (input : List Rune) : Nat :=
  input.countP (fun r => '0' ≤ r.value && r.value ≤ '9')

/-- `strings.ToLower` -/
def lowerText (unicode : GoUnicode) (input : List Rune) : List Char :=
  input.map (fun r => unicode.toLower r.value)

/-- `redactionPatternMayMatch` -/
def redactionPatternMayMatch (trigger : Trigger) (input : List Rune) (lowerInput : List Char)
    (digitCount : Nat) : Bool :=
  let text := input.map Rune.value
  match trigger with
  | .jwt => containsText lowerInput "eyj" && 2 ≤ text.count '.'
  | .awsAccessKey => containsText text "AKIA" || containsText text "ASIA"
  | .anthropicApiKey => containsText lowerInput "sk-ant-"
  | .openaiApiKey => containsText lowerInput "sk-"
  | .sendgridApiKey => containsText text "SG."
  | .googleApiKey => containsText text "AIza"
  | .authclawApiKey => containsText lowerInput "ac_"
  | .bearerToken => containsText lowerInput "bearer"
  | .azureOpenaiKey => containsText lowerInput "azure"
  | .cohereApiKey => containsText lowerInput "cohere"
  | .secretAssignment =>
      text.any (fun c => c = ':' || c = '=') &&
        ["api", "key", "secret", "token", "password", "client"].any (containsText lowerInput)
  | .email => containsText text "@"
  | .creditCard => 13 ≤ digitCount
  | .phone => 10 ≤ digitCount
  | .ssn => 9 ≤ digitCount && containsText text "-"
  | .medicalIdentifier =>
      ["mrn", "medical record", "patient id", "patient identifier"].any (containsText lowerInput)
  | .phiContext =>
      ["patient", "diagnosis", "prescription", "treatment plan", "health history"].any
        (containsText lowerInput)
  | .promptInjection =>
      ["ignore", "reveal system prompt", "show internal", "developer mode", "jailbreak",
        "bypass policy"].any (containsText lowerInput)
  | .systemPrompt =>
      ["system prompt", "developer message", "hidden instruction", "internal instruction"].any
        (containsText lowerInput)
  | .hiddenMetadata =>
      ["hidden_metadata", "policy_sensitive_metadata", "internal_policy", "system_prompt"].any
        (containsText lowerInput)

/-- `ReplaceAllString` with the placeholder of a pattern. -/
def pass (text : List Rune) (trigger : Trigger) : List Rune :=
  replaceAll goAccepts trigger.re (fun _ => runes trigger.replacement) text

section

variable (unicode : GoUnicode)

/-- The test before a pattern is run on an input. -/
def mayMatch (input : List Rune) (trigger : Trigger) : Bool :=
  redactionPatternMayMatch trigger input (lowerText unicode input) (countDigits input)

/-- One turn of the loop of `redactText`. -/
def filteredPass (input text : List Rune) (trigger : Trigger) : List Rune :=
  if mayMatch unicode input trigger then pass text trigger else text

/-- `redactText` -/
def redactText (input : List Rune) : List Rune :=
  triggers.foldl (filteredPass unicode input) input

/-- A pattern that occurs nowhere changes nothing. -/
theorem pass_of_not_occurs {text : List Rune} {trigger : Trigger}
    (h : ¬ Occurs goAccepts trigger.re text) : pass text trigger = text :=
  replaceAll_of_not_occurs h _

end

end AuthClaw.Redaction
