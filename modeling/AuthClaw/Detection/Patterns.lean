import AuthClaw.Detection.Actions
import AuthClaw.Library.PythonRegex

/-!
# The recognizers of the detector

The table {lit}`custom_patterns` and what {lit}`finditer` finds with it.  The parts of
an expression are set so that its group, where it has one, is a part of its own.
-/

namespace AuthClaw.Detection

open Regex CharClass PythonText

/-! ## Classes -/

/-- `[A-Z]` -/
def upperClass : CharClass :=
  { ranges := [('A', 'Z')] }

/-- `[a-z]` -/
def lowerClass : CharClass :=
  { ranges := [('a', 'z')] }

/-- `[A-Za-z]` -/
def letterClass : CharClass :=
  { ranges := [('A', 'Z'), ('a', 'z')] }

/-- `[0-9]` -/
def numeralClass : CharClass :=
  { ranges := [('0', '9')] }

/-- `[A-Z0-9]` -/
def upperOrNumeral : CharClass :=
  { ranges := [('A', 'Z'), ('0', '9')] }

/-- `[\w]` with some further characters. -/
def wordAnd (chars : String) : CharClass :=
  { oneOf chars with word := true }

/-- `[-\s]?` -/
def maybeDashOrSpace : Regex CharClass :=
  opt (.one { oneOf "-" with space := true })

/-- `\d{n}` -/
def digits (n : Nat) : Regex CharClass :=
  pow (.one digitClass) n

/-- The words of a list in any case. -/
def caselessWords (words : List String) : Regex CharClass :=
  alts (words.map caselessLits)

/-- A character of a set in any case, or none. -/
def caselessMaybe (chars : String) : Regex CharClass :=
  opt (.one (oneOf chars).caseless)

/-- The numbers of the card brands. -/
def cardBrand : Regex CharClass :=
  seqs [wordBoundary,
    alts [seqs [lits "4", digits 12, opt (digits 3)],
      seqs [lits "5", .one { ranges := [('1', '5')] }, digits 14],
      seqs [lits "3", .one (oneOf "47"), digits 13],
      seqs [lits "6", alts [lits "011", seqs [lits "5", digits 2],
        seqs [lits "4", .one { ranges := [('4', '9')] }, digits 1]], digits 12]],
    wordBoundary]

/-- Four groups of four digits. -/
def cardDelimited : Regex CharClass :=
  seqs [wordBoundary, digits 4, maybe "- ", digits 4, maybe "- ", digits 4, maybe "- ", digits 4,
    wordBoundary]

/-- A number of the form `123-45-6789`. -/
def dashedSsn : Regex CharClass :=
  seqs [wordBoundary, digits 3, lits "-", digits 2, lits "-", digits 4, wordBoundary]

theorem one_le_cardBrand : 1 ≤ cardBrand.minLength := by
  decide +kernel

theorem one_le_cardDelimited : 1 ≤ cardDelimited.minLength := by
  decide +kernel

theorem one_le_dashedSsn : 1 ≤ dashedSsn.minLength := by
  decide +kernel

/-- A keyword, `=` or `:`, and an opening quote. -/
def assignment (keyword : List (Regex CharClass)) : Regex CharClass :=
  seqs (wordBoundary :: keyword ++ [spaces, .one (oneOf "=:").caseless, spaces,
    caselessMaybe "'\""])

/-- The value of an assignment. -/
def assignedValue : Regex CharClass :=
  atLeast (alnumAnd "._/+=-").caseless 8

/-- `\s*(?:is|:)\s*` after some words. -/
def introducedBy (words : List (Regex CharClass)) (marks : List (Regex CharClass)) :
    Regex CharClass :=
  seqs [wordBoundary, alts words, spaces, alts marks, spaces]

/-! ## The table -/

/-- A row of `custom_patterns`; the group is the number of a part. -/
structure CustomPattern where
  entityType : String
  parts : List (Regex CharClass)
  group : Nat
  confidence : Rat
  consuming : 1 ≤ (parts.map minLength).sum

/-- The compiled expression. -/
def CustomPattern.pattern (p : CustomPattern) : Pattern CharClass where
  parts := p.parts
  consuming := p.consuming

/-- A single part takes a character when its expression does. -/
theorem one_le_single {r : Regex CharClass} (h : 1 ≤ r.minLength) :
    1 ≤ ([r].map minLength).sum := by
  simpa using h

/-- A row whose expression has no group. -/
def ungrouped (entityType : String) (r : Regex CharClass) (confidence : Rat)
    (h : 1 ≤ r.minLength) : CustomPattern where
  entityType := entityType
  parts := [r]
  group := 0
  confidence := confidence
  consuming := one_le_single h

def emailPattern : CustomPattern :=
  ungrouped "email" (seqs [atLeast (wordAnd ".+-") 1, lits "@", atLeast (wordAnd ".-") 1, lits ".",
    atLeast letterClass 2]) (96 / 100) (by decide +kernel)

def phonePattern : CustomPattern :=
  ungrouped "phone" (seqs [.notAfter digitClass, opt (.seq (lits "+91") maybeDashOrSpace),
    .one { ranges := [('6', '9')] }, digits 9, .notBefore digitClass]) (88 / 100)
    (by decide +kernel)

def aadhaarPattern : CustomPattern :=
  ungrouped "aadhaar" (seqs [.notAfter digitClass, digits 4, maybeDashOrSpace, digits 4,
    maybeDashOrSpace, digits 4, .notBefore digitClass]) (98 / 100) (by decide +kernel)

def panPattern : CustomPattern :=
  ungrouped "pan" (seqs [wordBoundary, pow (.one upperClass) 5, pow (.one numeralClass) 4,
    .one upperClass, wordBoundary]) (98 / 100) (by decide +kernel)

def gstinPattern : CustomPattern :=
  ungrouped "gstin" (seqs [wordBoundary, pow (.one numeralClass) 2, pow (.one upperClass) 5,
    pow (.one numeralClass) 4, .one upperClass, .one { ranges := [('1', '9'), ('A', 'Z')] },
    lits "Z", .one { ranges := [('0', '9'), ('A', 'Z')] }, wordBoundary]) (98 / 100)
    (by decide +kernel)

def cardBrandPattern : CustomPattern :=
  ungrouped "credit_card" cardBrand (93 / 100) one_le_cardBrand

def cardDelimitedPattern : CustomPattern :=
  ungrouped "credit_card" cardDelimited (86 / 100) one_le_cardDelimited

def ssnPattern : CustomPattern :=
  ungrouped "ssn" dashedSsn (92 / 100) one_le_dashedSsn

def namePattern : CustomPattern where
  entityType := "name"
  parts := [
    introducedBy [lits "name", lits "full name", lits "patient name", lits "employee name"]
      [lits "is", lits ":"],
    seqs [.one upperClass, atLeast lowerClass 1,
      between (seqs [someSpaces, .one upperClass, atLeast lowerClass 1]) 1 3],
    wordBoundary]
  group := 1
  confidence := 82 / 100
  consuming := by decide +kernel

def addressPattern : CustomPattern where
  entityType := "address"
  parts := [
    introducedBy [caselessLits "address", caselessLits "home address",
      caselessLits "office address"] [caselessLits "is", caselessLits ":"],
    seqs [.one (alnumAnd "").caseless,
      between (.one { (alnumAnd ",.-/#").caseless with space := true }) 12 120]]
  group := 1
  confidence := 82 / 100
  consuming := by decide +kernel

def medicalNumberPattern : CustomPattern :=
  ungrouped "medical_identifier" (seqs [wordBoundary,
    caselessWords ["MR", "EMR", "PT", "PID", "PATIENT", "PATIENTID"], caselessMaybe "- ",
    between (.one digitClass) 4 10, wordBoundary]) (90 / 100) (by decide +kernel)

def medicalRecordPattern : CustomPattern where
  entityType := "medical_identifier"
  parts := [
    seqs [wordBoundary, caselessWords ["medical record", "patient id", "patient identifier"],
      spaces, opt (caselessWords ["number", "no", "id", "is", ":"]), spaces],
    between (.one (alnumAnd "_-").caseless) 4 16,
    wordBoundary]
  group := 1
  confidence := 88 / 100
  consuming := by decide +kernel

def accountPattern : CustomPattern where
  entityType := "financial_identifier"
  parts := [
    seqs [wordBoundary, caselessWords ["account number", "bank account", "routing number", "ifsc"],
      spaces, opt (caselessWords ["is", ":"]), spaces],
    between (.one (CharClass.caseless
      { ranges := [('A', 'Z'), ('0', '9'), ('_', '_'), ('-', '-')] })) 6 24,
    wordBoundary]
  group := 1
  confidence := 86 / 100
  consuming := by decide +kernel

def ifscPattern : CustomPattern :=
  ungrouped "financial_identifier" (seqs [wordBoundary, pow (.one upperClass) 4, lits "0",
    pow (.one upperOrNumeral) 6, wordBoundary]) (90 / 100) (by decide +kernel)

def openaiKeyPattern : CustomPattern :=
  ungrouped "openai_api_key" (seqs [wordBoundary, lits "sk-", .one (alnumAnd ""),
    atLeast (alnumAnd "_-") 15, wordBoundary]) (99 / 100) (by decide +kernel)

def googleKeyPattern : CustomPattern :=
  ungrouped "google_api_key" (seqs [wordBoundary, lits "AIza", atLeast (alnumAnd "_-") 20,
    wordBoundary]) (99 / 100) (by decide +kernel)

def awsKeyPattern : CustomPattern :=
  ungrouped "aws_access_key" (seqs [wordBoundary,
    alts [lits "AKIA", lits "ASIA", lits "AROA", lits "ANPA"], pow (.one upperOrNumeral) 16,
    wordBoundary]) (99 / 100) (by decide +kernel)

def jwtPattern : CustomPattern :=
  ungrouped "jwt_token" (seqs [wordBoundary, lits "eyJ", atLeast (alnumAnd "_-") 20, lits ".",
    atLeast (alnumAnd "_-") 1, lits ".", atLeast (alnumAnd "_-") 1, wordBoundary]) (99 / 100)
    (by decide +kernel)

def bearerPattern : CustomPattern :=
  ungrouped "bearer_token" (seqs [wordBoundary, caselessLits "Bearer", someSpaces,
    atLeast (alnumAnd "._~+/=-").caseless 20, wordBoundary]) (99 / 100) (by decide +kernel)

/-- A row for `keyword = value`. -/
def assignmentPattern (entityType : String) (keyword : List (Regex CharClass)) (confidence : Rat)
    (h : 1 ≤ ([assignment keyword, assignedValue, caselessMaybe "'\""].map minLength).sum) :
    CustomPattern where
  entityType := entityType
  parts := [assignment keyword, assignedValue, caselessMaybe "'\""]
  group := 1
  confidence := confidence
  consuming := h

def apiKeyParamPattern : CustomPattern :=
  assignmentPattern "api_key_param" [caselessLits "api", caselessMaybe "_-", caselessLits "key"]
    (94 / 100) (by decide +kernel)

def secretParamPattern : CustomPattern :=
  assignmentPattern "secret_param" [caselessLits "secret"] (94 / 100) (by decide +kernel)

def tokenParamPattern : CustomPattern :=
  assignmentPattern "token_param" [caselessLits "token"] (94 / 100) (by decide +kernel)

def accessTokenPattern : CustomPattern :=
  assignmentPattern "access_token"
    [caselessLits "access", caselessMaybe "_-", caselessLits "token"] (96 / 100)
    (by decide +kernel)

def privateKeyPattern : CustomPattern :=
  assignmentPattern "private_key"
    [caselessLits "private", caselessMaybe "_-", caselessLits "key"] (96 / 100)
    (by decide +kernel)

/-- `custom_patterns` -/
def customPatterns : List CustomPattern :=
  [emailPattern, phonePattern, aadhaarPattern, panPattern, gstinPattern, cardBrandPattern,
    cardDelimitedPattern, ssnPattern, namePattern, addressPattern, medicalNumberPattern,
    medicalRecordPattern, accountPattern, ifscPattern, openaiKeyPattern, googleKeyPattern,
    awsKeyPattern, jwtPattern, bearerPattern, apiKeyParamPattern, secretParamPattern,
    tokenParamPattern, accessTokenPattern, privateKeyPattern]

/-! ## What a pattern finds -/

/-- The finding of a match at a position. -/
def CustomPattern.finding (p : CustomPattern) (i : Nat) (groups : List (List Char)) :
    SensitiveFinding where
  entityType := p.entityType
  start := i + (groups.take p.group).flatten.length
  stop := i + (groups.take p.group).flatten.length + (groups.getD p.group []).length
  value := groups.getD p.group []
  confidence := p.confidence
  source := "custom"
  valid := Nat.le_add_right _ _

/-- The findings of a scan that goes on at a position. -/
def findingsFrom (p : CustomPattern) : Nat → List (Token Char) → List SensitiveFinding
  | _, [] => []
  | i, .skip _ :: toks => findingsFrom p (i + 1) toks
  | i, .hit groups :: toks =>
      p.finding i groups :: findingsFrom p (i + groups.flatten.length) toks

/-- What `finditer` finds with a pattern. -/
def findingsOf (unicode : PyUnicode) (p : CustomPattern) (text : List Char) :
    List SensitiveFinding :=
  findingsFrom p 0 (tokens unicode.accepts p.pattern text)

/-- `_custom_findings` -/
def customFindings (unicode : PyUnicode) (text : List Char) : List SensitiveFinding :=
  customPatterns.flatMap (fun p => findingsOf unicode p text)

end AuthClaw.Detection
