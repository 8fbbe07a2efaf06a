import AuthClaw.Detection.Patterns
import AuthClaw.Documents.Tables
import AuthClaw.Library.Bisect
import AuthClaw.Library.Firsts
import AuthClaw.Library.JsonText

/-!
# The scanner of documents

{lit}`scan_text_for_sensitive_data` goes over a text with each of its patterns, notes a
shortened preview of what it finds and the line where the match begins, and keeps the first of
the findings that look the same.  Are two values ever one finding?

They are when their previews are the same, and a value that stands on a later line than its
keyword is reported on the line of the keyword.

Main results:

- Theorem {lit}`lineNumber_eq`: the binary search counts the line breaks up to the offset.
- Theorem {lit}`filter_scanText`: what the scan keeps of one pattern.
- Theorem {lit}`lineNumber_start_iff`: when the line of a match is the line of its value.
- Theorem {lit}`one_for_each_value_iff`: a pattern has one finding for each value exactly when
  its previews tell the values apart and no line break stands before a value in its match.
-/

namespace AuthClaw.Documents.Scanning

open Regex CharClass PythonText AuthClaw.Detection Firsts

/-! ## Patterns -/

/-- One of the compiled expressions, with what is noted of a match. -/
structure Scanner where
  pattern : Pattern CharClass
  /-- The number of the part that is the value. -/
  group : Nat
  /-- Whether values that were redacted before are passed over. -/
  skipsRedacted : Bool
  /-- The length from which on a value is shortened. -/
  longest : Nat
  /-- The number of characters that are shown of a shortened value at each end. -/
  shown : Nat
  findingType : String
  matchedPattern : String
  riskLevel : RiskLevel
  priority : String
  recommendation : String
  impact : String

/-- What is noted of the matches of a pattern. -/
structure Details where
  findingType : String
  severity : RiskLevel
  priority : String
  recommendation : String
  impact : String

/-- The mapping of the keys of `PATTERNS`. -/
def detailsOf (key : String) : Details :=
  if key ∈ ["openai_api_key", "google_api_key", "aws_access_key", "jwt_token", "bearer_token"] then
    ⟨"Secret", .critical, "P1",
      "Revoke this key immediately from the cloud console and rotate secrets.",
      "Unauthorized access to API keys, leading to potential data breach or cloud resource hijack."⟩
  else if key ∈ ["credit_card", "bank_routing"] then
    ⟨"Financial", .high, "P1",
      "Mask the payment/routing identifier to maintain PCI-DSS compliance.",
      "Exposure of credit card or bank routing numbers leading to PCI-DSS compliance violation."⟩
  else if key = "conn_string" then
    ⟨"Credentials", .critical, "P1",
      "Exposed database connection credential. Rotate password immediately.",
      "Exposed credentials leading to unauthorized database access."⟩
  else if key ∈ ["ssn", "aadhaar", "pan"] then
    ⟨"PII", .high, "P1", "Redact sensitive personal tax/identity numbers immediately.",
      "Exposure of tax identifiers violating data security standards."⟩
  else
    ⟨"PII", .medium, "P2", "Redact this value or restrict document access permissions.",
      "Exposure of Personally Identifiable Information leading to GDPR compliance violation and " ++
        "fines."⟩

/-- A row of `PATTERNS`. -/
def primary (key : String) (r : Regex CharClass) (h : 1 ≤ r.minLength) : Scanner where
  pattern := ⟨[r], one_le_single h⟩
  group := 0
  skipsRedacted := false
  longest := 20
  shown := 6
  findingType := (detailsOf key).findingType
  matchedPattern := asciiUpper key
  riskLevel := (detailsOf key).severity
  priority := (detailsOf key).priority
  recommendation := (detailsOf key).recommendation
  impact := (detailsOf key).impact

/-- A row of `CONTEXT_PATTERNS`: the keyword, the value and a closing quote. -/
def context (key label : String) (keyword : List (Regex CharClass)) (value : Regex CharClass)
    (h : 1 ≤ ([assignment keyword, value, caselessMaybe "'\""].map minLength).sum) : Scanner where
  pattern := ⟨[assignment keyword, value, caselessMaybe "'\""], h⟩
  group := 1
  skipsRedacted := true
  longest := 12
  shown := 4
  findingType := if key = "aws_secret_key" then "Secret" else "Credentials"
  matchedPattern := (asciiUpper label).map (fun c => if c = ' ' then '_' else c)
  riskLevel := if key = "aws_secret_key" then .critical else .high
  priority := "P1"
  recommendation :=
    if key = "aws_secret_key" then "AWS account compromised. Rotate credentials immediately."
    else "Do not store passwords in plaintext configuration files."
  impact :=
    if key = "aws_secret_key" then "Potential total compromise of AWS cloud infrastructure."
    else "Access credentials leaked in plaintext, leading to identity hijack."

def email : Scanner :=
  primary "email" (seqs [wordBoundary, atLeast (alnumAnd "._%+-") 1, lits "@",
    atLeast (alnumAnd ".-") 1, lits ".", atLeast letterClass 2, wordBoundary]) (by decide +kernel)

def phone : Scanner :=
  primary "phone" (seqs [wordBoundary,
    opt (seqs [lits "+", between (.one digitClass) 1 3, maybe "- "]), maybe "(", digits 3,
    maybe ")", maybe "- ", digits 3, maybe "- ", digits 4, wordBoundary]) (by decide +kernel)

def ssn : Scanner :=
  primary "ssn" (.alt dashedSsn (seqs [wordBoundary, digits 9, wordBoundary])) (by decide +kernel)

def aadhaar : Scanner :=
  primary "aadhaar" (seqs [wordBoundary, digits 4, .one spaceClass, digits 4, .one spaceClass,
    digits 4, wordBoundary]) (by decide +kernel)

def pan : Scanner :=
  primary "pan" (seqs [wordBoundary, pow (.one letterClass) 5, digits 4, .one letterClass,
    wordBoundary]) (by decide +kernel)

def creditCard : Scanner :=
  primary "credit_card" (.alt cardBrand cardDelimited) (by decide +kernel)

def bankRouting : Scanner :=
  primary "bank_routing" (seqs [wordBoundary, digits 9, wordBoundary]) (by decide +kernel)

def openaiApiKey : Scanner :=
  primary "openai_api_key" (seqs [wordBoundary, lits "sk-", atLeast (alnumAnd "-_") 8,
    wordBoundary]) (by decide +kernel)

def googleApiKey : Scanner :=
  primary "google_api_key" (seqs [wordBoundary, lits "AIza", atLeast (alnumAnd "-_") 20,
    wordBoundary]) (by decide +kernel)

/-- The identifier of an access key. -/
def accessKeyId : Regex CharClass :=
  seqs [wordBoundary, alts [lits "AKIA", lits "ASIA", lits "AROA", lits "ANPA"],
    pow (.one upperOrNumeral) 16, wordBoundary]

def awsAccessKey : Scanner :=
  primary "aws_access_key" accessKeyId (by decide +kernel)

def jwtToken : Scanner :=
  primary "jwt_token" (seqs [wordBoundary, lits "eyJ", atLeast (alnumAnd "-_=") 20, lits ".",
    atLeast (alnumAnd "-_=") 1, lits ".", atLeast (alnumAnd "-_=") 1, wordBoundary])
    (by decide +kernel)

def bearerToken : Scanner :=
  primary "bearer_token" (seqs [wordBoundary, lits "Bearer", someSpaces,
    atLeast (alnumAnd "-_.~+/") 8, upTo (lits "=") 2, wordBoundary]) (by decide +kernel)

def connString : Scanner :=
  primary "conn_string" (seqs [wordBoundary,
    caselessWords ["postgresql", "mongodb", "mysql", "mssql", "redis", "amqp"],
    caselessLits "://", atLeast (alnumAnd "-_").caseless 1, caselessLits ":",
    atLeast { (oneOf "@").caseless with space := true, negated := true } 1, caselessLits "@",
    atLeast (alnumAnd "-_.:").caseless 1, opt (caselessLits "/"),
    .many (alnumAnd "-_").caseless true, wordBoundary]) (by decide +kernel)

def awsSecretKey : Scanner :=
  context "aws_secret_key" "AWS Secret Key"
    [alts [seqs [caselessLits "aws", caselessMaybe "_-", caselessLits "secret"],
      seqs [caselessLits "secret", caselessMaybe "_-", caselessLits "key"],
      caselessLits "aws_key"]]
    (pow (.one (alnumAnd "/+=").caseless) 40) (by decide +kernel)

def passwordLeak : Scanner :=
  context "password_leak" "Exposed Password/Secret"
    [caselessWords ["password", "passwd", "secret", "token", "client_secret"]]
    (between (.one (alnumAnd "-_.~!@#$%^&*()_+").caseless) 8 24) (by decide +kernel)

/-- `PATTERNS` -/
def patterns : List Scanner :=
  [email, phone, ssn, aadhaar, pan, creditCard, bankRouting, openaiApiKey, googleApiKey,
    awsAccessKey, jwtToken, bearerToken, connString]

/-- `CONTEXT_PATTERNS` -/
def contextPatterns : List Scanner :=
  [awsSecretKey, passwordLeak]

/-! ## The scan -/

/-- `newline_offsets` -/
def newlineOffsets (text : List Char) : List Nat :=
  (text.zipIdx.filter (fun entry => entry.1 = '\n')).map Prod.snd

/-- `line_number` -/
def lineNumber (text : List Char) (offset : Nat) : Nat :=
  Bisect.bisectRight (newlineOffsets text) offset + 1

/-- A match, with the offset where it begins. -/
structure ScanMatch where
  start : Nat
  groups : List (List Char)
deriving DecidableEq

/-- The matches of a scan that goes on at an offset. -/
def hitsFrom : Nat → List (Token Char) → List ScanMatch
  | _, [] => []
  | i, .skip _ :: toks => hitsFrom (i + 1) toks
  | i, .hit groups :: toks => ⟨i, groups⟩ :: hitsFrom (i + groups.flatten.length) toks

/-- Whether a value was redacted before. -/
def redacted (value : List Char) : Bool :=
  containsText value "[REDACTED]" || containsText value "******"

/-- What identifies a finding. -/
def signature (f : ScanFinding) : String × String × String :=
  (f.findingType, f.matchedPattern, f.matchedText)

namespace Scanner

variable (s : Scanner) (unicode : PyUnicode) (text : List Char)

/-- `regex.finditer(text)` -/
def finditer : List ScanMatch :=
  hitsFrom 0 (tokens unicode.accepts s.pattern text)

/-- The part of a match before its value. -/
def leadOf (m : ScanMatch) : List Char :=
  (m.groups.take s.group).flatten

/-- `match.group(0)`, or `match.group(1)` of a context pattern. -/
def valueOf (m : ScanMatch) : List Char :=
  m.groups.getD s.group []

/-- The matches that are reported. -/
def reported : List ScanMatch :=
  (s.finditer unicode text).filter (fun m => !(s.skipsRedacted && redacted (s.valueOf m)))

/-- The preview of a value. -/
def preview (value : List Char) : List Char :=
  if s.longest < value.length then
    value.take s.shown ++ "...".toList ++ value.drop (value.length - s.shown)
  else value

/-- What is noted of a value on a line. -/
def finding (value : List Char) (line : Nat) : ScanFinding where
  findingType := s.findingType
  matchedPattern := s.matchedPattern
  matchedText := String.ofList (s.preview value)
  riskLevel := s.riskLevel
  recommendation := s.recommendation
  impact := s.impact
  priority := s.priority
  locationEvidence := "Line " ++ line.repr

/-- The findings of one pattern. -/
def findings : List ScanFinding :=
  (s.reported unicode text).map (fun m => s.finding (s.valueOf m) (lineNumber text m.start))

end Scanner

/-- `scan_text_for_sensitive_data` -/
def scanTextForSensitiveData (unicode : PyUnicode) (text : String) : List ScanFinding :=
  firsts signature
    ((patterns ++ contextPatterns).flatMap (fun s => s.findings unicode text.toList))

/-! ## Lines -/

/-- The line of a position: one more than the line breaks before it. -/
def lineAt (text : List Char) (i : Nat) : Nat :=
  (text.take i).count '\n' + 1

section

variable {text : List Char}

theorem pairwise_newlineOffsets : (newlineOffsets text).Pairwise (· ≤ ·) := by
  have hsub : (newlineOffsets text).Sublist (text.zipIdx.map Prod.snd) :=
    List.filter_sublist.map Prod.snd
  rw [List.zipIdx_map_snd] at hsub
  exact (List.pairwise_le_range' (s := 0)).sublist hsub

/-- Of the line breaks of a text that begins at an offset so many are not behind another one. -/
theorem countP_zipIdx (n k : Nat) :
    (text.zipIdx n).countP (fun entry => entry.2 ≤ n + k && entry.1 = '\n') =
      (text.take (k + 1)).count '\n' := by
  induction text generalizing n k with
  | nil => rfl
  | cons c rest ih =>
      have hhead : (decide (n ≤ n + k) && decide (c = '\n')) = (c == '\n') := by
        rw [decide_eq_true (Nat.le_add_right n k), Bool.true_and]
        rfl
      rw [List.zipIdx_cons, List.countP_cons, List.take_succ_cons, List.count_cons, hhead]
      refine congrArg (fun later => later + _) ?_
      cases k with
      | zero =>
          rw [List.take_zero, List.count_nil, List.countP_eq_zero]
          intro entry hentry hboth
          have hle := List.le_snd_of_mem_zipIdx hentry
          have hbehind := of_decide_eq_true (Bool.and_eq_true_iff.mp hboth).1
          omega
      | succ k =>
          rw [← ih (n + 1) k, Nat.add_right_comm n 1 k, Nat.add_assoc n k 1]

/-- The binary search counts the line breaks up to the offset. -/
theorem lineNumber_eq (offset : Nat) : lineNumber text offset = lineAt text (offset + 1) := by
  unfold lineNumber lineAt
  rw [Bisect.bisectRight_eq_countP pairwise_newlineOffsets]
  unfold newlineOffsets
  rw [List.countP_map, List.countP_filter, ← countP_zipIdx 0 offset, Nat.zero_add]
  rfl

end

/-! ## Matches -/

theorem mem_hitsFrom {i : Nat} {toks : List (Token Char)} {m : ScanMatch}
    (h : m ∈ hitsFrom i toks) :
    ∃ before after, toks = before ++ .hit m.groups :: after ∧
      m.start = i + (before.flatMap Token.text).length := by
  induction toks generalizing i with
  | nil => cases h
  | cons token toks ih =>
      have hlater : ∀ j, j = i + (Token.text token).length → m ∈ hitsFrom j toks →
          ∃ before after, token :: toks = before ++ .hit m.groups :: after ∧
            m.start = i + (before.flatMap Token.text).length := by
        intro j hj hmem
        rcases ih hmem with ⟨before, after, rfl, hstart⟩
        refine ⟨token :: before, after, rfl, ?_⟩
        rw [hstart, hj, List.flatMap_cons, List.length_append, Nat.add_assoc]
      cases token with
      | skip a => exact hlater _ rfl h
      | hit us =>
          rcases List.mem_cons.mp h with rfl | h
          · exact ⟨[], toks, rfl, rfl⟩
          · exact hlater _ rfl h

/-- The pattern begins every match with a character that is no line break. -/
def beginsWithinLine (s : Scanner) : Bool :=
  match s.pattern.parts with
  | [] => false
  | r :: _ => (r.heads 1).all (fun ks =>
      !ks.isEmpty && ks.all (fun k => !k.accepts asciiTables '\n'))

theorem all_beginWithinLine : (patterns ++ contextPatterns).all beginsWithinLine = true := by
  decide +kernel

section

variable {s : Scanner} {unicode : PyUnicode} {text : List Char} {m : ScanMatch}

/-- A match is a part of the text, at its offset. -/
theorem finditer_spec (h : m ∈ s.finditer unicode text) :
    ∃ before after, text = before ++ (m.groups.flatten ++ after) ∧ m.start = before.length ∧
      ∃ p q, MatchesParts unicode.accepts s.pattern.parts p m.groups q := by
  rcases mem_hitsFrom h with ⟨before, after, htoks, hstart⟩
  have hscan := @scan_tokens _ _ unicode.accepts s.pattern text
  refine ⟨before.flatMap Token.text, after.flatMap Token.text, ?_, ?_, ?_⟩
  · conv_lhs => rw [← hscan.flatMap_text, htoks, List.flatMap_append, List.flatMap_cons]
    rfl
  · rw [hstart, Nat.zero_add]
  · refine hscan.matches_of_mem ?_
    rw [htoks]
    exact List.mem_append_right _ List.mem_cons_self

/-- A match does not begin with a line break. -/
theorem first_ne_newline (hs : s ∈ patterns ++ contextPatterns)
    (h : m ∈ s.finditer unicode text) : ∃ c rest, m.groups.flatten = c :: rest ∧ c ≠ '\n' := by
  rcases finditer_spec h with ⟨-, -, -, -, p, q, hparts⟩
  have hbegins := List.all_eq_true.mp all_beginWithinLine s hs
  unfold beginsWithinLine at hbegins
  cases hcase : s.pattern.parts with
  | nil =>
      rw [hcase] at hbegins
      cases hbegins
  | cons r rs =>
      rw [hcase] at hbegins hparts
      rcases hparts with ⟨u, vs, hgroups, hmatch, -⟩
      rcases hmatch.exists_head 1 with ⟨ks, hks, hspells⟩
      have hhead := Bool.and_eq_true_iff.mp (List.all_eq_true.mp hbegins ks hks)
      cases u with
      | nil =>
          have hlength := hspells.length_eq
          rw [List.take_nil, List.length_nil, List.length_eq_zero_iff] at hlength
          rw [hlength] at hhead
          cases hhead.1
      | cons c u =>
          refine ⟨c, u ++ vs.flatten, by rw [hgroups]; rfl, ?_⟩
          rintro rfl
          cases hspells with
          | cons hacc _ =>
              rw [accepts_ascii (by decide)] at hacc
              have hrejects := List.all_eq_true.mp hhead.2 _ List.mem_cons_self
              rw [hacc] at hrejects
              cases hrejects

/-- The line of a match is that of its value exactly when no line break stands before the value
in the match. -/
theorem lineNumber_start_iff (hs : s ∈ patterns ++ contextPatterns)
    (h : m ∈ s.finditer unicode text) :
    lineNumber text m.start = lineAt text (m.start + (s.leadOf m).length) ↔
      '\n' ∉ s.leadOf m := by
  rcases first_ne_newline hs h with ⟨c, rest, hfirst, hbreak⟩
  rcases finditer_spec h with ⟨before, after, htext, hstart, -⟩
  have hsplit : m.groups.flatten = s.leadOf m ++ (m.groups.drop s.group).flatten := by
    unfold Scanner.leadOf
    rw [← List.flatten_append, List.take_append_drop]
  have hline : lineNumber text m.start = before.count '\n' + 1 := by
    rw [lineNumber_eq, htext, hfirst, hstart]
    unfold lineAt
    rw [List.take_length_add_append, List.count_append, List.cons_append, List.take_succ_cons,
      List.take_zero, List.count_singleton, beq_false_of_ne hbreak]
    rfl
  have hplace : lineAt text (m.start + (s.leadOf m).length) =
      before.count '\n' + (s.leadOf m).count '\n' + 1 := by
    unfold lineAt
    rw [htext, hsplit, hstart, List.take_length_add_append, List.count_append, List.append_assoc,
      List.take_left]
  rw [hline, hplace, ← List.count_eq_zero]
  omega

end

/-! ## What is kept -/

/-- The patterns are noted under different names. -/
theorem nodup_matchedPattern :
    ((patterns ++ contextPatterns).map Scanner.matchedPattern).Nodup := by
  decide +kernel

section

variable {s : Scanner} {unicode : PyUnicode} {text : List Char} {m : ScanMatch}

theorem matchedPattern_of_mem_findings {f : ScanFinding} (h : f ∈ s.findings unicode text) :
    f.matchedPattern = s.matchedPattern := by
  rcases List.mem_map.mp h with ⟨m, -, rfl⟩
  rfl

/-- Of the findings of several patterns those under one name are of one pattern. -/
theorem filter_flatMap_findings {scanners : List Scanner}
    (hnames : (scanners.map Scanner.matchedPattern).Nodup) (hs : s ∈ scanners) :
    (scanners.flatMap (fun s => s.findings unicode text)).filter
        (fun f => f.matchedPattern = s.matchedPattern) = s.findings unicode text := by
  have hown : ∀ s' : Scanner, s'.matchedPattern = s.matchedPattern →
      (s'.findings unicode text).filter (fun f => f.matchedPattern = s.matchedPattern) =
        s'.findings unicode text := by
    intro s' hname
    refine List.filter_eq_self.mpr ?_
    intro f hf
    exact decide_eq_true ((matchedPattern_of_mem_findings hf).trans hname)
  have hother : ∀ s' : Scanner, s'.matchedPattern ≠ s.matchedPattern →
      (s'.findings unicode text).filter (fun f => f.matchedPattern = s.matchedPattern) = [] := by
    intro s' hname
    refine List.filter_eq_nil_iff.mpr ?_
    intro f hf hsame
    exact hname ((matchedPattern_of_mem_findings hf).symm.trans (of_decide_eq_true hsame))
  induction scanners with
  | nil => cases hs
  | cons first rest ih =>
      rw [List.map_cons, List.nodup_cons] at hnames
      rw [List.flatMap_cons, List.filter_append]
      rcases List.mem_cons.mp hs with rfl | hs
      · rw [hown s rfl, List.filter_flatMap, List.flatMap_eq_nil_iff.mpr, List.append_nil]
        intro s' hs'
        refine hother s' ?_
        intro hname
        exact hnames.1 (hname ▸ List.mem_map_of_mem hs')
      · rw [ih hnames.2 hs, hother first, List.nil_append]
        intro hname
        exact hnames.1 (hname ▸ List.mem_map_of_mem hs)

/-- What the scan keeps of one pattern: the first match of each preview. -/
theorem filter_scanText (hs : s ∈ patterns ++ contextPatterns) (text : String) :
    (scanTextForSensitiveData unicode text).filter
        (fun f => f.matchedPattern = s.matchedPattern) =
      (firsts (s.preview ∘ s.valueOf) (s.reported unicode text.toList)).map
        (fun m => s.finding (s.valueOf m) (lineNumber text.toList m.start)) := by
  have hfilter := @filter_firsts _ _ _ signature
    ((patterns ++ contextPatterns).flatMap (fun s => s.findings unicode text.toList))
    (fun key => key.2.1 = s.matchedPattern)
  have hkeys : ∀ m ∈ s.reported unicode text.toList, ∀ n ∈ s.reported unicode text.toList,
      (signature ∘ fun m => s.finding (s.valueOf m) (lineNumber text.toList m.start)) m =
          (signature ∘ fun m => s.finding (s.valueOf m) (lineNumber text.toList m.start)) n ↔
        (s.preview ∘ s.valueOf) m = (s.preview ∘ s.valueOf) n := by
    intro m _ n _
    simp only [Function.comp_apply, signature, Scanner.finding, Prod.mk.injEq, true_and,
      String.ofList_inj]
  unfold scanTextForSensitiveData
  refine hfilter.trans ?_
  have hname : (fun key : String × String × String => decide (key.2.1 = s.matchedPattern)) ∘
      signature = fun f => decide (f.matchedPattern = s.matchedPattern) := rfl
  rw [hname, filter_flatMap_findings nodup_matchedPattern hs]
  unfold Scanner.findings
  rw [firsts_map, firsts_congr hkeys]

theorem line_inj {a b : Nat} (h : "Line " ++ a.repr = "Line " ++ b.repr) : a = b := by
  have hdigits := congrArg String.toList h
  rw [String.toList_append, String.toList_append] at hdigits
  exact JsonText.nat_repr_toList_inj (List.append_cancel_left hdigits)

/-! ## One finding for each value -/

/-- The scan has one finding of the pattern for each value, on the line of the value where it is
matched first. -/
def OneForEachValue (unicode : PyUnicode) (s : Scanner) (text : String) : Prop :=
  ((scanTextForSensitiveData unicode text).filter
      (fun f => f.matchedPattern = s.matchedPattern)).Perm
    ((firsts s.valueOf (s.reported unicode text.toList)).map (fun m =>
      s.finding (s.valueOf m) (lineAt text.toList (m.start + (s.leadOf m).length))))

/-- The previews tell the values apart, and no line break stands before a value in the match
where it is found first. -/
structure TellsApart (unicode : PyUnicode) (s : Scanner) (text : List Char) : Prop where
  previews : ∀ m ∈ s.reported unicode text, ∀ n ∈ s.reported unicode text,
    s.preview (s.valueOf m) = s.preview (s.valueOf n) → s.valueOf m = s.valueOf n
  lines : ∀ m ∈ firsts s.valueOf (s.reported unicode text), '\n' ∉ s.leadOf m

/-- Previews that tell the values apart keep what the values keep. -/
theorem firsts_preview
    (hpreviews : ∀ m ∈ s.reported unicode text, ∀ n ∈ s.reported unicode text,
      s.preview (s.valueOf m) = s.preview (s.valueOf n) → s.valueOf m = s.valueOf n) :
    firsts (s.preview ∘ s.valueOf) (s.reported unicode text) =
      firsts s.valueOf (s.reported unicode text) := by
  refine firsts_congr ?_
  intro m hm n hn
  exact ⟨hpreviews m hm n hn, fun hsame => congrArg s.preview hsame⟩

/-- As many findings as values are possible only with a preview for each of them. -/
theorem OneForEachValue.previews (hs : s ∈ patterns ++ contextPatterns) {text : String}
    (h : OneForEachValue unicode s text) :
    ∀ m ∈ s.reported unicode text.toList, ∀ n ∈ s.reported unicode text.toList,
      s.preview (s.valueOf m) = s.preview (s.valueOf n) → s.valueOf m = s.valueOf n := by
  have hlength := List.Perm.length_eq h
  rw [filter_scanText hs, List.length_map, List.length_map] at hlength
  exact length_firsts_comp_iff.mp hlength

theorem mem_finditer_of_mem_firsts (h : m ∈ firsts s.valueOf (s.reported unicode text)) :
    m ∈ s.finditer unicode text :=
  List.mem_of_mem_filter (mem_of_mem_firsts h)

end

/-- The scan has one finding of a pattern for each value, on its line, exactly when the previews
tell the values apart and no line break stands before a value in its match. -/
theorem one_for_each_value_iff (unicode : PyUnicode) (s : Scanner)
    (hs : s ∈ patterns ++ contextPatterns) (text : String) :
    OneForEachValue unicode s text ↔ TellsApart unicode s text.toList := by
  constructor
  · intro h
    have hpreviews := h.previews hs
    unfold OneForEachValue at h
    rw [filter_scanText hs, firsts_preview hpreviews] at h
    refine ⟨hpreviews, ?_⟩
    intro m hm
    -- the finding of a value is the only one with its preview
    rcases List.mem_map.mp (h.mem_iff.mp (List.mem_map_of_mem hm)) with ⟨n, hn, hsame⟩
    have hpreview : s.preview (s.valueOf n) = s.preview (s.valueOf m) :=
      String.ofList_inj.mp (congrArg ScanFinding.matchedText hsame)
    have hvalue := hpreviews n (mem_of_mem_firsts hn) m (mem_of_mem_firsts hm) hpreview
    have hmatch := eq_of_mem_firsts hn hm hvalue
    subst hmatch
    exact (lineNumber_start_iff hs (mem_finditer_of_mem_firsts hn)).mp
      (line_inj (congrArg ScanFinding.locationEvidence hsame).symm)
  · intro h
    unfold OneForEachValue
    rw [filter_scanText hs, firsts_preview h.previews]
    refine List.Perm.of_eq (List.map_congr_left ?_)
    intro m hm
    rw [(lineNumber_start_iff hs (mem_finditer_of_mem_firsts hm)).mpr (h.lines m hm)]

theorem openaiApiKey_mem : openaiApiKey ∈ patterns ++ contextPatterns := by
  refine List.mem_append_left _ ?_
  unfold patterns
  simp only [List.mem_cons, true_or, or_true]

/-- A key that stands twice in a text is one finding. -/
theorem one_for_a_key_twice :
    openaiApiKey ∈ patterns ++ contextPatterns ∧
      OneForEachValue asciiUnicode openaiApiKey "sk-abcdefgh sk-abcdefgh" := by
  refine ⟨openaiApiKey_mem, (one_for_each_value_iff asciiUnicode openaiApiKey openaiApiKey_mem
    "sk-abcdefgh sk-abcdefgh").mpr ⟨?_, ?_⟩⟩
  · have hall : (openaiApiKey.reported asciiUnicode "sk-abcdefgh sk-abcdefgh".toList).all
        (fun m => openaiApiKey.valueOf m = "sk-abcdefgh".toList) = true := by
      decide +kernel
    intro m hm n hn _
    exact (of_decide_eq_true (List.all_eq_true.mp hall m hm)).trans
      (of_decide_eq_true (List.all_eq_true.mp hall n hn)).symm
  · intro m _
    exact List.not_mem_nil

/-- Two keys with the same ends are one finding. -/
theorem keys_merged :
    ¬∀ (unicode : PyUnicode) (s : Scanner), s ∈ patterns ++ contextPatterns →
      ∀ text : String, OneForEachValue unicode s text := by
  intro h
  have hpreviews := (h asciiUnicode openaiApiKey openaiApiKey_mem
    "sk-aaaaaaaaabbaaaaaaaaa sk-aaaaaaaaaccaaaaaaaaa").previews openaiApiKey_mem
  have hfirst : ⟨0, ["sk-aaaaaaaaabbaaaaaaaaa".toList]⟩ ∈ openaiApiKey.reported asciiUnicode
      "sk-aaaaaaaaabbaaaaaaaaa sk-aaaaaaaaaccaaaaaaaaa".toList := by
    decide +kernel
  have hsecond : ⟨24, ["sk-aaaaaaaaaccaaaaaaaaa".toList]⟩ ∈ openaiApiKey.reported asciiUnicode
      "sk-aaaaaaaaabbaaaaaaaaa sk-aaaaaaaaaccaaaaaaaaa".toList := by
    decide +kernel
  exact absurd (hpreviews _ hfirst _ hsecond (by decide +kernel)) (by decide +kernel)

end AuthClaw.Documents.Scanning
