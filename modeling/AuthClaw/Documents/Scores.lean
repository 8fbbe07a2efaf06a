import AuthClaw.Documents.Tables
import AuthClaw.Library.PythonText

/-!
# Compliance scores

Every event that bears on compliance is mapped to the controls whose framework or words it
mentions, and a control loses points for each event against it.  The findings of documents are
events against controls, unless their document is deleted.

Main results:

- Theorem {lit}`calculateScores_filter_iff`: leaving findings out leaves the scores as they are
  exactly when none of them is counted.
-/

namespace AuthClaw.Documents

open Rows PythonText

/-! ## Controls -/

/-- A control of the catalog. -/
structure Control where
  controlId : String
  framework : String
  title : String
  weight : Int
  keywords : List String
deriving DecidableEq

/-- `CONTROL_CATALOG`. -/
def controlCatalog : List Control :=
  [⟨"SOC2-CC6.1", "SOC2", "Logical Access Controls", 15,
      ["access", "rbac", "permission", "mfa", "iam"]⟩,
    ⟨"SOC2-CC7.2", "SOC2", "Security Monitoring", 15,
      ["security", "monitor", "gateway", "audit", "secret"]⟩,
    ⟨"SOC2-CC8.1", "SOC2", "Change Management", 10,
      ["approval", "change", "execute", "remediation"]⟩,
    ⟨"GDPR-ART5", "GDPR", "Data Protection Principles", 15,
      ["pii", "personal", "gdpr", "redact", "email"]⟩,
    ⟨"GDPR-ART32", "GDPR", "Security Of Processing", 15,
      ["encryption", "access", "secret", "security", "breach"]⟩,
    ⟨"GDPR-ART30", "GDPR", "Processing Records", 10,
      ["record", "evidence", "audit", "processing"]⟩,
    ⟨"HIPAA-164.312A", "HIPAA", "Access Control", 15,
      ["phi", "patient", "medical", "access", "mfa"]⟩,
    ⟨"HIPAA-164.312B", "HIPAA", "Audit Controls", 15,
      ["audit", "patient", "medical", "health", "trace"]⟩,
    ⟨"HIPAA-164.312E", "HIPAA", "Transmission Security", 10,
      ["transmission", "redact", "phi", "medical", "secret"]⟩,
    ⟨"ISO27001-A.5.15", "ISO27001", "Access Control", 10,
      ["access", "rbac", "permission", "identity", "mfa"]⟩,
    ⟨"ISO27001-A.8.12", "ISO27001", "Data Leakage Prevention", 10,
      ["redact", "leak", "pii", "secret", "exfiltrate"]⟩,
    ⟨"PCI-DSS-3.4", "PCI_DSS", "Protect Stored Account Data", 10,
      ["credit card", "cardholder", "financial", "account number", "payment"]⟩,
    ⟨"PCI-DSS-10.2", "PCI_DSS", "Audit Logging", 10,
      ["audit", "hash", "ledger", "log", "integrity"]⟩,
    ⟨"NIST-AC-2", "NIST", "Account Management", 10,
      ["account", "access", "rbac", "user", "approval"]⟩,
    ⟨"NIST-SI-4", "NIST", "System Monitoring", 10,
      ["monitor", "attack", "prompt injection", "security", "finding"]⟩]

/-- `SEVERITY_PENALTY.get(risk, 6)`. -/
def severityPenalty (risk : String) : Int :=
  if risk = "CRITICAL" then 30
  else if risk = "HIGH" then 22
  else if risk = "MEDIUM" then 12
  else 6

/-- An event that bears on compliance; a hint or a control that is not given is empty. -/
structure ComplianceEvent where
  sourceType : String
  sourceId : String
  frameworkHint : String
  controlId : String
  text : String
  reason : String
  impact : Int
deriving DecidableEq

/-- A control that an event mentions. -/
def Control.mentioned (py : PyText) (event : ComplianceEvent) (control : Control) : Bool :=
  (py.lower event.frameworkHint != "" &&
      contains (py.lower control.framework) (py.lower event.frameworkHint)) ||
    contains (py.lower control.framework) (py.lower event.text) ||
    control.keywords.any (fun keyword => contains keyword (py.lower event.text))

/-- `_matching_controls`. -/
def matchingControls (py : PyText) (event : ComplianceEvent) : List Control :=
  if event.controlId ≠ "" then
    controlCatalog.filter (fun control => control.controlId = event.controlId)
  else
    let mentioned := controlCatalog.filter (Control.mentioned py event)
    if mentioned = [] then
      (controlCatalog.filter (fun control => control.framework = "SOC2")).take 1
    else mentioned

/-! ## Events -/

/-- The events of other sources, before and after those of documents. -/
structure OtherEvents where
  evidence : List ComplianceEvent
  later : List ComplianceEvent

/-- `str` of a value that may be missing. -/
def strOrNone (value : Option String) : String :=
  value.getD "None"

/-- A finding of a document that the scores of a tenant are about. -/
def ofTenant (tenantId : Int) (f : DocumentFinding) (d : Document) : Bool :=
  decide ((f.tenantId.or d.tenantId).getD tenantId = tenantId ∧
    d.tenantId.getD tenantId = tenantId)

/-- The findings that `_collect_source_events` reads. -/
def countedFindings (tenantId : Int) (store : DocumentStore) : List DocumentFinding :=
  store.findings.filter (fun f =>
    match store.documents.find f.documentId with
    | none => false
    | some d => ofTenant tenantId f d && !d.status.inDeleted)

/-- The event of a finding. -/
def findingEvent (py : PyText) (f : DocumentFinding) : ComplianceEvent :=
  let risk := py.upper (if f.riskLevel = "" then "LOW" else f.riskLevel)
  { sourceType := "document_finding"
    sourceId := toString f.id
    frameworkHint := ""
    controlId := ""
    text := " ".intercalate [f.findingType, f.matchedPattern, f.recommendation,
      strOrNone f.impact, strOrNone f.locationEvidence]
    reason := "Document finding " ++ f.findingType ++ " with " ++ risk ++
      " risk affects control scoring."
    impact := -severityPenalty risk }

/-- `_collect_source_events`. -/
def collectSourceEvents (py : PyText) (others : OtherEvents) (tenantId : Int)
    (store : DocumentStore) : List ComplianceEvent :=
  others.evidence ++ (countedFindings tenantId store).map (findingEvent py) ++ others.later

/-! ## Scores -/

/-- `map_evidence`: the rows of `compliance_control_evidence`. -/
def mapEvidence (py : PyText) (events : List ComplianceEvent) :
    List (String × ComplianceEvent) :=
  events.flatMap (fun event =>
    (matchingControls py event).map (fun control => (control.controlId, event)))

/-- The events of a control. -/
def evidenceByControl (py : PyText) (events : List ComplianceEvent) (control : Control) :
    List ComplianceEvent :=
  ((mapEvidence py events).filter (fun row => row.1 = control.controlId)).map Prod.snd

/-- The score of a control. -/
structure ControlScore where
  control : Control
  score : Int
  status : String
  evidenceCount : Nat
  negativeFindings : Nat
  reason : String
  sourceEvent : String
  evidence : List ComplianceEvent
deriving DecidableEq

/-- The version of the catalog. -/
def corpusVersion : String :=
  "2026.07"

/-- The score of a control with its events. -/
def controlScore (control : Control) (items : List ComplianceEvent) : ControlScore :=
  let negative := items.filter (fun item => item.impact < 0)
  let positive := items.filter (fun item => 0 ≤ item.impact)
  let score := max 0 (min 100 (100 + (negative.map ComplianceEvent.impact).sum))
  { control := control
    score := score
    status := if 85 ≤ score then "passing" else if 65 ≤ score then "watch" else "failing"
    evidenceCount := items.length
    negativeFindings := negative.length
    reason := s!"{control.controlId} score {score} from {positive.length} supporting " ++
      s!"evidence items and {negative.length} negative findings in corpus {corpusVersion}."
    sourceEvent := (items.getLast?).elim "catalog_baseline" ComplianceEvent.sourceType
    evidence := items }

/-- `round` of a quotient, to even where it lies between two numbers. -/
def roundQuotient (n d : Int) : Int :=
  let q := n / d
  let r := 2 * (n % d)
  if r < d then q else if d < r then q + 1 else if q % 2 = 0 then q else q + 1

/-- The score of a framework, and how many of its controls pass, fail and are watched. -/
structure FrameworkScore where
  framework : String
  score : Int
  passed : Nat
  failed : Nat
  watch : Nat
  items : List ControlScore
deriving DecidableEq

/-- The score of a framework from those of the controls. -/
def frameworkScore (scores : List ControlScore) (framework : String) : FrameworkScore :=
  let items := scores.filter (fun s => s.control.framework = framework)
  let total := (items.map (fun s => s.control.weight)).sum
  let weighted := (items.map (fun s => s.score * s.control.weight)).sum
  { framework := asciiLower framework
    score := roundQuotient weighted (if total = 0 then 1 else total)
    passed := items.countP (fun s => s.status = "passing")
    failed := items.countP (fun s => s.status = "failing")
    watch := items.countP (fun s => s.status = "watch")
    items := items }

/-- The frameworks of the catalog, sorted. -/
def frameworks : List String :=
  ["GDPR", "HIPAA", "ISO27001", "NIST", "PCI_DSS", "SOC2"]

/-- `calculate_scores`. -/
def calculateScores (py : PyText) (others : OtherEvents) (tenantId : Int) (store : DocumentStore) :
    List FrameworkScore :=
  let events := collectSourceEvents py others tenantId store
  let scores := controlCatalog.map (fun control =>
    controlScore control (evidenceByControl py events control))
  frameworks.map (frameworkScore scores)

section

variable {py : PyText} {others : OtherEvents} {tenantId : Int} {store : DocumentStore}
  {p : DocumentFinding → Bool}

/-! ## Findings that are left out -/

/-- An event that is of no control in particular is mapped to some control of the catalog. -/
theorem exists_matchingControl {event : ComplianceEvent} (h : event.controlId = "") :
    ∃ control ∈ controlCatalog, control ∈ matchingControls py event := by
  unfold matchingControls
  rw [if_neg (not_not.mpr h)]
  by_cases hnone : controlCatalog.filter (Control.mentioned py event) = []
  · refine ⟨⟨"SOC2-CC6.1", "SOC2", "Logical Access Controls", 15,
      ["access", "rbac", "permission", "mfa", "iam"]⟩, List.mem_cons_self, ?_⟩
    rw [if_pos hnone]
    decide
  · rw [if_neg hnone]
    rcases List.exists_mem_of_ne_nil _ hnone with ⟨control, hcontrol⟩
    exact ⟨control, List.mem_of_mem_filter hcontrol, hcontrol⟩

/-- The events of a control are counted one by one. -/
theorem length_evidenceByControl_append (events more : List ComplianceEvent) (control : Control) :
    (evidenceByControl py (events ++ more) control).length =
      (evidenceByControl py events control).length +
        (evidenceByControl py more control).length := by
  unfold evidenceByControl mapEvidence
  rw [List.flatMap_append, List.filter_append, List.map_append, List.length_append]

/-- Leaving findings out adds no event to a control. -/
theorem length_evidenceByControl_filter_le (findings : List DocumentFinding) (control : Control) :
    (evidenceByControl py ((findings.filter p).map (findingEvent py)) control).length ≤
      (evidenceByControl py (findings.map (findingEvent py)) control).length := by
  induction findings with
  | nil => exact Nat.le_refl _
  | cons f findings ih =>
      rw [List.map_cons, ← List.singleton_append (l := findings.map _),
        length_evidenceByControl_append]
      by_cases hp : p f = true
      · rw [List.filter_cons_of_pos hp, List.map_cons, ← List.singleton_append,
          length_evidenceByControl_append]
        omega
      · rw [List.filter_cons_of_neg hp]
        omega

/-- An event stands among the events of each control it is mapped to. -/
theorem length_evidenceByControl_pos {event : ComplianceEvent} {control : Control}
    (h : control ∈ matchingControls py event) :
    0 < (evidenceByControl py [event] control).length := by
  refine List.length_pos_of_mem (a := event) ?_
  unfold evidenceByControl mapEvidence
  rw [List.mem_map]
  refine ⟨(control.controlId, event), List.mem_filter.mpr ⟨?_, decide_eq_true rfl⟩, rfl⟩
  rw [List.flatMap_singleton]
  exact List.mem_map.mpr ⟨control, h, rfl⟩

/-- A finding that is left out is missing among the events of its controls. -/
theorem length_evidenceByControl_filter_lt {findings : List DocumentFinding}
    {f : DocumentFinding} (hf : f ∈ findings) (hp : p f = false) {control : Control}
    (hcontrol : control ∈ matchingControls py (findingEvent py f)) :
    (evidenceByControl py ((findings.filter p).map (findingEvent py)) control).length <
      (evidenceByControl py (findings.map (findingEvent py)) control).length := by
  rcases List.append_of_mem hf with ⟨before, after, rfl⟩
  have hbefore := @length_evidenceByControl_filter_le py p before control
  have hafter := @length_evidenceByControl_filter_le py p after control
  have hpos := length_evidenceByControl_pos hcontrol
  rw [List.filter_append, List.filter_cons_of_neg (by rw [hp]; exact Bool.false_ne_true),
    List.map_append, List.map_append, List.map_cons,
    ← List.singleton_append (l := after.map _)]
  simp only [length_evidenceByControl_append]
  omega

/-- The findings that are counted after some were left out. -/
theorem countedFindings_filter :
    countedFindings tenantId { store with findings := store.findings.filter p } =
      (countedFindings tenantId store).filter p := by
  unfold countedFindings
  rw [List.filter_filter, List.filter_filter]
  simp only [Bool.and_comm]

/-- Scores that agree agree on the events of every control. -/
theorem evidence_of_calculateScores {store' : DocumentStore}
    (h : calculateScores py others tenantId store' = calculateScores py others tenantId store)
    {control : Control} (hcontrol : control ∈ controlCatalog) :
    evidenceByControl py (collectSourceEvents py others tenantId store') control =
      evidenceByControl py (collectSourceEvents py others tenantId store) control := by
  have hframework : control.framework ∈ frameworks := by
    have hall : ∀ c ∈ controlCatalog, c.framework ∈ frameworks := by decide
    exact hall control hcontrol
  have hitems := congrArg FrameworkScore.items (List.map_inj_left.mp h _ hframework)
  unfold frameworkScore at hitems
  simp only [List.filter_map] at hitems
  have hscore := List.map_inj_left.mp hitems control
    (List.mem_filter.mpr ⟨hcontrol, decide_eq_true rfl⟩)
  exact congrArg ControlScore.evidence hscore

/-- Leaving findings out leaves the scores as they are exactly when none of them is counted. -/
theorem calculateScores_filter_iff :
    calculateScores py others tenantId { store with findings := store.findings.filter p } =
        calculateScores py others tenantId store ↔
      ∀ f ∈ countedFindings tenantId store, p f = true := by
  constructor
  · intro h f hf
    by_contra hp
    rw [Bool.not_eq_true] at hp
    rcases @exists_matchingControl py (findingEvent py f) rfl with ⟨control, hcatalog, hcontrol⟩
    have hevidence := congrArg List.length (evidence_of_calculateScores h hcatalog)
    unfold collectSourceEvents at hevidence
    rw [countedFindings_filter] at hevidence
    simp only [length_evidenceByControl_append] at hevidence
    have hlt := length_evidenceByControl_filter_lt hf hp hcontrol
    omega
  · intro h
    have hcounted : countedFindings tenantId
        { store with findings := store.findings.filter p } = countedFindings tenantId store := by
      rw [countedFindings_filter]
      exact List.filter_eq_self.mpr h
    unfold calculateScores collectSourceEvents
    rw [hcounted]

end

end AuthClaw.Documents
