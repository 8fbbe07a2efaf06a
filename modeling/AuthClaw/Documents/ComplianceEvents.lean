import AuthClaw.Documents.Scores

/-!
# Where compliance events come from

{lit}`_collect_source_events` reads five tables: vaulted evidence, findings of documents,
approvals, the audit log and remediation findings.  {lit}`map_evidence` stores each event under
the controls it matches, none of them where the evidence names a control of its own that the
catalog does not have.

Main results:

- Theorem {lit}`mappedOnce_iff`: which events are stored under a control, and none twice.
- Theorem {lit}`sourceEvents_mapped_iff`: all of the events of a tenant are exactly when no
  evidence names an unknown control.
- Theorem {lit}`unknown_control_lost`: one that does is lost.
-/

namespace AuthClaw.Documents

open PythonText

/-! ## The tables -/

/-- A row of `compliance_evidence`. -/
structure EvidenceRow where
  id : Int
  tenantId : Option Int
  name : String
  category : String
  filePath : String
  controlId : Option String
  framework : Option String

/-- A row of `gateway_approvals`. -/
structure GatewayApprovalRow where
  approvalId : String
  tenantId : Option Int
  status : String
  reason : Option String
  metadata : Option String
  mfaVerified : Option Bool

/-- A row of `audit_logs`. -/
structure AuditLogRow where
  id : Int
  tenantId : Option Int
  riskLevel : Option String
  approvalStatus : Option String
  policyName : Option String
  policyType : Option String
  matchedPattern : Option String

/-- A row of `remediation_findings`. -/
structure RemediationRow where
  id : Int
  tenantId : Option Int
  provider : Option String
  findingType : Option String
  severity : String
  status : Option String
  approvalStatus : Option String
  evidence : Option String

/-- The tables that events are read from, beside those of the documents. -/
structure SourceTables where
  evidence : List EvidenceRow
  approvals : List GatewayApprovalRow
  auditLogs : List AuditLogRow
  remediation : List RemediationRow

/-! ## Events -/

/-- The event of a row of evidence. -/
def evidenceEvent (row : EvidenceRow) : ComplianceEvent :=
  let framework := if row.framework.getD "" = "" then row.category else row.framework.getD ""
  { sourceType := "evidence"
    sourceId := toString row.id
    frameworkHint := framework
    controlId := row.controlId.getD ""
    text := " ".intercalate [row.name, row.category, row.filePath]
    reason := "Vaulted evidence '" ++ row.name ++ "' supports " ++ framework ++ "."
    impact := 8 }

/-- The event of an approval. -/
def approvalEvent (row : GatewayApprovalRow) : ComplianceEvent where
  sourceType := "approval"
  sourceId := row.approvalId
  frameworkHint := ""
  controlId := ""
  text := " ".intercalate [row.status, strOrNone row.reason, strOrNone row.metadata]
  reason := "Approval " ++ row.approvalId ++ " lifecycle event recorded as " ++ row.status ++ "."
  impact := if row.status ∈ ["approved", "executed"] ∧ row.mfaVerified = some true then 6 else 2

/-- The event of a row of the audit log. -/
def auditEvent (row : AuditLogRow) : ComplianceEvent where
  sourceType := "audit"
  sourceId := toString row.id
  frameworkHint := ""
  controlId := ""
  text := " ".intercalate [strOrNone row.riskLevel, strOrNone row.approvalStatus,
    strOrNone row.policyName, strOrNone row.policyType, strOrNone row.matchedPattern]
  reason := "Audit hash-chain record " ++ toString row.id ++ " contributes policy/audit evidence."
  impact :=
    if row.approvalStatus.any (fun status => status ∈ ["approved", "executed", "N/A"]) then 4
    else 0

/-- The event of a remediation finding. -/
def remediationEvent (py : PyText) (row : RemediationRow) : ComplianceEvent :=
  let severity := py.upper (if row.severity = "" then "LOW" else row.severity)
  let remediated := row.status = some "remediated" ∨ row.approvalStatus = some "executed"
  { sourceType := "remediation"
    sourceId := toString row.id
    frameworkHint := ""
    controlId := ""
    text := " ".intercalate [strOrNone row.provider, strOrNone row.findingType, row.severity,
      strOrNone row.status, strOrNone row.evidence]
    reason := "Remediation finding " ++ strOrNone row.findingType ++ " is " ++
      strOrNone row.status ++ "."
    impact := if remediated then 10 else -severityPenalty severity }

/-- The rows of evidence of a tenant. -/
def tenantEvidence (tables : SourceTables) (tenantId : Int) : List EvidenceRow :=
  tables.evidence.filter (fun row => row.tenantId = some tenantId)

/-- The last 200 rows of the audit log of a tenant, the newest first. -/
def recentAuditLogs (tables : SourceTables) (tenantId : Int) : List AuditLogRow :=
  ((tables.auditLogs.filter (fun row => row.tenantId = some tenantId)).insertionSort
    (fun a b => b.id ≤ a.id)).take 200

/-- The events of a tenant that are not of documents. -/
def otherEvents (py : PyText) (tables : SourceTables) (tenantId : Int) : OtherEvents where
  evidence := (tenantEvidence tables tenantId).map evidenceEvent
  later :=
    (tables.approvals.filter (fun row => row.tenantId = some tenantId)).map approvalEvent ++
      (recentAuditLogs tables tenantId).map auditEvent ++
      (tables.remediation.filter (fun row => row.tenantId = some tenantId)).map
        (remediationEvent py)

/-- `_collect_source_events`, from the tables. -/
def sourceEvents (py : PyText) (tables : SourceTables) (tenantId : Int) (store : DocumentStore) :
    List ComplianceEvent :=
  collectSourceEvents py (otherEvents py tables tenantId) tenantId store

/-- The event stands among the events of some control that is scored, and is stored under no
control more often than it was collected. -/
def MappedOnce (py : PyText) (events : List ComplianceEvent) (event : ComplianceEvent) : Prop :=
  (∃ control ∈ controlCatalog, event ∈ evidenceByControl py events control) ∧
    ∀ controlId, (mapEvidence py events).count (controlId, event) ≤ events.count event

/-- The event names no control, or one of the catalog. -/
def NamesKnownControl (controlId : String) : Prop :=
  controlId = "" ∨ ∃ control ∈ controlCatalog, control.controlId = controlId

section

variable {py : PyText} {events : List ComplianceEvent} {event : ComplianceEvent}

/-! ## Controls of an event -/

/-- The controls of an event are of the catalog, in its order. -/
theorem matchingControls_sublist (event : ComplianceEvent) :
    (matchingControls py event).Sublist controlCatalog := by
  unfold matchingControls
  dsimp only
  split_ifs
  · exact List.filter_sublist
  · exact (List.take_sublist _ _).trans List.filter_sublist
  · exact List.filter_sublist

/-- The controls of the catalog differ in their ids. -/
theorem nodup_controlCatalog : (controlCatalog.map Control.controlId).Nodup := by
  decide

/-- An event matches a control exactly when it names none of its own, or one that is known. -/
theorem exists_matchingControl_iff :
    (∃ control ∈ controlCatalog, control ∈ matchingControls py event) ↔
      NamesKnownControl event.controlId := by
  constructor
  · rintro ⟨control, hcatalog, hmatch⟩
    unfold matchingControls at hmatch
    by_cases hnamed : event.controlId = ""
    · exact Or.inl hnamed
    · rw [if_pos hnamed] at hmatch
      exact Or.inr ⟨control, hcatalog, of_decide_eq_true (List.mem_filter.mp hmatch).2⟩
  · rintro (hnone | ⟨control, hcatalog, hid⟩)
    · exact exists_matchingControl hnone
    · refine ⟨control, hcatalog, ?_⟩
      have hnamed : event.controlId ≠ "" := by
        rw [← hid]
        have hall : ∀ c ∈ controlCatalog, c.controlId ≠ "" := by decide
        exact hall control hcatalog
      unfold matchingControls
      rw [if_pos hnamed]
      exact List.mem_filter.mpr ⟨hcatalog, decide_eq_true hid⟩

/-- A control of the catalog is known by its id. -/
theorem eq_of_controlId {control other : Control} (hcontrol : control ∈ controlCatalog)
    (hother : other ∈ controlCatalog) (h : control.controlId = other.controlId) :
    control = other :=
  List.inj_on_of_nodup_map nodup_controlCatalog hcontrol hother h

/-- The events of a control are those that match it, in the order they were collected. -/
theorem evidenceByControl_eq {control : Control} (hcontrol : control ∈ controlCatalog)
    (events : List ComplianceEvent) :
    evidenceByControl py events control =
      events.filter (fun event => control ∈ matchingControls py event) := by
  have hblock : ∀ event : ComplianceEvent,
      (((matchingControls py event).map (fun c => (c.controlId, event))).filter
        (fun row => row.1 = control.controlId)).map Prod.snd =
          [event].filter (fun event => control ∈ matchingControls py event) := by
    intro event
    have hsub := @matchingControls_sublist py event
    have honly : (matchingControls py event).filter
          (fun c => c.controlId = control.controlId) =
        (matchingControls py event).filter (fun c => c = control) := by
      apply List.filter_congr
      intro c hc
      rw [decide_eq_decide]
      exact ⟨eq_of_controlId (hsub.subset hc) hcontrol, fun h => h ▸ rfl⟩
    have hnodup : (matchingControls py event).Nodup := hsub.nodup nodup_controlCatalog.of_map
    rw [List.filter_map, List.map_map]
    change ((matchingControls py event).filter
      (fun c => c.controlId = control.controlId)).map (fun _ => event) = _
    rw [honly, List.filter_eq, List.map_replicate, hnodup.count]
    by_cases hmem : control ∈ matchingControls py event
    · simp [hmem]
    · simp [hmem]
  unfold evidenceByControl mapEvidence
  induction events with
  | nil => rfl
  | cons event events ih =>
      rw [List.flatMap_cons, List.filter_append, List.map_append, ih, hblock,
        ← List.filter_append, List.singleton_append]

/-! ## Stored once -/

/-- The rows of an event are at most as many as it was collected, under each control. -/
theorem count_mapEvidence_le (controlId : String) :
    (mapEvidence py events).count (controlId, event) ≤ events.count event := by
  unfold mapEvidence
  induction events with
  | nil => exact Nat.le_refl _
  | cons e events ih =>
      rw [List.flatMap_cons, List.count_append, List.count_cons]
      have hhead : ((matchingControls py e).map (fun c => (c.controlId, e))).count
          (controlId, event) ≤ if e == event then 1 else 0 := by
        by_cases he : e = event
        · subst he
          rw [if_pos (beq_self_eq_true e)]
          apply List.nodup_iff_count_le_one.mp
          have hids := (nodup_controlCatalog.sublist ((@matchingControls_sublist py e).map _)).map
            (Prod.mk_left_injective e)
          rwa [List.map_map] at hids
        · rw [if_neg (by simpa using he)]
          apply Nat.le_of_eq
          apply List.count_eq_zero_of_not_mem
          intro hmem
          rcases List.mem_map.mp hmem with ⟨c, -, hc⟩
          exact he (Prod.mk.inj hc).2
      omega

/-- An event is stored under a control that is scored exactly when it names none of its own, or
one of the catalog; it is stored under none twice. -/
theorem mappedOnce_iff (h : event ∈ events) :
    MappedOnce py events event ↔ NamesKnownControl event.controlId := by
  rw [← @exists_matchingControl_iff py]
  unfold MappedOnce
  rw [and_iff_left (fun controlId => count_mapEvidence_le controlId)]
  refine exists_congr fun control => and_congr_right fun hcontrol => ?_
  rw [evidenceByControl_eq hcontrol, List.mem_filter, decide_eq_true_eq]
  exact and_iff_right h

/-! ## The events of a tenant -/

/-- Of the events of a tenant, only those of evidence name a control. -/
theorem sourceEvents_controlId {tables : SourceTables} {tenantId : Int} {store : DocumentStore}
    (h : event ∈ sourceEvents py tables tenantId store) :
    event.controlId = "" ∨ ∃ row ∈ tenantEvidence tables tenantId, event = evidenceEvent row := by
  unfold sourceEvents collectSourceEvents otherEvents at h
  simp only [List.mem_append, List.mem_map] at h
  rcases h with (⟨row, hrow, rfl⟩ | ⟨f, -, rfl⟩) | (⟨row, -, rfl⟩ | ⟨row, -, rfl⟩) | ⟨row, -, rfl⟩
  · exact Or.inr ⟨row, hrow, rfl⟩
  · exact Or.inl rfl
  · exact Or.inl rfl
  · exact Or.inl rfl
  · exact Or.inl rfl

theorem evidenceEvent_mem {tables : SourceTables} {tenantId : Int} {store : DocumentStore}
    {row : EvidenceRow} (h : row ∈ tenantEvidence tables tenantId) :
    evidenceEvent row ∈ sourceEvents py tables tenantId store :=
  List.mem_append_left _ (List.mem_append_left _ (List.mem_map_of_mem h))

end

/-- The events that are collected from the rows of a tenant are each stored under a control that
is scored, and under none twice, exactly when the evidence of the tenant names no control, or
controls of the catalog. -/
theorem sourceEvents_mapped_iff (py : PyText) (tables : SourceTables) (tenantId : Int)
    (store : DocumentStore) :
    (∀ event ∈ sourceEvents py tables tenantId store,
      MappedOnce py (sourceEvents py tables tenantId store) event) ↔
      ∀ row ∈ tenantEvidence tables tenantId, NamesKnownControl (row.controlId.getD "") := by
  constructor
  · intro h row hrow
    have hmem := @evidenceEvent_mem py tables tenantId store row hrow
    exact (mappedOnce_iff hmem).mp (h _ hmem)
  · intro h event hmem
    rw [mappedOnce_iff hmem]
    rcases sourceEvents_controlId hmem with hnone | ⟨row, hrow, rfl⟩
    · exact Or.inl hnone
    · exact h row hrow

/-- Evidence of a control that the catalog does not have. -/
def foreignEvidence : SourceTables where
  evidence := [⟨1, some 1, "Penetration test", "SOC2", "/evidence/pentest.pdf",
    some "SOC2-CC9.9", some "SOC2"⟩]
  approvals := []
  auditLogs := []
  remediation := []

/-- It is lost: its event is stored under no control. -/
theorem unknown_control_lost :
    ¬ ∀ (py : PyText) (tables : SourceTables) (tenantId : Int) (store : DocumentStore),
      ∀ event ∈ sourceEvents py tables tenantId store,
        MappedOnce py (sourceEvents py tables tenantId store) event := by
  intro h
  have hrow : foreignEvidence.evidence.head (by decide) ∈ tenantEvidence foreignEvidence 1 := by
    exact List.mem_cons_self
  have hmem := @evidenceEvent_mem asciiText foreignEvidence 1
    ⟨Rows.Table.empty, [], [], [], Rows.Table.empty, [], []⟩ _ hrow
  have hknown := (mappedOnce_iff hmem).mp (h _ _ _ _ _ hmem)
  have hunknown : ¬ NamesKnownControl "SOC2-CC9.9" := by
    unfold NamesKnownControl
    decide
  exact hunknown hknown

end AuthClaw.Documents
