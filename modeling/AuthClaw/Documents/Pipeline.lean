import AuthClaw.Documents.Tables
import AuthClaw.Library.Exits
import AuthClaw.Library.PythonText

/-!
# The scan of a document

The text is cut into chunks that are indexed under the name of the file, searched for sensitive
data and for the words that each framework asks for, and rated; the rating, the scan and its
findings are stored in one transaction at the end.  Every call outside the process may raise; what
the index raises is caught.  No external review is configured.

Main results:

- Theorem {lit}`ends_runDocumentScanPipeline`: what a scan does to the rows of its document.
-/

namespace AuthClaw.Documents

open Rows Exits PythonText

abbrev Bytes := List UInt8

/-- What a call raises. -/
inductive ScanError where
  | database
  | other
deriving DecidableEq

/-- A computation that may raise. -/
abbrev DocumentRun := EStateM ScanError DocumentStore

/-- The interpreter, the extraction of text, the scanner of sensitive data and the embedding. -/
structure DocumentTools where
  py : PyText
  extractText : Bytes → String → String
  scanText : String → List ScanFinding
  embed : String → String

/-- What the calls of a scan raise before they have an effect, and how long the scan takes. -/
structure ScanCalls where
  extract : Option ScanError
  update : Option ScanError
  startAudit : Option ScanError
  pickKnowledge : Choice KnowledgeDocument
  knowledge : Option ScanError
  chunks : Option ScanError
  approval : Option ScanError
  decisionAudit : Option ScanError
  results : Option ScanError
  endAudit : Option ScanError
  durationMs : Nat

/-! ## Chunks -/

/-- `chunk_size`. -/
def chunkSize : Nat := 1000

/-- `overlap`. -/
def chunkOverlap : Nat := 200

/-- The chunks from a start on; the fuel is the length of the text. -/
def chunksFrom (py : PyText) : Nat → List Char → List String
  | 0, _ => []
  | fuel + 1, rest =>
      let chunk := py.strip (String.ofList (rest.take chunkSize))
      let later :=
        if rest.length ≤ chunkSize then []
        else chunksFrom py fuel (rest.drop (chunkSize - chunkOverlap))
      if chunk = "" then later else chunk :: later

/-- `split_text_into_chunks`. -/
def splitTextIntoChunks (py : PyText) (text : String) : List String :=
  let text := py.strip text
  chunksFrom py text.length text.toList

/-! ## Findings -/

/-- A word that a framework asks for, and what is reported where it is missing. -/
structure FrameworkCheck where
  framework : String
  keyword : String
  label : String
  advice : String
  riskLevel : RiskLevel
  impact : String
  priority : String

/-- `rules`. -/
def frameworkRules : List FrameworkCheck :=
  [⟨"SOC2", "mfa", "MFA/Two-Factor Authentication",
      "Enforce Multi-Factor Authentication (MFA) for administrative access.", .high,
      "Unauthorized login to cloud admin accounts due to lack of multi-factor check.", "P1"⟩,
    ⟨"SOC2", "rbac", "Role-Based Access Control",
      "Establish role-based permission policies (RBAC) to ensure least privilege.", .high,
      "Privilege escalation by regular users to access protected resources.", "P1"⟩,
    ⟨"SOC2", "audit log", "Audit Logging Controls",
      "Implement centralized audit trail logging to monitor override events.", .medium,
      "No trail of system events, leading to untraceable security events.", "P2"⟩,
    ⟨"GDPR", "retention", "Data Retention Policy",
      "Define data storage and purge periods (e.g. 7-year retention limit).", .medium,
      "Keeping customer PII indefinitely, violating privacy rights.", "P2"⟩,
    ⟨"GDPR", "consent", "User Consent Process",
      "Obtain explicit user opt-in consent prior to collecting personal details.", .medium,
      "Storing user logs without consent, risking regulatory fines.", "P2"⟩,
    ⟨"GDPR", "erase", "Right to Erasure",
      "Provide an operational procedure to purge customer logs upon request.", .medium,
      "Inability to fulfill Data Subject Access Deletion Requests (DSAR).", "P2"⟩,
    ⟨"HIPAA", "patient", "Patient Identifiers",
      "Ensure health registries mask patient name/medical record details.", .high,
      "Leakage of patient health identifiers (PHI).", "P1"⟩,
    ⟨"HIPAA", "ephi", "Electronic Protected Health Information (ePHI)",
      "Expose no plaintext health history or medical conditions.", .high,
      "Plaintext exposure of medical histories or treatments.", "P1"⟩,
    ⟨"PCI-DSS", "credit card", "Credit Card Protection",
      "Do not store card numbers in unmasked plaintext format.", .high,
      "Plaintext storage of credit card primary account number (PAN).", "P1"⟩,
    ⟨"PCI-DSS", "routing", "Routing Code Masking",
      "Restrict access to ABA routing bank codes.", .high,
      "Exposure of ABA bank routing details.", "P1"⟩]

/-- What is reported of a word that is missing, which has no place in the text. -/
def FrameworkCheck.gap (c : FrameworkCheck) : ScanFinding where
  findingType := "Regulatory"
  matchedPattern := c.framework ++ "_" ++ asciiUpper c.keyword ++ "_MISSING"
  matchedText := "Missing " ++ c.label
  riskLevel := c.riskLevel
  recommendation := "[" ++ c.framework ++ "] " ++ c.advice
  impact := c.impact
  priority := c.priority
  locationEvidence := "N/A"

/-- `framework_gaps`. -/
def frameworkGaps (py : PyText) (text : String) : List ScanFinding :=
  (frameworkRules.filter (fun c => !contains c.keyword (py.lower text))).map FrameworkCheck.gap

/-- `all_findings`. -/
def allFindings (tools : DocumentTools) (text : String) : List ScanFinding :=
  tools.scanText text ++ frameworkGaps tools.py text

/-! ## Rating -/

/-- What a finding costs. -/
def deduction : RiskLevel → Int
  | .critical => 20
  | .high => 15
  | .medium => 8
  | .low => 3

/-- A finding that exposes a secret. -/
def ScanFinding.criticalSecret (f : ScanFinding) : Bool :=
  decide (f.findingType ∈ ["Secret", "Credentials"] ∨
    f.matchedPattern ∈ ["AWS_ACCESS_KEY", "OPENAI_API_KEY", "JWT_TOKEN", "CONN_STRING",
      "S3_PUBLIC_ACCESS_ENABLED"])

/-- The score and the severity of a document with the findings. -/
def riskOf (findings : List ScanFinding) : Int × RiskLevel :=
  let score := max 0 (100 - (findings.map (fun f => deduction f.riskLevel)).sum)
  let has := fun level => findings.any (fun f => f.riskLevel = level)
  let rated : Int × RiskLevel :=
    if has .critical then (min score 49, .critical)
    else if has .high then (min score 69, .high)
    else if has .medium then (min score 84, .medium)
    else (max score 85, .low)
  if findings.any ScanFinding.criticalSecret then (min rated.1 49, .critical) else rated

/-- A severity that asks for an approval. -/
def RiskLevel.escalates (severity : RiskLevel) : Bool :=
  severity = .high ∨ severity = .critical

/-! ## The pipeline -/

section

variable (tools : DocumentTools) (calls : ScanCalls) (docId : Int) (bytes : Bytes)
  (filename : String) (tenantId : Option Int)

/-- `:tenant_id IS NULL OR tenant_id = :tenant_id`. -/
def tenantMatches (tenantId rowTenant : Option Int) : Bool :=
  tenantId = none ∨ rowTenant = tenantId

/-- `UPDATE documents ... WHERE id = :id AND (:tenant_id IS NULL OR tenant_id = :tenant_id)`. -/
def updateDocument (f : Document → Document) (hf : ∀ d, (f d).id = d.id) (store : DocumentStore) :
    DocumentStore :=
  { store with
    documents := store.documents.update
      (fun d => decide (d.id = docId) && tenantMatches tenantId d.tenantId) f hf }

/-- A document whose scan has started. -/
def startedDocument (d : Document) : Document :=
  { d with sizeBytes := bytes.length, status := .scanning }

theorem startedDocument_id (d : Document) : (startedDocument bytes d).id = d.id :=
  rfl

/-- The scan has started. -/
def startScan (store : DocumentStore) : DocumentStore :=
  updateDocument docId tenantId (startedDocument bytes) (startedDocument_id bytes) store

/-- The rows of `knowledge_documents` with the name. -/
def namedKnowledge (k : KnowledgeDocument) : Bool :=
  decide (k.name = filename) && tenantMatches tenantId k.tenantId

/-- The number of the next row of `knowledge_documents`, above those that a chunk refers to. -/
def nextKnowledge (store : DocumentStore) : Int :=
  above (store.knowledge.rows.map KnowledgeDocument.id ++
    store.chunks.map KnowledgeChunk.documentId)

theorem nextKnowledge_new (store : DocumentStore) :
    store.knowledge.find (nextKnowledge store) = none :=
  Table.find_eq_none_of_lt fun _ hk =>
    lt_above (List.mem_append_left _ (List.mem_map_of_mem hk))

/-- The row that the chunks are indexed under, which is stored where there is none. -/
def knowledgeRow (chunkCount : Nat) (store : DocumentStore) : Int × DocumentStore :=
  match calls.pickKnowledge.fetch (namedKnowledge filename tenantId) store.knowledge.rows with
  | some k => (k.id, store)
  | none =>
      let row : KnowledgeDocument :=
        ⟨nextKnowledge store, tenantId, filename, bytes.length, chunkCount⟩
      (row.id, { store with
        knowledge := store.knowledge.append row (nextKnowledge_new store) })

/-- `save_document_chunks`. -/
def saveDocumentChunks (knowledgeId : Int) (chunks : List String) (store : DocumentStore) :
    DocumentStore :=
  { store with
    chunks := store.chunks ++ chunks.map (fun chunk =>
      ⟨tenantId, knowledgeId, chunk, tools.embed chunk⟩) }

/-- The chunks are indexed; what is raised on the way is logged. -/
def indexChunks (chunks : List String) (store : DocumentStore) : DocumentStore :=
  if calls.knowledge.isSome then store
  else
    let row := knowledgeRow calls bytes filename tenantId chunks.length store
    if calls.chunks.isSome then row.2 else saveDocumentChunks tools tenantId row.1 chunks row.2

/-- The row of a finding. -/
def findingRow (numbered : ScanFinding × Nat) (first : Int) : DocumentFinding where
  id := first + numbered.2
  tenantId := tenantId
  documentId := docId
  findingType := numbered.1.findingType
  matchedPattern := numbered.1.matchedPattern
  matchedText := numbered.1.matchedText
  riskLevel := numbered.1.riskLevel.name
  recommendation := numbered.1.recommendation
  impact := some numbered.1.impact
  priority := some numbered.1.priority
  locationEvidence := some numbered.1.locationEvidence

/-- The number of the next finding. -/
def nextFinding (store : DocumentStore) : Int :=
  above (store.findings.map DocumentFinding.id)

/-- A document that is rated. -/
def ratedDocument (score : Int) (severity : RiskLevel) (status : DocumentStatus) (d : Document) :
    Document :=
  { d with riskScore := score, severity := severity, status := status }

theorem ratedDocument_id (score : Int) (severity : RiskLevel) (status : DocumentStatus)
    (d : Document) : (ratedDocument score severity status d).id = d.id :=
  rfl

/-- The rating, the scan and its findings are stored. -/
def storeResults (findings : List ScanFinding) (score : Int) (severity : RiskLevel)
    (status : DocumentStatus) (store : DocumentStore) : DocumentStore :=
  { updateDocument docId tenantId (ratedDocument score severity status)
      (ratedDocument_id score severity status) store with
    scans := store.scans ++ [⟨tenantId, docId, findings⟩]
    findings := store.findings ++
      findings.zipIdx.map (fun f => findingRow docId tenantId f (nextFinding store)) }

/-- A document that is severe waits for an approval. -/
def requestOverride (severity : RiskLevel) (score : Int) : DocumentRun DocumentStatus := do
  if severity.escalates then
    raises calls.approval
    modify (fun store => { store with
      approvals := store.approvals ++
        [⟨"Document Compliance Override: " ++ filename, severity, s!"doc_{docId}"⟩] })
    raises calls.decisionAudit
    modify (DocumentStore.audited tenantId docId "approval_requested"
      (s!"Document flagged as {severity.name} risk (Score: {score}). " ++
        "Verification requested in Approval Queue."))
    return .pendingApproval
  else
    raises calls.decisionAudit
    modify (DocumentStore.audited tenantId docId "auto_approved"
      s!"Document automatically approved. Risk level: {severity.name}.")
    return .completed

/-- `run_document_scan_pipeline`; a scan refers to its document. -/
def runDocumentScanPipeline : DocumentRun (List ScanFinding) := do
  raises calls.extract
  let text := tools.extractText bytes filename
  raises calls.update
  modify (startScan docId bytes tenantId)
  raises calls.startAudit
  modify (DocumentStore.audited tenantId docId "scan_started"
    ("Scan pipeline initiated for document: " ++ filename))
  modify (indexChunks tools calls bytes filename tenantId (splitTextIntoChunks tools.py text))
  let findings := allFindings tools text
  let (score, severity) := riskOf findings
  let status ← requestOverride calls docId filename tenantId severity score
  raises calls.results
  if ((← get).documents.find docId).isNone then throw .database
  modify (storeResults docId tenantId findings score severity status)
  raises calls.endAudit
  modify (DocumentStore.audited tenantId docId "scan_completed"
    (s!"Analysis completed in {calls.durationMs}ms. Risk Score: {score} ({severity.name}). " ++
      s!"Findings Count: {findings.length}"))
  return findings

/-! ## What a scan leaves -/

/-- Nothing raises before the chunks are indexed. -/
def ScanCalls.Begins : Prop :=
  calls.extract = none ∧ calls.update = none ∧ calls.startAudit = none

/-- Nothing raises from there until the results are stored. -/
def ScanCalls.Stores (severity : RiskLevel) (store : DocumentStore) : Prop :=
  (severity.escalates = true → calls.approval = none) ∧ calls.decisionAudit = none ∧
    calls.results = none ∧ (store.documents.find docId).isSome = true

/-- The tables are as they were but for records and approvals. -/
structure SameTables (store store' : DocumentStore) : Prop where
  documents : store'.documents = store.documents
  findings : store'.findings = store.findings
  scans : store'.scans = store.scans
  knowledge : store'.knowledge = store.knowledge
  chunks : store'.chunks = store.chunks
  audits : store.audits <+: store'.audits

/-- The scan has started and its chunks are indexed. -/
def indexedStore (store : DocumentStore) : DocumentStore :=
  indexChunks tools calls bytes filename tenantId
    (splitTextIntoChunks tools.py (tools.extractText bytes filename))
    (DocumentStore.audited tenantId docId "scan_started"
      ("Scan pipeline initiated for document: " ++ filename)
      (startScan docId bytes tenantId store))

/-- The findings of a document, and how it is rated. -/
def foundIn : List ScanFinding :=
  allFindings tools (tools.extractText bytes filename)

/-- How far a scan comes. -/
inductive ScanFate (store store' : DocumentStore) : Prop where
  /-- It raises before it has started. -/
  | untouched (h : ¬ calls.Begins) (hstore : store' = store)
  /-- It raises when it has started. -/
  | started (h : ¬ calls.Begins) (hstore : store' = startScan docId bytes tenantId store)
  /-- It raises after its chunks are indexed. -/
  | indexed (h : calls.Begins)
      (hstop : ¬ calls.Stores docId (riskOf (foundIn tools bytes filename)).2 store)
      (hstore : SameTables (indexedStore tools calls docId bytes filename tenantId store) store')
  /-- It stores its results. -/
  | stored (h : calls.Begins)
      (hstores : calls.Stores docId (riskOf (foundIn tools bytes filename)).2 store)
      (status : DocumentStatus) (hstatus : status = .completed ∨ status = .pendingApproval)
      (hstore : SameTables (storeResults docId tenantId (foundIn tools bytes filename)
        (riskOf (foundIn tools bytes filename)).1 (riskOf (foundIn tools bytes filename)).2 status
        (indexedStore tools calls docId bytes filename tenantId store)) store')

end

section

variable {tools : DocumentTools} {calls : ScanCalls} {docId : Int} {bytes : Bytes}
  {filename : String} {tenantId : Option Int} {store store' : DocumentStore}

theorem documents_startScan : (startScan docId bytes tenantId store).documents =
    (updateDocument docId tenantId (startedDocument bytes) (startedDocument_id bytes)
      store).documents :=
  rfl

theorem documents_storeResults {findings : List ScanFinding} {score : Int} {severity : RiskLevel}
    {status : DocumentStatus} :
    (storeResults docId tenantId findings score severity status store).documents =
      (updateDocument docId tenantId (ratedDocument score severity status)
        (ratedDocument_id score severity status) store).documents :=
  rfl

theorem SameTables.refl (store : DocumentStore) : SameTables store store :=
  ⟨rfl, rfl, rfl, rfl, rfl, List.prefix_rfl⟩

theorem SameTables.trans {store'' : DocumentStore} (h : SameTables store store')
    (h' : SameTables store' store'') : SameTables store store'' where
  documents := h'.documents.trans h.documents
  findings := h'.findings.trans h.findings
  scans := h'.scans.trans h.scans
  knowledge := h'.knowledge.trans h.knowledge
  chunks := h'.chunks.trans h.chunks
  audits := h.audits.trans h'.audits

theorem sameTables_audited (action details : String) :
    SameTables store (store.audited tenantId docId action details) :=
  ⟨rfl, rfl, rfl, rfl, rfl, List.prefix_append _ _⟩

/-- A request of an approval that is not made stops the scan. -/
theorem ends_requestOverride (severity : RiskLevel) (score : Int) :
    Ends (requestOverride calls docId filename tenantId severity score) store
      (fun status s => SameTables store s ∧
        (status = .completed ∨ status = .pendingApproval) ∧
        (severity.escalates = true → calls.approval = none) ∧ calls.decisionAudit = none)
      (fun s => SameTables store s ∧
        ¬ ((severity.escalates = true → calls.approval = none) ∧ calls.decisionAudit = none)) := by
  unfold requestOverride
  by_cases hescalates : severity.escalates = true
  · rw [if_pos hescalates]
    cases happroval : calls.approval with
    | some e => exact ⟨.refl _, fun h => by cases h.1 hescalates⟩
    | none =>
        cases haudit : calls.decisionAudit with
        | some e => exact ⟨⟨rfl, rfl, rfl, rfl, rfl, List.prefix_rfl⟩, fun h => by cases h.2⟩
        | none =>
            exact ⟨⟨rfl, rfl, rfl, rfl, rfl, List.prefix_append _ _⟩, Or.inr rfl,
              fun _ => rfl, rfl⟩
  · rw [if_neg hescalates]
    cases haudit : calls.decisionAudit with
    | some e => exact ⟨.refl _, fun h => by cases h.2⟩
    | none =>
        exact ⟨⟨rfl, rfl, rfl, rfl, rfl, List.prefix_append _ _⟩, Or.inl rfl,
          fun h => absurd h hescalates, rfl⟩

/-- A document is there after its scan has started when it was there before. -/
theorem isSome_find_startScan :
    ((startScan docId bytes tenantId store).documents.find docId).isSome =
      (store.documents.find docId).isSome := by
  unfold startScan updateDocument
  dsimp only
  rw [Table.find_update, Option.isSome_map]

/-- Indexing touches chunks and their documents only. -/
theorem indexChunks_rest (chunks : List String) (store : DocumentStore) :
    (indexChunks tools calls bytes filename tenantId chunks store).documents = store.documents ∧
      (indexChunks tools calls bytes filename tenantId chunks store).findings = store.findings ∧
      (indexChunks tools calls bytes filename tenantId chunks store).scans = store.scans ∧
      (indexChunks tools calls bytes filename tenantId chunks store).audits = store.audits := by
  have hrow : ∀ count, (knowledgeRow calls bytes filename tenantId count store).2.documents =
        store.documents ∧
      (knowledgeRow calls bytes filename tenantId count store).2.findings = store.findings ∧
      (knowledgeRow calls bytes filename tenantId count store).2.scans = store.scans ∧
      (knowledgeRow calls bytes filename tenantId count store).2.audits = store.audits := by
    intro count
    unfold knowledgeRow
    cases calls.pickKnowledge.fetch (namedKnowledge filename tenantId) store.knowledge.rows with
    | none => exact ⟨rfl, rfl, rfl, rfl⟩
    | some k => exact ⟨rfl, rfl, rfl, rfl⟩
  unfold indexChunks
  cases calls.knowledge with
  | some e => exact ⟨rfl, rfl, rfl, rfl⟩
  | none =>
      cases calls.chunks with
      | some e => exact hrow chunks.length
      | none => exact hrow chunks.length

theorem documents_indexedStore :
    (indexedStore tools calls docId bytes filename tenantId store).documents =
      (startScan docId bytes tenantId store).documents := by
  unfold indexedStore
  rw [(indexChunks_rest _ _).1]
  rfl

/-- The results are stored in the same way in the same tables. -/
theorem SameTables.storeResults (h : SameTables store store') (docId : Int)
    (tenantId : Option Int) (findings : List ScanFinding) (score : Int) (severity : RiskLevel)
    (status : DocumentStatus) :
    SameTables (storeResults docId tenantId findings score severity status store)
      (storeResults docId tenantId findings score severity status store') where
  documents := by
    unfold Documents.storeResults updateDocument
    rw [h.documents]
  findings := by
    unfold Documents.storeResults nextFinding
    rw [h.findings]
  scans := by
    unfold Documents.storeResults
    rw [h.scans]
  knowledge := h.knowledge
  chunks := h.chunks
  audits := h.audits

/-- A scan stops somewhere, or stores its results; it returns exactly when it has, and nothing is
raised after that. -/
theorem ends_runDocumentScanPipeline :
    Ends (runDocumentScanPipeline tools calls docId bytes filename tenantId) store
      (fun _ s => ScanFate tools calls docId bytes filename tenantId store s ∧ calls.Begins ∧
        calls.Stores docId (riskOf (foundIn tools bytes filename)).2 store)
      (fun s => ScanFate tools calls docId bytes filename tenantId store s ∧ ¬ (calls.Begins ∧
        calls.Stores docId (riskOf (foundIn tools bytes filename)).2 store ∧
          calls.endAudit = none)) := by
  have hunbegun : ∀ {s}, ¬ calls.Begins →
      ScanFate tools calls docId bytes filename tenantId store s →
      ScanFate tools calls docId bytes filename tenantId store s ∧ ¬ (calls.Begins ∧
        calls.Stores docId (riskOf (foundIn tools bytes filename)).2 store ∧
          calls.endAudit = none) :=
    fun h hfate => ⟨hfate, fun hall => h hall.1⟩
  have hunstored : ∀ {s}, calls.Begins →
      ¬ calls.Stores docId (riskOf (foundIn tools bytes filename)).2 store →
      SameTables (indexedStore tools calls docId bytes filename tenantId store) s →
      ScanFate tools calls docId bytes filename tenantId store s ∧ ¬ (calls.Begins ∧
        calls.Stores docId (riskOf (foundIn tools bytes filename)).2 store ∧
          calls.endAudit = none) :=
    fun hbegins h hsame => ⟨.indexed hbegins h hsame, fun hall => h hall.2.1⟩
  unfold runDocumentScanPipeline
  refine ends_raises_bind (fun h => hunbegun (fun hbegins => h hbegins.1)
    (.untouched (fun hbegins => h hbegins.1) rfl)) ?_
  intro hextract
  dsimp only
  refine ends_raises_bind (fun h => hunbegun (fun hbegins => h hbegins.2.1)
    (.untouched (fun hbegins => h hbegins.2.1) rfl)) ?_
  intro hupdate
  rw [ends_modify_bind]
  refine ends_raises_bind (fun h => hunbegun (fun hbegins => h hbegins.2.2)
    (.started (fun hbegins => h hbegins.2.2) rfl)) ?_
  intro hstart
  have hbegins : calls.Begins := ⟨hextract, hupdate, hstart⟩
  rw [ends_modify_bind, ends_modify_bind]
  refine Ends.bind ((ends_requestOverride _ _).mono (fun _ _ h => h) ?_) ?_
  · rintro s ⟨hsame, hstop⟩
    exact hunstored hbegins (fun h => hstop ⟨h.1, h.2.1⟩) hsame
  rintro status s ⟨hsame, hstatus, happroval, haudit⟩
  refine ends_raises_bind
    (fun h => hunstored hbegins (fun hstores => h hstores.2.2.1) hsame) ?_
  intro hresults
  have hfind : (s.documents.find docId).isSome = (store.documents.find docId).isSome := by
    rw [hsame.documents, (indexChunks_rest _ _).1]
    exact isSome_find_startScan
  rw [ends_get_bind]
  by_cases hdocument : (s.documents.find docId).isNone = true
  · have hstop : ¬ (store.documents.find docId).isSome = true := by
      rw [← hfind]
      simpa using hdocument
    rw [if_pos hdocument]
    exact hunstored hbegins (fun hstores => hstop hstores.2.2.2) hsame
  have hstores : calls.Stores docId (riskOf (foundIn tools bytes filename)).2 store := by
    refine ⟨happroval, haudit, hresults, ?_⟩
    rw [← hfind]
    exact Option.isSome_iff_ne_none.mpr (fun hnone => hdocument (by rw [hnone]; rfl))
  have hstored := hsame.storeResults docId tenantId
    (foundIn tools bytes filename) (riskOf (foundIn tools bytes filename)).1
    (riskOf (foundIn tools bytes filename)).2 status
  rw [if_neg hdocument, ends_modify_bind]
  refine ends_raises_bind
    (fun h => ⟨.stored hbegins hstores status hstatus hstored, fun hall => h hall.2.2⟩) ?_
  intro hend
  rw [ends_modify_bind, ends_pure]
  exact ⟨.stored hbegins hstores status hstatus (hstored.trans (sameTables_audited _ _)), hbegins,
    hstores⟩

/-- A scan that returns has stored its results. -/
theorem stored_of_returned {found : List ScanFinding}
    (h : runDocumentScanPipeline tools calls docId bytes filename tenantId store =
      .ok found store') :
    ∃ status, (status = DocumentStatus.completed ∨ status = .pendingApproval) ∧
      SameTables (storeResults docId tenantId (foundIn tools bytes filename)
        (riskOf (foundIn tools bytes filename)).1 (riskOf (foundIn tools bytes filename)).2 status
        (indexedStore tools calls docId bytes filename tenantId store)) store' := by
  have hends := @ends_runDocumentScanPipeline tools calls docId bytes filename tenantId store
  unfold Ends at hends
  rw [h] at hends
  rcases hends with ⟨hfate, hbegins, hstores⟩
  cases hfate with
  | untouched hstop => exact absurd hbegins hstop
  | started hstop => exact absurd hbegins hstop
  | indexed _ hstop => exact absurd hstores hstop
  | stored _ _ status hstatus hstore => exact ⟨status, hstatus, hstore⟩

/-- No call raises. -/
def quietCalls : ScanCalls where
  extract := none
  update := none
  startAudit := none
  pickKnowledge := .first
  knowledge := none
  chunks := none
  approval := none
  decisionAudit := none
  results := none
  endAudit := none
  durationMs := 0

/-- Files are texts of ASCII, the scanner finds nothing, and embeddings are left out. -/
def plainTools : DocumentTools where
  py := asciiText
  extractText := fun bytes _ => String.ofList (bytes.map (fun b => Char.ofNat b.toNat))
  scanText := fun _ => []
  embed := fun _ => "[]"

/-- `ok`. -/
def okBytes : Bytes :=
  [111, 107]

/-- The scan of a document that is there returns when no call raises. -/
theorem returns_of_quiet (hdocument : (store.documents.find docId).isSome = true) :
    ∃ found store', runDocumentScanPipeline tools quietCalls docId bytes filename tenantId store =
      .ok found store' := by
  have hends := @ends_runDocumentScanPipeline tools quietCalls docId bytes filename tenantId store
  unfold Ends at hends
  cases hexit : runDocumentScanPipeline tools quietCalls docId bytes filename tenantId store with
  | ok found store' => exact ⟨found, store', rfl⟩
  | error e store' =>
      rw [hexit] at hends
      exact absurd ⟨⟨rfl, rfl, rfl⟩, ⟨fun _ => rfl, rfl, rfl, hdocument⟩, rfl⟩ hends.2

/-- A scan that returns is stored. -/
theorem scans_of_returned {found : List ScanFinding}
    (h : runDocumentScanPipeline tools calls docId bytes filename tenantId store =
      .ok found store') :
    store'.scans = store.scans ++ [⟨tenantId, docId, foundIn tools bytes filename⟩] := by
  rcases stored_of_returned h with ⟨status, -, hstore⟩
  rw [hstore.scans, storeResults]
  dsimp only
  rw [indexedStore, (indexChunks_rest _ _).2.2.1]
  rfl

end

end AuthClaw.Documents
