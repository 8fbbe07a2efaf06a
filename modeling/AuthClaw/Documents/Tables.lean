import AuthClaw.Library.Keyed
import Mathlib.Algebra.Ring.Int.Defs

/-!
# The tables of the document pipeline

The documents, what their scans have found, the chunks that are searched, and the records of what
was done with them.
-/

namespace AuthClaw.Documents

open Rows

/-- The clouds that are synced. -/
inductive CloudSource where
  | s3
  | gdrive
  | onedrive
  | sharepoint
  | dropbox
deriving DecidableEq

def CloudSource.name : CloudSource → String
  | .s3 => "s3"
  | .gdrive => "gdrive"
  | .onedrive => "onedrive"
  | .sharepoint => "sharepoint"
  | .dropbox => "dropbox"

/-- Where a document is from. -/
inductive DocumentSource where
  | cloud (src : CloudSource)
  | other (name : String)
deriving DecidableEq

/-- The statuses that the sync and the pipeline write or ask for; `sourceDeleted src` is
`<src>_deleted`. -/
inductive DocumentStatus where
  | pending
  | scanning
  | completed
  | pendingApproval
  | deleted
  | sourceDeleted (src : CloudSource)
  | other (text : String)
deriving DecidableEq

/-- `status IN ('deleted', 's3_deleted')`. -/
def DocumentStatus.inDeleted (status : DocumentStatus) : Bool :=
  decide (status ∈ [DocumentStatus.deleted, .sourceDeleted .s3])

/-- The risk of a finding, and the severity of a document. -/
inductive RiskLevel where
  | low
  | medium
  | high
  | critical
deriving DecidableEq

def RiskLevel.name : RiskLevel → String
  | .low => "LOW"
  | .medium => "MEDIUM"
  | .high => "HIGH"
  | .critical => "CRITICAL"

/-- A row of `documents`. -/
structure Document where
  id : Int
  tenantId : Option Int
  filename : String
  source : DocumentSource
  status : DocumentStatus
  sizeBytes : Int
  riskScore : Int
  severity : RiskLevel
deriving DecidableEq

/-- What a scan reports. -/
structure ScanFinding where
  findingType : String
  matchedPattern : String
  matchedText : String
  riskLevel : RiskLevel
  recommendation : String
  impact : String
  priority : String
  locationEvidence : String
deriving DecidableEq

/-- A row of `document_findings`. -/
structure DocumentFinding where
  id : Int
  tenantId : Option Int
  documentId : Int
  findingType : String
  matchedPattern : String
  matchedText : String
  riskLevel : String
  recommendation : String
  impact : Option String
  priority : Option String
  locationEvidence : Option String
deriving DecidableEq

/-- A row of `document_scans`. -/
structure DocumentScan where
  tenantId : Option Int
  documentId : Int
  rawFindings : List ScanFinding
deriving DecidableEq

/-- A row of `document_audits`. -/
structure DocumentAudit where
  tenantId : Option Int
  documentId : Int
  action : String
  actor : String
  details : String
deriving DecidableEq

/-- A row of `knowledge_documents`. -/
structure KnowledgeDocument where
  id : Int
  tenantId : Option Int
  name : String
  sizeBytes : Int
  chunksCount : Nat
deriving DecidableEq

/-- A row of `knowledge_chunks`. -/
structure KnowledgeChunk where
  tenantId : Option Int
  documentId : Int
  content : String
  embeddingVector : String
deriving DecidableEq

/-- An approval that is asked for. -/
structure OverrideRequest where
  query : String
  riskLevel : RiskLevel
  sessionId : String
deriving DecidableEq

/-- The tables. -/
structure DocumentStore where
  documents : Table Document.id
  findings : List DocumentFinding
  scans : List DocumentScan
  audits : List DocumentAudit
  knowledge : Table KnowledgeDocument.id
  chunks : List KnowledgeChunk
  approvals : List OverrideRequest

/-- The tables with a record of what was done with a document, as `create_document_audit` leaves
them. -/
def DocumentStore.audited (tenantId : Option Int) (documentId : Int) (action details : String)
    (store : DocumentStore) : DocumentStore :=
  { store with audits := store.audits ++ [⟨tenantId, documentId, action, "system", details⟩] }

end AuthClaw.Documents
