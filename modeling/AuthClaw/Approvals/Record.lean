import AuthClaw.Policy.Rules

/-!
# Approval records

The record of one approval, as the store keeps it, and its writes.  A record is a
dictionary whose item assignment persists the whole row, so a handler is a list of
writes, each applied to its record and then written back in full.

Main results:

- Theorem {lit}`apply_status`: only a status write changes the status.
- Theorems {lit}`apply_approvalMfaCounter` and {lit}`apply_executionMfaCounter`: the
  same for the two counters.
- Theorem {lit}`upsertRow_status`: writing a record back leaves its status.
-/

namespace AuthClaw.Approvals

/-! ## Records -/

/-- The values of `status`. -/
inductive Status where
  | pending
  | approved
  | rejected
  | expired
  | executing
  | executed
  | executionFailed
deriving DecidableEq

/-- The text of a status. -/
def Status.text : Status → String
  | .pending => "pending"
  | .approved => "approved"
  | .rejected => "rejected"
  | .expired => "expired"
  | .executing => "executing"
  | .executed => "executed"
  | .executionFailed => "execution_failed"

/-- The statuses in which an execution has been claimed. -/
def Status.claimed : Status → Bool
  | .executing => true
  | .executed => true
  | .executionFailed => true
  | _ => false

/-- The statuses an approval ends in. -/
def Status.terminal : Status → Bool
  | .rejected => true
  | .expired => true
  | .executed => true
  | .executionFailed => true
  | _ => false

/-- A point in time, in microseconds. -/
abbrev Instant := Int

/-- `timedelta(minutes=m)`. -/
def minutes (m : Int) : Int :=
  m * 60000000

/-- An event with a comment, as `append_approval_audit` keeps it on the record. -/
structure Comment where
  action : String
  actor : String
  comment : String
  mfaVerified : Bool
  reason : String
  createdAt : Instant
deriving DecidableEq

/-- An approval record. -/
structure Record where
  approvalId : String
  requestId : String
  correlationId : String
  tenantId : Option Int
  status : Status
  createdAt : Instant
  expiresAt : Option Instant
  approvedAt : Option Instant
  rejectedAt : Option Instant
  executedAt : Option Instant
  requestedAction : String
  query : String
  riskLevel : String
  reason : String
  comments : List Comment
  approvedBy : Option String
  rejectedBy : Option String
  executedBy : Option String
  mfaVerified : Bool
  approvalMfaVerified : Bool
  executionMfaVerified : Bool
  approvalMfaBindingHash : Option String
  executionMfaBindingHash : Option String
  approvalMfaCounter : Option Int
  executionMfaCounter : Option Int
  executionTokenHash : Option String
  executionTokenUsedAt : Option Instant
  executionExpiresAt : Option Instant
  lastActionAt : Option Instant
  /-- `metadata["execution_target"]`. -/
  executionTarget : Option String
deriving DecidableEq

/-- The arguments of `create_approval`. -/
structure CreateArgs where
  query : String
  riskLevel : String
  sessionId : String
  tenantId : Option Int
  requestId : Option String
  reason : Option String
  executionTarget : Option String

/-- The record `create_approval` stores, under the identifiers it draws. -/
def newRecord (approvalId freshRequest freshCorrelation : String) (expiryMinutes : Int)
    (now : Instant) (args : CreateArgs) : Record where
  approvalId := approvalId
  requestId := (args.requestId.filter (· ≠ "")).getD freshRequest
  correlationId := if args.sessionId = "" then freshCorrelation else args.sessionId
  tenantId := args.tenantId
  status := .pending
  createdAt := now
  expiresAt := some (now + minutes expiryMinutes)
  approvedAt := none
  rejectedAt := none
  executedAt := none
  requestedAction := args.query
  query := args.query
  riskLevel := args.riskLevel
  reason := (args.reason.filter (· ≠ "")).getD "high_risk"
  comments := []
  approvedBy := none
  rejectedBy := none
  executedBy := none
  mfaVerified := false
  approvalMfaVerified := false
  executionMfaVerified := false
  approvalMfaBindingHash := none
  executionMfaBindingHash := none
  approvalMfaCounter := none
  executionMfaCounter := none
  executionTokenHash := none
  executionTokenUsedAt := none
  executionExpiresAt := none
  lastActionAt := some now
  executionTarget := args.executionTarget

/-! ## Writes -/

/-- Where `last_action_at` is taken from. -/
inductive Stamp where
  | now
  | approvedAt
  | rejectedAt
  | executionTokenUsedAt
  | executedAt
deriving DecidableEq

/-- One item assignment of a handler, and the explicit `_persist_record`. -/
inductive Write where
  | status (s : Status)
  | approvedAt
  | approvedBy (actor : String)
  | mfaVerified (verified : Bool)
  | approvalMfaVerified (verified : Bool)
  | approvalMfaBindingHash (hash : Option String)
  | approvalMfaCounter (counter : Option Int)
  | executionExpiresIn (expiryMinutes : Int)
  | lastActionAt (source : Stamp)
  | rejectedAt
  | rejectedBy (actor : String)
  | executedBy (actor : String)
  | executionMfaVerified
  | executionMfaBindingHash (hash : String)
  | executionMfaCounter (counter : Int)
  | executionTokenHash (hash : String)
  | executionTokenUsedAt
  | executedAt
  | comment (action actor text : String) (mfaVerified : Bool)
  | persist
deriving DecidableEq

/-- The time a stamp stands for. -/
def Stamp.time (now : Instant) (r : Record) : Stamp → Option Instant
  | .now => some now
  | .approvedAt => r.approvedAt
  | .rejectedAt => r.rejectedAt
  | .executionTokenUsedAt => r.executionTokenUsedAt
  | .executedAt => r.executedAt

/-- What a write makes of its record. -/
def Write.apply (now : Instant) (r : Record) : Write → Record
  | .status s => { r with status := s }
  | .approvedAt => { r with approvedAt := some now }
  | .approvedBy actor => { r with approvedBy := some actor }
  | .mfaVerified verified => { r with mfaVerified := verified }
  | .approvalMfaVerified verified => { r with approvalMfaVerified := verified }
  | .approvalMfaBindingHash hash => { r with approvalMfaBindingHash := hash }
  | .approvalMfaCounter counter => { r with approvalMfaCounter := counter }
  | .executionExpiresIn expiryMinutes =>
      { r with executionExpiresAt := some (now + minutes expiryMinutes) }
  | .lastActionAt source => { r with lastActionAt := source.time now r }
  | .rejectedAt => { r with rejectedAt := some now }
  | .rejectedBy actor => { r with rejectedBy := some actor }
  | .executedBy actor => { r with executedBy := some actor }
  | .executionMfaVerified => { r with executionMfaVerified := true }
  | .executionMfaBindingHash hash => { r with executionMfaBindingHash := some hash }
  | .executionMfaCounter counter => { r with executionMfaCounter := some counter }
  | .executionTokenHash hash => { r with executionTokenHash := some hash }
  | .executionTokenUsedAt => { r with executionTokenUsedAt := some now }
  | .executedAt => { r with executedAt := some now }
  | .comment action actor text verified =>
      { r with comments := r.comments ++ [{ action := action, actor := actor, comment := text,
                                            mfaVerified := verified, reason := r.reason,
                                            createdAt := now }] }
  | .persist => r

/-- `append_approval_audit` with an optional comment: without one the record is not
written. -/
def commentWrites (action actor : String) (comment : Option String) (mfaVerified : Bool) :
    List Write :=
  match comment with
  | some text => [.comment action actor text mfaVerified]
  | none => []

/-- A row as the upsert leaves it: an existing row keeps its creation time. -/
def upsertRow (row : Option Record) (r : Record) : Record :=
  match row with
  | some old => { r with createdAt := old.createdAt }
  | none => r

/-- The status a write sets. -/
def Write.newStatus : Write → Option Status
  | .status s => some s
  | _ => none

/-- The counter a write keeps for the approval stage. -/
def Write.newApprovalCounter : Write → Option (Option Int)
  | .approvalMfaCounter counter => some counter
  | _ => none

/-- The counter a write keeps for the execution stage. -/
def Write.newExecutionCounter : Write → Option Int
  | .executionMfaCounter counter => some counter
  | _ => none

section

variable (now : Instant) (r : Record) (w : Write)

@[simp]
theorem apply_approvalId : (w.apply now r).approvalId = r.approvalId := by
  cases w <;> rfl

/-- Only a status write changes the status. -/
@[simp]
theorem apply_status : (w.apply now r).status = w.newStatus.getD r.status := by
  cases w <;> rfl

@[simp]
theorem apply_approvalMfaCounter :
    (w.apply now r).approvalMfaCounter = w.newApprovalCounter.getD r.approvalMfaCounter := by
  cases w <;> rfl

@[simp]
theorem apply_executionMfaCounter :
    (w.apply now r).executionMfaCounter = w.newExecutionCounter.or r.executionMfaCounter := by
  cases w <;> rfl

@[simp]
theorem upsertRow_approvalId (row : Option Record) :
    (upsertRow row r).approvalId = r.approvalId := by
  cases row <;> rfl

@[simp]
theorem upsertRow_status (row : Option Record) : (upsertRow row r).status = r.status := by
  cases row <;> rfl

@[simp]
theorem upsertRow_executionTokenUsedAt (row : Option Record) :
    (upsertRow row r).executionTokenUsedAt = r.executionTokenUsedAt := by
  cases row <;> rfl

end

end AuthClaw.Approvals
