import AuthClaw.Library.JsonText
import AuthClaw.Library.HashChain

/-!
# Audit rows and their hash

The columns of `audit_logs`, the canonical record that `calculate_record_hash`
serialises, and the digest of it.  SHA-256 is a parameter; its input is the
exact JSON text.

Main results:

- Theorem {lit}`hashData_injective`: the serialised members determine the
  normalised record and the previous hash.
- Theorem {lit}`digest_inj`: with an injective hash, so does the digest.
-/

namespace AuthClaw.Audit

open JsonText HashChain

/-! ## Timestamps -/

/-- A `TIMESTAMP` column value, a naive Python `datetime`. -/
structure Timestamp where
  year : Nat
  month : Nat
  day : Nat
  hour : Nat
  minute : Nat
  second : Nat
  microsecond : Nat
deriving DecidableEq

/-- Decimal text padded with zeros on the left. -/
def zeroPad (width n : Nat) : String :=
  String.ofList (List.replicate (width - n.repr.length) '0') ++ n.repr

/-- `datetime.isoformat()`: the fraction is omitted when it is zero. -/
def Timestamp.isoformat (t : Timestamp) : String :=
  zeroPad 4 t.year ++ "-" ++ zeroPad 2 t.month ++ "-" ++ zeroPad 2 t.day ++ "T" ++
    zeroPad 2 t.hour ++ ":" ++ zeroPad 2 t.minute ++ ":" ++ zeroPad 2 t.second ++
    (if t.microsecond = 0 then "" else "." ++ zeroPad 6 t.microsecond)

/-- `created_at.isoformat()`, or `str(created_at)` for a null column. -/
def createdAtText : Option Timestamp → String
  | some t => t.isoformat
  | none => "None"

/-- `first or second` on nullable texts: a missing or empty text gives way. -/
def orElse (first second : Option String) : Option String :=
  match first with
  | some s => if s = "" then second else some s
  | none => second

/-! ## Rows -/

/-- One row of `audit_logs`; null columns are {lean}`none`. -/
structure AuditRow where
  id : Int
  userQuery : Option String
  response : Option String
  allowed : Option Bool
  createdAt : Option Timestamp
  riskLevel : Option String
  approvalStatus : Option String
  integrityHash : Option String
  previousHash : Option String
  approvalId : Option String
  approver : Option String
  originalRequest : Option String
  approvalTimestamp : Option Timestamp
  executionTimestamp : Option Timestamp
  executionStatus : Option String
  policyName : Option String
  policyType : Option String
  matchedPattern : Option String
  redactedValue : Option String
  username : Option String
  tenantId : Option Int
deriving DecidableEq

/-- The record dictionary handed to `calculate_record_hash`. -/
structure AuditRecord where
  recordId : Int
  userQuery : Option String
  response : Option String
  allowed : Option Bool
  createdAt : Option Timestamp
  riskLevel : Option String
  approvalStatus : Option String
deriving DecidableEq

/-- The record dictionary the verifier builds from a row. -/
def AuditRow.record (r : AuditRow) : AuditRecord where
  recordId := r.id
  userQuery := r.userQuery
  response := r.response
  allowed := r.allowed
  createdAt := r.createdAt
  riskLevel := r.riskLevel
  approvalStatus := r.approvalStatus

/-! ## The hashed record -/

/-- The first hash of a chain continues sixty-four zeros. -/
def genesisHash : String :=
  String.ofList (List.replicate 64 '0')

theorem genesisHash_toList : genesisHash.toList = List.replicate 64 '0' :=
  String.toList_ofList

/-- A record after normalisation: missing texts are empty, the decision is a
truth value and the timestamp is text. -/
structure HashedFields where
  recordId : Int
  userQuery : String
  response : String
  allowed : Bool
  createdAt : String
  riskLevel : String
  approvalStatus : String
deriving DecidableEq

/-- The normalisation `calculate_record_hash` applies to a record. -/
def AuditRecord.normalise (record : AuditRecord) : HashedFields where
  recordId := record.recordId
  userQuery := record.userQuery.getD ""
  response := record.response.getD ""
  allowed := record.allowed.getD false
  createdAt := createdAtText record.createdAt
  riskLevel := record.riskLevel.getD ""
  approvalStatus := record.approvalStatus.getD ""

/-- The members of `hash_data` in the order `sort_keys` gives them. -/
def hashData (fields : HashedFields) (previousHash : String) : List (String × Scalar) :=
  [("allowed", .bool fields.allowed),
    ("approval_status", .str fields.approvalStatus),
    ("created_at", .str fields.createdAt),
    ("previous_hash", .str previousHash),
    ("record_id", .int fields.recordId),
    ("response", .str fields.response),
    ("risk_level", .str fields.riskLevel),
    ("user_query", .str fields.userQuery)]

/-- Digest of a normalised record and the previous hash. -/
def digest (sha256 : String → String) (fields : HashedFields) (previousHash : String) : String :=
  sha256 (String.ofList (encodeObject (hashData fields previousHash)))

/-- `calculate_record_hash`. -/
def calculateRecordHash (sha256 : String → String) (record : AuditRecord)
    (previousHash : String) : String :=
  digest sha256 record.normalise previousHash

/-- The serialised members determine the normalised record and the previous
hash. -/
theorem hashData_injective {f g : HashedFields} {p q : String}
    (h : hashData f p = hashData g q) : f = g ∧ p = q := by
  cases f
  cases g
  simp_all [hashData]

/-- With an injective hash the digest determines the record and the previous
hash. -/
theorem digest_inj {sha256 : String → String} (hinj : Function.Injective sha256)
    (f : HashedFields) (p : String) (g : HashedFields) (q : String)
    (h : digest sha256 f p = digest sha256 g q) : f = g ∧ p = q := by
  have htext := String.ofList_injective (hinj h)
  exact hashData_injective (encodeObject_injective htext)

/-- A concrete hash that satisfies the two assumptions made on SHA-256. -/
def prefixHash (text : String) : String :=
  "#" ++ text

theorem prefixHash_injective : Function.Injective prefixHash := by
  intro a b h
  have hchars := congrArg String.toList h
  simp only [prefixHash, String.toList_append, List.append_cancel_left_eq] at hchars
  exact String.toList_injective hchars

theorem prefixHash_ne_genesis (text : String) : prefixHash text ≠ genesisHash := by
  intro h
  have hmem : '#' ∈ genesisHash.toList := by
    rw [← h]
    simp [prefixHash]
  rw [genesisHash_toList] at hmem
  have hzero : '#' = '0' := List.eq_of_mem_replicate hmem
  simp at hzero

/-- A row that carries both hash columns, as a link of a chain. -/
def AuditRow.link? (r : AuditRow) : Option (Link HashedFields String) :=
  match r.integrityHash, r.previousHash with
  | some hash, some prev => some { payload := r.record.normalise, prev := prev, hash := hash }
  | _, _ => none

theorem AuditRow.link?_eq_some_iff {r : AuditRow} {l : Link HashedFields String} :
    r.link? = some l ↔
      r.integrityHash = some l.hash ∧ r.previousHash = some l.prev ∧
        r.record.normalise = l.payload := by
  cases hi : r.integrityHash with
  | none => simp [AuditRow.link?, hi]
  | some hash =>
      cases hp : r.previousHash with
      | none => simp [AuditRow.link?, hi, hp]
      | some prev =>
          simp only [AuditRow.link?, hi, hp, Option.some.injEq]
          constructor
          · rintro rfl
            exact ⟨rfl, rfl, rfl⟩
          · rintro ⟨h₁, h₂, h₃⟩
            exact Link.ext h₃ h₂ h₁

end AuthClaw.Audit
