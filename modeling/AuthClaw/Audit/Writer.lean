import AuthClaw.Audit.Verifier

/-!
# The audit block writer

{lit}`create_audit_block` as the three database steps it performs: insert and
commit the row, read the previous hash within the tenant's rows, update the row
with its hashes.  The log carries the facts its identity sequence gives: ids
grow with every insert.

Main results:

- Theorem {lit}`insertBlock_rows`: a committed insert appends one unhashed row.
- Theorem {lit}`previousHashOf_eq_lastHash`: the previous hash is the last hash of
  the tenant's rows below the inserted one.
- Theorem {lit}`createAuditBlock_rows`: an accepted call appends one hashed row.
-/

namespace AuthClaw.Audit

open HashChain

/-! ## Columns -/

/-- A `TEXT` column: the driver refuses the null character. -/
def storeText : Option String → Option (Option String)
  | none => some none
  | some s => if s.toList.contains '\x00' then none else some (some s)

/-- A `VARCHAR(n)` column: longer values are refused, unless everything past the
limit is spaces, which are cut off. -/
def storeVarchar (n : Nat) : Option String → Option (Option String)
  | none => some none
  | some s =>
      if s.toList.contains '\x00' then none
      else if s.toList.length ≤ n then some (some s)
      else if (s.toList.drop n).all (· == ' ') then some (some (String.ofList (s.toList.take n)))
      else none

/-! ## Calls -/

/-- The arguments of `create_audit_block` that reach the table. -/
structure BlockArgs where
  query : Option String
  response : Option String
  allowed : Option Bool
  riskLevel : Option String
  approvalStatus : Option String
  approvalId : Option String
  approver : Option String
  originalRequest : Option String
  approvalTimestamp : Option Timestamp
  executionTimestamp : Option Timestamp
  executionStatus : Option String
  policyName : Option String
  policyType : Option String
  matchedPattern : Option String
  redactedValue : Option String
  username : Option String
  tenantId : Option Int
deriving DecidableEq

/-- One call with what its environment decides: the clock, how many identity
values aborted inserts took since the last one, and whether the database refuses
the row for a reason outside the columns (a foreign key, a lost connection). -/
structure Call where
  args : BlockArgs
  now : Timestamp
  skipped : Nat
  refused : Bool
deriving DecidableEq

/-- The record dictionary a call hashes: its own arguments, and the id and
timestamp the insert returned. -/
def Call.record (c : Call) (id : Int) : AuditRecord where
  recordId := id
  userQuery := c.args.query
  response := c.args.response
  allowed := c.args.allowed
  createdAt := some c.now
  riskLevel := c.args.riskLevel
  approvalStatus := c.args.approvalStatus

/-- `original_request or query`. -/
def BlockArgs.originalOrQuery (a : BlockArgs) : Option String :=
  orElse a.originalRequest a.query

/-- The row the insert stores, or nothing when a column refuses its value. -/
def Call.storedRow (c : Call) (id : Int) : Option AuditRow :=
  if c.refused then none
  else do
    let query ← storeText c.args.query
    let response ← storeText c.args.response
    let riskLevel ← storeVarchar 20 c.args.riskLevel
    let approvalStatus ← storeVarchar 50 c.args.approvalStatus
    let approvalId ← storeVarchar 100 c.args.approvalId
    let approver ← storeVarchar 100 c.args.approver
    let originalRequest ← storeText c.args.originalOrQuery
    let executionStatus ← storeVarchar 50 c.args.executionStatus
    let policyName ← storeVarchar 100 c.args.policyName
    let policyType ← storeVarchar 50 c.args.policyType
    let matchedPattern ← storeVarchar 100 c.args.matchedPattern
    let redactedValue ← storeText c.args.redactedValue
    let username ← storeVarchar 100 c.args.username
    return {
      id := id, userQuery := query, response := response, allowed := c.args.allowed,
      createdAt := some c.now, riskLevel := riskLevel, approvalStatus := approvalStatus,
      integrityHash := none, previousHash := none, approvalId := approvalId,
      approver := approver, originalRequest := originalRequest,
      approvalTimestamp := c.args.approvalTimestamp,
      executionTimestamp := c.args.executionTimestamp, executionStatus := executionStatus,
      policyName := policyName, policyType := policyType, matchedPattern := matchedPattern,
      redactedValue := redactedValue, username := username, tenantId := c.args.tenantId }

private theorem bind_eq_some {α β : Type} {x : Option α} {f : α → Option β} {b : β}
    (h : (x >>= f) = some b) : ∃ a, x = some a ∧ f a = some b :=
  Option.bind_eq_some_iff.mp h

/-- What a stored row has in common with its call. -/
theorem Call.storedRow_spec {c : Call} {id : Int} {r : AuditRow} (h : c.storedRow id = some r) :
    r.id = id ∧ r.tenantId = c.args.tenantId ∧ r.integrityHash = none ∧ r.previousHash = none ∧
      storeText c.args.query = some r.userQuery ∧ storeText c.args.response = some r.response ∧
      storeVarchar 20 c.args.riskLevel = some r.riskLevel ∧
      storeVarchar 50 c.args.approvalStatus = some r.approvalStatus ∧
      r.allowed = c.args.allowed ∧ r.createdAt = some c.now := by
  unfold Call.storedRow at h
  split_ifs at h
  rcases bind_eq_some h with ⟨_, hquery, h⟩
  rcases bind_eq_some h with ⟨_, hresponse, h⟩
  rcases bind_eq_some h with ⟨_, hrisk, h⟩
  rcases bind_eq_some h with ⟨_, happroval, h⟩
  rcases bind_eq_some h with ⟨_, -, h⟩
  rcases bind_eq_some h with ⟨_, -, h⟩
  rcases bind_eq_some h with ⟨_, -, h⟩
  rcases bind_eq_some h with ⟨_, -, h⟩
  rcases bind_eq_some h with ⟨_, -, h⟩
  rcases bind_eq_some h with ⟨_, -, h⟩
  rcases bind_eq_some h with ⟨_, -, h⟩
  rcases bind_eq_some h with ⟨_, -, h⟩
  rcases bind_eq_some h with ⟨_, -, h⟩
  cases h
  exact ⟨rfl, rfl, rfl, rfl, hquery, hresponse, hrisk, happroval, rfl, rfl⟩

private theorem map_bind_congr {α β γ : Type} {x : Option α} {f : α → Option β}
    {g : α → Option γ} {m : β → γ} (h : ∀ a, (f a).map m = g a) :
    (x >>= f).map m = x >>= g := by
  cases x with
  | none => rfl
  | some a => exact h a

/-- Whether a row is stored does not depend on its id. -/
theorem Call.storedRow_map_id (c : Call) (i j : Int) :
    (c.storedRow i).map (fun r => { r with id := j }) = c.storedRow j := by
  unfold Call.storedRow
  by_cases hrefused : c.refused = true
  · rw [if_pos hrefused, if_pos hrefused]
    rfl
  · rw [if_neg hrefused, if_neg hrefused]
    iterate 13 refine map_bind_congr (fun _ => ?_)
    rfl

/-! ## The log -/

/-- The rows of `audit_logs` in id order and the next value of the id sequence. -/
structure AuditLog where
  rows : List AuditRow
  nextId : Int
  ids_lt : ∀ r ∈ rows, r.id < nextId
  ids_increasing : rows.Pairwise (fun a b => a.id < b.id)

/-- A row is determined by its id. -/
theorem AuditLog.eq_of_id_eq (log : AuditLog) {r s : AuditRow} (hr : r ∈ log.rows)
    (hs : s ∈ log.rows) (h : r.id = s.id) : r = s := by
  have hnodup : (log.rows.map AuditRow.id).Nodup :=
    (List.pairwise_map.mpr log.ids_increasing).imp (fun hlt => ne_of_lt hlt)
  exact List.inj_on_of_nodup_map hnodup hr hs h

/-- The table before the first insert. -/
def AuditLog.empty : AuditLog where
  rows := []
  nextId := 1
  ids_lt := by simp
  ids_increasing := List.Pairwise.nil

/-- An aborted insert only takes identity values. -/
def AuditLog.skip (log : AuditLog) (skipped : Nat) : AuditLog where
  rows := log.rows
  nextId := log.nextId + skipped
  ids_lt := by
    intro r hr
    have := log.ids_lt r hr
    omega
  ids_increasing := log.ids_increasing

/-- The committed insert of a row that takes the next identity value. -/
def AuditLog.append (log : AuditLog) (r : AuditRow) (hid : r.id = log.nextId) : AuditLog where
  rows := log.rows ++ [r]
  nextId := log.nextId + 1
  ids_lt := by
    intro s hs
    rcases List.mem_append.mp hs with hs | hs
    · have := log.ids_lt s hs
      omega
    · rw [List.mem_singleton.mp hs]
      omega
  ids_increasing := by
    rw [List.pairwise_append]
    refine ⟨log.ids_increasing, List.pairwise_singleton _ _, ?_⟩
    intro s hs t ht
    rw [List.mem_singleton.mp ht, hid]
    exact log.ids_lt s hs

/-- The hash columns of one row. -/
def AuditRow.withHashes (r : AuditRow) (integrityHash previousHash : String) : AuditRow :=
  { r with integrityHash := some integrityHash, previousHash := some previousHash }

/-- The `UPDATE` of the hash columns `WHERE id = :id`. -/
def setHashes (rows : List AuditRow) (id : Int) (integrityHash previousHash : String) :
    List AuditRow :=
  rows.map (fun r => if r.id = id then r.withHashes integrityHash previousHash else r)

theorem setHashes_ids (rows : List AuditRow) (id : Int) (integrityHash previousHash : String) :
    (setHashes rows id integrityHash previousHash).map AuditRow.id = rows.map AuditRow.id := by
  unfold setHashes
  rw [List.map_map]
  apply List.map_congr_left
  intro r _
  by_cases h : r.id = id <;> simp [h, AuditRow.withHashes]

/-- The committed update of the hash columns. -/
def AuditLog.update (log : AuditLog) (id : Int) (integrityHash previousHash : String) :
    AuditLog where
  rows := setHashes log.rows id integrityHash previousHash
  nextId := log.nextId
  ids_lt := by
    intro r hr
    have hid : r.id ∈ log.rows.map AuditRow.id := by
      rw [← setHashes_ids log.rows id integrityHash previousHash]
      exact List.mem_map_of_mem hr
    rcases List.mem_map.mp hid with ⟨s, hs, hsid⟩
    rw [← hsid]
    exact log.ids_lt s hs
  ids_increasing := by
    rw [← List.pairwise_map (f := AuditRow.id) (R := (· < ·)), setHashes_ids,
      List.pairwise_map]
    exact log.ids_increasing

/-! ## The steps of a call -/

/-- What a call keeps between its steps: the record it hashes and its tenant. -/
structure Pending where
  record : AuditRecord
  tenantId : Option Int
deriving DecidableEq

/-- The first step: insert the row and commit.  An aborted insert leaves no
row. -/
def insertBlock (log : AuditLog) (c : Call) : AuditLog × Option Pending :=
  match hrow : c.storedRow (log.nextId + c.skipped) with
  | none => (log.skip c.skipped, none)
  | some r =>
      ((log.skip c.skipped).append r (Call.storedRow_spec hrow).1,
        some { record := c.record r.id, tenantId := c.args.tenantId })

/-- The second step: the last hash of the tenant's rows below the inserted id.  A
null tenant matches the rows without a tenant. -/
def previousHashOf (rows : List AuditRow) (insertedId : Int) (tenantId : Option Int) : String :=
  match (rows.filter (fun r =>
      decide (r.id < insertedId) && r.integrityHash.isSome && r.tenantId == tenantId)).getLast? with
  | some r => r.integrityHash.getD genesisHash
  | none => genesisHash

/-- The third step: store both hashes in the inserted row and commit. -/
def updateBlock (sha256 : String → String) (log : AuditLog) (p : Pending)
    (previousHash : String) : AuditLog :=
  log.update p.record.recordId (calculateRecordHash sha256 p.record previousHash) previousHash

/-- `create_audit_block`, its steps run one after another. -/
def createAuditBlock (sha256 : String → String) (log : AuditLog) (c : Call) : AuditLog :=
  match insertBlock log c with
  | (log, none) => log
  | (log, some p) =>
      updateBlock sha256 log p (previousHashOf log.rows p.record.recordId p.tenantId)

/-! ## What the steps do -/

/-- The rows of one tenant key; the rows without a tenant share the null key. -/
def tenantRows (rows : List AuditRow) (tenantId : Option Int) : List AuditRow :=
  rows.filter (fun r => r.tenantId == tenantId)

theorem tenantRows_append (rows rest : List AuditRow) (tenantId : Option Int) :
    tenantRows (rows ++ rest) tenantId = tenantRows rows tenantId ++ tenantRows rest tenantId :=
  List.filter_append _ _

/-- A refused call stores nothing. -/
theorem insertBlock_refused {log : AuditLog} {c : Call}
    (h : c.storedRow (log.nextId + c.skipped) = none) :
    insertBlock log c = (log.skip c.skipped, none) := by
  unfold insertBlock
  split
  · rfl
  · rename_i r hrow
    rw [h] at hrow
    cases hrow

/-- An accepted call appends its stored row and keeps its record. -/
theorem insertBlock_rows {log : AuditLog} {c : Call} {r : AuditRow}
    (h : c.storedRow (log.nextId + c.skipped) = some r) :
    (insertBlock log c).1.rows = log.rows ++ [r] ∧
      (insertBlock log c).1.nextId = log.nextId + c.skipped + 1 ∧
      (insertBlock log c).2 = some ⟨c.record r.id, c.args.tenantId⟩ := by
  unfold insertBlock
  split
  · rename_i hrow
    rw [h] at hrow
    cases hrow
  · rename_i s hrow
    have hs : r = s := by
      rw [h] at hrow
      exact Option.some.inj hrow
    subst hs
    exact ⟨rfl, rfl, rfl⟩

/-- Passing over unhashed rows and taking the last is the last hash. -/
theorem lastHash_eq_getLast? (rows : List AuditRow) :
    lastHash genesisHash rows =
      match (rows.filter (fun r => r.integrityHash.isSome)).getLast? with
      | some r => r.integrityHash.getD genesisHash
      | none => genesisHash := by
  induction rows using List.reverseRecOn with
  | nil => rfl
  | append_singleton rows r ih =>
      rw [lastHash_append, List.filter_append]
      cases hr : r.integrityHash with
      | none => simp [lastHash, hr, ih]
      | some hash => simp [lastHash, hr]

/-- The query reads the last hash of the tenant's rows below the inserted id. -/
theorem previousHashOf_eq_lastHash (rows : List AuditRow) (insertedId : Int)
    (tenantId : Option Int) :
    previousHashOf rows insertedId tenantId =
      lastHash genesisHash
        (tenantRows (rows.filter (fun r => decide (r.id < insertedId))) tenantId) := by
  rw [lastHash_eq_getLast?]
  unfold previousHashOf tenantRows
  rw [List.filter_filter, List.filter_filter]
  have hpred : (fun r : AuditRow => decide (r.id < insertedId) && r.integrityHash.isSome &&
      r.tenantId == tenantId) =
      (fun r =>
        r.integrityHash.isSome && r.tenantId == tenantId && decide (r.id < insertedId)) := by
    funext r
    cases decide (r.id < insertedId) <;> cases r.integrityHash.isSome <;> simp
  rw [hpred]

/-- A row inserted at the end continues the last hash of its tenant's rows. -/
theorem previousHashOf_append {rows : List AuditRow} {r : AuditRow} (tenantId : Option Int)
    (hlt : ∀ s ∈ rows, s.id < r.id) :
    previousHashOf (rows ++ [r]) r.id tenantId =
      lastHash genesisHash (tenantRows rows tenantId) := by
  rw [previousHashOf_eq_lastHash, List.filter_append]
  have hrows : rows.filter (fun s => decide (s.id < r.id)) = rows := by
    rw [List.filter_eq_self]
    intro s hs
    simpa using hlt s hs
  simp [hrows]

/-- The update touches the inserted row alone. -/
theorem setHashes_append {rows : List AuditRow} {r : AuditRow} (integrityHash previousHash : String)
    (hlt : ∀ s ∈ rows, s.id < r.id) :
    setHashes (rows ++ [r]) r.id integrityHash previousHash =
      rows ++ [r.withHashes integrityHash previousHash] := by
  unfold setHashes
  rw [List.map_append, List.map_singleton, if_pos rfl]
  have hrows : rows.map (fun s => if s.id = r.id then s.withHashes integrityHash previousHash
      else s) = rows := by
    conv_rhs => rw [← List.map_id rows]
    apply List.map_congr_left
    intro s hs
    have hlt' := hlt s hs
    exact if_neg (by omega)
  rw [hrows]

/-- A refused call leaves the rows as they were. -/
theorem createAuditBlock_refused {sha256 : String → String} {log : AuditLog} {c : Call}
    (h : c.storedRow (log.nextId + c.skipped) = none) :
    createAuditBlock sha256 log c = log.skip c.skipped := by
  unfold createAuditBlock
  rw [insertBlock_refused h]

/-- The stored row with the hash of the call's own record. -/
def Call.hashedRow (sha256 : String → String) (c : Call) (r : AuditRow) (previousHash : String) :
    AuditRow :=
  r.withHashes (calculateRecordHash sha256 (c.record r.id) previousHash) previousHash

/-- An accepted call appends one hashed row, which continues the last hash of its
tenant's rows. -/
theorem createAuditBlock_rows {sha256 : String → String} {log : AuditLog} {c : Call}
    {r : AuditRow} (h : c.storedRow (log.nextId + c.skipped) = some r) :
    (createAuditBlock sha256 log c).rows = log.rows ++ [c.hashedRow sha256 r
        (lastHash genesisHash (tenantRows log.rows c.args.tenantId))] ∧
      (createAuditBlock sha256 log c).nextId = log.nextId + c.skipped + 1 := by
  rcases insertBlock_rows h with ⟨hrows, hnext, hpending⟩
  have hid := (Call.storedRow_spec h).1
  have hlt : ∀ s ∈ log.rows, s.id < r.id := by
    intro s hs
    have := log.ids_lt s hs
    omega
  unfold createAuditBlock
  rcases hinsert : insertBlock log c with ⟨log', pending⟩
  rw [hinsert] at hrows hnext hpending
  simp only at hrows hnext hpending
  subst hpending
  constructor
  · simp only [updateBlock, AuditLog.update, hrows]
    have hprev := previousHashOf_append c.args.tenantId hlt
    simp only [Call.record] at hprev ⊢
    rw [hprev, setHashes_append _ _ hlt]
    rfl
  · exact hnext

end AuthClaw.Audit
