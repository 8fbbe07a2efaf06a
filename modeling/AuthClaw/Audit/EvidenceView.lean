import AuthClaw.Audit.TamperEvidence

/-!
# The audit view and what its columns are evidence of

The entries {lit}`GET /audit/hash-chain` shows for a tenant, and edits of one stored
row that leave the integrity hash as it is.  The view shows more columns than the
hash covers.

Main results:

- Theorem {lit}`hashedColumns_eq_of_hash_eq`: in two chained lists the rows of one
  integrity hash agree on the hashed columns.
- Theorem {lit}`earlier_kept_of_chained`: a chained list that keeps a row keeps the
  rows before it.
- Theorem {lit}`displayed_columns_evidence`: which displayed columns the chain of
  the tenant protects.
-/

namespace AuthClaw.Audit

open HashChain

/-! ## The view -/

/-- One entry of the view, without the members that repeat another one. -/
structure AuditEntry where
  recordId : Int
  previousHash : Option String
  integrityHash : Option String
  timestamp : String
  approvalId : Option String
  userQuery : Option String
  approver : Option String
  approvalStatus : Option String
  originalRequest : Option String
  approvalTimestamp : Option String
  executionTimestamp : Option String
  executionStatus : Option String
  tenantId : Option Int
  username : Option String
  riskLevel : Option String
  allowed : Option Bool
  response : Option String
  securityDecision : String
  policyDecision : Option String
deriving DecidableEq

/-- The entry of one row. -/
def AuditRow.entry (r : AuditRow) : AuditEntry where
  recordId := r.id
  previousHash := r.previousHash
  integrityHash := r.integrityHash
  timestamp := createdAtText r.createdAt
  approvalId := r.approvalId
  userQuery := r.userQuery
  approver := r.approver
  approvalStatus := r.approvalStatus
  originalRequest := orElse r.originalRequest r.userQuery
  approvalTimestamp := r.approvalTimestamp.map Timestamp.isoformat
  executionTimestamp := r.executionTimestamp.map Timestamp.isoformat
  executionStatus := orElse r.executionStatus r.approvalStatus
  tenantId := r.tenantId
  username := r.username
  riskLevel := r.riskLevel
  allowed := r.allowed
  response := r.response
  securityDecision := if r.allowed.getD false then "ALLOW" else "BLOCK"
  policyDecision := orElse (orElse r.policyName r.policyType) r.approvalStatus

/-- `get_audit_hash_chain`: the last hashed rows of a tenant, newest first. -/
def auditHashChain (table : List AuditRow) (tenantId : Int) (limit : Nat) : List AuditEntry :=
  (((table.filter (fun r => r.integrityHash.isSome && r.tenantId == some tenantId)).insertionSort
    (fun a b => b.id ≤ a.id)).take limit).map AuditRow.entry

/-- The view shows the hashed rows of the tenant and no other row. -/
theorem mem_auditHashChain {table : List AuditRow} {tenantId : Int} {limit : Nat}
    (hlimit : table.length ≤ limit) {e : AuditEntry} :
    e ∈ auditHashChain table tenantId limit ↔
      ∃ r ∈ table, r.integrityHash ≠ none ∧ r.tenantId = some tenantId ∧ r.entry = e := by
  unfold auditHashChain
  rw [List.take_of_length_le]
  · rw [List.mem_map]
    constructor
    · rintro ⟨r, hr, hentry⟩
      rw [List.mem_insertionSort, List.mem_filter] at hr
      rcases hr with ⟨hr, hshown⟩
      simp only [Bool.and_eq_true, Option.isSome_iff_ne_none, beq_iff_eq] at hshown
      exact ⟨r, hr, hshown.1, hshown.2, hentry⟩
    · rintro ⟨r, hr, hhash, htenant, hentry⟩
      refine ⟨r, ?_, hentry⟩
      rw [List.mem_insertionSort, List.mem_filter]
      simp only [Bool.and_eq_true, Option.isSome_iff_ne_none, beq_iff_eq]
      exact ⟨hr, hhash, htenant⟩
  · rw [List.length_insertionSort]
    exact le_trans (List.length_filter_le _ _) hlimit

/-! ## Edits of one row -/

/-- An `UPDATE ... WHERE id = :id` that leaves {lit}`edited` in place of the row. -/
def updateRow (table : List AuditRow) (id : Int) (edited : AuditRow) : List AuditRow :=
  table.map (fun s => if s.id = id then edited else s)

theorem mem_updateRow {table : List AuditRow} {id : Int} {edited s : AuditRow} :
    s ∈ updateRow table id edited ↔
      (s = edited ∧ ∃ a ∈ table, a.id = id) ∨ (s ∈ table ∧ s.id ≠ id) := by
  unfold updateRow
  rw [List.mem_map]
  constructor
  · rintro ⟨a, ha, hs⟩
    by_cases hid : a.id = id
    · rw [if_pos hid] at hs
      exact Or.inl ⟨hs.symm, a, ha, hid⟩
    · rw [if_neg hid] at hs
      rw [← hs]
      exact Or.inr ⟨ha, hid⟩
  · rintro (⟨rfl, a, ha, hid⟩ | ⟨hs, hid⟩)
    · exact ⟨a, ha, if_pos hid⟩
    · exact ⟨s, hs, if_neg hid⟩

theorem mem_selectRows {table : List AuditRow} {t : Int} {r : AuditRow} :
    r ∈ selectRows table (some t) ↔ r ∈ table ∧ r.tenantId = some t := by
  unfold selectRows
  rw [List.mem_insertionSort, List.mem_filter]
  simp [ofTenant]

/-- The selected rows are in id order. -/
theorem selectRows_sorted (table : List AuditRow) (tenantId : Option Int) :
    (selectRows table tenantId).Pairwise (fun a b => a.id ≤ b.id) :=
  List.pairwise_insertionSort _ _

section

variable {sha256 : String → String} (hinj : Function.Injective sha256)

/-- A row of a chain is hashed over its record and its previous hash. -/
theorem RowsChained.hashed {start : String} {rows : List AuditRow}
    (h : RowsChained sha256 start rows) {r : AuditRow} (hr : r ∈ rows) :
    ∃ previousHash, r.previousHash = some previousHash ∧
      r.integrityHash = some (calculateRecordHash sha256 r.record previousHash) := by
  rcases List.append_of_mem hr with ⟨before, after, rfl⟩
  rcases rowsChained_cons.mp (rowsChained_append.mp h).2 with ⟨hash, hhash, hprev, hdigest, -⟩
  exact ⟨_, hprev, by rw [hhash, hdigest]⟩

include hinj in
/-- In two chained lists the rows of one integrity hash agree on the hashed
columns. -/
theorem hashedColumns_eq_of_hash_eq {start start' : String} {rows rows' : List AuditRow}
    (h : RowsChained sha256 start rows) (h' : RowsChained sha256 start' rows') {r r' : AuditRow}
    (hr : r ∈ rows) (hr' : r' ∈ rows') (hsame : r'.integrityHash = r.integrityHash) :
    r'.hashedColumns = r.hashedColumns := by
  rcases h.hashed hr with ⟨p, hp, hhash⟩
  rcases h'.hashed hr' with ⟨p', hp', hhash'⟩
  rw [hhash, hhash', Option.some.injEq] at hsame
  rcases digest_inj hinj _ _ _ _ hsame with ⟨hrecord, hprev⟩
  unfold AuditRow.hashedColumns
  rw [hp, hp', hrecord, hprev]

include hinj in
/-- A chained list that keeps a row of a chain keeps every row before it. -/
theorem earlier_kept_of_chained (hgenesis : ∀ text, sha256 text ≠ genesisHash)
    {before after rows' : List AuditRow} {kept : AuditRow}
    (h : RowsChained sha256 genesisHash (before ++ kept :: after))
    (h' : RowsChained sha256 genesisHash rows') (hkept : kept ∈ rows') {r : AuditRow}
    (hr : r ∈ before) : ∃ s ∈ rows', s.record.normalise = r.record.normalise := by
  rcases List.append_of_mem hkept with ⟨before', after', rfl⟩
  rcases rowsChained_iff.mp h with ⟨hlink, hchain⟩
  rcases rowsChained_iff.mp h' with ⟨hlink', hchain'⟩
  rcases hlink kept (by simp) with ⟨k, hk⟩
  rcases hlink r (by simp [hr]) with ⟨l, hl⟩
  simp only [linksOf, List.filterMap_append, List.filterMap_cons, hk] at hchain hchain'
  have hbegins := prefix_eq_of_shared (digest_inj hinj) (fun _ _ => hgenesis _) rfl hchain hchain'
  have hmem : l ∈ before'.filterMap AuditRow.link? := by
    rw [← hbegins, List.mem_filterMap]
    exact ⟨r, hr, hl⟩
  rcases List.mem_filterMap.mp hmem with ⟨s, hs, hsl⟩
  refine ⟨s, by simp [hs], ?_⟩
  rw [(AuditRow.link?_eq_some_iff.mp hl).2.2, (AuditRow.link?_eq_some_iff.mp hsl).2.2]

/-- An edit that keeps tenant and integrity hash leaves the tenant's rows
hashed. -/
theorem updateRow_allHashed {table : List AuditRow} {t : Int} {r edited : AuditRow}
    (hall : AllHashed (selectRows table (some t))) (hr : r ∈ table)
    (htenant : r.tenantId = some t) (hhash : edited.integrityHash = r.integrityHash) :
    AllHashed (selectRows (updateRow table r.id edited) (some t)) := by
  intro s hs
  rcases mem_selectRows.mp hs with ⟨hs, hst⟩
  rcases mem_updateRow.mp hs with ⟨rfl, -⟩ | ⟨hs, -⟩
  · rw [hhash]
    exact hall r (mem_selectRows.mpr ⟨hr, htenant⟩)
  · exact hall s (mem_selectRows.mpr ⟨hs, hst⟩)

include hinj in
/-- Changing what a row's hash covers is reported. -/
theorem hashed_edit_invalid {table : List AuditRow} {t : Int} {r edited : AuditRow}
    (hall : AllHashed (selectRows table (some t)))
    (hvalid : (verifyAuditChain sha256 table (some t)).isValid = true) (hr : r ∈ table)
    (htenant : r.tenantId = some t) (hkept : edited.tenantId = some t)
    (hhash : edited.integrityHash = r.integrityHash)
    (hchanged : edited.hashedColumns ≠ r.hashedColumns) :
    (verifyAuditChain sha256 (updateRow table r.id edited) (some t)).isValid = false := by
  rw [Bool.eq_false_iff]
  intro hvalid'
  have hchain := rowsChained_of_valid hall hvalid
  have hchain' := rowsChained_of_valid (updateRow_allHashed hall hr htenant hhash) hvalid'
  apply hchanged
  apply hashedColumns_eq_of_hash_eq hinj hchain hchain' (mem_selectRows.mpr ⟨hr, htenant⟩) _ hhash
  exact mem_selectRows.mpr ⟨mem_updateRow.mpr (Or.inl ⟨rfl, r, hr, rfl⟩), hkept⟩

include hinj in
/-- Moving a row out of a tenant is reported when a later row of the tenant is
kept. -/
theorem moved_row_invalid (hgenesis : ∀ text, sha256 text ≠ genesisHash) {table : List AuditRow}
    {t : Int} {r edited kept : AuditRow} (hall : AllHashed (selectRows table (some t)))
    (hvalid : (verifyAuditChain sha256 table (some t)).isValid = true) (hr : r ∈ table)
    (htenant : r.tenantId = some t) (hmoved : edited.tenantId ≠ some t) (hkept : kept ∈ table)
    (hkeptTenant : kept.tenantId = some t) (hlater : r.id < kept.id) :
    (verifyAuditChain sha256 (updateRow table r.id edited) (some t)).isValid = false := by
  rw [Bool.eq_false_iff]
  intro hvalid'
  have hstays : ∀ s ∈ selectRows (updateRow table r.id edited) (some t),
      s ∈ selectRows table (some t) ∧ s.id ≠ r.id := by
    intro s hs
    rcases mem_selectRows.mp hs with ⟨hs, hst⟩
    rcases mem_updateRow.mp hs with ⟨rfl, -⟩ | ⟨hs, hid⟩
    · exact absurd hst hmoved
    · exact ⟨mem_selectRows.mpr ⟨hs, hst⟩, hid⟩
  have hall' : AllHashed (selectRows (updateRow table r.id edited) (some t)) :=
    fun s hs => hall s (hstays s hs).1
  have hchain := rowsChained_of_valid hall hvalid
  have hchain' := rowsChained_of_valid hall' hvalid'
  have hkept' : kept ∈ selectRows (updateRow table r.id edited) (some t) := by
    refine mem_selectRows.mpr ⟨mem_updateRow.mpr (Or.inr ⟨hkept, ?_⟩), hkeptTenant⟩
    omega
  have hmem : r ∈ selectRows table (some t) := mem_selectRows.mpr ⟨hr, htenant⟩
  have hkeptMem : kept ∈ selectRows table (some t) := mem_selectRows.mpr ⟨hkept, hkeptTenant⟩
  have hsorted := selectRows_sorted table (some t)
  rcases List.append_of_mem hkeptMem with ⟨before, after, hsplit⟩
  rw [hsplit] at hchain hmem hsorted
  -- the moved row stands before the kept one
  have hbefore : r ∈ before := by
    rcases List.mem_append.mp hmem with hb | ha
    · exact hb
    · rcases List.mem_cons.mp ha with rfl | ha
      · omega
      · have hle := (List.pairwise_cons.mp (List.pairwise_append.mp hsorted).2.1).1 r ha
        omega
  rcases earlier_kept_of_chained hinj hgenesis hchain hchain' hkept' hbefore with ⟨s, hs, hsame⟩
  exact (hstays s hs).2 (congrArg HashedFields.recordId hsame)

end

/-! ## Columns outside the hash -/

/-- The columns `calculate_record_hash` leaves out, the tenant apart. -/
structure UnhashedColumns where
  approvalId : Option String
  approver : Option String
  originalRequest : Option String
  approvalTimestamp : Option Timestamp
  executionTimestamp : Option Timestamp
  executionStatus : Option String
  policyName : Option String
  policyType : Option String
  matchedPattern : Option String
  redactedValue : Option String
  username : Option String
deriving DecidableEq

/-- The row with those columns overwritten. -/
def AuditRow.withUnhashed (r : AuditRow) (u : UnhashedColumns) : AuditRow :=
  { r with
    approvalId := u.approvalId, approver := u.approver, originalRequest := u.originalRequest,
    approvalTimestamp := u.approvalTimestamp, executionTimestamp := u.executionTimestamp,
    executionStatus := u.executionStatus, policyName := u.policyName, policyType := u.policyType,
    matchedPattern := u.matchedPattern, redactedValue := u.redactedValue,
    username := u.username }

/-- The verifier does not look at what an edit of the unhashed columns changes. -/
theorem verifyRows_map {sha256 : String → String} {tenantId : Option Int} {rows : List AuditRow}
    {f : AuditRow → AuditRow} (hf : ∀ r, ∃ u, f r = r.withUnhashed u) :
    verifyRows sha256 tenantId (rows.map f) = verifyRows sha256 tenantId rows := by
  have hhash : ∀ r, (f r).integrityHash = r.integrityHash := by
    intro r
    rcases hf r with ⟨u, hu⟩
    rw [hu]
    rfl
  have hcreated : ∀ r, (f r).createdAt = r.createdAt := by
    intro r
    rcases hf r with ⟨u, hu⟩
    rw [hu]
    rfl
  have hid : ∀ r, (f r).id = r.id := by
    intro r
    rcases hf r with ⟨u, hu⟩
    rw [hu]
    rfl
  have hrow : ∀ p h r, checkRow sha256 tenantId p h (f r) = checkRow sha256 tenantId p h r := by
    intro p h r
    rcases hf r with ⟨u, hu⟩
    rw [hu]
    rfl
  have hloop : ∀ (rest : List AuditRow) p h n,
      verifyLoop sha256 tenantId p h n (rest.map f) = verifyLoop sha256 tenantId p h n rest := by
    intro rest
    induction rest with
    | nil => intros; rfl
    | cons r rest ih =>
        intro p h n
        rw [List.map_cons]
        unfold verifyLoop
        rw [hrow]
        cases checkRow sha256 tenantId p h r with
        | error e => rfl
        | ok hash => simp only [hid, ih]
  unfold verifyRows
  have hdrop : (rows.map f).dropWhile (fun r => r.integrityHash.isNone) =
      (rows.dropWhile (fun r => r.integrityHash.isNone)).map f := by
    rw [List.dropWhile_map]
    congr 2
    funext r
    simp [hhash]
  rw [hdrop]
  cases rows.dropWhile (fun r => r.integrityHash.isNone) with
  | nil => rfl
  | cons first rest =>
      simp only [List.map_cons]
      rw [← List.map_cons, hloop, hcreated]

/-- An edit of the unhashed columns of one row is an edit of the selected
rows. -/
theorem selectRows_updateRow {table : List AuditRow} {t : Int} {r : AuditRow}
    (hunique : (table.map AuditRow.id).Nodup) (hr : r ∈ table) (u : UnhashedColumns) :
    selectRows (updateRow table r.id (r.withUnhashed u)) (some t) =
      (selectRows table (some t)).map (fun s => if s.id = r.id then s.withUnhashed u else s) := by
  have htable : updateRow table r.id (r.withUnhashed u) =
      table.map (fun s => if s.id = r.id then s.withUnhashed u else s) := by
    unfold updateRow
    apply List.map_congr_left
    intro s hs
    by_cases hid : s.id = r.id
    · rw [List.inj_on_of_nodup_map hunique hs hr hid]
    · simp [hid]
  have hkeep : ∀ s : AuditRow,
      (if s.id = r.id then s.withUnhashed u else s).id = s.id ∧
        (if s.id = r.id then s.withUnhashed u else s).tenantId = s.tenantId := by
    intro s
    by_cases hid : s.id = r.id <;> simp [hid, AuditRow.withUnhashed]
  unfold selectRows
  rw [htable, List.filter_map]
  have hfilter : (ofTenant (some t)) ∘
      (fun s : AuditRow => if s.id = r.id then s.withUnhashed u else s) = ofTenant (some t) := by
    funext s
    simp only [Function.comp, ofTenant, (hkeep s).2]
  rw [hfilter]
  symm
  apply List.map_insertionSort
  intro a _ b _
  rw [(hkeep a).1, (hkeep b).1]

/-- Editing the unhashed columns of a row leaves the report as it was. -/
theorem unhashed_edit_unreported {sha256 : String → String} {table : List AuditRow} {t : Int}
    {r : AuditRow} (hunique : (table.map AuditRow.id).Nodup) (hr : r ∈ table)
    (u : UnhashedColumns) :
    verifyAuditChain sha256 (updateRow table r.id (r.withUnhashed u)) (some t) =
      verifyAuditChain sha256 table (some t) := by
  unfold verifyAuditChain
  rw [selectRows_updateRow hunique hr u]
  apply verifyRows_map
  intro s
  by_cases hid : s.id = r.id
  · exact ⟨u, if_pos hid⟩
  · refine ⟨⟨s.approvalId, s.approver, s.originalRequest, s.approvalTimestamp,
      s.executionTimestamp, s.executionStatus, s.policyName, s.policyType, s.matchedPattern,
      s.redactedValue, s.username⟩, ?_⟩
    rw [if_neg hid]
    rfl

/-! ## Evidence -/

/-- In a tenant's chained rows, a changed hashed column and a moved row before a
kept one are reported; the other displayed columns can be overwritten with the
report unchanged and the view showing the new values. -/
theorem displayed_columns_evidence (sha256 : String → String)
    (hinj : Function.Injective sha256) (hgenesis : ∀ text, sha256 text ≠ genesisHash)
    (table : List AuditRow) (hunique : (table.map AuditRow.id).Nodup) (t : Int)
    (hall : AllHashed (selectRows table (some t)))
    (hvalid : (verifyAuditChain sha256 table (some t)).isValid = true)
    (r : AuditRow) (hr : r ∈ table) (htenant : r.tenantId = some t) :
    (∀ edited : AuditRow, edited.tenantId = some t →
      edited.integrityHash = r.integrityHash → edited.hashedColumns ≠ r.hashedColumns →
      (verifyAuditChain sha256 (updateRow table r.id edited) (some t)).isValid = false) ∧
    (∀ edited : AuditRow, edited.tenantId ≠ some t →
      (∃ kept ∈ table, kept.tenantId = some t ∧ r.id < kept.id) →
      (verifyAuditChain sha256 (updateRow table r.id edited) (some t)).isValid = false) ∧
    (∀ u : UnhashedColumns,
      verifyAuditChain sha256 (updateRow table r.id (r.withUnhashed u)) (some t) =
        verifyAuditChain sha256 table (some t) ∧
      (r.withUnhashed u).entry ∈
        auditHashChain (updateRow table r.id (r.withUnhashed u)) t table.length) := by
  refine ⟨?_, ?_, ?_⟩
  · intro edited hkept hhash hchanged
    exact hashed_edit_invalid hinj hall hvalid hr htenant hkept hhash hchanged
  · rintro edited hmoved ⟨kept, hkept, hkeptTenant, hlater⟩
    exact moved_row_invalid hinj hgenesis hall hvalid hr htenant hmoved hkept hkeptTenant hlater
  · intro u
    refine ⟨unhashed_edit_unreported hunique hr u, ?_⟩
    rw [mem_auditHashChain (by simp [updateRow])]
    refine ⟨r.withUnhashed u, mem_updateRow.mpr (Or.inl ⟨rfl, r, hr, rfl⟩), ?_, htenant, rfl⟩
    exact hall r (mem_selectRows.mpr ⟨hr, htenant⟩)

theorem selectRows_sampleLog (firstQuery : Option String) :
    selectRows (sampleLog firstQuery) (some 1) = sampleLog firstQuery := by
  rfl

theorem verify_sampleLog (firstQuery : Option String) :
    (verifyAuditChain prefixHash (sampleLog firstQuery) (some 1)).isValid = true := by
  unfold verifyAuditChain
  rw [selectRows_sampleLog]
  exact sampleLog_valid firstQuery

/-- The columns of an approved request, by another approver. -/
def forgedColumns : UnhashedColumns where
  approvalId := none
  approver := some "mallory"
  originalRequest := none
  approvalTimestamp := none
  executionTimestamp := none
  executionStatus := some "executed"
  policyName := none
  policyType := none
  matchedPattern := none
  redactedValue := none
  username := some "mallory"

/-- On the sample log: a flipped decision and a first row moved to tenant 2 are
reported, a forged approver is not. -/
theorem displayed_columns_evidence_sampleLog :
    let r := sampleRow 1 none genesisHash
    (verifyAuditChain prefixHash
        (updateRow (sampleLog none) r.id { r with allowed := some false })
        (some 1)).isValid = false ∧
      (verifyAuditChain prefixHash
        (updateRow (sampleLog none) r.id { r with tenantId := some 2 }) (some 1)).isValid = false ∧
      verifyAuditChain prefixHash
        (updateRow (sampleLog none) r.id (r.withUnhashed forgedColumns)) (some 1) =
        verifyAuditChain prefixHash (sampleLog none) (some 1) := by
  have hall : AllHashed (selectRows (sampleLog none) (some 1)) := by
    rw [selectRows_sampleLog]
    exact sampleLog_allHashed none
  have hvalid := verify_sampleLog none
  have h := displayed_columns_evidence prefixHash prefixHash_injective prefixHash_ne_genesis
    (sampleLog none) (by decide) 1 hall hvalid (sampleRow 1 none genesisHash)
    (by simp [sampleLog]) rfl
  refine ⟨h.1 _ rfl rfl ?_, h.2.1 _ (by simp) ?_, (h.2.2 forgedColumns).1⟩
  · intro hsame
    have hallowed := congrArg (fun columns => columns.1.allowed) hsame
    simp [AuditRow.hashedColumns, AuditRow.record, AuditRecord.normalise, sampleRow] at hallowed
  · exact ⟨_, List.mem_cons_of_mem _ (List.mem_singleton_self _), rfl, by decide⟩

/-- A displayed column can be changed with the hash columns kept and the report
valid: the approver of the first sample row. -/
theorem approver_forgeable :
    ¬ ∀ (table : List AuditRow) (t : Int) (r edited : AuditRow),
      (table.map AuditRow.id).Nodup → AllHashed (selectRows table (some t)) →
      (verifyAuditChain prefixHash table (some t)).isValid = true →
      r ∈ table → r.tenantId = some t →
      edited.integrityHash = r.integrityHash → edited.previousHash = r.previousHash →
      edited.entry ≠ r.entry →
      (verifyAuditChain prefixHash (updateRow table r.id edited) (some t)).isValid = false := by
  intro h
  have hvalid := verify_sampleLog none
  have hinvalid := h (sampleLog none) 1 (sampleRow 1 none genesisHash)
    ((sampleRow 1 none genesisHash).withUnhashed forgedColumns) (by decide)
    (by rw [selectRows_sampleLog]; exact sampleLog_allHashed none) hvalid (by simp [sampleLog]) rfl
    rfl rfl (by simp [AuditRow.entry, AuditRow.withUnhashed, forgedColumns, sampleRow])
  rw [unhashed_edit_unreported (by decide) (by simp [sampleLog])] at hinvalid
  rw [hvalid] at hinvalid
  cases hinvalid

end AuthClaw.Audit
