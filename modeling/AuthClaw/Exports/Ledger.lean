import AuthClaw.Audit.TamperEvidence
import AuthClaw.Exports.Canonical
import AuthClaw.Library.CsvReading

/-!
# The ledger as a file

{lit}`generate_audit_csv` writes the audit log as comma-separated values, and
{lit}`generate_evidence_csv` the vaulted evidence.  A column without a value is empty, as is one
with an empty text.  What does somebody who has only the file know of the log?

Main results:

- Theorem {lit}`auditCsv_eq_iff`: the file tells apart the logs that differ in a column it has.
- Theorem {lit}`report_of_auditCsv`: the file determines what the verifier reports of the log.
- Theorem {lit}`auditCsv_of_lastHash`: the last hash of a valid log determines the file.
-/

namespace AuthClaw.Exports

open Audit (AuditRow HashedFields createdAtText genesisHash ofTenant selectRows verifyRows
  verifyLoop checkRow calculateRecordHash verifyAuditChain AllHashed)

/-! ## Files -/

/-- The dialect of `csv.writer` and `csv.reader`, and `csv.field_size_limit()`. -/
def excel : Csv.Dialect where
  delimiter := ','
  quote := '"'
  fieldLimit := 131072
  delimiter_ne_quote := by decide
  delimiter_inline := by decide
  quote_inline := by decide

/-- The bytes of a file with some rows. -/
def csvBytes (rows : List Csv.Row) : List UInt8 :=
  utf8Bytes (Csv.write excel rows)

/-- A column that may have no value, as it is written. -/
def columnText (value : Option String) : Csv.Field :=
  (value.getD "").toList

/-- The header of `generate_audit_csv`. -/
def auditHeader : Csv.Row :=
  ["Record ID", "Timestamp", "User Query", "Response", "Allowed", "Risk Level", "Approval Status",
    "Block Integrity Hash", "Previous Hash"].map String.toList

/-- `"Allowed" if row[4] else "Blocked"` -/
def allowedText (allowed : Option Bool) : String :=
  if allowed.getD false then "Allowed" else "Blocked"

/-- A row of the log, as it is written. -/
def auditCells (r : AuditRow) : Csv.Row :=
  [r.id.repr.toList, (createdAtText r.createdAt).toList, columnText r.userQuery,
    columnText r.response, (allowedText r.allowed).toList, columnText r.riskLevel,
    columnText r.approvalStatus, columnText r.integrityHash, columnText r.previousHash]

/-- `generate_audit_csv` -/
def generateAuditCsv (table : List AuditRow) (tenantId : Option Int) : List UInt8 :=
  csvBytes (auditHeader :: (selectRows table tenantId).map auditCells)

/-- A row of `compliance_evidence`, with the columns that are exported. -/
structure VaultRow where
  id : Int
  tenantId : Option Int
  name : String
  category : String
  filePath : String
  collectedAt : String
  hash : String
deriving DecidableEq

/-- The header of `generate_evidence_csv`. -/
def evidenceHeader : Csv.Row :=
  ["Evidence ID", "Name", "Category", "File Path", "Collected At", "Verification Hash"].map
    String.toList

/-- A row of the vault, as it is written. -/
def evidenceCells (r : VaultRow) : Csv.Row :=
  r.id.repr.toList :: [r.name, r.category, r.filePath, r.collectedAt, r.hash].map String.toList

/-- `WHERE (:tenant_id IS NULL OR tenant_id = :tenant_id) ORDER BY id ASC` -/
def selectEvidence (table : List VaultRow) (tenantId : Option Int) : List VaultRow :=
  (table.filter (fun r => tenantId.all (fun t => r.tenantId = some t))).insertionSort
    (fun a b => a.id ≤ b.id)

/-- `generate_evidence_csv` -/
def generateEvidenceCsv (table : List VaultRow) (tenantId : Option Int) : List UInt8 :=
  csvBytes (evidenceHeader :: (selectEvidence table tenantId).map evidenceCells)

/-! ## What a file tells -/

theorem csvBytes_injective : Function.Injective csvBytes :=
  utf8Bytes_injective.comp (Csv.write_injective excel)

/-- A file with a header determines the rows after it. -/
theorem csvBytes_cons_inj {header : Csv.Row} {rows rows' : List Csv.Row} :
    csvBytes (header :: rows) = csvBytes (header :: rows') ↔ rows = rows' := by
  rw [csvBytes_injective.eq_iff, List.cons_inj_right]

/-- What is exported of a row of the log: the fields of its hash, and the hashes, of which one that
is missing reads as an empty one. -/
def exportedColumns (r : AuditRow) : HashedFields × String × String :=
  (r.record.normalise, r.integrityHash.getD "", r.previousHash.getD "")

theorem allowedText_inj {a b : Option Bool} :
    allowedText a = allowedText b ↔ a.getD false = b.getD false := by
  unfold allowedText
  cases a.getD false <;> cases b.getD false <;> decide

theorem repr_inj {a b : Int} : a.repr = b.repr ↔ a = b := by
  constructor
  · intro h
    exact JsonText.int_repr_inj (congrArg String.toList h)
  · intro h
    rw [h]

theorem auditCells_eq_iff {r r' : AuditRow} :
    auditCells r = auditCells r' ↔ exportedColumns r = exportedColumns r' := by
  have hid : r.id.repr = r'.id.repr ↔ r.id = r'.id := repr_inj
  simp only [auditCells, exportedColumns, columnText, List.cons.injEq, String.toList_inj,
    allowedText_inj, hid, Prod.mk.injEq, Audit.AuditRecord.normalise, Audit.AuditRow.record,
    HashedFields.mk.injEq]
  tauto

theorem map_auditCells_eq_iff {rows rows' : List AuditRow} :
    rows.map auditCells = rows'.map auditCells ↔
      rows.map exportedColumns = rows'.map exportedColumns := by
  induction rows generalizing rows' with
  | nil => cases rows' <;> simp
  | cons r rows ih =>
      cases rows' with
      | nil => simp
      | cons r' rows' =>
          simp only [List.map_cons, List.cons.injEq, auditCells_eq_iff, ih]

/-- Two logs are exported as the same file exactly when they have the same rows as far as the
file goes. -/
theorem auditCsv_eq_iff (table table' : List AuditRow) (tenantId tenantId' : Option Int) :
    generateAuditCsv table tenantId = generateAuditCsv table' tenantId' ↔
      (selectRows table tenantId).map exportedColumns =
        (selectRows table' tenantId').map exportedColumns := by
  unfold generateAuditCsv
  rw [csvBytes_cons_inj, map_auditCells_eq_iff]

theorem evidenceCells_inj {r r' : VaultRow} (htenant : r.tenantId = r'.tenantId)
    (h : evidenceCells r = evidenceCells r') : r = r' := by
  cases r
  cases r'
  simp only [evidenceCells, List.map_cons, List.map_nil, List.cons.injEq, String.toList_inj,
    repr_inj] at h
  simp_all

/-- The vault of a tenant is exported without a loss. -/
theorem evidenceCsv_eq_iff (table table' : List VaultRow) (tenantId : Int) :
    generateEvidenceCsv table (some tenantId) = generateEvidenceCsv table' (some tenantId) ↔
      selectEvidence table (some tenantId) = selectEvidence table' (some tenantId) := by
  have htenant : ∀ table, ∀ r ∈ selectEvidence table (some tenantId),
      r.tenantId = some tenantId := by
    intro table r hr
    have hmem := (List.mem_insertionSort _).mp hr
    exact of_decide_eq_true (List.mem_filter.mp hmem).2
  have hcells : ∀ rows rows' : List VaultRow, (∀ r ∈ rows, r.tenantId = some tenantId) →
      (∀ r ∈ rows', r.tenantId = some tenantId) →
      rows.map evidenceCells = rows'.map evidenceCells → rows = rows' := by
    intro rows rows' hrows hrows' hmap
    refine List.ext_getElem (by simpa using congrArg List.length hmap) ?_
    intro i hi hi'
    refine evidenceCells_inj ?_ ?_
    · rw [hrows _ (List.getElem_mem hi), hrows' _ (List.getElem_mem hi')]
    · simpa [hi, hi'] using congrArg (fun rows => rows[i]?) hmap
  unfold generateEvidenceCsv
  rw [csvBytes_cons_inj]
  constructor
  · intro hmap
    exact hcells _ _ (htenant table) (htenant table') hmap
  · intro hsame
    rw [hsame]

/-! ## What the verifier looks at -/

/-- Two rows that the verifier does not tell apart. -/
def SameLink (r r' : AuditRow) : Prop :=
  r.hashedColumns = r'.hashedColumns ∧ r.integrityHash = r'.integrityHash

theorem checkRow_congr {sha256 : String → String} {tenantId prevId : Option Int}
    {prevHash : Option String} {r r' : AuditRow} (h : SameLink r r') :
    checkRow sha256 tenantId prevId prevHash r = checkRow sha256 tenantId prevId prevHash r' := by
  have hfields : r.record.normalise = r'.record.normalise := congrArg Prod.fst h.1
  have hprevious : r.previousHash = r'.previousHash := congrArg Prod.snd h.1
  have hid : r.id = r'.id := congrArg HashedFields.recordId hfields
  unfold checkRow checkRow.checkLink calculateRecordHash
  rw [h.2, hprevious, hfields, hid]

theorem verifyLoop_congr {sha256 : String → String} {tenantId : Option Int}
    {rows rows' : List AuditRow} (h : List.Forall₂ SameLink rows rows') (prevId : Option Int)
    (prevHash : Option String) (recordsChecked : Nat) :
    verifyLoop sha256 tenantId prevId prevHash recordsChecked rows =
      verifyLoop sha256 tenantId prevId prevHash recordsChecked rows' := by
  induction h generalizing prevId prevHash recordsChecked with
  | nil => rfl
  | @cons r r' rows rows' hr hrows ih =>
      have hid : r.id = r'.id := congrArg (fun columns => columns.1.recordId) hr.1
      rw [verifyLoop, verifyLoop, checkRow_congr hr, hid]
      split
      next => rfl
      next hash hcheck => exact ih _ _ _

/-- Rows that the verifier does not tell apart are reported alike. -/
theorem verifyRows_congr {sha256 : String → String} {tenantId : Option Int}
    {rows rows' : List AuditRow} (h : List.Forall₂ SameLink rows rows') :
    verifyRows sha256 tenantId rows = verifyRows sha256 tenantId rows' := by
  have hactive : List.Forall₂ SameLink (rows.dropWhile (fun r => r.integrityHash.isNone))
      (rows'.dropWhile (fun r => r.integrityHash.isNone)) := by
    induction h with
    | nil => exact .nil
    | @cons r r' rows rows' hr hrows ih =>
        rw [List.dropWhile_cons, List.dropWhile_cons, hr.2]
        split_ifs
        · exact ih
        · exact .cons hr hrows
  unfold verifyRows
  generalize rows.dropWhile _ = active at hactive
  generalize rows'.dropWhile _ = active' at hactive
  cases hactive with
  | nil => rfl
  | @cons first first' rest rest' hfirst hrest =>
      have htime : createdAtText first.createdAt = createdAtText first'.createdAt :=
        congrArg (fun columns => columns.1.createdAt) hfirst.1
      dsimp only
      rw [verifyLoop_congr (.cons hfirst hrest), htime]

/-- A hash that is there is not empty. -/
def HashesNonempty (r : AuditRow) : Prop :=
  r.integrityHash ≠ some "" ∧ r.previousHash ≠ some ""

theorem hash_inj {a b : Option String} (ha : a ≠ some "") (hb : b ≠ some "")
    (h : a.getD "" = b.getD "") : a = b := by
  cases a with
  | none =>
      cases b with
      | none => rfl
      | some b => exact absurd (congrArg some h.symm) hb
  | some a =>
      cases b with
      | none => exact absurd (congrArg some h) ha
      | some b => exact congrArg some h

theorem sameLink_of_exportedColumns {r r' : AuditRow} (hr : HashesNonempty r)
    (hr' : HashesNonempty r') (h : exportedColumns r = exportedColumns r') : SameLink r r' := by
  have hfields : r.record.normalise = r'.record.normalise := congrArg Prod.fst h
  have hprevious := hash_inj hr.2 hr'.2 (congrArg (fun columns => columns.2.2) h)
  refine ⟨?_, hash_inj hr.1 hr'.1 (congrArg (fun columns => columns.2.1) h)⟩
  unfold AuditRow.hashedColumns
  rw [hfields, hprevious]

theorem mem_of_mem_selectRows {table : List AuditRow} {tenantId : Option Int} {r : AuditRow}
    (h : r ∈ selectRows table tenantId) : r ∈ table :=
  (List.mem_filter.mp ((List.mem_insertionSort _).mp h)).1

/-- Two logs without empty hashes that are exported as the same file are reported alike: who has
the file can tell whether the log is valid, where it is broken, and why. -/
theorem report_of_auditCsv (sha256 : String → String) (table table' : List AuditRow)
    (tenantId : Option Int) (htable : ∀ r ∈ table, HashesNonempty r)
    (htable' : ∀ r ∈ table', HashesNonempty r)
    (hfile : generateAuditCsv table tenantId = generateAuditCsv table' tenantId) :
    verifyAuditChain sha256 table tenantId = verifyAuditChain sha256 table' tenantId := by
  unfold generateAuditCsv at hfile
  rw [csvBytes_cons_inj, map_auditCells_eq_iff] at hfile
  refine verifyRows_congr ?_
  have hrows : ∀ r ∈ selectRows table tenantId, HashesNonempty r :=
    fun r hr => htable r (mem_of_mem_selectRows hr)
  have hrows' : ∀ r ∈ selectRows table' tenantId, HashesNonempty r :=
    fun r hr => htable' r (mem_of_mem_selectRows hr)
  generalize selectRows table tenantId = rows at hfile hrows
  generalize selectRows table' tenantId = rows' at hfile hrows'
  induction rows generalizing rows' with
  | nil =>
      rw [List.map_nil, eq_comm, List.map_eq_nil_iff] at hfile
      rw [hfile]
      exact .nil
  | cons r rows ih =>
      cases rows' with
      | nil => cases hfile
      | cons r' rows' =>
          rw [List.forall_mem_cons] at hrows hrows'
          rw [List.map_cons, List.map_cons, List.cons.injEq] at hfile
          exact .cons (sameLink_of_exportedColumns hrows.1 hrows'.1 hfile.1)
            (ih hrows.2 rows' hfile.2 hrows'.2)

theorem selectRows_sampleLog (query : Option String) :
    selectRows (Audit.sampleLog query) (some 1) = Audit.sampleLog query :=
  rfl

theorem hashesNonempty_sampleLog (query : Option String) :
    ∀ r ∈ Audit.sampleLog query, HashesNonempty r := by
  have hhash : ∀ text, Audit.prefixHash text ≠ "" := by
    intro text h
    have hchars := congrArg String.toList h
    simp [Audit.prefixHash] at hchars
  intro r hr
  rcases List.mem_pair.mp hr with rfl | rfl
  · refine ⟨fun h => hhash _ (Option.some_inj.mp h), fun h => ?_⟩
    have hchars := congrArg String.toList (Option.some_inj.mp h)
    rw [Audit.genesisHash_toList] at hchars
    exact absurd hchars (by decide)
  · exact ⟨fun h => hhash _ (Option.some_inj.mp h), fun h => hhash _ (Option.some_inj.mp h)⟩

/-- A query that is missing and one that is empty make the same file. -/
theorem report_of_auditCsv_example :
    verifyAuditChain Audit.prefixHash (Audit.sampleLog none) (some 1) =
      verifyAuditChain Audit.prefixHash (Audit.sampleLog (some "")) (some 1) := by
  refine report_of_auditCsv Audit.prefixHash _ _ (some 1) (hashesNonempty_sampleLog none)
    (hashesNonempty_sampleLog (some "")) ?_
  unfold generateAuditCsv
  rw [csvBytes_cons_inj, map_auditCells_eq_iff]
  rfl

/-- What is exported of a row, by the fields of its hash. -/
def columnsOf (sha256 : String → String) (hashed : HashedFields × Option String) :
    HashedFields × String × String :=
  (hashed.1, Audit.digest sha256 hashed.1 (hashed.2.getD ""), hashed.2.getD "")

/-- In a chain nothing else is exported. -/
theorem exportedColumns_of_chained {sha256 : String → String} {start : String}
    {rows : List AuditRow} (h : Audit.RowsChained sha256 start rows) :
    rows.map exportedColumns = (rows.map AuditRow.hashedColumns).map (columnsOf sha256) := by
  induction rows generalizing start with
  | nil => rfl
  | cons r rows ih =>
      rcases Audit.rowsChained_cons.mp h with ⟨hash, hhash, hprevious, hdigest, hrest⟩
      rw [List.map_cons, List.map_cons, List.map_cons, ih hrest]
      congr 1
      unfold exportedColumns columnsOf AuditRow.hashedColumns
      dsimp only
      rw [hhash, hprevious, hdigest]
      rfl

/-- Two valid logs whose rows all carry a hash, and of which the last one is the same, are exported
as the same file: a hash that is kept elsewhere vouches for the whole file. -/
theorem auditCsv_of_lastHash (sha256 : String → String) (hinj : Function.Injective sha256)
    (hgenesis : ∀ text, sha256 text ≠ genesisHash) (table table' : List AuditRow)
    (tenantId : Option Int) (hall : AllHashed (selectRows table tenantId))
    (hall' : AllHashed (selectRows table' tenantId))
    (hvalid : (verifyAuditChain sha256 table tenantId).isValid = true)
    (hvalid' : (verifyAuditChain sha256 table' tenantId).isValid = true)
    (hlast : (selectRows table tenantId).getLast?.bind AuditRow.integrityHash =
      (selectRows table' tenantId).getLast?.bind AuditRow.integrityHash) :
    generateAuditCsv table tenantId = generateAuditCsv table' tenantId := by
  have hchain := Audit.rowsChained_of_valid hall hvalid
  have hchain' := Audit.rowsChained_of_valid hall' hvalid'
  have hcolumns := Audit.hashedColumns_eq_of_last_hash hinj hgenesis hall hall' hvalid hvalid' hlast
  unfold generateAuditCsv
  rw [csvBytes_cons_inj, map_auditCells_eq_iff, exportedColumns_of_chained hchain,
    exportedColumns_of_chained hchain', hcolumns]

theorem auditCsv_of_lastHash_example :
    generateAuditCsv (Audit.sampleLog none) (some 1) =
      generateAuditCsv (Audit.sampleLog (some "")) (some 1) :=
  auditCsv_of_lastHash Audit.prefixHash Audit.prefixHash_injective Audit.prefixHash_ne_genesis _ _
    (some 1) (Audit.sampleLog_allHashed none) (Audit.sampleLog_allHashed (some ""))
    (Audit.sampleLog_valid none) (Audit.sampleLog_valid (some "")) rfl

end AuthClaw.Exports
