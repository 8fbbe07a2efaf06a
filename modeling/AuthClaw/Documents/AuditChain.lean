import AuthClaw.Audit.Writer
import AuthClaw.Documents.Tables
import Mathlib.Data.List.Chain

/-!
# The audit chain of a document

An entry continues the last entry of its document and tenant, or without a tenant the last entry
of its document; the verifier reads the entries of a document and a tenant, or without a tenant
all entries of the document.  SHA-256 is a parameter, collision free and never the genesis hash
nor empty where that matters.

Main results:

- Theorem {lit}`verify_tenant_valid_iff`: the entries of a tenant are a chain exactly when none of
  them was cut to the width of its columns.
- Theorem {lit}`verify_all_valid_iff`: all entries of a document are a chain exactly when, besides,
  each entry of a tenant comes directly after one of the same tenant, or first.
- Theorem {lit}`audited_entries`: what a scan records of a document is what the writer stores.
- Theorem {lit}`chainsVerify_iff`: when exactly a run leaves chains that the verifier accepts.
-/

namespace AuthClaw.Documents.Auditor

open JsonText HashChain
open Audit (Timestamp createdAtText genesisHash storeText storeVarchar)

/-! ## The hash of an entry -/

/-- A row of `document_audits`; null columns are {lean}`none`. -/
structure AuditRow where
  id : Int
  tenantId : Option Int
  documentId : Int
  timestamp : Option Timestamp
  action : String
  actor : String
  details : String
  integrityHash : Option String
  previousHash : Option String
deriving DecidableEq

/-- The record that is hashed, its timestamp as text. -/
structure AuditRecord where
  documentId : Int
  action : String
  actor : String
  details : String
  timestamp : String
  tenantId : Option Int
deriving DecidableEq

/-- The record that the verifier builds from a row. -/
def AuditRow.record (r : AuditRow) : AuditRecord where
  documentId := r.documentId
  action := r.action
  actor := r.actor
  details := r.details
  timestamp := createdAtText r.timestamp
  tenantId := r.tenantId

/-- The members of `hash_data` in the order `sort_keys` gives them. -/
def hashData (record : AuditRecord) (previousHash : String) : List (String × Scalar) :=
  [("action", .str record.action),
    ("actor", .str record.actor),
    ("details", .str record.details),
    ("document_id", .int record.documentId),
    ("previous_hash", .str previousHash)] ++
  (match record.tenantId with
    | some t => [("tenant_id", .int t)]
    | none => []) ++
  [("timestamp", .str record.timestamp)]

/-- `calculate_audit_hash`. -/
def calculateAuditHash (sha256 : String → String) (record : AuditRecord) (previousHash : String) :
    String :=
  sha256 (String.ofList (encodeObject (hashData record previousHash)))

/-! ## The verifier -/

/-- The dictionary that `verify_document_audit_chain` returns. -/
inductive VerifyReport where
  | noRecords
  | valid (recordsChecked : Nat) (latestHash : Option String)
  | invalid (recordsChecked : Nat) (failedRecordId : Int) (reason : String)
deriving DecidableEq

/-- The `valid` entry of the report. -/
def VerifyReport.isValid : VerifyReport → Bool
  | .noRecords => true
  | .valid _ _ => true
  | .invalid _ _ _ => false

/-- The loop over the rows; {lit}`prevHash` is the loop variable of the same name. -/
def verifyLoop (sha256 : String → String) :
    Option String → Nat → List AuditRow → VerifyReport
  | prevHash, recordsChecked, [] => .valid recordsChecked prevHash
  | prevHash, recordsChecked, r :: rows =>
      let expectedPrev := prevHash.getD genesisHash
      if r.previousHash ≠ some expectedPrev then
        .invalid recordsChecked r.id "Broken cryptographic hash chain linkage."
      else if r.integrityHash ≠ some (calculateAuditHash sha256 r.record expectedPrev) then
        .invalid recordsChecked r.id
          "Block integrity hash mismatch. Content may have been tampered with."
      else verifyLoop sha256 r.integrityHash (recordsChecked + 1) rows

/-- `document_id = :doc_id AND (:tenant_id IS NULL OR tenant_id = :tenant_id)`. -/
def selected (documentId : Int) (tenantId : Option Int) (r : AuditRow) : Bool :=
  r.documentId == documentId && (tenantId.isNone || r.tenantId == tenantId)

/-- `verify_document_audit_chain` on rows in id order. -/
def verifyDocumentAuditChain (sha256 : String → String) (rows : List AuditRow)
    (documentId : Int) (tenantId : Option Int) : VerifyReport :=
  match rows.filter (selected documentId tenantId) with
  | [] => .noRecords
  | first :: rest => verifyLoop sha256 none 0 (first :: rest)

/-! ## The writer -/

/-- One call with what its environment decides: the clock, how many identity values failed inserts
took since the last one, and whether the database refuses the row for a reason outside the texts. -/
structure AuditCall where
  documentId : Int
  action : String
  actor : String
  details : String
  tenantId : Option Int
  now : Timestamp
  skipped : Nat
  refused : Bool
deriving DecidableEq

/-- The record that a call hashes. -/
def AuditCall.record (c : AuditCall) : AuditRecord where
  documentId := c.documentId
  action := c.action
  actor := c.actor
  details := c.details
  timestamp := createdAtText (some c.now)
  tenantId := c.tenantId

/-- The rows of the table in id order and the next value of the id sequence. -/
structure AuditTable where
  rows : List AuditRow
  nextId : Int
  ids_lt : ∀ r ∈ rows, r.id < nextId
  ids_increasing : rows.Pairwise (fun a b => a.id < b.id)

/-- The table before the first entry. -/
def AuditTable.empty : AuditTable where
  rows := []
  nextId := 1
  ids_lt := by simp
  ids_increasing := List.Pairwise.nil

/-- A failed insert only takes identity values. -/
def AuditTable.skip (table : AuditTable) (skipped : Nat) : AuditTable where
  rows := table.rows
  nextId := table.nextId + skipped
  ids_lt := by
    intro r hr
    have := table.ids_lt r hr
    omega
  ids_increasing := table.ids_increasing

/-- The committed insert of a row that takes the next identity value. -/
def AuditTable.append (table : AuditTable) (r : AuditRow) (hid : r.id = table.nextId) :
    AuditTable where
  rows := table.rows ++ [r]
  nextId := table.nextId + 1
  ids_lt := by
    intro s hs
    rcases List.mem_append.mp hs with hs | hs
    · have := table.ids_lt s hs
      omega
    · rw [List.mem_singleton.mp hs]
      omega
  ids_increasing := by
    rw [List.pairwise_append]
    refine ⟨table.ids_increasing, List.pairwise_singleton _ _, ?_⟩
    intro s hs t ht
    rw [List.mem_singleton.mp ht, hid]
    exact table.ids_lt s hs

/-- The texts that the columns of a row hold. -/
structure StoredTexts where
  action : String
  actor : String
  details : String
deriving DecidableEq

/-- What the columns of a call hold, or nothing when one of them refuses its text. -/
def AuditCall.stored (c : AuditCall) : Option StoredTexts :=
  if c.refused then none
  else do
    let action ← (storeVarchar 100 (some c.action)).join
    let actor ← (storeVarchar 100 (some c.actor)).join
    let details ← (storeText (some c.details)).join
    return ⟨action, actor, details⟩

/-- `previous_hash`: the hash of the newest row that is selected, or the genesis hash. -/
def previousHashOf (rows : List AuditRow) (documentId : Int) (tenantId : Option Int) : String :=
  match (rows.filter (selected documentId tenantId)).getLast? with
  | some r => (Audit.orElse r.integrityHash (some genesisHash)).getD genesisHash
  | none => genesisHash

/-- The row that a call inserts. -/
def AuditCall.row (sha256 : String → String) (c : AuditCall) (texts : StoredTexts)
    (id : Int) (previousHash : String) : AuditRow where
  id := id
  tenantId := c.tenantId
  documentId := c.documentId
  timestamp := some c.now
  action := texts.action
  actor := texts.actor
  details := texts.details
  integrityHash := some (calculateAuditHash sha256 c.record previousHash)
  previousHash := some previousHash

/-- `create_document_audit`, with the hash that it returns unless the insert fails. -/
def createDocumentAudit (sha256 : String → String) (table : AuditTable) (c : AuditCall) :
    AuditTable × Option String :=
  let previousHash := previousHashOf table.rows c.documentId c.tenantId
  let table := table.skip c.skipped
  match c.stored with
  | none => (table, none)
  | some texts =>
      (table.append (c.row sha256 texts table.nextId previousHash) rfl,
        some (calculateAuditHash sha256 c.record previousHash))

/-- The table after calls that run one after another. -/
def runAudits (sha256 : String → String) (calls : List AuditCall) : AuditTable :=
  calls.foldl (fun table c => (createDocumentAudit sha256 table c).1) .empty

/-! ## The chain that the verifier accepts -/

/-- The members determine the record and the previous hash. -/
theorem hashData_injective {f g : AuditRecord} {p q : String}
    (h : hashData f p = hashData g q) : f = g ∧ p = q := by
  cases f with
  | mk fDocument fAction fActor fDetails fTimestamp fTenant =>
      cases g with
      | mk gDocument gAction gActor gDetails gTimestamp gTenant =>
          cases fTenant <;> cases gTenant <;> simp_all [hashData]

/-- A collision-free hash determines the record and the previous hash. -/
theorem calculateAuditHash_inj {sha256 : String → String} (hinj : Function.Injective sha256)
    {f g : AuditRecord} {p q : String}
    (h : calculateAuditHash sha256 f p = calculateAuditHash sha256 g q) : f = g ∧ p = q :=
  hashData_injective (encodeObject_injective (String.ofList_injective (hinj h)))

/-- A row as a link of a chain. -/
def AuditRow.link (r : AuditRow) : Link AuditRecord (Option String) where
  payload := r.record
  prev := r.previousHash
  hash := r.integrityHash

/-- The hash of a link; a link without a previous hash has none. -/
def linkDigest (sha256 : String → String) (record : AuditRecord) (previousHash : Option String) :
    Option String :=
  previousHash.map (calculateAuditHash sha256 record)

/-- Rows that continue the genesis hash. -/
def RowsChained (sha256 : String → String) (rows : List AuditRow) : Prop :=
  Chained (linkDigest sha256) (some genesisHash) (rows.map AuditRow.link)

/-- The loop accepts exactly the rows that continue the hash before them. -/
theorem verifyLoop_valid_iff {sha256 : String → String} {prevHash : Option String}
    {recordsChecked : Nat} {rows : List AuditRow} :
    (verifyLoop sha256 prevHash recordsChecked rows).isValid = true ↔
      Chained (linkDigest sha256) (some (prevHash.getD genesisHash)) (rows.map AuditRow.link) := by
  induction rows generalizing prevHash recordsChecked with
  | nil => exact iff_of_true rfl trivial
  | cons r rows ih =>
      have hchained : Chained (linkDigest sha256) (some (prevHash.getD genesisHash))
          ((r :: rows).map AuditRow.link) ↔
          r.previousHash = some (prevHash.getD genesisHash) ∧
            r.integrityHash = linkDigest sha256 r.record r.previousHash ∧
            Chained (linkDigest sha256) r.integrityHash (rows.map AuditRow.link) :=
        Iff.rfl
      rw [hchained]
      unfold verifyLoop
      dsimp only
      by_cases hprev : r.previousHash = some (prevHash.getD genesisHash)
      · rw [if_neg (not_not.mpr hprev), hprev]
        change _ ↔ _ ∧ r.integrityHash = some _ ∧ _
        by_cases hhash : r.integrityHash =
            some (calculateAuditHash sha256 r.record (prevHash.getD genesisHash))
        · rw [if_neg (not_not.mpr hhash), ih, hhash]
          simp
        · rw [if_pos hhash]
          exact iff_of_false (by simp [VerifyReport.isValid]) (fun h => hhash h.2.1)
      · rw [if_pos hprev]
        exact iff_of_false (by simp [VerifyReport.isValid]) (fun h => hprev h.1)

/-- The verifier accepts exactly the selected rows that are a chain. -/
theorem verifyDocumentAuditChain_valid_iff {sha256 : String → String} {rows : List AuditRow}
    {documentId : Int} {tenantId : Option Int} :
    (verifyDocumentAuditChain sha256 rows documentId tenantId).isValid = true ↔
      RowsChained sha256 (rows.filter (selected documentId tenantId)) := by
  unfold verifyDocumentAuditChain RowsChained
  cases rows.filter (selected documentId tenantId) with
  | nil => exact iff_of_true rfl trivial
  | cons first rest => exact verifyLoop_valid_iff

/-! ## The rows of a run -/

/-- What is assumed of SHA-256: it is collision free, and its texts are neither the genesis hash
nor empty. -/
structure HashLaws (sha256 : String → String) : Prop where
  injective : Function.Injective sha256
  ne_genesis : ∀ text, sha256 text ≠ genesisHash
  ne_empty : ∀ text, sha256 text ≠ ""

/-- The texts of a call fit into their columns. -/
def AuditCall.Fits (c : AuditCall) : Prop :=
  c.action.toList.length ≤ 100 ∧ c.actor.toList.length ≤ 100

instance (c : AuditCall) : Decidable c.Fits :=
  inferInstanceAs (Decidable (_ ∧ _))

/-- A bounded column holds its text exactly when it is not too long. -/
theorem storeVarchar_eq_iff {n : Nat} {s stored : String}
    (h : (storeVarchar n (some s)).join = some stored) : stored = s ↔ s.toList.length ≤ n := by
  unfold storeVarchar at h
  dsimp only at h
  split_ifs at h with hnull hfits hspaces
  · cases h
  · cases h
    exact iff_of_true rfl hfits
  · cases h
    refine iff_of_false ?_ hfits
    intro hcut
    have hlength := congrArg (fun t => t.toList.length) hcut
    simp only [String.toList_ofList, List.length_take] at hlength
    omega
  · cases h

/-- An unbounded column holds its text. -/
theorem storeText_eq {s stored : String} (h : (storeText (some s)).join = some stored) :
    stored = s := by
  unfold storeText at h
  dsimp only at h
  split_ifs at h
  · cases h
  · cases h
    rfl

/-- The texts of a call are held as they are exactly when they fit. -/
theorem AuditCall.stored_eq_iff {c : AuditCall} {texts : StoredTexts}
    (h : c.stored = some texts) : texts = ⟨c.action, c.actor, c.details⟩ ↔ c.Fits := by
  unfold AuditCall.stored at h
  by_cases hrefused : c.refused = true
  · rw [if_pos hrefused] at h
    cases h
  rw [if_neg hrefused] at h
  rcases Option.bind_eq_some_iff.mp h with ⟨action, haction, h⟩
  rcases Option.bind_eq_some_iff.mp h with ⟨actor, hactor, h⟩
  rcases Option.bind_eq_some_iff.mp h with ⟨details, hdetails, h⟩
  cases h
  unfold AuditCall.Fits
  rw [StoredTexts.mk.injEq, storeVarchar_eq_iff haction, storeVarchar_eq_iff hactor]
  exact and_congr_right (fun _ => and_iff_left (storeText_eq hdetails))

/-- The row of a call carries the hash of its record exactly when the texts of the call fit. -/
theorem row_digested_iff {sha256 : String → String} (hlaws : HashLaws sha256) {c : AuditCall}
    {texts : StoredTexts} (h : c.stored = some texts) (id : Int) (previousHash : String) :
    (c.row sha256 texts id previousHash).integrityHash =
        linkDigest sha256 (c.row sha256 texts id previousHash).record (some previousHash) ↔
      c.Fits := by
  rw [← c.stored_eq_iff h]
  change some _ = some _ ↔ _
  rw [Option.some.injEq]
  constructor
  · intro hhash
    have hrecord := (calculateAuditHash_inj hlaws.injective hhash).1
    have haction := congrArg AuditRecord.action hrecord
    have hactor := congrArg AuditRecord.actor hrecord
    have hdetails := congrArg AuditRecord.details hrecord
    cases texts
    simp_all [AuditCall.record, AuditRow.record, AuditCall.row]
  · rintro rfl
    rfl

/-! ## One more call -/

section Runs

variable (sha256 : String → String) (calls : List AuditCall) (c : AuditCall)

/-- A run with one more call. -/
theorem runAudits_concat : runAudits sha256 (calls ++ [c]) =
    (createDocumentAudit sha256 (runAudits sha256 calls) c).1 := by
  unfold runAudits
  rw [List.foldl_append]
  rfl

/-- A call whose insert fails leaves the rows as they are. -/
theorem rows_concat_refused (h : c.stored = none) :
    (runAudits sha256 (calls ++ [c])).rows = (runAudits sha256 calls).rows := by
  rw [runAudits_concat]
  unfold createDocumentAudit
  rw [h]
  rfl

/-- A call whose insert succeeds adds its row, which continues the newest row it selects. -/
theorem rows_concat_stored {texts : StoredTexts} (h : c.stored = some texts) :
    ∃ id, (runAudits sha256 (calls ++ [c])).rows = (runAudits sha256 calls).rows ++
      [c.row sha256 texts id
        (previousHashOf (runAudits sha256 calls).rows c.documentId c.tenantId)] := by
  refine ⟨(runAudits sha256 calls).nextId + c.skipped, ?_⟩
  rw [runAudits_concat]
  unfold createDocumentAudit
  rw [h]
  rfl

/-- What a row says was done with its document. -/
def AuditRow.entry (r : AuditRow) : DocumentAudit :=
  ⟨r.tenantId, r.documentId, r.action, r.actor, r.details⟩

/-- What a scan records of a document is what the writer stores. -/
theorem audited_entries {store : DocumentStore}
    (hstore : store.audits = (runAudits sha256 calls).rows.map AuditRow.entry)
    (hstored : c.stored.isSome = true) (hfits : c.Fits) (hactor : c.actor = "system") :
    (store.audited c.tenantId c.documentId c.action c.details).audits =
      (runAudits sha256 (calls ++ [c])).rows.map AuditRow.entry := by
  rcases Option.isSome_iff_exists.mp hstored with ⟨texts, htexts⟩
  rcases rows_concat_stored sha256 calls c htexts with ⟨id, hrows⟩
  have hkept := (c.stored_eq_iff htexts).mpr hfits
  rw [hrows, List.map_append, ← hstore, hkept, hactor]
  rfl

/-- A row carries the hash of a record of its tenant and of its previous hash. -/
def Sealed (r : AuditRow) : Prop :=
  ∃ record previousHash, r.previousHash = some previousHash ∧
    r.integrityHash = some (calculateAuditHash sha256 record previousHash) ∧
    record.tenantId = r.tenantId

/-- Every row of a run carries a hash. -/
theorem sealed_of_mem : ∀ r ∈ (runAudits sha256 calls).rows, Sealed sha256 r := by
  induction calls using List.reverseRecOn with
  | nil =>
      intro r hr
      cases hr
  | append_singleton calls c ih =>
      intro r hr
      cases hstored : c.stored with
      | none =>
          rw [rows_concat_refused sha256 calls c hstored] at hr
          exact ih r hr
      | some texts =>
          rcases rows_concat_stored sha256 calls c hstored with ⟨id, hrows⟩
          rw [hrows] at hr
          rcases List.mem_append.mp hr with hr | hr
          · exact ih r hr
          · rw [List.mem_singleton.mp hr]
            exact ⟨c.record, _, rfl, rfl, rfl⟩

end Runs

/-! ## What a call continues -/

section Continues

variable {sha256 : String → String} {rows : List AuditRow}

/-- What the next row of a chain of rows continues: the hash of the last one. -/
theorem tip_link (rows : List AuditRow) :
    tip (some genesisHash) (rows.map AuditRow.link) =
      match rows.getLast? with
      | some r => r.integrityHash
      | none => some genesisHash := by
  induction rows using List.reverseRecOn with
  | nil => rfl
  | append_singleton rows r _ =>
      rw [List.map_append, tip_append, List.getLast?_append]
      rfl

/-- A call continues the newest row it selects. -/
theorem some_previousHashOf (hlaws : HashLaws sha256) (hsealed : ∀ r ∈ rows, Sealed sha256 r)
    (documentId : Int) (tenantId : Option Int) :
    some (previousHashOf rows documentId tenantId) =
      tip (some genesisHash) ((rows.filter (selected documentId tenantId)).map AuditRow.link) := by
  rw [tip_link]
  unfold previousHashOf
  cases hlast : (rows.filter (selected documentId tenantId)).getLast? with
  | none => rfl
  | some r =>
      have hr : r ∈ rows := List.mem_of_mem_filter (List.mem_of_getLast? hlast)
      rcases hsealed r hr with ⟨record, previousHash, -, hhash, -⟩
      have hne : calculateAuditHash sha256 record previousHash ≠ "" := hlaws.ne_empty _
      dsimp only
      rw [hhash]
      unfold Audit.orElse
      dsimp only
      rw [if_neg hne]
      rfl

/-- The rows of a document and a tenant are those of the document that the tenant has. -/
theorem filter_selected_tenant (rows : List AuditRow) (documentId t : Int) :
    rows.filter (selected documentId (some t)) =
      (rows.filter (selected documentId none)).filter (fun r => r.tenantId == some t) := by
  rw [List.filter_filter]
  refine List.filter_congr ?_
  intro r _
  unfold selected
  simp [Bool.and_comm]

/-- Rows that carry the same hash belong to the same tenant. -/
theorem Sealed.tenantId_eq (hlaws : HashLaws sha256) {r s : AuditRow} (hr : Sealed sha256 r)
    (hs : Sealed sha256 s) (h : r.integrityHash = s.integrityHash) : r.tenantId = s.tenantId := by
  rcases hr with ⟨record, previousHash, -, hhash, htenant⟩
  rcases hs with ⟨record', previousHash', -, hhash', htenant'⟩
  rw [hhash, hhash'] at h
  rw [← htenant, ← htenant',
    (calculateAuditHash_inj hlaws.injective (Option.some.inj h)).1]

/-- A call continues the newest row of the document exactly when it has no tenant, or that row
belongs to its tenant. -/
theorem previousHashOf_eq_tip_iff (hlaws : HashLaws sha256)
    (hsealed : ∀ r ∈ rows, Sealed sha256 r) (documentId : Int) (tenantId : Option Int) :
    some (previousHashOf rows documentId tenantId) =
        tip (some genesisHash) ((rows.filter (selected documentId none)).map AuditRow.link) ↔
      ∀ r ∈ (rows.filter (selected documentId none)).getLast?,
        tenantId = none ∨ tenantId = r.tenantId := by
  rw [some_previousHashOf hlaws hsealed]
  cases tenantId with
  | none => exact iff_of_true rfl (fun _ _ => Or.inl rfl)
  | some t =>
      have hdocument : ∀ r ∈ rows.filter (selected documentId none), Sealed sha256 r :=
        fun r hr => hsealed r (List.mem_of_mem_filter hr)
      rw [filter_selected_tenant]
      generalize rows.filter (selected documentId none) = all at hdocument ⊢
      induction all using List.reverseRecOn with
      | nil => exact iff_of_true rfl (fun r hr => by cases hr)
      | append_singleton all r _ =>
          rw [List.filter_append]
          by_cases htenant : r.tenantId = some t
          · refine iff_of_true ?_ ?_
            · rw [tip_link, tip_link, List.getLast?_append, List.getLast?_append]
              simp [htenant]
            · intro r' hr'
              rw [List.getLast?_append] at hr'
              cases hr'
              exact Or.inr htenant.symm
          · refine iff_of_false ?_ ?_
            · rw [List.filter_cons_of_neg (by simpa using htenant), List.filter_nil,
                List.append_nil, tip_link, tip_link, List.getLast?_append]
              have hr := hdocument r (List.mem_append_right _ (List.mem_singleton_self r))
              intro heq
              cases hlast : (all.filter (fun r => r.tenantId == some t)).getLast? with
              | none =>
                  rw [hlast] at heq
                  rcases hr with ⟨record, previousHash, -, hhash, -⟩
                  exact hlaws.ne_genesis _ (Option.some.inj (heq.trans hhash)).symm
              | some s =>
                  rw [hlast] at heq
                  rcases List.mem_filter.mp (List.mem_of_getLast? hlast) with ⟨hs, hst⟩
                  have hst : s.tenantId = some t := by simpa using hst
                  have hsealedS := hdocument s (List.mem_append_left _ hs)
                  exact htenant ((hsealedS.tenantId_eq hlaws hr heq).symm.trans hst)
            · intro h
              rcases h r (by rw [List.getLast?_append]; rfl) with h | h
              · cases h
              · exact htenant h.symm

end Continues

/-! ## Whole runs -/

section Chains

variable {sha256 : String → String} {rows : List AuditRow}

/-- Rows are a chain with one more row exactly when they were, and it continues the newest of
them under its own hash. -/
theorem rowsChained_concat (rows : List AuditRow) (r : AuditRow) :
    RowsChained sha256 (rows ++ [r]) ↔ RowsChained sha256 rows ∧
      r.previousHash = tip (some genesisHash) (rows.map AuditRow.link) ∧
      r.integrityHash = linkDigest sha256 r.record r.previousHash := by
  unfold RowsChained
  rw [List.map_append]
  exact chained_concat _ _ r.link

/-- Whether a call adds to the rows that are selected. -/
def Adds (documentId : Int) (tenantId : Option Int) (c : AuditCall) : Prop :=
  c.documentId = documentId ∧ (tenantId = none ∨ c.tenantId = tenantId) ∧ c.stored.isSome = true

instance (documentId : Int) (tenantId : Option Int) (c : AuditCall) :
    Decidable (Adds documentId tenantId c) :=
  inferInstanceAs (Decidable (_ ∧ _))

/-- A call that adds nothing leaves the selected rows as they are. -/
theorem filter_concat_of_not_adds (calls : List AuditCall) {c : AuditCall} {documentId : Int}
    {tenantId : Option Int} (h : ¬Adds documentId tenantId c) :
    (runAudits sha256 (calls ++ [c])).rows.filter (selected documentId tenantId) =
      (runAudits sha256 calls).rows.filter (selected documentId tenantId) := by
  cases hstored : c.stored with
  | none => rw [rows_concat_refused sha256 calls c hstored]
  | some texts =>
      rcases rows_concat_stored sha256 calls c hstored with ⟨id, hrows⟩
      have hselected : ¬selected documentId tenantId (c.row sha256 texts id
          (previousHashOf (runAudits sha256 calls).rows c.documentId c.tenantId)) = true := by
        intro hselected
        have hboth : c.documentId = documentId ∧ (tenantId = none ∨ c.tenantId = tenantId) := by
          simpa [selected, AuditCall.row] using hselected
        exact h ⟨hboth.1, hboth.2, by rw [hstored]; rfl⟩
      rw [hrows, List.filter_append, List.filter_cons_of_neg hselected, List.filter_nil,
        List.append_nil]

/-- A call that adds a row leaves the selected rows a chain exactly when they were one, it
continues the last of them, and its texts fit. -/
theorem chained_concat_of_adds (hlaws : HashLaws sha256) (calls : List AuditCall)
    {c : AuditCall} {documentId : Int} {tenantId : Option Int} (h : Adds documentId tenantId c) :
    RowsChained sha256 ((runAudits sha256 (calls ++ [c])).rows.filter
        (selected documentId tenantId)) ↔
      RowsChained sha256 ((runAudits sha256 calls).rows.filter (selected documentId tenantId)) ∧
        some (previousHashOf (runAudits sha256 calls).rows documentId c.tenantId) =
          tip (some genesisHash) (((runAudits sha256 calls).rows.filter
            (selected documentId tenantId)).map AuditRow.link) ∧
        c.Fits := by
  rcases h with ⟨rfl, htenant, hsome⟩
  rcases Option.isSome_iff_exists.mp hsome with ⟨texts, hstored⟩
  rcases rows_concat_stored sha256 calls c hstored with ⟨id, hrows⟩
  have hselected : selected c.documentId tenantId (c.row sha256 texts id
      (previousHashOf (runAudits sha256 calls).rows c.documentId c.tenantId)) = true := by
    unfold selected
    simpa [AuditCall.row] using htenant
  rw [hrows, List.filter_append, List.filter_cons_of_pos hselected, List.filter_nil,
    rowsChained_concat]
  refine and_congr_right (fun _ => and_congr_right (fun _ => ?_))
  exact row_digested_iff hlaws hstored id _

/-- The entries of a document, or of a tenant on it. -/
def selectedEntries (documentId : Int) (tenantId : Option Int) (calls : List AuditCall) :
    List AuditCall :=
  calls.filter (fun c => decide (Adds documentId tenantId c))

/-- The entries of a tenant are a chain exactly when the texts of each fit. -/
theorem tenant_chained_iff (hlaws : HashLaws sha256) (calls : List AuditCall)
    (documentId t : Int) :
    RowsChained sha256 ((runAudits sha256 calls).rows.filter (selected documentId (some t))) ↔
      ∀ c ∈ selectedEntries documentId (some t) calls, c.Fits := by
  induction calls using List.reverseRecOn with
  | nil => exact iff_of_true trivial (fun c hc => by cases hc)
  | append_singleton calls c ih =>
      unfold selectedEntries at ih ⊢
      rw [List.filter_append, List.forall_mem_append, ← ih]
      by_cases hadds : Adds documentId (some t) c
      · have htenant : c.tenantId = some t := by
          rcases hadds.2.1 with h | h
          · cases h
          · exact h
        have hprev := some_previousHashOf hlaws (sealed_of_mem sha256 calls) documentId (some t)
        rw [chained_concat_of_adds hlaws calls hadds, htenant]
        simp [hadds, hprev]
      · rw [filter_concat_of_not_adds calls hadds]
        simp [hadds]

/-- An entry has no tenant, or belongs to the tenant of the entry before it. -/
def Follows (before c : AuditCall) : Prop :=
  c.tenantId = none ∨ c.tenantId = before.tenantId

instance (before c : AuditCall) : Decidable (Follows before c) :=
  inferInstanceAs (Decidable (_ ∨ _))

/-- The tenants of the rows of a document are those of its entries. -/
theorem tenants_selected (calls : List AuditCall) (documentId : Int) :
    ((runAudits sha256 calls).rows.filter (selected documentId none)).map AuditRow.tenantId =
      (selectedEntries documentId none calls).map AuditCall.tenantId := by
  induction calls using List.reverseRecOn with
  | nil => rfl
  | append_singleton calls c ih =>
      unfold selectedEntries at ih ⊢
      rw [List.filter_append, List.map_append, ← ih]
      by_cases hadds : Adds documentId none c
      · rcases Option.isSome_iff_exists.mp hadds.2.2 with ⟨texts, hstored⟩
        rcases rows_concat_stored sha256 calls c hstored with ⟨id, hrows⟩
        rw [hrows, List.filter_append, List.map_append]
        simp [hadds, selected, AuditCall.row, hadds.1]
      · rw [filter_concat_of_not_adds calls hadds]
        simp [hadds]

/-- What holds of the last tenant of the rows holds of the last tenant of the entries. -/
theorem forall_last_iff {rows : List AuditRow} {es : List AuditCall}
    (h : rows.map AuditRow.tenantId = es.map AuditCall.tenantId) (P : Option Int → Prop) :
    (∀ r ∈ rows.getLast?, P r.tenantId) ↔ ∀ e ∈ es.getLast?, P e.tenantId := by
  have hlast := congrArg List.getLast? h
  rw [List.getLast?_map, List.getLast?_map] at hlast
  cases hrows : rows.getLast? with
  | none =>
      rw [hrows] at hlast
      have hes : es.getLast? = none := Option.map_eq_none_iff.mp hlast.symm
      rw [hes]
      exact iff_of_true (fun r hr => by cases hr) (fun e he => by cases he)
  | some r =>
      rw [hrows] at hlast
      rcases Option.map_eq_some_iff.mp hlast.symm with ⟨e, he, htenant⟩
      rw [he]
      constructor
      · rintro hr _ ⟨⟩
        rw [htenant]
        exact hr r rfl
      · rintro he _ ⟨⟩
        rw [← htenant]
        exact he e rfl

/-- All entries of a document are a chain exactly when the texts of each fit and each entry of a
tenant comes directly after one of the same tenant, or first. -/
theorem all_chained_iff (hlaws : HashLaws sha256) (calls : List AuditCall) (documentId : Int) :
    RowsChained sha256 ((runAudits sha256 calls).rows.filter (selected documentId none)) ↔
      (∀ c ∈ selectedEntries documentId none calls, c.Fits) ∧
        (selectedEntries documentId none calls).IsChain Follows := by
  induction calls using List.reverseRecOn with
  | nil => exact iff_of_true trivial ⟨(fun c hc => by cases hc), List.isChain_nil⟩
  | append_singleton calls c ih =>
      have htenants := @tenants_selected sha256 calls documentId
      unfold selectedEntries at ih htenants ⊢
      rw [List.filter_append, List.forall_mem_append, List.isChain_append]
      by_cases hadds : Adds documentId none c
      · rw [chained_concat_of_adds hlaws calls hadds, ih,
          previousHashOf_eq_tip_iff hlaws (sealed_of_mem sha256 calls),
          forall_last_iff htenants (fun t => c.tenantId = none ∨ c.tenantId = t)]
        have hone : [c].filter (fun c => decide (Adds documentId none c)) = [c] := by
          rw [List.filter_cons_of_pos (by simpa using hadds), List.filter_nil]
        rw [hone]
        constructor
        · rintro ⟨⟨hfits, hchain⟩, hfollows, hlast⟩
          refine ⟨⟨hfits, ?_⟩, hchain, List.isChain_singleton _, ?_⟩
          · rintro e he
            rw [List.mem_singleton.mp he]
            exact hlast
          · rintro e he _ ⟨⟩
            exact hfollows e he
        · rintro ⟨⟨hfits, hlast⟩, hchain, -, hfollows⟩
          exact ⟨⟨hfits, hchain⟩, fun e he => hfollows e he c rfl,
            hlast c (List.mem_singleton_self c)⟩
      · rw [filter_concat_of_not_adds calls hadds]
        simp [hadds, ih]

/-- The verifier accepts the entries of a tenant exactly when the texts of each fit. -/
theorem verify_tenant_valid_iff (hlaws : HashLaws sha256) (calls : List AuditCall)
    (documentId t : Int) :
    (verifyDocumentAuditChain sha256 (runAudits sha256 calls).rows documentId (some t)).isValid =
        true ↔
      ∀ c ∈ selectedEntries documentId (some t) calls, c.Fits := by
  rw [verifyDocumentAuditChain_valid_iff]
  exact tenant_chained_iff hlaws calls documentId t

/-- The verifier accepts all entries of a document exactly when the texts of each fit and each
entry of a tenant comes directly after one of the same tenant, or first. -/
theorem verify_all_valid_iff (hlaws : HashLaws sha256) (calls : List AuditCall)
    (documentId : Int) :
    (verifyDocumentAuditChain sha256 (runAudits sha256 calls).rows documentId none).isValid =
        true ↔
      (∀ c ∈ selectedEntries documentId none calls, c.Fits) ∧
        (selectedEntries documentId none calls).IsChain Follows := by
  rw [verifyDocumentAuditChain_valid_iff]
  exact all_chained_iff hlaws calls documentId

end Chains

/-- The verifier accepts the entries of every tenant that has some on a document, and all entries
of the document. -/
def ChainsVerify (sha256 : String → String) (rows : List AuditRow) (documentId : Int) : Prop :=
  (∀ t, (∃ r ∈ rows, r.documentId = documentId ∧ r.tenantId = some t) →
    (verifyDocumentAuditChain sha256 rows documentId (some t)).isValid = true) ∧
  (verifyDocumentAuditChain sha256 rows documentId none).isValid = true

/-- A run leaves chains that the verifier accepts exactly when the texts of each entry of the
document fit and each entry of a tenant comes directly after one of the same tenant, or first. -/
theorem chainsVerify_iff {sha256 : String → String} (hlaws : HashLaws sha256)
    (calls : List AuditCall) (documentId : Int) :
    ChainsVerify sha256 (runAudits sha256 calls).rows documentId ↔
      (∀ c ∈ selectedEntries documentId none calls, c.Fits) ∧
        (selectedEntries documentId none calls).IsChain Follows := by
  unfold ChainsVerify
  rw [verify_all_valid_iff hlaws]
  refine and_iff_right_of_imp ?_
  rintro ⟨hfits, -⟩ t -
  rw [verify_tenant_valid_iff hlaws]
  intro c hc
  unfold selectedEntries at hc hfits
  rcases List.mem_filter.mp hc with ⟨hmem, hadds⟩
  have hadds : Adds documentId (some t) c := by simpa using hadds
  exact hfits c (List.mem_filter.mpr ⟨hmem, by simpa using ⟨hadds.1, Or.inl rfl, hadds.2.2⟩⟩)

/-! ## Examples -/

/-- The laws hold of a hash that only marks its text. -/
theorem prefixHash_laws : HashLaws Audit.prefixHash where
  injective := Audit.prefixHash_injective
  ne_genesis := Audit.prefixHash_ne_genesis
  ne_empty := by
    intro text h
    have hchars := congrArg String.toList h
    simp [Audit.prefixHash] at hchars

/-- An entry about a document that the cloud source no longer has. -/
def deletedCall (tenantId : Option Int) : AuditCall where
  documentId := 7
  action := "document_deleted"
  actor := "system"
  details := "Document 'a.txt' was deleted from the cloud source: s3."
  tenantId := tenantId
  now := ⟨2026, 1, 2, 3, 4, 5, 6⟩
  skipped := 0
  refused := false

/-- A tenant's entry followed by one without a tenant. -/
theorem chainsVerify_tenant_then_none :
    HashLaws Audit.prefixHash ∧
      ChainsVerify Audit.prefixHash
        (runAudits Audit.prefixHash [deletedCall (some 1), deletedCall none]).rows 7 :=
  ⟨prefixHash_laws, (chainsVerify_iff prefixHash_laws _ 7).mpr (by decide)⟩

/-- An entry without a tenant followed by a tenant's. -/
theorem not_chainsVerify_none_then_tenant :
    ¬ChainsVerify Audit.prefixHash
      (runAudits Audit.prefixHash [deletedCall none, deletedCall (some 1)]).rows 7 := by
  intro h
  have hall := (verify_all_valid_iff prefixHash_laws [deletedCall none, deletedCall (some 1)] 7).mp
    h.2
  exact absurd hall.2 (by decide)

end AuthClaw.Documents.Auditor
