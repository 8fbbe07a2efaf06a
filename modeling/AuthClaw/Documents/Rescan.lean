import AuthClaw.Documents.Pipeline
import AuthClaw.Documents.Scores

/-!
# Scanning a document again

A scan adds its findings and its chunks to those that are there; it replaces none of them.

Main results:

- Theorem {lit}`rescan_same_iff`: when a second scan of the same content leaves the findings, the
  chunks and the scores of a document as the first one left them.
-/

namespace AuthClaw.Documents

open Rows Exits PythonText

/-- The findings that are stored of a document. -/
def documentFindings (docId : Int) (store : DocumentStore) : List DocumentFinding :=
  store.findings.filter (fun f => f.documentId = docId)

/-- The chunks that are indexed under a name. -/
def documentChunks (filename : String) (tenantId : Option Int) (store : DocumentStore) :
    List KnowledgeChunk :=
  store.chunks.filter (fun c => store.knowledge.rows.any (fun k =>
    decide (k.id = c.documentId) && namedKnowledge filename tenantId k))

/-- The findings and the chunks of a document, and the scores, are as they were. -/
structure SameScan (py : PyText) (docId : Int) (filename : String) (tenantId : Option Int)
    (store store' : DocumentStore) : Prop where
  findings : documentFindings docId store' = documentFindings docId store
  chunks : documentChunks filename tenantId store' = documentChunks filename tenantId store
  scores : ∀ others t, calculateScores py others t store' = calculateScores py others t store

section

variable {tools : DocumentTools} {calls : ScanCalls} {docId : Int} {bytes : Bytes}
  {filename : String} {tenantId : Option Int} {store store' : DocumentStore}

/-! ## Findings and chunks -/

/-- The findings of a scan are stored beside those of the document. -/
theorem documentFindings_storeResults (findings : List ScanFinding) (score : Int)
    (severity : RiskLevel) (status : DocumentStatus) :
    documentFindings docId (storeResults docId tenantId findings score severity status store) =
      documentFindings docId store ++
        findings.zipIdx.map (fun f => findingRow docId tenantId f (nextFinding store)) := by
  unfold documentFindings storeResults
  dsimp only
  rw [List.filter_append]
  congr 1
  rw [List.filter_eq_self]
  intro f hf
  rcases List.mem_map.mp hf with ⟨numbered, -, rfl⟩
  exact decide_eq_true rfl

/-- The row that chunks are indexed under carries the name, and the chunks that were there stay
under the names that they were under. -/
theorem knowledgeRow_named (count : Nat) (store : DocumentStore) :
    (∃ k ∈ (knowledgeRow calls bytes filename tenantId count store).2.knowledge.rows,
      k.id = (knowledgeRow calls bytes filename tenantId count store).1 ∧
        namedKnowledge filename tenantId k = true) ∧
    documentChunks filename tenantId (knowledgeRow calls bytes filename tenantId count store).2 =
      documentChunks filename tenantId store := by
  unfold knowledgeRow
  cases hfetch : calls.pickKnowledge.fetch (namedKnowledge filename tenantId)
      store.knowledge.rows with
  | some k =>
      rcases Choice.fetch_eq_some hfetch with ⟨hk, hnamed⟩
      exact ⟨⟨k, hk, rfl, hnamed⟩, rfl⟩
  | none =>
      refine ⟨⟨_, List.mem_append_right _ (List.mem_singleton_self _), rfl, ?_⟩, ?_⟩
      · simp [namedKnowledge, tenantMatches]
      · unfold documentChunks Table.append
        dsimp only
        refine List.filter_congr ?_
        intro c hc
        have hlt : c.documentId < nextKnowledge store :=
          lt_above (List.mem_append_right _ (List.mem_map_of_mem hc))
        have hne : ¬ nextKnowledge store = c.documentId := by omega
        simp [hne]

/-- Chunks that are indexed stand under the name. -/
theorem documentChunks_saveDocumentChunks {k : KnowledgeDocument} (hk : k ∈ store.knowledge.rows)
    (hnamed : namedKnowledge filename tenantId k = true) (chunks : List String) :
    documentChunks filename tenantId (saveDocumentChunks tools tenantId k.id chunks store) =
      documentChunks filename tenantId store ++
        chunks.map (fun chunk => ⟨tenantId, k.id, chunk, tools.embed chunk⟩) := by
  unfold documentChunks saveDocumentChunks
  dsimp only
  rw [List.filter_append]
  congr 1
  rw [List.filter_eq_self]
  intro c hc
  rcases List.mem_map.mp hc with ⟨chunk, -, rfl⟩
  exact List.any_eq_true.mpr ⟨k, hk, by simp [hnamed]⟩

/-- Indexing leaves the chunks as they were when it raises, or when there are none. -/
theorem documentChunks_indexChunks_iff (chunks : List String) (store : DocumentStore) :
    documentChunks filename tenantId
        (indexChunks tools calls bytes filename tenantId chunks store) =
        documentChunks filename tenantId store ↔
      calls.knowledge ≠ none ∨ calls.chunks ≠ none ∨ chunks = [] := by
  unfold indexChunks
  cases hknowledge : calls.knowledge with
  | some e => simp
  | none =>
      rcases @knowledgeRow_named calls bytes filename tenantId chunks.length store with
        ⟨⟨k, hk, hid, hnamed⟩, hsame⟩
      cases hchunks : calls.chunks with
      | some e => simpa using hsame
      | none =>
          simp only [Option.isSome_none, Bool.false_eq_true, if_false]
          rw [← hid, documentChunks_saveDocumentChunks hk hnamed, hsame]
          simp

/-! ## Scores -/

/-- What the scores see of a document. -/
def Document.counted (d : Document) : Option Int × Bool :=
  (d.tenantId, d.status.inDeleted)

/-- The same findings of documents that look the same to the scores are counted. -/
theorem countedFindings_congr (hfindings : store'.findings = store.findings)
    (hdocuments : ∀ k, (store'.documents.find k).map Document.counted =
      (store.documents.find k).map Document.counted) (t : Int) :
    countedFindings t store' = countedFindings t store := by
  unfold countedFindings
  rw [hfindings]
  refine List.filter_congr ?_
  intro f _
  have hsame := hdocuments f.documentId
  cases hafter : store'.documents.find f.documentId with
  | none =>
      rw [hafter, Option.map_none, eq_comm, Option.map_eq_none_iff] at hsame
      rw [hsame]
  | some d' =>
      rw [hafter, Option.map_some, eq_comm, Option.map_eq_some_iff] at hsame
      rcases hsame with ⟨d, hd, hcounted⟩
      rw [hd]
      injection hcounted with htenant hstatus
      simp only [ofTenant, htenant, hstatus]

theorem calculateScores_congr (hfindings : store'.findings = store.findings)
    (hdocuments : ∀ k, (store'.documents.find k).map Document.counted =
      (store.documents.find k).map Document.counted) (py : PyText) (others : OtherEvents)
    (t : Int) : calculateScores py others t store' = calculateScores py others t store := by
  unfold calculateScores collectSourceEvents
  rw [countedFindings_congr hfindings hdocuments]

/-- An update that leaves the owner of a document and counts it where it was counted looks the same
to the scores. -/
theorem counted_updateDocument {f : Document → Document} {hf : ∀ d, (f d).id = d.id}
    (h : ∀ d, store.documents.find docId = some d → tenantMatches tenantId d.tenantId = true →
      (f d).counted = d.counted) (k : Int) :
    ((updateDocument docId tenantId f hf store).documents.find k).map Document.counted =
      (store.documents.find k).map Document.counted := by
  unfold updateDocument
  rw [Table.find_update, Option.map_map]
  cases hfind : store.documents.find k with
  | none => rfl
  | some d =>
      rw [Option.map_some, Option.map_some, Function.comp_apply]
      by_cases hmatch : (decide (d.id = docId) && tenantMatches tenantId d.tenantId) = true
      · rw [if_pos hmatch]
        rw [Bool.and_eq_true, decide_eq_true_eq] at hmatch
        rw [h d ?_ hmatch.2]
        rw [← hfind, ← hmatch.1, Table.find_key hfind]
      · rw [if_neg hmatch]

/-- The scan of a document that it may write has not left it deleted. -/
def Scanned (docId : Int) (tenantId : Option Int) (store : DocumentStore) : Prop :=
  ∀ d, store.documents.find docId = some d → tenantMatches tenantId d.tenantId = true →
    d.status.inDeleted = false

/-- A document that was scanned counts while it is scanned again. -/
theorem counted_startScan (h : Scanned docId tenantId store) (k : Int) :
    ((startScan docId bytes tenantId store).documents.find k).map Document.counted =
      (store.documents.find k).map Document.counted := by
  refine counted_updateDocument ?_ k
  intro d hd hmatches
  unfold Document.counted
  rw [h d hd hmatches]
  rfl

/-- The statuses that a scan stores count. -/
theorem inDeleted_of_scanned {status : DocumentStatus}
    (h : status = .completed ∨ status = .pendingApproval) : status.inDeleted = false := by
  rcases h with rfl | rfl
  · rfl
  · rfl

/-- A document that a statement counts is not left deleted. -/
theorem scanned_updateDocument {f : Document → Document} {hf : ∀ d, (f d).id = d.id}
    (hstatus : ∀ d, (f d).status.inDeleted = false) :
    Scanned docId tenantId (updateDocument docId tenantId f hf store) := by
  intro d hd hmatches
  unfold updateDocument at hd
  dsimp only at hd
  rw [Table.find_update] at hd
  rcases Option.map_eq_some_iff.mp hd with ⟨d', hd', rfl⟩
  have hid : d'.id = docId := Table.find_key hd'
  by_cases hmatch : tenantMatches tenantId d'.tenantId = true
  · rw [if_pos (by rw [hid, hmatch]; simp)]
    exact hstatus d'
  · rw [if_neg (by simp [hmatch])] at hmatches
    exact absurd hmatches hmatch

/-- A scan that returns leaves its document counted. -/
theorem scanned_of_returned {found : List ScanFinding}
    (h : runDocumentScanPipeline tools calls docId bytes filename tenantId store =
      .ok found store') : Scanned docId tenantId store' := by
  rcases stored_of_returned h with ⟨status, hstatus, hstore⟩
  intro d hd hmatches
  rw [hstore.documents] at hd
  rw [documents_storeResults] at hd
  exact scanned_updateDocument (fun _ => inDeleted_of_scanned hstatus) d hd hmatches

/-- A scan that goes on leaves its document counted. -/
theorem scanned_indexedStore (store : DocumentStore) :
    Scanned docId tenantId (indexedStore tools calls docId bytes filename tenantId store) := by
  intro d hd hmatches
  rw [documents_indexedStore, documents_startScan] at hd
  exact scanned_updateDocument (fun _ => rfl) d hd hmatches

/-- A document that was scanned counts when the results are stored. -/
theorem counted_storeResults (h : Scanned docId tenantId store) (findings : List ScanFinding)
    (score : Int) (severity : RiskLevel) {status : DocumentStatus}
    (hstatus : status = .completed ∨ status = .pendingApproval) (k : Int) :
    ((storeResults docId tenantId findings score severity status store).documents.find k).map
        Document.counted = (store.documents.find k).map Document.counted := by
  rw [documents_storeResults]
  refine counted_updateDocument ?_ k
  intro d hd hmatches
  unfold Document.counted
  rw [h d hd hmatches]
  exact congrArg (Prod.mk d.tenantId) (inDeleted_of_scanned hstatus)

/-- A document that was scanned counts in the same way after a second scan. -/
theorem counted_of_fate (h : Scanned docId tenantId store)
    (hfate : ScanFate tools calls docId bytes filename tenantId store store') (k : Int) :
    (store'.documents.find k).map Document.counted =
      (store.documents.find k).map Document.counted := by
  have hindexed : ((indexedStore tools calls docId bytes filename tenantId
      store).documents.find k).map Document.counted =
        (store.documents.find k).map Document.counted := by
    rw [documents_indexedStore]
    exact counted_startScan h k
  cases hfate with
  | untouched _ hstore => rw [hstore]
  | started _ hstore =>
      rw [hstore]
      exact counted_startScan h k
  | indexed _ _ hstore => rw [hstore.documents, hindexed]
  | stored _ _ status hstatus hstore =>
      rw [hstore.documents, counted_storeResults (scanned_indexedStore store) _ _ _ hstatus,
        hindexed]

/-! ## Scanning again -/

/-- The chunks after a scan. -/
theorem documentChunks_eq (hknowledge : store'.knowledge = store.knowledge)
    (hchunks : store'.chunks = store.chunks) :
    documentChunks filename tenantId store' = documentChunks filename tenantId store := by
  unfold documentChunks
  rw [hknowledge, hchunks]

theorem documentChunks_indexedStore_iff :
    documentChunks filename tenantId
        (indexedStore tools calls docId bytes filename tenantId store) =
        documentChunks filename tenantId store ↔
      calls.knowledge ≠ none ∨ calls.chunks ≠ none ∨
        splitTextIntoChunks tools.py (tools.extractText bytes filename) = [] := by
  unfold indexedStore
  exact documentChunks_indexChunks_iff _ _

theorem documentFindings_eq (hfindings : store'.findings = store.findings) :
    documentFindings docId store' = documentFindings docId store := by
  unfold documentFindings
  rw [hfindings]

/-- After a scan that returned, a second scan of the same content leaves the findings, the chunks
and the scores of the document as they were exactly when it indexes no chunk and stores no
finding. -/
theorem rescan_same_iff (tools : DocumentTools) (first second : ScanCalls) (docId : Int)
    (bytes : Bytes) (filename : String) (tenantId : Option Int) (store store' : DocumentStore)
    (found : List ScanFinding)
    (hfirst : runDocumentScanPipeline tools first docId bytes filename tenantId store =
      .ok found store') :
    SameScan tools.py docId filename tenantId store'
        (exitState (runDocumentScanPipeline tools second docId bytes filename tenantId) store') ↔
      (second.Begins → second.knowledge ≠ none ∨ second.chunks ≠ none ∨
        splitTextIntoChunks tools.py (tools.extractText bytes filename) = []) ∧
      (second.Begins →
        second.Stores docId (riskOf (foundIn tools bytes filename)).2 store' →
          foundIn tools bytes filename = []) := by
  have hscanned := scanned_of_returned hfirst
  have hfate : ScanFate tools second docId bytes filename tenantId store'
      (exitState (runDocumentScanPipeline tools second docId bytes filename tenantId) store') :=
    exitState_of_ends (ends_runDocumentScanPipeline.mono (fun _ _ h => h.1) (fun _ h => h.1))
  generalize exitState (runDocumentScanPipeline tools second docId bytes filename tenantId)
    store' = after at hfate ⊢
  have hcounted := counted_of_fate hscanned hfate
  have hindexed := @documentChunks_indexedStore_iff tools second docId bytes filename tenantId
    store'
  cases hfate with
  | untouched hstop hstore =>
      refine iff_of_true ?_ ⟨fun h => absurd h hstop, fun h => absurd h hstop⟩
      rw [hstore]
      exact ⟨rfl, rfl, fun _ _ => rfl⟩
  | started hstop hstore =>
      refine iff_of_true ?_ ⟨fun h => absurd h hstop, fun h => absurd h hstop⟩
      refine ⟨?_, ?_, calculateScores_congr ?_ hcounted tools.py⟩
      · rw [hstore]
        rfl
      · rw [hstore]
        rfl
      · rw [hstore]
        rfl
  | indexed hbegins hstop hstore =>
      rw [← documentChunks_eq hstore.knowledge hstore.chunks] at hindexed
      have hfindings : after.findings = store'.findings :=
        hstore.findings.trans (indexChunks_rest _ _).2.1
      constructor
      · intro hsame
        exact ⟨fun _ => hindexed.mp hsame.chunks, fun _ h => absurd h hstop⟩
      · rintro ⟨hnone, -⟩
        exact ⟨documentFindings_eq hfindings, hindexed.mpr (hnone hbegins),
          calculateScores_congr hfindings hcounted tools.py⟩
  | stored hbegins hstores status hstatus hstore =>
      have hchunks : documentChunks filename tenantId after = documentChunks filename tenantId
          (indexedStore tools second docId bytes filename tenantId store') :=
        documentChunks_eq hstore.knowledge hstore.chunks
      rw [← hchunks] at hindexed
      have hbefore : (indexedStore tools second docId bytes filename tenantId store').findings =
          store'.findings := (indexChunks_rest _ _).2.1
      constructor
      · intro hsame
        refine ⟨fun _ => hindexed.mp hsame.chunks, fun _ _ => ?_⟩
        have hfindings := hsame.findings
        rw [documentFindings_eq hstore.findings, documentFindings_storeResults,
          documentFindings_eq hbefore] at hfindings
        simpa using hfindings
      · rintro ⟨hnone, hfound⟩
        have hfindings : after.findings = store'.findings := by
          rw [hstore.findings, storeResults]
          dsimp only
          rw [hfound hbegins hstores, hbefore]
          exact List.append_nil _
        exact ⟨documentFindings_eq hfindings, hindexed.mpr (hnone hbegins),
          calculateScores_congr hfindings hcounted tools.py⟩

end

/-! ## A document that is scanned twice -/

/-- A document that was uploaded and not scanned yet. -/
def uploaded : DocumentStore where
  documents := ⟨[⟨1, none, "notes.txt", .other "local", .pending, 2, 0, .low⟩],
    List.nodup_singleton _⟩
  findings := []
  scans := []
  audits := []
  knowledge := .empty
  chunks := []
  approvals := []

/-- The tables after a scan of the document. -/
def scannedOnce : DocumentStore :=
  exitState (runDocumentScanPipeline plainTools quietCalls 1 okBytes "notes.txt" none) uploaded

/-- A second scan that cannot start leaves everything as it was. -/
theorem rescan_same_stopped :
    SameScan plainTools.py 1 "notes.txt" none scannedOnce
      (exitState (runDocumentScanPipeline plainTools { quietCalls with update := some .database } 1
        okBytes "notes.txt" none) scannedOnce) := by
  have hfirst : runDocumentScanPipeline plainTools quietCalls 1 okBytes "notes.txt" none uploaded =
      .ok (foundIn plainTools okBytes "notes.txt") scannedOnce := rfl
  refine (rescan_same_iff plainTools quietCalls _ 1 okBytes "notes.txt" none uploaded scannedOnce _
    hfirst).mpr ⟨?_, ?_⟩
  · intro hbegins
    cases hbegins.2.1
  · intro hbegins
    cases hbegins.2.1

/-- The tables after another scan of the document. -/
def scannedTwice : DocumentStore :=
  exitState (runDocumentScanPipeline plainTools quietCalls 1 okBytes "notes.txt" none) scannedOnce

/-- A second scan doubles the findings and the chunks of the document. -/
theorem rescan_adds :
    ((documentFindings 1 scannedOnce).length, (documentFindings 1 scannedTwice).length) =
      (10, 20) ∧
    ((documentChunks "notes.txt" none scannedOnce).length,
      (documentChunks "notes.txt" none scannedTwice).length) = (1, 2) ∧
    ¬ SameScan plainTools.py 1 "notes.txt" none scannedOnce scannedTwice := by
  have hfindings : ((documentFindings 1 scannedOnce).length,
      (documentFindings 1 scannedTwice).length) = (10, 20) := by
    decide +kernel
  refine ⟨hfindings, ?_, ?_⟩
  · decide +kernel
  · intro hsame
    rw [hsame.findings] at hfindings
    injection hfindings with honce htwice
    rw [honce] at htwice
    cases htwice

end AuthClaw.Documents
