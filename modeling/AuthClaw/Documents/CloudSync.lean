import AuthClaw.Documents.Pipeline
import AuthClaw.Documents.Scores

/-!
# The sync of a cloud

A sync marks the documents of a cloud that are not listed as deleted, stores those that are new,
and scans those that are new or whose size is not the listed one.  What a fetch raises is caught;
what a scan raises ends the sync.

Main results:

- Theorem {lit}`live_syncFiles` and {lit}`live_checkDeletions`: the documents that are not marked
  as deleted after a sync.
- Theorem {lit}`exactlyListed_iff`: when they are the listed ones.
-/

namespace AuthClaw.Documents

open Rows Exits PythonText

/-- A file that a cloud lists. -/
structure CloudFile where
  id : String
  name : String
  sizeBytes : Int

/-- A listed file, and how the calls for it go. -/
structure Visit where
  file : CloudFile
  pick : Choice Document
  fetched : Except ScanError Bytes
  calls : ScanCalls

/-- The files that are listed. -/
def listing (visits : List Visit) : List CloudFile :=
  visits.map Visit.file

section

variable (tools : DocumentTools) (src : CloudSource)

/-! ## Deletions -/

/-- No file has the name of the document, as its identifier or as its name. -/
def unlisted (files : List CloudFile) (d : Document) : Bool :=
  files.all (fun f => decide (f.id ≠ d.filename ∧ f.name ≠ d.filename))

/-- The documents that `existing_docs` holds. -/
def existingDocuments (store : DocumentStore) : List Document :=
  store.documents.rows.filter (fun d => decide (d.source = .cloud src) && !d.status.inDeleted)

/-- The row of a document that is marked. -/
def markedDocument (d : Document) : Document :=
  { d with status := .sourceDeleted src }

theorem markedDocument_id (d : Document) : (markedDocument src d).id = d.id :=
  rfl

/-- A document that is not listed is marked. -/
def markDeleted (store : DocumentStore) (d : Document) : DocumentStore :=
  DocumentStore.audited none d.id "document_deleted"
    ("Document '" ++ d.filename ++ "' was deleted from the cloud source: " ++ src.name ++ ".")
    { store with
      documents := store.documents.update (fun r => r.id = d.id) (markedDocument src)
        (markedDocument_id src) }

/-- The documents that are not listed are marked. -/
def checkDeletions (files : List CloudFile) (store : DocumentStore) : DocumentStore :=
  ((existingDocuments src store).filter (unlisted files)).foldl (markDeleted src) store

/-! ## Files -/

/-- `filename = :name AND source = :src`. -/
def named (name : String) (d : Document) : Bool :=
  decide (d.filename = name ∧ d.source = .cloud src)

/-- The number of the next document. -/
def nextDocument (store : DocumentStore) : Int :=
  above (store.documents.rows.map Document.id)

theorem nextDocument_new (store : DocumentStore) :
    store.documents.find (nextDocument store) = none :=
  Table.find_eq_none_of_lt fun _ hd => lt_above (List.mem_map_of_mem hd)

/-- The row of a new file. -/
def newDocument (file : CloudFile) (store : DocumentStore) : Document where
  id := nextDocument store
  tenantId := none
  filename := file.name
  source := .cloud src
  status := .pending
  sizeBytes := file.sizeBytes
  riskScore := 0
  severity := .low

theorem newDocument_new (file : CloudFile) (store : DocumentStore) :
    store.documents.find (newDocument src file store).id = none :=
  nextDocument_new store

/-- A new file is stored. -/
def insertDocument (file : CloudFile) (store : DocumentStore) : DocumentStore :=
  { store with
    documents := store.documents.append (newDocument src file store)
      (newDocument_new src file store) }

/-- The row of a modified file. -/
def resizedDocument (file : CloudFile) (d : Document) : Document :=
  { d with sizeBytes := file.sizeBytes, status := .scanning }

theorem resizedDocument_id (file : CloudFile) (d : Document) :
    (resizedDocument file d).id = d.id :=
  rfl

/-- A modified file is stored. -/
def resizeDocument (docId : Int) (file : CloudFile) (store : DocumentStore) : DocumentStore :=
  { store with
    documents := store.documents.update (fun d => d.id = docId) (resizedDocument file)
      (resizedDocument_id file) }

/-- What is fetched is scanned, when it is not empty. -/
def scanFetched (v : Visit) (docId : Int) : DocumentRun Unit :=
  match v.fetched with
  | .error _ => pure ()
  | .ok bytes =>
      if bytes = [] then pure ()
      else do
        let _ ← runDocumentScanPipeline tools v.calls docId bytes v.file.name none
        return

/-- A listed file is processed. -/
def syncFile (v : Visit) : DocumentRun Unit := do
  let store ← get
  match v.pick.fetch (named src v.file.name) store.documents.rows with
  | none =>
      set (insertDocument src v.file store)
      scanFetched tools v (nextDocument store)
  | some d =>
      if d.sizeBytes ≠ v.file.sizeBytes then
        set (resizeDocument d.id v.file store)
        scanFetched tools v d.id

/-- The listed files are processed, until a scan raises. -/
def syncFiles : List Visit → DocumentRun Unit
  | [] => pure ()
  | v :: visits => do
      syncFile tools src v
      syncFiles visits

/-- `sync_sources`, for one cloud. -/
def sync (visits : List Visit) (store : DocumentStore) : DocumentStore :=
  exitState (syncFiles tools src visits) (checkDeletions src (listing visits) store)

/-! ## What a sync is for -/

/-- A status that marks a document of the cloud as deleted. -/
def MarkedDeleted (status : DocumentStatus) : Prop :=
  status.inDeleted = true ∨ status = .sourceDeleted src

instance : DecidablePred (MarkedDeleted src) :=
  fun status => inferInstanceAs (Decidable (status.inDeleted = true ∨ _))

/-- A document of the cloud has the name and is not marked as deleted. -/
def Live (name : String) (store : DocumentStore) : Prop :=
  ∃ d ∈ store.documents.rows, named src name d = true ∧ ¬ MarkedDeleted src d.status

/-- The documents that are not marked as deleted are the listed ones. -/
def ExactlyListed (files : List CloudFile) (store : DocumentStore) : Prop :=
  ∀ name, Live src name store ↔ ∃ f ∈ files, f.name = name

/-- The document that the processing of a file stores, if it stores one. -/
def concerned (v : Visit) (store : DocumentStore) : Option Int :=
  match v.pick.fetch (named src v.file.name) store.documents.rows with
  | none => some (nextDocument store)
  | some d => if d.sizeBytes ≠ v.file.sizeBytes then some d.id else none

/-- The files before one are processed without a scan that raises, which leads to the state. -/
def Reaches (visits : List Visit) (store : DocumentStore) (v : Visit) (s : DocumentStore) :
    Prop :=
  ∃ before after, visits = before ++ v :: after ∧ syncFiles tools src before store = .ok () s

/-- The fetch or the scan of a document fails in a sync. -/
def FailedScan (visits : List Visit) (store : DocumentStore) (docId : Int) : Prop :=
  ∃ v s, Reaches tools src visits (checkDeletions src (listing visits) store) v s ∧
    concerned src v s = some docId ∧
      ((∃ e, v.fetched = .error e) ∨ ∃ e s', syncFile tools src v s = .error e s')

/-- The scans that are stored of a document. -/
def scansOf (docId : Int) (store : DocumentStore) : Nat :=
  store.scans.countP (fun scan => scan.documentId = docId)

/-- Some later syncs with the listing scan the document. -/
def ScannedLater (files : List CloudFile) (docId : Int) (store : DocumentStore) : Prop :=
  ∃ later : List (List Visit), (∀ visits ∈ later, listing visits = files) ∧
    scansOf docId store <
      scansOf docId (later.foldl (fun s visits => sync tools src visits s) store)

/-- A finding of a document of the cloud that is marked as deleted. -/
def ofDeleted (store : DocumentStore) (f : DocumentFinding) : Bool :=
  match store.documents.find f.documentId with
  | none => false
  | some d => decide (d.source = .cloud src) && decide (MarkedDeleted src d.status)

/-- The scores of every tenant are those without the findings of deleted documents. -/
def DeletedUncounted (store : DocumentStore) : Prop :=
  ∀ others t, calculateScores tools.py others t
    { store with findings := store.findings.filter (fun f => !ofDeleted src store f) } =
      calculateScores tools.py others t store

end

section

variable {tools : DocumentTools} {src : CloudSource} {store s s' : DocumentStore} {docId : Int}
  {v : Visit} {name : String}

/-! ## What the processing of a file does -/

/-- The statuses of a document that is stored or scanned. -/
def DocumentStatus.active (status : DocumentStatus) : Bool :=
  decide (status ∈ [DocumentStatus.pending, .scanning, .completed, .pendingApproval])

theorem not_markedDeleted_of_active {status : DocumentStatus} (h : status.active = true) :
    ¬ MarkedDeleted src status := by
  unfold DocumentStatus.active at h
  rw [decide_eq_true_eq] at h
  unfold MarkedDeleted
  simp only [List.mem_cons, List.not_mem_nil, or_false] at h
  rcases h with rfl | rfl | rfl | rfl <;> simp [DocumentStatus.inDeleted]

/-- Only one document is written, and it keeps its name and its source. -/
structure Touched (docId : Int) (s s' : DocumentStore) : Prop where
  others : ∀ k, k ≠ docId → s'.documents.find k = s.documents.find k
  own : ∀ d, s.documents.find docId = some d → ∃ d', s'.documents.find docId = some d' ∧
    d'.filename = d.filename ∧ d'.source = d.source ∧
      (d'.status = d.status ∨ d'.status.active = true)
  scansOfOthers : ∀ k, k ≠ docId → scansOf k s' = scansOf k s
  scans : s.scans <+: s'.scans
  audits : s.audits <+: s'.audits

theorem Touched.refl (docId : Int) (s : DocumentStore) : Touched docId s s where
  others := fun _ _ => rfl
  own := fun d hd => ⟨d, hd, rfl, rfl, Or.inl rfl⟩
  scansOfOthers := fun _ _ => rfl
  scans := List.prefix_rfl
  audits := List.prefix_rfl

theorem Touched.trans {s'' : DocumentStore} (h : Touched docId s s') (h' : Touched docId s' s'') :
    Touched docId s s'' where
  others := fun k hk => (h'.others k hk).trans (h.others k hk)
  own := by
    intro d hd
    rcases h.own d hd with ⟨d', hd', hname, hsource, hstatus⟩
    rcases h'.own d' hd' with ⟨d'', hd'', hname', hsource', hstatus'⟩
    refine ⟨d'', hd'', hname'.trans hname, hsource'.trans hsource, ?_⟩
    rcases hstatus' with hsame | hactive
    · rw [hsame]
      exact hstatus
    · exact Or.inr hactive
  scansOfOthers := fun k hk => (h'.scansOfOthers k hk).trans (h.scansOfOthers k hk)
  scans := h.scans.trans h'.scans
  audits := h.audits.trans h'.audits

/-- A document that is updated by its number is the only one that is written. -/
theorem touched_update {p : Document → Bool} {f : Document → Document}
    {hf : ∀ d, (f d).id = d.id} (hp : ∀ d, p d = true → d.id = docId)
    (hname : ∀ d, (f d).filename = d.filename) (hsource : ∀ d, (f d).source = d.source)
    (hactive : ∀ d, (f d).status.active = true)
    (hdocuments : s'.documents = s.documents.update p f hf) (hscans : s'.scans = s.scans)
    (haudits : s.audits <+: s'.audits) : Touched docId s s' where
  others := by
    intro k hk
    rw [hdocuments, Table.find_update]
    cases hfind : s.documents.find k with
    | none => rfl
    | some d =>
        have hid : d.id = k := Table.find_key hfind
        rw [Option.map_some, if_neg (fun hmatch => hk (hid ▸ hp d hmatch))]
  own := by
    intro d hd
    rw [hdocuments, Table.find_update, hd, Option.map_some]
    by_cases hmatch : p d = true
    · rw [if_pos hmatch]
      exact ⟨f d, rfl, hname d, hsource d, Or.inr (hactive d)⟩
    · rw [if_neg hmatch]
      exact ⟨d, rfl, rfl, rfl, Or.inl rfl⟩
  scansOfOthers := fun k _ => by rw [scansOf, hscans, scansOf]
  scans := hscans.symm ▸ List.prefix_rfl
  audits := haudits

/-- The same tables are those of the same document. -/
theorem Touched.same {s'' : DocumentStore} (h : Touched docId s s') (hsame : SameTables s' s'') :
    Touched docId s s'' where
  others := by
    rw [hsame.documents]
    exact h.others
  own := by
    rw [hsame.documents]
    exact h.own
  scansOfOthers := by
    unfold scansOf
    rw [hsame.scans]
    exact h.scansOfOthers
  scans := by
    rw [hsame.scans]
    exact h.scans
  audits := h.audits.trans hsame.audits

variable {calls : ScanCalls} {bytes : Bytes} {filename : String}

theorem touched_updateDocument {f : Document → Document} {hf : ∀ d, (f d).id = d.id}
    (hname : ∀ d, (f d).filename = d.filename) (hsource : ∀ d, (f d).source = d.source)
    (hactive : ∀ d, (f d).status.active = true) :
    Touched docId s (updateDocument docId none f hf s) :=
  @touched_update s _ docId (fun d => decide (d.id = docId) && tenantMatches none d.tenantId) f hf
    (fun d hd => by simpa [tenantMatches] using hd) hname hsource hactive rfl rfl List.prefix_rfl

/-- A scan that has started writes its own document. -/
theorem touched_indexedStore :
    Touched docId s (indexedStore tools calls docId bytes filename none s) := by
  have hstarted : Touched docId s (startScan docId bytes none s) :=
    touched_updateDocument (fun _ => rfl) (fun _ => rfl) (fun _ => rfl)
  have hrest := @indexChunks_rest tools calls bytes filename none
    (splitTextIntoChunks tools.py (tools.extractText bytes filename))
    (DocumentStore.audited none docId "scan_started"
      ("Scan pipeline initiated for document: " ++ filename) (startScan docId bytes none s))
  constructor
  · rw [documents_indexedStore]
    exact hstarted.others
  · rw [documents_indexedStore]
    exact hstarted.own
  · intro k hk
    unfold indexedStore scansOf
    rw [hrest.2.2.1]
    rfl
  · unfold indexedStore
    rw [hrest.2.2.1]
    exact List.prefix_rfl
  · unfold indexedStore
    rw [hrest.2.2.2]
    exact List.prefix_append _ _

/-- The results that are stored are those of the document. -/
theorem touched_storeResults (findings : List ScanFinding) (score : Int) (severity : RiskLevel)
    {status : DocumentStatus} (hstatus : status.active = true) :
    Touched docId s (storeResults docId none findings score severity status s) := by
  have hrated : Touched docId s (updateDocument docId none (ratedDocument score severity status)
      (ratedDocument_id score severity status) s) :=
    touched_updateDocument (fun _ => rfl) (fun _ => rfl) (fun _ => hstatus)
  refine ⟨hrated.others, hrated.own, ?_, List.prefix_append _ _, List.prefix_rfl⟩
  intro k hk
  unfold scansOf storeResults
  rw [List.countP_append, List.countP_singleton, if_neg (by simpa using Ne.symm hk)]
  rfl

/-- A scan writes its own document, and only its own scans. -/
theorem touched_of_fate (h : ScanFate tools calls docId bytes filename none s s') :
    Touched docId s s' := by
  cases h with
  | untouched _ hstore =>
      rw [hstore]
      exact .refl docId s
  | started _ hstore =>
      rw [hstore]
      exact touched_updateDocument (fun _ => rfl) (fun _ => rfl) (fun _ => rfl)
  | indexed _ _ hstore => exact touched_indexedStore.same hstore
  | stored _ _ status hstatus hstore =>
      have hactive : status.active = true := by
        rcases hstatus with rfl | rfl
        · rfl
        · rfl
      exact (touched_indexedStore.trans (touched_storeResults _ _ _ hactive)).same hstore

/-- What is fetched is scanned for its document. -/
theorem ends_scanFetched (v : Visit) :
    Ends (scanFetched tools v docId) s (fun _ s' => Touched docId s s')
      (fun s' => Touched docId s s') := by
  unfold scanFetched
  cases v.fetched with
  | error e => exact .refl docId s
  | ok bytes =>
      by_cases hempty : bytes = []
      · simp only [if_pos hempty]
        exact .refl docId s
      · simp only [if_neg hempty]
        refine Ends.bind (ends_runDocumentScanPipeline.mono (fun _ _ h => h)
          (fun _ h => touched_of_fate h.1)) ?_
        intro found s' h
        exact touched_of_fate h.1

/-- A document with the name is stored or scanned, and nothing else is written. -/
structure StoredFor (src : CloudSource) (name : String) (docId : Int) (s s' : DocumentStore) :
    Prop where
  others : ∀ k, k ≠ docId → s'.documents.find k = s.documents.find k
  before : ∀ d, s.documents.find docId = some d → named src name d = true
  own : ∃ d, s'.documents.find docId = some d ∧ named src name d = true ∧ d.status.active = true
  scansOfOthers : ∀ k, k ≠ docId → scansOf k s' = scansOf k s
  scans : s.scans <+: s'.scans
  audits : s.audits <+: s'.audits

/-- A document that is stored may be scanned. -/
theorem StoredFor.touched {s'' : DocumentStore} (h : StoredFor src name docId s s')
    (h' : Touched docId s' s'') : StoredFor src name docId s s'' where
  others := fun k hk => (h'.others k hk).trans (h.others k hk)
  before := h.before
  own := by
    rcases h.own with ⟨d, hd, hnamed, hactive⟩
    rcases h'.own d hd with ⟨d', hd', hname, hsource, hstatus⟩
    refine ⟨d', hd', ?_, ?_⟩
    · unfold named at hnamed ⊢
      rwa [hname, hsource]
    · rcases hstatus with hsame | hactive'
      · rwa [hsame]
      · exact hactive'
  scansOfOthers := fun k hk => (h'.scansOfOthers k hk).trans (h.scansOfOthers k hk)
  scans := h.scans.trans h'.scans
  audits := h.audits.trans h'.audits

theorem storedFor_insertDocument (file : CloudFile) (s : DocumentStore) :
    StoredFor src file.name (nextDocument s) s (insertDocument src file s) where
  others := by
    intro k hk
    unfold insertDocument
    dsimp only
    rw [Table.find_append]
    exact if_neg hk
  before := by
    intro d hd
    rw [nextDocument_new] at hd
    cases hd
  own := by
    refine ⟨newDocument src file s, ?_, ?_, rfl⟩
    · unfold insertDocument
      dsimp only
      rw [Table.find_append]
      exact if_pos rfl
    · simp [named, newDocument]
  scansOfOthers := fun _ _ => rfl
  scans := List.prefix_rfl
  audits := List.prefix_rfl

theorem storedFor_resizeDocument {d : Document} (hd : d ∈ s.documents.rows) (file : CloudFile)
    (hnamed : named src file.name d = true) :
    StoredFor src file.name d.id s (resizeDocument d.id file s) := by
  have hfind : s.documents.find d.id = some d := Table.find_eq_some.mpr ⟨hd, rfl⟩
  have htouched : Touched d.id s (resizeDocument d.id file s) :=
    @touched_update s _ d.id (fun r => r.id = d.id) (resizedDocument file)
      (resizedDocument_id file) (fun r hr => of_decide_eq_true hr) (fun _ => rfl) (fun _ => rfl)
      (fun _ => rfl) rfl rfl List.prefix_rfl
  refine ⟨htouched.others, ?_, ?_, htouched.scansOfOthers, htouched.scans, htouched.audits⟩
  · intro r hr
    rw [hfind] at hr
    cases hr
    exact hnamed
  · refine ⟨resizedDocument file d, ?_, hnamed, rfl⟩
    unfold resizeDocument
    dsimp only
    rw [Table.find_update, hfind, Option.map_some, if_pos (decide_eq_true rfl)]

/-- A file that concerns a document is stored, and then scanned. -/
theorem syncFile_of_concerned (tools : DocumentTools) (h : concerned src v s = some docId) :
    ∃ t, StoredFor src v.file.name docId s t ∧ t.scans = s.scans ∧
      syncFile tools src v s = scanFetched tools v docId t := by
  unfold concerned at h
  cases hfetch : v.pick.fetch (named src v.file.name) s.documents.rows with
  | none =>
      rw [hfetch] at h
      cases h
      refine ⟨_, storedFor_insertDocument v.file s, rfl, ?_⟩
      show (match v.pick.fetch (named src v.file.name) s.documents.rows with
        | none => _ | some d => _ : DocumentRun Unit) s = _
      rw [hfetch]
      rfl
  | some d =>
      rw [hfetch] at h
      rcases Choice.fetch_eq_some hfetch with ⟨hd, hnamed⟩
      dsimp only at h
      split_ifs at h with hsize
      cases h
      refine ⟨_, storedFor_resizeDocument hd v.file hnamed, rfl, ?_⟩
      show (match v.pick.fetch (named src v.file.name) s.documents.rows with
        | none => _ | some d => _ : DocumentRun Unit) s = _
      rw [hfetch]
      simp only [if_pos hsize]
      rfl

/-- A file that concerns no document is passed over. -/
theorem syncFile_of_unconcerned (h : concerned src v s = none) :
    syncFile tools src v s = .ok () s := by
  unfold concerned at h
  cases hfetch : v.pick.fetch (named src v.file.name) s.documents.rows with
  | none =>
      rw [hfetch] at h
      cases h
  | some d =>
      rw [hfetch] at h
      dsimp only at h
      split_ifs at h with hsize
      show (match v.pick.fetch (named src v.file.name) s.documents.rows with
        | none => _ | some d => _ : DocumentRun Unit) s = _
      rw [hfetch]
      simp only [if_neg hsize]
      rfl

/-- What the processing of a file does. -/
def FileEffect (src : CloudSource) (v : Visit) (s s' : DocumentStore) : Prop :=
  (concerned src v s = none ∧ s' = s) ∨
    ∃ docId, concerned src v s = some docId ∧ StoredFor src v.file.name docId s s'

theorem fileEffect_syncFile (tools : DocumentTools) (src : CloudSource) (v : Visit)
    (s : DocumentStore) :
    FileEffect src v s (exitState (syncFile tools src v) s) := by
  cases hconcerned : concerned src v s with
  | none =>
      refine Or.inl ⟨hconcerned, ?_⟩
      unfold exitState
      rw [syncFile_of_unconcerned hconcerned]
  | some docId =>
      rcases syncFile_of_concerned tools hconcerned with ⟨t, hstored, -, hrun⟩
      refine Or.inr ⟨docId, hconcerned, hstored.touched ?_⟩
      unfold exitState
      rw [hrun]
      exact exitState_of_ends (ends_scanFetched v)

/-! ## Live documents -/

theorem live_iff : Live src name s ↔ ∃ k d, s.documents.find k = some d ∧
    named src name d = true ∧ ¬ MarkedDeleted src d.status := by
  constructor
  · rintro ⟨d, hd, hlive⟩
    exact ⟨d.id, d, Table.find_eq_some.mpr ⟨hd, rfl⟩, hlive⟩
  · rintro ⟨k, d, hd, hlive⟩
    exact ⟨d, Table.find_mem hd, hlive⟩

/-- A document has one name. -/
theorem named_unique {other : String} {d : Document} (h : named src name d = true)
    (h' : named src other d = true) : name = other := by
  unfold named at h h'
  rw [decide_eq_true_eq] at h h'
  exact h.1.symm.trans h'.1

/-- A file that is stored or scanned becomes live, and nothing else changes its life. -/
theorem live_fileEffect (h : FileEffect src v s s') :
    Live src name s' ↔ Live src name s ∨ v.file.name = name ∧ concerned src v s ≠ none := by
  rcases h with ⟨hnone, rfl⟩ | ⟨docId, hconcerned, hstored⟩
  · simp [hnone]
  rcases hstored.own with ⟨d, hd, hnamed, hactive⟩
  constructor
  · intro hlive
    rcases live_iff.mp hlive with ⟨k, r, hr, hname, hstatus⟩
    by_cases hk : k = docId
    · rw [hk, hd] at hr
      cases hr
      refine Or.inr ⟨named_unique hnamed hname, ?_⟩
      rw [hconcerned]
      exact Option.some_ne_none docId
    · rw [hstored.others k hk] at hr
      exact Or.inl (live_iff.mpr ⟨k, r, hr, hname, hstatus⟩)
  · rintro (hlive | ⟨rfl, -⟩)
    · rcases live_iff.mp hlive with ⟨k, r, hr, hname, hstatus⟩
      by_cases hk : k = docId
      · rw [hk] at hr
        rw [← named_unique (hstored.before r hr) hname]
        exact live_iff.mpr ⟨docId, d, hd, hnamed, not_markedDeleted_of_active hactive⟩
      · rw [← hstored.others k hk] at hr
        exact live_iff.mpr ⟨k, r, hr, hname, hstatus⟩
    · exact live_iff.mpr ⟨docId, d, hd, hnamed, not_markedDeleted_of_active hactive⟩

/-- The first file is reached, and the others where its scan does not raise. -/
theorem reaches_cons {w : Visit} {visits : List Visit} :
    Reaches tools src (v :: visits) s w s' ↔
      w = v ∧ s' = s ∨
        ∃ t, syncFile tools src v s = .ok () t ∧ Reaches tools src visits t w s' := by
  constructor
  · rintro ⟨before, after, hvisits, hrun⟩
    cases before with
    | nil =>
        injection hvisits with hv _
        cases hrun
        exact Or.inl ⟨hv.symm, rfl⟩
    | cons first before =>
        rw [List.cons_append] at hvisits
        injection hvisits with hv hrest
        subst hv
        have hrun' : EStateM.bind (syncFile tools src v) (fun _ => syncFiles tools src before) s =
            .ok () s' := hrun
        unfold EStateM.bind at hrun'
        cases hfirst : syncFile tools src v s with
        | error e t =>
            rw [hfirst] at hrun'
            cases hrun'
        | ok u t =>
            rw [hfirst] at hrun'
            exact Or.inr ⟨t, rfl, before, after, hrest, hrun'⟩
  · rintro (⟨rfl, rfl⟩ | ⟨t, hfirst, before, after, hvisits, hrun⟩)
    · exact ⟨[], visits, rfl, rfl⟩
    · refine ⟨v :: before, after, by rw [hvisits]; rfl, ?_⟩
      show EStateM.bind (syncFile tools src v) (fun _ => syncFiles tools src before) s = _
      unfold EStateM.bind
      rw [hfirst]
      exact hrun

theorem not_reaches_nil {w : Visit} : ¬ Reaches tools src [] s w s' := by
  rintro ⟨before, after, hvisits, -⟩
  cases before with
  | nil => cases hvisits
  | cons first before => cases hvisits

/-- The files that are reached when the first one does not raise. -/
theorem exists_reaches_ok {visits : List Visit} {t : DocumentStore}
    {P : Visit → DocumentStore → Prop} (h : syncFile tools src v s = .ok () t) :
    (∃ w u, Reaches tools src (v :: visits) s w u ∧ P w u) ↔
      P v s ∨ ∃ w u, Reaches tools src visits t w u ∧ P w u := by
  constructor
  · rintro ⟨w, u, hreaches, hP⟩
    rcases reaches_cons.mp hreaches with ⟨rfl, rfl⟩ | ⟨t', ht', hrest⟩
    · exact Or.inl hP
    · rw [h] at ht'
      cases ht'
      exact Or.inr ⟨w, u, hrest, hP⟩
  · rintro (hP | ⟨w, u, hrest, hP⟩)
    · exact ⟨v, s, reaches_cons.mpr (Or.inl ⟨rfl, rfl⟩), hP⟩
    · exact ⟨w, u, reaches_cons.mpr (Or.inr ⟨t, h, hrest⟩), hP⟩

/-- The first file only is reached when it raises. -/
theorem exists_reaches_error {visits : List Visit} {t : DocumentStore} {e : ScanError}
    {P : Visit → DocumentStore → Prop} (h : syncFile tools src v s = .error e t) :
    (∃ w u, Reaches tools src (v :: visits) s w u ∧ P w u) ↔ P v s := by
  constructor
  · rintro ⟨w, u, hreaches, hP⟩
    rcases reaches_cons.mp hreaches with ⟨rfl, rfl⟩ | ⟨t', ht', -⟩
    · exact hP
    · rw [h] at ht'
      cases ht'
  · intro hP
    exact ⟨v, s, reaches_cons.mpr (Or.inl ⟨rfl, rfl⟩), hP⟩

/-- The files that are processed, one after the other. -/
theorem exitState_syncFiles_cons {visits : List Visit} :
    exitState (syncFiles tools src (v :: visits)) s = match syncFile tools src v s with
      | .ok _ t => exitState (syncFiles tools src visits) t
      | .error _ t => t := by
  rw [syncFiles, exitState_bind]
  cases syncFile tools src v s with
  | ok u t => rfl
  | error e t => rfl

/-- A name is live after the files were processed when it was before, or when a file that is
reached is stored or scanned. -/
theorem live_syncFiles (visits : List Visit) (s : DocumentStore) :
    Live src name (exitState (syncFiles tools src visits) s) ↔ Live src name s ∨
      ∃ v t, Reaches tools src visits s v t ∧ v.file.name = name ∧ concerned src v t ≠ none := by
  induction visits generalizing s with
  | nil =>
      refine ⟨Or.inl, ?_⟩
      rintro (hlive | ⟨v, t, hreaches, -⟩)
      · exact hlive
      · exact absurd hreaches not_reaches_nil
  | cons v visits ih =>
      have heffect := fileEffect_syncFile tools src v s
      unfold exitState at heffect
      rw [exitState_syncFiles_cons]
      cases hv : syncFile tools src v s with
      | ok u t =>
          rw [hv] at heffect
          rw [exists_reaches_ok hv]
          dsimp only at heffect ⊢
          rw [ih t, live_fileEffect heffect, or_assoc]
      | error e t =>
          rw [hv] at heffect
          rw [exists_reaches_error hv]
          exact live_fileEffect heffect

/-! ## Deletions -/

/-- A document that a sync with the files marks. -/
def missing (src : CloudSource) (files : List CloudFile) (d : Document) : Bool :=
  unlisted files d && (decide (d.source = .cloud src) && !d.status.inDeleted)

theorem checkDeletions_eq (files : List CloudFile) (s : DocumentStore) :
    checkDeletions src files s =
      (s.documents.rows.filter (missing src files)).foldl (markDeleted src) s := by
  unfold checkDeletions existingDocuments
  rw [List.filter_filter]
  rfl

/-- The documents of a list are marked one by one. -/
theorem find_foldl_markDeleted (ds : List Document) (s : DocumentStore) (k : Int) :
    (ds.foldl (markDeleted src) s).documents.find k = (s.documents.find k).map
      (fun d => if d.id ∈ ds.map Document.id then markedDocument src d else d) := by
  induction ds generalizing s with
  | nil => simp
  | cons d ds ih =>
      have hmark : (markDeleted src s d).documents.find k = (s.documents.find k).map
          (fun r => if r.id = d.id then markedDocument src r else r) := by
        unfold markDeleted DocumentStore.audited
        dsimp only
        rw [Table.find_update]
        simp only [decide_eq_true_eq]
      rw [List.foldl_cons, ih, hmark, Option.map_map]
      cases s.documents.find k with
      | none => rfl
      | some r =>
          rw [Option.map_some, Option.map_some, Function.comp_apply]
          by_cases hr : r.id = d.id
          · simp [hr, markedDocument]
          · simp [hr]

/-- The documents after the deletions. -/
theorem find_checkDeletions (files : List CloudFile) (s : DocumentStore) (k : Int) :
    (checkDeletions src files s).documents.find k = (s.documents.find k).map
      (fun d => if missing src files d then markedDocument src d else d) := by
  rw [checkDeletions_eq, find_foldl_markDeleted]
  cases hfind : s.documents.find k with
  | none => rfl
  | some d =>
      have hd : d ∈ s.documents.rows := Table.find_mem hfind
      have hiff : d.id ∈ (s.documents.rows.filter (missing src files)).map Document.id ↔
          missing src files d = true := by
        constructor
        · intro hid
          rcases List.mem_map.mp hid with ⟨r, hr, hrd⟩
          rcases List.mem_filter.mp hr with ⟨hrows, hmissing⟩
          rwa [eq_of_key s.documents.nodup hrows hd hrd] at hmissing
        · intro hmissing
          exact List.mem_map_of_mem (List.mem_filter.mpr ⟨hd, hmissing⟩)
      simp only [Option.map_some, hiff]

/-- The deletions write documents and records, one record for each document that is missing. -/
theorem checkDeletions_rest (files : List CloudFile) (s : DocumentStore) :
    (checkDeletions src files s).scans = s.scans ∧
      s.audits <+: (checkDeletions src files s).audits ∧
        (checkDeletions src files s).audits.length = s.audits.length +
          (s.documents.rows.filter (missing src files)).length := by
  have hfold : ∀ (ds : List Document) (s : DocumentStore),
      (ds.foldl (markDeleted src) s).scans = s.scans ∧
        s.audits <+: (ds.foldl (markDeleted src) s).audits ∧
          (ds.foldl (markDeleted src) s).audits.length = s.audits.length + ds.length := by
    intro ds
    induction ds with
    | nil => exact fun s => ⟨rfl, List.prefix_rfl, rfl⟩
    | cons d ds ih =>
        intro s
        rcases ih (markDeleted src s d) with ⟨hscans, haudits, hlength⟩
        have hone : (markDeleted src s d).audits.length = s.audits.length + 1 := by
          simp [markDeleted, DocumentStore.audited]
        refine ⟨hscans, (List.prefix_append _ _).trans haudits, ?_⟩
        rw [List.foldl_cons, hlength, hone, List.length_cons]
        omega
  rw [checkDeletions_eq]
  exact hfold _ s

/-- A sync that misses no document marks none. -/
theorem checkDeletions_eq_self {files : List CloudFile}
    (h : ∀ d ∈ s.documents.rows, missing src files d = false) : checkDeletions src files s = s := by
  have hnone : s.documents.rows.filter (missing src files) = [] := by
    rw [List.filter_eq_nil_iff]
    intro d hd
    rw [h d hd]
    exact Bool.false_ne_true
  rw [checkDeletions_eq, hnone]
  rfl

/-- A name is live after the deletions when it is of a document that is listed. -/
theorem live_checkDeletions (files : List CloudFile) (s : DocumentStore) :
    Live src name (checkDeletions src files s) ↔ ∃ d ∈ s.documents.rows,
      named src name d = true ∧ ¬ MarkedDeleted src d.status ∧ unlisted files d = false := by
  rw [live_iff]
  constructor
  · rintro ⟨k, r, hr, hnamed, hstatus⟩
    rw [find_checkDeletions] at hr
    rcases Option.map_eq_some_iff.mp hr with ⟨d, hd, rfl⟩
    by_cases hmissing : missing src files d = true
    · rw [if_pos hmissing] at hstatus
      exact absurd (Or.inr rfl) hstatus
    · rw [if_neg hmissing] at hnamed hstatus
      have hsource : d.source = .cloud src := by
        unfold named at hnamed
        exact (of_decide_eq_true hnamed).2
      have hdeleted : d.status.inDeleted = false := by
        by_contra h
        exact hstatus (Or.inl (by simpa using h))
      refine ⟨d, Table.find_mem hd, hnamed, hstatus, ?_⟩
      simpa [missing, hsource, hdeleted] using hmissing
  · rintro ⟨d, hd, hnamed, hstatus, hlisted⟩
    refine ⟨d.id, d, ?_, hnamed, hstatus⟩
    rw [find_checkDeletions, Table.find_eq_some.mpr ⟨hd, rfl⟩, Option.map_some,
      if_neg (by simp [missing, hlisted])]

/-- A document that is not listed is neither a name nor an identifier of a file. -/
theorem unlisted_eq_false_iff {files : List CloudFile} {d : Document} :
    unlisted files d = false ↔ ∃ f ∈ files, f.id = d.filename ∨ f.name = d.filename := by
  unfold unlisted
  rw [List.all_eq_false]
  simp only [decide_eq_true_eq, not_and_or, not_not]

/-- A name of a document is its file name. -/
theorem filename_of_named {d : Document} (h : named src name d = true) :
    d.filename = name ∧ d.source = .cloud src := by
  unfold named at h
  exact of_decide_eq_true h

/-! ## The documents after a sync -/

/-- No live document has the identifier of a file for its name, and not the name of one; and each
listed name is live, or belongs to a file that the sync reaches and finds no document for, or one
of another size. -/
structure ListsLive (tools : DocumentTools) (src : CloudSource) (visits : List Visit)
    (store : DocumentStore) : Prop where
  names : ∀ d ∈ store.documents.rows, d.source = .cloud src → ¬ MarkedDeleted src d.status →
    (∃ f ∈ listing visits, f.id = d.filename) → ∃ f ∈ listing visits, f.name = d.filename
  reached : ∀ f ∈ listing visits, Live src f.name store ∨
    ∃ v s, Reaches tools src visits (checkDeletions src (listing visits) store) v s ∧
      v.file.name = f.name ∧ concerned src v s ≠ none

theorem exactlyListed_iff (visits : List Visit) (store : DocumentStore) :
    ExactlyListed src (listing visits) (sync tools src visits store) ↔
      ListsLive tools src visits store := by
  have hafter : ∀ name, Live src name (sync tools src visits store) ↔
      (∃ d ∈ store.documents.rows, named src name d = true ∧ ¬ MarkedDeleted src d.status ∧
        unlisted (listing visits) d = false) ∨
      ∃ v s, Reaches tools src visits (checkDeletions src (listing visits) store) v s ∧
        v.file.name = name ∧ concerned src v s ≠ none := by
    intro name
    unfold sync
    rw [live_syncFiles, live_checkDeletions]
  constructor
  · intro hexact
    constructor
    · intro d hd hsource hstatus hid
      rcases hid with ⟨f, hf, hfd⟩
      refine (hexact d.filename).mp ((hafter d.filename).mpr (Or.inl ⟨d, hd, ?_, hstatus, ?_⟩))
      · exact decide_eq_true ⟨rfl, hsource⟩
      · exact unlisted_eq_false_iff.mpr ⟨f, hf, Or.inl hfd⟩
    · intro f hf
      rcases (hafter f.name).mp ((hexact f.name).mpr ⟨f, hf, rfl⟩) with
        ⟨d, hd, hnamed, hstatus, -⟩ | hreached
      · exact Or.inl ⟨d, hd, hnamed, hstatus⟩
      · exact Or.inr hreached
  · rintro ⟨hnames, hreached⟩ name
    rw [hafter]
    constructor
    · rintro (⟨d, hd, hnamed, hstatus, hlisted⟩ | ⟨v, s, ⟨before, after, hvisits, -⟩, rfl, -⟩)
      · rcases filename_of_named hnamed with ⟨rfl, hsource⟩
        rcases unlisted_eq_false_iff.mp hlisted with ⟨f, hf, hid | hname⟩
        · exact hnames d hd hsource hstatus ⟨f, hf, hid⟩
        · exact ⟨f, hf, hname⟩
      · refine ⟨v.file, List.mem_map_of_mem ?_, rfl⟩
        rw [hvisits]
        exact List.mem_append_right _ List.mem_cons_self
    · rintro ⟨f, hf, rfl⟩
      rcases hreached f hf with ⟨d, hd, hnamed, hstatus⟩ | hreached
      · refine Or.inl ⟨d, hd, hnamed, hstatus, unlisted_eq_false_iff.mpr ⟨f, hf, Or.inr ?_⟩⟩
        exact (filename_of_named hnamed).1.symm
      · exact Or.inr hreached

end

end AuthClaw.Documents
