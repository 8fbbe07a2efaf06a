import AuthClaw.Documents.CloudSync

/-!
# Whether the sync of a cloud converges

A later sync scans a document when its size is not the listed one, or when there is none for a
listed name.  To show that some later sync does, a sync is run that prefers the document, and
whose fetches of other names fail.

Main results:

- Theorem {lit}`cloud_sync_converges_iff`: when the documents after a sync are the listed ones,
  when a second sync changes nothing, when a document that could not be scanned is scanned later,
  and when deleted documents do not bear on the scores.
-/

namespace AuthClaw.Documents

open Rows Exits PythonText

section

variable {tools : DocumentTools} {src : CloudSource} {store s s' : DocumentStore} {docId : Int}
  {v : Visit} {name : String}

/-! ## Runs over the files -/

/-- What the processing of every file keeps holds when the files were processed. -/
theorem syncFiles_invariant {I : DocumentStore → Prop} {visits : List Visit}
    (hstep : ∀ v ∈ visits, ∀ s s', I s → FileEffect src v s s' → I s') (hs : I s) :
    I (exitState (syncFiles tools src visits) s) := by
  induction visits generalizing s with
  | nil => exact hs
  | cons v visits ih =>
      have heffect := fileEffect_syncFile tools src v s
      have hfirst := hstep v List.mem_cons_self s _ hs heffect
      unfold exitState at hfirst
      rw [exitState_syncFiles_cons]
      cases hv : syncFile tools src v s with
      | ok u t =>
          rw [hv] at hfirst
          exact ih (fun w hw => hstep w (List.mem_cons_of_mem _ hw)) hfirst
      | error e t =>
          rw [hv] at hfirst
          exact hfirst

/-- Scans and records are only added. -/
theorem prefix_syncFiles (visits : List Visit) (s : DocumentStore) :
    s.scans <+: (exitState (syncFiles tools src visits) s).scans ∧
      s.audits <+: (exitState (syncFiles tools src visits) s).audits := by
  refine syncFiles_invariant (I := fun t => s.scans <+: t.scans ∧ s.audits <+: t.audits) ?_
    ⟨List.prefix_rfl, List.prefix_rfl⟩
  rintro v - t t' ⟨hscans, haudits⟩ heffect
  rcases heffect with ⟨-, rfl⟩ | ⟨docId, -, hstored⟩
  · exact ⟨hscans, haudits⟩
  · exact ⟨hscans.trans hstored.scans, haudits.trans hstored.audits⟩

/-- A document that is not listed is neither written nor stored. -/
theorem find_syncFiles_of_unlisted {visits : List Visit} {d : Document} {k : Int}
    (hd : unlisted (listing visits) d = true) :
    (exitState (syncFiles tools src visits) s).documents.find k = some d ↔
      s.documents.find k = some d := by
  refine syncFiles_invariant (I := fun t => t.documents.find k = some d ↔
    s.documents.find k = some d) ?_ Iff.rfl
  intro v hv t t' ht heffect
  rcases heffect with ⟨-, rfl⟩ | ⟨docId, -, hstored⟩
  · exact ht
  · by_cases hk : k = docId
    · have hother : ∀ r, named src v.file.name r = true → r ≠ d := by
        rintro r hr rfl
        have hlisted : unlisted (listing visits) r = false :=
          unlisted_eq_false_iff.mpr ⟨v.file, List.mem_map_of_mem hv,
            Or.inr (filename_of_named hr).1.symm⟩
        rw [hd] at hlisted
        cases hlisted
      rcases hstored.own with ⟨r, hr, hnamed, -⟩
      rw [← ht, hk, hr]
      constructor
      · intro heq
        injection heq with heq
        exact absurd heq (hother r hnamed)
      · intro hbefore
        exact absurd rfl (hother d (hstored.before d hbefore))
    · rw [hstored.others k hk]
      exact ht

/-- A document keeps its number and its name. -/
theorem named_syncFiles {visits : List Visit} {k : Int}
    (h : ∃ d, s.documents.find k = some d ∧ named src name d = true) :
    ∃ d, (exitState (syncFiles tools src visits) s).documents.find k = some d ∧
      named src name d = true := by
  refine syncFiles_invariant (I := fun t => ∃ d, t.documents.find k = some d ∧
    named src name d = true) ?_ h
  rintro v - t t' ⟨d, hd, hnamed⟩ heffect
  rcases heffect with ⟨-, rfl⟩ | ⟨docId, -, hstored⟩
  · exact ⟨d, hd, hnamed⟩
  · by_cases hk : k = docId
    · rw [hk] at hd
      have hname := named_unique (hstored.before d hd) hnamed
      rcases hstored.own with ⟨d', hd', hnamed', -⟩
      rw [hk, ← hname]
      exact ⟨d', hd', hnamed'⟩
    · rw [hstored.others k hk]
      exact ⟨d, hd, hnamed⟩

/-! ## Scans that succeed -/

/-- A visit of a file that is scanned when it has the name, preferring some documents. -/
def probe (q : Document → Bool) (name : String) (file : CloudFile) : Visit where
  file := file
  pick := .preferring q
  fetched := if file.name = name then .ok [0] else .error .other
  calls := quietCalls

/-- A document that is there is scanned when what is fetched is not empty and no call raises. -/
theorem scanFetched_of_ok (tools : DocumentTools) {v : Visit} (hfetched : v.fetched = .ok [0])
    (hcalls : v.calls = quietCalls) (hdocument : (s.documents.find docId).isSome = true) :
    ∃ found t, scanFetched tools v docId s = .ok () t ∧
      t.scans = s.scans ++ [⟨none, docId, found⟩] := by
  rcases @returns_of_quiet tools docId [0] v.file.name none s hdocument with ⟨found, t, ht⟩
  refine ⟨_, t, ?_, scans_of_returned ht⟩
  unfold scanFetched
  rw [hfetched, hcalls]
  show EStateM.bind (runDocumentScanPipeline tools quietCalls docId [0] v.file.name none) _ s = _
  unfold EStateM.bind
  rw [ht]
  rfl

/-- A probe of another name stores or resizes its document, and returns. -/
theorem syncFile_probe_of_ne (tools : DocumentTools) (src : CloudSource) (q : Document → Bool)
    (s : DocumentStore) {file : CloudFile} (hname : file.name ≠ name) :
    ∃ t, syncFile tools src (probe q name file) s = .ok () t := by
  cases hconcerned : concerned src (probe q name file) s with
  | none => exact ⟨s, syncFile_of_unconcerned hconcerned⟩
  | some docId =>
      rcases syncFile_of_concerned tools hconcerned with ⟨t, -, -, hrun⟩
      refine ⟨t, ?_⟩
      rw [hrun]
      unfold scanFetched probe
      simp only [if_neg hname]
      rfl

/-- A probe of the name scans the document it concerns. -/
theorem syncFile_probe (tools : DocumentTools) {q : Document → Bool} {file : CloudFile}
    (hname : file.name = name)
    (hconcerned : concerned src (probe q name file) s = some docId) :
    ∃ found t, syncFile tools src (probe q name file) s = .ok () t ∧
      t.scans = s.scans ++ [⟨none, docId, found⟩] := by
  rcases syncFile_of_concerned tools hconcerned with ⟨t, hstored, hscans, hrun⟩
  rcases hstored.own with ⟨d, hd, -, -⟩
  have hfetched : (probe q name file).fetched = .ok [0] := if_pos hname
  have hdocument : (t.documents.find docId).isSome = true := by
    rw [hd]
    rfl
  rcases scanFetched_of_ok tools hfetched rfl hdocument with ⟨found, t', hreturned, hscanned⟩
  exact ⟨found, t', hrun.trans hreturned, by rw [hscanned, hscans]⟩

/-- Probes of a name scan a document when one of them concerns a document whatever the others
did. -/
theorem scans_probes (tools : DocumentTools) (src : CloudSource) {q : Document → Bool}
    {P : Int → Bool} {I : DocumentStore → Prop}
    (hother : ∀ file t t', file.name ≠ name → I t → FileEffect src (probe q name file) t t' → I t')
    (hP : ∀ file t k, file.name = name → I t → concerned src (probe q name file) t = some k →
      P k = true) {files : List CloudFile} {file : CloudFile} (hfile : file ∈ files)
    (hname : file.name = name) (hdue : ∀ t, I t → concerned src (probe q name file) t ≠ none)
    (hs : I s) :
    s.scans.countP (fun scan => P scan.documentId) <
      (exitState (syncFiles tools src (files.map (probe q name))) s).scans.countP
        (fun scan => P scan.documentId) := by
  induction files generalizing s with
  | nil => cases hfile
  | cons first files ih =>
      have hlater : ∀ t, (exitState (syncFiles tools src (files.map (probe q name))) t).scans.countP
          (fun scan => P scan.documentId) ≥ t.scans.countP (fun scan => P scan.documentId) :=
        fun t => (prefix_syncFiles _ t).1.sublist.countP_le
      rw [List.map_cons, exitState_syncFiles_cons]
      by_cases hfirst : first.name = name
      · cases hconcerned : concerned src (probe q name first) s with
        | none =>
            have hrest : file ∈ files := by
              rcases List.mem_cons.mp hfile with rfl | hrest
              · exact absurd hconcerned (hdue s hs)
              · exact hrest
            rw [syncFile_of_unconcerned hconcerned]
            exact ih hrest hs
        | some docId =>
            rcases syncFile_probe tools hfirst hconcerned with ⟨found, t, hrun, hscans⟩
            have hcount : t.scans.countP (fun scan => P scan.documentId) =
                s.scans.countP (fun scan => P scan.documentId) + 1 := by
              rw [hscans, List.countP_append, List.countP_singleton,
                if_pos (hP first s docId hfirst hs hconcerned)]
            rw [hrun]
            have := hlater t
            dsimp only
            omega
      · have hrest : file ∈ files := by
          rcases List.mem_cons.mp hfile with rfl | hrest
          · exact absurd hname hfirst
          · exact hrest
        rcases syncFile_probe_of_ne tools src q s hfirst with ⟨t, hrun⟩
        have heffect := fileEffect_syncFile tools src (probe q name first) s
        unfold exitState at heffect
        rw [hrun] at heffect ⊢
        have hscans : s.scans <+: t.scans := by
          rcases heffect with ⟨-, rfl⟩ | ⟨docId, -, hstored⟩
          · exact List.prefix_rfl
          · exact hstored.scans
        exact Nat.lt_of_le_of_lt hscans.sublist.countP_le
          (ih hrest (hother first s t hfirst hs heffect))

/-- A document of the name that has another size is scanned by probes that prefer it. -/
theorem scansOf_probes (tools : DocumentTools) {k : Int} {d : Document}
    (hd : s.documents.find k = some d) (hnamed : named src name d = true)
    {files : List CloudFile} {file : CloudFile} (hfile : file ∈ files)
    (hname : file.name = name) (hsize : d.sizeBytes ≠ file.sizeBytes) :
    scansOf k s < scansOf k
      (exitState (syncFiles tools src (files.map (probe (fun r => r.id = k) name))) s) := by
  have hpick : ∀ t : DocumentStore, t.documents.find k = some d →
      Choice.fetch (.preferring fun r => decide (r.id = k)) (named src name) t.documents.rows =
        some d := by
    intro t ht
    rcases Choice.preferring_fetch (q := fun r : Document => decide (r.id = k)) (Table.find_mem ht)
      hnamed (decide_eq_true (Table.find_key ht)) with ⟨r, hfetch, hr, hid⟩
    rw [hfetch, eq_of_key t.documents.nodup hr (Table.find_mem ht)
      ((of_decide_eq_true hid).trans (Table.find_key ht).symm)]
  have hid : d.id = k := Table.find_key hd
  have hconcerned : ∀ (f : CloudFile) (t : DocumentStore), f.name = name →
      t.documents.find k = some d → concerned src (probe (fun r => r.id = k) name f) t =
        if d.sizeBytes ≠ f.sizeBytes then some k else none := by
    intro f t hf ht
    unfold concerned probe
    dsimp only
    rw [hf, hpick t ht]
    dsimp only
    rw [hid]
  refine scans_probes tools src (P := fun j => decide (j = k))
    (I := fun t => t.documents.find k = some d) ?_ ?_ hfile hname ?_ hd
  · intro f t t' hf ht heffect
    rcases heffect with ⟨-, rfl⟩ | ⟨docId, -, hstored⟩
    · exact ht
    · have hk : k ≠ docId := by
        rintro rfl
        exact hf (named_unique (hstored.before d ht) hnamed)
      rw [hstored.others k hk]
      exact ht
  · intro f t j hf ht hj
    rw [hconcerned f t hf ht] at hj
    split_ifs at hj
    cases hj
    exact decide_eq_true rfl
  · intro t ht
    rw [hconcerned file t hname ht, if_pos hsize]
    exact Option.some_ne_none k

/-- A name without a document is scanned by probes. -/
theorem scans_probes_of_new (tools : DocumentTools) (src : CloudSource)
    (hnew : ∀ d ∈ s.documents.rows, named src name d = false) {files : List CloudFile}
    {file : CloudFile} (hfile : file ∈ files) (hname : file.name = name) :
    s.scans.length < (exitState
      (syncFiles tools src (files.map (probe (fun _ => true) name))) s).scans.length := by
  have hscans := scans_probes tools src (q := fun _ => true)
    (P := fun _ => true) (I := fun t => ∀ d ∈ t.documents.rows, named src name d = false) ?_
    (fun _ _ _ _ _ _ => rfl) hfile hname ?_ hnew
  · simpa using hscans
  · intro f t t' hf ht heffect
    rcases heffect with ⟨-, rfl⟩ | ⟨docId, -, hstored⟩
    · exact ht
    · intro d hd
      have hfind : t'.documents.find d.id = some d := Table.find_eq_some.mpr ⟨hd, rfl⟩
      by_cases hk : d.id = docId
      · rcases hstored.own with ⟨r, hr, hnamed, -⟩
        rw [hk, hr] at hfind
        cases hfind
        by_contra hother
        exact hf (named_unique hnamed (by simpa using hother))
      · rw [hstored.others d.id hk] at hfind
        exact ht d (Table.find_mem hfind)
  · intro t ht
    unfold concerned probe
    dsimp only
    rw [hname]
    cases hfetch : Choice.fetch (.preferring fun _ => true) (named src name) t.documents.rows with
    | none => exact Option.some_ne_none _
    | some d =>
        rcases Choice.fetch_eq_some hfetch with ⟨hd, hnamed⟩
        rw [ht d hd] at hnamed
        cases hnamed

/-! ## A second sync -/

/-- Before the first sync no document of the cloud is missing, unless the cloud is S3; and after it
each listed name has documents, all of the listed size. -/
structure SyncSettles (tools : DocumentTools) (src : CloudSource) (visits : List Visit)
    (store : DocumentStore) : Prop where
  marked : src = .s3 ∨ ∀ d ∈ store.documents.rows, missing src (listing visits) d = false
  sizes : ∀ f ∈ listing visits,
    (∃ d ∈ (sync tools src visits store).documents.rows, named src f.name d = true) ∧
      ∀ d ∈ (sync tools src visits store).documents.rows, named src f.name d = true →
        d.sizeBytes = f.sizeBytes

/-- A document that is marked is missing again, unless the cloud is S3. -/
theorem missing_markedDocument (files : List CloudFile) {d : Document}
    (h : missing src files d = true) :
    missing src files (markedDocument src d) = true ↔ src ≠ .s3 := by
  unfold missing at h ⊢
  rw [Bool.and_eq_true, Bool.and_eq_true] at h
  have hlisted : unlisted files (markedDocument src d) = true := h.1
  have hsource : (markedDocument src d).source = .cloud src := of_decide_eq_true h.2.1
  rw [hlisted, hsource]
  simp [markedDocument, DocumentStatus.inDeleted]

/-- A document is missing after the deletions when one was before, unless the cloud is S3. -/
theorem missing_checkDeletions_iff (files : List CloudFile) (store : DocumentStore) :
    (∀ d ∈ (checkDeletions src files store).documents.rows, missing src files d = false) ↔
      src = .s3 ∨ ∀ d ∈ store.documents.rows, missing src files d = false := by
  constructor
  · intro hafter
    by_cases hs3 : src = .s3
    · exact Or.inl hs3
    · refine Or.inr ?_
      intro d hd
      by_contra hmissing
      rw [Bool.not_eq_false] at hmissing
      have hfind : (checkDeletions src files store).documents.find d.id =
          some (markedDocument src d) := by
        rw [find_checkDeletions, Table.find_eq_some.mpr ⟨hd, rfl⟩, Option.map_some, if_pos hmissing]
      have hagain := hafter _ (Table.find_mem hfind)
      rw [(missing_markedDocument files hmissing).mpr hs3] at hagain
      cases hagain
  · intro hbefore d' hd'
    have hfind := Table.find_eq_some.mpr ⟨hd', rfl⟩
    rw [find_checkDeletions] at hfind
    rcases Option.map_eq_some_iff.mp hfind with ⟨d, hd, hmark⟩
    by_cases hmissing : missing src files d = true
    · rw [if_pos hmissing] at hmark
      rcases hbefore with hs3 | hnone
      · by_contra hagain
        rw [Bool.not_eq_false, ← hmark] at hagain
        exact (missing_markedDocument files hmissing).mp hagain hs3
      · rw [hnone d (Table.find_mem hd)] at hmissing
        cases hmissing
    · rw [if_neg hmissing] at hmark
      rw [← hmark]
      simpa using hmissing

/-- A document is missing after a sync when one was before, unless the cloud is S3. -/
theorem missing_sync_iff (visits : List Visit) (store : DocumentStore) :
    (∀ d ∈ (sync tools src visits store).documents.rows,
        missing src (listing visits) d = false) ↔
      src = .s3 ∨ ∀ d ∈ store.documents.rows, missing src (listing visits) d = false := by
  rw [← missing_checkDeletions_iff]
  have hrow : ∀ d, missing src (listing visits) d = true →
      (d ∈ (sync tools src visits store).documents.rows ↔
        d ∈ (checkDeletions src (listing visits) store).documents.rows) := by
    intro d hmissing
    unfold missing at hmissing
    rw [Bool.and_eq_true] at hmissing
    have hfind := @find_syncFiles_of_unlisted tools src
      (checkDeletions src (listing visits) store) visits d d.id hmissing.1
    rw [Table.find_eq_some, Table.find_eq_some] at hfind
    unfold sync
    simpa using hfind
  constructor
  · intro h d hd
    by_contra hmissing
    rw [Bool.not_eq_false] at hmissing
    rw [h d ((hrow d hmissing).mpr hd)] at hmissing
    cases hmissing
  · intro h d hd
    by_contra hmissing
    rw [Bool.not_eq_false] at hmissing
    rw [h d ((hrow d hmissing).mp hd)] at hmissing
    cases hmissing

/-- Files that concern no document are passed over. -/
theorem syncFiles_of_unconcerned {visits : List Visit}
    (h : ∀ v ∈ visits, concerned src v s = none) :
    exitState (syncFiles tools src visits) s = s := by
  induction visits with
  | nil => rfl
  | cons v visits ih =>
      rw [exitState_syncFiles_cons, syncFile_of_unconcerned (h v List.mem_cons_self)]
      exact ih (fun w hw => h w (List.mem_cons_of_mem _ hw))

/-- A sync that misses no document and finds documents of the listed sizes only changes nothing. -/
theorem sync_eq_self {visits : List Visit}
    (hmissing : ∀ d ∈ s.documents.rows, missing src (listing visits) d = false)
    (hsizes : ∀ f ∈ listing visits, (∃ d ∈ s.documents.rows, named src f.name d = true) ∧
      ∀ d ∈ s.documents.rows, named src f.name d = true → d.sizeBytes = f.sizeBytes) :
    sync tools src visits s = s := by
  unfold sync
  rw [checkDeletions_eq_self hmissing]
  refine syncFiles_of_unconcerned ?_
  intro v hv
  rcases hsizes v.file (List.mem_map_of_mem hv) with ⟨⟨d, hd, hnamed⟩, hsame⟩
  unfold concerned
  cases hfetch : v.pick.fetch (named src v.file.name) s.documents.rows with
  | none => exact absurd hfetch (Choice.fetch_ne_none hd hnamed)
  | some r =>
      rcases Choice.fetch_eq_some hfetch with ⟨hr, hnamed'⟩
      exact if_neg (not_not.mpr (hsame r hr hnamed'))

/-- The files of probes. -/
theorem listing_probes (name : String) (q : Document → Bool) (files : List CloudFile) :
    listing (files.map (probe q name)) = files := by
  unfold listing
  rw [List.map_map]
  exact List.map_id files

/-- A sync with the probes of some files. -/
theorem sync_probes (q : Document → Bool) (files : List CloudFile) :
    sync tools src (files.map (probe q name)) s =
      exitState (syncFiles tools src (files.map (probe q name))) (checkDeletions src files s) := by
  unfold sync
  rw [listing_probes]

/-- A second sync changes nothing, however its calls go, exactly when the first one settles. -/
theorem sync_again_iff (visits : List Visit) (store : DocumentStore) :
    (∀ again, listing again = listing visits →
      sync tools src again (sync tools src visits store) = sync tools src visits store) ↔
      SyncSettles tools src visits store := by
  constructor
  · intro hsame
    have hmissing : ∀ d ∈ (sync tools src visits store).documents.rows,
        missing src (listing visits) d = false := by
      have hmarks := (@checkDeletions_rest src (listing visits)
        (sync tools src visits store)).2.2
      have hkept := (@prefix_syncFiles tools src visits (checkDeletions src (listing visits)
        (sync tools src visits store))).2.length_le
      have hagain : (exitState (syncFiles tools src visits) (checkDeletions src (listing visits)
          (sync tools src visits store))).audits.length =
            (sync tools src visits store).audits.length :=
        congrArg (fun t => t.audits.length) (hsame visits rfl)
      have hnone : ((sync tools src visits store).documents.rows.filter
          (missing src (listing visits))) = [] := by
        rw [← List.length_eq_zero_iff]
        omega
      intro d hd
      simpa using List.filter_eq_nil_iff.mp hnone d hd
    have hloop : ∀ q name, exitState (syncFiles tools src ((listing visits).map (probe q name)))
        (sync tools src visits store) = sync tools src visits store := by
      intro q name
      have hagain := hsame _ (listing_probes name q (listing visits))
      rw [sync, listing_probes, checkDeletions_eq_self hmissing] at hagain
      exact hagain
    refine ⟨(missing_sync_iff visits store).mp hmissing, ?_⟩
    intro f hf
    constructor
    · by_contra hnone
      have hnew : ∀ d ∈ (sync tools src visits store).documents.rows,
          named src f.name d = false := by
        intro d hd
        by_contra hnamed
        exact hnone ⟨d, hd, by simpa using hnamed⟩
      have hscans := scans_probes_of_new tools src hnew hf rfl
      rw [hloop] at hscans
      exact Nat.lt_irrefl _ hscans
    · intro d hd hnamed
      by_contra hsize
      have hscans := scansOf_probes tools (Table.find_eq_some.mpr ⟨hd, rfl⟩) hnamed hf rfl
        hsize
      rw [hloop] at hscans
      exact Nat.lt_irrefl _ hscans
  · rintro ⟨hmarked, hsizes⟩ again hagain
    refine sync_eq_self ?_ ?_
    · rw [hagain]
      exact (missing_sync_iff visits store).mpr hmarked
    · rw [hagain]
      exact hsizes

/-! ## Later scans -/

/-- A document whose scan failed has another size than some file of its name. -/
def FailuresDiffer (tools : DocumentTools) (src : CloudSource) (visits : List Visit)
    (store : DocumentStore) : Prop :=
  ∀ docId, FailedScan tools src visits store docId →
    ∃ d f, (sync tools src visits store).documents.find docId = some d ∧ f ∈ listing visits ∧
      f.name = d.filename ∧ d.sizeBytes ≠ f.sizeBytes

/-- From a file that is reached on, the sync goes on as from the state it is reached in. -/
theorem exitState_of_reaches {visits : List Visit} (h : Reaches tools src visits s v s') :
    ∃ rest, exitState (syncFiles tools src visits) s =
      exitState (syncFiles tools src (v :: rest)) s' ∧ ∀ w ∈ v :: rest, w ∈ visits := by
  induction visits generalizing s with
  | nil => exact absurd h not_reaches_nil
  | cons first visits ih =>
      rcases reaches_cons.mp h with ⟨rfl, rfl⟩ | ⟨t, hfirst, hrest⟩
      · exact ⟨visits, rfl, fun _ hw => hw⟩
      · rcases ih hrest with ⟨rest, hexit, hmem⟩
        refine ⟨rest, ?_, fun w hw => List.mem_cons_of_mem _ (hmem w hw)⟩
        rw [exitState_syncFiles_cons, hfirst]
        exact hexit

/-- A document whose scan failed has the name of a listed file. -/
theorem named_of_failedScan {visits : List Visit} {store : DocumentStore} {docId : Int}
    (h : FailedScan tools src visits store docId) :
    ∃ d, (sync tools src visits store).documents.find docId = some d ∧
      ∃ f ∈ listing visits, named src f.name d = true := by
  rcases h with ⟨v, s, hreaches, hconcerned, -⟩
  rcases exitState_of_reaches hreaches with ⟨rest, hexit, hmem⟩
  have hfile : v.file ∈ listing visits := List.mem_map_of_mem (hmem v List.mem_cons_self)
  have hfirst : ∃ d, (exitState (syncFile tools src v) s).documents.find docId = some d ∧
      named src v.file.name d = true := by
    rcases fileEffect_syncFile tools src v s with
      ⟨hnone, -⟩ | ⟨k, hk, hstored⟩
    · rw [hnone] at hconcerned
      cases hconcerned
    · rw [hconcerned] at hk
      cases hk
      rcases hstored.own with ⟨d, hd, hnamed, -⟩
      exact ⟨d, hd, hnamed⟩
  have hlast : ∃ d, (exitState (syncFiles tools src (v :: rest)) s).documents.find docId = some d ∧
      named src v.file.name d = true := by
    unfold exitState at hfirst
    rw [exitState_syncFiles_cons]
    cases hrun : syncFile tools src v s with
    | ok u t =>
        rw [hrun] at hfirst
        exact named_syncFiles hfirst
    | error e t =>
        rw [hrun] at hfirst
        exact hfirst
  rcases hlast with ⟨d, hd, hnamed⟩
  refine ⟨d, ?_, v.file, hfile, hnamed⟩
  unfold sync
  rw [hexit]
  exact hd

/-- The deletions leave a listed document alone, and the scans. -/
theorem listed_checkDeletions (src : CloudSource) {files : List CloudFile} {d : Document} {k : Int}
    (hd : s.documents.find k = some d) (hlisted : unlisted files d = false) :
    (checkDeletions src files s).documents.find k = some d ∧
      scansOf k (checkDeletions src files s) = scansOf k s := by
  constructor
  · rw [find_checkDeletions, hd, Option.map_some, if_neg (by simp [missing, hlisted])]
  · unfold scansOf
    rw [(checkDeletions_rest files s).1]

/-- A file of another name, or of the size of the document, does not concern it. -/
theorem not_concerned {d : Document} {k : Int} (hd : s.documents.find k = some d)
    (hsize : v.file.name = d.filename → d.sizeBytes = v.file.sizeBytes) :
    concerned src v s ≠ some k := by
  unfold concerned
  cases hfetch : v.pick.fetch (named src v.file.name) s.documents.rows with
  | none =>
      intro hk
      injection hk with hk
      rw [← hk, nextDocument_new] at hd
      cases hd
  | some r =>
      rcases Choice.fetch_eq_some hfetch with ⟨hr, hnamed⟩
      dsimp only
      by_cases hdiffers : r.sizeBytes ≠ v.file.sizeBytes
      · rw [if_pos hdiffers]
        intro hk
        injection hk with hk
        rw [← hk, Table.find_eq_some.mpr ⟨hr, rfl⟩] at hd
        cases hd
        exact hdiffers (hsize (filename_of_named hnamed).1.symm)
      · rw [if_neg hdiffers]
        exact Option.some_ne_none k |>.symm

/-- A listed document of the listed sizes is not written by a sync, and not scanned. -/
theorem untouched_sync (tools : DocumentTools) (src : CloudSource) {visits : List Visit}
    {d : Document} {k : Int} (hd : s.documents.find k = some d)
    (hlisted : unlisted (listing visits) d = false)
    (hsizes : ∀ f ∈ listing visits, f.name = d.filename → d.sizeBytes = f.sizeBytes) :
    (sync tools src visits s).documents.find k = some d ∧
      scansOf k (sync tools src visits s) = scansOf k s := by
  unfold sync
  refine syncFiles_invariant
    (I := fun t => t.documents.find k = some d ∧ scansOf k t = scansOf k s) ?_
    (listed_checkDeletions src hd hlisted)
  rintro v hv t t' ⟨hfind, hscans⟩ heffect
  rcases heffect with ⟨-, rfl⟩ | ⟨docId, hconcerned, hstored⟩
  · exact ⟨hfind, hscans⟩
  · have hk : k ≠ docId := by
      rintro rfl
      exact not_concerned hfind (hsizes v.file (List.mem_map_of_mem hv)) hconcerned
    rw [hstored.others k hk, hstored.scansOfOthers k hk]
    exact ⟨hfind, hscans⟩

/-- A listed document of the listed sizes is never scanned by later syncs. -/
theorem untouched_syncs {files : List CloudFile} {d : Document} {k : Int}
    (hlisted : unlisted files d = false)
    (hsizes : ∀ f ∈ files, f.name = d.filename → d.sizeBytes = f.sizeBytes)
    {later : List (List Visit)} (hlistings : ∀ visits ∈ later, listing visits = files)
    (hd : s.documents.find k = some d) :
    scansOf k (later.foldl (fun t visits => sync tools src visits t) s) = scansOf k s := by
  induction later generalizing s with
  | nil => rfl
  | cons visits later ih =>
      have hfiles := hlistings visits List.mem_cons_self
      subst hfiles
      rcases untouched_sync tools src hd hlisted hsizes with ⟨hfind, hscans⟩
      rw [List.foldl_cons, ih (fun w hw => hlistings w (List.mem_cons_of_mem _ hw)) hfind, hscans]

/-- A document whose scan failed is scanned by a later sync exactly when it has another size than
some file of its name. -/
theorem scannedLater_of_failed {visits : List Visit} {store : DocumentStore} {docId : Int}
    (hfailed : FailedScan tools src visits store docId) :
    ScannedLater tools src (listing visits) docId (sync tools src visits store) ↔
      ∃ d f, (sync tools src visits store).documents.find docId = some d ∧ f ∈ listing visits ∧
        f.name = d.filename ∧ d.sizeBytes ≠ f.sizeBytes := by
  rcases named_of_failedScan hfailed with ⟨d, hd, g, hg, hnamed⟩
  have hlisted : unlisted (listing visits) d = false :=
    unlisted_eq_false_iff.mpr ⟨g, hg, Or.inr (filename_of_named hnamed).1.symm⟩
  constructor
  · rintro ⟨later, hlistings, hscanned⟩
    by_contra hdiffer
    have hsizes : ∀ f ∈ listing visits, f.name = d.filename → d.sizeBytes = f.sizeBytes := by
      intro f hf hname
      by_contra hsize
      exact hdiffer ⟨d, f, hd, hf, hname, hsize⟩
    rw [untouched_syncs hlisted hsizes hlistings hd] at hscanned
    exact Nat.lt_irrefl _ hscanned
  · rintro ⟨d', f, hd', hf, hname, hsize⟩
    rw [hd] at hd'
    cases hd'
    have hnamed' : named src d.filename d = true :=
      decide_eq_true ⟨rfl, (filename_of_named hnamed).2⟩
    rcases listed_checkDeletions src hd hlisted with ⟨hfind, hscans⟩
    refine ⟨[(listing visits).map (probe (fun r => r.id = docId) d.filename)], ?_, ?_⟩
    · intro again hagain
      rw [List.mem_singleton.mp hagain, listing_probes]
    · rw [List.foldl_cons, List.foldl_nil, ← hscans, sync_probes]
      exact scansOf_probes tools hfind hnamed' hf hname hsize

/-- Every document whose scan failed is scanned by a later sync exactly when each has another size
than some file of its name. -/
theorem scannedLater_iff (visits : List Visit) (store : DocumentStore) :
    (∀ docId, FailedScan tools src visits store docId →
      ScannedLater tools src (listing visits) docId (sync tools src visits store)) ↔
      FailuresDiffer tools src visits store :=
  forall_congr' fun _ => forall_congr' scannedLater_of_failed

/-! ## Scores -/

/-- The cloud is S3, or no finding that the scores of some tenant are about is of a document with
the status of the cloud for deleted ones. -/
def MarksUncounted (src : CloudSource) (store : DocumentStore) : Prop :=
  src = .s3 ∨ ∀ f ∈ store.findings, ∀ d, store.documents.find f.documentId = some d →
    d.source = .cloud src → d.status = .sourceDeleted src → ∀ t, ofTenant t f d = false

theorem inDeleted_sourceDeleted :
    (DocumentStatus.sourceDeleted src).inDeleted = true ↔ src = .s3 := by
  simp [DocumentStatus.inDeleted]

theorem mem_countedFindings {t : Int} {f : DocumentFinding} :
    f ∈ countedFindings t store ↔ f ∈ store.findings ∧
      ∃ d, store.documents.find f.documentId = some d ∧ ofTenant t f d = true ∧
        d.status.inDeleted = false := by
  unfold countedFindings
  rw [List.mem_filter]
  cases store.documents.find f.documentId with
  | none => simp
  | some d => simp

theorem ofDeleted_iff {f : DocumentFinding} :
    ofDeleted src store f = true ↔ ∃ d, store.documents.find f.documentId = some d ∧
      d.source = .cloud src ∧ MarkedDeleted src d.status := by
  unfold ofDeleted
  cases store.documents.find f.documentId with
  | none => simp
  | some d => simp

/-- The findings of deleted documents do not bear on the scores exactly when none of them is
counted. -/
theorem deletedUncounted_iff (store : DocumentStore) :
    DeletedUncounted tools src store ↔ MarksUncounted src store := by
  constructor
  · intro huncounted
    by_cases hs3 : src = .s3
    · exact Or.inl hs3
    · refine Or.inr ?_
      intro f hf d hd hsource hstatus t
      by_contra htenant
      have hcounted : f ∈ countedFindings t store := by
        refine mem_countedFindings.mpr ⟨hf, d, hd, by simpa using htenant, ?_⟩
        rw [hstatus, ← Bool.not_eq_true, inDeleted_sourceDeleted]
        exact hs3
      have hkept := calculateScores_filter_iff.mp (huncounted ⟨[], []⟩ t) f hcounted
      rw [ofDeleted_iff.mpr ⟨d, hd, hsource, Or.inr hstatus⟩] at hkept
      cases hkept
  · intro hmarks others t
    refine calculateScores_filter_iff.mpr ?_
    intro f hf
    rcases mem_countedFindings.mp hf with ⟨hmem, d, hd, htenant, hcounted⟩
    by_contra hdeleted
    rw [Bool.not_eq_true, Bool.not_eq_false'] at hdeleted
    rcases ofDeleted_iff.mp hdeleted with ⟨d', hd', hsource, hmarked⟩
    rw [hd] at hd'
    cases hd'
    rcases hmarked with hin | hstatus
    · rw [hcounted] at hin
      cases hin
    · rcases hmarks with hs3 | hnone
      · rw [hstatus, inDeleted_sourceDeleted.mpr hs3] at hcounted
        cases hcounted
      · rw [hnone f hmem d hd hsource hstatus t] at htenant
        cases htenant

/-! ## When a sync converges -/

/-- When the documents after a sync are the listed ones, when a second sync changes nothing, when
every document whose fetch or scan failed is scanned by some later sync, and when documents that
are marked as deleted do not bear on the scores. -/
theorem cloud_sync_converges_iff (tools : DocumentTools) (src : CloudSource) (visits : List Visit)
    (store : DocumentStore) :
    (ExactlyListed src (listing visits) (sync tools src visits store) ↔
      ListsLive tools src visits store) ∧
    ((∀ again, listing again = listing visits →
        sync tools src again (sync tools src visits store) = sync tools src visits store) ↔
      SyncSettles tools src visits store) ∧
    ((∀ docId, FailedScan tools src visits store docId →
        ScannedLater tools src (listing visits) docId (sync tools src visits store)) ↔
      FailuresDiffer tools src visits store) ∧
    ∀ s, DeletedUncounted tools src s ↔ MarksUncounted src s :=
  ⟨exactlyListed_iff visits store, sync_again_iff visits store, scannedLater_iff visits store,
    deletedUncounted_iff⟩

end

/-! ## A sync that does not converge -/

/-- Tables with one document at most, and the findings. -/
def tablesOf (document : Option Document) (findings : List DocumentFinding) : DocumentStore where
  documents := ⟨document.toList, by cases document <;> simp⟩
  findings := findings
  scans := []
  audits := []
  knowledge := .empty
  chunks := []
  approvals := []

/-- A document of Google Drive with the status, of two bytes. -/
def driveDocument (status : DocumentStatus) : Document where
  id := 1
  tenantId := none
  filename := "report.txt"
  source := .cloud .gdrive
  status := status
  sizeBytes := 2
  riskScore := 0
  severity := .low

/-- The file is listed, and its scan goes as the calls say. -/
def driveVisit (calls : ScanCalls) : Visit where
  file := ⟨"g1", "report.txt", 2⟩
  pick := .first
  fetched := .ok okBytes
  calls := calls

/-- The file is listed, and the results of its scan cannot be stored. -/
def failingVisit : Visit :=
  driveVisit { quietCalls with results := some .database }

/-- The scan of the file fails when it is new. -/
theorem failedScan_failingVisit :
    FailedScan plainTools .gdrive [failingVisit]
      (tablesOf none []) 1 :=
  ⟨_, _, ⟨[], [], rfl, rfl⟩, rfl, Or.inr ⟨.database, _, rfl⟩⟩

/-- A finding of the document. -/
def driveFinding : DocumentFinding where
  id := 1
  tenantId := none
  documentId := 1
  findingType := "Secret"
  matchedPattern := "AWS_ACCESS_KEY"
  matchedText := "AKIA"
  riskLevel := "CRITICAL"
  recommendation := "Rotate the key."
  impact := none
  priority := none
  locationEvidence := none

/-- A document of Google Drive that is listed again stays deleted; one that is not listed is
marked by every sync; a scan that cannot store its results is not repeated; and the finding of a
deleted document is counted. -/
theorem cloud_sync_diverges :
    ¬ ExactlyListed .gdrive (listing [driveVisit quietCalls])
        (sync plainTools .gdrive [driveVisit quietCalls]
          (tablesOf (driveDocument (.sourceDeleted .gdrive)) [])) ∧
    sync plainTools .gdrive []
        (sync plainTools .gdrive [] (tablesOf (driveDocument .completed) [])) ≠
      sync plainTools .gdrive [] (tablesOf (driveDocument .completed) []) ∧
    (∃ docId, FailedScan plainTools .gdrive
        [failingVisit] (tablesOf none []) docId ∧
      ¬ ScannedLater plainTools .gdrive
        (listing [failingVisit]) docId
        (sync plainTools .gdrive [failingVisit]
          (tablesOf none []))) ∧
    ¬ DeletedUncounted plainTools .gdrive
      (tablesOf (driveDocument (.sourceDeleted .gdrive)) [driveFinding]) := by
  refine ⟨?_, ?_, ?_, ?_⟩
  · intro hexact
    have hrows : (sync plainTools .gdrive [driveVisit quietCalls]
        (tablesOf (driveDocument (.sourceDeleted .gdrive)) [])).documents.rows =
          [driveDocument (.sourceDeleted .gdrive)] := by
      decide +kernel
    rcases (hexact "report.txt").mpr ⟨_, List.mem_cons_self, rfl⟩ with ⟨d, hd, -, hstatus⟩
    rw [hrows, List.mem_singleton] at hd
    rw [hd] at hstatus
    exact hstatus (Or.inr rfl)
  · intro hsame
    have haudits : (sync plainTools .gdrive [] (sync plainTools .gdrive []
        (tablesOf (driveDocument .completed) []))).audits.length = 2 := by
      decide +kernel
    rw [hsame] at haudits
    have honce : (sync plainTools .gdrive []
        (tablesOf (driveDocument .completed) [])).audits.length = 1 := by
      decide +kernel
    rw [honce] at haudits
    cases haudits
  · refine ⟨1, ?_, ?_⟩
    · exact failedScan_failingVisit
    · rw [scannedLater_of_failed failedScan_failingVisit]
      rintro ⟨d, f, hd, hf, -, hsize⟩
      have hfind : (sync plainTools .gdrive [failingVisit]
          (tablesOf none [])).documents.find 1 = some (driveDocument .scanning) := by
        decide +kernel
      rw [hfind] at hd
      cases hd
      cases List.mem_singleton.mp hf
      exact hsize rfl
  · rw [deletedUncounted_iff]
    rintro (hs3 | hnone)
    · cases hs3
    · have hcounted := hnone driveFinding List.mem_cons_self _ rfl rfl rfl 1
      revert hcounted
      decide

end AuthClaw.Documents
