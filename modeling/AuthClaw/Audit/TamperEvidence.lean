import AuthClaw.Audit.Verifier

/-!
# Tamper evidence of the audit chain

Edits of a list of rows on which the verifier reports a valid chain.  Each edit
of the rows is an edit of the chain their hash columns form, so the chain library
decides what the verifier says about the edited list.

Main results:

- Theorem {lit}`tampered_invalid`: a changed, deleted, inserted or moved row is
  reported.
- Theorem {lit}`hashedColumns_eq_of_last_hash`: the last hash commits to the
  hashed columns of every row.
- Theorem {lit}`tamper_evident`: both together, for every mode of the verifier.
-/

namespace AuthClaw.Audit

open HashChain

/-- The columns that enter the hash of a row, in their canonical encoding. -/
def AuditRow.hashedColumns (r : AuditRow) : HashedFields × Option String :=
  (r.record.normalise, r.previousHash)

/-- Every row of the list carries an integrity hash. -/
def AllHashed (rows : List AuditRow) : Prop :=
  ∀ r ∈ rows, r.integrityHash ≠ none

/-- One edit of a list of rows.  The integrity hash of a changed row is kept; an
inserted row carries an integrity hash, since rows without one before the chain
are legacy rows. -/
inductive Tampered : List AuditRow → List AuditRow → Prop
  | change (before after : List AuditRow) (r r' : AuditRow)
      (hkept : r'.integrityHash = r.integrityHash)
      (hchanged : r'.hashedColumns ≠ r.hashedColumns) :
      Tampered (before ++ r :: after) (before ++ r' :: after)
  | delete (before after : List AuditRow) (deleted kept : AuditRow) :
      Tampered (before ++ deleted :: kept :: after) (before ++ kept :: after)
  | insert (before after : List AuditRow) (inserted kept : AuditRow)
      (hhash : inserted.integrityHash ≠ none) :
      Tampered (before ++ kept :: after) (before ++ inserted :: kept :: after)
  | reorder (rows rows' : List AuditRow) (hperm : rows.Perm rows') (hmoved : rows ≠ rows') :
      Tampered rows rows'

/-! ## Rows as links -/

/-- The links of a list of rows. -/
def linksOf (rows : List AuditRow) : List (Link HashedFields String) :=
  rows.filterMap AuditRow.link?

private theorem map_link_eq_iff {rows : List AuditRow}
    {links : List (Link HashedFields String)} :
    rows.map AuditRow.link? = links.map some ↔
      (∀ r ∈ rows, ∃ l, r.link? = some l) ∧ linksOf rows = links := by
  induction rows generalizing links with
  | nil => cases links <;> simp [linksOf]
  | cons r rows ih =>
      cases hr : r.link? with
      | none => cases links <;> simp [hr]
      | some l =>
          cases links with
          | nil => simp [linksOf, hr]
          | cons m ms =>
              have hrest := @ih ms
              unfold linksOf at hrest ⊢
              simp [hr, hrest]
              tauto

/-- A list of rows is chained when every row is a link and the links are a
chain. -/
theorem rowsChained_iff {sha256 : String → String} {start : String} {rows : List AuditRow} :
    RowsChained sha256 start rows ↔
      (∀ r ∈ rows, ∃ l, r.link? = some l) ∧ Chained (digest sha256) start (linksOf rows) := by
  unfold RowsChained
  constructor
  · rintro ⟨links, hlinks, hchain⟩
    rcases map_link_eq_iff.mp hlinks with ⟨hall, rfl⟩
    exact ⟨hall, hchain⟩
  · rintro ⟨hall, hchain⟩
    exact ⟨linksOf rows, map_link_eq_iff.mpr ⟨hall, rfl⟩, hchain⟩

/-- Chained rows are hashed. -/
theorem RowsChained.allHashed {sha256 : String → String} {start : String} {rows : List AuditRow}
    (h : RowsChained sha256 start rows) : AllHashed rows := by
  intro r hr
  rcases (rowsChained_iff.mp h).1 r hr with ⟨l, hl⟩
  rw [(AuditRow.link?_eq_some_iff.mp hl).1]
  simp

/-- When every row is hashed there is no legacy prefix. -/
theorem activeRows_of_allHashed {rows : List AuditRow} (h : AllHashed rows) :
    activeRows rows = rows := by
  cases rows with
  | nil => rfl
  | cons r rows =>
      have hr : r.integrityHash ≠ none := h r (by simp)
      unfold activeRows
      rw [List.dropWhile_cons_of_neg]
      simpa using hr

/-- A valid report on a fully hashed list means the whole list is chained. -/
theorem rowsChained_of_valid {sha256 : String → String} {tenantId : Option Int}
    {rows : List AuditRow} (hall : AllHashed rows)
    (hvalid : (verifyRows sha256 tenantId rows).isValid = true) :
    RowsChained sha256 genesisHash rows := by
  have hchain := (verifyRows_valid_iff.mp hvalid).1
  rwa [activeRows_of_allHashed hall] at hchain

/-- An edit keeps every row hashed. -/
theorem Tampered.allHashed {rows edited : List AuditRow} (h : Tampered rows edited)
    (hall : AllHashed rows) : AllHashed edited := by
  intro r hr
  cases h with
  | change before after r₀ r' hkept hchanged =>
      rcases List.mem_append.mp hr with hb | hb
      · exact hall r (by simp [hb])
      · rcases List.mem_cons.mp hb with rfl | ha
        · rw [hkept]
          exact hall r₀ (by simp)
        · exact hall r (by simp [ha])
  | delete before after deleted kept =>
      apply hall
      simp only [List.mem_append, List.mem_cons] at hr ⊢
      tauto
  | insert before after inserted kept hhash =>
      by_cases hins : r = inserted
      · rw [hins]
        exact hhash
      · apply hall
        simp only [List.mem_append, List.mem_cons] at hr ⊢
        tauto
  | reorder _ _ hperm hmoved => exact hall r (hperm.mem_iff.mpr hr)

/-- A reordering of rows whose distinct links stand in the same order is no
reordering. -/
theorem eq_of_perm_of_linksOf_eq {rows edited : List AuditRow} (hperm : rows.Perm edited)
    (hlink : ∀ r ∈ rows, ∃ l, r.link? = some l) (hnodup : (linksOf rows).Nodup)
    (hsame : linksOf rows = linksOf edited) : rows = edited := by
  have hlink' : ∀ r ∈ edited, ∃ l, r.link? = some l := fun r hr =>
    hlink r (hperm.mem_iff.mpr hr)
  have hmap : rows.map AuditRow.link? = (linksOf rows).map some :=
    map_link_eq_iff.mpr ⟨hlink, rfl⟩
  have hmap' : edited.map AuditRow.link? = (linksOf edited).map some :=
    map_link_eq_iff.mpr ⟨hlink', rfl⟩
  have hnodup' : (rows.map AuditRow.link?).Nodup := by
    rw [hmap]
    exact hnodup.map (Option.some_injective _)
  have hget : rows.map AuditRow.link? = edited.map AuditRow.link? := by
    rw [hmap, hmap', hsame]
  apply List.ext_getElem hperm.length_eq
  intro i hi hi'
  apply List.inj_on_of_nodup_map hnodup' (List.getElem_mem hi)
    (hperm.mem_iff.mpr (List.getElem_mem hi'))
  have hi'' := congrArg (fun xs => xs[i]?) hget
  simpa [List.getElem?_eq_getElem hi, List.getElem?_eq_getElem hi'] using hi''

private theorem tip_eq_last_hash {rows : List AuditRow} {links : List (Link HashedFields String)}
    (h : rows.map AuditRow.link? = links.map some) :
    tip genesisHash links = (rows.getLast?.bind AuditRow.integrityHash).getD genesisHash := by
  induction links using List.reverseRecOn generalizing rows with
  | nil =>
      rw [List.map_nil, List.map_eq_nil_iff] at h
      simp [h]
  | append_singleton ls l _ =>
      rw [List.map_append, List.map_singleton] at h
      rcases List.map_eq_append_iff.mp h with ⟨before, last, rfl, -, hlast⟩
      rcases List.map_eq_singleton_iff.mp hlast with ⟨r, rfl, hr⟩
      rcases AuditRow.link?_eq_some_iff.mp hr with ⟨hhash, -, -⟩
      simp [hhash]

private theorem hashedColumns_of_links {rows : List AuditRow}
    {links : List (Link HashedFields String)} (h : rows.map AuditRow.link? = links.map some) :
    rows.map AuditRow.hashedColumns = links.map (fun l => (l.payload, some l.prev)) := by
  induction rows generalizing links with
  | nil =>
      cases links with
      | nil => rfl
      | cons l ls => simp at h
  | cons r rows ih =>
      cases links with
      | nil => simp at h
      | cons l ls =>
          simp only [List.map_cons, List.cons.injEq] at h
          rcases AuditRow.link?_eq_some_iff.mp h.1 with ⟨-, hprev, hpayload⟩
          simp only [List.map_cons, AuditRow.hashedColumns, hprev, hpayload, ih h.2]

/-- Chained rows have pairwise distinct previous hashes. -/
theorem RowsChained.previousHashes_nodup {sha256 : String → String}
    (hinj : Function.Injective sha256) (hgenesis : ∀ text, sha256 text ≠ genesisHash)
    {rows : List AuditRow} (h : RowsChained sha256 genesisHash rows) :
    (rows.map AuditRow.previousHash).Nodup := by
  rcases h with ⟨links, hlinks, hchain⟩
  have hcolumns := congrArg (List.map Prod.snd) (hashedColumns_of_links hlinks)
  rw [List.map_map, List.map_map] at hcolumns
  have hprevs : rows.map AuditRow.previousHash = (links.map Link.prev).map some := by
    rw [List.map_map]
    exact hcolumns
  rw [hprevs]
  exact (prevs_nodup (digest_inj hinj) (fun _ _ => hgenesis _) hchain).map
    (Option.some_injective _)

/-! ## Edits are reported -/

section

variable {sha256 : String → String} (hinj : Function.Injective sha256)
  (hgenesis : ∀ text, sha256 text ≠ genesisHash)

include hinj hgenesis in
/-- No edit of a chained list is chained.  Each edit of the rows is the edit of
the same kind of their links. -/
theorem not_rowsChained_of_tampered {rows edited : List AuditRow}
    (hchain : RowsChained sha256 genesisHash rows) (hedit : Tampered rows edited) :
    ¬ RowsChained sha256 genesisHash edited := by
  intro hchain'
  have hdigest := digest_inj hinj
  have hfresh : ∀ f p, digest sha256 f p ≠ genesisHash := fun f p => hgenesis _
  rcases rowsChained_iff.mp hchain with ⟨hlink, hlinks⟩
  rcases rowsChained_iff.mp hchain' with ⟨hlink', hlinks'⟩
  cases hedit with
  | change before after r r' hkept hchanged =>
      rcases hlink r (by simp) with ⟨l, hl⟩
      rcases hlink' r' (by simp) with ⟨l', hl'⟩
      simp only [linksOf, List.filterMap_append, List.filterMap_cons, hl, hl'] at hlinks hlinks'
      rcases AuditRow.link?_eq_some_iff.mp hl with ⟨hhash, hprev, hpayload⟩
      rcases AuditRow.link?_eq_some_iff.mp hl' with ⟨hhash', hprev', hpayload'⟩
      have hsame : l'.hash = l.hash := by
        rw [hhash, hhash'] at hkept
        exact Option.some.inj hkept
      have hne : l' ≠ l := by
        rintro rfl
        apply hchanged
        unfold AuditRow.hashedColumns
        rw [hprev, hprev', hpayload, hpayload']
      exact not_chained_of_reseal hdigest hlinks hsame hne hlinks'
  | delete before after deleted kept =>
      rcases hlink deleted (by simp) with ⟨d, hd⟩
      rcases hlink kept (by simp) with ⟨k, hk⟩
      simp only [linksOf, List.filterMap_append, List.filterMap_cons, hd, hk] at hlinks hlinks'
      exact not_chained_of_delete hdigest hfresh hlinks hlinks'
  | insert before after inserted kept hhash =>
      rcases hlink' inserted (by simp) with ⟨i, hi⟩
      rcases hlink kept (by simp) with ⟨k, hk⟩
      simp only [linksOf, List.filterMap_append, List.filterMap_cons, hi, hk] at hlinks hlinks'
      exact not_chained_of_insert hdigest hfresh hlinks hlinks'
  | reorder _ _ hperm hmoved =>
      have hsame : linksOf rows = linksOf edited :=
        eq_of_perm hdigest hfresh hlinks hlinks' (hperm.filterMap _)
      exact hmoved (eq_of_perm_of_linksOf_eq hperm hlink
        (List.Nodup.of_map _ (prevs_nodup hdigest hfresh hlinks)) hsame)

include hinj hgenesis in
/-- An edited list is reported invalid. -/
theorem tampered_invalid {tenantId : Option Int} {rows edited : List AuditRow}
    (hall : AllHashed rows) (hvalid : (verifyRows sha256 tenantId rows).isValid = true)
    (hedit : Tampered rows edited) : (verifyRows sha256 tenantId edited).isValid = false := by
  rw [Bool.eq_false_iff]
  intro hvalid'
  exact not_rowsChained_of_tampered hinj hgenesis (rowsChained_of_valid hall hvalid) hedit
    (rowsChained_of_valid (hedit.allHashed hall) hvalid')

include hinj hgenesis in
/-- Two valid lists with the same last integrity hash agree on every hashed
column of every row. -/
theorem hashedColumns_eq_of_last_hash {tenantId : Option Int} {rows rows' : List AuditRow}
    (hall : AllHashed rows) (hall' : AllHashed rows')
    (hvalid : (verifyRows sha256 tenantId rows).isValid = true)
    (hvalid' : (verifyRows sha256 tenantId rows').isValid = true)
    (hlast : rows.getLast?.bind AuditRow.integrityHash =
      rows'.getLast?.bind AuditRow.integrityHash) :
    rows.map AuditRow.hashedColumns = rows'.map AuditRow.hashedColumns := by
  rcases rowsChained_of_valid hall hvalid with ⟨links, hlinks, hchain⟩
  rcases rowsChained_of_valid hall' hvalid' with ⟨links', hlinks', hchain'⟩
  have hsame : links = links' := by
    apply eq_of_tip_eq (digest_inj hinj) (fun f p => hgenesis _) hchain hchain'
    rw [tip_eq_last_hash hlinks, tip_eq_last_hash hlinks', hlast]
  rw [hashedColumns_of_links hlinks, hashedColumns_of_links hlinks', hsame]

end

/-- Tamper evidence: with an injective hash that never yields the genesis value,
every edit of a fully hashed list the verifier accepts is reported, and two such
lists with the same last hash agree on the hashed columns. -/
theorem tamper_evident (sha256 : String → String) (hinj : Function.Injective sha256)
    (hgenesis : ∀ text, sha256 text ≠ genesisHash) (tenantId : Option Int) :
    (∀ rows edited : List AuditRow, AllHashed rows →
      (verifyRows sha256 tenantId rows).isValid = true → Tampered rows edited →
      (verifyRows sha256 tenantId edited).isValid = false) ∧
    (∀ rows rows' : List AuditRow, AllHashed rows → AllHashed rows' →
      (verifyRows sha256 tenantId rows).isValid = true →
      (verifyRows sha256 tenantId rows').isValid = true →
      rows.getLast?.bind AuditRow.integrityHash = rows'.getLast?.bind AuditRow.integrityHash →
      rows.map AuditRow.hashedColumns = rows'.map AuditRow.hashedColumns) := by
  constructor
  · intro rows edited hall hvalid hedit
    exact tampered_invalid hinj hgenesis hall hvalid hedit
  · intro rows rows' hall hall' hvalid hvalid' hlast
    exact hashedColumns_eq_of_last_hash hinj hgenesis hall hall' hvalid hvalid' hlast

/-- A hashed row of tenant 1 over the concrete hash. -/
def sampleRow (id : Int) (query : Option String) (previousHash : String) : AuditRow :=
  let unhashed : AuditRow :=
    { id := id, userQuery := query, response := some "ok", allowed := some true,
      createdAt := some ⟨2025, 1, 2, 3, 4, 5, 0⟩, riskLevel := some "LOW",
      approvalStatus := some "completed", integrityHash := none,
      previousHash := some previousHash, approvalId := none, approver := some "System",
      originalRequest := query, approvalTimestamp := none, executionTimestamp := none,
      executionStatus := some "completed", policyName := none, policyType := none,
      matchedPattern := none, redactedValue := none, username := some "admin_user",
      tenantId := some 1 }
  { unhashed with
    integrityHash := some (calculateRecordHash prefixHash unhashed.record previousHash) }

/-- The hash the row after a sample row continues. -/
def sampleHash (id : Int) (query : Option String) (previousHash : String) : String :=
  calculateRecordHash prefixHash (sampleRow id query previousHash).record previousHash

/-- Two sample rows in a chain. -/
def sampleLog (firstQuery : Option String) : List AuditRow :=
  [sampleRow 1 firstQuery genesisHash,
    sampleRow 2 (some "second") (sampleHash 1 firstQuery genesisHash)]

theorem sampleLog_allHashed (firstQuery : Option String) : AllHashed (sampleLog firstQuery) := by
  intro r hr
  rcases List.mem_pair.mp hr with rfl | rfl <;> simp [sampleRow]

theorem sampleLog_valid (firstQuery : Option String) :
    (verifyRows prefixHash (some 1) (sampleLog firstQuery)).isValid = true := by
  rw [verifyRows_valid_iff, activeRows_of_allHashed (sampleLog_allHashed firstQuery)]
  refine ⟨rowsChained_cons.mpr ⟨_, rfl, rfl, rfl, rowsChained_cons.mpr ⟨_, rfl, rfl, rfl, ?_⟩⟩, ?_⟩
  · exact rowsChained_nil _ _
  · simp

/-- Deleting the first of two rows is reported, and the last hash does not tell a
missing query from an empty one. -/
theorem tamper_evident_sampleLog :
    (verifyRows prefixHash (some 1)
      [sampleRow 2 (some "second") (sampleHash 1 none genesisHash)]).isValid = false ∧
    (sampleLog none).map AuditRow.hashedColumns =
      (sampleLog (some "")).map AuditRow.hashedColumns := by
  have h := tamper_evident prefixHash prefixHash_injective prefixHash_ne_genesis (some 1)
  constructor
  · exact h.1 (sampleLog none) _ (sampleLog_allHashed none) (sampleLog_valid none)
      (Tampered.delete [] [] _ _)
  · exact h.2 _ _ (sampleLog_allHashed none) (sampleLog_allHashed (some ""))
      (sampleLog_valid none) (sampleLog_valid (some "")) rfl

end AuthClaw.Audit
