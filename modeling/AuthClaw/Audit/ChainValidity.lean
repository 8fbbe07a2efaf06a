import AuthClaw.Audit.TamperEvidence
import AuthClaw.Audit.Writer

/-!
# Chain validity after sequential runs

What {lit}`verify_audit_chain` reports after any sequence of calls of
{lit}`create_audit_block`.  The writer continues the last hash of the caller's
tenant, so a tenant's rows always continue each other; the whole log does only
while one tenant writes.

Main results:

- Theorem {lit}`tenantRows_chained_iff`: after a run a tenant's rows are chained
  exactly when its calls were stored as they were hashed.
- Theorem {lit}`rows_chained_iff`: for the whole log one tenant key is needed
  too.
- Theorem {lit}`sequential_chain_valid_iff`: when every report is valid.
-/

namespace AuthClaw.Audit

open HashChain

/-! ## Runs -/

/-- A sequence of calls, each finished before the next. -/
def runCalls (sha256 : String → String) (log : AuditLog) (calls : List Call) : AuditLog :=
  calls.foldl (createAuditBlock sha256) log

theorem runCalls_concat (sha256 : String → String) (log : AuditLog) (calls : List Call)
    (c : Call) :
    runCalls sha256 log (calls ++ [c]) =
      createAuditBlock sha256 (runCalls sha256 log calls) c := by
  unfold runCalls
  rw [List.foldl_append]
  rfl

/-- The insert of the call is not aborted. -/
def Call.accepted (c : Call) : Bool :=
  (c.storedRow 0).isSome

theorem Call.storedRow_isSome (c : Call) (id : Int) : (c.storedRow id).isSome = c.accepted := by
  unfold Call.accepted
  rw [← c.storedRow_map_id 0 id, Option.isSome_map]

/-- The ids the accepted calls take from the identity sequence. -/
def acceptedIds : Int → List Call → List Int
  | _, [] => []
  | nextId, c :: calls =>
      if c.accepted then
        (nextId + c.skipped) :: acceptedIds (nextId + c.skipped + 1) calls
      else acceptedIds (nextId + c.skipped) calls

/-- A text no longer than its `VARCHAR(n)` column. -/
def FitsVarchar (n : Nat) : Option String → Prop
  | none => True
  | some s => s.toList.length ≤ n

/-- The two bounded columns that are hashed are stored as given. -/
def Call.Fits (c : Call) : Prop :=
  FitsVarchar 20 c.args.riskLevel ∧ FitsVarchar 50 c.args.approvalStatus

/-- Each id is the successor of the one before. -/
def ConsecutiveIds (ids : List Int) : Prop :=
  ids.IsChain (fun p q => q = p + 1)

/-- The accepted calls name one tenant key. -/
def SingleTenant (calls : List Call) : Prop :=
  ∀ c ∈ calls, ∀ d ∈ calls, c.accepted = true → d.accepted = true →
    c.args.tenantId = d.args.tenantId

/-! ## Stored and hashed records -/

/-- A bounded column keeps its value exactly when the value fits. -/
theorem storeVarchar_getD_iff {n : Nat} {v v' : Option String}
    (h : storeVarchar n v = some v') : v'.getD "" = v.getD "" ↔ FitsVarchar n v := by
  cases v with
  | none =>
      cases h
      simp [FitsVarchar]
  | some s =>
      simp only [storeVarchar] at h
      simp only [FitsVarchar]
      split_ifs at h with hnull hfits hspaces
      · cases h
        simp [hfits]
      · cases h
        simp only [Option.getD_some]
        constructor
        · intro htext
          have hchars := congrArg (fun t : String => t.toList.length) htext
          simp only [String.toList_ofList, List.length_take] at hchars
          omega
        · intro hfits'
          exact absurd hfits' hfits

/-- A `TEXT` column keeps its value. -/
theorem storeText_eq {v v' : Option String} (h : storeText v = some v') : v' = v := by
  cases v with
  | none =>
      cases h
      rfl
  | some s =>
      simp only [storeText] at h
      split_ifs at h
      cases h
      rfl

/-- The stored record normalises to the hashed one exactly when the call fits. -/
theorem Call.normalise_eq_iff {c : Call} {id : Int} {r : AuditRow}
    (h : c.storedRow id = some r) :
    r.record.normalise = (c.record r.id).normalise ↔ c.Fits := by
  rcases Call.storedRow_spec h with
    ⟨-, -, -, -, hquery, hresponse, hrisk, happroval, hallowed, hcreated⟩
  have hrisk' := storeVarchar_getD_iff hrisk
  have happroval' := storeVarchar_getD_iff happroval
  have hquery' := storeText_eq hquery
  have hresponse' := storeText_eq hresponse
  simp only [AuditRecord.normalise, AuditRow.record, Call.record, HashedFields.mk.injEq,
    hquery', hresponse', hallowed, hcreated, true_and]
  exact and_congr hrisk' happroval'

section

variable {sha256 : String → String}

/-- One hashed row continues a chain exactly when it was hashed over its last
hash and stored as it was hashed. -/
theorem rowsChained_hashedRow_iff (hinj : Function.Injective sha256) {c : Call} {id : Int}
    {r : AuditRow} (h : c.storedRow id = some r) (rows : List AuditRow) (previousHash : String) :
    RowsChained sha256 genesisHash (rows ++ [c.hashedRow sha256 r previousHash]) ↔
      RowsChained sha256 genesisHash rows ∧ previousHash = lastHash genesisHash rows ∧
        c.Fits := by
  have hrecord : (c.hashedRow sha256 r previousHash).record = r.record := rfl
  rw [rowsChained_append, rowsChained_cons, hrecord, ← Call.normalise_eq_iff h]
  unfold Call.hashedRow AuditRow.withHashes calculateRecordHash
  constructor
  · rintro ⟨hrows, hash, hhash, hprev, hdigest, -⟩
    rw [Option.some.injEq] at hhash hprev
    refine ⟨hrows, hprev, ?_⟩
    rw [← hhash, ← hprev] at hdigest
    exact (digest_inj hinj _ _ _ _ hdigest).1.symm
  · rintro ⟨hrows, hprev, hsame⟩
    refine ⟨hrows, _, rfl, congrArg some hprev, ?_, rowsChained_nil _ _⟩
    rw [hsame, hprev]

/-- The last hash of a chain with a row in it is not the genesis value. -/
theorem lastHash_ne_genesis (hgenesis : ∀ text, sha256 text ≠ genesisHash)
    {rows : List AuditRow} (hchain : RowsChained sha256 genesisHash rows) (hne : rows ≠ []) :
    lastHash genesisHash rows ≠ genesisHash := by
  induction rows using List.reverseRecOn with
  | nil => exact absurd rfl hne
  | append_singleton rows r _ =>
      rcases rowsChained_cons.mp (rowsChained_append.mp hchain).2 with ⟨hash, hhash, -, hdigest, -⟩
      rw [lastHash_append]
      simp only [lastHash, hhash, Option.getD_some, hdigest]
      exact hgenesis _

end

/-! ## Induction over a run -/

section

variable {sha256 : String → String}

/-- A property of calls and rows holds after every run when a refused call keeps
it and an accepted call keeps it with its hashed row appended. -/
theorem runCalls_induction {motive : List Call → List AuditRow → Prop} (empty : motive [] [])
    (refused : ∀ calls (c : Call), c.accepted = false →
      motive calls (runCalls sha256 AuditLog.empty calls).rows →
      motive (calls ++ [c]) (runCalls sha256 AuditLog.empty calls).rows)
    (accepted : ∀ calls (c : Call) id r, c.accepted = true → c.storedRow id = some r →
      motive calls (runCalls sha256 AuditLog.empty calls).rows →
      motive (calls ++ [c]) ((runCalls sha256 AuditLog.empty calls).rows ++
        [c.hashedRow sha256 r (lastHash genesisHash
          (tenantRows (runCalls sha256 AuditLog.empty calls).rows c.args.tenantId))]))
    (calls : List Call) : motive calls (runCalls sha256 AuditLog.empty calls).rows := by
  induction calls using List.reverseRecOn with
  | nil => exact empty
  | append_singleton calls c ih =>
      rw [runCalls_concat]
      have hsome := c.storedRow_isSome
        ((runCalls sha256 AuditLog.empty calls).nextId + c.skipped)
      cases hrow : c.storedRow ((runCalls sha256 AuditLog.empty calls).nextId + c.skipped) with
      | none =>
          rw [hrow] at hsome
          rw [createAuditBlock_refused hrow]
          exact refused calls c hsome.symm ih
      | some r =>
          rw [hrow] at hsome
          rw [(createAuditBlock_rows hrow).1]
          exact accepted calls c _ r hsome.symm hrow ih

theorem Call.hashedRow_tenantId {c : Call} {id : Int} {r : AuditRow}
    (h : c.storedRow id = some r) (previousHash : String) :
    (c.hashedRow sha256 r previousHash).tenantId = c.args.tenantId :=
  (Call.storedRow_spec h).2.1

/-- A run leaves no row unhashed. -/
theorem runCalls_allHashed (calls : List Call) :
    AllHashed (runCalls sha256 AuditLog.empty calls).rows := by
  apply runCalls_induction (motive := fun _ rows => AllHashed rows)
  · intro r hr
    cases hr
  · intro _ _ _ ih
    exact ih
  · intro calls c id r _ _ ih s hs
    rcases List.mem_append.mp hs with hs | hs
    · exact ih s hs
    · rw [List.mem_singleton.mp hs]
      simp [Call.hashedRow, AuditRow.withHashes]

/-- A run takes the ids of its accepted calls. -/
theorem runCalls_ids (log : AuditLog) (calls : List Call) :
    (runCalls sha256 log calls).rows.map AuditRow.id =
      log.rows.map AuditRow.id ++ acceptedIds log.nextId calls := by
  induction calls generalizing log with
  | nil => simp [runCalls, acceptedIds]
  | cons c calls ih =>
      have hstep : runCalls sha256 log (c :: calls) =
          runCalls sha256 (createAuditBlock sha256 log c) calls := rfl
      have hsome := c.storedRow_isSome (log.nextId + c.skipped)
      rw [hstep, ih]
      cases hrow : c.storedRow (log.nextId + c.skipped) with
      | none =>
          rw [hrow, Option.isSome_none] at hsome
          rw [createAuditBlock_refused hrow]
          simp [acceptedIds, ← hsome, AuditLog.skip]
      | some r =>
          rw [hrow, Option.isSome_some] at hsome
          rcases @createAuditBlock_rows sha256 log c r hrow with ⟨hrows, hnext⟩
          have hid := (Call.storedRow_spec hrow).1
          rw [hrows, hnext]
          simp [acceptedIds, ← hsome, Call.hashedRow, AuditRow.withHashes, hid]

/-- The rows carry the tenants of the accepted calls. -/
theorem runCalls_tenants (calls : List Call) (k : Option Int) :
    (∃ r ∈ (runCalls sha256 AuditLog.empty calls).rows, r.tenantId = k) ↔
      ∃ c ∈ calls, c.accepted = true ∧ c.args.tenantId = k := by
  apply runCalls_induction
    (motive := fun calls rows => (∃ r ∈ rows, r.tenantId = k) ↔
      ∃ c ∈ calls, c.accepted = true ∧ c.args.tenantId = k)
  · simp
  · intro calls c hc ih
    rw [ih]
    simp [hc]
  · intro calls c id r hc hrow ih
    simp only [List.mem_append, List.mem_singleton, or_and_right, exists_or, exists_eq_left,
      ih, Call.hashedRow_tenantId hrow, hc, true_and]

/-! ## Chained rows after a run -/

/-- After a run a tenant's rows are chained exactly when its accepted calls
fit. -/
theorem tenantRows_chained_iff (hinj : Function.Injective sha256) (calls : List Call)
    (k : Option Int) :
    RowsChained sha256 genesisHash (tenantRows (runCalls sha256 AuditLog.empty calls).rows k) ↔
      ∀ c ∈ calls, c.accepted = true → c.args.tenantId = k → c.Fits := by
  apply runCalls_induction
    (motive := fun calls rows => RowsChained sha256 genesisHash (tenantRows rows k) ↔
      ∀ c ∈ calls, c.accepted = true → c.args.tenantId = k → c.Fits)
  · simp [tenantRows]
  · intro calls c hc ih
    rw [ih]
    simp [or_imp, forall_and, hc]
  · intro calls c id r hc hrow ih
    generalize (runCalls sha256 AuditLog.empty calls).rows = rows at ih ⊢
    rw [tenantRows_append]
    by_cases hk : c.args.tenantId = k
    · have hsingle : ∀ p, tenantRows [c.hashedRow sha256 r p] k = [c.hashedRow sha256 r p] := by
        intro p
        simp [tenantRows, Call.hashedRow_tenantId hrow, hk]
      rw [hsingle, hk, rowsChained_hashedRow_iff hinj hrow, ih]
      simp [or_imp, forall_and, hc, hk]
    · have hnone : ∀ p, tenantRows [c.hashedRow sha256 r p] k = [] := by
        intro p
        simp [tenantRows, Call.hashedRow_tenantId hrow, hk]
      rw [hnone, List.append_nil, ih]
      simp [or_imp, forall_and, hk]

/-- Over a chain of one tenant key, a tenant's last hash is the last hash of all
rows exactly when the tenant is that one. -/
theorem lastHash_tenantRows_eq_iff (hgenesis : ∀ text, sha256 text ≠ genesisHash)
    {rows : List AuditRow} (hchain : RowsChained sha256 genesisHash rows)
    (hsingle : ∀ r ∈ rows, ∀ s ∈ rows, r.tenantId = s.tenantId) (k : Option Int) :
    lastHash genesisHash (tenantRows rows k) = lastHash genesisHash rows ↔
      ∀ r ∈ rows, r.tenantId = k := by
  constructor
  · intro hlast r hr
    by_contra hne
    have hnone : tenantRows rows k = [] := by
      unfold tenantRows
      rw [List.filter_eq_nil_iff]
      intro s hs
      rw [← hsingle r hr s hs]
      simpa using hne
    rw [hnone] at hlast
    exact lastHash_ne_genesis hgenesis hchain (List.ne_nil_of_mem hr) hlast.symm
  · intro hall
    have hsame : tenantRows rows k = rows := by
      unfold tenantRows
      rw [List.filter_eq_self]
      intro r hr
      simpa using hall r hr
    rw [hsame]

/-- One more accepted call keeps a single tenant key exactly when the rows carry
the call's key. -/
theorem singleTenant_concat {calls : List Call} {c : Call} (hc : c.accepted = true) :
    SingleTenant (calls ++ [c]) ↔ SingleTenant calls ∧
      ∀ d ∈ calls, d.accepted = true → d.args.tenantId = c.args.tenantId := by
  unfold SingleTenant
  constructor
  · intro h
    constructor
    · intro d hd e he
      exact h d (by simp [hd]) e (by simp [he])
    · intro d hd hda
      exact h d (by simp [hd]) c (by simp) hda hc
  · rintro ⟨hcalls, hlast⟩ d hd e he hda hea
    rcases List.mem_append.mp hd with hd | hd
    · rcases List.mem_append.mp he with he | he
      · exact hcalls d hd e he hda hea
      · rw [List.mem_singleton.mp he]
        exact hlast d hd hda
    · rw [List.mem_singleton.mp hd]
      rcases List.mem_append.mp he with he | he
      · exact (hlast e he hea).symm
      · rw [List.mem_singleton.mp he]

/-- After a run all rows are chained exactly when the accepted calls fit and name
one tenant key. -/
theorem rows_chained_iff (hinj : Function.Injective sha256)
    (hgenesis : ∀ text, sha256 text ≠ genesisHash) (calls : List Call) :
    RowsChained sha256 genesisHash (runCalls sha256 AuditLog.empty calls).rows ↔
      (∀ c ∈ calls, c.accepted = true → c.Fits) ∧ SingleTenant calls := by
  apply runCalls_induction
    (motive := fun calls rows => RowsChained sha256 genesisHash rows ↔
      (∀ c ∈ calls, c.accepted = true → c.Fits) ∧ SingleTenant calls)
  · simp [SingleTenant]
  · intro calls c hc ih
    rw [ih]
    simp [SingleTenant, or_imp, forall_and, hc]
  · intro calls c id r hc hrow ih
    have htenants := @runCalls_tenants sha256 calls
    generalize (runCalls sha256 AuditLog.empty calls).rows = rows at ih htenants ⊢
    -- the tenants of the rows before, read off the calls before
    have hrowsKey : ∀ k, (∀ r ∈ rows, r.tenantId = k) ↔
        ∀ d ∈ calls, d.accepted = true → d.args.tenantId = k := by
      intro k
      constructor
      · intro hall d hd hda
        rcases (htenants d.args.tenantId).mpr ⟨d, hd, hda, rfl⟩ with ⟨s, hs, hsd⟩
        rw [← hsd]
        exact hall s hs
      · intro hall s hs
        rcases (htenants s.tenantId).mp ⟨s, hs, rfl⟩ with ⟨d, hd, hda, hds⟩
        rw [← hds]
        exact hall d hd hda
    have hsingleRows : SingleTenant calls → ∀ r ∈ rows, ∀ s ∈ rows, r.tenantId = s.tenantId := by
      intro hsingle s hs t ht
      rcases (htenants t.tenantId).mp ⟨t, ht, rfl⟩ with ⟨d, hd, hda, hdt⟩
      rw [← hdt]
      refine (hrowsKey d.args.tenantId).mpr ?_ s hs
      intro e he hea
      exact hsingle e he d hd hea hda
    rw [rowsChained_hashedRow_iff hinj hrow, singleTenant_concat hc]
    constructor
    · rintro ⟨hchain, hprev, hfit⟩
      rcases ih.mp hchain with ⟨hfits, hsingle⟩
      have hkey := (lastHash_tenantRows_eq_iff hgenesis hchain (hsingleRows hsingle) _).mp hprev
      refine ⟨?_, hsingle, (hrowsKey _).mp hkey⟩
      intro d hd hda
      rcases List.mem_append.mp hd with hd | hd
      · exact hfits d hd hda
      · rw [List.mem_singleton.mp hd]
        exact hfit
    · rintro ⟨hfits, hsingle, hkey⟩
      have hchain : RowsChained sha256 genesisHash rows :=
        ih.mpr ⟨fun d hd => hfits d (by simp [hd]), hsingle⟩
      refine ⟨hchain, ?_, hfits c (by simp) hc⟩
      exact (lastHash_tenantRows_eq_iff hgenesis hchain (hsingleRows hsingle) _).mpr
        ((hrowsKey _).mpr hkey)

end

/-! ## Reports -/

/-- Rows in id order are selected as they stand. -/
theorem selectRows_log (log : AuditLog) (tenantId : Option Int) :
    selectRows log.rows tenantId = log.rows.filter (ofTenant tenantId) := by
  unfold selectRows
  apply List.Pairwise.insertionSort_eq
  exact (log.ids_increasing.imp (fun h => le_of_lt h)).filter _

/-- The gap check looks at the ids alone. -/
theorem consecutive_iff_ids (rows : List AuditRow) :
    Consecutive none rows ↔ ConsecutiveIds (rows.map AuditRow.id) := by
  have hfrom : ∀ (rest : List AuditRow) (r : AuditRow),
      Consecutive (some r.id) rest ↔ ConsecutiveIds ((r :: rest).map AuditRow.id) := by
    intro rest
    induction rest with
    | nil => simp [Consecutive, ConsecutiveIds]
    | cons s rest ih =>
        intro r
        have hs := ih s
        unfold ConsecutiveIds at hs ⊢
        rw [List.map_cons, List.map_cons, List.isChain_cons_cons, ← List.map_cons, ← hs]
        simp [Consecutive]
  cases rows with
  | nil => simp [Consecutive, ConsecutiveIds]
  | cons r rest =>
      rw [← hfrom rest r]
      simp [Consecutive]

section

variable {sha256 : String → String} (hinj : Function.Injective sha256)

include hinj in
/-- The report of one tenant after a run. -/
theorem verify_tenant_iff (calls : List Call) (t : Int) :
    (verifyAuditChain sha256 (runCalls sha256 AuditLog.empty calls).rows (some t)).isValid = true ↔
      ∀ c ∈ calls, c.accepted = true → c.args.tenantId = some t → c.Fits := by
  have hall : AllHashed (tenantRows (runCalls sha256 AuditLog.empty calls).rows (some t)) :=
    fun r hr => runCalls_allHashed calls r (List.mem_of_mem_filter hr)
  unfold verifyAuditChain
  rw [selectRows_log]
  change (verifyRows sha256 (some t) (tenantRows _ (some t))).isValid = true ↔ _
  rw [verifyRows_valid_iff, activeRows_of_allHashed hall, tenantRows_chained_iff hinj]
  simp

include hinj in
/-- The report of the whole log after a run. -/
theorem verify_whole_log_iff (hgenesis : ∀ text, sha256 text ≠ genesisHash)
    (calls : List Call) :
    (verifyAuditChain sha256 (runCalls sha256 AuditLog.empty calls).rows none).isValid = true ↔
      (∀ c ∈ calls, c.accepted = true → c.Fits) ∧ SingleTenant calls ∧
        ConsecutiveIds (acceptedIds 1 calls) := by
  unfold verifyAuditChain
  rw [selectRows_log]
  have hselect : ∀ rows : List AuditRow, rows.filter (ofTenant none) = rows := by
    intro rows
    simp [ofTenant]
  have hids := @runCalls_ids sha256 AuditLog.empty calls
  simp only [AuditLog.empty, List.map_nil, List.nil_append] at hids
  rw [hselect, verifyRows_valid_iff, activeRows_of_allHashed (runCalls_allHashed calls),
    rows_chained_iff hinj hgenesis, consecutive_iff_ids]
  unfold AuditLog.empty
  rw [hids]
  tauto

end

/-- After a sequence of calls every report is valid exactly when the accepted
calls fit their columns and name one tenant key, and no identity value was lost
between them. -/
theorem sequential_chain_valid_iff (sha256 : String → String) (hinj : Function.Injective sha256)
    (hgenesis : ∀ text, sha256 text ≠ genesisHash) (calls : List Call) :
    ((∀ t : Int, (verifyAuditChain sha256 (runCalls sha256 AuditLog.empty calls).rows
        (some t)).isValid = true) ∧
      (verifyAuditChain sha256 (runCalls sha256 AuditLog.empty calls).rows none).isValid = true) ↔
    (∀ c ∈ calls, c.accepted = true → c.Fits) ∧ SingleTenant calls ∧
      ConsecutiveIds (acceptedIds 1 calls) := by
  rw [verify_whole_log_iff hinj hgenesis]
  constructor
  · rintro ⟨-, h⟩
    exact h
  · rintro ⟨hfits, h⟩
    refine ⟨?_, hfits, h⟩
    intro t
    rw [verify_tenant_iff hinj]
    intro c hc hca _
    exact hfits c hc hca

/-- A chat interaction of a tenant, with nothing lost or refused. -/
def sampleCall (tenantId : Option Int) : Call where
  args :=
    { query := some "hello", response := some "ok", allowed := some true,
      riskLevel := some "LOW", approvalStatus := some "completed", approvalId := none,
      approver := some "System", originalRequest := none, approvalTimestamp := none,
      executionTimestamp := none, executionStatus := some "completed", policyName := none,
      policyType := none, matchedPattern := none, redactedValue := none,
      username := some "admin_user", tenantId := tenantId }
  now := ⟨2025, 1, 2, 3, 4, 5, 0⟩
  skipped := 0
  refused := false

theorem sampleCall_accepted (tenantId : Option Int) : (sampleCall tenantId).accepted = true := by
  rfl

theorem sampleCall_fits (tenantId : Option Int) : (sampleCall tenantId).Fits := by
  simp [Call.Fits, sampleCall, FitsVarchar]

/-- Two calls of one tenant leave every report valid. -/
theorem sequential_chain_valid_sampleCalls :
    (∀ t : Int, (verifyAuditChain prefixHash (runCalls prefixHash AuditLog.empty
        [sampleCall (some 1), sampleCall (some 1)]).rows (some t)).isValid = true) ∧
      (verifyAuditChain prefixHash (runCalls prefixHash AuditLog.empty
        [sampleCall (some 1), sampleCall (some 1)]).rows none).isValid = true := by
  apply (sequential_chain_valid_iff prefixHash prefixHash_injective prefixHash_ne_genesis _).mpr
  refine ⟨?_, ?_, ?_⟩
  · intro c hc _
    rcases List.mem_pair.mp hc with rfl | rfl <;> exact sampleCall_fits _
  · intro c hc d hd _ _
    rcases List.mem_pair.mp hc with rfl | rfl <;> rcases List.mem_pair.mp hd with rfl | rfl <;> rfl
  · have hskipped : (sampleCall (some 1)).skipped = 0 := rfl
    simp [acceptedIds, sampleCall_accepted, hskipped, ConsecutiveIds]

/-- Calls of two tenants break the report of the whole log. -/
theorem whole_log_invalid_of_two_tenants :
    ¬ ∀ calls : List Call,
      (∀ t : Int, (verifyAuditChain prefixHash (runCalls prefixHash AuditLog.empty calls).rows
        (some t)).isValid = true) ∧
      (verifyAuditChain prefixHash
        (runCalls prefixHash AuditLog.empty calls).rows none).isValid = true := by
  intro h
  have hwhole := (h [sampleCall (some 1), sampleCall (some 2)]).2
  rw [verify_whole_log_iff prefixHash_injective prefixHash_ne_genesis] at hwhole
  have htenant := hwhole.2.1 (sampleCall (some 1)) (by simp) (sampleCall (some 2)) (by simp)
    (sampleCall_accepted _) (sampleCall_accepted _)
  simp [sampleCall] at htenant

end AuthClaw.Audit
