import AuthClaw.Audit.ChainValidity
import AuthClaw.Library.StepSystem

/-!
# Concurrent audit block writers

Any number of calls of {lit}`create_audit_block` whose database steps interleave.
A row becomes visible before it carries its hashes, so a call may read its
previous hash while an earlier row of its tenant is still unhashed; the runs in
which no call does that are the ones that end in a valid chain.

Main results:

- Theorem {lit}`step_inv`: a step keeps the writer invariant when no read passes
  over an unhashed row.
- Theorem {lit}`run_inv`: so does every run of such steps.
- Theorem {lit}`concurrent_chain_valid`: once all its calls have finished, every
  tenant's chain is valid.
-/

namespace AuthClaw.Audit

open HashChain StepSystem

/-! ## Interleaved calls -/

/-- How far a call has come. -/
inductive Phase where
  | waiting
  | inserted (p : Pending)
  | read (p : Pending) (previousHash : String)
  | finished
deriving DecidableEq

/-- What an unfinished call holds of its row. -/
def Phase.pending? : Phase → Option Pending
  | .waiting => none
  | .inserted p => some p
  | .read p _ => some p
  | .finished => none

/-- The shared log and the progress of each call. -/
structure Writers (n : Nat) where
  log : AuditLog
  phase : Fin n → Phase

/-- All calls wait, over an empty table. -/
def Writers.start (n : Nat) : Writers n where
  log := AuditLog.empty
  phase := fun _ => .waiting

/-- The record of one call's progress. -/
def Writers.setPhase {n : Nat} (s : Writers n) (i : Fin n) (phase : Phase) : Writers n :=
  { s with phase := Function.update s.phase i phase }

/-- The next database step of one call.  A call whose insert is aborted raises and
is finished. -/
def writerStep (sha256 : String → String) {n : Nat} (calls : Fin n → Call) (s : Writers n)
    (i : Fin n) : Option (Writers n) :=
  match s.phase i with
  | .waiting =>
      match insertBlock s.log (calls i) with
      | (log, none) => some ({ s with log := log }.setPhase i .finished)
      | (log, some p) => some ({ s with log := log }.setPhase i (.inserted p))
  | .inserted p =>
      some (s.setPhase i (.read p (previousHashOf s.log.rows p.record.recordId p.tenantId)))
  | .read p previousHash =>
      some ({ s with log := updateBlock sha256 s.log p previousHash }.setPhase i .finished)
  | .finished => none

/-- The rows of the call's tenant below its own row are hashed. -/
def EarlierHashed (rows : List AuditRow) (p : Pending) : Prop :=
  ∀ r ∈ rows, r.tenantId = p.tenantId → r.id < p.record.recordId → r.integrityHash ≠ none

instance (rows : List AuditRow) (p : Pending) : Decidable (EarlierHashed rows p) :=
  inferInstanceAs (Decidable (∀ r ∈ rows, _))

/-- When the step reads the previous hash, no earlier row of the tenant is
unhashed. -/
def ReadsBehindHashed {n : Nat} (s : Writers n) (i : Fin n) : Prop :=
  match s.phase i with
  | .inserted p => EarlierHashed s.log.rows p
  | _ => True

instance {n : Nat} (s : Writers n) (i : Fin n) : Decidable (ReadsBehindHashed s i) :=
  match h : s.phase i with
  | .waiting => isTrue (by simp [ReadsBehindHashed, h])
  | .inserted p => decidable_of_iff (EarlierHashed s.log.rows p) (by simp [ReadsBehindHashed, h])
  | .read _ _ => isTrue (by simp [ReadsBehindHashed, h])
  | .finished => isTrue (by simp [ReadsBehindHashed, h])

/-! ## Chained rows followed by unhashed rows -/

/-- Rows in id order that are chained up to a point and unhashed after it. -/
def PrefixChained (sha256 : String → String) (rows : List AuditRow) : Prop :=
  ∃ done todo, rows = done ++ todo ∧ RowsChained sha256 genesisHash done ∧
    ∀ r ∈ todo, r.integrityHash = none

section

variable {sha256 : String → String}

/-- A new unhashed row joins the rows to do. -/
theorem PrefixChained.concat {rows : List AuditRow} {r : AuditRow}
    (h : PrefixChained sha256 rows) (hr : r.integrityHash = none) :
    PrefixChained sha256 (rows ++ [r]) := by
  rcases h with ⟨done, todo, rfl, hdone, htodo⟩
  refine ⟨done, todo ++ [r], List.append_assoc _ _ _, hdone, ?_⟩
  intro s hs
  rcases List.mem_append.mp hs with hs | hs
  · exact htodo s hs
  · rw [List.mem_singleton.mp hs]
    exact hr

/-- With no unhashed row left, all rows are chained. -/
theorem PrefixChained.rowsChained {rows : List AuditRow} (h : PrefixChained sha256 rows)
    (hall : AllHashed rows) : RowsChained sha256 genesisHash rows := by
  rcases h with ⟨done, todo, rfl, hdone, htodo⟩
  cases todo with
  | nil =>
      rw [List.append_nil]
      exact hdone
  | cons r rest => exact absurd (htodo r (by simp)) (hall r (by simp))

/-- An unhashed row behind hashed ones is the first row to do. -/
theorem PrefixChained.split_at {before after : List AuditRow} {r : AuditRow}
    (h : PrefixChained sha256 (before ++ r :: after)) (hr : r.integrityHash = none)
    (hbefore : AllHashed before) :
    RowsChained sha256 genesisHash before ∧ ∀ s ∈ after, s.integrityHash = none := by
  rcases h with ⟨done, todo, hsplit, hdone, htodo⟩
  rcases List.append_eq_append_iff.mp hsplit with ⟨mid, hmid, htail⟩ | ⟨mid, hmid, htail⟩
  · -- the chain extends past the row
    cases mid with
    | nil =>
        rw [List.append_nil] at hmid
        rw [List.nil_append] at htail
        rw [← hmid]
        refine ⟨hdone, ?_⟩
        intro s hs
        apply htodo
        rw [← htail]
        exact List.mem_cons_of_mem _ hs
    | cons m rest =>
        have hmr : r = m := (List.cons.inj htail).1
        have hmdone : m ∈ done := by
          rw [hmid]
          simp
        exact absurd (hmr ▸ hr) (hdone.allHashed m hmdone)
  · -- the chain ends before the row
    cases mid with
    | nil =>
        rw [List.append_nil] at hmid
        rw [List.nil_append] at htail
        rw [hmid]
        refine ⟨hdone, ?_⟩
        intro s hs
        apply htodo
        rw [htail]
        exact List.mem_cons_of_mem _ hs
    | cons m rest =>
        have hmbefore : m ∈ before := by
          rw [hmid]
          simp
        have hmtodo : m ∈ todo := by
          rw [htail]
          simp
        exact absurd (htodo m hmtodo) (hbefore m hmbefore)

/-- Hashing the first row to do over the last hash moves it into the chain. -/
theorem PrefixChained.hash_next {before after : List AuditRow} {r : AuditRow}
    (h : PrefixChained sha256 (before ++ r :: after)) (hr : r.integrityHash = none)
    (hbefore : AllHashed before) {record : AuditRecord}
    (hrecord : r.record.normalise = record.normalise) :
    PrefixChained sha256 (before ++ r.withHashes
      (calculateRecordHash sha256 record (lastHash genesisHash before))
      (lastHash genesisHash before) :: after) := by
  rcases h.split_at hr hbefore with ⟨hchain, hafter⟩
  have hsame : ∀ i p, (r.withHashes i p).record = r.record := fun _ _ => rfl
  refine ⟨before ++ [_], after, (List.append_assoc before [_] after).symm, ?_, hafter⟩
  rw [rowsChained_append]
  refine ⟨hchain, rowsChained_cons.mpr ⟨_, rfl, rfl, ?_, rowsChained_nil _ _⟩⟩
  unfold calculateRecordHash
  rw [hsame, hrecord]

end

/-! ## One tenant's rows under the steps -/

/-- Rows in id order split at a member. -/
theorem split_at_row {rows : List AuditRow} (hsorted : rows.Pairwise (fun a b => a.id < b.id))
    {r : AuditRow} (hr : r ∈ rows) :
    ∃ before after, rows = before ++ r :: after ∧ (∀ s ∈ before, s.id < r.id) ∧
      ∀ s ∈ after, r.id < s.id := by
  rcases List.append_of_mem hr with ⟨before, after, rfl⟩
  rw [List.pairwise_append, List.pairwise_cons] at hsorted
  rcases hsorted with ⟨-, ⟨hafter, -⟩, hbefore⟩
  exact ⟨before, after, rfl, fun s hs => hbefore s hs r (by simp), hafter⟩

/-- The rows below the one a list is split at. -/
theorem filter_below_split {before after : List AuditRow} {r : AuditRow}
    (hbefore : ∀ s ∈ before, s.id < r.id) (hafter : ∀ s ∈ after, r.id < s.id) :
    (before ++ r :: after).filter (fun s => decide (s.id < r.id)) = before := by
  have hall : before.filter (fun s => decide (s.id < r.id)) = before := by
    rw [List.filter_eq_self]
    intro s hs
    simpa using hbefore s hs
  have hnone : after.filter (fun s => decide (s.id < r.id)) = [] := by
    rw [List.filter_eq_nil_iff]
    intro s hs
    have hlt := hafter s hs
    simp only [decide_eq_true_eq]
    omega
  rw [List.filter_append, List.filter_cons_of_neg (by simp), hall, hnone, List.append_nil]

/-- Without a row of that id the update changes nothing. -/
theorem setHashes_of_ne {rows : List AuditRow} {id : Int} (integrityHash previousHash : String)
    (hne : ∀ r ∈ rows, r.id ≠ id) : setHashes rows id integrityHash previousHash = rows := by
  unfold setHashes
  conv_rhs => rw [← List.map_id rows]
  apply List.map_congr_left
  intro r hr
  exact if_neg (hne r hr)

/-- The rows after an update: the updated one is hashed, the others are as they
were. -/
theorem mem_setHashes {rows : List AuditRow} {id : Int} {integrityHash previousHash : String}
    {r : AuditRow} :
    r ∈ setHashes rows id integrityHash previousHash ↔
      (∃ a ∈ rows, a.id = id ∧ r = a.withHashes integrityHash previousHash) ∨
        (r ∈ rows ∧ r.id ≠ id) := by
  unfold setHashes
  rw [List.mem_map]
  constructor
  · rintro ⟨a, ha, hr⟩
    by_cases hid : a.id = id
    · rw [if_pos hid] at hr
      exact Or.inl ⟨a, ha, hid, hr.symm⟩
    · rw [if_neg hid] at hr
      rw [← hr]
      exact Or.inr ⟨ha, hid⟩
  · rintro (⟨a, ha, hid, hr⟩ | ⟨hr, hid⟩)
    · exact ⟨a, ha, by rw [if_pos hid, hr]⟩
    · exact ⟨r, hr, if_neg hid⟩

/-- The update changes the one row with the id. -/
theorem setHashes_split {before after : List AuditRow} {r : AuditRow}
    (integrityHash previousHash : String) (hbefore : ∀ s ∈ before, s.id < r.id)
    (hafter : ∀ s ∈ after, r.id < s.id) :
    setHashes (before ++ r :: after) r.id integrityHash previousHash =
      before ++ r.withHashes integrityHash previousHash :: after := by
  have hbefore' := setHashes_of_ne integrityHash previousHash
    (fun s hs => ne_of_lt (hbefore s hs))
  have hafter' := setHashes_of_ne integrityHash previousHash
    (fun s hs => ne_of_gt (hafter s hs))
  unfold setHashes at hbefore' hafter' ⊢
  rw [List.map_append, List.map_cons, if_pos rfl, hbefore', hafter']

theorem tenantRows_setHashes (rows : List AuditRow) (id : Int)
    (integrityHash previousHash : String) (k : Option Int) :
    tenantRows (setHashes rows id integrityHash previousHash) k =
      setHashes (tenantRows rows k) id integrityHash previousHash := by
  unfold tenantRows setHashes
  rw [List.filter_map]
  congr 2
  funext r
  by_cases h : r.id = id <;> simp [h, AuditRow.withHashes]

/-- Updating the row of a call whose earlier rows are hashed, with the previous
hash of that moment, keeps the tenant's rows chained up to a point. -/
theorem prefixChained_setHashes {sha256 : String → String} {log : AuditLog} {k : Option Int}
    (hchain : PrefixChained sha256 (tenantRows log.rows k)) {r : AuditRow} (hr : r ∈ log.rows)
    (hunhashed : r.integrityHash = none) {p : Pending} (hid : r.id = p.record.recordId)
    (htenant : r.tenantId = p.tenantId) (hrecord : r.record.normalise = p.record.normalise)
    (hearlier : EarlierHashed log.rows p) :
    PrefixChained sha256 (tenantRows (setHashes log.rows p.record.recordId
      (calculateRecordHash sha256 p.record
        (previousHashOf log.rows p.record.recordId p.tenantId))
      (previousHashOf log.rows p.record.recordId p.tenantId)) k) := by
  rw [tenantRows_setHashes]
  have hsorted : (tenantRows log.rows k).Pairwise (fun a b => a.id < b.id) :=
    log.ids_increasing.filter _
  by_cases hk : r.tenantId = k
  · have hmem : r ∈ tenantRows log.rows k := by
      unfold tenantRows
      rw [List.mem_filter]
      exact ⟨hr, by simpa using hk⟩
    rcases split_at_row hsorted hmem with ⟨before, after, hsplit, hlt, hgt⟩
    have hbefore : AllHashed before := by
      intro s hs
      have hs' : s ∈ tenantRows log.rows k := by
        rw [hsplit]
        simp [hs]
      rcases List.mem_filter.mp hs' with ⟨hsrows, hsk⟩
      apply hearlier s hsrows
      · rw [← htenant, hk]
        simpa using hsk
      · rw [← hid]
        exact hlt s hs
    have hprev : previousHashOf log.rows p.record.recordId p.tenantId =
        lastHash genesisHash before := by
      have hcomm : tenantRows (log.rows.filter (fun s => decide (s.id < r.id))) k =
          (tenantRows log.rows k).filter (fun s => decide (s.id < r.id)) :=
        List.filter_comm _ _ _
      rw [previousHashOf_eq_lastHash, ← hid, ← htenant, hk, hcomm, hsplit,
        filter_below_split hlt hgt]
    rw [hprev, hsplit, ← hid, setHashes_split _ _ hlt hgt]
    rw [hsplit] at hchain
    exact hchain.hash_next hunhashed hbefore hrecord
  · have hsame : setHashes (tenantRows log.rows k) p.record.recordId
        (calculateRecordHash sha256 p.record
          (previousHashOf log.rows p.record.recordId p.tenantId))
        (previousHashOf log.rows p.record.recordId p.tenantId) = tenantRows log.rows k := by
      apply setHashes_of_ne
      intro s hs hsid
      rcases List.mem_filter.mp hs with ⟨hsrows, hsk⟩
      have hsr : s = r := log.eq_of_id_eq hsrows hr (hsid.trans hid.symm)
      apply hk
      rw [← hsr]
      simpa using hsk
    rw [hsame]
    exact hchain

/-! ## The writer invariant -/

/-- What holds between the steps of any calls whose reads stay behind hashed
rows. -/
structure WriterInv (sha256 : String → String) {n : Nat} (s : Writers n) : Prop where
  /-- Each tenant's rows are chained up to a point and unhashed after it. -/
  chained : ∀ k, PrefixChained sha256 (tenantRows s.log.rows k)
  /-- An unfinished call owns an unhashed row that stores what it will hash. -/
  owned : ∀ i p, (s.phase i).pending? = some p → ∃ r ∈ s.log.rows,
    r.id = p.record.recordId ∧ r.tenantId = p.tenantId ∧ r.integrityHash = none ∧
      r.record.normalise = p.record.normalise
  /-- Two calls own different rows. -/
  distinct : ∀ i j p q, (s.phase i).pending? = some p → (s.phase j).pending? = some q →
    p.record.recordId = q.record.recordId → i = j
  /-- An unhashed row is owned. -/
  owner : ∀ r ∈ s.log.rows, r.integrityHash = none →
    ∃ i p, (s.phase i).pending? = some p ∧ p.record.recordId = r.id
  /-- What a call has read is still what it would read. -/
  current : ∀ i p previousHash, s.phase i = .read p previousHash →
    EarlierHashed s.log.rows p ∧
      previousHash = previousHashOf s.log.rows p.record.recordId p.tenantId

section

variable {sha256 : String → String} {n : Nat} {calls : Fin n → Call}

@[simp]
theorem Writers.setPhase_log (s : Writers n) (i : Fin n) (phase : Phase) :
    (s.setPhase i phase).log = s.log :=
  rfl

@[simp]
theorem Writers.setPhase_self (s : Writers n) (i : Fin n) (phase : Phase) :
    (s.setPhase i phase).phase i = phase := by
  simp [Writers.setPhase]

theorem Writers.setPhase_ne (s : Writers n) {i j : Fin n} (phase : Phase) (h : j ≠ i) :
    (s.setPhase i phase).phase j = s.phase j := by
  simp [Writers.setPhase, h]

theorem writerInv_start (n : Nat) : WriterInv sha256 (Writers.start n) where
  chained := fun _ => ⟨[], [], rfl, rowsChained_nil _ _, by simp⟩
  owned := by
    intro i p h
    cases h
  distinct := by
    intro i j p q h
    cases h
  owner := by
    intro r hr
    cases hr
  current := by
    intro i p previousHash h
    cases h

/-- What one step of a call does. -/
theorem writerStep_cases {s s' : Writers n} {i : Fin n}
    (h : writerStep sha256 calls s i = some s') :
    (s.phase i = .waiting ∧ s'.log.rows = s.log.rows ∧
      s'.phase = (s.setPhase i .finished).phase) ∨
    (∃ id r, s.phase i = .waiting ∧ (calls i).storedRow id = some r ∧
      (∀ a ∈ s.log.rows, a.id < r.id) ∧ s'.log.rows = s.log.rows ++ [r] ∧
      s'.phase = (s.setPhase i
        (.inserted ⟨(calls i).record r.id, (calls i).args.tenantId⟩)).phase) ∨
    (∃ p, s.phase i = .inserted p ∧ s'.log.rows = s.log.rows ∧
      s'.phase = (s.setPhase i
        (.read p (previousHashOf s.log.rows p.record.recordId p.tenantId))).phase) ∨
    (∃ p previousHash, s.phase i = .read p previousHash ∧
      s'.log.rows = setHashes s.log.rows p.record.recordId
        (calculateRecordHash sha256 p.record previousHash) previousHash ∧
      s'.phase = (s.setPhase i .finished).phase) := by
  unfold writerStep at h
  cases hphase : s.phase i with
  | waiting =>
      simp only [hphase] at h
      cases hrow : (calls i).storedRow (s.log.nextId + (calls i).skipped) with
      | none =>
          rw [insertBlock_refused hrow] at h
          cases h
          exact Or.inl ⟨rfl, rfl, rfl⟩
      | some r =>
          rcases insertBlock_rows hrow with ⟨hrows, -, hpending⟩
          rcases hinsert : insertBlock s.log (calls i) with ⟨log, pending⟩
          rw [hinsert] at h hrows hpending
          simp only at h hrows hpending
          subst hpending
          cases h
          refine Or.inr (Or.inl ⟨_, r, rfl, hrow, ?_, hrows, rfl⟩)
          intro a ha
          have hlt := s.log.ids_lt a ha
          have hid := (Call.storedRow_spec hrow).1
          omega
  | inserted p =>
      simp only [hphase] at h
      cases h
      exact Or.inr (Or.inr (Or.inl ⟨p, rfl, rfl, rfl⟩))
  | read p previousHash =>
      simp only [hphase] at h
      cases h
      exact Or.inr (Or.inr (Or.inr ⟨p, previousHash, rfl, rfl, rfl⟩))
  | finished =>
      simp only [hphase] at h
      cases h

/-- A step that leaves the rows and what the calls own as they are keeps the
invariant, when what it newly reads is current. -/
theorem WriterInv.of_rows_eq {s s' : Writers n} (hinv : WriterInv sha256 s)
    (hrows : s'.log.rows = s.log.rows)
    (hpending : ∀ j, (s'.phase j).pending? = (s.phase j).pending?)
    (hcurrent : ∀ j p previousHash, s'.phase j = .read p previousHash →
      s.phase j = .read p previousHash ∨ EarlierHashed s.log.rows p ∧
        previousHash = previousHashOf s.log.rows p.record.recordId p.tenantId) :
    WriterInv sha256 s' where
  chained := by
    rw [hrows]
    exact hinv.chained
  owned := by
    intro j p hp
    rw [hpending] at hp
    rw [hrows]
    exact hinv.owned j p hp
  distinct := by
    intro j k p q hp hq
    rw [hpending] at hp hq
    exact hinv.distinct j k p q hp hq
  owner := by
    intro r hr hunhashed
    rw [hrows] at hr
    rcases hinv.owner r hr hunhashed with ⟨j, p, hp, hid⟩
    exact ⟨j, p, by rw [hpending, hp], hid⟩
  current := by
    intro j p previousHash hread
    rw [hrows]
    rcases hcurrent j p previousHash hread with hold | hnew
    · exact hinv.current j p previousHash hold
    · exact hnew

/-- Appending a row above the row of a call does not change what it reads. -/
theorem current_append (rows : List AuditRow) {r : AuditRow} {p : Pending}
    (habove : p.record.recordId < r.id) :
    (EarlierHashed (rows ++ [r]) p ↔ EarlierHashed rows p) ∧
      previousHashOf (rows ++ [r]) p.record.recordId p.tenantId =
        previousHashOf rows p.record.recordId p.tenantId := by
  constructor
  · unfold EarlierHashed
    constructor
    · intro h s hs
      exact h s (by simp [hs])
    · intro h s hs htenant hlt
      rcases List.mem_append.mp hs with hs | hs
      · exact h s hs htenant hlt
      · rw [List.mem_singleton.mp hs] at hlt
        omega
  · have hnot : ¬ r.id < p.record.recordId := by omega
    rw [previousHashOf_eq_lastHash, previousHashOf_eq_lastHash, List.filter_append,
      List.filter_cons_of_neg (by simpa using hnot), List.filter_nil, List.append_nil]

/-- The insert keeps the invariant. -/
theorem WriterInv.insert {s s' : Writers n} {i : Fin n} {id : Int} {r : AuditRow}
    (hinv : WriterInv sha256 s) (hfit : (calls i).Fits) (hwaiting : s.phase i = .waiting)
    (hrow : (calls i).storedRow id = some r) (hlast : ∀ a ∈ s.log.rows, a.id < r.id)
    (hrows : s'.log.rows = s.log.rows ++ [r])
    (hphase : s'.phase = (s.setPhase i
      (.inserted ⟨(calls i).record r.id, (calls i).args.tenantId⟩)).phase) :
    WriterInv sha256 s' := by
  rcases Call.storedRow_spec hrow with ⟨-, htenant, hunhashed, -⟩
  have hi : s'.phase i = .inserted ⟨(calls i).record r.id, (calls i).args.tenantId⟩ := by
    rw [hphase, Writers.setPhase_self]
  have hne : ∀ j, j ≠ i → s'.phase j = s.phase j := by
    intro j hj
    rw [hphase, Writers.setPhase_ne s _ hj]
  -- the other calls own rows below the new one
  have hbelow : ∀ j p, j ≠ i → (s'.phase j).pending? = some p → p.record.recordId < r.id := by
    intro j p hj hp
    rw [hne j hj] at hp
    rcases hinv.owned j p hp with ⟨a, ha, haid, -⟩
    rw [← haid]
    exact hlast a ha
  have hself : ∀ p, (s'.phase i).pending? = some p → p.record.recordId = r.id := by
    intro p hp
    rw [hi] at hp
    cases hp
    rfl
  constructor
  · intro k
    rw [hrows, tenantRows_append]
    by_cases hk : r.tenantId = k
    · have hone : tenantRows [r] k = [r] := by simp [tenantRows, hk]
      rw [hone]
      exact (hinv.chained k).concat hunhashed
    · have hnone : tenantRows [r] k = [] := by simp [tenantRows, hk]
      rw [hnone, List.append_nil]
      exact hinv.chained k
  · intro j p hp
    rw [hrows]
    by_cases hj : j = i
    · rw [hj, hi] at hp
      cases hp
      exact ⟨r, by simp, rfl, htenant, hunhashed, (Call.normalise_eq_iff hrow).mpr hfit⟩
    · rw [hne j hj] at hp
      rcases hinv.owned j p hp with ⟨a, ha, hown⟩
      exact ⟨a, by simp [ha], hown⟩
  · intro j k p q hp hq hid
    by_cases hj : j = i
    · by_cases hk : k = i
      · rw [hj, hk]
      · rw [hj] at hp
        have hlt := hbelow k q hk hq
        have hpid := hself p hp
        omega
    · by_cases hk : k = i
      · rw [hk] at hq
        have hlt := hbelow j p hj hp
        have hqid := hself q hq
        omega
      · rw [hne j hj] at hp
        rw [hne k hk] at hq
        exact hinv.distinct j k p q hp hq hid
  · intro a ha hanone
    rw [hrows] at ha
    rcases List.mem_append.mp ha with ha | ha
    · rcases hinv.owner a ha hanone with ⟨j, p, hp, hid⟩
      have hj : j ≠ i := by
        rintro rfl
        rw [hwaiting] at hp
        cases hp
      exact ⟨j, p, by rw [hne j hj, hp], hid⟩
    · rw [List.mem_singleton.mp ha]
      exact ⟨i, _, by rw [hi]; rfl, rfl⟩
  · intro j p previousHash hread
    have hj : j ≠ i := by
      rintro rfl
      rw [hi] at hread
      cases hread
    have habove := hbelow j p hj (by rw [hread]; rfl)
    rw [hne j hj] at hread
    rcases hinv.current j p previousHash hread with ⟨hearlier, hprev⟩
    rcases current_append s.log.rows habove with ⟨hiff, hsame⟩
    rw [hrows, hsame]
    exact ⟨hiff.mpr hearlier, hprev⟩

/-- An update of a row a call does not read from does not change what it
reads. -/
theorem current_setHashes {rows : List AuditRow} {q : Pending} {id : Int}
    (integrityHash previousHash : String) (hearlier : EarlierHashed rows q)
    (hunread : ∀ a ∈ rows, a.id = id → a.integrityHash = none) :
    EarlierHashed (setHashes rows id integrityHash previousHash) q ∧
      previousHashOf (setHashes rows id integrityHash previousHash) q.record.recordId q.tenantId =
        previousHashOf rows q.record.recordId q.tenantId := by
  constructor
  · intro r hr htenant hlt
    rcases mem_setHashes.mp hr with ⟨a, -, -, rfl⟩ | ⟨hrows, -⟩
    · simp [AuditRow.withHashes]
    · exact hearlier r hrows htenant hlt
  · rw [previousHashOf_eq_lastHash, previousHashOf_eq_lastHash]
    have hcomm : (setHashes rows id integrityHash previousHash).filter
        (fun s => decide (s.id < q.record.recordId)) =
        setHashes (rows.filter (fun s => decide (s.id < q.record.recordId))) id
          integrityHash previousHash := by
      unfold setHashes
      rw [List.filter_map]
      congr 2
      funext r
      by_cases h : r.id = id <;> simp [h, AuditRow.withHashes]
    rw [hcomm, tenantRows_setHashes, setHashes_of_ne]
    intro r hr hid
    rcases List.mem_filter.mp hr with ⟨hr, htenant⟩
    rcases List.mem_filter.mp hr with ⟨hr, hlt⟩
    exact hearlier r hr (by simpa using htenant) (by simpa using hlt) (hunread r hr hid)

/-- The update keeps the invariant. -/
theorem WriterInv.update {s s' : Writers n} {i : Fin n} {p : Pending} {previousHash : String}
    (hinv : WriterInv sha256 s) (hread : s.phase i = .read p previousHash)
    (hrows : s'.log.rows = setHashes s.log.rows p.record.recordId
      (calculateRecordHash sha256 p.record previousHash) previousHash)
    (hphase : s'.phase = (s.setPhase i .finished).phase) : WriterInv sha256 s' := by
  have hown : (s.phase i).pending? = some p := by
    rw [hread]
    rfl
  rcases hinv.owned i p hown with ⟨r, hr, hrid, htenant, hunhashed, hrecord⟩
  rcases hinv.current i p previousHash hread with ⟨hearlier, hprev⟩
  have hi : s'.phase i = .finished := by
    rw [hphase, Writers.setPhase_self]
  have hne : ∀ j, j ≠ i → s'.phase j = s.phase j := by
    intro j hj
    rw [hphase, Writers.setPhase_ne s _ hj]
  have hother : ∀ j q, (s'.phase j).pending? = some q →
      j ≠ i ∧ (s.phase j).pending? = some q := by
    intro j q hq
    have hj : j ≠ i := by
      rintro rfl
      rw [hi] at hq
      cases hq
    rw [hne j hj] at hq
    exact ⟨hj, hq⟩
  constructor
  · intro k
    rw [hrows, hprev]
    exact prefixChained_setHashes (hinv.chained k) hr hunhashed hrid htenant hrecord hearlier
  · intro j q hq
    rcases hother j q hq with ⟨hj, hq'⟩
    rcases hinv.owned j q hq' with ⟨a, ha, haid, hrest⟩
    refine ⟨a, ?_, haid, hrest⟩
    rw [hrows, mem_setHashes]
    refine Or.inr ⟨ha, ?_⟩
    intro hsame
    exact hj (hinv.distinct j i q p hq' hown (haid.symm.trans hsame))
  · intro j k q q' hq hq' hid
    exact hinv.distinct j k q q' (hother j q hq).2 (hother k q' hq').2 hid
  · intro a ha hanone
    rw [hrows, mem_setHashes] at ha
    rcases ha with ⟨b, -, -, rfl⟩ | ⟨ha, haid⟩
    · simp [AuditRow.withHashes] at hanone
    · rcases hinv.owner a ha hanone with ⟨j, q, hq, hqid⟩
      have hj : j ≠ i := by
        rintro rfl
        rw [hown] at hq
        cases hq
        exact haid hqid.symm
      exact ⟨j, q, by rw [hne j hj, hq], hqid⟩
  · intro j q previousHash' hread'
    have hq : (s'.phase j).pending? = some q := by
      rw [hread']
      rfl
    have hj := (hother j q hq).1
    rw [hne j hj] at hread'
    rcases hinv.current j q previousHash' hread' with ⟨hearlier', hprev'⟩
    have hunread : ∀ a ∈ s.log.rows, a.id = p.record.recordId → a.integrityHash = none := by
      intro a ha haid
      rw [s.log.eq_of_id_eq ha hr (haid.trans hrid.symm)]
      exact hunhashed
    rcases current_setHashes (calculateRecordHash sha256 p.record previousHash) previousHash
      hearlier' hunread with ⟨hnew, hsame⟩
    rw [hrows, hsame]
    exact ⟨hnew, hprev'⟩

/-- A step keeps the invariant when it does not read past an unhashed row. -/
theorem step_inv (hfits : ∀ i, (calls i).accepted = true → (calls i).Fits) (s : Writers n)
    (i : Fin n) (s' : Writers n) (hinv : WriterInv sha256 s) (hreads : ReadsBehindHashed s i)
    (hstep : writerStep sha256 calls s i = some s') : WriterInv sha256 s' := by
  have hpending : ∀ ph, s'.phase = (s.setPhase i ph).phase → ph.pending? = (s.phase i).pending? →
      ∀ j, (s'.phase j).pending? = (s.phase j).pending? := by
    intro ph hphase hsame j
    rw [hphase]
    by_cases hj : j = i
    · rw [hj, Writers.setPhase_self, hsame]
    · rw [Writers.setPhase_ne s _ hj]
  rcases writerStep_cases hstep with ⟨hwaiting, hrows, hphase⟩ |
    ⟨id, r, hwaiting, hrow, hlast, hrows, hphase⟩ | ⟨p, hinserted, hrows, hphase⟩ |
    ⟨p, previousHash, hread, hrows, hphase⟩
  · apply hinv.of_rows_eq hrows
    · apply hpending .finished hphase
      rw [hwaiting]
      rfl
    · intro j p previousHash hj
      rw [hphase] at hj
      by_cases hji : j = i
      · rw [hji, Writers.setPhase_self] at hj
        cases hj
      · rw [Writers.setPhase_ne s _ hji] at hj
        exact Or.inl hj
  · have haccepted : (calls i).accepted = true := by
      rw [← (calls i).storedRow_isSome id, hrow]
      rfl
    exact hinv.insert (hfits i haccepted) hwaiting hrow hlast hrows hphase
  · apply hinv.of_rows_eq hrows
    · apply hpending _ hphase
      rw [hinserted]
      rfl
    · intro j q previousHash hj
      rw [hphase] at hj
      by_cases hji : j = i
      · rw [hji, Writers.setPhase_self] at hj
        cases hj
        simp only [ReadsBehindHashed, hinserted] at hreads
        exact Or.inr ⟨hreads, rfl⟩
      · rw [Writers.setPhase_ne s _ hji] at hj
        exact Or.inl hj
  · exact hinv.update hread hrows hphase

/-- The invariant holds after every run whose reads stay behind hashed rows. -/
theorem run_inv (hfits : ∀ i, (calls i).accepted = true → (calls i).Fits)
    {schedule : List (Fin n)} {s : Writers n}
    (hreads : Respects (writerStep sha256 calls) ReadsBehindHashed (Writers.start n) schedule)
    (hrun : run (writerStep sha256 calls) (Writers.start n) schedule = some s) :
    WriterInv sha256 s :=
  invariant_of_run (step_inv hfits) (writerInv_start n) hreads hrun

end

/-! ## Finished calls -/

/-- Once no call is under way, every row is hashed. -/
theorem WriterInv.allHashed {sha256 : String → String} {n : Nat} {s : Writers n}
    (hinv : WriterInv sha256 s) (hfinished : ∀ i, s.phase i = .finished) :
    AllHashed s.log.rows := by
  intro r hr hunhashed
  rcases hinv.owner r hr hunhashed with ⟨i, p, hp, -⟩
  rw [hfinished i] at hp
  cases hp

/-- In every run of any number of calls whose reads stay behind hashed rows, once
all calls have finished each tenant's report is valid: its rows are hashed and
their previous hashes are pairwise distinct. -/
theorem concurrent_chain_valid (sha256 : String → String) (hinj : Function.Injective sha256)
    (hgenesis : ∀ text, sha256 text ≠ genesisHash) {n : Nat} (calls : Fin n → Call)
    (hfits : ∀ i, (calls i).accepted = true → (calls i).Fits) (schedule : List (Fin n))
    (s : Writers n)
    (hrun : run (writerStep sha256 calls) (Writers.start n) schedule = some s)
    (hreads : Respects (writerStep sha256 calls) ReadsBehindHashed (Writers.start n) schedule)
    (hfinished : ∀ i, s.phase i = .finished) (t : Int) :
    (verifyAuditChain sha256 s.log.rows (some t)).isValid = true ∧
      AllHashed (tenantRows s.log.rows (some t)) ∧
      ((tenantRows s.log.rows (some t)).map AuditRow.previousHash).Nodup := by
  have hinv := run_inv hfits hreads hrun
  have hall : AllHashed (tenantRows s.log.rows (some t)) :=
    fun r hr => hinv.allHashed hfinished r (List.mem_of_mem_filter hr)
  have hchain := (hinv.chained (some t)).rowsChained hall
  refine ⟨?_, hall, hchain.previousHashes_nodup hinj hgenesis⟩
  unfold verifyAuditChain
  rw [selectRows_log]
  change (verifyRows sha256 (some t) (tenantRows s.log.rows (some t))).isValid = true
  rw [verifyRows_valid_iff, activeRows_of_allHashed hall]
  exact ⟨hchain, by simp⟩

/-- Two calls of one tenant, the second inserting while the first is between its
read and its update. -/
theorem concurrent_chain_valid_two_calls :
    ∃ s, run (writerStep prefixHash (fun _ : Fin 2 => sampleCall (some 1))) (Writers.start 2)
        [0, 0, 1, 0, 1, 1] = some s ∧
      (verifyAuditChain prefixHash s.log.rows (some 1)).isValid = true ∧
      AllHashed (tenantRows s.log.rows (some 1)) ∧
      ((tenantRows s.log.rows (some 1)).map AuditRow.previousHash).Nodup := by
  refine ⟨_, rfl, ?_⟩
  exact concurrent_chain_valid prefixHash prefixHash_injective prefixHash_ne_genesis
    (fun _ : Fin 2 => sampleCall (some 1)) (fun _ _ => sampleCall_fits _) [0, 0, 1, 0, 1, 1] _ rfl
    (by decide) (by decide) 1

/-- Both calls insert before either updates: both continue the genesis value, and
the report of their tenant is invalid. -/
theorem concurrent_chain_forks :
    ¬ ∀ (calls : Fin 2 → Call) (schedule : List (Fin 2)) (s : Writers 2),
      run (writerStep prefixHash calls) (Writers.start 2) schedule = some s →
      (∀ i, s.phase i = .finished) →
      (verifyAuditChain prefixHash s.log.rows (some 1)).isValid = true := by
  intro h
  have hfork : ∃ s, run (writerStep prefixHash (fun _ : Fin 2 => sampleCall (some 1)))
      (Writers.start 2) [0, 1, 0, 1, 0, 1] = some s ∧ (∀ i, s.phase i = .finished) ∧
      AllHashed (tenantRows s.log.rows (some 1)) ∧
      (tenantRows s.log.rows (some 1)).map AuditRow.previousHash =
        [some genesisHash, some genesisHash] :=
    ⟨_, rfl, by decide, by unfold AllHashed; decide, rfl⟩
  rcases hfork with ⟨s, hrun, hfinished, hall, hprevs⟩
  have hvalid := h _ _ s hrun hfinished
  unfold verifyAuditChain at hvalid
  rw [selectRows_log] at hvalid
  have hnodup := (rowsChained_of_valid hall hvalid).previousHashes_nodup
    prefixHash_injective prefixHash_ne_genesis
  rw [hprevs] at hnodup
  simp at hnodup

end AuthClaw.Audit
