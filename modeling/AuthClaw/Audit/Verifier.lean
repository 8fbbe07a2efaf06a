import AuthClaw.Audit.Record
import Mathlib.Data.List.Sort

/-!
# The audit chain verifier

{lit}`verify_audit_chain` as the code computes it: select the rows in id order,
skip the legacy rows before the first hash, then check hash columns, id gaps,
links and hashes row by row.  The loop is then characterised by the chain
library: it accepts exactly the rows that carry a chain from genesis.

Main results:

- Theorem {lit}`verifyLoop_eq_ok_iff`: the loop accepts exactly the chained rows,
  without id gaps when no tenant is given.
- Theorem {lit}`verifyRows_valid_iff`: the report is valid exactly when the rows
  after the legacy prefix are such a chain.
-/

namespace AuthClaw.Audit

open HashChain

/-- The dictionary `verify_audit_chain` returns. -/
inductive VerifyReport where
  | valid (recordsChecked : Nat) (chainStartedAt : Option String)
  | invalid (recordsChecked : Nat) (failedRecordId : Int) (reason : String)
deriving DecidableEq

/-- The `valid` entry of the report. -/
def VerifyReport.isValid : VerifyReport → Bool
  | .valid _ _ => true
  | .invalid _ _ _ => false

/-- Why the loop stops: the record id and the reason. -/
structure RowFailure where
  failedRecordId : Int
  reason : String
deriving DecidableEq

/-- The checks the loop makes on one row, in the order of the source.  `prevId`
and `prevHash` are the loop variables of the same names; the result is the hash
the next row continues. -/
def checkRow (sha256 : String → String) (tenantId : Option Int) (prevId : Option Int)
    (prevHash : Option String) (r : AuditRow) : Except RowFailure String :=
  match r.integrityHash, r.previousHash with
  | some integrityHash, some previousHash =>
      -- ids are compared only when the whole log is verified
      match tenantId.isNone, prevId with
      | true, some p =>
          if r.id ≠ p + 1 then
            .error ⟨r.id, "missing record detected between " ++ p.repr ++ " and " ++ r.id.repr⟩
          else checkLink integrityHash previousHash
      | _, _ => checkLink integrityHash previousHash
  | _, _ => .error ⟨r.id, "missing hash metadata in active chain"⟩
where
  /-- Linkage, then the recomputed hash. -/
  checkLink (integrityHash previousHash : String) : Except RowFailure String :=
    if previousHash ≠ prevHash.getD genesisHash then
      .error ⟨r.id, "broken link"⟩
    else if integrityHash ≠ calculateRecordHash sha256 r.record previousHash then
      .error ⟨r.id, "hash mismatch"⟩
    else .ok integrityHash

/-- The loop over the rows from the start of the chain, with the number of
records checked so far; a failed row ends it with that number. -/
def verifyLoop (sha256 : String → String) (tenantId : Option Int) :
    Option Int → Option String → Nat → List AuditRow → Except (Nat × RowFailure) Nat
  | _, _, recordsChecked, [] => .ok recordsChecked
  | prevId, prevHash, recordsChecked, r :: rows =>
      match checkRow sha256 tenantId prevId prevHash r with
      | .error f => .error (recordsChecked, f)
      | .ok hash => verifyLoop sha256 tenantId (some r.id) (some hash) (recordsChecked + 1) rows

/-- `verify_audit_chain` on the selected rows. -/
def verifyRows (sha256 : String → String) (tenantId : Option Int) (rows : List AuditRow) :
    VerifyReport :=
  match rows.dropWhile (fun r => r.integrityHash.isNone) with
  | [] => .valid 0 none
  | first :: rest =>
      match verifyLoop sha256 tenantId none none 0 (first :: rest) with
      | .ok recordsChecked => .valid recordsChecked (some (createdAtText first.createdAt))
      | .error (recordsChecked, f) => .invalid recordsChecked f.failedRecordId f.reason

/-- `WHERE tenant_id = :tenant_id` when a tenant is given. -/
def ofTenant (tenantId : Option Int) (r : AuditRow) : Bool :=
  match tenantId with
  | none => true
  | some t => r.tenantId == some t

/-- The rows the verifier selects, `ORDER BY id ASC`. -/
def selectRows (table : List AuditRow) (tenantId : Option Int) : List AuditRow :=
  (table.filter (ofTenant tenantId)).insertionSort (fun a b => a.id ≤ b.id)

/-- `verify_audit_chain`. -/
def verifyAuditChain (sha256 : String → String) (table : List AuditRow)
    (tenantId : Option Int) : VerifyReport :=
  verifyRows sha256 tenantId (selectRows table tenantId)

/-! ## The rows the loop accepts -/

/-- Ids that follow each other without a gap, after `prevId` when there is one. -/
def Consecutive : Option Int → List AuditRow → Prop
  | _, [] => True
  | prevId, r :: rows => (∀ p, prevId = some p → r.id = p + 1) ∧ Consecutive (some r.id) rows

/-- The rows carry their hash columns and these form a chain from {lit}`start`. -/
def RowsChained (sha256 : String → String) (start : String) (rows : List AuditRow) : Prop :=
  ∃ links, rows.map AuditRow.link? = links.map some ∧ Chained (digest sha256) start links

@[simp]
theorem rowsChained_nil (sha256 : String → String) (start : String) :
    RowsChained sha256 start [] :=
  ⟨[], rfl, trivial⟩

/-- A chain of rows is a row that carries its own hash, continued by its rest. -/
theorem rowsChained_cons {sha256 : String → String} {start : String} {r : AuditRow}
    {rows : List AuditRow} :
    RowsChained sha256 start (r :: rows) ↔
      ∃ hash, r.integrityHash = some hash ∧ r.previousHash = some start ∧
        hash = calculateRecordHash sha256 r.record start ∧ RowsChained sha256 hash rows := by
  constructor
  · rintro ⟨links, hlinks, hchain⟩
    cases links with
    | nil => simp at hlinks
    | cons l ls =>
        simp only [List.map_cons, List.cons.injEq] at hlinks
        rcases AuditRow.link?_eq_some_iff.mp hlinks.1 with ⟨hhash, hprev, hpayload⟩
        rcases hchain with ⟨hstart, hdigest, hrest⟩
        refine ⟨l.hash, hhash, ?_, ?_, ls, hlinks.2, hrest⟩
        · rw [hprev, hstart]
        · rw [hdigest, hstart, ← hpayload]
          rfl
  · rintro ⟨hash, hhash, hprev, hdigest, links, hlinks, hchain⟩
    let l : Link HashedFields String := ⟨r.record.normalise, start, hash⟩
    refine ⟨l :: links, ?_, rfl, hdigest, hchain⟩
    have hl : r.link? = some l := AuditRow.link?_eq_some_iff.mpr ⟨hhash, hprev, rfl⟩
    simp [hl, hlinks]

/-- The last integrity hash of the rows, for the row after them to continue;
unhashed rows are passed over. -/
def lastHash : String → List AuditRow → String
  | start, [] => start
  | start, r :: rows => lastHash (r.integrityHash.getD start) rows

@[simp]
theorem lastHash_append (start : String) (rows rest : List AuditRow) :
    lastHash start (rows ++ rest) = lastHash (lastHash start rows) rest := by
  induction rows generalizing start with
  | nil => rfl
  | cons r rows ih => exact ih (r.integrityHash.getD start)

/-- Rows are chained when their front is and the rest continues its last hash. -/
theorem rowsChained_append {sha256 : String → String} {start : String}
    {rows rest : List AuditRow} :
    RowsChained sha256 start (rows ++ rest) ↔
      RowsChained sha256 start rows ∧ RowsChained sha256 (lastHash start rows) rest := by
  induction rows generalizing start with
  | nil => simp [lastHash]
  | cons r rows ih =>
      rw [List.cons_append, rowsChained_cons, rowsChained_cons]
      constructor
      · rintro ⟨hash, hhash, hprev, hdigest, hchain⟩
        rcases ih.mp hchain with ⟨hrows, hrest⟩
        refine ⟨⟨hash, hhash, hprev, hdigest, hrows⟩, ?_⟩
        simpa [lastHash, hhash] using hrest
      · rintro ⟨⟨hash, hhash, hprev, hdigest, hrows⟩, hrest⟩
        simp only [lastHash, hhash, Option.getD_some] at hrest
        exact ⟨hash, hhash, hprev, hdigest, ih.mpr ⟨hrows, hrest⟩⟩

/-- One row passes exactly when it carries the expected link and its own hash,
and follows the previous id when the whole log is verified. -/
theorem checkRow_eq_ok_iff {sha256 : String → String} {tenantId prevId : Option Int}
    {prevHash : Option String} {r : AuditRow} {hash : String} :
    checkRow sha256 tenantId prevId prevHash r = .ok hash ↔
      r.integrityHash = some hash ∧ r.previousHash = some (prevHash.getD genesisHash) ∧
        hash = calculateRecordHash sha256 r.record (prevHash.getD genesisHash) ∧
        (tenantId = none → ∀ p, prevId = some p → r.id = p + 1) := by
  have hlink : ∀ i p : String, checkRow.checkLink sha256 prevHash r i p = .ok hash ↔
      i = hash ∧ p = prevHash.getD genesisHash ∧
        hash = calculateRecordHash sha256 r.record (prevHash.getD genesisHash) := by
    intro i p
    unfold checkRow.checkLink
    split_ifs with hp hi
    · simp [hp]
    · simp only [false_iff]
      rintro ⟨rfl, rfl, hhash⟩
      exact hi hhash
    · simp only [not_not] at hp hi
      constructor
      · intro h
        cases h
        exact ⟨rfl, hp, by rw [← hp]; exact hi⟩
      · rintro ⟨rfl, -, -⟩
        rfl
  unfold checkRow
  cases hi : r.integrityHash with
  | none => simp
  | some i =>
      cases hp : r.previousHash with
      | none => simp
      | some p =>
          cases tenantId with
          | some t => simp [hlink]
          | none =>
              cases prevId with
              | none => simp [hlink]
              | some q =>
                  by_cases hid : r.id = q + 1
                  · simp [hlink, hid]
                  · simp [hid]

/-- The loop accepts exactly the chained rows, without id gaps when no tenant is
given, and then counts them all. -/
theorem verifyLoop_eq_ok_iff {sha256 : String → String} {tenantId prevId : Option Int}
    {prevHash : Option String} {recordsChecked n : Nat} {rows : List AuditRow} :
    verifyLoop sha256 tenantId prevId prevHash recordsChecked rows = .ok n ↔
      n = recordsChecked + rows.length ∧
        RowsChained sha256 (prevHash.getD genesisHash) rows ∧
        (tenantId = none → Consecutive prevId rows) := by
  induction rows generalizing prevId prevHash recordsChecked with
  | nil => simp [verifyLoop, Consecutive, eq_comm]
  | cons r rows ih =>
      unfold verifyLoop
      cases hrow : checkRow sha256 tenantId prevId prevHash r with
      | error f =>
          simp only [reduceCtorEq, false_iff]
          rintro ⟨-, hchain, hgap⟩
          rcases rowsChained_cons.mp hchain with ⟨hash, hhash, hprev, hdigest, -⟩
          have hok : checkRow sha256 tenantId prevId prevHash r = .ok hash :=
            checkRow_eq_ok_iff.mpr ⟨hhash, hprev, hdigest, fun ht => (hgap ht).1⟩
          rw [hrow] at hok
          cases hok
      | ok hash =>
          rcases checkRow_eq_ok_iff.mp hrow with ⟨hhash, hprev, hdigest, hgap⟩
          simp only [ih, Option.getD_some, List.length_cons]
          constructor
          · rintro ⟨hn, hchain, hids⟩
            refine ⟨by omega, rowsChained_cons.mpr ⟨hash, hhash, hprev, hdigest, hchain⟩, ?_⟩
            intro ht
            exact ⟨hgap ht, hids ht⟩
          · rintro ⟨hn, hchain, hids⟩
            rcases rowsChained_cons.mp hchain with ⟨hash', hhash', -, -, hrest⟩
            have hsame : hash' = hash := Option.some.inj (hhash'.symm.trans hhash)
            rw [hsame] at hrest
            exact ⟨by omega, hrest, fun ht => (hids ht).2⟩

/-- The rows after the legacy prefix. -/
def activeRows (rows : List AuditRow) : List AuditRow :=
  rows.dropWhile (fun r => r.integrityHash.isNone)

/-- The report is valid exactly when the rows after the legacy prefix are a chain
from genesis, without id gaps when no tenant is given. -/
theorem verifyRows_valid_iff {sha256 : String → String} {tenantId : Option Int}
    {rows : List AuditRow} :
    (verifyRows sha256 tenantId rows).isValid = true ↔
      RowsChained sha256 genesisHash (activeRows rows) ∧
        (tenantId = none → Consecutive none (activeRows rows)) := by
  unfold verifyRows activeRows
  cases hactive : rows.dropWhile (fun r => r.integrityHash.isNone) with
  | nil => simp [VerifyReport.isValid, Consecutive]
  | cons first rest =>
      simp only
      cases hloop : verifyLoop sha256 tenantId none none 0 (first :: rest) with
      | ok n =>
          rcases verifyLoop_eq_ok_iff.mp hloop with ⟨-, hchain, hids⟩
          simp only [VerifyReport.isValid, true_iff]
          exact ⟨hchain, hids⟩
      | error failed =>
          have hnot : ¬ (RowsChained sha256 genesisHash (first :: rest) ∧
              (tenantId = none → Consecutive none (first :: rest))) := by
            rintro ⟨hchain, hids⟩
            have hok : verifyLoop sha256 tenantId none none 0 (first :: rest) =
                .ok (0 + (first :: rest).length) :=
              verifyLoop_eq_ok_iff.mpr ⟨rfl, hchain, hids⟩
            rw [hloop] at hok
            cases hok
          simp only [VerifyReport.isValid, Bool.false_eq_true, false_iff]
          exact hnot

end AuthClaw.Audit
