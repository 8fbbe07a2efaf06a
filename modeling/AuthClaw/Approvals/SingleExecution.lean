import AuthClaw.Approvals.Workers

/-!
# Single execution

An execution claims its approval in the table: the claim needs an approved row whose
token is unused, and leaves it spent.  Every other write puts a whole cached record
back.  As long as no such write puts an unspent record over a spent row, an approval
is claimed, and acted on, at most once.

Main results:

- Theorem {lit}`step_claimInv`: a step keeps the claim invariant when its write back
  keeps spent rows spent.
- Theorem {lit}`single_execution`: in every run of such steps each approval is
  executed at most once.
- Theorem {lit}`executed_twice`: a worker with a stale record executes again.
-/

namespace AuthClaw.Approvals

open StepSystem PythonText

/-! ## Spent rows -/

/-- An execution was claimed on the record. -/
def Record.Spent (r : Record) : Prop :=
  r.status.claimed = true ∨ r.executionTokenUsedAt ≠ none

instance (r : Record) : Decidable r.Spent :=
  inferInstanceAs (Decidable (_ ∨ _))

theorem Record.Spent.not_claimable {r : Record} (h : r.Spent) : ¬ r.Claimable := by
  rintro ⟨hstatus, htoken⟩
  rcases h with hclaimed | hused
  · rw [hstatus] at hclaimed
    cases hclaimed
  · exact hused htoken

theorem claimRow_spent (args : ClaimArgs) (tokenHash : String) (now : Instant) (row : Record) :
    (claimRow args tokenHash now row).Spent :=
  Or.inl rfl

theorem upsertRow_spent {row : Option Record} {r : Record} :
    (upsertRow row r).Spent ↔ r.Spent := by
  unfold Record.Spent
  rw [upsertRow_status, upsertRow_executionTokenUsedAt]

/-- The write a call makes next, and the record it makes it on. -/
def System.nextWrite (s : System) (c : Nat) : Option (Write × Record) :=
  match s.frames c with
  | some ⟨_, obj, w :: _, _⟩ => (s.objects[obj]?).map (fun r => (w, r))
  | _ => none

/-- A write that is stored over a spent row stores a spent record. -/
def KeepsSpent (s : System) : Step → Prop
  | .write c now true =>
      ∀ p ∈ s.nextWrite c, ∀ row ∈ s.rows p.2.approvalId, row.Spent → (p.1.apply now p.2).Spent
  | _ => True

instance (s : System) (a : Step) : Decidable (KeepsSpent s a) :=
  match a with
  | .write c now true =>
      inferInstanceAs (Decidable (∀ p ∈ s.nextWrite c, ∀ row ∈ s.rows p.2.approvalId,
        row.Spent → (p.1.apply now p.2).Spent))
  | .write _ _ false => isTrue trivial
  | .create .. => isTrue trivial
  | .fetch .. => isTrue trivial
  | .cacheFetched .. => isTrue trivial
  | .get .. => isTrue trivial
  | .call .. => isTrue trivial
  | .resume .. => isTrue trivial
  | .claim .. => isTrue trivial
  | .act .. => isTrue trivial

/-! ## The claim invariant -/

/-- What holds between the steps of any workers whose writes keep spent rows
spent. -/
structure ClaimInv (s : System) : Prop where
  /-- A claimed row stays spent. -/
  spent : ∀ e ∈ s.claims, ∃ row, s.rows e.id = some row ∧ row.Spent
  /-- An approval is claimed once. -/
  single : ∀ e ∈ s.claims, ∀ e' ∈ s.claims, e.id = e'.id → e = e'
  /-- Only a claimed approval is executed. -/
  claimed : ∀ e ∈ s.executions, e ∈ s.claims
  /-- A call executes once. -/
  nodup : s.executions.Nodup
  /-- A call about to act has claimed and has not acted. -/
  acting : ∀ c id obj ws args, s.frames c = some ⟨id, obj, ws, .act args⟩ →
    ⟨c, id⟩ ∈ s.claims ∧ ⟨c, id⟩ ∉ s.executions

theorem start_claimInv : ClaimInv System.start where
  spent := by simp [System.start]
  single := by simp [System.start]
  claimed := by simp [System.start]
  nodup := by simp [System.start]
  acting := by simp [System.start]

section

variable {d : Deployment} {s s' : System} {c : Nat}

/-- A step that leaves the rows and the history as they are and moves its call to
no action keeps the invariant. -/
theorem ClaimInv.moveCall (hinv : ClaimInv s) (hrows : s'.rows = s.rows)
    (hclaims : s'.claims = s.claims) (hexecutions : s'.executions = s.executions) {f : Frame}
    (hframes : s'.frames = Function.update s.frames c (some f))
    (hnext : ∀ args, f.next ≠ .act args) :
    ClaimInv s' where
  spent := by
    rw [hrows, hclaims]
    exact hinv.spent
  single := by
    rw [hclaims]
    exact hinv.single
  claimed := by
    rw [hclaims, hexecutions]
    exact hinv.claimed
  nodup := by
    rw [hexecutions]
    exact hinv.nodup
  acting := by
    intro c' id obj ws args hframe
    rw [hclaims, hexecutions]
    rw [hframes, Function.update_apply] at hframe
    split_ifs at hframe with hc
    · cases hframe
      exact absurd rfl (hnext args)
    · exact hinv.acting c' id obj ws args hframe

/-- A write that keeps spent rows spent keeps the invariant. -/
theorem ClaimInv.write (hinv : ClaimInv s) {now : Instant} {stored : Bool}
    (hkeep : KeepsSpent s (.write c now stored)) (h : writeStep s c now stored = some s') :
    ClaimInv s' := by
  rcases write_inv h with ⟨id, obj, w, rest, next, r, hframe, hr, rfl⟩
  rcases @writeBack_kept s obj (w.apply now r) stored with ⟨hclaims, hexecutions, hframes, -⟩
  have hrows : ∀ e ∈ s.claims, ∃ row,
      (s.writeBack obj (w.apply now r) stored).rows e.id = some row ∧ row.Spent := by
    intro e he
    rcases hinv.spent e he with ⟨row, hrow, hspent⟩
    rw [writeBack_rows, apply_approvalId]
    by_cases hwritten : stored = true ∧ e.id = r.approvalId
    · rw [if_pos hwritten]
      refine ⟨_, rfl, upsertRow_spent.mpr ?_⟩
      rw [hwritten.1] at hkeep
      rw [hwritten.2] at hrow
      exact hkeep (w, r) (by simp [System.nextWrite, hframe, hr]) row hrow hspent
    · rw [if_neg hwritten]
      exact ⟨row, hrow, hspent⟩
  have hclaims' : ((s.writeBack obj (w.apply now r) stored).setFrame c
      ⟨id, obj, rest, next⟩).claims = s.claims := hclaims
  have hexecutions' : ((s.writeBack obj (w.apply now r) stored).setFrame c
      ⟨id, obj, rest, next⟩).executions = s.executions := hexecutions
  refine ⟨?_, ?_, ?_, ?_, ?_⟩
  · rw [hclaims']
    exact hrows
  · rw [hclaims']
    exact hinv.single
  · rw [hclaims', hexecutions']
    exact hinv.claimed
  · rw [hexecutions']
    exact hinv.nodup
  · intro c' id' obj' ws args hframe'
    rw [hclaims', hexecutions']
    simp only [System.setFrame, hframes, Function.update_apply] at hframe'
    split_ifs at hframe' with hc
    · cases hframe'
      rw [hc]
      exact hinv.acting c _ _ _ args hframe
    · exact hinv.acting c' id' obj' ws args hframe'

/-- A claim keeps the invariant: the row it takes was not spent, so its approval was
not claimed before. -/
theorem ClaimInv.claim (hinv : ClaimInv s) {tokenHash : String} {now : Instant}
    (h : claimStep s c tokenHash now = some s') : ClaimInv s' := by
  rcases claim_inv h with ⟨id, obj, args, hframe, ⟨row, hrow, hclaimable, rfl⟩ | rfl⟩
  · have hfirst : ∀ e ∈ s.claims, e.id ≠ id := by
      intro e he hid
      rcases hinv.spent e he with ⟨row', hrow', hspent⟩
      rw [hid, hrow] at hrow'
      cases hrow'
      exact hspent.not_claimable hclaimable
    refine ⟨?_, ?_, ?_, hinv.nodup, ?_⟩
    · intro e he
      rcases List.mem_cons.mp he with rfl | he
      · exact ⟨_, Function.update_self _ _ _, claimRow_spent args tokenHash now row⟩
      · rcases hinv.spent e he with ⟨row', hrow', hspent⟩
        exact ⟨row', by simpa [System.setFrame, hfirst e he] using hrow', hspent⟩
    · intro e he e' he' hid
      rcases List.mem_cons.mp he with rfl | he
      · rcases List.mem_cons.mp he' with rfl | he'
        · rfl
        · exact absurd hid.symm (hfirst e' he')
      · rcases List.mem_cons.mp he' with rfl | he'
        · exact absurd hid (hfirst e he)
        · exact hinv.single e he e' he' hid
    · intro e he
      exact List.mem_cons_of_mem _ (hinv.claimed e he)
    · intro c' id' obj' ws args' hframe'
      simp only [System.setFrame, Function.update_apply] at hframe'
      split_ifs at hframe' with hc
      · cases hframe'
        rw [hc]
        refine ⟨List.mem_cons_self, ?_⟩
        intro hacted
        exact hfirst _ (hinv.claimed _ hacted) rfl
      · rcases hinv.acting c' id' obj' ws args' hframe' with ⟨hclaimed, hunacted⟩
        exact ⟨List.mem_cons_of_mem _ hclaimed, hunacted⟩
  · exact hinv.moveCall rfl rfl rfl rfl (by simp)

/-- An action keeps the invariant: its call has not acted before. -/
theorem ClaimInv.act (hinv : ClaimInv s) {succeeded : Bool}
    (h : actStep s c succeeded = some s') : ClaimInv s' := by
  rcases act_inv h with ⟨id, obj, args, hframe, rfl⟩
  rcases hinv.acting c id obj [] args hframe with ⟨hclaimed, hunacted⟩
  refine ⟨hinv.spent, hinv.single, ?_, List.nodup_cons.mpr ⟨hunacted, hinv.nodup⟩, ?_⟩
  · intro e he
    rcases List.mem_cons.mp he with rfl | he
    · exact hclaimed
    · exact hinv.claimed e he
  · intro c' id' obj' ws args' hframe'
    simp only [System.setFrame, Function.update_apply] at hframe'
    split_ifs at hframe' with hc
    · cases hframe'
    · rcases hinv.acting c' id' obj' ws args' hframe' with ⟨hclaimed', hunacted'⟩
      refine ⟨hclaimed', ?_⟩
      intro hacted
      rcases List.mem_cons.mp hacted with heq | hacted
      · exact hc (congrArg Execution.call heq)
      · exact hunacted' hacted

/-- A step keeps the claim invariant when its write back keeps spent rows spent. -/
theorem step_claimInv {a : Step} (hinv : ClaimInv s) (hkeep : KeepsSpent s a)
    (h : step d s a = some s') : ClaimInv s' := by
  cases a with
  | create worker c approvalId freshRequest freshCorrelation expiryMinutes now args =>
      rcases create_inv h with ⟨-, -, rfl⟩
      exact hinv.moveCall rfl rfl rfl rfl (by simp)
  | fetch c selection =>
      cases h
      exact ⟨hinv.spent, hinv.single, hinv.claimed, hinv.nodup, hinv.acting⟩
  | cacheFetched worker c =>
      simp only [step] at h
      split at h
      · cases h
        exact ⟨hinv.spent, hinv.single, hinv.claimed, hinv.nodup, hinv.acting⟩
      · cases h
  | get worker c id now =>
      rcases get_inv h with ⟨-, obj, r, -, -, rfl⟩
      exact hinv.moveCall rfl rfl rfl rfl (by simp)
  | call worker c id call now =>
      rcases get_inv h with ⟨-, obj, r, -, -, rfl⟩
      exact hinv.moveCall rfl rfl rfl rfl (by simp)
  | write c now stored => exact hinv.write hkeep h
  | resume c now executionExpiryMinutes =>
      rcases resume_inv h with ⟨id, obj, next, r, after, hframe, hr, hafter, rfl⟩
      exact hinv.moveCall rfl rfl rfl rfl (afterCheck_next hafter)
  | claim c tokenHash now => exact hinv.claim h
  | act c succeeded => exact hinv.act h

end

/-- In every run of any workers whose writes never put an unspent record over a spent
row, each approval is executed at most once. -/
theorem single_execution (d : Deployment) (steps : List Step) (s : System)
    (hrun : run (step d) System.start steps = some s)
    (hkeeps : Respects (step d) KeepsSpent System.start steps) (id : String) :
    (s.executions.filter (fun e => e.id = id)).length ≤ 1 := by
  have hinv : ClaimInv s :=
    invariant_of_run (fun _ _ _ => step_claimInv) start_claimInv hkeeps hrun
  have hnodup := hinv.nodup.filter (fun e => decide (e.id = id))
  have hsame : ∀ e ∈ s.executions.filter (fun e => e.id = id),
      ∀ e' ∈ s.executions.filter (fun e => e.id = id), e = e' := by
    intro e he e' he'
    rw [List.mem_filter, decide_eq_true_eq] at he he'
    exact hinv.single e (hinv.claimed e he.1) e' (hinv.claimed e' he'.1) (he.2.trans he'.2.symm)
  rcases hfilter : s.executions.filter (fun e => e.id = id) with - | ⟨e, - | ⟨e', rest⟩⟩
  · rw [hfilter]
    simp
  · rw [hfilter]
    simp
  · rw [hfilter] at hnodup hsame
    have heq : e = e' := hsame e (by simp) e' (by simp)
    rw [heq] at hnodup
    simp at hnodup

/-! ## Runs of two workers -/

/-- The code of a counter in the example deployment. -/
def sampleToken (counter : Int) : String :=
  String.ofList ['1', '0', '0', '0', '0', Char.ofNat (48 + (counter % 10).toNat)]

/-- A deployment in which every user shares one secret. -/
def sampleDeployment : Deployment where
  py := asciiText
  totpSecret := fun _ _ => some "secret"
  hotpToken := fun _ counter => some (sampleToken counter)
  bindingHash := fun _ _ _ _ _ => "binding"

/-- An administrator of tenant 1. -/
def sampleCaller : Caller where
  tenantId := some 1
  email := some "admin@example.com"
  sub := none

/-- A request for tenant 1. -/
def sampleArgs : CreateArgs where
  query := "export the ledger"
  riskLevel := "HIGH"
  sessionId := "session-1"
  tenantId := some 1
  requestId := some "request-1"
  reason := none
  executionTarget := none

/-- The time of the example runs, in interval 100. -/
def sampleNow : Instant := 3000000000

/-- Stored writes of a call. -/
def storedWrites (c n : Nat) : List Step :=
  List.replicate n (.write c sampleNow true)

/-- A worker creates the approval {lit}`a1`. -/
def createSteps (worker c : Nat) : List Step :=
  .create worker c "a1" "" "" 30 sampleNow sampleArgs :: storedWrites c 2

/-- A worker approves it with the code of a counter. -/
def approveSteps (worker c : Nat) (counter : Int) : List Step :=
  [.call worker c "a1"
      ⟨.approve, sampleCaller, .fields none (some (sampleToken counter)), true⟩ sampleNow,
    .resume c sampleNow 10, .resume c sampleNow 10] ++ storedWrites c 9

/-- A worker executes it with the code of a counter. -/
def executeSteps (worker c : Nat) (counter : Int) (succeeded : Bool) : List Step :=
  [.call worker c "a1"
      ⟨.execute, sampleCaller, .fields none (some (sampleToken counter)), true⟩ sampleNow,
    .resume c sampleNow 10, .resume c sampleNow 10, .claim c "token" sampleNow] ++
    storedWrites c 8 ++ [.act c succeeded] ++ storedWrites c (if succeeded then 3 else 2)

/-- One worker creates, approves and executes. -/
theorem single_execution_one_worker :
    ∃ s, run (step sampleDeployment) System.start
        (createSteps 0 0 ++ approveSteps 0 1 100 ++ executeSteps 0 2 101 true) = some s ∧
      s.executions = [⟨2, "a1"⟩] ∧
      (s.executions.filter (fun e => e.id = "a1")).length ≤ 1 := by
  have hexecuted : (run (step sampleDeployment) System.start
      (createSteps 0 0 ++ approveSteps 0 1 100 ++ executeSteps 0 2 101 true)).map
        System.executions = some [⟨2, "a1"⟩] := by
    decide +kernel
  rcases Option.map_eq_some_iff.mp hexecuted with ⟨s, hrun, hexecutions⟩
  exact ⟨s, hrun, hexecutions,
    single_execution sampleDeployment _ s hrun (by decide +kernel) "a1"⟩

/-- The first worker executes the approval while a second one still caches the pending
record; the second approves that record, which puts it back over the executed row, and
executes again. -/
theorem executed_twice :
    ¬ ∀ (steps : List Step) (s : System),
      run (step sampleDeployment) System.start steps = some s →
      ∀ id, (s.executions.filter (fun e => e.id = id)).length ≤ 1 := by
  intro h
  have hexecuted : (run (step sampleDeployment) System.start
      (createSteps 0 0 ++ [.fetch 1 (.one "a1"), .cacheFetched 1 1] ++ approveSteps 0 2 100 ++
        executeSteps 0 3 101 true ++ approveSteps 1 4 100 ++ executeSteps 1 5 101 true)).map
        System.executions = some [⟨5, "a1"⟩, ⟨3, "a1"⟩] := by
    decide +kernel
  rcases Option.map_eq_some_iff.mp hexecuted with ⟨s, hrun, hexecutions⟩
  have honce := h _ s hrun "a1"
  rw [hexecutions] at honce
  simp at honce

end AuthClaw.Approvals
