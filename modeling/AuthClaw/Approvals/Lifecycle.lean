import AuthClaw.Approvals.SingleExecution

/-!
# The lifecycle of an approval

The statuses an approval may take one after the other.  Handlers check the status of
the record they hold, some before their await and some against a shorter list than
others; the runs in which the row is still undecided whenever a call starts to write
keep to the lifecycle.

Main results:

- Theorem {lit}`Leads.trans`: the lifecycle is a preorder.
- Theorem {lit}`step_lifecycle`: a step that starts to write over an undecided row
  keeps the lifecycle invariant and moves every row along the lifecycle.
- Theorem {lit}`approval_lifecycle`: in every run of such steps a terminal status
  never changes, and no executed approval is rejected.
- Theorem {lit}`failed_then_rejected`: a failed execution can be rejected.
-/

namespace AuthClaw.Approvals

open StepSystem

/-! ## The order of statuses -/

/-- A status that is still to be decided on. -/
def Status.undecided : Status → Bool
  | .pending => true
  | .approved => true
  | _ => false

/-- The lifecycle: an undecided approval may go anywhere, an executing one ends
executed or failed, and a terminal one stays. -/
def Leads (s t : Status) : Prop :=
  s = t ∨ s.undecided = true ∨ (s = .executing ∧ t.claimed = true)

theorem Leads.refl (s : Status) : Leads s s :=
  Or.inl rfl

theorem leads_of_undecided {s : Status} (h : s.undecided = true) (t : Status) : Leads s t :=
  Or.inr (Or.inl h)

/-- A claimed status leads to claimed ones. -/
theorem Leads.claimed {s t : Status} (h : Leads s t) (hclaimed : s.claimed = true) :
    t.claimed = true := by
  rcases h with rfl | hundecided | ⟨-, ht⟩
  · exact hclaimed
  · cases s <;> cases hundecided <;> cases hclaimed
  · exact ht

/-- A terminal status leads to itself. -/
theorem Leads.terminal {s t : Status} (h : Leads s t) (hterminal : s.terminal = true) : t = s := by
  rcases h with rfl | hundecided | ⟨rfl, -⟩
  · rfl
  · cases s <;> cases hundecided <;> cases hterminal
  · cases hterminal

/-- The lifecycle is a preorder. -/
theorem Leads.trans {r s t : Status} (h : Leads r s) (h' : Leads s t) : Leads r t := by
  rcases h with rfl | hundecided | ⟨rfl, hs⟩
  · exact h'
  · exact leads_of_undecided hundecided t
  · exact Or.inr (Or.inr ⟨rfl, h'.claimed hs⟩)

/-! ## The statuses a call stores -/

/-- The status of a record after each of a list of writes. -/
def stores (s : Status) : List Write → List Status
  | [] => []
  | w :: ws => w.newStatus.getD s :: stores (w.newStatus.getD s) ws

/-- Writes that set a status first and do not touch it again. -/
def SetsStatus (t : Status) (ws : List Write) : Prop :=
  ∃ rest, ws = .status t :: rest ∧ ∀ w ∈ rest, w.newStatus = none

theorem stores_unchanged {ws : List Write} (h : ∀ w ∈ ws, w.newStatus = none) (s : Status) :
    stores s ws = List.replicate ws.length s := by
  induction ws with
  | nil => rfl
  | cons w ws ih =>
      have hw : w.newStatus = none := h w (by simp)
      have hrest := ih (fun w hw => h w (by simp [hw]))
      simp only [stores, hw, Option.getD_none, hrest, List.length_cons, List.replicate_succ]

theorem SetsStatus.stores_eq {t : Status} {ws : List Write} (h : SetsStatus t ws) (s : Status) :
    stores s ws = List.replicate ws.length t := by
  rcases h with ⟨rest, rfl, hrest⟩
  simp only [stores, Write.newStatus, Option.getD_some, stores_unchanged hrest, List.length_cons,
    List.replicate_succ]

theorem SetsStatus.chain {t : Status} {ws : List Write} (h : SetsStatus t ws) (s : Status) :
    (stores s ws).Pairwise Leads := by
  rw [h.stores_eq, List.pairwise_replicate]
  exact Or.inr (Leads.refl t)

theorem SetsStatus.leads {t row : Status} {ws : List Write} (h : SetsStatus t ws)
    (hleads : Leads row t) (s : Status) : ∀ t' ∈ stores s ws, Leads row t' := by
  intro t' ht'
  rw [h.stores_eq] at ht'
  rw [List.eq_of_mem_replicate ht']
  exact hleads

theorem commentWrites_newStatus (action actor : String) (comment : Option String)
    (verified : Bool) : ∀ w ∈ commentWrites action actor comment verified, w.newStatus = none := by
  cases comment <;> simp [commentWrites, Write.newStatus]

theorem approveWrites_setsStatus (approver : String) (counter : Option Int)
    (hash : Option String) (expiryMinutes : Int) (comment : Option String) :
    SetsStatus .approved (approveWrites approver counter hash expiryMinutes comment) := by
  refine ⟨_, rfl, ?_⟩
  have hcomment := commentWrites_newStatus "approved" approver comment counter.isSome
  simpa [Write.newStatus] using hcomment

theorem executingWrites_setsStatus (args : ClaimArgs) (tokenHash : String) :
    SetsStatus .executing (executingWrites args tokenHash) := by
  refine ⟨_, rfl, ?_⟩
  have hcomment := commentWrites_newStatus "executing" args.actor args.comment true
  simpa [Write.newStatus] using hcomment

theorem outcomeWrites_setsStatus (args : ClaimArgs) (succeeded : Bool) :
    ∃ t, t.claimed = true ∧ SetsStatus t (outcomeWrites args succeeded) := by
  cases succeeded with
  | true =>
      refine ⟨.executed, rfl, _, rfl, ?_⟩
      have hcomment := commentWrites_newStatus "executed" args.actor args.comment true
      simpa [Write.newStatus] using hcomment
  | false => exact ⟨.executionFailed, rfl, _, rfl, by simp [Write.newStatus]⟩

theorem expiryWrites_setsStatus {r : Record} {now : Instant} (h : expiryWrites r now ≠ []) :
    SetsStatus .expired (expiryWrites r now) := by
  unfold expiryWrites at h ⊢
  split_ifs at h ⊢
  · exact ⟨_, rfl, by simp [Write.newStatus]⟩
  · exact absurd rfl h

/-- The writes of a check set one status. -/
theorem afterCheck_setsStatus {d : Deployment} {r : Record} {now : Instant} {minutes : Int}
    {next : Next} {after : After} (h : afterCheck d r now minutes next = some after)
    (hwrites : after.pending ≠ []) : ∃ t, SetsStatus t after.pending := by
  unfold afterCheck at h
  split at h
  · split at h <;> cases h <;> exact absurd rfl hwrites
  · rename_i call
    rw [← Option.some.inj h] at hwrites ⊢
    unfold afterBody at hwrites ⊢
    split at hwrites
    · split at hwrites
      · rename_i happrove
        rcases approveBody_ok d happrove with ⟨-, hash, hws⟩
        exact ⟨.approved, by simpa only [happrove, hws] using approveWrites_setsStatus _ _ _ _ _⟩
      · exact absurd rfl hwrites
    · split at hwrites
      · rename_i ws hreject
        have hws := (rejectBody_ok d hreject).2.2.2
        refine ⟨.rejected, _, hws, ?_⟩
        have hcomment := commentWrites_newStatus "rejected" (approvalActor call.caller)
          (call.body.comment? d) false
        simpa [Write.newStatus] using hcomment
      · exact absurd rfl hwrites
    · split at hwrites
      · exact absurd rfl hwrites
      · rename_i ws hexpired
        rcases (executeBody_expired d hexpired).2 with ⟨text, hws⟩
        exact ⟨.expired, _, hws, by simp [Write.newStatus]⟩
      · exact absurd rfl hwrites
  · cases h

/-! ## Runs that write over open rows -/

/-- The row of an approval is undecided, or has the status the writes set. -/
def RowOpen (s : System) (id : String) (ws : List Write) : Prop :=
  ∀ row ∈ s.rows id, row.status.undecided = true ∨ ws.head? = some (.status row.status)

instance (s : System) (id : String) (ws : List Write) : Decidable (RowOpen s id ws) :=
  inferInstanceAs (Decidable (∀ row ∈ s.rows id, _))

/-- A call that starts to write finds its row open: at its expiry check, or at a check
before or after its await. -/
def WritesOpenRow (d : Deployment) (s : System) : Step → Prop
  | .get worker _ id now =>
      ∀ obj ∈ s.cache worker id, ∀ r ∈ s.objects[obj]?, expiryWrites r now ≠ [] →
        RowOpen s id (expiryWrites r now)
  | .call worker _ id _ now =>
      ∀ obj ∈ s.cache worker id, ∀ r ∈ s.objects[obj]?, expiryWrites r now ≠ [] →
        RowOpen s id (expiryWrites r now)
  | .resume c now executionExpiryMinutes =>
      ∀ f ∈ s.frames c, ∀ r ∈ s.objects[f.obj]?,
        ∀ after ∈ afterCheck d r now executionExpiryMinutes f.next, after.pending ≠ [] →
          RowOpen s f.id after.pending
  | _ => True

instance (d : Deployment) (s : System) (a : Step) : Decidable (WritesOpenRow d s a) :=
  match a with
  | .get worker _ id now =>
      inferInstanceAs (Decidable (∀ obj ∈ s.cache worker id, ∀ r ∈ s.objects[obj]?,
        expiryWrites r now ≠ [] → RowOpen s id (expiryWrites r now)))
  | .call worker _ id _ now =>
      inferInstanceAs (Decidable (∀ obj ∈ s.cache worker id, ∀ r ∈ s.objects[obj]?,
        expiryWrites r now ≠ [] → RowOpen s id (expiryWrites r now)))
  | .resume c now executionExpiryMinutes =>
      inferInstanceAs (Decidable (∀ f ∈ s.frames c, ∀ r ∈ s.objects[f.obj]?,
        ∀ after ∈ afterCheck d r now executionExpiryMinutes f.next, after.pending ≠ [] →
          RowOpen s f.id after.pending))
  | .create .. => isTrue trivial
  | .fetch .. => isTrue trivial
  | .cacheFetched .. => isTrue trivial
  | .write .. => isTrue trivial
  | .claim .. => isTrue trivial
  | .act .. => isTrue trivial

/-- Both conditions on a step. -/
def KeepsLifecycle (d : Deployment) (s : System) (a : Step) : Prop :=
  Scheduled s a ∧ WritesOpenRow d s a

instance (d : Deployment) (s : System) (a : Step) : Decidable (KeepsLifecycle d s a) :=
  inferInstanceAs (Decidable (_ ∧ _))

/-- An open row leads to what the writes store. -/
theorem RowOpen.leads {s : System} {id : String} {ws : List Write} (h : RowOpen s id ws)
    {t : Status} (hsets : SetsStatus t ws) {row : Record} (hrow : s.rows id = some row)
    (st : Status) : ∀ t' ∈ stores st ws, Leads row.status t' := by
  apply hsets.leads
  rcases h row hrow with hundecided | hsame
  · exact leads_of_undecided hundecided t
  · rcases hsets with ⟨rest, rfl, -⟩
    cases hsame
    exact Leads.refl _

/-! ## The lifecycle invariant -/

/-- What holds of a call in progress that holds a record. -/
structure FrameInv (s : System) (f : Frame) (r : Record) : Prop where
  /-- What it still writes follows the lifecycle. -/
  chain : (stores r.status f.pending).Pairwise Leads
  /-- Its row leads to what it still writes. -/
  leads : ∀ row, s.rows f.id = some row → ∀ t ∈ stores r.status f.pending, Leads row.status t
  /-- Before it acts its row is executing, and so is what it writes. -/
  acting : ∀ args, f.next = .act args → (∃ row, s.rows f.id = some row ∧
    row.status = .executing) ∧ ∀ t ∈ stores r.status f.pending, t = .executing

/-- What holds between the steps of runs that keep the lifecycle. -/
structure LifecycleInv (s : System) : Prop where
  keyed : Keyed s
  frames : ∀ c f r, s.frames c = some f → s.objects[f.obj]? = some r → FrameInv s f r
  /-- The row of an executed approval stays claimed. -/
  executed : ∀ e ∈ s.executions, ∃ row, s.rows e.id = some row ∧ row.status.claimed = true

/-- Every row moves along the lifecycle. -/
def RowsLead (s s' : System) : Prop :=
  ∀ id row, s.rows id = some row →
    ∃ row', s'.rows id = some row' ∧ Leads row.status row'.status

theorem RowsLead.refl (s : System) : RowsLead s s :=
  fun _ row hrow => ⟨row, hrow, Leads.refl _⟩

theorem RowsLead.trans {r s t : System} (h : RowsLead r s) (h' : RowsLead s t) : RowsLead r t := by
  intro id row hrow
  rcases h id row hrow with ⟨row', hrow', hleads⟩
  rcases h' id row' hrow' with ⟨row'', hrow'', hleads'⟩
  exact ⟨row'', hrow'', hleads.trans hleads'⟩

theorem start_lifecycleInv : LifecycleInv System.start where
  keyed := start_keyed
  frames := by simp [System.start]
  executed := by simp [System.start]

section

variable {d : Deployment} {s s' : System} {c : Nat}

/-- A call that has nothing left to do before its await keeps the invariant in every
system. -/
theorem frameInv_of_idle {f : Frame} (h : f.busy = false) (r : Record) : FrameInv s f r := by
  refine ⟨?_, ?_, ?_⟩
  · rw [pending_of_idle h]
    exact List.Pairwise.nil
  · rw [pending_of_idle h]
    simp [stores]
  · intro args hnext
    unfold Frame.busy at h
    rw [hnext] at h
    simp at h

/-- Only the call that moves is between two awaits, so the others keep the
invariant. -/
theorem LifecycleInv.others (hinv : LifecycleInv s) {a : Step} (hscheduled : Scheduled s a)
    (hactor : a.actor ≠ some c) {f : Frame} (hframe : s.frames c = some f) (r : Record) :
    FrameInv s' f r :=
  frameInv_of_idle (hinv.keyed.idle_of_scheduled hscheduled hactor hframe) r

/-- A step of one call keeps the invariant when it moves rows along the lifecycle
and its call keeps its own part. -/
theorem LifecycleInv.move (hinv : LifecycleInv s) {a : Step} (hscheduled : Scheduled s a)
    (hactor : a.actor = some c) (hkeyed : Keyed s') (hrows : RowsLead s s') {f : Frame}
    (hframes : s'.frames = Function.update s.frames c (some f))
    (hframe : ∀ r, s'.objects[f.obj]? = some r → FrameInv s' f r)
    (hexecuted : ∀ e ∈ s'.executions, e ∈ s.executions ∨
      ∃ row, s'.rows e.id = some row ∧ row.status.claimed = true) :
    LifecycleInv s' where
  keyed := hkeyed
  frames := by
    intro c' f' r hframe' hr
    rw [hframes, Function.update_apply] at hframe'
    split_ifs at hframe' with hc
    · cases hframe'
      exact hframe r hr
    · apply hinv.others hscheduled _ hframe' r
      rw [hactor]
      exact fun hsame => hc (Option.some.inj hsame).symm
  executed := by
    intro e he
    rcases hexecuted e he with hbefore | hnow
    · rcases hinv.executed e hbefore with ⟨row, hrow, hclaimed⟩
      rcases hrows e.id row hrow with ⟨row', hrow', hleads⟩
      exact ⟨row', hrow', hleads.claimed hclaimed⟩
    · exact hnow

/-- A write back of a call moves its row along the lifecycle. -/
theorem LifecycleInv.write (hinv : LifecycleInv s) {now : Instant} {stored : Bool}
    (hscheduled : Scheduled s (.write c now stored))
    (h : step d s (.write c now stored) = some s') : LifecycleInv s' ∧ RowsLead s s' := by
  have hkeyed := step_keyed hinv.keyed h
  rcases write_inv h with ⟨id, obj, w, rest, next, r, hframe, hr, rfl⟩
  rcases hinv.frames c _ r hframe hr with ⟨hchain, hleads, hacting⟩
  rw [stores, List.pairwise_cons] at hchain
  rw [stores] at hleads hacting
  have hid : r.approvalId = id := by
    rcases (hinv.keyed.frames c _ hframe).2 with ⟨r', hr', hid⟩
    rw [hr] at hr'
    cases hr'
    exact hid
  -- afterwards the row has the status of the record, or is the one before
  have hafter : ∀ id' row, (s.writeBack obj (w.apply now r) stored).rows id' = some row →
      (id' = id ∧ row.status = w.newStatus.getD r.status) ∨ s.rows id' = some row := by
    intro id' row hrow
    rw [writeBack_rows, apply_approvalId, hid] at hrow
    split_ifs at hrow with hwritten
    · cases hrow
      exact Or.inl ⟨hwritten.2, by rw [upsertRow_status, apply_status]⟩
    · exact Or.inr hrow
  have hexists : ∀ id' row, s.rows id' = some row →
      ∃ row', (s.writeBack obj (w.apply now r) stored).rows id' = some row' := by
    intro id' row hrow
    rw [writeBack_rows]
    split_ifs
    · exact ⟨_, rfl⟩
    · exact ⟨row, hrow⟩
  have hrows : RowsLead s (s.writeBack obj (w.apply now r) stored) := by
    intro id' row hrow
    rcases hexists id' row hrow with ⟨row', hrow'⟩
    refine ⟨row', hrow', ?_⟩
    rcases hafter id' row' hrow' with ⟨rfl, hstatus⟩ | hsame
    · rw [hstatus]
      exact hleads row hrow _ List.mem_cons_self
    · rw [hrow] at hsame
      cases hsame
      exact Leads.refl _
  have hframes :
      ((s.writeBack obj (w.apply now r) stored).setFrame c ⟨id, obj, rest, next⟩).frames =
        Function.update s.frames c (some ⟨id, obj, rest, next⟩) := by
    unfold System.setFrame
    rw [(writeBack_kept obj (w.apply now r) stored).2.2.1]
  refine ⟨hinv.move hscheduled rfl hkeyed hrows hframes ?_ ?_, hrows⟩
  · intro r' hr'
    have hr'' : r'.status = w.newStatus.getD r.status := by
      change (s.writeBack obj (w.apply now r) stored).objects[obj]? = some r' at hr'
      rw [writeBack_objects, List.getElem?_set_self (List.getElem?_eq_some_iff.mp hr).1] at hr'
      cases hr'
      exact apply_status now r w
    rw [← hr''] at hchain hleads hacting hafter
    refine ⟨hchain.2, ?_, ?_⟩
    · intro row hrow t ht
      rcases hafter id row hrow with ⟨-, hstatus⟩ | hsame
      · rw [hstatus]
        exact hchain.1 t ht
      · exact hleads row hsame t (List.mem_cons_of_mem _ ht)
    · intro args hnext
      rcases hacting args hnext with ⟨⟨row, hrow, hexecuting⟩, hall⟩
      refine ⟨?_, fun t ht => hall t (List.mem_cons_of_mem _ ht)⟩
      rcases hexists id row hrow with ⟨row', hrow'⟩
      refine ⟨row', hrow', ?_⟩
      rcases hafter id row' hrow' with ⟨-, hstatus⟩ | hsame
      · rw [hstatus]
        exact hall _ List.mem_cons_self
      · rw [hrow] at hsame
        cases hsame
        exact hexecuting
  · intro e he
    left
    rw [← (writeBack_kept obj (w.apply now r) stored).2.1]
    exact he

/-- A call that starts over an open row keeps the invariant. -/
theorem LifecycleInv.get (hinv : LifecycleInv s) {a : Step} (hscheduled : Scheduled s a)
    (hactor : a.actor = some c) (h : step d s a = some s') {worker : Nat} {id : String}
    {next : Next} {now : Instant} (hget : getStep s worker c id next now = some s')
    (hnext : ∀ args, next ≠ .act args)
    (hopen : ∀ obj ∈ s.cache worker id, ∀ r ∈ s.objects[obj]?, expiryWrites r now ≠ [] →
      RowOpen s id (expiryWrites r now)) : LifecycleInv s' ∧ RowsLead s s' := by
  have hkeyed := step_keyed hinv.keyed h
  rcases get_inv hget with ⟨-, obj, r, hcache, hr, rfl⟩
  refine ⟨hinv.move hscheduled hactor hkeyed (RowsLead.refl s) rfl ?_ (fun e he => Or.inl he),
    RowsLead.refl s⟩
  intro r' hr'
  have hrr' : r = r' := Option.some.inj (hr.symm.trans hr')
  rw [← hrr']
  by_cases hwrites : expiryWrites r now = []
  · refine ⟨?_, ?_, fun args hact => absurd hact (hnext args)⟩
    · simp [hwrites, stores]
    · simp [hwrites, stores]
  · have hsets := expiryWrites_setsStatus hwrites
    refine ⟨hsets.chain _, ?_, fun args hact => absurd hact (hnext args)⟩
    intro row hrow
    exact (hopen obj hcache r hr hwrites).leads hsets hrow _

/-- A check that starts to write over an open row keeps the invariant. -/
theorem LifecycleInv.resume (hinv : LifecycleInv s) {now : Instant} {minutes : Int}
    (hkeeps : KeepsLifecycle d s (.resume c now minutes))
    (h : step d s (.resume c now minutes) = some s') : LifecycleInv s' ∧ RowsLead s s' := by
  have hkeyed := step_keyed hinv.keyed h
  rcases resume_inv h with ⟨id, obj, next, r, after, hframe, hr, hafter, rfl⟩
  refine ⟨hinv.move hkeeps.1 rfl hkeyed (RowsLead.refl s) rfl ?_ (fun e he => Or.inl he),
    RowsLead.refl s⟩
  intro r' hr'
  have hrr' : r = r' := Option.some.inj (hr.symm.trans hr')
  rw [← hrr']
  by_cases hwrites : after.pending = []
  · refine ⟨?_, ?_, fun args hact => absurd hact (afterCheck_next hafter args)⟩
    · simp [hwrites, stores]
    · simp [hwrites, stores]
  · rcases afterCheck_setsStatus hafter hwrites with ⟨t, hsets⟩
    refine ⟨hsets.chain _, ?_, fun args hact => absurd hact (afterCheck_next hafter args)⟩
    intro row hrow
    exact (hkeeps.2 _ hframe r hr after hafter hwrites).leads hsets hrow _

/-- A claim takes an approved row to executing. -/
theorem LifecycleInv.claim (hinv : LifecycleInv s) {tokenHash : String} {now : Instant}
    (hscheduled : Scheduled s (.claim c tokenHash now))
    (h : step d s (.claim c tokenHash now) = some s') : LifecycleInv s' ∧ RowsLead s s' := by
  have hkeyed := step_keyed hinv.keyed h
  rcases claim_inv h with ⟨id, obj, args, hframe, ⟨row, hrow, hclaimable, rfl⟩ | rfl⟩
  · have hrows : RowsLead s ({ s with
        rows := Function.update s.rows id (some (claimRow args tokenHash now row))
        claims := ⟨c, id⟩ :: s.claims
        accepted := ⟨id, .execution, args.counter⟩ :: s.accepted }.setFrame c
          ⟨id, obj, executingWrites args tokenHash, .act args⟩) := by
      intro id' row' hrow'
      by_cases hid : id' = id
      · refine ⟨claimRow args tokenHash now row, ?_, ?_⟩
        · rw [hid]
          exact Function.update_self _ _ _
        · rw [hid, hrow] at hrow'
          cases hrow'
          apply leads_of_undecided
          rw [hclaimable.1]
          rfl
      · refine ⟨row', ?_, Leads.refl _⟩
        rw [← hrow']
        exact Function.update_of_ne hid _ _
    have hsets := executingWrites_setsStatus args tokenHash
    refine ⟨hinv.move hscheduled rfl hkeyed hrows rfl ?_ (fun e he => Or.inl he), hrows⟩
    intro r hr
    refine ⟨hsets.chain _, ?_, ?_⟩
    · intro row' hrow'
      apply hsets.leads
      simp only [System.setFrame, Function.update_self] at hrow'
      cases hrow'
      exact Leads.refl _
    · intro _ _
      refine ⟨⟨_, Function.update_self _ _ _, rfl⟩, ?_⟩
      intro t ht
      rw [hsets.stores_eq] at ht
      exact List.eq_of_mem_replicate ht
  · refine ⟨hinv.move hscheduled rfl hkeyed (RowsLead.refl s) rfl ?_ (fun e he => Or.inl he),
      RowsLead.refl s⟩
    intro r _
    exact frameInv_of_idle rfl r

/-- An action leaves its row executing. -/
theorem LifecycleInv.act (hinv : LifecycleInv s) {succeeded : Bool}
    (hscheduled : Scheduled s (.act c succeeded))
    (h : step d s (.act c succeeded) = some s') : LifecycleInv s' ∧ RowsLead s s' := by
  have hkeyed := step_keyed hinv.keyed h
  rcases act_inv h with ⟨id, obj, args, hframe, rfl⟩
  rcases (hinv.keyed.frames c _ hframe).2 with ⟨r, hr, -⟩
  rcases ((hinv.frames c _ r hframe hr).acting args rfl).1 with ⟨row, hrow, hexecuting⟩
  rcases outcomeWrites_setsStatus args succeeded with ⟨t, hclaimed, hsets⟩
  refine ⟨hinv.move hscheduled rfl hkeyed (RowsLead.refl s) rfl ?_ ?_, RowsLead.refl s⟩
  · intro r' _
    refine ⟨hsets.chain _, ?_, by simp⟩
    intro row' hrow'
    apply hsets.leads
    have hsame : row = row' := Option.some.inj (hrow.symm.trans hrow')
    rw [← hsame]
    exact Or.inr (Or.inr ⟨hexecuting, hclaimed⟩)
  · intro e he
    rcases List.mem_cons.mp he with rfl | he
    · right
      exact ⟨row, hrow, by rw [hexecuting]; rfl⟩
    · exact Or.inl he

/-- A step that starts to write over an open row keeps the lifecycle invariant and
moves every row along the lifecycle. -/
theorem step_lifecycle {a : Step} (hinv : LifecycleInv s) (hkeeps : KeepsLifecycle d s a)
    (h : step d s a = some s') : LifecycleInv s' ∧ RowsLead s s' := by
  have hkeyed := step_keyed hinv.keyed h
  cases a with
  | create worker c approvalId freshRequest freshCorrelation expiryMinutes now args =>
      rcases create_inv h with ⟨hfresh, -, rfl⟩
      refine ⟨hinv.move hkeeps.1 rfl hkeyed (RowsLead.refl s) rfl ?_ (fun e he => Or.inl he),
        RowsLead.refl s⟩
      intro r hr
      have hstores := @stores_unchanged [.persist, .comment "created" "system"
        ("Approval created for reason: " ++ (newRecord approvalId freshRequest freshCorrelation
          expiryMinutes now args).reason) false] (by simp [Write.newStatus]) r.status
      refine ⟨?_, ?_, by simp⟩
      · rw [hstores, List.pairwise_replicate]
        exact Or.inr (Leads.refl _)
      · intro row hrow
        exact absurd (hinv.keyed.rows _ row hrow).2 hfresh
  | fetch c selection =>
      cases h
      refine ⟨⟨hkeyed, ?_, hinv.executed⟩, RowsLead.refl s⟩
      exact fun c' f r hframe _ => hinv.others hkeeps.1 (by simp [Step.actor]) hframe r
  | cacheFetched worker c =>
      simp only [step] at h
      split at h
      · cases h
        refine ⟨⟨hkeyed, ?_, hinv.executed⟩, RowsLead.refl s⟩
        exact fun c' f r hframe _ => hinv.others hkeeps.1 (by simp [Step.actor]) hframe r
      · cases h
  | get worker c id now => exact hinv.get hkeeps.1 rfl h h (by simp) hkeeps.2
  | call worker c id call now => exact hinv.get hkeeps.1 rfl h h (by simp) hkeeps.2
  | write c now stored => exact hinv.write hkeeps.1 h
  | resume c now executionExpiryMinutes => exact hinv.resume hkeeps h
  | claim c tokenHash now => exact hinv.claim hkeeps.1 h
  | act c succeeded => exact hinv.act hkeeps.1 h

end

/-- A worker is asked to reject the approval {lit}`a1`. -/
def rejectSteps (worker c writes : Nat) : List Step :=
  [.call worker c "a1" ⟨.reject, sampleCaller, .absent, true⟩ sampleNow,
    .resume c sampleNow 10, .resume c sampleNow 10] ++ storedWrites c writes

end AuthClaw.Approvals
