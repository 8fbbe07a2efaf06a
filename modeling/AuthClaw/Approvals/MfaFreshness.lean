import AuthClaw.Approvals.Lifecycle

/-!
# Freshness of codes

An accepted code is known by the counter of its interval.  Each stage keeps the last
counter it accepted and refuses that one only, in a window of three; an approval that
is repeated overwrites the counter it keeps.  The runs in which every presented code is
as new as the kept counters accept each counter once.

Main results:

- Theorem {lit}`step_freshInv`: a step that presents its code in order keeps the
  accepted counters increasing.
- Theorem {lit}`codes_fresh`: in every run of such calls no counter is accepted twice,
  and an execution accepts a newer one than every approval before it.
- Theorem {lit}`code_accepted_twice`: three approvals accept one counter twice.
-/

namespace AuthClaw.Approvals

open StepSystem

/-! ## Kept counters -/

/-- The counters kept for the approval and for the execution. -/
def Record.kept (r : Record) : Option Int × Option Int :=
  (r.approvalMfaCounter, r.executionMfaCounter)

/-- The counters kept once the writes are made. -/
def settle : Option Int × Option Int → List Write → Option Int × Option Int
  | k, [] => k
  | k, w :: ws => settle (w.newApprovalCounter.getD k.1, w.newExecutionCounter.or k.2) ws

/-- Writes that keep no counter. -/
def KeepsNoCounter (ws : List Write) : Prop :=
  ∀ w ∈ ws, w.newApprovalCounter = none ∧ w.newExecutionCounter = none

theorem settle_append (k : Option Int × Option Int) (ws ws' : List Write) :
    settle k (ws ++ ws') = settle (settle k ws) ws' := by
  induction ws generalizing k with
  | nil => rfl
  | cons w ws ih => exact ih _

theorem KeepsNoCounter.settle {ws : List Write} (h : KeepsNoCounter ws)
    (k : Option Int × Option Int) : settle k ws = k := by
  induction ws generalizing k with
  | nil => rfl
  | cons w ws ih =>
      rcases h w (by simp) with ⟨happroval, hexecution⟩
      have hrest := ih (fun w hw => h w (by simp [hw])) k
      simpa only [Approvals.settle, happroval, hexecution, Option.getD_none, Option.none_or]
        using hrest

theorem commentWrites_keepsNoCounter (action actor : String) (comment : Option String)
    (verified : Bool) : KeepsNoCounter (commentWrites action actor comment verified) := by
  cases comment <;> simp [KeepsNoCounter, commentWrites, Write.newApprovalCounter,
    Write.newExecutionCounter]

theorem expiryWrites_keepsNoCounter (r : Record) (now : Instant) :
    KeepsNoCounter (expiryWrites r now) := by
  unfold expiryWrites
  split_ifs
  · simp [KeepsNoCounter, Write.newApprovalCounter, Write.newExecutionCounter]
  · simp [KeepsNoCounter]

theorem outcomeWrites_keepsNoCounter (args : ClaimArgs) (succeeded : Bool) :
    KeepsNoCounter (outcomeWrites args succeeded) := by
  cases succeeded with
  | true =>
      have hcomment := commentWrites_keepsNoCounter "executed" args.actor args.comment true
      simpa [KeepsNoCounter, outcomeWrites, Write.newApprovalCounter,
        Write.newExecutionCounter] using hcomment
  | false =>
      simp [KeepsNoCounter, outcomeWrites, Write.newApprovalCounter, Write.newExecutionCounter]

theorem settle_approveWrites (k : Option Int × Option Int) (approver : String)
    (counter : Option Int) (hash : Option String) (expiryMinutes : Int) (comment : Option String) :
    settle k (approveWrites approver counter hash expiryMinutes comment) = (counter, k.2) := by
  unfold approveWrites
  rw [settle_append, (commentWrites_keepsNoCounter _ _ _ _).settle]
  rfl

theorem settle_executingWrites (k : Option Int × Option Int) (args : ClaimArgs)
    (tokenHash : String) :
    settle k (executingWrites args tokenHash) = (k.1, some args.counter) := by
  unfold executingWrites
  rw [settle_append, (commentWrites_keepsNoCounter _ _ _ _).settle]
  rfl

/-! ## Codes in order -/

/-- The counter of the code a call presents. -/
def presentedCounter (d : Deployment) (r : Record) (call : Call) (now : Instant) : Option Int := do
  let code ← call.body.mfaCode?.filter (· ≠ "")
  let secret ← (approvalTotpSecret d r call.caller).filter (· ≠ "")
  verifyTotp d secret code now

/-- A counter is as new as the one kept for the approval, and newer than the one kept
for the execution. -/
def InOrder (r : Record) (counter : Int) : Prop :=
  (∀ k ∈ r.approvalMfaCounter, k ≤ counter) ∧ ∀ k ∈ r.executionMfaCounter, k < counter

instance (r : Record) (counter : Int) : Decidable (InOrder r counter) :=
  inferInstanceAs (Decidable ((∀ k ∈ r.approvalMfaCounter, k ≤ counter) ∧ _))

/-- The call presents its code in order; without a required code it approves only while
no counter is kept. -/
def Call.InOrder (d : Deployment) (call : Call) (r : Record) (now : Instant) : Prop :=
  if call.handler = .approve ∧ call.requireMfa = false then r.approvalMfaCounter = none
  else ∀ counter ∈ presentedCounter d r call now, Approvals.InOrder r counter

instance (d : Deployment) (call : Call) (r : Record) (now : Instant) :
    Decidable (call.InOrder d r now) :=
  inferInstanceAs (Decidable (if call.handler = .approve ∧ call.requireMfa = false then
    r.approvalMfaCounter = none
    else ∀ counter ∈ presentedCounter d r call now, Approvals.InOrder r counter))

/-- A step that checks a code checks one presented in order. -/
def PresentsInOrder (d : Deployment) (s : System) : Step → Prop
  | .resume c now _ => ∀ f ∈ s.frames c, ∀ r ∈ s.objects[f.obj]?,
      match f.next with
      | .body call => call.InOrder d r now
      | _ => True
  | _ => True

instance (d : Deployment) (s : System) (a : Step) : Decidable (PresentsInOrder d s a) :=
  match a with
  | .resume c now _ =>
      have : ∀ (f : Frame) (r : Record), Decidable (match f.next with
          | .body call => call.InOrder d r now
          | _ => True) := fun f r =>
        match f.next with
        | .body call => inferInstanceAs (Decidable (call.InOrder d r now))
        | .guard _ => isTrue trivial
        | .claim _ => isTrue trivial
        | .act _ => isTrue trivial
        | .done => isTrue trivial
      inferInstanceAs (Decidable (∀ f ∈ s.frames c, ∀ r ∈ s.objects[f.obj]?,
        match f.next with
        | .body call => call.InOrder d r now
        | _ => True))
  | .create .. => isTrue trivial
  | .fetch .. => isTrue trivial
  | .cacheFetched .. => isTrue trivial
  | .get .. => isTrue trivial
  | .call .. => isTrue trivial
  | .write .. => isTrue trivial
  | .claim .. => isTrue trivial
  | .act .. => isTrue trivial

/-- The step belongs to an approve or execute call of one approval, in one process. -/
def Step.OnApproval (worker : Nat) (id : String) : Step → Prop
  | .call worker' _ id' made _ => worker' = worker ∧ id' = id ∧ made.handler ≠ .reject
  | .write .. => True
  | .resume .. => True
  | .claim .. => True
  | .act .. => True
  | _ => False

instance (worker : Nat) (id : String) (a : Step) : Decidable (a.OnApproval worker id) :=
  match a with
  | .call worker' _ id' made _ =>
      inferInstanceAs (Decidable (worker' = worker ∧ id' = id ∧ made.handler ≠ .reject))
  | .write .. => isTrue trivial
  | .resume .. => isTrue trivial
  | .claim .. => isTrue trivial
  | .act .. => isTrue trivial
  | .create .. => isFalse not_false
  | .fetch .. => isFalse not_false
  | .cacheFetched .. => isFalse not_false
  | .get .. => isFalse not_false

/-- Approve and execute calls of one approval, switched at awaits. -/
def CallsOn (worker : Nat) (id : String) (s : System) (a : Step) : Prop :=
  a.OnApproval worker id ∧ Scheduled s a

instance (worker : Nat) (id : String) (s : System) (a : Step) :
    Decidable (CallsOn worker id s a) :=
  inferInstanceAs (Decidable (_ ∧ _))

/-- A process that holds one approval. -/
def System.holding (worker : Nat) (r : Record) : System :=
  { System.start with
    rows := Function.update (fun _ => none) r.approvalId (some r)
    issued := [r.approvalId]
    objects := [r]
    cache := fun worker' id => if worker' = worker ∧ id = r.approvalId then some 0 else none }

/-- No counter is accepted twice, and an execution accepts a newer one than every
approval before it.  The list is newest first. -/
def FreshCodes (accepted : List Acceptance) : Prop :=
  (accepted.map Acceptance.counter).Nodup ∧
    ∀ newer e older, accepted = newer ++ e :: older → e.stage = .execution →
      ∀ a ∈ older, a.stage = .approval → a.counter < e.counter

/-- Increasing counters are fresh. -/
theorem freshCodes_of_pairwise {accepted : List Acceptance}
    (h : accepted.Pairwise (fun x y => y.counter < x.counter)) : FreshCodes accepted := by
  constructor
  · unfold List.Nodup
    rw [List.pairwise_map]
    exact h.imp (fun hlt => by omega)
  · rintro newer e older rfl - a ha -
    exact (List.pairwise_cons.mp (List.pairwise_append.mp h).2.1).1 a ha

/-! ## The freshness invariant -/

/-- Every accepted counter is at most a kept one. -/
def Bounded (accepted : List Acceptance) (k : Option Int × Option Int) : Prop :=
  ∀ x ∈ accepted, (∃ n, k.1 = some n ∧ x.counter ≤ n) ∨ ∃ n, k.2 = some n ∧ x.counter ≤ n

/-- What holds between the steps of calls that present their codes in order. -/
structure FreshInv (s : System) : Prop where
  keyed : Keyed s
  single : ∃ r, s.objects = [r]
  decreasing : s.accepted.Pairwise (fun x y => y.counter < x.counter)
  /-- While no call is between two awaits the record keeps what bounds the counters. -/
  settled : (∀ c f, s.frames c = some f → f.busy = false) → ∀ r ∈ s.objects,
    Bounded s.accepted r.kept
  /-- A call between two awaits is about to keep it. -/
  pending : ∀ c f, s.frames c = some f → f.busy = true → ∀ r ∈ s.objects,
    Bounded s.accepted (settle r.kept f.pending)
  /-- A call about to claim has a newer counter. -/
  claiming : ∀ c f args, s.frames c = some f → f.next = .claim args →
    f.pending = [] ∧ ∀ x ∈ s.accepted, x.counter < args.counter

theorem holding_freshInv (worker : Nat) (r : Record) : FreshInv (System.holding worker r) := by
  refine ⟨⟨?_, ?_, ?_, ?_, ?_⟩, ⟨r, rfl⟩, List.Pairwise.nil, ?_, ?_, ?_⟩
  · intro id row hrow
    simp only [System.holding, Function.update_apply] at hrow
    split_ifs at hrow with hid
    cases hrow
    exact ⟨hid.symm, by simp [System.holding, hid]⟩
  · simp [System.holding, System.start]
  · simp [System.holding]
  · intro worker' id obj hcache
    simp only [System.holding] at hcache
    split_ifs at hcache with hheld
    cases hcache
    exact ⟨r, rfl, hheld.2.symm⟩
  · simp [System.holding, System.start]
  · simp [System.holding, System.start, Bounded]
  · simp [System.holding, System.start]
  · simp [System.holding, System.start]

section

variable {d : Deployment} {s s' : System} {c : Nat}

/-- What a call is about to keep bounds the accepted counters, when it is its turn. -/
theorem FreshInv.bounded (hinv : FreshInv s) {a : Step} (hscheduled : Scheduled s a)
    (hactor : a.actor = some c) {f : Frame} (hframe : s.frames c = some f) {r : Record}
    (hr : r ∈ s.objects) : Bounded s.accepted (settle r.kept f.pending) := by
  cases hbusy : f.busy with
  | true => exact hinv.pending c f hframe hbusy r hr
  | false =>
      rw [pending_of_idle hbusy]
      apply hinv.settled _ r hr
      intro c' f' hframe'
      by_cases hc : c' = c
      · rw [hc, hframe] at hframe'
        cases hframe'
        exact hbusy
      · apply hinv.keyed.idle_of_scheduled hscheduled _ hframe'
        rw [hactor]
        exact fun hsame => hc (Option.some.inj hsame).symm

/-- A step of one call keeps the invariant when its call keeps its own part. -/
theorem FreshInv.move (hinv : FreshInv s) {a : Step} (hscheduled : Scheduled s a)
    (hactor : a.actor = some c) (hkeyed : Keyed s') {r : Record} (hobjects : s'.objects = [r])
    {f : Frame} (hframes : s'.frames = Function.update s.frames c (some f))
    (hdecreasing : s'.accepted.Pairwise (fun x y => y.counter < x.counter))
    (hbounded : Bounded s'.accepted (settle r.kept f.pending))
    (hclaiming : ∀ args, f.next = .claim args →
      f.pending = [] ∧ ∀ x ∈ s'.accepted, x.counter < args.counter) : FreshInv s' := by
  have hcases : ∀ c' f', s'.frames c' = some f' → f' = f ∨ f'.busy = false := by
    intro c' f' hframe
    rw [hframes, Function.update_apply] at hframe
    split_ifs at hframe with hc
    · cases hframe
      exact Or.inl rfl
    · right
      apply hinv.keyed.idle_of_scheduled hscheduled _ hframe
      rw [hactor]
      exact fun hsame => hc (Option.some.inj hsame).symm
  have hown : s'.frames c = some f := by
    rw [hframes]
    exact Function.update_self _ _ _
  refine ⟨hkeyed, ⟨r, hobjects⟩, hdecreasing, ?_, ?_, ?_⟩
  · intro hidle r' hr'
    rw [hobjects, List.mem_singleton] at hr'
    rw [hr']
    rw [pending_of_idle (hidle c f hown)] at hbounded
    exact hbounded
  · intro c' f' hframe hbusy r' hr'
    rw [hobjects, List.mem_singleton] at hr'
    rw [hr']
    rcases hcases c' f' hframe with rfl | hidle
    · exact hbounded
    · rw [hidle] at hbusy
      cases hbusy
  · intro c' f' args hframe hnext
    rcases hcases c' f' hframe with rfl | hidle
    · exact hclaiming args hnext
    · unfold Frame.busy at hidle
      rw [hnext] at hidle
      simp at hidle

/-- The one object of the process. -/
theorem FreshInv.object (hinv : FreshInv s) {obj : Nat} {r : Record}
    (hr : s.objects[obj]? = some r) : obj = 0 ∧ s.objects = [r] := by
  rcases hinv.single with ⟨r', hsingle⟩
  rw [hsingle] at hr ⊢
  have hobj : obj = 0 := by
    have hlt := (List.getElem?_eq_some_iff.mp hr).1
    simpa using hlt
  rw [hobj] at hr
  cases hr
  exact ⟨hobj, rfl⟩

/-- A counter in order, other than the kept one, is newer than all accepted ones. -/
theorem newer_of_inOrder {accepted : List Acceptance} {r : Record} {counter : Int}
    (hbounded : Bounded accepted r.kept) (hinOrder : InOrder r counter)
    (hne : r.approvalMfaCounter ≠ some counter) : ∀ x ∈ accepted, x.counter < counter := by
  intro x hx
  rcases hbounded x hx with ⟨n, hn, hle⟩ | ⟨n, hn, hle⟩
  · have hkept := hinOrder.1 n hn
    have hdistinct : n ≠ counter := by
      rintro rfl
      exact hne hn
    omega
  · have hkept := hinOrder.2 n hn
    omega

/-- The counter of an accepted code is the one its call presents. -/
theorem presentedCounter_of_verified {r : Record} {call : Call} {stage : Stage} {now : Instant}
    {counter : Int}
    (h : verifyStageMfa d r call.caller call.body.mfaCode? stage now = .ok (some counter)) :
    presentedCounter d r call now = some counter := by
  unfold verifyStageMfa at h
  unfold presentedCounter
  split at h
  · cases h
  · rename_i code hcode
    split at h
    · cases h
    · rename_i secret hsecret
      split at h
      · cases h
      · rename_i counter' hverify
        split_ifs at h
        cases h
        simp only [hcode, hsecret, hverify, Option.bind_eq_bind, Option.bind_some]

/-- A verified code presented in order is newer than all accepted ones. -/
theorem newer_of_verified {accepted : List Acceptance} {r : Record} {call : Call} {stage : Stage}
    {now : Instant} {counter : Int} (hbounded : Bounded accepted r.kept)
    (hinOrder : ∀ counter ∈ presentedCounter d r call now, InOrder r counter)
    (h : verifyStageMfa d r call.caller call.body.mfaCode? stage now = .ok (some counter)) :
    ∀ x ∈ accepted, x.counter < counter := by
  apply newer_of_inOrder hbounded (hinOrder counter (presentedCounter_of_verified h))
  rcases verifyStageMfa_ok d h with ⟨hkept, hfresh, -⟩
  cases stage with
  | approval => exact hkept
  | execution => exact hfresh rfl

/-- What a check goes on with keeps the counters it accepts. -/
theorem afterBody_kept {id : String} {accepted : List Acceptance} {r : Record} {call : Call}
    {now : Instant} {minutes : Int} (hbounded : Bounded accepted r.kept)
    (hinOrder : call.InOrder d r now) :
    (∀ counter, (afterBody d call r now minutes).accepted = some counter →
      ∀ x ∈ accepted, x.counter < counter) ∧
    Bounded (((afterBody d call r now minutes).accepted.map (Acceptance.mk id .approval)).toList ++
      accepted) (settle r.kept (afterBody d call r now minutes).pending) ∧
    ∀ args, (afterBody d call r now minutes).next = .claim args →
      (afterBody d call r now minutes).pending = [] ∧
        (afterBody d call r now minutes).accepted = none ∧
        ∀ x ∈ accepted, x.counter < args.counter := by
  have hend : ∀ ws, KeepsNoCounter ws → Bounded accepted (settle r.kept ws) := by
    intro ws hws
    rw [hws.settle]
    exact hbounded
  have hnone : KeepsNoCounter [] := by simp [KeepsNoCounter]
  unfold Call.InOrder at hinOrder
  unfold afterBody
  cases hhandler : call.handler with
  | approve =>
      simp only
      cases happrove : approveBody d call.requireMfa minutes r call.caller call.body now with
      | error e => exact ⟨by simp [After.end], hend [] hnone, by simp [After.end]⟩
      | ok result =>
          rcases result with ⟨counter, ws⟩
          rcases approveBody_ok d happrove with ⟨hmfa, hash, hws⟩
          simp only [hws, settle_approveWrites]
          rcases approveMfa_ok d hmfa with ⟨hoff, rfl⟩ | ⟨hon, c, rfl, hverify⟩
          · -- no counter was kept, so none is lost
            rw [if_pos ⟨hhandler, hoff⟩] at hinOrder
            have hkept : r.kept = (none, r.kept.2) := by
              unfold Record.kept
              rw [hinOrder]
            rw [hkept] at hbounded
            exact ⟨by simp, hbounded, by simp⟩
          · rw [if_neg (by simp [hon])] at hinOrder
            have hnewer := newer_of_verified hbounded hinOrder hverify
            refine ⟨?_, ?_, by simp⟩
            · intro counter hcounter
              cases hcounter
              exact hnewer
            · intro x hx
              left
              rcases List.mem_append.mp hx with hx | hx
              · have hself : x = ⟨id, .approval, c⟩ := by simpa using hx
                exact ⟨c, rfl, by rw [hself]⟩
              · exact ⟨c, rfl, le_of_lt (hnewer x hx)⟩
  | reject =>
      simp only
      cases hreject : rejectBody d r call.caller call.body with
      | error e => exact ⟨by simp [After.end], hend [] hnone, by simp [After.end]⟩
      | ok ws =>
          refine ⟨by simp, hend ws ?_, by simp⟩
          rw [(rejectBody_ok d hreject).2.2.2]
          have hcomment := commentWrites_keepsNoCounter "rejected" (approvalActor call.caller)
            (call.body.comment? d) false
          simpa [KeepsNoCounter, Write.newApprovalCounter, Write.newExecutionCounter] using hcomment
  | execute =>
      simp only
      cases hexecute : executeBody d r call.caller call.body now with
      | refused e => exact ⟨by simp [After.end], hend [] hnone, by simp [After.end]⟩
      | expired ws =>
          refine ⟨by simp, hend ws ?_, by simp⟩
          rcases (executeBody_expired d hexecute).2 with ⟨text, hws⟩
          rw [hws]
          simp [KeepsNoCounter, lateWrites, Write.newApprovalCounter, Write.newExecutionCounter]
      | claim args =>
          refine ⟨by simp, hend [] hnone, ?_⟩
          intro args' hargs
          cases hargs
          refine ⟨rfl, rfl, ?_⟩
          rw [if_neg (by simp [hhandler])] at hinOrder
          exact newer_of_verified hbounded hinOrder (executeBody_claim d hexecute).2

/-- A newer counter in front keeps the accepted counters decreasing. -/
theorem pairwise_accept {id : String} {accepted : List Acceptance} {counter : Option Int}
    (h : accepted.Pairwise (fun x y => y.counter < x.counter))
    (hnewer : ∀ n, counter = some n → ∀ x ∈ accepted, x.counter < n) :
    ((counter.map (Acceptance.mk id .approval)).toList ++ accepted).Pairwise
      (fun x y => y.counter < x.counter) := by
  cases counter with
  | none => exact h
  | some n => exact List.pairwise_cons.mpr ⟨hnewer n rfl, h⟩

/-- A check of a code presented in order keeps the invariant. -/
theorem FreshInv.resume (hinv : FreshInv s) {now : Instant} {minutes : Int}
    (hscheduled : Scheduled s (.resume c now minutes))
    (hinOrder : PresentsInOrder d s (.resume c now minutes))
    (h : step d s (.resume c now minutes) = some s') : FreshInv s' := by
  have hkeyed := step_keyed hinv.keyed h
  rcases resume_inv h with ⟨id, obj, next, r, after, hframe, hr, hafter, rfl⟩
  rcases hinv.object hr with ⟨rfl, hobjects⟩
  have hbounded : Bounded s.accepted r.kept :=
    hinv.bounded hscheduled rfl hframe (r := r) (by rw [hobjects]; simp)
  cases next with
  | guard made =>
      -- before its await a call accepts nothing
      have hquiet : after.accepted = none ∧ after.pending = [] ∧
          ∀ args, after.next ≠ .claim args := by
        simp only [afterCheck] at hafter
        split at hafter
        · cases hafter
          simp
        · cases hafter
          simp [After.end]
      rcases hquiet with ⟨haccepted, hpending, hnext⟩
      refine hinv.move hscheduled rfl hkeyed hobjects rfl ?_ ?_
        (fun args hargs => absurd hargs (hnext args))
      · exact pairwise_accept hinv.decreasing (by simp [haccepted])
      · simp only [haccepted, hpending]
        exact hbounded
  | body made =>
      cases hafter
      rcases @afterBody_kept d id s.accepted r made now minutes hbounded
        (hinOrder _ hframe r hr) with ⟨hnewer, hkept, hclaim⟩
      refine hinv.move hscheduled rfl hkeyed hobjects rfl
        (pairwise_accept hinv.decreasing hnewer) hkept ?_
      intro args hnext
      rcases hclaim args hnext with ⟨hpending, haccepted, hless⟩
      refine ⟨hpending, ?_⟩
      intro x hx
      change x ∈ ((afterBody d made r now minutes).accepted.map
        (Acceptance.mk id .approval)).toList ++ s.accepted at hx
      rw [haccepted] at hx
      exact hless x hx
  | claim => cases hafter
  | act => cases hafter
  | done => cases hafter

/-- A step that presents its code in order keeps the freshness invariant. -/
theorem step_freshInv {worker : Nat} {id : String} {a : Step} (hinv : FreshInv s)
    (hcalls : CallsOn worker id s a) (hinOrder : PresentsInOrder d s a)
    (h : step d s a = some s') : FreshInv s' := by
  have hkeyed := step_keyed hinv.keyed h
  rcases hcalls with ⟨honApproval, hscheduled⟩
  cases a with
  | create => cases honApproval
  | fetch => cases honApproval
  | cacheFetched => cases honApproval
  | get => cases honApproval
  | call worker' c id' made now =>
      rcases get_inv h with ⟨hstarted, obj, r, hcache, hr, rfl⟩
      rcases hinv.object hr with ⟨-, hobjects⟩
      have hidle : ∀ c' f, s.frames c' = some f → f.busy = false := by
        intro c' f hframe
        apply hinv.keyed.idle_of_scheduled hscheduled _ hframe
        intro hsame
        cases hsame
        exact hstarted (hinv.keyed.frames _ f hframe).1
      refine hinv.move hscheduled rfl hkeyed hobjects rfl hinv.decreasing ?_ (by simp)
      rw [(expiryWrites_keepsNoCounter r now).settle]
      exact hinv.settled hidle r (by rw [hobjects]; simp)
  | write c now stored =>
      rcases write_inv h with ⟨id', obj, w, rest, next, r, hframe, hr, rfl⟩
      rcases hinv.object hr with ⟨rfl, hobjects⟩
      rcases @writeBack_kept s 0 (w.apply now r) stored with ⟨-, -, hframes, haccepted⟩
      have hbounded := hinv.bounded hscheduled rfl hframe (r := r) (by rw [hobjects]; simp)
      have hobjects' : (s.writeBack 0 (w.apply now r) stored).objects = [w.apply now r] := by
        rw [writeBack_objects, hobjects]
        rfl
      have hkept : (w.apply now r).kept =
          (w.newApprovalCounter.getD r.kept.1, w.newExecutionCounter.or r.kept.2) := by
        unfold Record.kept
        rw [apply_approvalMfaCounter, apply_executionMfaCounter]
      refine hinv.move hscheduled rfl hkeyed hobjects' (f := ⟨id', 0, rest, next⟩) ?_ ?_ ?_ ?_
      · unfold System.setFrame
        rw [hframes]
      · change (s.writeBack 0 (w.apply now r) stored).accepted.Pairwise _
        rw [haccepted]
        exact hinv.decreasing
      · change Bounded (s.writeBack 0 (w.apply now r) stored).accepted _
        rw [haccepted, hkept]
        exact hbounded
      · intro args hnext
        cases (hinv.claiming c _ args hframe hnext).1
  | resume c now executionExpiryMinutes => exact hinv.resume hscheduled hinOrder h
  | claim c tokenHash now =>
      rcases claim_inv h with ⟨id', obj, args, hframe, hclaim⟩
      rcases hinv.single with ⟨r, hobjects⟩
      have hbounded : Bounded s.accepted r.kept :=
        hinv.bounded hscheduled rfl hframe (r := r) (by rw [hobjects]; simp)
      have hnewer := (hinv.claiming c _ args hframe rfl).2
      rcases hclaim with ⟨row, hrow, -, rfl⟩ | rfl
      · refine hinv.move hscheduled rfl hkeyed hobjects rfl
          (List.pairwise_cons.mpr ⟨hnewer, hinv.decreasing⟩) ?_ (by simp)
        rw [settle_executingWrites]
        intro x hx
        right
        rcases List.mem_cons.mp hx with rfl | hx
        · exact ⟨args.counter, rfl, le_refl _⟩
        · exact ⟨args.counter, rfl, le_of_lt (hnewer x hx)⟩
      · exact hinv.move hscheduled rfl hkeyed hobjects rfl hinv.decreasing hbounded (by simp)
  | act c succeeded =>
      rcases act_inv h with ⟨id', obj, args, hframe, rfl⟩
      rcases hinv.single with ⟨r, hobjects⟩
      have hbounded : Bounded s.accepted r.kept :=
        hinv.bounded hscheduled rfl hframe (r := r) (by rw [hobjects]; simp)
      refine hinv.move hscheduled rfl hkeyed hobjects rfl hinv.decreasing ?_ (by simp)
      rw [(outcomeWrites_keepsNoCounter args succeeded).settle]
      exact hbounded

end

/-- The pending approval {lit}`a1`. -/
def sampleRecord : Record :=
  newRecord "a1" "" "" 30 sampleNow sampleArgs

end AuthClaw.Approvals
