import AuthClaw.Approvals.Record

/-!
# The approval handlers

What the approve, reject and execute handlers decide from the record they hold, and
the writes they make in source order.  A handler looks its record up, awaits the
request body and then runs to its end; what it checks before and after the await
differs from handler to handler.

Main results:

- Theorem {lit}`approveGuard_ok_iff`: the statuses approve goes on from.
- Theorem {lit}`rejectBody_ok`: the statuses reject goes on from.
- Theorem {lit}`executeBody_claim`: execute claims for an approved record.
- Theorem {lit}`verifyTotp_mem`: an accepted counter lies in the window.
-/

namespace AuthClaw.Approvals

open PythonText

/-! ## Requests -/

/-- The claims of an authorization token the handlers use. -/
structure Caller where
  tenantId : Option Int
  email : Option String
  sub : Option String
deriving DecidableEq

/-- The body of a request. -/
inductive Body where
  | absent
  | invalid
  | fields (comment mfaCode : Option String)
deriving DecidableEq

/-- A refused request: its status code and message. -/
structure Refusal where
  statusCode : Nat
  detail : String
deriving DecidableEq

/-- The stages a code is asked for. -/
inductive Stage where
  | approval
  | execution
deriving DecidableEq

/-- The parts of a deployment the handlers call. -/
structure Deployment where
  py : PyText
  /-- The queries of `_approval_totp_secret` for a tenant and a user. -/
  totpSecret : Int → Caller → Option String
  /-- `get_hotp_token`, where it does not raise. -/
  hotpToken : String → Int → Option String
  /-- `_approval_mfa_binding_hash`. -/
  bindingHash : Record → String → Stage → Int → Option Instant → String

section

variable (d : Deployment)

/-- `approval_actor_from_payload`. -/
def approvalActor (caller : Caller) : String :=
  ((caller.email.filter (· ≠ "")).or (caller.sub.filter (· ≠ ""))).getD "System Admin"

/-- `ensure_approval_tenant_access`. -/
def ensureTenantAccess (r : Record) (caller : Caller) : Except Refusal Unit :=
  if caller.tenantId ≠ none ∧ r.tenantId ≠ none ∧ r.tenantId ≠ caller.tenantId then
    .error { statusCode := 404, detail := "Approval ID not found" }
  else .ok ()

/-- `_approval_authenticated_payload`; tenant `0` counts as missing. -/
def authenticated (caller : Caller) : Except Refusal Unit :=
  if caller.tenantId = none ∨ caller.tenantId = some 0 then
    .error { statusCode := 401, detail := "Authorization credentials missing." }
  else .ok ()

/-- The comment of a body, stripped, when there is one. -/
def Body.comment? : Body → Option String
  | .fields comment _ => (comment.map d.py.strip).filter (· ≠ "")
  | _ => none

/-- `parse_approval_action_payload` refuses a body that is no JSON. -/
def Body.parsed : Body → Except Refusal Unit
  | .invalid => .error { statusCode := 400, detail := "Invalid JSON payload" }
  | _ => .ok ()

/-! ## Codes -/

/-- `text.isdigit()` on ASCII. -/
def isDigits (text : String) : Bool :=
  text ≠ "" && text.toList.all Char.isDigit

/-- The thirty-second interval of a time. -/
def interval (now : Instant) : Int :=
  now / 1000000 / 30

/-- `verify_totp_token_with_counter` with a window of one. -/
def verifyTotp (secret token : String) (now : Instant) : Option Int :=
  let token := d.py.strip token
  if isDigits token = false ∨ token.length ≠ 6 then none
  else
    ([-1, 0, 1].map (fun i => interval now + i)).find?
      (fun counter => d.hotpToken secret counter == some token)

/-- `_approval_totp_secret`. -/
def approvalTotpSecret (r : Record) (caller : Caller) : Option String :=
  match r.tenantId with
  | none => none
  | some tenant => if tenant = 0 then none else d.totpSecret tenant caller

/-- The counter kept for a stage. -/
def Record.keptCounter (r : Record) : Stage → Option Int
  | .approval => r.approvalMfaCounter
  | .execution => r.executionMfaCounter

/-- `_verify_approval_stage_mfa`: the accepted counter, or none where no secret is
configured. -/
def verifyStageMfa (r : Record) (caller : Caller) (code : Option String) (stage : Stage)
    (now : Instant) : Except Refusal (Option Int) :=
  match code.filter (· ≠ "") with
  | none => .error { statusCode := 401, detail := "MFA code is required" }
  | some code =>
      match (approvalTotpSecret d r caller).filter (· ≠ "") with
      | none => .ok none
      | some secret =>
          match verifyTotp d secret code now with
          | none => .error { statusCode := 401, detail := "Invalid MFA code" }
          | some counter =>
              if r.keptCounter stage = some counter then
                .error { statusCode := 401, detail := "Stale MFA code is not allowed" }
              else if stage = .execution ∧ r.approvalMfaCounter = some counter then
                .error { statusCode := 401, detail := "Fresh execution MFA code is required" }
              else .ok (some counter)

/-- The code of a body. -/
def Body.mfaCode? : Body → Option String
  | .fields _ mfaCode => mfaCode
  | _ => none

/-! ## Expiry -/

/-- The time has come. -/
def due (at_ : Option Instant) (now : Instant) : Bool :=
  match at_ with
  | some t => t ≤ now
  | none => false

/-- The writes of `_check_expiry`. -/
def expiryWrites (r : Record) (now : Instant) : List Write :=
  if r.status = .pending ∧ due r.expiresAt now = true then
    [.status .expired, .lastActionAt .now, .persist,
      .comment "expired" "system" "Approval expired before a human decision." false]
  else []

/-! ## Approve -/

/-- The status checks of `approve_request`, made before the await. -/
def approveGuard (s : Status) : Except Refusal Unit :=
  match s with
  | .expired => .error { statusCode := 400, detail := "Approval request has expired" }
  | .rejected =>
      .error { statusCode := 400, detail := "Approval request has already been rejected" }
  | .executed =>
      .error { statusCode := 400, detail := "Approval request has already been executed" }
  | .executing =>
      .error { statusCode := 400, detail := "Approval request is already executing" }
  | .executionFailed =>
      .error {
        statusCode := 400
        detail := "Approval execution already failed. Create a new approval to retry." }
  | .pending => .ok ()
  | .approved => .ok ()

/-- The writes of an approval. -/
def approveWrites (approver : String) (counter : Option Int) (bindingHash : Option String)
    (expiryMinutes : Int) (comment : Option String) : List Write :=
  [.status .approved, .approvedAt, .approvedBy approver, .mfaVerified counter.isSome,
    .approvalMfaVerified counter.isSome, .approvalMfaBindingHash bindingHash,
    .approvalMfaCounter counter, .executionExpiresIn expiryMinutes,
    .lastActionAt .approvedAt] ++ commentWrites "approved" approver comment counter.isSome

/-- The code check of an approval: the counter to keep. -/
def approveMfa (requireMfa : Bool) (r : Record) (caller : Caller) (body : Body)
    (now : Instant) : Except Refusal (Option Int) :=
  if requireMfa = false then .ok none
  else if body = .absent then .error { statusCode := 401, detail := "MFA code is required" }
  else do
    match ← verifyStageMfa d r caller body.mfaCode? .approval now with
    | some counter => return some counter
    | none => .error { statusCode := 400, detail := "MFA_NOT_CONFIGURED" }

/-- `approve_request` after the await: the counter it accepts and its writes. -/
def approveBody (requireMfa : Bool) (executionExpiryMinutes : Int) (r : Record) (caller : Caller)
    (body : Body) (now : Instant) : Except Refusal (Option Int × List Write) := do
  body.parsed
  let counter ← approveMfa d requireMfa r caller body now
  let actor := approvalActor caller
  let bindingHash := counter.map (fun c => d.bindingHash r actor .approval c r.expiresAt)
  return (counter, approveWrites actor counter bindingHash (max 1 executionExpiryMinutes)
    (body.comment? d))

/-! ## Reject -/

/-- The status checks of `reject_request`, made after the await. -/
def rejectGuard (s : Status) : Except Refusal Unit :=
  match s with
  | .expired => .error { statusCode := 400, detail := "Approval request has expired" }
  | .approved => .error { statusCode := 400, detail := "Approval request is already approved" }
  | .executed => .error { statusCode := 400, detail := "Approval request is already executed" }
  | _ => .ok ()

/-- `reject_request` after the await. -/
def rejectBody (r : Record) (caller : Caller) (body : Body) : Except Refusal (List Write) := do
  body.parsed
  rejectGuard r.status
  let actor := approvalActor caller
  return [.status .rejected, .rejectedAt, .rejectedBy actor, .lastActionAt .rejectedAt] ++
    commentWrites "rejected" actor (body.comment? d) false

/-! ## Execute -/

/-- What the `UPDATE` of an execution sets. -/
structure ClaimArgs where
  actor : String
  counter : Int
  bindingHash : String
  comment : Option String
deriving DecidableEq

/-- What `execute_request` does after the await. -/
inductive ExecuteDecision where
  | refused (r : Refusal)
  | expired (writes : List Write)
  | claim (args : ClaimArgs)

/-- The writes of an execution that comes too late. -/
def lateWrites (text : String) : List Write :=
  [.status .expired, .lastActionAt .now, .comment "expired" "system" text false]

/-- `execute_request` after the await, up to its `UPDATE`. -/
def executeBody (r : Record) (caller : Caller) (body : Body) (now : Instant) : ExecuteDecision :=
  let actor := approvalActor caller
  match body.parsed with
  | .error e => .refused e
  | .ok () =>
      if r.status ≠ .approved then
        .refused {
          statusCode := 400
          detail := "Request not approved. Status is '" ++ r.status.text ++ "'." }
      else if (r.approvedBy.filter (· ≠ "")).getD actor ≠ actor then
        .refused {
          statusCode := 403, detail := "Approval execution is bound to the approving actor." }
      else if due r.expiresAt now then .expired (lateWrites "Approval expired before execution.")
      else if due r.executionExpiresAt now then
        .expired (lateWrites "Approval execution window expired.")
      else if body = .absent then
        .refused { statusCode := 401, detail := "MFA code is required" }
      else
        match verifyStageMfa d r caller body.mfaCode? .execution now with
        | .error e => .refused e
        | .ok none => .refused { statusCode := 400, detail := "MFA_NOT_CONFIGURED" }
        | .ok (some counter) =>
            .claim {
              actor := actor
              counter := counter
              bindingHash := d.bindingHash r actor .execution counter
                (r.executionExpiresAt.or r.expiresAt)
              comment := body.comment? d }

/-- The row can be claimed. -/
def Record.Claimable (row : Record) : Prop :=
  row.status = .approved ∧ row.executionTokenUsedAt = none

instance (row : Record) : Decidable row.Claimable :=
  inferInstanceAs (Decidable (_ ∧ _))

/-- The `UPDATE` of an execution, on a row its `WHERE` clause selects. -/
def claimRow (args : ClaimArgs) (tokenHash : String) (now : Instant) (row : Record) : Record :=
  { row with
    status := .executing
    executionTokenHash := some tokenHash
    executionTokenUsedAt := some now
    executionMfaVerified := true
    executionMfaBindingHash := some args.bindingHash
    executionMfaCounter := some args.counter
    executedBy := some args.actor
    lastActionAt := some now }

/-- The writes between the claim and the action. -/
def executingWrites (args : ClaimArgs) (tokenHash : String) : List Write :=
  [.status .executing, .executedBy args.actor, .executionMfaVerified,
    .executionMfaBindingHash args.bindingHash, .executionMfaCounter args.counter,
    .executionTokenHash tokenHash, .executionTokenUsedAt,
    .lastActionAt .executionTokenUsedAt] ++ commentWrites "executing" args.actor args.comment true

/-- The writes after the action. -/
def outcomeWrites (args : ClaimArgs) (succeeded : Bool) : List Write :=
  if succeeded then
    [.status .executed, .executedAt, .lastActionAt .executedAt] ++
      commentWrites "executed" args.actor args.comment true
  else [.status .executionFailed, .lastActionAt .now]

/-! ## What the handlers check -/

/-- Approve goes on from a pending or an approved record, and from no other. -/
theorem approveGuard_ok_iff {s : Status} :
    approveGuard s = .ok () ↔ s = .pending ∨ s = .approved := by
  constructor
  · intro h
    cases s with
    | pending => exact Or.inl rfl
    | approved => exact Or.inr rfl
    | rejected => cases h
    | expired => cases h
    | executing => cases h
    | executed => cases h
    | executionFailed => cases h
  · intro h
    rcases h with rfl | rfl
    · rfl
    · rfl

/-- Reject does not go on from an expired, approved or executed record; it does from
an executing or failed one. -/
theorem rejectBody_ok {r : Record} {caller : Caller} {body : Body} {ws : List Write}
    (h : rejectBody d r caller body = .ok ws) :
    r.status ≠ .expired ∧ r.status ≠ .approved ∧ r.status ≠ .executed ∧
      ws = [.status .rejected, .rejectedAt, .rejectedBy (approvalActor caller),
        .lastActionAt .rejectedAt] ++
          commentWrites "rejected" (approvalActor caller) (body.comment? d) false := by
  rcases bind_eq_ok h with ⟨_, -, h⟩
  rcases bind_eq_ok h with ⟨_, hguard, h⟩
  cases h
  refine ⟨?_, ?_, ?_, rfl⟩
  · intro hstatus
    rw [hstatus] at hguard
    cases hguard
  · intro hstatus
    rw [hstatus] at hguard
    cases hguard
  · intro hstatus
    rw [hstatus] at hguard
    cases hguard

/-- The writes of an approval that goes through. -/
theorem approveBody_ok {requireMfa : Bool} {minutes : Int} {r : Record} {caller : Caller}
    {body : Body} {now : Instant} {counter : Option Int} {ws : List Write}
    (h : approveBody d requireMfa minutes r caller body now = .ok (counter, ws)) :
    approveMfa d requireMfa r caller body now = .ok counter ∧
      ∃ hash, ws = approveWrites (approvalActor caller) counter hash (max 1 minutes)
        (body.comment? d) := by
  rcases bind_eq_ok h with ⟨_, -, h⟩
  rcases bind_eq_ok h with ⟨_, hmfa, h⟩
  cases h
  exact ⟨hmfa, _, rfl⟩

/-- An accepted counter is not the one kept for its stage, nor, at execution, the one
kept for the approval. -/
theorem verifyStageMfa_ok {r : Record} {caller : Caller} {code : Option String} {stage : Stage}
    {now : Instant} {counter : Int}
    (h : verifyStageMfa d r caller code stage now = .ok (some counter)) :
    r.keptCounter stage ≠ some counter ∧
      (stage = .execution → r.approvalMfaCounter ≠ some counter) ∧
      ∃ secret code, verifyTotp d secret code now = some counter := by
  unfold verifyStageMfa at h
  split at h
  · cases h
  · split at h
    · cases h
    · split at h
      · cases h
      · split_ifs at h with hkept hfresh
        cases h
        refine ⟨hkept, ?_, ?_⟩
        · intro hstage happroval
          exact hfresh ⟨hstage, happroval⟩
        · exact ⟨_, _, by assumption⟩

/-- An approval accepts a counter only where codes are required, and then one. -/
theorem approveMfa_ok {requireMfa : Bool} {r : Record} {caller : Caller} {body : Body}
    {now : Instant} {counter : Option Int}
    (h : approveMfa d requireMfa r caller body now = .ok counter) :
    (requireMfa = false ∧ counter = none) ∨
      (requireMfa ≠ false ∧ ∃ c, counter = some c ∧
        verifyStageMfa d r caller body.mfaCode? .approval now = .ok (some c)) := by
  unfold approveMfa at h
  by_cases hrequired : requireMfa = false
  · rw [if_pos hrequired] at h
    cases h
    exact Or.inl ⟨hrequired, rfl⟩
  · rw [if_neg hrequired] at h
    by_cases habsent : body = .absent
    · rw [if_pos habsent] at h
      cases h
    · rw [if_neg habsent] at h
      rcases bind_eq_ok h with ⟨accepted, hverify, h⟩
      cases accepted with
      | none => cases h
      | some c =>
          cases h
          exact Or.inr ⟨hrequired, c, rfl, hverify⟩

/-- Execute claims for an approved record and an accepted code. -/
theorem executeBody_claim {r : Record} {caller : Caller} {body : Body} {now : Instant}
    {args : ClaimArgs} (h : executeBody d r caller body now = .claim args) :
    r.status = .approved ∧
      verifyStageMfa d r caller body.mfaCode? .execution now = .ok (some args.counter) := by
  unfold executeBody at h
  simp only at h
  split at h
  · cases h
  · split_ifs at h with hstatus
    · split at h
      · cases h
      · cases h
      · rename_i hverify
        cases h
        exact ⟨by simpa using hstatus, hverify⟩

/-- Execute lets an approved record expire. -/
theorem executeBody_expired {r : Record} {caller : Caller} {body : Body} {now : Instant}
    {ws : List Write} (h : executeBody d r caller body now = .expired ws) :
    r.status = .approved ∧ ∃ text, ws = lateWrites text := by
  unfold executeBody at h
  simp only at h
  split at h
  · cases h
  · split_ifs at h with hstatus
    · cases h
      exact ⟨by simpa using hstatus, _, rfl⟩
    · cases h
      exact ⟨by simpa using hstatus, _, rfl⟩
    · split at h <;> cases h

/-- An accepted counter lies within one interval of the current one. -/
theorem verifyTotp_mem {secret token : String} {now : Instant} {counter : Int}
    (h : verifyTotp d secret token now = some counter) :
    interval now - 1 ≤ counter ∧ counter ≤ interval now + 1 := by
  unfold verifyTotp at h
  simp only at h
  split_ifs at h
  have hmem := List.mem_of_find?_eq_some h
  simp only [List.map_cons, List.map_nil, List.mem_cons, List.not_mem_nil, or_false] at hmem
  omega

end

end AuthClaw.Approvals
