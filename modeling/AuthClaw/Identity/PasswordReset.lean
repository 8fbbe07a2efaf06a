import AuthClaw.Identity.Sessions
import AuthClaw.Library.CheckThenAct
import AuthClaw.Library.StepSystem

/-!
# Password resets at once

Requests with one reset token, each a transaction that reads the row of the token, updates
the user, marks the token used and commits.  What a transaction writes is seen by the others
once it commits, and an update of the user's row waits for the one before it; the row of the
token is not read again.

Main results:

- Theorem {lit}`confirm_alone` and {lit}`confirm_refused`: a request without interruption is
  {lit}`authPasswordResetConfirm`.
- Theorem {lit}`reset_single_use`: when at most one request changes the password.
-/

namespace AuthClaw.Identity

open PythonText Rows StepSystem CheckThenAct

/-! ## Requests -/

/-- The body of a request, the hash of its password and when it starts. -/
structure ResetRequest where
  password : String
  passwordHash : String
  now : Int

/-- How far a request is: the row it read, and the tables as its transaction sees them. -/
inductive ResetPhase where
  | waiting
  | selected (r : ResetRow) (email : String)
  | updated (r : ResetRow) (email : String) (view : Database)
  | marked (r : ResetRow) (email : String) (view : Database)
  | revoked (r : ResetRow) (email : String) (view : Database)
  | done (email : String)
  | refused (e : IdentityError)

/-- The tables, the requests and which of them has updated the row of the user and not ended. -/
structure Resets (ι : Type) where
  db : Database
  phase : ι → ResetPhase
  lock : Option ι

/-- Before the requests. -/
def Resets.start {ι : Type} (db : Database) : Resets ι :=
  ⟨db, fun _ => .waiting, none⟩

/-- A statement of a request, or its end. -/
inductive ResetAction (ι : Type) where
  | select (i : ι)
  | update (i : ι)
  | mark (i : ι)
  | revoke (i : ι)
  | commit (i : ι)
  | fail (i : ι) (e : IdentityError)

section

variable {ι : Type} [DecidableEq ι] (tokenHash : String) (requests : ι → ResetRequest)

/-- The length of the password is checked, and the row of the token read. -/
def selectPhase (request : ResetRequest) (db : Database) : ResetPhase :=
  if request.password.length < 8 then
    .refused (.http 400 "Password must be at least 8 characters.")
  else
    match selectReset tokenHash request.now db with
    | none => .refused (.http 400 "Invalid or expired password reset token.")
    | some (r, email) => .selected r email

/-- A step of a request. -/
def resetStep (st : Resets ι) : ResetAction ι → Option (Resets ι)
  | .select i =>
      match st.phase i with
      | .waiting =>
          some { st with
            phase := Function.update st.phase i (selectPhase tokenHash (requests i) st.db) }
      | _ => none
  | .update i =>
      match st.phase i, st.lock with
      | .selected r email, none =>
          some { st with
            phase := Function.update st.phase i
              (.updated r email (updatePassword r (requests i).passwordHash st.db))
            lock := some i }
      | _, _ => none
  | .mark i =>
      match st.phase i with
      | .updated r email view =>
          some { st with
            phase := Function.update st.phase i
              (.marked r email (markResetUsed tokenHash (requests i).now view)) }
      | _ => none
  | .revoke i =>
      match st.phase i with
      | .marked r email view =>
          some { st with
            phase := Function.update st.phase i
              (.revoked r email (revokeRefreshTokens r (requests i).now view)) }
      | _ => none
  | .commit i =>
      match st.phase i with
      | .revoked _ email view => some ⟨view, Function.update st.phase i (.done email), none⟩
      | _ => none
  | .fail i e =>
      match st.phase i with
      | .selected _ _ => some { st with phase := Function.update st.phase i (.refused e) }
      | .updated _ _ _ | .marked _ _ _ | .revoked _ _ _ =>
          some ⟨st.db, Function.update st.phase i (.refused e), none⟩
      | _ => none

/-- The row that a request has read and not yet acted on. -/
def ResetPhase.read : ResetPhase → Option ResetRow
  | .selected r _ | .updated r _ _ | .marked r _ _ | .revoked r _ _ => some r
  | .waiting | .done _ | .refused _ => none

/-- Whether a request has changed the password. -/
def ResetPhase.changed : ResetPhase → Bool
  | .done _ => true
  | _ => false

/-- At most one request changes the password. -/
def SingleReset (st : Resets ι) : Prop :=
  ∀ i j, (st.phase i).changed = true → (st.phase j).changed = true → i = j

/-- A request reads the row of the token only while no other is between its reading and its
end. -/
def ReadsAlone (st : Resets ι) : ResetAction ι → Prop
  | .select i =>
      (selectPhase tokenHash (requests i) st.db).read.isSome → ∀ j, (st.phase j).read = none
  | _ => True

/-- The tables as a transaction that has marked the token sees them. -/
def ResetPhase.closing : ResetPhase → Option Database
  | .marked _ _ view | .revoked _ _ view => some view
  | _ => none

/-- Whether a transaction holds the lock of the user's row. -/
def ResetPhase.locks : ResetPhase → Bool
  | .updated _ _ _ | .marked _ _ _ | .revoked _ _ _ => true
  | _ => false

end

/-! ## One request -/

section

variable {ι : Type} [DecidableEq ι] {tokenHash : String} {requests : ι → ResetRequest}
  {st st' : Resets ι} {i : ι}

/-- A request without interruption changes the tables as `auth_password_reset_confirm` does. -/
theorem confirm_alone {email : String} {db : Database} (hphase : st.phase i = .waiting)
    (hlock : st.lock = none)
    (hconfirm : authPasswordResetConfirm tokenHash (requests i).password
      (requests i).passwordHash (requests i).now st.db = .ok (email, db)) :
    run (resetStep tokenHash requests) st [.select i, .update i, .mark i, .revoke i, .commit i] =
      some ⟨db, Function.update st.phase i (.done email), none⟩ := by
  unfold authPasswordResetConfirm at hconfirm
  split_ifs at hconfirm with hshort
  split at hconfirm
  next => cases hconfirm
  next r email' hselect =>
    cases hconfirm
    simp [run, resetStep, selectPhase, hphase, hlock, hshort, hselect]

/-- A request that `auth_password_reset_confirm` refuses reads no row. -/
theorem confirm_refused {e : IdentityError} (hphase : st.phase i = .waiting)
    (hconfirm : authPasswordResetConfirm tokenHash (requests i).password
      (requests i).passwordHash (requests i).now st.db = .error e) :
    resetStep tokenHash requests st (.select i) =
      some { st with phase := Function.update st.phase i (.refused e) } := by
  unfold authPasswordResetConfirm at hconfirm
  simp only [resetStep, hphase, selectPhase]
  split_ifs at hconfirm with hshort
  · cases hconfirm
    rw [if_pos hshort]
  · rw [if_neg hshort]
    cases hselect : selectReset tokenHash (requests i).now st.db with
    | none =>
        rw [hselect] at hconfirm
        cases hconfirm
        rfl
    | some found =>
        rw [hselect] at hconfirm
        cases hconfirm

/-- A used token opens nothing, at any time. -/
theorem selectReset_markResetUsed (now now' : Int) (db : Database) :
    selectReset tokenHash now' (markResetUsed tokenHash now db) = none := by
  have hfind : (markResetUsed tokenHash now db).resetTokens.find? (fun r =>
      r.tokenHash = tokenHash ∧ r.usedAt = none ∧ now' < r.expiresAt) = none := by
    rw [List.find?_eq_none]
    intro r hr hopen
    rw [decide_eq_true_eq] at hopen
    rcases mem_updateWhere.mp hr with ⟨q, -, ⟨-, rfl⟩ | ⟨hother, rfl⟩⟩
    · cases hopen.2.1
    · rw [decide_eq_false_iff_not] at hother
      exact hother hopen.1
  unfold selectReset
  rw [hfind]

/-- What a token opens does not depend on the refresh tokens. -/
theorem selectReset_revoke (r : ResetRow) (now now' : Int) (db : Database) :
    selectReset tokenHash now' (revokeRefreshTokens r now db) = selectReset tokenHash now' db :=
  rfl

/-- A request is refused, or reads an open row. -/
theorem selectPhase_cases (request : ResetRequest) (db : Database) :
    (∃ e, selectPhase tokenHash request db = .refused e) ∨
      ∃ r email, selectPhase tokenHash request db = .selected r email ∧
        selectReset tokenHash request.now db = some (r, email) := by
  unfold selectPhase
  split_ifs
  · exact Or.inl ⟨_, rfl⟩
  · split
    next => exact Or.inl ⟨_, rfl⟩
    next r email hselect => exact Or.inr ⟨r, email, rfl, hselect⟩

end

/-! ## Runs -/

section

variable {ι : Type} {tokenHash : String} {requests : ι → ResetRequest}
  {st st' : Resets ι} {i : ι}

/-- The row is open: some request would read it. -/
def OpenReset (tokenHash : String) (db : Database) (r : ResetRow) : Prop :=
  ∃ now email, selectReset tokenHash now db = some (r, email)

/-- At most one request has read the row, which is open, the token is closed by whoever marks
it, and whoever is past the update of the user's row has its lock. -/
structure ResetInv (tokenHash : String) (st : Resets ι) : Prop where
  exclusive : Exclusive (fun i => (st.phase i).read) (fun _ r => OpenReset tokenHash st.db r)
  closing : ∀ i view, (st.phase i).closing = some view →
    ∀ now, selectReset tokenHash now view = none
  closed : ∀ i, (st.phase i).changed = true → ∀ now, selectReset tokenHash now st.db = none
  locked : ∀ i, (st.phase i).locks = true ↔ st.lock = some i
  single : SingleReset st

theorem resetInv_start (db : Database) : ResetInv tokenHash (Resets.start db : Resets ι) where
  exclusive := exclusive_of_none (fun _ => rfl)
  closing := fun _ _ h => by cases h
  closed := fun _ h => by cases h
  locked := by
    intro i
    constructor
    · intro h
      cases h
    · intro h
      cases h
  single := fun _ _ h => by cases h

variable [DecidableEq ι]

/-- A step of a request before its commit. -/
theorem ResetInv.move (h : ResetInv tokenHash st) {p : ResetPhase} {lock : Option ι}
    (hexclusive : Exclusive (Function.update (fun j => (st.phase j).read) i p.read)
      (fun _ r => OpenReset tokenHash st.db r))
    (hclosing : ∀ view, p.closing = some view → ∀ now, selectReset tokenHash now view = none)
    (hchanged : p.changed = false) (hlock : p.locks = true ↔ lock = some i)
    (hothers : ∀ j, j ≠ i → (lock = some j ↔ st.lock = some j)) :
    ResetInv tokenHash ⟨st.db, Function.update st.phase i p, lock⟩ := by
  have hearlier : ∀ j, (Function.update st.phase i p j).changed = true →
      (st.phase j).changed = true :=
    (Function.forall_update_iff st.phase
      (fun j q => q.changed = true → (st.phase j).changed = true)).mpr
      ⟨fun hp => absurd (hchanged.symm.trans hp) Bool.false_ne_true, fun _ _ hj => hj⟩
  constructor
  · rw [read_update ResetPhase.read]
    exact hexclusive
  · exact (Function.forall_update_iff st.phase (fun _ q => ∀ view, q.closing = some view →
      ∀ now, selectReset tokenHash now view = none)).mpr ⟨hclosing, fun j _ => h.closing j⟩
  · exact fun j hj => h.closed j (hearlier j hj)
  · refine (Function.forall_update_iff st.phase
      (fun j q => q.locks = true ↔ lock = some j)).mpr ⟨hlock, ?_⟩
    intro j hji
    rw [hothers j hji]
    exact h.locked j
  · exact fun j k hj hk => h.single j k (hearlier j hj) (hearlier k hk)

/-- A request that has read a row goes on. -/
theorem ResetInv.advance (h : ResetInv tokenHash st) {p : ResetPhase}
    (hread : p.read = (st.phase i).read)
    (hclosing : ∀ view, p.closing = some view → ∀ now, selectReset tokenHash now view = none)
    (hchanged : p.changed = false) (hlocks : p.locks = true)
    (hlock : st.lock = none ∨ st.lock = some i) :
    ResetInv tokenHash ⟨st.db, Function.update st.phase i p, some i⟩ := by
  refine h.move ?_ hclosing hchanged (iff_of_true hlocks rfl) ?_
  · rw [hread, Function.update_eq_self i (fun j => (st.phase j).read)]
    exact h.exclusive
  · intro j hji
    rcases hlock with hlock | hlock
    · rw [hlock]
      exact iff_of_false (fun hj => hji (Option.some.inj hj).symm) (fun hj => by cases hj)
    · rw [hlock]

/-- A request gives up. -/
theorem ResetInv.refuse (h : ResetInv tokenHash st) (e : IdentityError) :
    ResetInv tokenHash ⟨st.db, Function.update st.phase i (.refused e),
      if st.lock = some i then none else st.lock⟩ := by
  refine h.move h.exclusive.leave (fun _ hview => by cases hview) rfl ?_ ?_
  · refine iff_of_false (fun hlocks => by cases hlocks) ?_
    split_ifs with hlock
    · intro hi
      cases hi
    · exact hlock
  · intro j hji
    split_ifs with hlock
    · rw [hlock]
      exact iff_of_false (fun hj => by cases hj) (fun hj => hji (Option.some.inj hj).symm)
    · rfl

/-- A request commits: the token is used, and nobody else has read it. -/
theorem ResetInv.commit (h : ResetInv tokenHash st) {r : ResetRow} {email : String}
    {view : Database} (hphase : st.phase i = .revoked r email view) :
    ResetInv tokenHash ⟨view, Function.update st.phase i (.done email), none⟩ := by
  have hread : (st.phase i).read = some r := by rw [hphase]; rfl
  have hlock : st.lock = some i := (h.locked i).mp (by rw [hphase]; rfl)
  have hclosed : ∀ now, selectReset tokenHash now view = none :=
    h.closing i view (by rw [hphase]; rfl)
  -- the row it read is still open, so no request has changed the password before
  have hfirst : ∀ j, (st.phase j).changed = true → False := by
    intro j hj
    rcases h.exclusive.current i r hread with ⟨now, email', hopen⟩
    rw [h.closed j hj now] at hopen
    cases hopen
  have honly : ∀ j, (Function.update st.phase i (.done email) j).changed = true → j = i :=
    (Function.forall_update_iff st.phase (fun j q => q.changed = true → j = i)).mpr
      ⟨fun _ => rfl, fun j _ hj => (hfirst j hj).elim⟩
  constructor
  · rw [read_update ResetPhase.read]
    exact exclusive_of_none (h.exclusive.none_of_leave hread)
  · exact (Function.forall_update_iff st.phase (fun _ q => ∀ view, q.closing = some view →
      ∀ now, selectReset tokenHash now view = none)).mpr
      ⟨(fun _ hview => by cases hview), fun j _ => h.closing j⟩
  · exact fun _ _ => hclosed
  · refine (Function.forall_update_iff st.phase
      (fun j q => q.locks = true ↔ (none : Option ι) = some j)).mpr ⟨?_, ?_⟩
    · exact iff_of_false Bool.false_ne_true (fun hj => by cases hj)
    · intro j hji
      rw [h.locked j, hlock]
      exact iff_of_false (fun hj => hji (Option.some.inj hj).symm) (fun hj => by cases hj)
  · intro j k hj hk
    rw [honly j hj, honly k hk]

/-- A step keeps the invariant when the row is read alone. -/
theorem resetInv_step {a : ResetAction ι} (h : ResetInv tokenHash st)
    (hallowed : ReadsAlone tokenHash requests st a)
    (hstep : resetStep tokenHash requests st a = some st') : ResetInv tokenHash st' := by
  cases a with
  | select i =>
      unfold resetStep at hstep
      dsimp only at hstep
      split at hstep
      next hphase =>
        cases hstep
        have hlock : st.lock ≠ some i := by
          rw [Ne, ← h.locked i, hphase]
          exact Bool.false_ne_true
        rcases @selectPhase_cases tokenHash (requests i) st.db with ⟨e, hrefused⟩ |
          ⟨r, email, hselected, hopen⟩
        · rw [hrefused]
          have hinv := h.refuse (i := i) e
          rwa [if_neg hlock] at hinv
        · have halone : ∀ j, (st.phase j).read = none := hallowed (by rw [hselected]; rfl)
          rw [hselected]
          refine h.move (Exclusive.enter (fun j _ => halone j) ⟨_, email, hopen⟩)
            (fun _ hview => by cases hview) rfl (iff_of_false Bool.false_ne_true hlock)
            (fun _ _ => Iff.rfl)
      next => cases hstep
  | update i =>
      unfold resetStep at hstep
      dsimp only at hstep
      split at hstep
      next r email hphase hlock =>
        cases hstep
        exact h.advance (by rw [hphase]; rfl) (fun _ hview => by cases hview) rfl rfl
          (Or.inl hlock)
      next => cases hstep
  | mark i =>
      unfold resetStep at hstep
      dsimp only at hstep
      split at hstep
      next r email view hphase =>
        cases hstep
        have hlock : st.lock = some i := (h.locked i).mp (by rw [hphase]; rfl)
        rw [hlock]
        refine h.advance (by rw [hphase]; rfl) ?_ rfl rfl (Or.inr hlock)
        intro view' hview now
        cases hview
        exact selectReset_markResetUsed _ _ _
      next => cases hstep
  | revoke i =>
      unfold resetStep at hstep
      dsimp only at hstep
      split at hstep
      next r email view hphase =>
        cases hstep
        have hlock : st.lock = some i := (h.locked i).mp (by rw [hphase]; rfl)
        rw [hlock]
        refine h.advance (by rw [hphase]; rfl) ?_ rfl rfl (Or.inr hlock)
        intro view' hview now
        cases hview
        rw [selectReset_revoke]
        exact h.closing i view (by rw [hphase]; rfl) now
      next => cases hstep
  | commit i =>
      unfold resetStep at hstep
      dsimp only at hstep
      split at hstep
      next r email view hphase =>
        cases hstep
        exact h.commit hphase
      next => cases hstep
  | fail i e =>
      have hrefused := h.refuse (i := i) e
      unfold resetStep at hstep
      dsimp only at hstep
      split at hstep
      next hphase =>
        cases hstep
        have hlock : ¬ st.lock = some i := by
          rw [← h.locked i, hphase]
          exact Bool.false_ne_true
        rwa [if_neg hlock] at hrefused
      next hphase =>
        cases hstep
        rwa [if_pos ((h.locked i).mp (by rw [hphase]; rfl))] at hrefused
      next hphase =>
        cases hstep
        rwa [if_pos ((h.locked i).mp (by rw [hphase]; rfl))] at hrefused
      next hphase =>
        cases hstep
        rwa [if_pos ((h.locked i).mp (by rw [hphase]; rfl))] at hrefused
      next => cases hstep

/-- A request that has read a row can still change the password, whoever has read it besides. -/
theorem can_commit {r : ResetRow} (hread : (st.phase i).read = some r)
    (hlock : (st.phase i).locks = false → st.lock = none) :
    ∃ bs db email, run (resetStep tokenHash requests) st bs =
      some ⟨db, Function.update st.phase i (.done email), none⟩ := by
  cases hphase : st.phase i with
  | waiting =>
      rw [hphase] at hread
      cases hread
  | selected r' email =>
      have hfree : st.lock = none := hlock (by rw [hphase]; rfl)
      refine ⟨[.update i, .mark i, .revoke i, .commit i],
        revokeRefreshTokens r' (requests i).now (markResetUsed tokenHash (requests i).now
          (updatePassword r' (requests i).passwordHash st.db)), email, ?_⟩
      simp only [run, resetStep, hphase, hfree, Function.update_self, Function.update_idem]
  | updated r' email view =>
      refine ⟨[.mark i, .revoke i, .commit i], revokeRefreshTokens r' (requests i).now
        (markResetUsed tokenHash (requests i).now view), email, ?_⟩
      simp only [run, resetStep, hphase, Function.update_self, Function.update_idem]
  | marked r' email view =>
      refine ⟨[.revoke i, .commit i], revokeRefreshTokens r' (requests i).now view, email, ?_⟩
      simp only [run, resetStep, hphase, Function.update_self, Function.update_idem]
  | revoked r' email view =>
      refine ⟨[.commit i], view, email, ?_⟩
      simp only [run, resetStep, hphase]
  | done email =>
      rw [hphase] at hread
      cases hread
  | refused e =>
      rw [hphase] at hread
      cases hread

/-- Once two requests have read the row, both can change the password. -/
theorem overlap_changes (h : ResetInv tokenHash st)
    (hstep : resetStep tokenHash requests st (.select i) = some st')
    (hoverlap : ¬ ReadsAlone tokenHash requests st (.select i)) :
    ∃ bs t, run (resetStep tokenHash requests) st' bs = some t ∧ ¬ SingleReset t := by
  unfold ReadsAlone at hoverlap
  push Not at hoverlap
  rcases hoverlap with ⟨hreads, j, hj⟩
  rcases Option.ne_none_iff_exists'.mp hj with ⟨r, hr⟩
  rcases @selectPhase_cases tokenHash (requests i) st.db with ⟨e, hrefused⟩ |
    ⟨r', email, hselected, -⟩
  · rw [hrefused] at hreads
    cases hreads
  simp only [resetStep] at hstep
  split at hstep
  next hwaiting =>
    cases hstep
    have hji : j ≠ i := by
      intro hji
      rw [hji, hwaiting] at hr
      cases hr
    -- only the one that has read the row can have the lock
    have hlock : (st.phase j).locks = false → st.lock = none := by
      intro hfree
      cases hlock : st.lock with
      | none => rfl
      | some k =>
          have hlocks : (st.phase k).locks = true := (h.locked k).mpr hlock
          have hread : (st.phase k).read ≠ none := by
            cases hphase : st.phase k with
            | updated _ _ _ => exact Option.some_ne_none _
            | marked _ _ _ => exact Option.some_ne_none _
            | revoked _ _ _ => exact Option.some_ne_none _
            | waiting => rw [hphase] at hlocks; cases hlocks
            | selected _ _ => rw [hphase] at hlocks; cases hlocks
            | done _ => rw [hphase] at hlocks; cases hlocks
            | refused _ => rw [hphase] at hlocks; cases hlocks
          by_cases hkj : k = j
          · rw [hkj, hfree] at hlocks
            cases hlocks
          · exact absurd (h.exclusive.alone hr hkj) hread
    rw [hselected]
    have hstill : (Function.update st.phase i (.selected r' email)) j = st.phase j :=
      Function.update_of_ne hji _ _
    rw [← hstill] at hr hlock
    rcases @can_commit ι tokenHash requests
      ⟨st.db, Function.update st.phase i (.selected r' email), st.lock⟩ j _ r hr hlock with
      ⟨bs, db, email', hfirst⟩
    rcases @can_commit ι tokenHash requests ⟨db, Function.update
        (Function.update st.phase i (.selected r' email)) j (.done email'), none⟩ i _ r'
      (by simp [hji.symm, ResetPhase.read]) (fun _ => rfl) with ⟨bs', db', email'', hsecond⟩
    refine ⟨bs ++ bs', _, run_append.mpr ⟨_, hfirst, hsecond⟩, ?_⟩
    intro hsingle
    refine hji (hsingle j i ?_ ?_)
    · simp [hji, ResetPhase.changed]
    · simp [ResetPhase.changed]
  next => cases hstep

end

/-! ## Single use -/

/-- The password is changed once when the row of the token is read only while no other
request is between its reading and its end; once it is read otherwise, the requests can end
so that it is changed twice. -/
theorem reset_single_use {ι : Type} [DecidableEq ι] (tokenHash : String)
    (requests : ι → ResetRequest) (db : Database) (as : List (ResetAction ι))
    (halone : Respects (resetStep tokenHash requests) (ReadsAlone tokenHash requests)
      (Resets.start db) as) :
    Always (resetStep tokenHash requests) SingleReset (Resets.start db) as ∧
      ∀ st i st', run (resetStep tokenHash requests) (Resets.start db) as = some st →
        resetStep tokenHash requests st (.select i) = some st' →
        ¬ ReadsAlone tokenHash requests st (.select i) →
        ∃ bs t, run (resetStep tokenHash requests) st' bs = some t ∧ ¬ SingleReset t := by
  have hinv : ∀ (st : Resets ι) a st', ResetInv tokenHash st →
      ReadsAlone tokenHash requests st a → resetStep tokenHash requests st a = some st' →
      ResetInv tokenHash st' :=
    fun _ _ _ h hallowed hstep => resetInv_step h hallowed hstep
  constructor
  · exact always_of_respects (fun _ h => h.single) hinv (resetInv_start db) halone
  · intro st i st' hrun hstep hoverlap
    exact overlap_changes (invariant_of_run hinv (resetInv_start db) halone hrun) hstep hoverlap

/-- The tenant with a reset token of its administrator. -/
def resetDatabase : Database :=
  { tenantDatabase with
    resetTokens := [{
      tokenHash := "t"
      tenantId := 1
      userId := 1
      email := "admin@acme.com"
      expiresAt := 100
      usedAt := none }] }

/-- Two requests with the token. -/
def twoResets (second : Bool) : ResetRequest :=
  if second then ⟨"password2", "h2", 1⟩ else ⟨"password1", "h1", 1⟩

instance (tokenHash : String) (requests : Bool → ResetRequest) (st : Resets Bool) :
    ∀ a, Decidable (ReadsAlone tokenHash requests st a)
  | .select i =>
      inferInstanceAs (Decidable ((selectPhase tokenHash (requests i) st.db).read.isSome →
        ∀ j, (st.phase j).read = none))
  | .update _ | .mark _ | .revoke _ | .commit _ | .fail _ _ => isTrue trivial

/-- The second request comes after the first, and is refused. -/
theorem reset_single_use_in_turn :
    Always (resetStep "t" twoResets) SingleReset (Resets.start resetDatabase)
        [.select false, .update false, .mark false, .revoke false, .commit false,
          .select true] ∧
      ∀ st i st', run (resetStep "t" twoResets) (Resets.start resetDatabase)
          [.select false, .update false, .mark false, .revoke false, .commit false,
            .select true] = some st →
        resetStep "t" twoResets st (.select i) = some st' →
        ¬ ReadsAlone "t" twoResets st (.select i) →
        ∃ bs t, run (resetStep "t" twoResets) st' bs = some t ∧ ¬ SingleReset t :=
  reset_single_use "t" twoResets resetDatabase _ (by decide +kernel)

/-- Both requests read the row before either commits, and both change the password. -/
theorem reset_used_twice :
    ¬ ∀ (tokenHash : String) (requests : Bool → ResetRequest) (db : Database)
      (as : List (ResetAction Bool)),
      Always (resetStep tokenHash requests) SingleReset (Resets.start db) as := by
  intro hclaim
  have hrun : ∃ st, run (resetStep "t" twoResets) (Resets.start resetDatabase)
      [.select false, .select true, .update false, .mark false, .revoke false, .commit false,
        .update true, .mark true, .revoke true, .commit true] = some st ∧
      (st.phase false).changed = true ∧ (st.phase true).changed = true := by
    refine ⟨_, rfl, ?_, ?_⟩
    · decide +kernel
    · decide +kernel
  rcases hrun with ⟨st, hrun, hfirst, hsecond⟩
  have hsingle := hclaim "t" twoResets resetDatabase _ _ [] st (List.append_nil _).symm hrun
  exact absurd (hsingle false true hfirst hsecond) (by decide)

end AuthClaw.Identity
