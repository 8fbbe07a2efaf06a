import AuthClaw.Identity.Roles
import AuthClaw.Library.CheckThenAct
import AuthClaw.Library.StepSystem

/-!
# Login states

Callbacks with one login state.  Each reads the row of the state, then exchanges its code and
stores its user, and only then marks the state used; it may fail at every point, and others
run in between.

Main results:

- Theorem {lit}`callback_alone`: a callback without interruption is
  {lit}`completeOidcLoginResponse`.
- Theorem {lit}`login_single_use`: when a state is used once.
-/

namespace AuthClaw.Identity

open PythonText Rows StepSystem CheckThenAct

/-! ## Callbacks -/

/-- How far a callback is; one that failed had read an open state or not. -/
inductive CallbackPhase where
  | waiting
  | loaded (state : LoginStateRow)
  | exchanged (state : LoginStateRow) (provider : ProviderRow)
  | provisioned (state : LoginStateRow) (profile : Profile)
  | marked (profile : Profile)
  | done (payload : List (String × Json)) (token : String)
  | failed (validated : Bool) (e : IdentityError)

/-- The tables and the callbacks. -/
structure Logins (ι : Type) where
  db : Database
  phase : ι → CallbackPhase

/-- Before the callbacks. -/
def Logins.start {ι : Type} (db : Database) : Logins ι :=
  ⟨db, fun _ => .waiting⟩

/-- A step of a callback: a read, what it does with the provider, a transaction, or its end. -/
inductive LoginAction (ι : Type) where
  | load (i : ι)
  | exchange (i : ι)
  | provision (i : ι)
  | mark (i : ι) (now : Int)
  | issue (i : ι) (now : Int)
  | fail (i : ι) (e : IdentityError)

/-- The errors of a callback as its endpoint answers them. -/
def loginError : IdentityError → IdentityError
  | .enterprise message => .http 401 message
  | e => e

/-- The row of the state is read. -/
def loadPhase (c : Callback) (db : Database) : CallbackPhase :=
  match loadState c.stateHash c.now db.loginStates with
  | .error e => .failed false (loginError e)
  | .ok state => .loaded state

/-- The provider is read, and takes the code. -/
def exchangePhase (state : LoginStateRow) (db : Database) : CallbackPhase :=
  match getProviderConfig state.tenantId state.providerId db.providers with
  | .error e => .failed true (loginError e)
  | .ok provider => .exchanged state provider

/-- The row of the user is stored. -/
def provisionPhase (t : Setting) (c : Callback) (state : LoginStateRow) (provider : ProviderRow)
    (db : Database) : CallbackPhase × Database :=
  match upsertOidcUser t provider c.claims c.userinfo c.draws db.users with
  | .error e => (.failed true (loginError e), db)
  | .ok (profile, users) => (.provisioned state profile, { db with users := users })

/-- The refresh token is stored, and the callback answers. -/
def issuePhase (s : Signing) (c : Callback) (profile : Profile) (now : Int) (db : Database) :
    CallbackPhase × Database :=
  match createRefreshTokenForUser s profile.userId profile.tenantId profile.email c.jti now db with
  | .error e => (.failed true e, db)
  | .ok (token, db) => (.done (oidcPayload profile now) token, db)

/-- The open row that a callback has read, and not yet marked. -/
def CallbackPhase.read : CallbackPhase → Option LoginStateRow
  | .loaded state | .exchanged state _ | .provisioned state _ => some state
  | .waiting | .marked _ | .done _ _ | .failed _ _ => none

/-- Whether a callback has ended without a session, past the check of its state. -/
def CallbackPhase.spoiled : CallbackPhase → Bool
  | .failed validated _ => validated
  | _ => false

/-- Whether a callback has created a session. -/
def CallbackPhase.created : CallbackPhase → Bool
  | .done _ _ => true
  | _ => false

/-- What a callback has answered. -/
def CallbackPhase.answer :
    CallbackPhase → Option (Except IdentityError (List (String × Json) × String))
  | .done payload token => some (.ok (payload, token))
  | .failed _ e => some (.error e)
  | _ => none

section

variable {ι : Type} [DecidableEq ι] (t : Setting) (s : Signing) (callbacks : ι → Callback)

/-- A step of a callback. -/
def loginStep (st : Logins ι) : LoginAction ι → Option (Logins ι)
  | .load i =>
      match st.phase i with
      | .waiting =>
          some { st with phase := Function.update st.phase i (loadPhase (callbacks i) st.db) }
      | _ => none
  | .exchange i =>
      match st.phase i with
      | .loaded state =>
          some { st with phase := Function.update st.phase i (exchangePhase state st.db) }
      | _ => none
  | .provision i =>
      match st.phase i with
      | .exchanged state provider =>
          let (p, db) := provisionPhase t (callbacks i) state provider st.db
          some ⟨db, Function.update st.phase i p⟩
      | _ => none
  | .mark i now =>
      match st.phase i with
      | .provisioned state profile =>
          some ⟨{ st.db with
            loginStates := markStateUsed state.stateHash now st.db.loginStates },
            Function.update st.phase i (.marked profile)⟩
      | _ => none
  | .issue i now =>
      match st.phase i with
      | .marked profile =>
          let (p, db) := issuePhase s (callbacks i) profile now st.db
          some ⟨db, Function.update st.phase i p⟩
      | _ => none
  | .fail i e =>
      match st.phase i with
      | .done _ _ | .failed _ _ => none
      | .waiting => some { st with phase := Function.update st.phase i (.failed false e) }
      | _ => some { st with phase := Function.update st.phase i (.failed true e) }

/-- A state opens nothing. -/
def ClosedState (stateHash : String) (db : Database) : Prop :=
  ∀ now, ∃ e, loadState stateHash now db.loginStates = .error e

/-- At most one callback creates a session, and a state whose callback failed opens nothing. -/
def SingleLogin (stateHash : String) (st : Logins ι) : Prop :=
  (∀ i j, (st.phase i).created = true → (st.phase j).created = true → i = j) ∧
    ∀ i, (st.phase i).spoiled = true → ClosedState stateHash st.db

/-- A callback reads an open state only while no other is between its reading and its marking,
and one that has read it does not fail before it marks it. -/
def ReachesMark (st : Logins ι) : LoginAction ι → Prop
  | .load i => (loadPhase (callbacks i) st.db).read.isSome → ∀ j, (st.phase j).read = none
  | .exchange i =>
      ∀ state, st.phase i = .loaded state → (exchangePhase state st.db).read.isSome
  | .provision i =>
      ∀ state provider, st.phase i = .exchanged state provider →
        (provisionPhase t (callbacks i) state provider st.db).1.read.isSome
  | .mark _ _ | .issue _ _ => True
  | .fail i _ => (st.phase i).read = none

end

/-! ## One callback -/

section

variable {ι : Type} [DecidableEq ι] {t : Setting} {s : Signing} {callbacks : ι → Callback}
  {st : Logins ι} {i : ι}

/-- A callback finds its state closed, or reads its open row. -/
theorem loadPhase_cases (c : Callback) (db : Database) :
    (∃ e, loadPhase c db = .failed false e) ∨
      ∃ state, loadPhase c db = .loaded state ∧
        loadState c.stateHash c.now db.loginStates = .ok state := by
  unfold loadPhase
  cases hload : loadState c.stateHash c.now db.loginStates with
  | error e => exact Or.inl ⟨_, rfl⟩
  | ok state => exact Or.inr ⟨state, rfl, rfl⟩

/-- A marked state opens nothing. -/
theorem closedState_mark (stateHash : String) (now : Int) (db : Database) :
    ClosedState stateHash { db with
      loginStates := markStateUsed stateHash now db.loginStates } := by
  intro now'
  have hfind : (markStateUsed stateHash now db.loginStates).find? (fun r =>
      r.stateHash = stateHash ∧ r.usedAt = none ∧ now' < r.expiresAt) = none := by
    rw [List.find?_eq_none]
    intro r hr hopen
    rw [decide_eq_true_eq] at hopen
    rcases mem_updateWhere.mp hr with ⟨q, -, ⟨-, rfl⟩ | ⟨hother, rfl⟩⟩
    · cases hopen.2.1
    · rw [decide_eq_false_iff_not] at hother
      exact hother hopen.1
  refine ⟨.enterprise "OIDC login state is invalid or expired.", ?_⟩
  unfold loadState
  simp only [hfind]

/-- The answer to a callback that fails before its session. -/
theorem completeOidcLoginResponse_of_error {c : Callback} {db db' : Database} {e : IdentityError}
    (h : completeOidcCallback t c db = (.error e, db')) :
    completeOidcLoginResponse t s c db = (.error (loginError e), db') := by
  unfold completeOidcLoginResponse
  rw [h]
  cases e with
  | enterprise message => rfl
  | http status detail => rfl
  | python e => rfl
  | database => rfl

/-- A callback that has marked its state creates its session. -/
theorem issue_alone {result : Except IdentityError (List (String × Json) × String)}
    {profile : Profile} {db : Database} (hphase : st.phase i = .marked profile)
    (hcallback : completeOidcCallback t (callbacks i) db = (.ok profile, st.db))
    {db' : Database}
    (hresult : completeOidcLoginResponse t s (callbacks i) db = (result, db')) :
    ∃ as p, run (loginStep t s callbacks) st as = some ⟨db', Function.update st.phase i p⟩ ∧
      p.answer = some result := by
  unfold completeOidcLoginResponse at hresult
  rw [hcallback] at hresult
  dsimp only at hresult
  split_ifs at hresult with hrefresh
  · cases hresult
    exact ⟨[.fail i .database], .failed true .database, by simp [run, loginStep, hphase], rfl⟩
  · cases hcreated : createRefreshTokenForUser s profile.userId profile.tenantId profile.email
        (callbacks i).jti (callbacks i).now st.db with
    | error e =>
        rw [hcreated] at hresult
        cases hresult
        exact ⟨[.issue i (callbacks i).now], .failed true e, by
          simp [run, loginStep, hphase, issuePhase, hcreated], rfl⟩
    | ok created =>
        rcases created with ⟨token, db'⟩
        rw [hcreated] at hresult
        cases hresult
        exact ⟨[.issue i (callbacks i).now], .done (oidcPayload profile (callbacks i).now) token,
          by simp [run, loginStep, hphase, issuePhase, hcreated], rfl⟩

/-- A callback that has stored its user marks its state and creates its session. -/
theorem mark_alone {result : Except IdentityError (List (String × Json) × String)}
    {state : LoginStateRow} {profile : Profile} {db db' : Database}
    (hphase : st.phase i = .provisioned state profile)
    (hcallback : completeOidcCallback t (callbacks i) db = (.ok profile, { st.db with
      loginStates := markStateUsed state.stateHash (callbacks i).now st.db.loginStates }))
    (hresult : completeOidcLoginResponse t s (callbacks i) db = (result, db')) :
    ∃ as p, run (loginStep t s callbacks) st as = some ⟨db', Function.update st.phase i p⟩ ∧
      p.answer = some result := by
  have hmark : loginStep t s callbacks st (.mark i (callbacks i).now) = some ⟨{ st.db with
      loginStates := markStateUsed state.stateHash (callbacks i).now st.db.loginStates },
      Function.update st.phase i (.marked profile)⟩ := by
    simp only [loginStep, hphase]
  rcases @issue_alone ι _ t s callbacks ⟨_, Function.update st.phase i (.marked profile)⟩ i _ _ _
    (Function.update_self i _ _) hcallback _ hresult with ⟨as, p, hrun, hanswer⟩
  refine ⟨.mark i (callbacks i).now :: as, p, ?_, hanswer⟩
  rw [run_cons_eq_some]
  exact ⟨_, hmark, by rw [hrun, Function.update_idem]⟩

/-- A callback without interruption answers, and changes the tables, as
`_complete_oidc_login_response` does. -/
theorem callback_alone {result : Except IdentityError (List (String × Json) × String)}
    {db : Database} (hphase : st.phase i = .waiting)
    (hresult : completeOidcLoginResponse t s (callbacks i) st.db = (result, db)) :
    ∃ as p, run (loginStep t s callbacks) st as = some ⟨db, Function.update st.phase i p⟩ ∧
      p.answer = some result := by
  have hfails : ∀ {e : IdentityError} {db' : Database},
      completeOidcCallback t (callbacks i) st.db = (.error e, db') →
      result = .error (loginError e) ∧ db = db' := by
    intro e db' hcallback
    rw [completeOidcLoginResponse_of_error hcallback] at hresult
    cases hresult
    exact ⟨rfl, rfl⟩
  cases hload : loadState (callbacks i).stateHash (callbacks i).now st.db.loginStates with
  | error e =>
      rcases hfails (by simp only [completeOidcCallback, hload]; rfl) with ⟨rfl, rfl⟩
      exact ⟨[.load i], .failed false (loginError e), by
        simp only [run, loginStep, hphase, loadPhase, hload], rfl⟩
  | ok state =>
      cases hprovider : getProviderConfig state.tenantId state.providerId st.db.providers with
      | error e =>
          rcases hfails (by simp only [completeOidcCallback, hload, hprovider]; rfl) with
            ⟨rfl, rfl⟩
          exact ⟨[.load i, .exchange i], .failed true (loginError e), by
            simp [run, loginStep, hphase, loadPhase, hload, exchangePhase, hprovider], rfl⟩
      | ok provider =>
          by_cases hexchange : (callbacks i).stop = some .exchange
          · rcases hfails (by
              simp only [completeOidcCallback, hload, hprovider, if_pos hexchange]; rfl) with
              ⟨rfl, rfl⟩
            exact ⟨[.load i, .fail i (.python .other)], .failed true (.python .other), by
              simp [run, loginStep, hphase, loadPhase, hload], rfl⟩
          · cases hstored : upsertOidcUser t provider (callbacks i).claims
                (callbacks i).userinfo (callbacks i).draws st.db.users with
            | error e =>
                rcases hfails (by
                  simp only [completeOidcCallback, hload, hprovider, if_neg hexchange, hstored]
                  rfl) with ⟨rfl, rfl⟩
                exact ⟨[.load i, .exchange i, .provision i], .failed true (loginError e), by
                  simp [run, loginStep, hphase, loadPhase, hload, exchangePhase, hprovider,
                    provisionPhase, hstored], rfl⟩
            | ok stored =>
                rcases stored with ⟨profile, users⟩
                have hprovisioned : run (loginStep t s callbacks) st
                    [.load i, .exchange i, .provision i] = some ⟨{ st.db with users := users },
                      Function.update st.phase i (.provisioned state profile)⟩ := by
                  simp [run, loginStep, hphase, loadPhase, hload, exchangePhase, hprovider,
                    provisionPhase, hstored]
                by_cases hmarking : (callbacks i).stop = some .providerSession ∨
                    (callbacks i).stop = some .marking
                · rcases hfails (by
                    simp only [completeOidcCallback, hload, hprovider, if_neg hexchange, hstored,
                      if_pos hmarking]
                    rfl) with ⟨rfl, rfl⟩
                  refine ⟨[.load i, .exchange i, .provision i] ++ [.fail i .database],
                    .failed true .database, run_append.mpr ⟨_, hprovisioned, ?_⟩, rfl⟩
                  simp [run, loginStep]
                · have hcallback : completeOidcCallback t (callbacks i) st.db =
                      (.ok profile, { st.db with
                        users := users
                        loginStates := markStateUsed state.stateHash (callbacks i).now
                          st.db.loginStates }) := by
                    simp only [completeOidcCallback, hload, hprovider, if_neg hexchange, hstored,
                      if_neg hmarking]
                  rcases @mark_alone ι _ t s callbacks ⟨{ st.db with users := users },
                    Function.update st.phase i (.provisioned state profile)⟩ i _ _ _ _ _
                    (Function.update_self i _ _) hcallback hresult with ⟨as, p, hrun, hanswer⟩
                  refine ⟨[.load i, .exchange i, .provision i] ++ as, p,
                    run_append.mpr ⟨_, hprovisioned, ?_⟩, hanswer⟩
                  rw [hrun, Function.update_idem]

end

/-! ## Runs -/

section

variable {ι : Type} {t : Setting} {s : Signing} {callbacks : ι → Callback}
  {stateHash : String} {st st' : Logins ι} {i : ι}

/-- Whether a callback is past its marking, or failed after its reading. -/
def CallbackPhase.past : CallbackPhase → Bool
  | .marked _ | .done _ _ => true
  | .failed validated _ => validated
  | _ => false

theorem CallbackPhase.past_of_created {p : CallbackPhase} (h : p.created = true) :
    p.past = true := by
  cases p with
  | done payload token => rfl
  | waiting => cases h
  | loaded _ => cases h
  | exchanged _ _ => cases h
  | provisioned _ _ => cases h
  | marked _ => cases h
  | failed _ _ => cases h

theorem CallbackPhase.past_of_spoiled {p : CallbackPhase} (h : p.spoiled = true) :
    p.past = true := by
  cases p with
  | failed validated e => exact h
  | waiting => cases h
  | loaded _ => cases h
  | exchanged _ _ => cases h
  | provisioned _ _ => cases h
  | marked _ => cases h
  | done _ _ => cases h

/-- At most one callback has read the state, which is open, and at most one is past it, and
has closed it. -/
structure LoginInv (stateHash : String) (st : Logins ι) : Prop where
  exclusive : Exclusive (fun i => (st.phase i).read)
    (fun _ state => ∃ now, loadState stateHash now st.db.loginStates = .ok state)
  closed : ∀ i, (st.phase i).past = true → ClosedState stateHash st.db
  single : ∀ i j, (st.phase i).past = true → (st.phase j).past = true → i = j

theorem loginInv_start (db : Database) : LoginInv stateHash (Logins.start db : Logins ι) where
  exclusive := exclusive_of_none (fun _ => rfl)
  closed := fun _ h => by cases h
  single := fun _ _ h => by cases h

theorem LoginInv.singleLogin (h : LoginInv stateHash st) : SingleLogin stateHash st := by
  constructor
  · intro i j hi hj
    exact h.single i j (CallbackPhase.past_of_created hi) (CallbackPhase.past_of_created hj)
  · intro i hi
    exact h.closed i (CallbackPhase.past_of_spoiled hi)

variable [DecidableEq ι]

/-- A step of a callback that leaves the login states alone. -/
theorem LoginInv.move (h : LoginInv stateHash st) {p : CallbackPhase} {db : Database}
    (hstates : db.loginStates = st.db.loginStates)
    (hexclusive : Exclusive (Function.update (fun j => (st.phase j).read) i p.read)
      (fun _ state => ∃ now, loadState stateHash now st.db.loginStates = .ok state))
    (hpast : p.past = true → (st.phase i).past = true) :
    LoginInv stateHash ⟨db, Function.update st.phase i p⟩ := by
  have hearlier : ∀ j, (Function.update st.phase i p j).past = true →
      (st.phase j).past = true :=
    (Function.forall_update_iff st.phase
      (fun j q => q.past = true → (st.phase j).past = true)).mpr ⟨hpast, fun _ _ hj => hj⟩
  constructor
  · dsimp only
    rw [hstates, read_update CallbackPhase.read]
    exact hexclusive
  · intro j hj now
    dsimp only
    rw [hstates]
    exact h.closed j (hearlier j hj) now
  · exact fun j k hj hk => h.single j k (hearlier j hj) (hearlier k hk)

/-- A callback that has read the state goes on. -/
theorem LoginInv.advance (h : LoginInv stateHash st) {p : CallbackPhase} {db : Database}
    (hstates : db.loginStates = st.db.loginStates) (hread : p.read = (st.phase i).read)
    (hpast : p.past = true → (st.phase i).past = true) :
    LoginInv stateHash ⟨db, Function.update st.phase i p⟩ := by
  refine h.move hstates ?_ hpast
  rw [hread, Function.update_eq_self i (fun j => (st.phase j).read)]
  exact h.exclusive

/-- A callback marks the state: nobody else has read it, and nobody is past it. -/
theorem LoginInv.mark (h : LoginInv stateHash st) {state : LoginStateRow} {profile : Profile}
    (hphase : st.phase i = .provisioned state profile) (now : Int) :
    LoginInv stateHash ⟨{ st.db with
      loginStates := markStateUsed state.stateHash now st.db.loginStates },
      Function.update st.phase i (.marked profile)⟩ := by
  have hread : (st.phase i).read = some state := by rw [hphase]; rfl
  rcases h.exclusive.current i state hread with ⟨now', hopen⟩
  have hhash : state.stateHash = stateHash := loadState_eq_ok hopen
  -- the row it read is still open, so nobody is past the marking
  have hfirst : ∀ j, (st.phase j).past = true → False := by
    intro j hj
    rcases h.closed j hj now' with ⟨e, hclosed⟩
    rw [hclosed] at hopen
    cases hopen
  have honly : ∀ j, (Function.update st.phase i (.marked profile) j).past = true → j = i :=
    (Function.forall_update_iff st.phase (fun j q => q.past = true → j = i)).mpr
      ⟨fun _ => rfl, fun j _ hj => (hfirst j hj).elim⟩
  constructor
  · rw [read_update CallbackPhase.read]
    exact exclusive_of_none (h.exclusive.none_of_leave hread)
  · intro _ _
    rw [hhash]
    exact closedState_mark stateHash now st.db
  · intro j k hj hk
    rw [honly j hj, honly k hk]

/-- A step keeps the invariant when the callbacks that read the state mark it, one at a time. -/
theorem loginInv_step {a : LoginAction ι} (h : LoginInv stateHash st)
    (hsame : ∀ i, (callbacks i).stateHash = stateHash)
    (hallowed : ReachesMark t callbacks st a)
    (hstep : loginStep t s callbacks st a = some st') : LoginInv stateHash st' := by
  cases a with
  | load i =>
      unfold loginStep at hstep
      dsimp only at hstep
      split at hstep
      next hphase =>
        cases hstep
        rcases loadPhase_cases (callbacks i) st.db with ⟨e, hfailed⟩ | ⟨state, hloaded, hopen⟩
        · rw [hfailed]
          exact h.move rfl h.exclusive.leave (fun hpast => by cases hpast)
        · have halone : ∀ j, (st.phase j).read = none := hallowed (by rw [hloaded]; rfl)
          rw [hsame i] at hopen
          rw [hloaded]
          exact h.move rfl (Exclusive.enter (fun j _ => halone j) ⟨_, hopen⟩)
            (fun hpast => by cases hpast)
      next => cases hstep
  | exchange i =>
      unfold loginStep at hstep
      dsimp only at hstep
      split at hstep
      next state hphase =>
        cases hstep
        have hreads := hallowed state hphase
        unfold exchangePhase at hreads ⊢
        cases hprovider : getProviderConfig state.tenantId state.providerId st.db.providers with
        | error e =>
            rw [hprovider] at hreads
            cases hreads
        | ok provider =>
            exact h.advance rfl (by rw [hphase]; rfl) (fun hpast => by cases hpast)
      next => cases hstep
  | provision i =>
      unfold loginStep at hstep
      dsimp only at hstep
      split at hstep
      next state provider hphase =>
        cases hstep
        have hreads := hallowed state provider hphase
        unfold provisionPhase at hreads ⊢
        cases hstored : upsertOidcUser t provider (callbacks i).claims (callbacks i).userinfo
            (callbacks i).draws st.db.users with
        | error e =>
            rw [hstored] at hreads
            cases hreads
        | ok stored =>
            exact h.advance rfl (by rw [hphase]; rfl) (fun hpast => by cases hpast)
      next => cases hstep
  | mark i now =>
      unfold loginStep at hstep
      dsimp only at hstep
      split at hstep
      next state profile hphase =>
        cases hstep
        exact h.mark hphase now
      next => cases hstep
  | issue i now =>
      unfold loginStep at hstep
      dsimp only at hstep
      split at hstep
      next profile hphase =>
        cases hstep
        unfold issuePhase
        cases hcreated : createRefreshTokenForUser s profile.userId profile.tenantId
            profile.email (callbacks i).jti now st.db with
        | error e => exact h.advance rfl (by rw [hphase]; rfl) (fun _ => by rw [hphase]; rfl)
        | ok created =>
            rcases createRefreshToken_eq_ok hcreated with ⟨-, -, row, -, hdb⟩
            refine h.advance ?_ (by rw [hphase]; rfl) (fun _ => by rw [hphase]; rfl)
            rw [hdb]
      next => cases hstep
  | fail i e =>
      have hnone : (st.phase i).read = none := hallowed
      unfold loginStep at hstep
      dsimp only at hstep
      split at hstep
      next => cases hstep
      next => cases hstep
      next hphase =>
        cases hstep
        exact h.advance rfl (by rw [hphase]; rfl) (fun hpast => by cases hpast)
      next hdone hfailed hwaiting =>
        cases hstep
        refine h.advance rfl hnone.symm (fun _ => ?_)
        cases hphase : st.phase i with
        | marked profile => rfl
        | waiting => exact absurd hphase hwaiting
        | done payload token => exact absurd hphase (hdone payload token)
        | failed validated e => exact absurd hphase (hfailed validated e)
        | loaded state => rw [hphase] at hnone; cases hnone
        | exchanged state provider => rw [hphase] at hnone; cases hnone
        | provisioned state profile => rw [hphase] at hnone; cases hnone

end

/-! ## Single use -/

/-- A state is used once when it is read open only while no other callback is between its
reading and its marking, and none fails between them. -/
theorem login_single_use {ι : Type} [DecidableEq ι] (t : Setting) (s : Signing)
    (callbacks : ι → Callback) (stateHash : String)
    (hsame : ∀ i, (callbacks i).stateHash = stateHash) (db : Database)
    (as : List (LoginAction ι))
    (hreaches : Respects (loginStep t s callbacks) (ReachesMark t callbacks) (Logins.start db) as) :
    Always (loginStep t s callbacks) (SingleLogin stateHash) (Logins.start db) as :=
  always_of_respects (fun _ h => h.singleLogin)
    (fun _ _ _ h hallowed hstep => loginInv_step h hsame hallowed hstep) (loginInv_start db)
    hreaches

/-- A tenant with a provider, and a login that has started. -/
def loginDatabase : Database :=
  { tenantDatabase with
    providers := [{
      id := 1
      tenantId := 1
      providerType := "okta"
      clientId := "c"
      issuer := "https://idp"
      groupsClaim := "groups"
      roleMapping := .obj []
      enabled := true }]
    loginStates := [{
      stateHash := "s"
      tenantId := 1
      providerId := 1
      codeVerifier := "v"
      nonce := "n"
      expiresAt := 600000000
      usedAt := none }] }

/-- Two callbacks with the state. -/
def twoCallbacks (second : Bool) : Callback :=
  if second then { signIn with jti := "k" } else signIn

instance (t : Setting) (callbacks : Bool → Callback) (st : Logins Bool) :
    ∀ a, Decidable (ReachesMark t callbacks st a)
  | .load i =>
      inferInstanceAs (Decidable ((loadPhase (callbacks i) st.db).read.isSome →
        ∀ j, (st.phase j).read = none))
  | .exchange i =>
      match h : st.phase i with
      | .loaded state =>
          decidable_of_iff ((exchangePhase state st.db).read.isSome = true) (by
            simp [ReachesMark, h])
      | .waiting | .exchanged _ _ | .provisioned _ _ | .marked _ | .done _ _ | .failed _ _ =>
          isTrue (by simp [ReachesMark, h])
  | .provision i =>
      match h : st.phase i with
      | .exchanged state provider =>
          decidable_of_iff
            ((provisionPhase t (callbacks i) state provider st.db).1.read.isSome = true) (by
            simp [ReachesMark, h])
      | .waiting | .loaded _ | .provisioned _ _ | .marked _ | .done _ _ | .failed _ _ =>
          isTrue (by simp [ReachesMark, h])
  | .mark _ _ | .issue _ _ => isTrue trivial
  | .fail i _ =>
      match h : (st.phase i).read with
      | none => isTrue h
      | some state => isFalse (by simp [ReachesMark, h])

/-- The second callback comes after the first has marked the state, and is refused. -/
theorem login_single_use_in_turn :
    Always (loginStep plainSetting plainSigning twoCallbacks) (SingleLogin "s")
      (Logins.start loginDatabase)
      [.load false, .exchange false, .provision false, .mark false 2, .load true,
        .issue false 3] :=
  login_single_use plainSetting plainSigning twoCallbacks "s" (by decide) loginDatabase _
    (by decide +kernel)

/-- Two callbacks that read the state before either marks it both create a session, and a
callback whose code is refused leaves the state to another. -/
theorem login_state_reused :
    (¬ Always (loginStep plainSetting plainSigning twoCallbacks) (SingleLogin "s")
        (Logins.start loginDatabase)
        [.load false, .load true, .exchange false, .provision false, .mark false 2,
          .issue false 2, .exchange true, .provision true, .mark true 3, .issue true 3]) ∧
      ¬ Always (loginStep plainSetting plainSigning twoCallbacks) (SingleLogin "s")
        (Logins.start loginDatabase)
        [.load false, .fail false (.python .other), .load true, .exchange true, .provision true,
          .mark true 2, .issue true 2] := by
  constructor
  · intro halways
    have hsingle := halways _ [] _ (List.append_nil _).symm rfl
    exact absurd (hsingle.1 false true (by decide +kernel) (by decide +kernel)) (by decide)
  · intro halways
    have hsingle := halways [.load false, .fail false (.python .other)] _ _ rfl rfl
    rcases hsingle.2 false rfl 1 with ⟨e, he⟩
    cases he

end AuthClaw.Identity
