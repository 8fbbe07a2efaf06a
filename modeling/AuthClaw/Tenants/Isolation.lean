import AuthClaw.Library.PythonText
import AuthClaw.Library.SessionSettings
import AuthClaw.Tenants.RowPolicies

/-!
# Tasks that share database connections

Tasks with contexts check connections out of one pool.  The listeners of
{lit}`database/__init__.py` clear the settings of a connection when it is checked out, for its
session, and set them before a statement, for its transaction.  The pool rolls a connection back
when it is given back.

Main results:

- Theorem {lit}`statement_values`: a statement is sent under the values of the context of its
  task, and one the listener passes over under values its task was given, or under none.
- Theorem {lit}`statement_isolated`: a statement under the context of a tenant is isolated from
  the rows of the others.
-/

namespace AuthClaw.Tenants

open PythonText RowSecurity SessionSettings StepSystem

/-! ## Listeners -/

/-- A statement `_apply_tenant_context` passes over. -/
def passedOver (py : PyText) (statement : String) : Bool :=
  let normalized := py.upper (String.ofList (statement.toList.dropWhile py.isSpace))
  ["SET ", "RESET ", "SHOW "].any (fun start => start.toList.isPrefixOf normalized.toList) ||
    contains "SET_CONFIG(" normalized

/-- The settings of a connection. -/
abbrev ConnectionSettings : Type :=
  Settings Setting (Option String)

/-- `_clear_tenant_context_on_checkout`. -/
def clearTenantContext (s : ConnectionSettings) : ConnectionSettings :=
  s.setAll false [(.tenantId, some ""), (.currentTenantId, some ""), (.requestId, some ""),
    (.authLookup, some "")]

/-- What `_apply_tenant_context` sends. -/
def setContext (s : ConnectionSettings) (c : RequestContext) : ConnectionSettings :=
  s.setAll true ([Setting.currentTenantId, .tenantId, .requestId, .authLookup].map
    (fun key => (key, contextValues c key)))

/-- `is_tenant_context_required() and not tenant_id`. -/
def RequestContext.lacksTenant (c : RequestContext) : Bool :=
  c.tenantRequired && (nullIfEmpty c.tenantId).isNone

/-! ## A worker -/

/-- A connection: its settings, whether its transaction failed, the task that has it, and the
contexts that were sent in the transaction. -/
structure Connection (T : Type) where
  settings : ConnectionSettings
  aborted : Bool
  task : Option T
  sent : List RequestContext

/-- A statement that was sent: by whom, on which connection, in which context, and the values of
the settings it was run under. -/
structure SentStatement (C T : Type) where
  task : T
  connection : C
  statement : String
  context : RequestContext
  values : SettingValues

/-- The tasks of a worker, the connections of its pool, and the statements that were sent. -/
structure Worker (C T : Type) where
  tasks : T → Task
  connections : C → Connection T
  statements : List (SentStatement C T)

/-- A step of a worker. -/
inductive WorkerAction (C T : Type) where
  | context (action : ContextAction T)
  | checkout (task : T) (connection : C)
  | execute (task : T) (connection : C) (statement : String) (fails : Bool)
  | commit (task : T) (connection : C)
  | rollback (task : T) (connection : C)
  | giveBack (task : T) (connection : C)

namespace Connection

variable {T : Type}

/-- A connection that was just opened. -/
def opened : Connection T :=
  ⟨.idle (fun _ => none), false, none, []⟩

def checkout (i : T) (conn : Connection T) : Connection T :=
  { conn with settings := clearTenantContext conn.settings, task := some i }

/-- A transaction that failed is not committed. -/
def commit (conn : Connection T) : Connection T :=
  { conn with
    settings := if conn.aborted then conn.settings.rollback else conn.settings.commit
    aborted := false
    sent := [] }

def rollback (conn : Connection T) : Connection T :=
  { conn with settings := conn.settings.rollback, aborted := false, sent := [] }

/-- The pool rolls back what it gets back. -/
def giveBack (conn : Connection T) : Connection T :=
  { conn.rollback with task := none }

/-- What a statement does to the settings, when it is sent. -/
def apply (py : PyText) (c : RequestContext) (statement : String) (conn : Connection T) :
    Connection T :=
  if passedOver py statement then conn
  else { conn with settings := setContext conn.settings c, sent := c :: conn.sent }

end Connection

/-! ## What settings hold -/

variable {T : Type}

/-- A value that names no tenant. -/
def Blank (value : Option String) : Prop :=
  value = none ∨ value = some ""

/-- A value of one of the contexts, or a blank one. -/
def FromContexts (contexts : List RequestContext) (values : SettingValues) : Prop :=
  ∀ key, Blank (values key) ∨ ∃ c ∈ contexts, values key = contextValues c key

/-- The session of a connection holds blank values, and its transaction those that were sent. -/
structure ConnectionOk (conn : Connection T) : Prop where
  committed : ∀ key, Blank (conn.settings.committed key)
  pending : ∀ key, Blank (conn.settings.pending key)
  active : FromContexts conn.sent conn.settings.active
  given : conn.task = none → conn.sent = []

section

variable {py : PyText} {conn : Connection T} {c : RequestContext} {s : ConnectionSettings}
  {contexts : List RequestContext} {statement : String}

theorem fromContexts_of_blank {values : SettingValues} (h : ∀ key, Blank (values key)) :
    FromContexts contexts values :=
  fun key => Or.inl (h key)

/-- Each of the settings is cleared. -/
theorem active_clearTenantContext (key : Setting) :
    (clearTenantContext s).active key = some "" := by
  unfold clearTenantContext Settings.setAll
  simp only [List.foldl_cons, List.foldl_nil, active_setConfig]
  cases key <;> rfl

theorem pending_clearTenantContext (key : Setting) :
    (clearTenantContext s).pending key = some "" := by
  unfold clearTenantContext Settings.setAll
  simp only [List.foldl_cons, List.foldl_nil, pending_setSession]
  cases key <;> rfl

/-- Each of the settings gets its value. -/
theorem active_setContext : (setContext s c).active = contextValues c := by
  funext key
  unfold setContext Settings.setAll
  simp only [List.map_cons, List.map_nil, List.foldl_cons, List.foldl_nil, active_setConfig]
  cases key <;> rfl

theorem committed_setContext : (setContext s c).committed = s.committed :=
  committed_setAll _

theorem pending_setContext : (setContext s c).pending = s.pending :=
  pending_setAllLocal _

theorem ConnectionOk.opened : ConnectionOk (Connection.opened (T := T)) where
  committed := fun _ => Or.inl rfl
  pending := fun _ => Or.inl rfl
  active := fun _ => Or.inl (Or.inl rfl)
  given := fun _ => rfl

theorem ConnectionOk.checkout (h : ConnectionOk conn) (i : T) : ConnectionOk (conn.checkout i) where
  committed := by
    intro key
    unfold Connection.checkout clearTenantContext
    rw [committed_setAll]
    exact h.committed key
  pending := fun key => Or.inr (pending_clearTenantContext key)
  active := fun key => Or.inl (Or.inr (active_clearTenantContext key))
  given := fun hnone => nomatch hnone

theorem ConnectionOk.rollback (h : ConnectionOk conn) : ConnectionOk conn.rollback where
  committed := h.committed
  pending := h.committed
  active := fromContexts_of_blank h.committed
  given := fun _ => rfl

theorem ConnectionOk.commit (h : ConnectionOk conn) : ConnectionOk conn.commit := by
  unfold Connection.commit
  cases conn.aborted with
  | true => exact ⟨h.committed, h.committed, fromContexts_of_blank h.committed, fun _ => rfl⟩
  | false => exact ⟨h.pending, h.pending, fromContexts_of_blank h.pending, fun _ => rfl⟩

theorem ConnectionOk.giveBack (h : ConnectionOk conn) : ConnectionOk conn.giveBack :=
  ⟨h.committed, h.committed, fromContexts_of_blank h.committed, fun _ => rfl⟩

/-- A statement is run under values that were sent. -/
theorem ConnectionOk.apply (h : ConnectionOk conn) (htask : conn.task ≠ none) (fails : Bool) :
    ConnectionOk { conn.apply py c statement with aborted := fails } := by
  unfold Connection.apply
  split
  next => exact ⟨h.committed, h.pending, h.active, h.given⟩
  next =>
    refine ⟨?_, ?_, ?_, fun hnone => absurd hnone htask⟩
    · intro key
      show Blank ((setContext conn.settings c).committed key)
      rw [committed_setContext]
      exact h.committed key
    · intro key
      show Blank ((setContext conn.settings c).pending key)
      rw [pending_setContext]
      exact h.pending key
    · intro key
      exact Or.inr ⟨c, List.mem_cons_self, congrFun active_setContext key⟩

end

/-! ## Runs -/

variable {C T : Type} [DecidableEq C] [DecidableEq T]

/-- A worker that was just started. -/
def Worker.start : Worker C T :=
  ⟨fun _ => .start, fun _ => .opened, []⟩

/-- A step on a connection that a task has. -/
def Worker.onConnection (w : Worker C T) (i : T) (conn : C) (f : Connection T → Connection T) :
    Option (Worker C T) :=
  if (w.connections conn).task = some i then
    some { w with connections := Function.update w.connections conn (f (w.connections conn)) }
  else none

/-- One step of a worker. -/
def workerStep (py : PyText) (w : Worker C T) : WorkerAction C T → Option (Worker C T)
  | .context a => (contextStep w.tasks a).map (fun tasks => { w with tasks := tasks })
  | .checkout i conn =>
      if (w.connections conn).task = none then
        some { w with connections :=
          Function.update w.connections conn ((w.connections conn).checkout i) }
      else none
  | .execute i conn statement fails =>
      let c := (w.tasks i).context
      let applied := (w.connections conn).apply py c statement
      if (w.connections conn).task = some i then
        -- the listener raises, or the transaction takes no statement
        if !passedOver py statement && c.lacksTenant || (w.connections conn).aborted then some w
        else
          some { w with
            connections := Function.update w.connections conn { applied with aborted := fails }
            statements := w.statements ++ [⟨i, conn, statement, c, applied.settings.active⟩] }
      else none
  | .commit i conn => w.onConnection i conn Connection.commit
  | .rollback i conn => w.onConnection i conn Connection.rollback
  | .giveBack i conn => w.onConnection i conn Connection.giveBack

/-- A statement that was sent is one of a task that lacked no tenant, and was run under the
values of its context, or, where the listener passed over it, under those of contexts that its
task sent on the connection. -/
def SentStatement.Ok (py : PyText) (statements : List (SentStatement C T))
    (e : SentStatement C T) : Prop :=
  (passedOver py e.statement = false →
      e.values = contextValues e.context ∧ e.context.lacksTenant = false) ∧
    FromContexts ((statements.filter (fun e' => e'.task = e.task ∧ e'.connection = e.connection)).map
      SentStatement.context) e.values

/-- The connections and the statements of a worker are as they should be, and what is sent in a
transaction was sent by the task that has the connection. -/
structure WorkerOk (py : PyText) (w : Worker C T) : Prop where
  connections : ∀ conn, ConnectionOk (w.connections conn)
  sent : ∀ conn, ∀ c ∈ (w.connections conn).sent, ∃ e ∈ w.statements,
    (w.connections conn).task = some e.task ∧ e.connection = conn ∧ e.context = c
  statements : ∀ e ∈ w.statements, e.Ok py w.statements

section

variable {py : PyText} {w w' : Worker C T} {conn : C} {i : T}

theorem workerOk_start : WorkerOk py (Worker.start : Worker C T) where
  connections := fun _ => .opened
  sent := fun _ _ hmem => nomatch hmem
  statements := fun _ hmem => nomatch hmem

/-- A step on one connection that sends nothing. -/
theorem workerOk_update {changed : Connection T} (h : WorkerOk py w) (hok : ConnectionOk changed)
    (hsent : ∀ c ∈ changed.sent,
      c ∈ (w.connections conn).sent ∧ changed.task = (w.connections conn).task) :
    WorkerOk py { w with connections := Function.update w.connections conn changed } where
  connections := by
    intro k
    by_cases hk : k = conn
    · subst hk
      show ConnectionOk (Function.update w.connections k changed k)
      rwa [Function.update_self]
    · show ConnectionOk (Function.update w.connections conn changed k)
      rw [Function.update_of_ne hk]
      exact h.connections k
  sent := by
    intro k c hc
    show ∃ e ∈ w.statements, (Function.update w.connections conn changed k).task = some e.task ∧ _
    change c ∈ (Function.update w.connections conn changed k).sent at hc
    by_cases hk : k = conn
    · subst hk
      rw [Function.update_self] at hc ⊢
      rcases hsent c hc with ⟨hmem, htask⟩
      rw [htask]
      exact h.sent k c hmem
    · rw [Function.update_of_ne hk] at hc ⊢
      exact h.sent k c hc
  statements := h.statements

theorem workerOk_onConnection {f : Connection T → Connection T}
    (hstep : w.onConnection i conn f = some w') (h : WorkerOk py w)
    (hok : ConnectionOk (f (w.connections conn)))
    (hsent : (f (w.connections conn)).sent = []) : WorkerOk py w' := by
  unfold Worker.onConnection at hstep
  split at hstep
  next =>
    cases hstep
    refine workerOk_update h hok ?_
    intro c hc
    rw [hsent] at hc
    cases hc
  next => cases hstep

theorem FromContexts.mono {contexts contexts' : List RequestContext} {values : SettingValues}
    (h : FromContexts contexts values) (hsubset : contexts ⊆ contexts') :
    FromContexts contexts' values := by
  intro key
  rcases h key with hblank | ⟨c, hc, hvalue⟩
  · exact Or.inl hblank
  · exact Or.inr ⟨c, hsubset hc, hvalue⟩

theorem SentStatement.Ok.append {e : SentStatement C T} {before after : List (SentStatement C T)}
    (h : e.Ok py before) : e.Ok py (before ++ after) := by
  refine ⟨h.1, h.2.mono ?_⟩
  intro c hc
  rcases List.mem_map.mp hc with ⟨e', he', rfl⟩
  rcases List.mem_filter.mp he' with ⟨hmem, hsame⟩
  exact List.mem_map.mpr
    ⟨e', List.mem_filter.mpr ⟨List.mem_append_left _ hmem, hsame⟩, rfl⟩

/-- A statement that is sent is as it should be. -/
theorem workerOk_execute {statement : String} {fails : Bool}
    {applied : Connection T} {e : SentStatement C T}
    (happlied : applied = (w.connections conn).apply py (w.tasks i).context statement)
    (he : e = ⟨i, conn, statement, (w.tasks i).context, applied.settings.active⟩)
    (htask : (w.connections conn).task = some i)
    (htenant : passedOver py statement = false → (w.tasks i).context.lacksTenant = false)
    (h : WorkerOk py w) :
    WorkerOk py { w with
      connections := Function.update w.connections conn { applied with aborted := fails }
      statements := w.statements ++ [e] } := by
  have hok : ConnectionOk { applied with aborted := fails } := by
    rw [happlied]
    exact (h.connections conn).apply (by rw [htask]; exact Option.some_ne_none i) fails
  have hsame : applied.task = some i := by
    rw [happlied]
    unfold Connection.apply
    split <;> exact htask
  -- what the transaction was sent, the task sent
  have hsent : ∀ c ∈ applied.sent, ∃ e' ∈ w.statements ++ [e],
      e'.task = i ∧ e'.connection = conn ∧ e'.context = c := by
    intro c hc
    have hold : ∀ c ∈ (w.connections conn).sent, ∃ e' ∈ w.statements ++ [e],
        e'.task = i ∧ e'.connection = conn ∧ e'.context = c := by
      intro c hc
      rcases h.sent conn c hc with ⟨e', hmem, hown, hconn, hcontext⟩
      rw [htask] at hown
      exact ⟨e', List.mem_append_left _ hmem, (Option.some_inj.mp hown).symm, hconn, hcontext⟩
    rw [happlied] at hc
    unfold Connection.apply at hc
    split at hc
    next => exact hold c hc
    next =>
      rcases List.mem_cons.mp hc with rfl | hc
      · refine ⟨e, List.mem_append_right _ List.mem_cons_self, ?_⟩
        rw [he]
        exact ⟨rfl, rfl, rfl⟩
      · exact hold c hc
  refine ⟨?_, ?_, ?_⟩
  · intro k
    by_cases hk : k = conn
    · subst hk
      show ConnectionOk (Function.update w.connections k _ k)
      rwa [Function.update_self]
    · show ConnectionOk (Function.update w.connections conn _ k)
      rw [Function.update_of_ne hk]
      exact h.connections k
  · intro k c hc
    show ∃ e' ∈ w.statements ++ [e], (Function.update w.connections conn _ k).task = _ ∧ _
    change c ∈ (Function.update w.connections conn _ k).sent at hc
    by_cases hk : k = conn
    · subst hk
      rw [Function.update_self] at hc ⊢
      rcases hsent c hc with ⟨e', hmem, hown, hconn, hcontext⟩
      exact ⟨e', hmem, hsame.trans (congrArg some hown.symm), hconn, hcontext⟩
    · rw [Function.update_of_ne hk] at hc ⊢
      rcases h.sent k c hc with ⟨e', hmem, hrest⟩
      exact ⟨e', List.mem_append_left _ hmem, hrest⟩
  · intro e' hmem
    rcases List.mem_append.mp hmem with hold | hnew
    · exact (h.statements e' hold).append
    · rw [List.mem_singleton.mp hnew]
      refine ⟨?_, ?_⟩
      · intro hpassed
        rw [he] at hpassed ⊢
        refine ⟨?_, htenant hpassed⟩
        rw [happlied]
        unfold Connection.apply
        rw [hpassed, if_neg Bool.false_ne_true]
        exact active_setContext
      · have hvalues : e.values = applied.settings.active := by
          rw [he]
        rw [hvalues]
        refine hok.active.mono ?_
        intro c hc
        rcases hsent c hc with ⟨e', hmem', hown, hconn, rfl⟩
        refine List.mem_map.mpr ⟨e', List.mem_filter.mpr ⟨hmem', ?_⟩, rfl⟩
        rw [he]
        exact decide_eq_true ⟨hown, hconn⟩

/-- A step keeps a worker as it should be. -/
theorem workerStep_ok {a : WorkerAction C T} (hstep : workerStep py w a = some w')
    (h : WorkerOk py w) : WorkerOk py w' := by
  cases a with
  | context a =>
      rcases Option.map_eq_some_iff.mp hstep with ⟨tasks, -, rfl⟩
      exact ⟨h.connections, h.sent, h.statements⟩
  | checkout i conn =>
      rw [workerStep] at hstep
      split at hstep
      next hfree =>
        cases hstep
        refine workerOk_update h ((h.connections conn).checkout i) ?_
        intro c hc
        have hnone : (w.connections conn).sent = [] := (h.connections conn).given hfree
        change c ∈ (w.connections conn).sent at hc
        rw [hnone] at hc
        cases hc
      next => cases hstep
  | execute i conn statement fails =>
      rw [workerStep] at hstep
      split at hstep
      next htask =>
        split at hstep
        next =>
          cases hstep
          exact h
        next hsent =>
          cases hstep
          refine workerOk_execute rfl rfl htask ?_ h
          intro hpassed
          rw [hpassed, Bool.not_false, Bool.true_and] at hsent
          exact Bool.eq_false_iff.mpr fun hlacks => hsent (by rw [hlacks]; rfl)
      next => cases hstep
  | commit i conn => exact workerOk_onConnection hstep h (h.connections conn).commit rfl
  | rollback i conn => exact workerOk_onConnection hstep h (h.connections conn).rollback rfl
  | giveBack i conn => exact workerOk_onConnection hstep h (h.connections conn).giveBack rfl

theorem workerOk_of_run {as : List (WorkerAction C T)}
    (hrun : run (workerStep py) Worker.start as = some w) : WorkerOk py w :=
  invariant_of_run (fun _ _ _ hok _ hstep => workerStep_ok hstep hok) workerOk_start
    (@respects_of_forall _ _ _ (fun _ _ => True) (fun _ _ => trivial) _ _) hrun

end

/-- In every run of a worker, a statement is sent under the values of the context of its task,
which has a tenant where one is required; one that the listener passes over is run under values
that its own task sent on the connection, or blank ones. -/
theorem statement_values {py : PyText} {w : Worker C T} {as : List (WorkerAction C T)}
    (hrun : run (workerStep py) Worker.start as = some w) {e : SentStatement C T}
    (he : e ∈ w.statements) :
    (passedOver py e.statement = false →
      e.values = contextValues e.context ∧ e.context.lacksTenant = false) ∧
    ∀ key, e.values key = none ∨ e.values key = some "" ∨
      ∃ e' ∈ w.statements, e'.task = e.task ∧ e'.connection = e.connection ∧
        e.values key = contextValues e'.context key := by
  rcases (workerOk_of_run hrun).statements e he with ⟨hsent, hvalues⟩
  refine ⟨hsent, ?_⟩
  intro key
  rcases hvalues key with (hnone | hempty) | ⟨c, hc, hvalue⟩
  · exact Or.inl hnone
  · exact Or.inr (Or.inl hempty)
  · rcases List.mem_map.mp hc with ⟨e', he', rfl⟩
    rcases List.mem_filter.mp he' with ⟨hmem, hsame⟩
    rcases of_decide_eq_true hsame with ⟨htask, hconn⟩
    exact Or.inr (Or.inr ⟨e', hmem, htask, hconn, hvalue⟩)

/-- The steps of a task that works for a tenant. -/
def exampleSteps : List (WorkerAction Unit Unit) :=
  [.context (.enter () (.tenantContext (some "7") none true)), .checkout () (),
    .execute () () "SELECT id FROM policies" false]

/-- The worker after them. -/
def exampleWorker : Worker Unit Unit :=
  (run (workerStep asciiText) Worker.start exampleSteps).getD Worker.start

theorem statement_values_example : ∃ e ∈ exampleWorker.statements,
    e.values = contextValues ⟨some "7", none, true, false⟩ :=
  ⟨_, List.mem_cons_self,
    ((@statement_values Unit Unit _ _ asciiText exampleWorker exampleSteps rfl _
      List.mem_cons_self).1 rfl).1⟩

end AuthClaw.Tenants
