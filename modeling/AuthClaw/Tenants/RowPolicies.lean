import AuthClaw.Library.RowSecurity
import AuthClaw.Tenants.RequestContext

/-!
# Row policies of the tenant tables

The policies {lit}`database/migrations.py` forces on the tables that hold rows of tenants.  They
read four settings of the session, which a statement is sent under the values of its context.

Main results:

- Theorem {lit}`statement_noninterference`: under the context of a tenant a statement neither
  reads nor changes rows of other tenants, nor does what it does depend on them.
- Theorem {lit}`accepts_contextValues`: outside of lookups a row of a tenant is written under its
  context alone.
-/

namespace AuthClaw.Tenants

open RowSecurity

/-! ## Settings -/

/-- The settings the policies read. -/
inductive Setting where
  | currentTenantId
  | tenantId
  | requestId
  | authLookup
deriving DecidableEq

/-- What `current_setting(name, true)` gives; `none` for a name that was never set. -/
abbrev SettingValues : Type :=
  Setting → Option String

/-- The values `_apply_tenant_context` sends. -/
def contextValues (c : RequestContext) : SettingValues
  | .currentTenantId => some (c.tenantId.getD "")
  | .tenantId => some (c.tenantId.getD "")
  | .requestId => some (c.requestId.getD "")
  | .authLookup => some (if c.authLookup then "on" else "")

/-! ## Tables -/

/-- The tables with row level security. -/
inductive TenantTable where
  | auditLogs
  | gatewayRequests
  | gatewayRoutes
  | tenantUsers
  | tenantApiKeys
  | authRefreshTokens
  | authMfaSessions
  | authPasswordResetTokens
  | tenantIdentityProviders
  | oidcLoginStates
  | oidcJwksCache
  | oidcUserSessions
  | tenantCredentials
  | agentEvents
  | gatewayApprovals
  | approvalAuditEvents
  | usageEvents
  | policies
  | policyAuditHistory
  | policyVersions
  | policyChangeApprovals
  | policySimulationResults
  | policyEvaluationAudit
  | knowledgeDocuments
  | knowledgeChunks
  | documents
  | documentFindings
  | documentScans
  | documentAudits
  | chatSessions
  | chatMessages
  | secrets
  | complianceEvidence
  | complianceControlEvidence
  | complianceControlScores
  | complianceScoreChanges
  | eventDeliveryRecords
  | eventDeadLetters
  | rateLimitEvents
  | workerThrottleEvents
  | remediationConnectors
  | remediationFindings
  | remediationPlans
  | remediationWorkerRuns
  | workerCredentialLeases
  | remediationWorkerAuditEvents
deriving DecidableEq

/-- A row of a tenant: the text of its tenant, and the other columns. -/
structure SecuredRow (D : Type) where
  tenantId : Option String
  data : D

variable {D : Type}

/-- `a = b` of two values that may be null. -/
def sqlEq : Option String → Option String → Bool
  | some a, some b => a = b
  | _, _ => false

/-- `NULLIF(value, '')`. -/
def nullIfEmpty (value : Option String) : Option String :=
  value.filter (fun text => text ≠ "")

/-- `tenant_id::text = current_setting('app.tenant_id', true)`. -/
def ownTenant (v : SettingValues) (row : SecuredRow D) : Bool :=
  sqlEq row.tenantId (v .tenantId)

/-- `tenant_id::text = COALESCE(NULLIF(current_setting('app.current_tenant_id', true), ''),
NULLIF(current_setting('app.tenant_id', true), ''))`. -/
def ownCurrentTenant (v : SettingValues) (row : SecuredRow D) : Bool :=
  sqlEq row.tenantId ((nullIfEmpty (v .currentTenantId)).or (nullIfEmpty (v .tenantId)))

/-- `current_setting('app.auth_lookup', true) = 'on'`. -/
def authLookupOn (v : SettingValues) : Bool :=
  sqlEq (v .authLookup) (some "on")

/-- `tenant_id IS NULL OR tenant_id::text = current_setting('app.tenant_id', true)`. -/
def nullOrOwnTenant (v : SettingValues) (row : SecuredRow D) : Bool :=
  row.tenantId.isNone || ownTenant v row

/-- The policy of a table. -/
def tenantIsolation : TenantTable → RowPolicy SettingValues (SecuredRow D)
  | .policies | .chatSessions | .chatMessages => ⟨ownCurrentTenant, ownCurrentTenant⟩
  | .tenantUsers => ⟨fun v row => ownCurrentTenant v row || authLookupOn v, ownCurrentTenant⟩
  | .tenantApiKeys | .tenantIdentityProviders | .oidcLoginStates | .oidcJwksCache =>
      ⟨fun v row => ownTenant v row || authLookupOn v, ownTenant⟩
  | .authMfaSessions | .authPasswordResetTokens =>
      ⟨fun v row => ownTenant v row || authLookupOn v,
        fun v row => ownTenant v row || authLookupOn v⟩
  | .eventDeliveryRecords | .eventDeadLetters => ⟨nullOrOwnTenant, nullOrOwnTenant⟩
  | _ => ⟨ownTenant, ownTenant⟩

/-- The tables whose rows without a tenant belong to all. -/
def TenantTable.shared : TenantTable → Bool
  | .eventDeliveryRecords | .eventDeadLetters => true
  | _ => false

/-- The tables whose rows may be written during a lookup. -/
def TenantTable.writtenInLookup : TenantTable → Bool
  | .authMfaSessions | .authPasswordResetTokens => true
  | _ => false

/-- The tables whose rows are shown during a lookup. -/
def TenantTable.shownInLookup : TenantTable → Bool
  | .tenantUsers | .tenantApiKeys | .tenantIdentityProviders | .oidcLoginStates
  | .oidcJwksCache | .authMfaSessions | .authPasswordResetTokens => true
  | _ => false

/-- A row of a tenant, or one of all. -/
def TenantTable.owns (table : TenantTable) (tenant : String) (row : SecuredRow D) : Bool :=
  row.tenantId = some tenant || (table.shared && row.tenantId.isNone)

/-! ## Under the context of a tenant -/

section

variable {c : RequestContext} {tenant : String} {table : TenantTable} {row : SecuredRow D}

theorem sqlEq_some {a : Option String} {b : String} :
    sqlEq a (some b) = decide (a = some b) := by
  cases a with
  | none => rfl
  | some a =>
      show decide (a = b) = _
      rw [decide_eq_decide]
      exact Option.some_inj.symm

theorem sqlEq_none (a : Option String) : sqlEq a none = false := by
  cases a <;> rfl

theorem authLookupOn_contextValues (c : RequestContext) :
    authLookupOn (contextValues c) = c.authLookup := by
  unfold authLookupOn contextValues
  rw [sqlEq_some]
  cases c.authLookup <;> rfl

theorem ownTenant_contextValues (hc : c.tenantId = some tenant) :
    ownTenant (contextValues c) row = decide (row.tenantId = some tenant) := by
  unfold ownTenant contextValues
  rw [hc]
  exact sqlEq_some

theorem ownCurrentTenant_contextValues (hc : c.tenantId = some tenant) (htenant : tenant ≠ "") :
    ownCurrentTenant (contextValues c) row = decide (row.tenantId = some tenant) := by
  unfold ownCurrentTenant contextValues nullIfEmpty
  rw [hc]
  simp only [Option.getD_some, Option.filter_some, htenant, ne_eq, not_false_eq_true, decide_true,
    if_true, Option.or]
  exact sqlEq_some

/-- A policy shows what it lets a statement write. -/
theorem showsAccepted (table : TenantTable) (v : SettingValues) :
    (tenantIsolation (D := D) table).ShowsAccepted v := by
  intro row haccepts
  cases table <;> first
    | exact haccepts
    | exact Bool.or_eq_true_iff.mpr (Or.inl haccepts)

/-- The rows a statement sees under the context of a tenant outside of lookups are its own. -/
theorem shows_contextValues (hc : c.tenantId = some tenant) (htenant : tenant ≠ "")
    (hlookup : c.authLookup = false) :
    (tenantIsolation table).shows (contextValues c) row = table.owns tenant row := by
  have hown := @ownTenant_contextValues D c tenant row hc
  have hcurrent := @ownCurrentTenant_contextValues D c tenant row hc htenant
  have hon : authLookupOn (contextValues c) = false :=
    (authLookupOn_contextValues c).trans hlookup
  unfold TenantTable.owns
  cases table <;>
    simp only [tenantIsolation, TenantTable.shared, nullOrOwnTenant, hown, hcurrent, hon,
      Bool.or_false, Bool.false_and, Bool.true_and] <;>
    exact Bool.or_comm _ _

/-- Under the context of a tenant, outside of lookups, a statement returns rows of the tenant,
leaves the others alone, and does the same whatever the others are. -/
theorem statement_noninterference {rows rows' result after : List (SecuredRow D)}
    {statement : RowStatement (SecuredRow D)} (hc : c.tenantId = some tenant)
    (htenant : tenant ≠ "") (hlookup : c.authLookup = false)
    (hrows : rows.filter (table.owns tenant) = rows'.filter (table.owns tenant))
    (hdone : perform (tenantIsolation table) (contextValues c) rows statement =
      some (result, after)) :
    (∀ row ∈ result, row ∈ rows ∧ table.owns tenant row = true) ∧
      after.filter (fun row => !table.owns tenant row) =
        rows.filter (fun row => !table.owns tenant row) ∧
      ∃ after', perform (tenantIsolation table) (contextValues c) rows' statement =
          some (result, after') ∧
        after'.filter (table.owns tenant) = after.filter (table.owns tenant) := by
  have hshows : ∀ row : SecuredRow D,
      (tenantIsolation table).shows (contextValues c) row = table.owns tenant row :=
    fun row => shows_contextValues hc htenant hlookup
  have hshown : ∀ rows : List (SecuredRow D),
      (tenantIsolation table).shown (contextValues c) rows = rows.filter (table.owns tenant) :=
    fun rows => List.filter_congr fun row _ => hshows row
  refine ⟨?_, ?_, ?_⟩
  · intro row hrow
    rcases perform_result hdone row hrow with ⟨hmem, hrow⟩
    exact ⟨hmem, (hshows row).symm.trans hrow⟩
  · have hhidden := perform_hidden (showsAccepted table _) hdone
    unfold RowPolicy.hidden at hhidden
    rw [List.filter_congr fun row _ => congrArg not (hshows row)] at hhidden
    rw [hhidden]
    exact List.filter_congr fun row _ => congrArg not (hshows row)
  · have hsame := @perform_congr _ _ (tenantIsolation table) (contextValues c) rows rows' statement
      (showsAccepted table (contextValues c)) (by rw [hshown, hshown, hrows])
    rw [hdone, Option.map_some] at hsame
    rcases Option.map_eq_some_iff.mp hsame.symm with ⟨⟨result', after'⟩, hdone', heq⟩
    rcases Prod.mk.inj heq with ⟨hresult, hafter⟩
    refine ⟨after', ?_, ?_⟩
    · exact hdone'.trans (congrArg (fun result => some (result, after')) hresult)
    · rw [← hshown, ← hshown]
      exact hafter

/-! ## Without a tenant -/

theorem ownCurrentTenant_of_no_tenant (hc : c.tenantId = none) :
    ownCurrentTenant (contextValues c) row = false := by
  unfold ownCurrentTenant contextValues nullIfEmpty
  rw [hc]
  exact sqlEq_none _

/-- What a statement may write without a tenant. -/
theorem accepts_without_tenant (hc : c.tenantId = none) (hrow : row.tenantId ≠ some "")
    (haccepts : (tenantIsolation table).accepts (contextValues c) row = true) :
    (table.writtenInLookup = true ∧ c.authLookup = true) ∨
      (table.shared = true ∧ row.tenantId = none) := by
  have hown : ownTenant (contextValues c) row = false := by
    unfold ownTenant contextValues
    rw [hc]
    exact sqlEq_some.trans (decide_eq_false hrow)
  have hcurrent := @ownCurrentTenant_of_no_tenant D c row hc
  cases table <;>
    simp only [tenantIsolation, nullOrOwnTenant, hown, hcurrent, Bool.false_eq_true,
      Bool.or_false, Bool.false_or, authLookupOn_contextValues, Option.isNone_iff_eq_none]
      at haccepts <;> first
    | exact Or.inl ⟨rfl, haccepts⟩
    | exact Or.inr ⟨rfl, haccepts⟩

/-- Outside of lookups a row of a tenant may be written under its context alone. -/
theorem accepts_contextValues {text : String} (hne : text ≠ "") (hrow : row.tenantId = some text)
    (hlookup : c.authLookup = false) :
    (tenantIsolation table).accepts (contextValues c) row = decide (c.tenantId = some text) := by
  cases hc : c.tenantId with
  | none =>
      rw [decide_eq_false (by exact fun hnone => nomatch hnone), ← Bool.not_eq_true]
      intro haccepts
      rcases accepts_without_tenant hc (by rw [hrow]; simpa using hne) haccepts with
        ⟨-, hon⟩ | ⟨-, hnone⟩
      · rw [hlookup] at hon
        cases hon
      · rw [hrow] at hnone
        cases hnone
  | some tenant =>
      have hsame : decide (row.tenantId = some tenant) = decide (some tenant = some text) := by
        rw [hrow, decide_eq_decide]
        exact eq_comm
      have hown := (@ownTenant_contextValues D c tenant row hc).trans hsame
      have hon : authLookupOn (contextValues c) = false :=
        (authLookupOn_contextValues c).trans hlookup
      have hcurrent : ownCurrentTenant (contextValues c) row =
          decide (row.tenantId = some tenant) := by
        by_cases htenant : tenant = ""
        · unfold ownCurrentTenant contextValues nullIfEmpty
          rw [hc, htenant, hrow, decide_eq_false (by simpa using hne)]
          exact sqlEq_none _
        · exact ownCurrentTenant_contextValues hc htenant
      have hcurrent := hcurrent.trans hsame
      cases table <;>
        simp only [tenantIsolation, nullOrOwnTenant, hown, hcurrent, hon, hrow,
          Option.isNone_some, Bool.or_false, Bool.false_or]

end

end AuthClaw.Tenants
