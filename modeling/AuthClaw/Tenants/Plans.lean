import AuthClaw.Library.PythonText

/-!
# Plans of tenants

The gateway and the page of the plan each find the plan of a tenant and its limit in tables
of their own: the gateway knows the plan {lit}`pro`, the page {lit}`professional` and
{lit}`unlimited`, and they differ in what a tenant without a plan has.

Main results:

- Theorem {lit}`enforced_iff_displayed`: when the limit enforced is the limit displayed.
- Theorem {lit}`updatePlan_stores`: what the service stores.
-/

namespace AuthClaw.Tenants

open PythonText

/-! ## Limits -/

/-- The environment of the process, and `int` of a text. -/
structure PlanEnv where
  py : PyText
  getenv : String → Option String
  intOf : String → Option Int

/-- A row of `tenants`, as far as its plan goes. -/
structure TenantRow where
  id : Int
  name : String
  subscriptionTier : Option String
  plan : Option String
  tier : Option String
  usageCount : Option Int
  tokensUsed : Option Int

/-- `COALESCE(subscription_tier, plan, tier)`. -/
def TenantRow.storedPlan (row : TenantRow) : Option String :=
  row.subscriptionTier <|> row.plan <|> row.tier

/-- The limits of a plan. -/
structure PlanLimits where
  requestsPerMinute : Int
  monthlyRequests : Option Int
  backgroundWorkers : Int

def enterpriseLimits : PlanLimits :=
  ⟨1200, some 1000000, 20⟩

/-- `PLAN_LIMITS`. -/
def planLimits : List (String × PlanLimits) :=
  [("free", ⟨30, some 1000, 1⟩), ("starter", ⟨60, some 10000, 2⟩),
    ("professional", ⟨300, some 100000, 5⟩), ("enterprise", enterpriseLimits),
    ("unlimited", ⟨1000000, none, 1000⟩)]

/-- `default_limits` of `_tenant_tier_limit`. -/
def defaultLimits : List (String × Int) :=
  [("free", 30), ("starter", 60), ("pro", 300), ("enterprise", 1200)]

section

variable (env : PlanEnv)

/-- The variable of the environment that overrides the limit of a plan. -/
def overrideName (plan : String) : String :=
  "AUTHCLAW_RATE_LIMIT_" ++ env.py.upper plan ++ "_RPM"

/-- The limit that the environment gives a plan. -/
def rpmOverride (plan : String) : Option Int :=
  match env.getenv (overrideName env plan) with
  | none => none
  | some text => if text = "" then none else (env.intOf text).map (max 1)

/-- `AUTHCLAW_DEFAULT_TENANT_TIER`. -/
def defaultTier : String :=
  env.py.lower (env.py.strip ((env.getenv "AUTHCLAW_DEFAULT_TENANT_TIER").getD "enterprise"))

/-- `_tenant_tier_limit`, of the row that is found. -/
def tenantTierLimit (row : Option TenantRow) : Int :=
  let stored := (row.map (fun r => r.storedPlan.getD "")).getD ""
  let tier := if stored = "" then defaultTier env else env.py.lower stored
  (rpmOverride env tier).getD ((defaultLimits.lookup tier).getD 1200)

/-- `TenantPlanService._limits`. -/
def limitsOf (plan : String) : PlanLimits :=
  let limits := (planLimits.lookup plan).getD enterpriseLimits
  match rpmOverride env plan with
  | none => limits
  | some limit => { limits with requestsPerMinute := limit }

/-- What `rate_limit_events` has of a tenant this month. -/
structure UsageRow where
  requests : Int
  blocked : Option Int
  minRemaining : Int
  rateLimit : Int

/-- `x or y`, of numbers. -/
def orInt (x y : Int) : Int :=
  if x = 0 then y else x

/-- What the page shows of a plan. -/
structure PlanReport where
  tenantId : Int
  tenantName : String
  currentPlan : String
  supportedPlans : List String
  limits : PlanLimits
  requests : Int
  tokensUsed : Int
  blockedRequests : Int
  remainingQuota : Option Int
  rateLimit : Int
  remainingRateWindow : Int

/-- The plan of a row as the page names it. -/
def currentPlan (row : TenantRow) : String :=
  let stored := row.storedPlan.getD "enterprise"
  let plan := env.py.lower (if stored = "" then "enterprise" else stored)
  if plan = "pro" then "professional" else plan

/-- `TenantPlanService.get_plan`, without the history and the note of the last override. -/
def getPlan (row : TenantRow) (usage : Option UsageRow) : PlanReport :=
  let plan := currentPlan env row
  let limits := limitsOf env plan
  let requests := orInt ((usage.map UsageRow.requests).getD 0) (row.usageCount.getD 0)
  { tenantId := row.id
    tenantName := row.name
    currentPlan := plan
    supportedPlans := planLimits.map Prod.fst
    limits := limits
    requests := requests
    tokensUsed := row.tokensUsed.getD 0
    blockedRequests := (usage.bind UsageRow.blocked).getD 0
    remainingQuota := limits.monthlyRequests.map (fun monthly => max 0 (monthly - requests))
    rateLimit := orInt ((usage.map UsageRow.rateLimit).getD 0) limits.requestsPerMinute
    remainingRateWindow :=
      orInt ((usage.map UsageRow.minRemaining).getD 0) limits.requestsPerMinute }

/-- `TenantPlanService.update_plan`, as far as it changes the row. -/
def updatePlan (plan : String) (row : TenantRow) : Except PyError TenantRow :=
  let lowered := env.py.strip (env.py.lower plan)
  let normalized := if lowered = "pro" then "professional" else lowered
  if (planLimits.lookup normalized).isSome then
    .ok { row with
      subscriptionTier := some normalized
      plan := some normalized
      tier := some normalized }
  else .error .valueError

/-! ## Agreement -/

/-- When the tables and the environment give a tenant one limit: without a plan, the default
tier is limited as `enterprise`; `pro` has the override of `professional`, if one of them has
one that matters; and `professional` and `unlimited` have an override. -/
def LimitsAgree (row : TenantRow) : Prop :=
  let stored := row.storedPlan.getD ""
  let name := env.py.lower stored
  if stored = "" then
    (rpmOverride env (defaultTier env)).getD ((defaultLimits.lookup (defaultTier env)).getD 1200) =
      (rpmOverride env "enterprise").getD 1200
  else if name = "pro" then
    (rpmOverride env "pro").getD 300 = (rpmOverride env "professional").getD 300
  else
    (rpmOverride env name).isSome ∨ (name ≠ "professional" ∧ name ≠ "unlimited")

end

section

variable {env : PlanEnv} {row : TenantRow}

theorem limitsOf_requestsPerMinute (plan : String) :
    (limitsOf env plan).requestsPerMinute =
      (rpmOverride env plan).getD
        ((planLimits.lookup plan).getD enterpriseLimits).requestsPerMinute := by
  unfold limitsOf
  cases rpmOverride env plan with
  | none => rfl
  | some limit => rfl

/-- The tables agree on every plan but two, and on the one the page does not have. -/
theorem tables_agree_iff {name : String} (hpro : name ≠ "pro") :
    (defaultLimits.lookup name).getD 1200 =
        ((planLimits.lookup name).getD enterpriseLimits).requestsPerMinute ↔
      name ≠ "professional" ∧ name ≠ "unlimited" := by
  by_cases hfree : name = "free"
  · subst hfree
    decide
  by_cases hstarter : name = "starter"
  · subst hstarter
    decide
  by_cases hprofessional : name = "professional"
  · subst hprofessional
    decide
  by_cases henterprise : name = "enterprise"
  · subst henterprise
    decide
  by_cases hunlimited : name = "unlimited"
  · subst hunlimited
    decide
  have hdefault : defaultLimits.lookup name = none := by
    rw [List.lookup_eq_none_iff]
    simp [defaultLimits, hfree, hstarter, hpro, henterprise]
  have hplan : planLimits.lookup name = none := by
    rw [List.lookup_eq_none_iff]
    simp [planLimits, hfree, hstarter, hprofessional, henterprise, hunlimited]
  rw [hdefault, hplan]
  exact iff_of_true rfl ⟨hprofessional, hunlimited⟩

/-- With the overrides of the environment, too. -/
theorem override_agrees_iff {name : String} (hpro : name ≠ "pro") :
    (rpmOverride env name).getD ((defaultLimits.lookup name).getD 1200) =
        (limitsOf env name).requestsPerMinute ↔
      (rpmOverride env name).isSome ∨ (name ≠ "professional" ∧ name ≠ "unlimited") := by
  rw [limitsOf_requestsPerMinute, ← tables_agree_iff hpro]
  cases rpmOverride env name with
  | none => simp
  | some limit => simp

/-- What the service stores is one of the plans of the page, in every column. -/
theorem updatePlan_stores {plan : String} {row' : TenantRow}
    (h : updatePlan env plan row = .ok row') :
    ∃ name, row'.storedPlan = some name ∧ name ∈ planLimits.map Prod.fst := by
  unfold updatePlan at h
  dsimp only at h
  split_ifs at h with hpro hsupported hsupported
  · cases h
    exact ⟨_, rfl, by decide⟩
  · cases h
    refine ⟨_, rfl, ?_⟩
    rcases List.lookup_isSome_iff.mp hsupported with ⟨entry, hentry, heq⟩
    exact List.mem_map.mpr ⟨entry, hentry, (beq_iff_eq.mp heq).symm⟩

/-- A row without a plan shows `enterprise`. -/
theorem currentPlan_unset (h : row.storedPlan.getD "" = "") :
    currentPlan env row = "enterprise" := by
  have hlower : env.py.lower "enterprise" = "enterprise" := by
    rw [env.py.lower_ascii _ (by decide)]
    decide
  have hunset : (if row.storedPlan.getD "enterprise" = "" then "enterprise"
      else row.storedPlan.getD "enterprise") = "enterprise" := by
    cases hstored : row.storedPlan with
    | none => rfl
    | some stored =>
        rw [hstored, Option.getD_some] at h
        rw [h]
        rfl
  unfold currentPlan
  dsimp only
  rw [hunset, hlower]
  rfl

/-- A row with a plan shows it, and `pro` as `professional`. -/
theorem currentPlan_set (h : row.storedPlan.getD "" ≠ "") :
    currentPlan env row = if env.py.lower (row.storedPlan.getD "") = "pro" then "professional"
      else env.py.lower (row.storedPlan.getD "") := by
  unfold currentPlan
  cases hstored : row.storedPlan with
  | none =>
      rw [hstored] at h
      exact absurd rfl h
  | some stored =>
      rw [hstored, Option.getD_some] at h
      simp only [Option.getD_some, if_neg h]

end

/-! ## The limit -/

/-- The limit that the gateway enforces is the limit that the page displays exactly for these
rows and environments. -/
theorem enforced_iff_displayed (env : PlanEnv) (row : TenantRow) (usage : Option UsageRow) :
    tenantTierLimit env (some row) = (getPlan env row usage).limits.requestsPerMinute ↔
      LimitsAgree env row := by
  have hdisplayed : (getPlan env row usage).limits = limitsOf env (currentPlan env row) := rfl
  have henforced : tenantTierLimit env (some row) =
      let stored := row.storedPlan.getD ""
      let tier := if stored = "" then defaultTier env else env.py.lower stored
      (rpmOverride env tier).getD ((defaultLimits.lookup tier).getD 1200) := rfl
  rw [hdisplayed, henforced]
  unfold LimitsAgree
  by_cases hunset : row.storedPlan.getD "" = ""
  · rw [currentPlan_unset hunset, limitsOf_requestsPerMinute]
    simp only [if_pos hunset]
    rfl
  · rw [currentPlan_set hunset]
    simp only [if_neg hunset]
    by_cases hpro : env.py.lower (row.storedPlan.getD "") = "pro"
    · rw [if_pos hpro, if_pos hpro, limitsOf_requestsPerMinute, hpro]
      rfl
    · rw [if_neg hpro, if_neg hpro]
      exact override_agrees_iff hpro

/-- The plan that the administrator of a tenant stores, without overrides. -/
theorem professional_limits_differ :
    ¬ ∀ (env : PlanEnv) (plan : String) (row row' : TenantRow) (usage : Option UsageRow),
      updatePlan env plan row = .ok row' →
      tenantTierLimit env (some row') = (getPlan env row' usage).limits.requestsPerMinute := by
  intro hclaim
  have hlimit := hclaim ⟨asciiText, fun _ => none, fun _ => none⟩ "professional"
    ⟨1, "Acme", none, none, none, none, none⟩ _ none rfl
  exact absurd hlimit (by decide +kernel)

end AuthClaw.Tenants
