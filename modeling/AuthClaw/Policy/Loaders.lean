import AuthClaw.Policy.Rules

/-!
# The two policy loaders

{lit}`get_db_policies` reads the policies the redactor enforces, through a cache of
two seconds; {lit}`PolicyEngine.load_policies` reads those the engine enforces.  The
two queries filter differently.

Main results:

- Theorem {lit}`loadPolicies_own_or_global`: the engine never loads a row of another
  tenant.
- Theorem {lit}`getDbPolicies_own`: nor does the redactor, for a given tenant and
  without a cached answer.
- Theorem {lit}`loaders_agree_iff`: the two loaders agree exactly when no enabled row
  is one that only one of the queries selects.
- Theorem {lit}`loaders_disagree`: an enabled draft is enforced by the redactor only.
-/

namespace AuthClaw.Policy

open PythonText

/-! ## The table -/

/-- A row of {lit}`policies`. -/
structure PolicyRow where
  id : Int
  name : String
  type : String
  rules : String
  enabled : Option Bool
  tenantId : Option Int
  version : Option Int
  status : Option String
  severityLevel : Option String
deriving DecidableEq

/-- The content of {lit}`policies`; `id` is its primary key. -/
structure PolicyTable where
  rows : List PolicyRow
  ids_nodup : (rows.map PolicyRow.id).Nodup

/-- `COALESCE(status, 'published') IN ('published', 'active')`. -/
def PolicyRow.live (r : PolicyRow) : Bool :=
  r.status.getD "published" = "published" || r.status.getD "published" = "active"

section

variable (loads : String → Option Json)

/-! ## The redactor's loader -/

/-- One dictionary of `get_db_policies`. -/
structure DbPolicy where
  id : Int
  name : String
  type : String
  rules : Json
  tenantId : Option Int

/-- The dictionary of a row; rules that `json.loads` refuses stay a text. -/
def dbPolicy (r : PolicyRow) : DbPolicy where
  id := r.id
  name := r.name
  type := r.type
  rules := (loads r.rules).getD (.str r.rules)
  tenantId := r.tenantId

/-- The `WHERE` clause of `get_db_policies`. -/
def redactorSelects (tenantId : Option Int) (r : PolicyRow) : Bool :=
  r.enabled = some true &&
    match tenantId with
    | none => true
    | some t => r.tenantId = some t

/-- `_db_policies_cache`: an answer and its time, in microseconds. -/
abbrev PolicyCache := Option Int → Option (Int × List DbPolicy)

/-- The cached answer that is still used; tests use none. -/
def freshEntry (pytest : Bool) (now : Int) (cache : PolicyCache) (tenantId : Option Int) :
    Option (List DbPolicy) :=
  match pytest, cache tenantId with
  | false, some (cachedTime, cachedVal) =>
      if now - cachedTime < 2000000 then some cachedVal else none
  | _, _ => none

/-- `get_db_policies` and the cache after it; without a connection it answers with
no policy. -/
def getDbPolicies (pytest : Bool) (now : Int) (cache : PolicyCache) (database : Option PolicyTable)
    (tenantId : Option Int) : List DbPolicy × PolicyCache :=
  match freshEntry pytest now cache tenantId, database with
  | some cachedVal, _ => (cachedVal, cache)
  | none, none => ([], cache)
  | none, some table =>
      let policies := (table.rows.filter (redactorSelects tenantId)).map (dbPolicy loads)
      (policies,
        if pytest then cache else Function.update cache tenantId (some (now, policies)))

/-! ## The engine's loader -/

/-- `TenantPolicy` with the columns the evaluation does not read. -/
structure LoadedPolicy extends TenantPolicy where
  enabled : Bool
  tenantId : Option Int
  severityLevel : String

/-- `parse_rules` of a text. -/
def parseRules (rules : String) : List (String × Json) :=
  match loads rules with
  | some (.obj members) => members
  | _ => []

/-- `text or default`. -/
def orDefault (text default : String) : String :=
  if text = "" then default else text

/-- `_policy_from_row`. -/
def policyFromRow (r : PolicyRow) : LoadedPolicy where
  id := some r.id
  name := orDefault r.name "Unnamed Policy"
  type := orDefault r.type "Custom"
  rules := parseRules loads r.rules
  version := if r.version.getD 1 = 0 then 1 else r.version.getD 1
  status := orDefault (r.status.getD "published") "published"
  enabled := r.enabled.getD false
  tenantId := r.tenantId
  severityLevel := orDefault (r.severityLevel.getD "MEDIUM") "MEDIUM"

/-- The `WHERE` clauses of `load_policies`. -/
def engineSelects (tenantId : Option Int) (r : PolicyRow) : Bool :=
  r.enabled = some true && r.live &&
    match tenantId with
    | none => r.tenantId = none
    | some t => r.tenantId = some t || r.tenantId = none

/-- `load_policies`, in the order of the ids. -/
def loadPolicies (database : Option PolicyTable) (tenantId : Option Int) :
    Except PyError (List LoadedPolicy) :=
  match database with
  | none => .error .other
  | some table =>
      .ok (((table.rows.filter (engineSelects tenantId)).insertionSort
        (fun r s => r.id ≤ s.id)).map (policyFromRow loads))

/-! ## What the loaders return -/

/-- A row of another tenant. -/
def Foreign (tenantId owner : Option Int) : Prop :=
  owner ≠ none ∧ owner ≠ tenantId

/-- A policy the redactor enforces: its id and rules. -/
def DbPolicy.entry (p : DbPolicy) : Option Int × Json :=
  (some p.id, p.rules)

/-- A policy the engine enforces: its id and rules. -/
def LoadedPolicy.entry (p : LoadedPolicy) : Option Int × Json :=
  (p.id, .obj p.rules)

/-- The rules of the row are a JSON object. -/
def PolicyRow.RulesParse (r : PolicyRow) : Prop :=
  ∃ members, loads r.rules = some (.obj members)

theorem dbPolicy_rules_eq_iff (r : PolicyRow) :
    (dbPolicy loads r).rules = .obj (parseRules loads r.rules) ↔ r.RulesParse loads := by
  unfold dbPolicy parseRules PolicyRow.RulesParse
  cases hloads : loads r.rules with
  | none => simp
  | some json => cases json <;> simp

/-- The engine selects rows of the tenant and global rows only. -/
theorem engineSelects_own_or_global {tenantId : Option Int} {r : PolicyRow}
    (h : engineSelects tenantId r = true) : ¬ Foreign tenantId r.tenantId := by
  rintro ⟨howned, hother⟩
  unfold engineSelects at h
  cases tenantId with
  | none => simp [howned] at h
  | some t => simp [howned, hother] at h

/-- The engine never loads a row of another tenant. -/
theorem loadPolicies_own_or_global {table : PolicyTable} {tenantId : Option Int}
    {loaded : List LoadedPolicy} (h : loadPolicies loads (some table) tenantId = .ok loaded) :
    ∀ p ∈ loaded, ¬ Foreign tenantId p.tenantId := by
  cases h
  intro p hp
  rcases List.mem_map.mp hp with ⟨r, hr, rfl⟩
  rw [List.mem_insertionSort, List.mem_filter] at hr
  exact engineSelects_own_or_global hr.2

/-- The redactor loads no row of another tenant, when it is given one and has no
cached answer. -/
theorem getDbPolicies_own {pytest : Bool} {now : Int} {cache : PolicyCache}
    {table : PolicyTable} {t : Int} (hfresh : freshEntry pytest now cache (some t) = none) :
    ∀ p ∈ (getDbPolicies loads pytest now cache (some table) (some t)).1, p.tenantId = some t := by
  unfold getDbPolicies
  rw [hfresh]
  intro p hp
  rcases List.mem_map.mp hp with ⟨r, hr, rfl⟩
  have hselected := (List.mem_filter.mp hr).2
  unfold redactorSelects at hselected
  have howner : (dbPolicy loads r).tenantId = r.tenantId := rfl
  rw [howner]
  simp only [Bool.and_eq_true, decide_eq_true_eq] at hselected
  exact hselected.2

/-! ## When the loaders agree -/

/-- The redactor and the engine enforce the same policies, none of them of another
tenant. -/
def LoadersAgree (tenantId : Option Int) (enforced : List DbPolicy) (loaded : List LoadedPolicy) :
    Prop :=
  (∀ e, e ∈ enforced.map DbPolicy.entry ↔ e ∈ loaded.map LoadedPolicy.entry) ∧
    (∀ p ∈ enforced, ¬ Foreign tenantId p.tenantId) ∧
    ∀ p ∈ loaded, ¬ Foreign tenantId p.tenantId

/-- Every enabled row is selected by both queries or by none: no global row is
live, and the rows of the tenant are live and carry an object.  Without a tenant
every enabled row is global. -/
def LoadersCoherent (table : PolicyTable) (tenantId : Option Int) : Prop :=
  ∀ r ∈ table.rows, r.enabled = some true →
    match tenantId with
    | none => r.tenantId = none ∧ r.live = true ∧ r.RulesParse loads
    | some t => (r.tenantId = none → r.live = false) ∧
        (r.tenantId = some t → r.live = true ∧ r.RulesParse loads)

/-- A cached answer holds the live policies of the tenant and the global ones. -/
def CachedCurrent (table : PolicyTable) (tenantId : Option Int) (cached : List DbPolicy) : Prop :=
  (∀ e, e ∈ cached.map DbPolicy.entry ↔
    ∃ r ∈ table.rows, engineSelects tenantId r = true ∧
      e = (some r.id, .obj (parseRules loads r.rules))) ∧
    ∀ p ∈ cached, ¬ Foreign tenantId p.tenantId

variable {loads}

theorem mem_loaded_entry {table : PolicyTable} {tenantId : Option Int}
    {loaded : List LoadedPolicy} (h : loadPolicies loads (some table) tenantId = .ok loaded)
    (e : Option Int × Json) :
    e ∈ loaded.map LoadedPolicy.entry ↔
      ∃ r ∈ table.rows, engineSelects tenantId r = true ∧
        e = (some r.id, .obj (parseRules loads r.rules)) := by
  cases h
  rw [List.map_map, List.mem_map]
  constructor
  · rintro ⟨r, hr, rfl⟩
    rw [List.mem_insertionSort, List.mem_filter] at hr
    exact ⟨r, hr.1, hr.2, rfl⟩
  · rintro ⟨r, hr, hselected, rfl⟩
    refine ⟨r, ?_, rfl⟩
    rw [List.mem_insertionSort, List.mem_filter]
    exact ⟨hr, hselected⟩

/-- A row is determined by its id. -/
theorem PolicyTable.eq_of_id_eq (table : PolicyTable) {r s : PolicyRow} (hr : r ∈ table.rows)
    (hs : s ∈ table.rows) (hid : r.id = s.id) : r = s :=
  List.inj_on_of_nodup_map table.ids_nodup hr hs hid

/-- The two queries select the same policies exactly when each row is selected by
both, with an object, or by none. -/
theorem same_entries_iff (table : PolicyTable) (tenantId : Option Int) :
    (∀ e, e ∈ ((table.rows.filter (redactorSelects tenantId)).map (dbPolicy loads)).map
        DbPolicy.entry ↔
      ∃ r ∈ table.rows, engineSelects tenantId r = true ∧
        e = (some r.id, .obj (parseRules loads r.rules))) ↔
      ∀ r ∈ table.rows, (redactorSelects tenantId r = true ↔ engineSelects tenantId r = true) ∧
        (redactorSelects tenantId r = true → r.RulesParse loads) := by
  have hmem : ∀ e, e ∈ ((table.rows.filter (redactorSelects tenantId)).map (dbPolicy loads)).map
      DbPolicy.entry ↔ ∃ r ∈ table.rows, redactorSelects tenantId r = true ∧
        e = (some r.id, (dbPolicy loads r).rules) := by
    intro e
    rw [List.map_map, List.mem_map]
    constructor
    · rintro ⟨r, hr, rfl⟩
      exact ⟨r, (List.mem_filter.mp hr).1, (List.mem_filter.mp hr).2, rfl⟩
    · rintro ⟨r, hr, hselected, rfl⟩
      exact ⟨r, List.mem_filter.mpr ⟨hr, hselected⟩, rfl⟩
  constructor
  · intro hsame r hr
    have hforward : redactorSelects tenantId r = true →
        engineSelects tenantId r = true ∧ r.RulesParse loads := by
      intro hselected
      rcases (hsame _).mp ((hmem _).mpr ⟨r, hr, hselected, rfl⟩) with ⟨s, hs, hengine, heq⟩
      have hid : r.id = s.id := by simpa using congrArg Prod.fst heq
      have hrow := table.eq_of_id_eq hr hs hid
      subst hrow
      exact ⟨hengine, (dbPolicy_rules_eq_iff loads r).mp (congrArg Prod.snd heq)⟩
    refine ⟨⟨fun h => (hforward h).1, ?_⟩, fun h => (hforward h).2⟩
    intro hengine
    rcases (hmem _).mp ((hsame _).mpr ⟨r, hr, hengine, rfl⟩) with ⟨s, hs, hselected, heq⟩
    have hid : r.id = s.id := by simpa using congrArg Prod.fst heq
    rw [table.eq_of_id_eq hr hs hid]
    exact hselected
  · intro hrows e
    rw [hmem]
    constructor
    · rintro ⟨r, hr, hselected, rfl⟩
      refine ⟨r, hr, (hrows r hr).1.mp hselected, ?_⟩
      rw [(dbPolicy_rules_eq_iff loads r).mpr ((hrows r hr).2 hselected)]
    · rintro ⟨r, hr, hengine, rfl⟩
      have hselected := (hrows r hr).1.mpr hengine
      refine ⟨r, hr, hselected, ?_⟩
      rw [(dbPolicy_rules_eq_iff loads r).mpr ((hrows r hr).2 hselected)]

/-- Each row is selected by both queries, with an object, or by none, exactly when
the table is coherent. -/
theorem queries_agree_iff (table : PolicyTable) (tenantId : Option Int) :
    (∀ r ∈ table.rows,
      (redactorSelects tenantId r = true ↔ engineSelects tenantId r = true) ∧
        (redactorSelects tenantId r = true → r.RulesParse loads)) ↔
      LoadersCoherent loads table tenantId := by
  apply forall₂_congr
  intro r _
  unfold redactorSelects engineSelects
  by_cases henabled : r.enabled = some true
  · cases tenantId with
    | none =>
        simp only [henabled, decide_true, Bool.true_and, Bool.and_eq_true, decide_eq_true_eq,
          true_iff, forall_const]
        tauto
    | some t =>
        cases howner : r.tenantId with
        | none => simp [henabled]
        | some u =>
            by_cases hu : u = t
            · simp [henabled, hu]
            · simp [henabled, hu]
  · simp [henabled]

/-- The two loaders agree exactly when every enabled row is selected by both
queries or by none, or when the cached answer holds what the engine loads. -/
theorem loaders_agree_iff (loads : String → Option Json) (pytest : Bool) (now : Int)
    (cache : PolicyCache) (table : PolicyTable) (tenantId : Option Int) :
    (∃ loaded, loadPolicies loads (some table) tenantId = .ok loaded ∧
      LoadersAgree tenantId (getDbPolicies loads pytest now cache (some table) tenantId).1 loaded) ↔
      match freshEntry pytest now cache tenantId with
      | some cached => CachedCurrent loads table tenantId cached
      | none => LoadersCoherent loads table tenantId := by
  rcases hloaded : loadPolicies loads (some table) tenantId with e | loaded
  · cases hloaded
  have hentries := mem_loaded_entry hloaded
  have hown := loadPolicies_own_or_global loads hloaded
  have hagree : (∃ loaded', Except.ok loaded = (Except.ok loaded' : Except PyError _) ∧
      LoadersAgree tenantId (getDbPolicies loads pytest now cache (some table) tenantId).1
        loaded') ↔
      CachedCurrent loads table tenantId
        (getDbPolicies loads pytest now cache (some table) tenantId).1 := by
    unfold LoadersAgree CachedCurrent
    simp only [← hentries]
    constructor
    · rintro ⟨_, heq, hsame, hforeign, -⟩
      cases heq
      exact ⟨hsame, hforeign⟩
    · rintro ⟨hsame, hforeign⟩
      exact ⟨loaded, rfl, hsame, hforeign, hown⟩
  rw [hagree]
  cases hfresh : freshEntry pytest now cache tenantId with
  | some cached =>
      unfold getDbPolicies
      rw [hfresh]
  | none =>
      have hanswer : (getDbPolicies loads pytest now cache (some table) tenantId).1 =
          (table.rows.filter (redactorSelects tenantId)).map (dbPolicy loads) := by
        unfold getDbPolicies
        rw [hfresh]
      simp only [← queries_agree_iff, ← same_entries_iff, hanswer]
      constructor
      · exact fun h => h.1
      · intro hsame
        refine ⟨hsame, ?_⟩
        intro p hp
        rcases List.mem_map.mp hp with ⟨r, hr, rfl⟩
        rcases List.mem_filter.mp hr with ⟨hr, hselected⟩
        have hrow := (same_entries_iff table tenantId).mp hsame r hr
        exact engineSelects_own_or_global (hrow.1.mp hselected)

end

/-! ## A draft -/

/-- An enabled draft of tenant 1. -/
def draftRow : PolicyRow where
  id := 7
  name := "GDPR draft"
  type := "GDPR"
  rules := "{}"
  enabled := some true
  tenantId := some 1
  version := some 1
  status := some "draft"
  severityLevel := some "HIGH"

/-- A parser that reads every text as the empty object. -/
def emptyObject (_ : String) : Option Json :=
  some (.obj [])

/-- The redactor enforces an enabled draft that the engine does not load. -/
theorem loaders_disagree :
    ¬ ∀ (table : PolicyTable) (tenantId : Option Int), ∃ loaded,
      loadPolicies emptyObject (some table) tenantId = .ok loaded ∧
        LoadersAgree tenantId
          (getDbPolicies emptyObject false 0 (fun _ => none) (some table) tenantId).1 loaded := by
  intro h
  rcases h ⟨[draftRow], by decide⟩ (some 1) with ⟨loaded, hloaded, hsame, -⟩
  cases hloaded
  have hmem := (hsame (some 7, .obj [])).mp (by
    simp [getDbPolicies, freshEntry, redactorSelects, draftRow, dbPolicy, DbPolicy.entry,
      emptyObject])
  simp [engineSelects, PolicyRow.live, draftRow] at hmem

end AuthClaw.Policy
