import AuthClaw.Policy.Baseline
import AuthClaw.Policy.Versions

/-!
# What the validator promises

Rules that {lit}`validate_policy_rules_for_lifecycle` accepts are read without raising.
Whether they have an effect is another matter: an empty list of allowed topics is accepted,
and changes no evaluation.

Main results:

- Theorem {lit}`accepted_evaluate`: policies with accepted rules are evaluated on every text,
  and each finding has one of the four actions.
- Theorem {lit}`effect_ne_iff`: on which texts an accepted policy has an effect.
- Theorem {lit}`accepted_enforced_iff`: which accepted policies have an effect on some text.
- Theorem {lit}`accepted_noop`: one that has none.
-/

namespace AuthClaw.Policy

open PythonText

section

variable (py : PyText)

/-! ## What is accepted -/

/-- The validator accepts the rules of the policy. -/
def Accepted (policy : TenantPolicy) : Prop :=
  validatePolicyRulesForLifecycle py (.obj policy.rules) = []

/-- What an evaluation says of a text, without the list of the policies it was given. -/
def effect (detect : String → String × List DetectorFinding) (text : String)
    (policies : List TenantPolicy) : Except PyError EvaluationResult :=
  (evaluate py detect text policies).map (fun result => { result with policyVersions := [] })

/-- The policy takes a detector finding over and changes what it says. -/
def Marks (policy : TenantPolicy) (item : DetectorFinding) : Prop :=
  let category := entityCategory (py.lower item.matchedPattern)
  category ∈ policyCategories py policy ∧
    (policy.name ≠ "Sensitive Data Detection" ∨ policy.type ≠ category ∨ policy.id ≠ none ∨
      policy.version ≠ 1 ∨ ∃ a, actionForCategory py category (some policy) = .ok (some a) ∧
        a ≠ (normalizeAction py (some (.str item.action))).getD .redact)

/-- The policy covers a built-in topic that the text touches. -/
def CoversTopic (text : String) (policy : TenantPolicy) : Prop :=
  ∃ builtIn ∈ builtInTopics, builtIn.1 ∈ policyCategories py policy ∧
    builtIn.2.any (fun pattern => contains pattern (py.lower text)) = true

/-- The text has a keyword that the policy blocks. -/
def firesKeyword (text : String) (policy : TenantPolicy) : Bool :=
  (listRules py policy.rules "blocked_keywords").any
    (fun keyword => contains (py.lower keyword) (py.lower text))

/-- A policy that lists keywords or topics, covers a built-in topic, or marks what the
detector can find. -/
def Enforceable (detect : String → String × List DetectorFinding) (policy : TenantPolicy) :
    Prop :=
  (∃ key ∈ ["blocked_keywords", "blocked_topics", "allowed_topics"],
      listRules py policy.rules key ≠ []) ∨
    (∃ builtIn ∈ builtInTopics, builtIn.1 ∈ policyCategories py policy) ∨
    ∃ text, ∃ item ∈ (detect text).2, Marks py policy item

variable {py}

/-- Accepted rules have acceptable parts. -/
theorem Accepted.parts {policy : TenantPolicy} (h : Accepted py policy) :
    (∀ key ∈ ["blocked_keywords", "blocked_topics", "allowed_topics", "categories"],
      listRuleErrors py policy.rules key = []) ∧
    ∀ key ∈ ["category_actions", "actions"], actionsRuleErrors py policy.rules key = [] := by
  unfold Accepted validatePolicyRulesForLifecycle at h
  simp only [List.append_eq_nil_iff, List.flatMap_eq_nil_iff] at h
  exact ⟨h.1.1.2, h.1.2⟩

/-- Actions of categories that are accepted are missing or an object. -/
theorem actionsRule_cases {rules : List (String × Json)} {key : String}
    (h : actionsRuleErrors py rules key = []) :
    getKey rules key = none ∨ ∃ members, getKey rules key = some (.obj members) := by
  unfold actionsRuleErrors at h
  cases hrule : getKey rules key with
  | none => exact Or.inl rfl
  | some v =>
      rw [hrule] at h
      cases v with
      | obj members => exact Or.inr ⟨members, rfl⟩
      | _ => cases h

/-- Accepted rules have readable category rules. -/
theorem Accepted.readable {policy : TenantPolicy} (h : Accepted py policy) :
    readableCategoryRules policy = true := by
  have hcategory := actionsRule_cases (h.parts.2 "category_actions" (by simp))
  have hactions := actionsRule_cases (h.parts.2 "actions" (by simp))
  have hread : ∀ v, orElseJson (getKey policy.rules "category_actions")
      (getKey policy.rules "actions") = some v → ∃ members, v = .obj members := by
    intro v hv
    unfold orElseJson at hv
    rcases hcategory with hnone | ⟨members, hsome⟩
    · rw [hnone] at hv
      rcases hactions with hnone' | ⟨members, hsome⟩
      · rw [hnone'] at hv
        cases hv
      · rw [hsome] at hv
        cases hv
        exact ⟨members, rfl⟩
    · rw [hsome] at hv
      dsimp only at hv
      split_ifs at hv with htruthy
      · cases hv
        exact ⟨members, rfl⟩
      · rcases hactions with hnone' | ⟨others, hsome'⟩
        · rw [hnone'] at hv
          cases hv
        · rw [hsome'] at hv
          cases hv
          exact ⟨others, rfl⟩
  unfold readableCategoryRules
  cases hrule : orElseJson (getKey policy.rules "category_actions")
      (getKey policy.rules "actions") with
  | none => rfl
  | some v =>
      rcases hread v hrule with ⟨members, rfl⟩
      rfl

/-- A text that is not blank is not empty. -/
theorem ne_empty_of_strip {s : String} (h : py.strip s ≠ "") : s ≠ "" := by
  rintro rfl
  exact h rfl

/-- Accepted lists have no empty text. -/
theorem Accepted.listRules_ne_empty {policy : TenantPolicy} (h : Accepted py policy)
    {key : String} (hkey : key ∈ ["blocked_keywords", "blocked_topics", "allowed_topics"])
    {item : String} (hitem : item ∈ listRules py policy.rules key) : item ≠ "" := by
  have herrors : listRuleErrors py policy.rules key = [] := by
    apply h.parts.1
    simp only [List.mem_cons, List.not_mem_nil, or_false] at hkey ⊢
    rcases hkey with rfl | rfl | rfl <;> simp
  have hfilter : ∀ items : List String, item ∈ items.filter (fun item => py.strip item != "") →
      item ≠ "" := by
    intro items hmem
    exact ne_empty_of_strip (by simpa using (List.mem_filter.mp hmem).2)
  unfold listRuleErrors at herrors
  unfold listRules at hitem
  cases hrule : getKey policy.rules key with
  | none =>
      rw [hrule] at hitem
      cases hitem
  | some v =>
      rw [hrule] at hitem herrors
      cases v with
      | str s =>
          cases List.mem_singleton.mp hitem
          have hfilled : filledText py (.str item) = true := by
            by_contra hblank
            simp [hblank] at herrors
          exact ne_empty_of_strip (by simpa [filledText] using hfilled)
      | arr items => exact hfilter _ hitem
      | obj members => exact hfilter _ hitem
      | _ => cases hitem

/-! ## Accepted rules are evaluated -/

/-- Policies with accepted rules are evaluated. -/
theorem evaluates_of_accepted (detect : String → String × List DetectorFinding) (text : String)
    {policies : List TenantPolicy} (h : ∀ policy ∈ policies, Accepted py policy) :
    ∃ result, evaluate py detect text policies = .ok result := by
  rw [evaluate_ok_iff]
  refine ⟨?_, fun policy hpolicy _ => (h policy hpolicy).readable⟩
  intro u _ policy hmatch
  exact (h policy (List.mem_of_find?_eq_some hmatch)).readable

/-- The texts of the known actions. -/
def knownActions : List String :=
  ["ALLOW", "REDACT", "REQUIRE_APPROVAL", "BLOCK"]

theorem Action.text_mem_knownActions (a : Action) : a.text ∈ knownActions := by
  cases a <;> decide

/-- Policies with accepted rules are evaluated on every text, whatever their types and
whatever the detector finds, and each finding has one of the four actions, as the result has. -/
theorem accepted_evaluate (detect : String → String × List DetectorFinding) (text : String)
    (policies : List TenantPolicy)
    (h : ∀ policy ∈ policies,
      validatePolicyRulesForLifecycle py (.obj policy.rules) = []) :
    ∃ result, evaluate py detect text policies = .ok result ∧
      (∀ f ∈ result.findings, f.action.text ∈ knownActions) ∧
      result.action.text ∈ knownActions := by
  rcases evaluates_of_accepted detect text h with ⟨result, hresult⟩
  exact ⟨result, hresult, fun f _ => f.action.text_mem_knownActions,
    result.action.text_mem_knownActions⟩

/-- A policy with a blocked topic and an action for personal data. -/
def payrollPolicy : TenantPolicy where
  id := some 1
  name := "Payroll"
  type := "Custom"
  rules := [("blocked_topics", .arr [.str "payroll"]), ("action", .str "approval"),
    ("category_actions", .obj [("pii", .str "block")])]
  version := 1
  status := "published"

theorem accepted_evaluate_payroll :
    ∃ result, evaluate asciiText (fun text => (text, [])) "Who runs payroll?" [payrollPolicy] =
        .ok result ∧
      (∀ f ∈ result.findings, f.action.text ∈ knownActions) ∧
      result.action.text ∈ knownActions :=
  accepted_evaluate (fun text => (text, [])) "Who runs payroll?" [payrollPolicy]
    (List.forall_mem_singleton.mpr (by decide +kernel))

/-! ## The effect of a single policy -/

/-- The categories of the built-in topics and of the detector. -/
def builtInCategories : List String :=
  ["SECRETS", "PII", "FINANCIAL_DATA", "MEDICAL_DATA", "LEGAL_DATA"]

/-- These categories are their own normal forms. -/
theorem normalizeCategory_builtIn {category : String} (h : category ∈ builtInCategories) :
    normalizeCategory py category = category := by
  have hspelling : ∀ category ∈ builtInCategories,
      isAscii category = true ∧ category.toList.all (fun c => !asciiSpace c) = true ∧
        categoryAliases.lookup
          (replaceChar '-' '_' (replaceChar ' ' '_' (asciiLower category))) = some category := by
    decide
  rcases hspelling category h with ⟨hascii, hspace, hlookup⟩
  have hstrip : py.strip category = category := by
    apply py.strip_eq_self
    intro c hc
    have hc' : c.toNat < 128 := by simpa using List.all_eq_true.mp hascii c hc
    rw [py.isSpace_ascii c hc']
    simpa using List.all_eq_true.mp hspace c hc
  unfold normalizeCategory
  rw [hstrip, py.lower_ascii category hascii]
  dsimp only
  rw [hlookup]

/-- The category of a detected entity is one of them. -/
theorem entityCategory_mem (entity : String) : entityCategory entity ∈ builtInCategories := by
  unfold entityCategory
  by_cases hsecret : entity ∈ secretTypes
  · rw [if_pos hsecret]
    decide
  · rw [if_neg hsecret]
    cases hlookup : entityCategories.lookup entity with
    | none => exact (by decide : "PII" ∈ builtInCategories)
    | some category =>
        rcases List.lookup_eq_some_iff.mp hlookup with ⟨before, after, hsplit, -⟩
        have hmem : (entity, category) ∈ entityCategories := by
          rw [hsplit]
          simp
        have hall : ∀ m ∈ entityCategories,
            m.2 ∈ builtInCategories := by decide
        exact hall _ hmem

theorem normalizeCategory_entityCategory (entity : String) :
    normalizeCategory py (entityCategory entity) = entityCategory entity :=
  normalizeCategory_builtIn (entityCategory_mem entity)

theorem builtInTopics_mem {builtIn : String × List String} (h : builtIn ∈ builtInTopics) :
    builtIn.1 ∈ builtInCategories := by
  have hall : ∀ builtIn ∈ builtInTopics, builtIn.1 ∈ builtInCategories := by decide
  exact hall builtIn h

/-- A single policy matches the categories it covers. -/
theorem matchingPolicyForCategory_single (category : String) (policy : TenantPolicy) :
    matchingPolicyForCategory py category [policy] =
      if normalizeCategory py category ∈ policyCategories py policy then some policy else none := by
  unfold matchingPolicyForCategory
  by_cases hcovers : normalizeCategory py category ∈ policyCategories py policy
  · rw [if_pos hcovers, List.find?_cons_of_pos (by simpa using hcovers)]
  · rw [if_neg hcovers, List.find?_cons_of_neg (by simpa using hcovers)]
    rfl

/-- A detector finding is the same with a readable policy as with none, unless the policy
marks it. -/
theorem detectorFinding_eq_iff {policy : TenantPolicy}
    (hread : readableCategoryRules policy = true) (item : DetectorFinding) :
    detectorFinding py [policy] item = detectorFinding py [] item ↔ ¬ Marks py policy item := by
  have hnone : matchingPolicyForCategory py (entityCategory (py.lower item.matchedPattern)) [] =
      none := rfl
  have haction : actionForCategory py (entityCategory (py.lower item.matchedPattern)) none =
      .ok none := rfl
  unfold detectorFinding Marks
  dsimp only
  rw [hnone, haction, matchingPolicyForCategory_single, normalizeCategory_entityCategory]
  generalize entityCategory (py.lower item.matchedPattern) = category
  by_cases hcovers : category ∈ policyCategories py policy
  · rw [if_pos hcovers]
    rcases (actionForCategory_ok_iff category policy).mpr hread with ⟨a, ha⟩
    rw [ha]
    simp only [hcovers, true_and, bind, Except.bind, pure, Except.pure, Option.map_some,
      Option.getD_some, Option.bind_some, Except.ok.injEq, PolicyFinding.mk.injEq]
    have hact : (a.or (normalizeAction py (some (.str item.action)))).getD .redact =
          (normalizeAction py (some (.str item.action))).getD .redact ↔
        ¬ ∃ b, a = some b ∧ b ≠ (normalizeAction py (some (.str item.action))).getD .redact := by
      cases a <;> simp
    simp only [Option.map_none, Option.getD_none, Option.none_or, Option.bind_none, hact, not_or,
      not_not, ne_eq, and_true]
    constructor
    · rintro ⟨hname, htype, haction, hid, hversion⟩
      exact ⟨hname, htype, hid, hversion, haction⟩
    · rintro ⟨hname, htype, hid, hversion, haction⟩
      exact ⟨hname, htype, haction, hid, hversion⟩
  · rw [if_neg hcovers]
    refine iff_of_true rfl ?_
    exact fun hmarks => hcovers hmarks.1

/-- The list of the policies apart, an evaluation is decided by its findings. -/
theorem effect_eq (detect : String → String × List DetectorFinding) (text : String)
    (policies : List TenantPolicy) :
    effect py detect text policies =
      (collectFindings py text (detect text).2 policies).map
        (resultOf py (detect text).1 (detect text).2 []) := by
  unfold effect evaluate
  cases collectFindings py text (detect text).2 policies with
  | error e => rfl
  | ok findings => rfl

theorem effect_eq_iff {detect : String → String × List DetectorFinding} {text : String}
    {policies others : List TenantPolicy} :
    effect py detect text policies = effect py detect text others ↔
      collectFindings py text (detect text).2 policies =
        collectFindings py text (detect text).2 others := by
  rw [effect_eq, effect_eq]
  constructor
  · cases collectFindings py text (detect text).2 policies with
    | error e =>
        cases collectFindings py text (detect text).2 others with
        | error e' => exact fun h => by cases h; rfl
        | ok found' => exact fun h => by cases h
    | ok found =>
        cases collectFindings py text (detect text).2 others with
        | error e' => exact fun h => by cases h
        | ok found' =>
            intro h
            have hfound := congrArg EvaluationResult.findings (Except.ok.inj h)
            exact congrArg Except.ok hfound
  · intro h
    rw [h]

/-- A readable policy finds a built-in topic where it covers one that the text touches. -/
theorem builtInTopicFindings_eq_nil_iff {policy : TenantPolicy}
    (hread : readableCategoryRules policy = true) (text : String)
    {builtIn : String × List String} (hbuiltIn : builtIn ∈ builtInTopics) :
    builtInTopicFindings py (py.lower text) [policy] builtIn = .ok [] ↔
      ¬ (builtIn.1 ∈ policyCategories py policy ∧
        builtIn.2.any (fun pattern => contains pattern (py.lower text)) = true) := by
  unfold builtInTopicFindings
  rw [matchingPolicyForCategory_single, normalizeCategory_builtIn (builtInTopics_mem hbuiltIn)]
  by_cases hcovers : builtIn.1 ∈ policyCategories py policy
  · rw [if_pos hcovers]
    rcases (mapM_topicFinding_ok_iff policy builtIn.1 "Built-in category topic matched"
      (builtIn.2.filter (fun pattern => contains pattern (py.lower text)))).mpr
        (fun _ => hread) with ⟨found, hfound⟩
    have hlength := length_of_mapM_eq_ok hfound
    dsimp only
    rw [hfound, Except.ok.injEq, ← List.length_eq_zero_iff, hlength, List.length_eq_zero_iff,
      List.filter_eq_nil_iff]
    simp [hcovers]
  · rw [if_neg hcovers]
    exact iff_of_true rfl (fun hboth => hcovers hboth.1)

/-- A readable policy finds a custom topic where one fires. -/
theorem customTopicFindings_eq_nil_iff {policy : TenantPolicy}
    (hread : readableCategoryRules policy = true) (text : String) :
    customTopicFindings py (py.lower text) policy = .ok [] ↔
      ¬ firesCustomTopic py text policy = true := by
  rcases (customTopicFindings_ok_iff text policy).mpr (fun _ => hread) with ⟨found, hfound⟩
  rw [hfound, Except.ok.injEq]
  unfold firesCustomTopic
  rcases bind_eq_ok hfound with ⟨blocked, hblocked, hrest⟩
  rcases bind_eq_ok hrest with ⟨outside, houtside, hrest⟩
  cases hrest
  have hblockedLength := length_of_mapM_eq_ok hblocked
  have houtsideLength := length_of_mapM_eq_ok houtside
  rw [List.append_eq_nil_iff, ← List.length_eq_zero_iff, hblockedLength,
    List.length_eq_zero_iff, ← @List.length_eq_zero_iff _ outside, houtsideLength,
    List.length_eq_zero_iff, List.filter_eq_nil_iff]
  simp

/-- A readable policy alone finds a topic where it covers one or one of its own fires. -/
theorem topicFindings_eq_nil_iff {policy : TenantPolicy}
    (hread : readableCategoryRules policy = true) {text : String} {topics : List PolicyFinding}
    (h : topicFindings py text [policy] = .ok topics) :
    topics = [] ↔ ¬ CoversTopic py text policy ∧ ¬ firesCustomTopic py text policy = true := by
  rcases bind_eq_ok h with ⟨builtIns, hbuiltIns, h⟩
  rcases bind_eq_ok h with ⟨custom, hcustom, h⟩
  cases h
  have hcovered : builtIns.flatten = [] ↔ ¬ CoversTopic py text policy := by
    rw [flatten_eq_nil_of_mapM hbuiltIns]
    unfold CoversTopic
    push Not
    constructor
    · intro hnone builtIn hmem
      have hiff := (builtInTopicFindings_eq_nil_iff hread text hmem).mp (hnone builtIn hmem)
      exact fun hcovers hany => hiff ⟨hcovers, hany⟩
    · intro hnone builtIn hmem
      exact (builtInTopicFindings_eq_nil_iff hread text hmem).mpr
        (fun hboth => hnone builtIn hmem hboth.1 hboth.2)
  have hfires : custom.flatten = [] ↔ ¬ firesCustomTopic py text policy = true := by
    rw [flatten_eq_nil_of_mapM hcustom, List.forall_mem_singleton,
      customTopicFindings_eq_nil_iff hread]
  rw [List.append_eq_nil_iff, hcovered, hfires]

/-- A single policy finds a keyword where one of its own fires. -/
theorem keywordFindings_eq_nil_iff {policy : TenantPolicy} {text : String} :
    keywordFindings py text [policy] = [] ↔ ¬ firesKeyword py text policy = true := by
  unfold keywordFindings policyKeywordFindings firesKeyword
  simp

/-- On which texts an accepted policy has an effect. -/
theorem effect_ne_iff {detect : String → String × List DetectorFinding} {text : String}
    {policy : TenantPolicy} (h : Accepted py policy) :
    effect py detect text [policy] ≠ effect py detect text [] ↔
      (∃ item ∈ (detect text).2, Marks py policy item) ∨
        (CoversTopic py text policy ∨ firesCustomTopic py text policy = true) ∨
          firesKeyword py text policy = true := by
  have hread := h.readable
  rw [Ne, effect_eq_iff]
  rcases evaluates_of_accepted detect text (List.forall_mem_singleton.mpr h) with ⟨result, hres⟩
  rcases bind_eq_ok hres with ⟨findings, hfindings, -⟩
  rcases bind_eq_ok hfindings with ⟨detected, hdetected, hrest⟩
  rcases bind_eq_ok hrest with ⟨topics, htopics, -⟩
  rcases evaluates_of_accepted detect text (List.forall_mem_nil (Accepted py)) with ⟨none', hnone⟩
  rcases bind_eq_ok hnone with ⟨without, hwithout, -⟩
  rcases bind_eq_ok hwithout with ⟨plain, hplain, -⟩
  have hmarks : detected = plain ↔ ¬ ∃ item ∈ (detect text).2, Marks py policy item := by
    rw [← @Except.ok.injEq PyError, ← hdetected, ← hplain]
    unfold detectorFindings
    rw [mapM_eq_mapM_iff ⟨detected, hdetected⟩]
    push Not
    exact forall₂_congr (fun item _ => detectorFinding_eq_iff hread item)
  have hlength : detected.length = plain.length := by
    rw [length_of_mapM_eq_ok hdetected, length_of_mapM_eq_ok hplain]
  have hwith : collectFindings py text (detect text).2 [policy] =
      .ok (detected ++ baselineSecurityFindings py text ++ topics ++
        keywordFindings py text [policy]) := by
    unfold collectFindings
    rw [hdetected, htopics]
    rfl
  have hplainly : collectFindings py text (detect text).2 [] =
      .ok (plain ++ baselineSecurityFindings py text ++ [] ++ []) := by
    unfold collectFindings
    rw [hplain]
    rfl
  rw [hwith, hplainly, Except.ok.injEq]
  have hparts : detected ++ baselineSecurityFindings py text ++ topics ++
        keywordFindings py text [policy] =
      plain ++ baselineSecurityFindings py text ++ [] ++ [] ↔
        detected = plain ∧ topics = [] ∧ keywordFindings py text [policy] = [] := by
    simp only [List.append_assoc, List.append_nil]
    constructor
    · intro heq
      rcases List.append_inj heq hlength with ⟨hdet, hrest⟩
      have hnil := List.append_right_eq_self.mp hrest
      exact ⟨hdet, List.append_eq_nil_iff.mp hnil⟩
    · rintro ⟨hdet, htop, hkey⟩
      rw [hdet, htop, hkey, List.append_nil, List.append_nil]
  rw [hparts, hmarks, topicFindings_eq_nil_iff hread htopics, keywordFindings_eq_nil_iff]
  simp only [not_and_or, not_not]

/-! ## Enforceable policies -/

/-- Every built-in topic has a pattern in lower case. -/
theorem exists_lower_pattern {builtIn : String × List String} (h : builtIn ∈ builtInTopics) :
    ∃ pattern ∈ builtIn.2, py.lower pattern = pattern := by
  have hall : ∀ builtIn ∈ builtInTopics, ∃ pattern ∈ builtIn.2,
      isAscii pattern = true ∧ asciiLower pattern = pattern := by
    decide +kernel
  rcases hall builtIn h with ⟨pattern, hmem, hascii, hlower⟩
  exact ⟨pattern, hmem, by rw [py.lower_ascii pattern hascii, hlower]⟩

/-- An accepted policy has an effect on some text exactly when it is enforceable: when it
lists a keyword or a topic, covers a built-in topic, or marks what the detector can find. -/
theorem accepted_enforced_iff (detect : String → String × List DetectorFinding)
    (policy : TenantPolicy)
    (h : validatePolicyRulesForLifecycle py (.obj policy.rules) = []) :
    (∃ text, effect py detect text [policy] ≠ effect py detect text []) ↔
      Enforceable py detect policy := by
  have haccepted : Accepted py policy := h
  simp only [effect_ne_iff haccepted]
  constructor
  · rintro ⟨text, hmarks | (⟨builtIn, hbuiltIn, hcovers, -⟩ | htopic) | hkeyword⟩
    · exact Or.inr (Or.inr ⟨text, hmarks⟩)
    · exact Or.inr (Or.inl ⟨builtIn, hbuiltIn, hcovers⟩)
    · unfold firesCustomTopic at htopic
      rcases Bool.or_eq_true_iff.mp htopic with hblocked | houtside
      · rcases List.any_eq_true.mp hblocked with ⟨topic, hmem, -⟩
        exact Or.inl ⟨"blocked_topics", by simp, List.ne_nil_of_mem hmem⟩
      · refine Or.inl ⟨"allowed_topics", by simp, ?_⟩
        intro hnil
        simp [hnil] at houtside
    · rcases List.any_eq_true.mp hkeyword with ⟨keyword, hmem, -⟩
      exact Or.inl ⟨"blocked_keywords", by simp, List.ne_nil_of_mem hmem⟩
  · rintro (⟨key, hkey, hlist⟩ | ⟨builtIn, hbuiltIn, hcovers⟩ | ⟨text, hmarks⟩)
    · rcases List.exists_mem_of_ne_nil _ hlist with ⟨item, hitem⟩
      simp only [List.mem_cons, List.not_mem_nil, or_false] at hkey
      rcases hkey with rfl | rfl | rfl
      · exact ⟨item, Or.inr (Or.inr (List.any_eq_true.mpr ⟨item, hitem, contains_self _⟩))⟩
      · refine ⟨item, Or.inr (Or.inl (Or.inr (Bool.or_eq_true_iff.mpr (Or.inl ?_))))⟩
        exact List.any_eq_true.mpr ⟨item, hitem, contains_self _⟩
      · -- no topic is contained in the empty text
        refine ⟨"", Or.inr (Or.inl (Or.inr (Bool.or_eq_true_iff.mpr (Or.inr ?_))))⟩
        have hnone : ∀ topic ∈ listRules py policy.rules "allowed_topics",
            contains (py.lower topic) (py.lower "") = false := by
          intro topic htopic
          rw [py.lower_ascii "" rfl, ← Bool.not_eq_true]
          intro hcontains
          exact haccepted.listRules_ne_empty (by simp) htopic
            (py.lower_eq_empty topic (contains_empty hcontains))
        have hany : (listRules py policy.rules "allowed_topics").any
            (fun topic => contains (py.lower topic) (py.lower "")) = false := by
          rw [List.any_eq_false]
          intro topic htopic
          simp [hnone topic htopic]
        rw [hany, List.isEmpty_eq_false_iff.mpr hlist]
        rfl
    · rcases @exists_lower_pattern py _ hbuiltIn with ⟨pattern, hmem, hlower⟩
      refine ⟨pattern, Or.inr (Or.inl (Or.inl ⟨builtIn, hbuiltIn, hcovers, ?_⟩))⟩
      rw [hlower]
      exact List.any_eq_true.mpr ⟨pattern, hmem, contains_self pattern⟩
    · exact ⟨text, Or.inl hmarks⟩

end

theorem enforced_payroll :
    (∃ text, effect asciiText (fun text => (text, [])) text [payrollPolicy] ≠
        effect asciiText (fun text => (text, [])) text []) ↔
      Enforceable asciiText (fun text => (text, [])) payrollPolicy :=
  accepted_enforced_iff (fun text => (text, [])) payrollPolicy (by decide +kernel)

/-- A policy whose list of allowed topics is empty. -/
def unrestrictedPolicy : TenantPolicy where
  id := some 2
  name := "Unrestricted"
  type := "Custom"
  rules := [("allowed_topics", .arr [])]
  version := 1
  status := "published"

/-- Its rules are accepted and have no effect, whatever the detector finds. -/
theorem accepted_noop :
    validatePolicyRulesForLifecycle asciiText (.obj unrestrictedPolicy.rules) = [] ∧
      ¬ ∃ (detect : String → String × List DetectorFinding) (text : String),
        effect asciiText detect text [unrestrictedPolicy] ≠ effect asciiText detect text [] := by
  have haccepted : Accepted asciiText unrestrictedPolicy := by
    unfold Accepted
    decide +kernel
  have hcategories : ∀ category ∈ builtInCategories,
      category ∉ policyCategories asciiText unrestrictedPolicy := by
    decide +kernel
  refine ⟨haccepted, ?_⟩
  rintro ⟨detect, text, hne⟩
  rcases (effect_ne_iff haccepted).mp hne with
    ⟨item, -, hmarks⟩ | (⟨builtIn, hbuiltIn, hcovers, -⟩ | htopic) | hkeyword
  · exact hcategories _ (entityCategory_mem _) hmarks.1
  · exact hcategories _ (builtInTopics_mem hbuiltIn) hcovers
  · exact absurd htopic Bool.false_ne_true
  · exact absurd hkeyword Bool.false_ne_true

end AuthClaw.Policy
