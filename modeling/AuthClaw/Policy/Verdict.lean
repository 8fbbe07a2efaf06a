import AuthClaw.Library.FirstMatch
import AuthClaw.Policy.Engine

/-!
# How strict an evaluation comes out

An evaluation asks one question for every detector finding and for every built-in
topic of the text; the first policy that covers its category answers it.  Custom
topics and keywords are asked of every policy, and the baseline of none.  An
evaluation that raises counts as stricter than every action, so that its verdict is
the maximum of all answers.

Main results:

- Theorem {lit}`worst_mapM`: the strictest finding of a list of lookups.
- Theorem {lit}`verdictRank_evaluate`: the verdict of an evaluation is the maximum of
  the answers of the first matching policies and of a part that reads no order.
- Theorem {lit}`evaluate_error`: an evaluation raises nothing but an attribute error.
-/

namespace AuthClaw.Policy

open PythonText FirstMatch

section

variable (py : PyText)

/-! ## Ranks -/

/-- The priority of an action; an exception is above every action. -/
def verdictRank : Except PyError Action → Nat
  | .ok a => a.priority
  | .error _ => 4

/-- The strictest of several findings, when they are found. -/
def worst : Except PyError (List PolicyFinding) → Nat
  | .ok findings => maxRank (findings.map (fun f => f.action.priority))
  | .error _ => 4

/-- The rank of a single lookup. -/
def findingRank (found : Except PyError PolicyFinding) : Nat :=
  verdictRank (found.map PolicyFinding.action)

variable {py}

theorem Action.priority_lt (a : Action) : a.priority < 4 := by
  cases a <;> decide

theorem Action.eq_of_priority_eq {a b : Action} (h : a.priority = b.priority) : a = b := by
  cases a <;> cases b <;> first | rfl | cases h

theorem verdictRank_lt_iff {v : Except PyError Action} :
    verdictRank v < 4 ↔ ∃ a, v = .ok a := by
  cases v with
  | error e => simp [verdictRank]
  | ok a => simp [verdictRank, a.priority_lt]

@[simp]
theorem worst_ok (findings : List PolicyFinding) :
    worst (.ok findings) = maxRank (findings.map (fun f => f.action.priority)) :=
  rfl

@[simp]
theorem worst_error (e : PyError) : worst (.error e) = 4 :=
  rfl

theorem worst_le (found : Except PyError (List PolicyFinding)) : worst found ≤ 4 := by
  cases found with
  | error e => exact le_rfl
  | ok findings =>
      apply maxRank_le_iff.mpr
      intro n hn
      rcases List.mem_map.mp hn with ⟨f, -, rfl⟩
      exact Nat.le_of_lt f.action.priority_lt

theorem worst_lt_iff {found : Except PyError (List PolicyFinding)} :
    worst found < 4 ↔ ∃ findings, found = .ok findings := by
  cases found with
  | error e => simp
  | ok findings =>
      refine ⟨fun _ => ⟨findings, rfl⟩, fun _ => ?_⟩
      apply Nat.lt_succ_of_le
      apply maxRank_le_iff.mpr
      intro n hn
      rcases List.mem_map.mp hn with ⟨f, -, rfl⟩
      exact Nat.le_of_lt_succ f.action.priority_lt

/-- Findings of two parts, one after the other. -/
theorem worst_append (x y : Except PyError (List PolicyFinding)) :
    worst (x >>= fun fs => y >>= fun gs => .ok (fs ++ gs)) = max (worst x) (worst y) := by
  cases x with
  | error e => exact (Nat.max_eq_left (worst_le y)).symm
  | ok fs =>
      cases y with
      | error e => exact (Nat.max_eq_right (worst_le (.ok fs))).symm
      | ok gs =>
          change maxRank ((fs ++ gs).map (fun f => f.action.priority)) = _
          rw [List.map_append, maxRank_append]
          rfl

/-- The strictest finding of a list of lookups. -/
theorem worst_mapM {X : Type} (find : X → Except PyError PolicyFinding) (xs : List X) :
    worst (xs.mapM find) = maxRank (xs.map (fun x => findingRank (find x))) := by
  induction xs with
  | nil => rfl
  | cons x xs ih =>
      rw [List.mapM_cons, List.map_cons, maxRank_cons, ← ih]
      cases hx : find x with
      | error e => exact (Nat.max_eq_left (worst_le _)).symm
      | ok f =>
          cases hxs : xs.mapM find with
          | error e => exact (Nat.max_eq_right (Nat.le_of_lt f.action.priority_lt)).symm
          | ok fs => rfl

/-- The strictest finding of several lists of lookups. -/
theorem worst_flatten {X : Type} (find : X → Except PyError (List PolicyFinding)) (xs : List X) :
    worst (xs.mapM find >>= fun found => .ok found.flatten) =
      maxRank (xs.map (fun x => worst (find x))) := by
  induction xs with
  | nil => rfl
  | cons x xs ih =>
      rw [List.map_cons, maxRank_cons, ← ih, ← worst_append, List.mapM_cons]
      cases hx : find x with
      | error e => rfl
      | ok fs =>
          cases hxs : xs.mapM find with
          | error e => rfl
          | ok found => rfl

/-! ## Questions -/

variable (py)

/-- What the first matching policy decides: a detector finding, or a built-in topic
of the text. -/
inductive Question where
  | item (finding : DetectorFinding)
  | topic (category : String)

/-- The category a question is about. -/
def Question.category : Question → String
  | .item finding => entityCategory (py.lower finding.matchedPattern)
  | .topic category => category

/-- The policy covers the category. -/
def Question.covers (u : Question) (policy : TenantPolicy) : Bool :=
  normalizeCategory py (u.category py) ∈ policyCategories py policy

/-- The action when no category rule names one. -/
def Question.otherwise (u : Question) (policy : Option TenantPolicy) : Action :=
  match u with
  | .item finding => (normalizeAction py (some (.str finding.action))).getD .redact
  | .topic _ =>
      ((policy.bind (fun p => normalizeAction py (getKey p.rules "action")))).getD .requireApproval

/-- The action a policy gives to a question. -/
def Question.verdict (u : Question) (policy : Option TenantPolicy) : Except PyError Action :=
  (actionForCategory py (u.category py) policy).map (fun a => a.getD (u.otherwise py policy))

/-- The rank of a policy's answer. -/
def Question.rank (u : Question) (policy : TenantPolicy) : Nat :=
  verdictRank (u.verdict py (some policy))

/-- The rank when no policy covers the category: a topic is not reported then. -/
def Question.unmatched (u : Question) : Nat :=
  match u with
  | .item _ => verdictRank (u.verdict py none)
  | .topic _ => 0

/-- The built-in topics and their patterns. -/
def builtInTopics : List (String × List String) :=
  [("FINANCIAL_DATA", financialPatterns), ("MEDICAL_DATA", medicalPatterns),
    ("LEGAL_DATA", legalPatterns)]

/-- The questions a text raises. -/
def questions (text : String) (items : List DetectorFinding) : List Question :=
  items.map .item ++
    (builtInTopics.filter (fun builtIn =>
      builtIn.2.any (fun pattern => contains pattern (py.lower text)))).map
        (fun builtIn => .topic builtIn.1)

/-- What a policy finds by itself: its topics and its keywords. -/
def ownRank (text : String) (policy : TenantPolicy) : Nat :=
  max (worst (customTopicFindings py (py.lower text) policy))
    (worst (.ok (policyKeywordFindings py (py.lower text) policy)))

/-- The least action of a text with a detector finding. -/
def detectedRank (items : List DetectorFinding) : Nat :=
  if items = [] then 0 else Action.redact.priority

/-- The part of an evaluation in which no policy comes first. -/
def fixedRank (text : String) (items : List DetectorFinding) (policies : List TenantPolicy) :
    Nat :=
  max (detectedRank items)
    (max (worst (.ok (baselineSecurityFindings py text)))
      (maxRank (policies.map (ownRank py text))))

variable {py}

theorem matchingPolicyForCategory_eq (u : Question) (policies : List TenantPolicy) :
    matchingPolicyForCategory py (u.category py) policies = policies.find? (u.covers py) :=
  rfl

theorem findingRank_detectorFinding (policies : List TenantPolicy) (item : DetectorFinding) :
    findingRank (detectorFinding py policies item) =
      firstRank (Question.covers py) (Question.rank py) (Question.unmatched py) policies
        (.item item) := by
  have hverdict : ∀ policy : Option TenantPolicy,
      matchingPolicyForCategory py (entityCategory (py.lower item.matchedPattern)) policies =
          policy →
        findingRank (detectorFinding py policies item) =
          verdictRank ((Question.item item).verdict py policy) := by
    intro policy hpolicy
    unfold detectorFinding findingRank Question.verdict Question.category Question.otherwise
    simp only [hpolicy]
    cases actionForCategory py (entityCategory (py.lower item.matchedPattern)) policy with
    | error e => rfl
    | ok a =>
        simp only [bind, Except.bind, pure, Except.pure, Except.map, verdictRank]
        cases a with
        | none => rw [Option.none_or, Option.getD_none]
        | some action => rw [Option.some_or, Option.getD_some, Option.getD_some]
  unfold firstRank
  rw [← matchingPolicyForCategory_eq]
  cases hpolicy : matchingPolicyForCategory py ((Question.item item).category py) policies with
  | none => exact hverdict none hpolicy
  | some policy => exact hverdict (some policy) hpolicy

theorem findingRank_topicFinding (policy : TenantPolicy) (category reason pattern : String) :
    findingRank (topicFinding py policy category reason pattern) =
      (Question.topic category).rank py policy := by
  unfold topicFinding findingRank Question.rank Question.verdict Question.category
    Question.otherwise
  simp only
  cases actionForCategory py category (some policy) with
  | error e => rfl
  | ok a =>
      simp only [bind, Except.bind, pure, Except.pure, Except.map, verdictRank, Option.bind]
      cases a with
      | none => rw [Option.none_or, Option.getD_none]
      | some action => rw [Option.some_or, Option.getD_some, Option.getD_some]

/-- The maximum of a list with one value. -/
theorem maxRank_map_const {X : Type} {xs : List X} (hne : xs ≠ []) (n : Nat) :
    maxRank (xs.map (fun _ => n)) = n := by
  apply le_antisymm
  · apply maxRank_le_iff.mpr
    intro m hm
    rcases List.mem_map.mp hm with ⟨_, -, rfl⟩
    exact le_rfl
  · rcases List.exists_mem_of_ne_nil xs hne with ⟨x, hx⟩
    exact le_maxRank (List.mem_map.mpr ⟨x, hx, rfl⟩)

theorem worst_builtInTopicFindings (lowered : String) (policies : List TenantPolicy)
    (builtIn : String × List String) :
    worst (builtInTopicFindings py lowered policies builtIn) =
      if builtIn.2.any (fun pattern => contains pattern lowered) then
        firstRank (Question.covers py) (Question.rank py) (Question.unmatched py) policies
          (.topic builtIn.1)
      else 0 := by
  have hcategory : (Question.topic builtIn.1).category py = builtIn.1 := rfl
  unfold builtInTopicFindings firstRank
  rw [← matchingPolicyForCategory_eq, hcategory]
  cases matchingPolicyForCategory py builtIn.1 policies with
  | none => simp [Question.unmatched]
  | some policy =>
      simp only [worst_mapM, findingRank_topicFinding]
      by_cases hmatched : builtIn.2.any (fun pattern => contains pattern lowered) = true
      · rw [if_pos hmatched]
        apply maxRank_map_const
        rcases List.any_eq_true.mp hmatched with ⟨pattern, hpattern, hcontains⟩
        exact List.ne_nil_of_mem (List.mem_filter.mpr ⟨hpattern, hcontains⟩)
      · rw [if_neg hmatched]
        have hnone : builtIn.2.filter (fun pattern => contains pattern lowered) = [] := by
          rw [List.filter_eq_nil_iff]
          intro pattern hpattern hcontains
          exact hmatched (List.any_eq_true.mpr ⟨pattern, hpattern, hcontains⟩)
        rw [hnone]
        rfl

/-! ## The verdict -/

theorem worst_keywordFindings (text : String) (policies : List TenantPolicy) :
    worst (.ok (keywordFindings py text policies)) =
      maxRank (policies.map (fun policy =>
        worst (.ok (policyKeywordFindings py (py.lower text) policy)))) := by
  unfold keywordFindings
  induction policies with
  | nil => rfl
  | cons policy policies ih =>
      rw [List.flatMap_cons, List.map_cons, maxRank_cons, ← ih]
      simp only [worst_ok, List.map_append, maxRank_append]

theorem worst_topicFindings (text : String) (policies : List TenantPolicy) :
    worst (topicFindings py text policies) =
      max (maxRank (builtInTopics.map (fun builtIn =>
          worst (builtInTopicFindings py (py.lower text) policies builtIn))))
        (maxRank (policies.map (fun policy =>
          worst (customTopicFindings py (py.lower text) policy)))) := by
  rw [← worst_flatten, ← worst_flatten, ← worst_append]
  change worst (builtInTopics.mapM (builtInTopicFindings py (py.lower text) policies) >>= _) = _
  cases builtInTopics.mapM (builtInTopicFindings py (py.lower text) policies) with
  | error e => rfl
  | ok builtIns =>
      change worst (policies.mapM (customTopicFindings py (py.lower text)) >>= _) = _
      cases policies.mapM (customTopicFindings py (py.lower text)) with
      | error e => rfl
      | ok custom => rfl

theorem maxRank_map_max {X : Type} (f g : X → Nat) (xs : List X) :
    maxRank (xs.map (fun x => max (f x) (g x))) =
      max (maxRank (xs.map f)) (maxRank (xs.map g)) := by
  induction xs with
  | nil => rfl
  | cons x xs ih =>
      simp only [List.map_cons, maxRank_cons, ih]
      omega

theorem maxRank_map_filter {X : Type} (p : X → Bool) (f : X → Nat) (xs : List X) :
    maxRank (xs.map (fun x => if p x then f x else 0)) = maxRank ((xs.filter p).map f) := by
  induction xs with
  | nil => rfl
  | cons x xs ih =>
      cases hp : p x with
      | true => simp [hp, ih]
      | false => simp [hp, ih]

/-- The strictest finding of an evaluation, from its parts. -/
theorem worst_collectFindings (text : String) (items : List DetectorFinding)
    (policies : List TenantPolicy) :
    max (detectedRank items) (worst (collectFindings py text items policies)) =
      outcome (Question.covers py) (Question.rank py) (Question.unmatched py)
        (fixedRank py text items policies) (questions py text items) policies := by
  have hparts : worst (collectFindings py text items policies) =
      max (max (worst (detectorFindings py items policies))
        (worst (.ok (baselineSecurityFindings py text))))
        (max (worst (topicFindings py text policies))
          (worst (.ok (keywordFindings py text policies)))) := by
    rw [← worst_append, ← worst_append, ← worst_append]
    unfold collectFindings
    cases detectorFindings py items policies with
    | error e => rfl
    | ok detected =>
        cases topicFindings py text policies with
        | error e => rfl
        | ok topics =>
            change worst (.ok _) = worst (.ok _)
            rw [List.append_assoc]
  have hquestions : maxRank ((questions py text items).map
        (firstRank (Question.covers py) (Question.rank py) (Question.unmatched py) policies)) =
      max (worst (detectorFindings py items policies))
        (maxRank (builtInTopics.map (fun builtIn =>
          worst (builtInTopicFindings py (py.lower text) policies builtIn)))) := by
    unfold questions detectorFindings
    rw [List.map_append, maxRank_append, List.map_map, List.map_map, worst_mapM]
    simp only [worst_builtInTopicFindings, maxRank_map_filter, findingRank_detectorFinding]
    rfl
  unfold outcome fixedRank
  rw [hparts, hquestions, worst_topicFindings, worst_keywordFindings]
  unfold ownRank
  rw [maxRank_map_max]
  ac_rfl

/-- The final action of the findings. -/
theorem priority_finalAction (actions : List Action) :
    (finalAction py actions).priority = maxRank (actions.map Action.priority) := by
  apply le_antisymm
  · by_cases hallow : finalAction py actions = .allow
    · rw [hallow]
      exact Nat.zero_le _
    · exact le_maxRank (List.mem_map_of_mem (finalAction_mem py hallow))
  · apply maxRank_le_iff.mpr
    intro n hn
    rcases List.mem_map.mp hn with ⟨a, ha, rfl⟩
    exact priority_le_finalAction py ha

/-- The action of a result is the strictest of its findings, and at least `REDACT`
when the detector reported one. -/
theorem priority_resultOf (redactedText : String) (items : List DetectorFinding)
    (policies : List TenantPolicy) (findings : List PolicyFinding) :
    (resultOf py redactedText items policies findings).action.priority =
      max (detectedRank items) (worst (.ok findings)) := by
  have hstrict := @priority_finalAction py (findings.map PolicyFinding.action)
  rw [List.map_map] at hstrict
  change _ = worst (.ok findings) at hstrict
  unfold resultOf detectedRank
  rw [← hstrict]
  simp only
  by_cases hallow : finalAction py (findings.map PolicyFinding.action) = .allow
  · by_cases hitems : items = []
    · simp [hallow, hitems]
    · simp [hallow, hitems, Action.priority]
  · have hpositive : 1 ≤ (finalAction py (findings.map PolicyFinding.action)).priority := by
      cases hfinal : finalAction py (findings.map PolicyFinding.action) with
      | allow => exact absurd hfinal hallow
      | redact => decide
      | requireApproval => decide
      | block => decide
    by_cases hitems : items = []
    · simp [hallow, hitems]
    · simp [hallow, hitems, Action.priority] at hpositive ⊢
      exact hpositive

/-- The verdict of an evaluation is the maximum of the answers of the first
matching policies and of the fixed part. -/
theorem verdictRank_evaluate (detect : String → String × List DetectorFinding) (text : String)
    (policies : List TenantPolicy) :
    verdictRank ((evaluate py detect text policies).map EvaluationResult.action) =
      outcome (Question.covers py) (Question.rank py) (Question.unmatched py)
        (fixedRank py text (detect text).2 policies) (questions py text (detect text).2)
        policies := by
  rw [← worst_collectFindings]
  unfold evaluate
  cases collectFindings py text (detect text).2 policies with
  | error e =>
      change 4 = max _ 4
      unfold detectedRank
      by_cases hitems : (detect text).2 = []
      · simp [hitems]
      · simp [hitems, Action.priority]
  | ok findings => exact priority_resultOf _ _ _ _

/-! ## Exceptions -/

theorem actionForCategory_error {category : String} {policy : Option TenantPolicy} {e : PyError}
    (h : actionForCategory py category policy = .error e) : e = .attributeError := by
  unfold actionForCategory at h
  cases policy with
  | none => cases h
  | some policy =>
      simp only at h
      split at h
      · cases h
      · split at h
        · cases h
          rfl
        · cases h
      · cases h

theorem topicFinding_error {policy : TenantPolicy} {category reason pattern : String} {e : PyError}
    (h : topicFinding py policy category reason pattern = .error e) : e = .attributeError := by
  rcases bind_eq_error h with haction | ⟨_, -, h⟩
  · exact actionForCategory_error haction
  · cases h

theorem customTopicFindings_error {lowered : String} {policy : TenantPolicy} {e : PyError}
    (h : customTopicFindings py lowered policy = .error e) : e = .attributeError := by
  rcases bind_eq_error h with hblocked | ⟨_, -, h⟩
  · rcases exists_error_of_mapM hblocked with ⟨_, -, hfail⟩
    exact topicFinding_error hfail
  · rcases bind_eq_error h with houtside | ⟨_, -, h⟩
    · rcases exists_error_of_mapM houtside with ⟨_, -, hfail⟩
      exact topicFinding_error hfail
    · cases h

theorem builtInTopicFindings_error {lowered : String} {policies : List TenantPolicy}
    {builtIn : String × List String} {e : PyError}
    (h : builtInTopicFindings py lowered policies builtIn = .error e) : e = .attributeError := by
  unfold builtInTopicFindings at h
  cases hpolicy : matchingPolicyForCategory py builtIn.1 policies with
  | none =>
      rw [hpolicy] at h
      cases h
  | some policy =>
      rw [hpolicy] at h
      rcases exists_error_of_mapM h with ⟨_, -, hfail⟩
      exact topicFinding_error hfail

/-- An evaluation raises nothing but an attribute error. -/
theorem evaluate_error {detect : String → String × List DetectorFinding} {text : String}
    {policies : List TenantPolicy} {e : PyError}
    (h : evaluate py detect text policies = .error e) : e = .attributeError := by
  rcases bind_eq_error h with hcollect | ⟨_, -, h⟩
  · rcases bind_eq_error hcollect with hdetected | ⟨_, -, hcollect⟩
    · rcases exists_error_of_mapM hdetected with ⟨item, -, hfail⟩
      rcases bind_eq_error hfail with haction | ⟨_, -, hfail⟩
      · exact actionForCategory_error haction
      · cases hfail
    · rcases bind_eq_error hcollect with htopics | ⟨_, -, hcollect⟩
      · rcases bind_eq_error htopics with hbuiltIns | ⟨_, -, htopics⟩
        · rcases exists_error_of_mapM hbuiltIns with ⟨_, -, hfail⟩
          exact builtInTopicFindings_error hfail
        · rcases bind_eq_error htopics with hcustom | ⟨_, -, htopics⟩
          · rcases exists_error_of_mapM hcustom with ⟨_, -, hfail⟩
            exact customTopicFindings_error hfail
          · cases htopics
      · cases hcollect
  · cases h

end

end AuthClaw.Policy
