import AuthClaw.Policy.Verdict

/-!
# The strictest policy

Is the verdict of an evaluation the strictest one that any policy of the list asks
for, in whatever order the policies stand?  A detector finding and a built-in topic
are judged by the first policy that covers their category alone, so the order
matters unless a strictest answer is anchored.

Main results:

- Theorem {lit}`rank_le_highest_of_attributed`: what a policy finds when it stands
  alone is at most the highest verdict of the list.
- Theorem {lit}`strictestWins_iff`: the verdict is the strictest one in every order
  exactly when the strictest verdict is settled.
- Theorem {lit}`first_match_wins`: two policies of one category.
-/

namespace AuthClaw.Policy

open PythonText FirstMatch

section

variable (py : PyText)

/-- The finding carries the id of the policy; without an id it belongs to no policy. -/
def AttributedTo (f : PolicyFinding) (policy : TenantPolicy) : Prop :=
  policy.id ≠ none ∧ f.policyId = policy.id

/-- The strictest policy wins, in any order. -/
def StrictestWins (detect : String → String × List DetectorFinding) (text : String)
    (policies : List TenantPolicy) : Prop :=
  (∀ policies', policies.Perm policies' →
    (evaluate py detect text policies').map EvaluationResult.action =
      (evaluate py detect text policies).map EvaluationResult.action) ∧
  ∀ result, evaluate py detect text policies = .ok result →
    ∀ policy ∈ policies, ∀ alone, evaluate py detect text [policy] = .ok alone →
      ∀ f ∈ alone.findings, AttributedTo f policy → f.action.priority ≤ result.action.priority

/-- The strictest verdict of any policy on any finding or topic it covers, and of
what is judged without an order. -/
def strictestRank (text : String) (items : List DetectorFinding)
    (policies : List TenantPolicy) : Nat :=
  highest (Question.covers py) (Question.rank py) (Question.unmatched py)
    (fixedRank py text items policies) (questions py text items) policies

/-- The strictest verdict is settled before the policies are ordered: it is given
without an order, or each policy that covers one of an anchoring set of questions
gives it to one of them. -/
def StrictestSettled (text : String) (items : List DetectorFinding)
    (policies : List TenantPolicy) : Prop :=
  settled (Question.covers py) (Question.unmatched py) (fixedRank py text items policies)
      (questions py text items) policies = strictestRank py text items policies ∨
    Anchored (Question.covers py) (Question.rank py) policies (questions py text items)
      (strictestRank py text items policies)

variable {py}

/-! ## The order of the policies -/

theorem fixedRank_perm {text : String} {items : List DetectorFinding}
    {policies policies' : List TenantPolicy} (hperm : policies.Perm policies') :
    fixedRank py text items policies = fixedRank py text items policies' := by
  unfold fixedRank
  rw [maxRank_perm (hperm.map (ownRank py text))]

/-- Two evaluations have the same verdict when their ranks agree. -/
theorem verdict_eq_iff (detect : String → String × List DetectorFinding) (text : String)
    (policies policies' : List TenantPolicy) :
    (evaluate py detect text policies).map EvaluationResult.action =
        (evaluate py detect text policies').map EvaluationResult.action ↔
      verdictRank ((evaluate py detect text policies).map EvaluationResult.action) =
        verdictRank ((evaluate py detect text policies').map EvaluationResult.action) := by
  constructor
  · intro h
    rw [h]
  · intro h
    cases hleft : evaluate py detect text policies with
    | error e =>
        cases hright : evaluate py detect text policies' with
        | error e' => rw [evaluate_error hleft, evaluate_error hright]
        | ok r =>
            rw [hleft, hright] at h
            exact absurd h.symm (Nat.ne_of_lt r.action.priority_lt)
    | ok r =>
        cases hright : evaluate py detect text policies' with
        | error e' =>
            rw [hleft, hright] at h
            exact absurd h (Nat.ne_of_lt r.action.priority_lt)
        | ok r' =>
            rw [hleft, hright] at h
            have haction : r.action = r'.action := Action.eq_of_priority_eq h
            change Except.ok r.action = Except.ok r'.action
            rw [haction]

/-- The verdict is the same in every order exactly when the strictest one is
settled. -/
theorem verdict_order_independent_iff (detect : String → String × List DetectorFinding)
    (text : String) (policies : List TenantPolicy) :
    (∀ policies', policies.Perm policies' →
      (evaluate py detect text policies').map EvaluationResult.action =
        (evaluate py detect text policies).map EvaluationResult.action) ↔
      StrictestSettled py text (detect text).2 policies := by
  unfold StrictestSettled strictestRank
  rw [← outcome_order_independent_iff]
  apply forall_congr'
  intro policies'
  apply imp_congr_right
  intro hperm
  rw [verdict_eq_iff, verdictRank_evaluate, verdictRank_evaluate, fixedRank_perm hperm]

/-- A settled verdict is the strictest one. -/
theorem verdict_eq_strictestRank {detect : String → String × List DetectorFinding}
    {text : String} {policies : List TenantPolicy}
    (h : StrictestSettled py text (detect text).2 policies) :
    verdictRank ((evaluate py detect text policies).map EvaluationResult.action) =
      strictestRank py text (detect text).2 policies := by
  rw [verdictRank_evaluate]
  exact (outcome_eq_highest_iff _ _ _).mpr h policies (List.Perm.refl policies)

/-! ## A policy on its own -/

/-- The findings of a part that succeeds are at most its worst. -/
theorem priority_le_worst {found : Except PyError (List PolicyFinding)}
    {findings : List PolicyFinding} (h : found = .ok findings) {f : PolicyFinding}
    (hf : f ∈ findings) : f.action.priority ≤ worst found := by
  rw [h, worst_ok]
  exact le_maxRank (List.mem_map_of_mem hf)

theorem ownRank_le_strictestRank {text : String} {items : List DetectorFinding}
    {policies : List TenantPolicy} {policy : TenantPolicy} (hmem : policy ∈ policies) :
    ownRank py text policy ≤ strictestRank py text items policies := by
  unfold strictestRank highest settled fixedRank
  have hown : ownRank py text policy ≤ maxRank (policies.map (ownRank py text)) :=
    le_maxRank (List.mem_map_of_mem hmem)
  omega

/-- A detector finding that a single policy takes over is judged by its rank. -/
theorem detectorFinding_attributed {policy : TenantPolicy} {item : DetectorFinding}
    {f : PolicyFinding} (h : detectorFinding py [policy] item = .ok f)
    (hattributed : AttributedTo f policy) :
    (Question.item item).covers py policy = true ∧
      f.action.priority = (Question.item item).rank py policy := by
  have hrank : findingRank (detectorFinding py [policy] item) = f.action.priority := by
    rw [h]
    rfl
  rw [findingRank_detectorFinding] at hrank
  cases hcovers : (Question.item item).covers py policy with
  | true =>
      refine ⟨rfl, ?_⟩
      rw [← hrank]
      unfold firstRank
      rw [List.find?_cons_of_pos hcovers]
  | false =>
      have hnone : matchingPolicyForCategory py ((Question.item item).category py) [policy] =
          none := by
        rw [matchingPolicyForCategory_eq, List.find?_cons_of_neg (by simp [hcovers])]
        rfl
      rcases bind_eq_ok h with ⟨_, -, hf⟩
      cases hf
      refine absurd hattributed.2 ?_
      change (matchingPolicyForCategory py ((Question.item item).category py) [policy]).bind
        TenantPolicy.id ≠ policy.id
      rw [hnone]
      exact fun hid => hattributed.1 hid.symm

/-- A built-in topic of a single policy is judged by its rank. -/
theorem builtInTopicFindings_alone {text : String} {policy : TenantPolicy}
    {builtIn : String × List String} {findings : List PolicyFinding}
    (h : builtInTopicFindings py (py.lower text) [policy] builtIn = .ok findings)
    {f : PolicyFinding} (hf : f ∈ findings) :
    builtIn.2.any (fun pattern => contains pattern (py.lower text)) = true ∧
      (Question.topic builtIn.1).covers py policy = true ∧
        f.action.priority = (Question.topic builtIn.1).rank py policy := by
  unfold builtInTopicFindings at h
  have hfind : matchingPolicyForCategory py builtIn.1 [policy] =
      [policy].find? ((Question.topic builtIn.1).covers py) := rfl
  rw [hfind] at h
  cases hcovers : (Question.topic builtIn.1).covers py policy with
  | false =>
      rw [List.find?_cons_of_neg (by simp [hcovers])] at h
      cases h
      cases hf
  | true =>
      rw [List.find?_cons_of_pos hcovers] at h
      rcases mem_of_mapM_eq_ok h hf with ⟨pattern, hpattern, htopic⟩
      refine ⟨?_, rfl, ?_⟩
      · rcases List.mem_filter.mp hpattern with ⟨hpattern, hcontains⟩
        exact List.any_eq_true.mpr ⟨pattern, hpattern, hcontains⟩
      · have hrank := @findingRank_topicFinding py policy builtIn.1
          "Built-in category topic matched" pattern
        rw [htopic] at hrank
        exact hrank

theorem topic_mem_questions {text : String} {items : List DetectorFinding}
    {builtIn : String × List String} (hbuiltIn : builtIn ∈ builtInTopics)
    (hmatched : builtIn.2.any (fun pattern => contains pattern (py.lower text)) = true) :
    Question.topic builtIn.1 ∈ questions py text items := by
  unfold questions
  apply List.mem_append_right
  exact List.mem_map.mpr ⟨builtIn, List.mem_filter.mpr ⟨hbuiltIn, hmatched⟩, rfl⟩

/-- What a policy finds when it stands alone is at most the strictest verdict. -/
theorem rank_le_highest_of_attributed {detect : String → String × List DetectorFinding}
    {text : String} {policies : List TenantPolicy} {policy : TenantPolicy}
    (hmem : policy ∈ policies) {alone : EvaluationResult}
    (h : evaluate py detect text [policy] = .ok alone) {f : PolicyFinding}
    (hf : f ∈ alone.findings) (hattributed : AttributedTo f policy) :
    f.action.priority ≤ strictestRank py text (detect text).2 policies := by
  rcases bind_eq_ok h with ⟨findings, hcollect, h⟩
  cases h
  change f ∈ findings at hf
  rcases bind_eq_ok hcollect with ⟨detected, hdetected, hcollect⟩
  rcases bind_eq_ok hcollect with ⟨topics, htopics, hcollect⟩
  cases hcollect
  simp only [List.mem_append] at hf
  rcases hf with ((hf | hf) | hf) | hf
  · rcases mem_of_mapM_eq_ok hdetected hf with ⟨item, hitem, hfind⟩
    rcases detectorFinding_attributed hfind hattributed with ⟨hcovers, hrank⟩
    rw [hrank]
    apply rank_le_highest _ hmem hcovers
    unfold questions
    exact List.mem_append_left _ (List.mem_map_of_mem hitem)
  · -- a baseline finding carries no id
    refine absurd hattributed.2 ?_
    unfold baselineSecurityFindings baselineFindings at hf
    simp only [List.mem_append, List.mem_map] at hf
    rcases hf with (⟨_, -, rfl⟩ | ⟨_, -, rfl⟩) | ⟨_, -, rfl⟩ <;> exact hattributed.1.symm
  · rcases bind_eq_ok htopics with ⟨builtIns, hbuiltIns, htopics⟩
    rcases bind_eq_ok htopics with ⟨custom, hcustom, htopics⟩
    cases htopics
    rcases List.mem_append.mp hf with hf | hf
    · rcases List.mem_flatten.mp hf with ⟨found, hfound, hf⟩
      rcases mem_of_mapM_eq_ok hbuiltIns hfound with ⟨builtIn, hbuiltIn, hfind⟩
      rcases builtInTopicFindings_alone hfind hf with ⟨hmatched, hcovers, hrank⟩
      rw [hrank]
      exact rank_le_highest (topic_mem_questions hbuiltIn hmatched) hmem hcovers
    · rcases List.mem_flatten.mp hf with ⟨found, hfound, hf⟩
      rcases mem_of_mapM_eq_ok hcustom hfound with ⟨policy', hpolicy, hfind⟩
      rw [List.mem_singleton] at hpolicy
      subst hpolicy
      apply le_trans (priority_le_worst hfind hf)
      exact le_trans (le_max_left _ _) (ownRank_le_strictestRank hmem)
  · rcases List.mem_flatMap.mp hf with ⟨policy', hpolicy, hkeywords⟩
    rw [List.mem_singleton] at hpolicy
    subst hpolicy
    have hkeyword : f.action.priority ≤
        worst (.ok (policyKeywordFindings py (py.lower text) policy')) :=
      priority_le_worst rfl hkeywords
    exact le_trans hkeyword (le_trans (le_max_right _ _) (ownRank_le_strictestRank hmem))

/-! ## The strictest policy wins -/

/-- The verdict is the strictest one in every order exactly when the strictest
verdict is settled. -/
theorem strictestWins_iff (detect : String → String × List DetectorFinding) (text : String)
    (policies : List TenantPolicy) :
    StrictestWins py detect text policies ↔
      StrictestSettled py text (detect text).2 policies := by
  constructor
  · intro h
    exact (verdict_order_independent_iff detect text policies).mp h.1
  · intro h
    refine ⟨(verdict_order_independent_iff detect text policies).mpr h, ?_⟩
    intro result hresult policy hmem alone halone f hf hattributed
    have hverdict := verdict_eq_strictestRank h
    rw [hresult] at hverdict
    have hrank : result.action.priority = strictestRank py text (detect text).2 policies :=
      hverdict
    rw [hrank]
    exact rank_le_highest_of_attributed hmem halone hf hattributed

end

/-! ## Two policies of one category -/

/-- A policy on financial data with one action. -/
def financialPolicy (id : Int) (action : String) : TenantPolicy where
  id := some id
  name := "Payments"
  type := "FINANCIAL_DATA"
  rules := [("action", .str action)]
  version := 1
  status := "published"

/-- Of two financial policies the first one decides, whichever is stricter. -/
theorem first_match_wins :
    ¬ ∀ (py : PyText) (detect : String → String × List DetectorFinding) (text : String)
      (policies : List TenantPolicy), StrictestWins py detect text policies := by
  intro h
  have hperm := (h asciiText (fun text => (text, [])) "wire transfer"
    [financialPolicy 1 "redact", financialPolicy 2 "block"]).1
    [financialPolicy 2 "block", financialPolicy 1 "redact"] (List.Perm.swap _ _ _)
  have hdecided : ((evaluate asciiText (fun text => (text, [])) "wire transfer"
      [financialPolicy 2 "block", financialPolicy 1 "redact"]).map EvaluationResult.action).toOption
        ≠ ((evaluate asciiText (fun text => (text, [])) "wire transfer"
      [financialPolicy 1 "redact", financialPolicy 2 "block"]).map
        EvaluationResult.action).toOption := by
    decide +kernel
  exact hdecided (congrArg Except.toOption hperm)

end AuthClaw.Policy
