import AuthClaw.Opa.PolicyModule
import AuthClaw.Redaction.Prefilter

/-!
# Conflicts in the policy module

The complete rules of a policy module depend on four conditions: something blocks,
something asks for approval, something asks for a redaction, some medium risk is named.
A blocked or risky request whose text also matches a redaction pattern has two risk
levels.  The policy server answers such a conflict with an internal error, and the
backend then opens the circuit breaker, which is one for all tenants.

Main results:

- Theorem {lit}`opaServer_answers_iff`: the server answers exactly where the conditions do
  not clash.
- Theorem {lit}`opaDocument_verdict`: the flag and the decision of an answer.
- Theorem {lit}`clash_opens_breaker`: a clash opens the breaker for every later call.
- Theorem {lit}`conflictFree_iff`: a module is free of conflicts on an input exactly where
  the conditions do not clash.
-/

namespace AuthClaw.Opa

open PythonText JsonText Rego Redaction

/-! ## The conditions of an input -/

/-- The conditions the rules refer to. -/
structure Hits where
  block : Bool
  approval : Bool
  redaction : Bool
  medium : Bool
deriving DecidableEq

/-- The conditions under some tests. -/
def hitsBy (test : ModuleTest → Bool) : Hits where
  block := (ruleTests .block).any test
  approval := (ruleTests .requiresApproval).any test
  redaction := (ruleTests .requiresRedaction).any test
  medium := (ruleTests .mediumRisk).any test

/-- The conditions of a module that hold on an input. -/
def hitsOf (rt : RegoText) (m : PolicyModule) (input : Json) : Hits :=
  hitsBy (testInput rt m input)

/-- A request that is stopped is also to be redacted. -/
def Hits.Clash (h : Hits) : Prop :=
  (h.block = true ∨ h.approval = true) ∧ h.redaction = true

instance (h : Hits) : Decidable h.Clash := by
  unfold Hits.Clash
  infer_instance

/-- The value of `allow`. -/
def Hits.allow (h : Hits) : Bool :=
  !(h.block || h.approval)

/-- The value of `decision`. -/
def Hits.decision (h : Hits) : String :=
  if h.block then "BLOCK"
  else if h.approval then "REQUIRE_APPROVAL"
  else if h.redaction || h.medium then "REDACT"
  else "ALLOW"

theorem Hits.allow_false_iff (h : Hits) :
    h.allow = false ↔ h.decision = "BLOCK" ∨ h.decision = "REQUIRE_APPROVAL" := by
  rcases h with ⟨block, approval, redaction, medium⟩
  cases block <;> cases approval <;> cases redaction <;> cases medium <;> decide

/-! ## The complete rules -/

section

variable (test : ModuleTest → Bool) (defined : RuleName → Bool)

/-- The conditions behind `defined`. -/
def hitsIn : Hits where
  block := defined .block
  approval := defined .requiresApproval
  redaction := defined .requiresRedaction
  medium := defined .mediumRisk

theorem allowRule_eval :
    allowRule.eval test defined = .ok (some (.bool (hitsIn defined).allow)) := by
  cases hblock : defined .block <;> cases happroval : defined .requiresApproval <;>
    simp [CompleteRule.eval, CompleteRule.firing, allowRule, bodyHolds, Literal.holds, hitsIn,
      Hits.allow, hblock, happroval]

theorem reasonRule_eval (blocked : String) :
    ∃ reason, (reasonRule blocked).eval test defined = .ok (some (.str reason)) := by
  cases hblock : defined .block <;> cases happroval : defined .requiresApproval <;>
    cases hredaction : defined .requiresRedaction <;>
    simp [CompleteRule.eval, CompleteRule.firing, reasonRule, bodyHolds, Literal.holds, hblock,
      happroval, hredaction]

theorem riskLevelRule_eval :
    if (hitsIn defined).Clash then riskLevelRule.eval test defined = .error ⟨"risk_level"⟩
    else ∃ v, riskLevelRule.eval test defined = .ok v := by
  cases hblock : defined .block <;> cases happroval : defined .requiresApproval <;>
    cases hredaction : defined .requiresRedaction <;>
    simp [CompleteRule.eval, CompleteRule.firing, riskLevelRule, bodyHolds, Literal.holds, hitsIn,
      Hits.Clash, hblock, happroval, hredaction]

theorem decisionRule_eval {more : List (Clause RuleName ModuleTest Scalar)}
    (hmore : more = [mediumRiskClause] ∨ more = [] ∧ defined .mediumRisk = false) :
    (decisionRule more).eval test defined = .ok (some (.str (hitsIn defined).decision)) := by
  rcases hmore with rfl | ⟨rfl, hmedium⟩
  · cases hblock : defined .block <;> cases happroval : defined .requiresApproval <;>
      cases hredaction : defined .requiresRedaction <;> cases hmedium : defined .mediumRisk <;>
      simp [CompleteRule.eval, CompleteRule.firing, decisionRule, mediumRiskClause, bodyHolds,
        Literal.holds, hitsIn, Hits.decision, hblock, happroval, hredaction, hmedium]
  · cases hblock : defined .block <;> cases happroval : defined .requiresApproval <;>
      cases hredaction : defined .requiresRedaction <;>
      simp [CompleteRule.eval, CompleteRule.firing, decisionRule, bodyHolds, Literal.holds, hitsIn,
        Hits.decision, hblock, happroval, hredaction, hmedium]

end

/-! ## The document -/

section

variable {rt : RegoText} {m : PolicyModule} {py : PyText}

theorem hitsIn_eq (hm : IsPolicyModule py m) (input : Json) :
    hitsIn (conditionHolds rt m input) = hitsOf rt m input := by
  unfold hitsIn hitsOf hitsBy
  rw [conditionHolds_eq hm input (by decide), conditionHolds_eq hm input (by decide),
    conditionHolds_eq hm input (by decide), conditionHolds_eq hm input (by decide)]

/-- The rules of both modules. -/
theorem rules_eq (hm : IsPolicyModule py m) :
    ∃ more blocked, m.rules = [allowRule, decisionRule more, reasonRule blocked, riskLevelRule] ∧
      ∀ rt input, more = [mediumRiskClause] ∨
        more = [] ∧ conditionHolds rt m input .mediumRisk = false := by
  rcases hm with ⟨policy, hcompile⟩ | hm
  · exact ⟨_, _, (compiled_parts hcompile).2, fun _ _ => Or.inl rfl⟩
  · subst hm
    refine ⟨_, _, rfl, fun rt input => Or.inr ⟨rfl, ?_⟩⟩
    rw [conditionHolds_eq (Or.inr rfl : IsPolicyModule py _) input (by decide)]
    simp [ruleTests, authclaw_mediumRisk]

/-- The values of the rules on an input. -/
theorem rules_eval (hm : IsPolicyModule py m) (rt : RegoText) (input : Json) :
    ∃ more blocked reason,
      m.rules = [allowRule, decisionRule more, reasonRule blocked, riskLevelRule] ∧
      allowRule.eval (testInput rt m input) (conditionHolds rt m input) =
        .ok (some (.bool (hitsOf rt m input).allow)) ∧
      (decisionRule more).eval (testInput rt m input) (conditionHolds rt m input) =
        .ok (some (.str (hitsOf rt m input).decision)) ∧
      (reasonRule blocked).eval (testInput rt m input) (conditionHolds rt m input) =
        .ok (some (.str reason)) ∧
      if (hitsOf rt m input).Clash then
        riskLevelRule.eval (testInput rt m input) (conditionHolds rt m input) =
          .error ⟨"risk_level"⟩
      else ∃ v, riskLevelRule.eval (testInput rt m input) (conditionHolds rt m input) = .ok v := by
  rcases rules_eq hm with ⟨more, blocked, hrules, hmore⟩
  rcases reasonRule_eval (testInput rt m input) (conditionHolds rt m input) blocked with
    ⟨reason, hreason⟩
  refine ⟨more, blocked, reason, hrules, ?_, ?_, hreason, ?_⟩
  · rw [allowRule_eval, hitsIn_eq hm]
  · rw [decisionRule_eval _ _ (hmore rt input), hitsIn_eq hm]
  · rw [← hitsIn_eq hm]
    exact riskLevelRule_eval _ _

/-- A clash is a conflict of the module. -/
theorem opaDocument_clash (hm : IsPolicyModule py m) {input : Json}
    (h : (hitsOf rt m input).Clash) : opaDocument rt m input = .error ⟨"risk_level"⟩ := by
  rcases rules_eval hm rt input with
    ⟨more, blocked, reason, hrules, hallow, hdecision, hreason, hrisk⟩
  rw [if_pos h] at hrisk
  unfold opaDocument
  rw [hrules]
  simp [List.mapM_cons, hallow, hdecision, hreason, hrisk, bind, Except.bind, pure, Except.pure]

/-- Without a clash the document has the flag and the decision of the conditions. -/
theorem opaDocument_verdict (hm : IsPolicyModule py m) {input : Json}
    (h : ¬ (hitsOf rt m input).Clash) :
    ∃ members, opaDocument rt m input = .ok members ∧
      getKey members "allow" = some (.bool (hitsOf rt m input).allow) ∧
      getKey members "decision" = some (.str (hitsOf rt m input).decision) := by
  rcases rules_eval hm rt input with
    ⟨more, blocked, reason, hrules, hallow, hdecision, hreason, hrisk⟩
  rw [if_neg h] at hrisk
  rcases hrisk with ⟨risk, hrisk⟩
  have hname : allowRule.name = "allow" := rfl
  have hname' : (decisionRule more).name = "decision" := rfl
  unfold opaDocument
  rw [hrules]
  simp [List.mapM_cons, hallow, hdecision, hreason, hrisk, hname, hname', bind, Except.bind, pure,
    Except.pure, getKey, scalarJson, List.lookup_cons]

/-- The server answers exactly where the conditions do not clash. -/
theorem opaServer_answers_iff (hm : IsPolicyModule py m) {input : Json} :
    (∃ members, opaServer rt m input = .response 200 (.json (.obj [("result", .obj members)]))) ↔
      ¬ (hitsOf rt m input).Clash := by
  constructor
  · rintro ⟨members, hanswer⟩ hclash
    unfold opaServer at hanswer
    rw [opaDocument_clash hm hclash] at hanswer
    cases hanswer
  · intro hclash
    rcases opaDocument_verdict hm hclash with ⟨members, hdocument, -⟩
    refine ⟨members, ?_⟩
    unfold opaServer
    rw [hdocument]

end

/-! ## Freedom from conflicts -/

section

variable (rt : RegoText) (py : PyText) (m : PolicyModule)

/-- The value of a complete rule of the module. -/
def ruleValue (input : Json) (name : String) : Except Conflict (Option Scalar) :=
  match m.rules.find? (fun rule => rule.name = name) with
  | some rule => rule.eval (testInput rt m input) (conditionHolds rt m input)
  | none => .ok none

/-- The module is free of conflicts on an input. -/
structure ConflictFree (input : Json) : Prop where
  /-- The bodies of a complete rule that hold have one value. -/
  one_value : ∀ rule ∈ m.rules,
    ∀ c ∈ rule.firing (testInput rt m input) (conditionHolds rt m input),
    ∀ d ∈ rule.firing (testInput rt m input) (conditionHolds rt m input), c.value = d.value
  allow_false : ruleValue rt m input "allow" = .ok (some (.bool false)) ↔
    ruleValue rt m input "decision" = .ok (some (.str "BLOCK")) ∨
      ruleValue rt m input "decision" = .ok (some (.str "REQUIRE_APPROVAL"))
  answered : ∃ members,
    opaServer rt m input = .response 200 (.json (.obj [("result", .obj members)]))
  /-- No call that sends the input moves the breaker. -/
  breaker_kept : ∀ c breaker, c.exchange = opaServer rt m →
    opaInput c.text c.tenantId c.context = input → (evaluateOpaPolicy py c breaker).2 = breaker

variable {rt py m}

/-- A call whose request makes the conditions clash opens the breaker: no later call asks
the server until it is closed, whoever makes it. -/
theorem clash_opens_breaker (hm : IsPolicyModule py m) {c : OpaCall} {breaker : Breaker}
    (hconsults : Consults py c breaker) (hserver : c.exchange = opaServer rt m)
    (hclash : (hitsOf rt m (opaInput c.text c.tenantId c.context)).Clash) :
    (evaluateOpaPolicy py c breaker).2 = ⟨c.later + c.breakSeconds⟩ ∧
      ∀ c' : OpaCall, c'.now < c.later + c.breakSeconds →
        ¬ Consults py c' (evaluateOpaPolicy py c breaker).2 := by
  have hraised : c.exchanged = .raised ⟨"HTTPError", true⟩ := by
    unfold OpaCall.exchanged
    rw [hserver]
    unfold opaServer
    rw [opaDocument_clash hm hclash]
  have hmoved : (evaluateOpaPolicy py c breaker).2 = ⟨c.later + c.breakSeconds⟩ := by
    rw [evaluate_breaker, if_pos]
    refine ⟨hconsults, ?_⟩
    rw [hraised]
    rfl
  refine ⟨hmoved, ?_⟩
  intro c' hearly hconsults'
  rw [hmoved] at hconsults'
  exact hconsults'.2 hearly

theorem breaker_of_answered {c : OpaCall} {breaker : Breaker} {members : List (String × Json)}
    (h : c.exchanged = .response 200 (.json (.obj [("result", .obj members)]))) :
    (evaluateOpaPolicy py c breaker).2 = breaker := by
  rw [evaluate_breaker, if_neg]
  rintro ⟨-, hhandled⟩
  rw [h] at hhandled
  cases hhandled

theorem ruleValue_allow (hm : IsPolicyModule py m) (input : Json) :
    ruleValue rt m input "allow" = .ok (some (.bool (hitsOf rt m input).allow)) := by
  rcases rules_eval hm rt input with ⟨more, blocked, reason, hrules, hallow, -⟩
  have hname : allowRule.name = "allow" := rfl
  unfold ruleValue
  simp [hrules, hname, hallow]

theorem ruleValue_decision (hm : IsPolicyModule py m) (input : Json) :
    ruleValue rt m input "decision" = .ok (some (.str (hitsOf rt m input).decision)) := by
  rcases rules_eval hm rt input with ⟨more, blocked, reason, hrules, -, hdecision, -⟩
  have hname : allowRule.name = "allow" := rfl
  have hname' : (decisionRule more).name = "decision" := rfl
  unfold ruleValue
  simp [hrules, hname, hname', hdecision]

/-- Where the conditions clash, no call is answered. -/
theorem not_conflictFree (hm : IsPolicyModule py m) {input : Json}
    (h : (hitsOf rt m input).Clash) : ¬ ConflictFree rt py m input :=
  fun hfree => (opaServer_answers_iff hm).mp hfree.answered h

theorem one_value_of_not_clash (hm : IsPolicyModule py m) {input : Json}
    (h : ¬ (hitsOf rt m input).Clash) (rule : CompleteRule RuleName ModuleTest Scalar)
    (hrule : rule ∈ m.rules) :
    ∃ v, rule.eval (testInput rt m input) (conditionHolds rt m input) = .ok v := by
  rcases rules_eval hm rt input with
    ⟨more, blocked, reason, hrules, hallow, hdecision, hreason, hrisk⟩
  rw [if_neg h] at hrisk
  rw [hrules] at hrule
  simp only [List.mem_cons, List.not_mem_nil, or_false] at hrule
  rcases hrule with rfl | rfl | rfl | rfl
  · exact ⟨_, hallow⟩
  · exact ⟨_, hdecision⟩
  · exact ⟨_, hreason⟩
  · exact hrisk

/-- A module is free of conflicts on an input exactly where the conditions do not clash:
a text that is stopped matches no redaction pattern. -/
theorem conflictFree_iff (rt : RegoText) (py : PyText) (m : PolicyModule)
    (hm : IsPolicyModule py m) (input : Json) :
    ConflictFree rt py m input ↔ ¬ (hitsOf rt m input).Clash := by
  constructor
  · exact fun hfree hclash => not_conflictFree hm hclash hfree
  · intro hclash
    have hanswered := (@opaServer_answers_iff rt m py hm input).mpr hclash
    refine ⟨?_, ?_, hanswered, ?_⟩
    · intro rule hrule
      exact CompleteRule.eval_ok_iff.mp (one_value_of_not_clash hm hclash rule hrule)
    · rw [ruleValue_allow hm, ruleValue_decision hm]
      simpa using (hitsOf rt m input).allow_false_iff
    · intro c breaker hserver hinput
      rcases hanswered with ⟨members, hmembers⟩
      have hexchanged : c.exchanged = .response 200 (.json (.obj [("result", .obj members)])) := by
        unfold OpaCall.exchanged
        rw [hserver, hinput, hmembers]
      exact breaker_of_answered hexchanged

end

/-- A server for texts in ASCII. -/
def plainRego : RegoText where
  unicode := plainUnicode
  print := fun v =>
    match v with
    | .str s => s
    | _ => ""
  print_str := fun _ => rfl

/-- An input with a text and an empty body. -/
def plainInput (text : String) : Json :=
  opaInput (some text) .null [("body", .str "")]

theorem conflictFree_jailbreak :
    ConflictFree plainRego asciiText authclawModule (plainInput "jailbreak") :=
  (conflictFree_iff plainRego asciiText authclawModule (Or.inr rfl) (plainInput "jailbreak")).mpr
    (by decide +kernel)

/-- An address beside a blocked keyword is a conflict, and opens the breaker. -/
theorem jailbreak_address_conflict :
    (hitsOf plainRego authclawModule (plainInput "jailbreak a@b.co")).Clash ∧
      ¬ ConflictFree plainRego asciiText authclawModule (plainInput "jailbreak a@b.co") := by
  have hclash : (hitsOf plainRego authclawModule (plainInput "jailbreak a@b.co")).Clash := by
    decide +kernel
  exact ⟨hclash, not_conflictFree (Or.inr rfl) hclash⟩

end AuthClaw.Opa
