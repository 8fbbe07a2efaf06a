import Mathlib.Data.List.Basic
import Mathlib.Tactic.Common

/-!
# Rules of a policy module

A fragment of the rule language of policy modules.  A condition is derived when one of
its bodies holds; the bodies test the input and refer to conditions derived before, and a
test of something undefined does not hold.  A complete rule has several clauses: it takes
the value of those whose body holds, its default when there is none, and the evaluation
fails when two of them have different values.

Main results:

- Theorem {lit}`mem_deriveOne`: what one more condition derives.
- Theorem {lit}`CompleteRule.eval_ok_iff`: a complete rule has a value exactly when the
  clauses that fire agree.
-/

namespace Rego

variable {ρ τ ν : Type}

/-- What a body asks for: a test of the input, a condition, or the absence of one. -/
inductive Literal (ρ τ : Type) where
  | test (t : τ)
  | rule (r : ρ)
  | notRule (r : ρ)

/-- `name if body`. -/
structure Condition (ρ τ : Type) where
  name : ρ
  body : List (Literal ρ τ)

/-- `name := value if body`. -/
structure Clause (ρ τ ν : Type) where
  value : ν
  body : List (Literal ρ τ)

/-- The clauses of one complete rule, with its default if it has one. -/
structure CompleteRule (ρ τ ν : Type) where
  name : String
  default : Option ν
  clauses : List (Clause ρ τ ν)

/-- Two clauses of the complete rule have different values. -/
structure Conflict where
  rule : String
deriving DecidableEq

/-! ## Conditions -/

section

variable (test : τ → Bool)

/-- The literal holds, where the conditions hold that are `defined`. -/
def Literal.holds (defined : ρ → Bool) : Literal ρ τ → Bool
  | .test t => test t
  | .rule r => defined r
  | .notRule r => !defined r

/-- All of a body holds. -/
def bodyHolds (defined : ρ → Bool) (body : List (Literal ρ τ)) : Bool :=
  body.all (Literal.holds test defined)

variable [DecidableEq ρ]

/-- One more condition, after those derived before. -/
def deriveOne (c : Condition ρ τ) (derived : List ρ) : List ρ :=
  if bodyHolds test (fun r => decide (r ∈ derived)) c.body then c.name :: derived else derived

/-- The conditions that hold, in the order of the module. -/
def derive : List (Condition ρ τ) → List ρ → List ρ
  | [], derived => derived
  | c :: cs, derived => derive cs (deriveOne test c derived)

/-- The condition holds in the module. -/
def holds (conditions : List (Condition ρ τ)) (r : ρ) : Bool :=
  decide (r ∈ derive test conditions [])

variable {test}

/-- What one more condition derives. -/
theorem mem_deriveOne {c : Condition ρ τ} {derived : List ρ} {r : ρ} :
    r ∈ deriveOne test c derived ↔
      (r = c.name ∧ bodyHolds test (fun q => decide (q ∈ derived)) c.body = true) ∨
        r ∈ derived := by
  unfold deriveOne
  split_ifs with hbody
  · rw [List.mem_cons]
    simp [hbody]
  · simp [hbody]

end

/-! ## Complete rules -/

section

variable [DecidableEq ν] (test : τ → Bool) (defined : ρ → Bool)

/-- The clauses whose body holds. -/
def CompleteRule.firing (rule : CompleteRule ρ τ ν) : List (Clause ρ τ ν) :=
  rule.clauses.filter (fun c => bodyHolds test defined c.body)

/-- The value of a complete rule. -/
def CompleteRule.eval (rule : CompleteRule ρ τ ν) : Except Conflict (Option ν) :=
  match rule.firing test defined with
  | [] => .ok rule.default
  | c :: cs => if cs.all (fun d => d.value = c.value) then .ok (some c.value)
      else .error ⟨rule.name⟩

variable {test defined}

/-- A complete rule has a value exactly when the clauses that fire agree. -/
theorem CompleteRule.eval_ok_iff {rule : CompleteRule ρ τ ν} :
    (∃ v, rule.eval test defined = .ok v) ↔
      ∀ c ∈ rule.firing test defined, ∀ d ∈ rule.firing test defined, c.value = d.value := by
  unfold CompleteRule.eval
  cases rule.firing test defined with
  | nil => simp
  | cons c cs =>
      by_cases hall : cs.all (fun d => d.value = c.value) = true
      · simp only [hall, if_true]
        refine iff_of_true ⟨_, rfl⟩ ?_
        have hvalue : ∀ d ∈ c :: cs, d.value = c.value := by
          intro d hd
          rcases List.mem_cons.mp hd with rfl | hd
          · rfl
          · simpa using List.all_eq_true.mp hall d hd
        intro d hd e he
        rw [hvalue d hd, hvalue e he]
      · simp only [hall]
        refine iff_of_false (by simp) ?_
        intro hagree
        apply hall
        rw [List.all_eq_true]
        intro d hd
        simpa using hagree d (List.mem_cons_of_mem _ hd) c (by simp)

end

end Rego
