import Mathlib.Data.List.Basic
import Mathlib.Tactic.Common

/-!
# Counting in fixed windows

A limiter keeps one count for each key, and grants a token while the count is within the
limit that the request brings.  The log of its tokens is what it is held to: no key is
granted more often than the largest limit it was asked with.

Main results:

- Theorem {lit}`bounded_append`: a token granted by a count above all earlier grants keeps
  the bound.
- Theorem {lit}`Covers.append`: counts that go up with each token stay above the grants.
-/

namespace FixedWindow

variable {κ : Type*}

/-- What the limiter answered: the key and the limit it was asked with. -/
structure Token (κ : Type*) where
  key : κ
  limit : Int
  granted : Bool

variable [DecidableEq κ]

/-- How often a key was granted. -/
def grants (k : κ) (log : List (Token κ)) : Nat :=
  log.countP (fun t => t.granted ∧ t.key = k)

/-- No key is granted more often than the largest limit it was asked with. -/
def Bounded (log : List (Token κ)) : Prop :=
  ∀ k limit, 0 ≤ limit → (∀ t ∈ log, t.key = k → t.limit ≤ limit) → (grants k log : Int) ≤ limit

/-- The counts of the keys that are still kept are above their grants. -/
def Covers (live : κ → Prop) (count : κ → Nat) (log : List (Token κ)) : Prop :=
  ∀ k, live k → grants k log ≤ count k

variable {log : List (Token κ)} {t : Token κ} {k : κ}

theorem grants_append :
    grants k (log ++ [t]) = grants k log + if t.granted ∧ t.key = k then 1 else 0 := by
  unfold grants
  rw [List.countP_append, List.countP_singleton]
  simp only [decide_eq_true_eq]

theorem bounded_nil : Bounded ([] : List (Token κ)) := by
  intro k limit hlimit _
  exact hlimit

/-- A token is granted by a count above the grants before it, and within its limit. -/
theorem bounded_append (h : Bounded log)
    (hgranted : t.granted = true → ∃ count : Nat, grants t.key log < count ∧ count ≤ t.limit) :
    Bounded (log ++ [t]) := by
  intro k limit hlimit hall
  have hlog : (grants k log : Int) ≤ limit :=
    h k limit hlimit (fun t' ht' => hall t' (List.mem_append_left _ ht'))
  rw [grants_append]
  by_cases hk : t.granted ∧ t.key = k
  · rcases hgranted hk.1 with ⟨count, hcount, hwithin⟩
    have hlast : t.limit ≤ limit := hall t (List.mem_append_right _ List.mem_cons_self) hk.2
    rw [hk.2] at hcount
    rw [if_pos hk]
    omega
  · rw [if_neg hk]
    omega

theorem covers_nil {live : κ → Prop} {count : κ → Nat} : Covers live count [] :=
  fun _ _ => Nat.zero_le _

/-- Counts that do not go down stay above the grants. -/
theorem Covers.mono {live live' : κ → Prop} {count count' : κ → Nat} (h : Covers live count log)
    (hlive : ∀ k, live' k → live k) (hcount : ∀ k, live' k → count k ≤ count' k) :
    Covers live' count' log :=
  fun k hk => Nat.le_trans (h k (hlive k hk)) (hcount k hk)

/-- Counts that go up with a token of their key stay above the grants. -/
theorem Covers.append {live : κ → Prop} {count count' : κ → Nat} (h : Covers live count log)
    (hcount : ∀ k, live k → count k ≤ count' k) (hkey : live t.key → count t.key < count' t.key) :
    Covers live count' (log ++ [t]) := by
  intro k hk
  have hlog : grants k log ≤ count k := h k hk
  rw [grants_append]
  by_cases hgranted : t.granted ∧ t.key = k
  · have hup : count t.key < count' t.key := hkey (hgranted.2 ▸ hk)
    rw [hgranted.2] at hup
    rw [if_pos hgranted]
    omega
  · have hup : count k ≤ count' k := hcount k hk
    rw [if_neg hgranted]
    omega

end FixedWindow
