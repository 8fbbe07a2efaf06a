import Mathlib.Logic.Function.Basic
import Mathlib.Tactic.Common

/-!
# Check, then act

Parties read a shared value, and act some steps later on what they read.  Where a party reads
only while no other is between its reading and its act, what a party acts on still holds.

Main results:

- Theorem {lit}`Exclusive.alone`: nobody else is between its reading and its act.
- Theorem {lit}`Exclusive.enter`, {lit}`Exclusive.leave` and {lit}`exclusive_of_none`: which
  steps keep it so.
-/

namespace CheckThenAct

variable {ι σ : Type*}

/-- At most one party is between its reading and its act, and what it read holds. -/
structure Exclusive (held : ι → Option σ) (valid : ι → σ → Prop) : Prop where
  unique : ∀ i j s s', held i = some s → held j = some s' → i = j
  current : ∀ i s, held i = some s → valid i s

variable {held : ι → Option σ} {valid : ι → σ → Prop} {i : ι} {s : σ}

/-- Nobody has read. -/
theorem exclusive_of_none (h : ∀ i, held i = none) : Exclusive held valid where
  unique := by
    intro i j s s' hi
    rw [h i] at hi
    cases hi
  current := by
    intro i s hi
    rw [h i] at hi
    cases hi

/-- The others have not read. -/
theorem Exclusive.alone (h : Exclusive held valid) (hi : held i = some s) {j : ι} (hj : j ≠ i) :
    held j = none := by
  cases hread : held j with
  | none => rfl
  | some s' => exact absurd (h.unique j i s' s hread hi) hj

variable [DecidableEq ι]

/-- What the parties have read after a step of one of them. -/
theorem read_update {P : Type*} (read : P → Option σ) (phase : ι → P) (i : ι) (p : P) :
    (fun j => read (Function.update phase i p j)) =
      Function.update (fun j => read (phase j)) i (read p) := by
  funext j
  exact Function.apply_update (fun _ => read) phase i p j

/-- A party reads what holds while no other is between its reading and its act. -/
theorem Exclusive.enter (hothers : ∀ j, j ≠ i → held j = none) (hvalid : valid i s) :
    Exclusive (Function.update held i (some s)) valid := by
  have honly : ∀ j s', Function.update held i (some s) j = some s' → j = i := by
    intro j s' hj
    by_contra hne
    rw [Function.update_of_ne hne, hothers j hne] at hj
    cases hj
  constructor
  · intro j k s' s'' hj hk
    rw [honly j s' hj, honly k s'' hk]
  · intro j s' hj
    have hji : j = i := honly j s' hj
    subst hji
    rw [Function.update_self] at hj
    cases hj
    exact hvalid

/-- A party that has acted, or gives up. -/
theorem Exclusive.leave (h : Exclusive held valid) :
    Exclusive (Function.update held i none) valid := by
  have hheld : ∀ j s', Function.update held i none j = some s' → held j = some s' := by
    intro j s' hj
    by_cases hji : j = i
    · rw [hji, Function.update_self] at hj
      cases hj
    · rwa [Function.update_of_ne hji] at hj
  constructor
  · intro j k s' s'' hj hk
    exact h.unique j k s' s'' (hheld j s' hj) (hheld k s'' hk)
  · intro j s' hj
    exact h.current j s' (hheld j s' hj)

/-- Once the only party that had read has left, nobody has read. -/
theorem Exclusive.none_of_leave (h : Exclusive held valid) (hi : held i = some s) (j : ι) :
    Function.update held i none j = none := by
  by_cases hji : j = i
  · rw [hji, Function.update_self]
  · rw [Function.update_of_ne hji, h.alone hi hji]

end CheckThenAct
