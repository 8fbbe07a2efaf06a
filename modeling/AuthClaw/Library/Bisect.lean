import Mathlib.Data.List.Pairwise
import Mathlib.Order.Lattice
import Mathlib.Tactic.Common

/-!
# Binary search in a sorted list

The search for the place behind the last element that is not greater than a value.

Main results:

- Theorem {lit}`bisectFrom_spec`: what one search leaves of its window.
- Theorem {lit}`bisectRight_eq_countP`: in a sorted list it counts the elements that are not
  greater.
-/

namespace Bisect

variable {α : Type} [LinearOrder α]

/-- The loop over the window from `lo` to `hi`; the number bounds the window. -/
def bisectFrom (elements : List α) (x : α) : Nat → Nat → Nat → Nat
  | 0, lo, _ => lo
  | n + 1, lo, hi =>
      if lo < hi then
        let mid := (lo + hi) / 2
        match elements[mid]? with
        | some y =>
            if x < y then bisectFrom elements x n lo mid else bisectFrom elements x n (mid + 1) hi
        | none => lo
      else lo

/-- `bisect_right(elements, x)` -/
def bisectRight (elements : List α) (x : α) : Nat :=
  bisectFrom elements x elements.length 0 elements.length

/-- Before the place the elements are not greater than the value, and from it on they are. -/
def Splits (elements : List α) (x : α) (lo hi : Nat) : Prop :=
  (∀ y ∈ elements.take lo, y ≤ x) ∧ ∀ y ∈ elements.drop hi, x < y

variable {elements : List α} {x : α}

/-- An element of a sorted list that is greater is followed by greater ones. -/
theorem lt_of_mem_drop (hsorted : elements.Pairwise (· ≤ ·)) {mid : Nat} {y : α}
    (hy : elements[mid]? = some y) (hlt : x < y) : ∀ z ∈ elements.drop mid, x < z := by
  rcases List.getElem?_eq_some_iff.mp hy with ⟨hmid, hget⟩
  have hpairs := hsorted.sublist (List.drop_sublist mid elements)
  rw [List.drop_eq_getElem_cons hmid, hget] at hpairs ⊢
  intro z hz
  rcases List.mem_cons.mp hz with rfl | hz
  · exact hlt
  · exact lt_of_lt_of_le hlt ((List.pairwise_cons.mp hpairs).1 z hz)

/-- An element of a sorted list that is not greater comes after such. -/
theorem le_of_mem_take (hsorted : elements.Pairwise (· ≤ ·)) {mid : Nat} {y : α}
    (hy : elements[mid]? = some y) (hle : y ≤ x) : ∀ z ∈ elements.take (mid + 1), z ≤ x := by
  rcases List.getElem?_eq_some_iff.mp hy with ⟨hmid, hget⟩
  have hpairs := hsorted.sublist (List.take_sublist (mid + 1) elements)
  rw [List.take_succ_eq_append_getElem hmid, hget] at hpairs ⊢
  intro z hz
  rcases List.mem_append.mp hz with hz | hz
  · exact le_trans ((List.pairwise_append.mp hpairs).2.2 z hz y (by simp)) hle
  · rw [List.mem_singleton.mp hz]
    exact hle

/-- The search keeps to its window and ends where the list splits. -/
theorem bisectFrom_spec (hsorted : elements.Pairwise (· ≤ ·)) {n lo hi : Nat}
    (hwindow : hi - lo ≤ n) (hle : lo ≤ hi) (hlength : hi ≤ elements.length)
    (hsplits : Splits elements x lo hi) :
    bisectFrom elements x n lo hi ≤ hi ∧
      Splits elements x (bisectFrom elements x n lo hi) (bisectFrom elements x n lo hi) := by
  induction n generalizing lo hi with
  | zero =>
      have hsame : lo = hi := by omega
      rw [← hsame] at hsplits ⊢
      exact ⟨Nat.le_refl _, hsplits⟩
  | succ n ih =>
      unfold bisectFrom
      by_cases hlt : lo < hi
      · rw [if_pos hlt]
        dsimp only
        have hmid : (lo + hi) / 2 < elements.length := by omega
        rw [List.getElem?_eq_getElem hmid]
        dsimp only
        have hy := List.getElem?_eq_getElem hmid
        by_cases hgreater : x < elements[(lo + hi) / 2]
        · rw [if_pos hgreater]
          rcases ih (by omega) (by omega) (by omega)
            ⟨hsplits.1, lt_of_mem_drop hsorted hy hgreater⟩ with ⟨hend, hplace⟩
          exact ⟨by omega, hplace⟩
        · rw [if_neg hgreater]
          exact ih (by omega) (by omega) hlength
            ⟨le_of_mem_take hsorted hy (le_of_not_gt hgreater), hsplits.2⟩
      · rw [if_neg hlt]
        have hsame : lo = hi := by omega
        rw [← hsame] at hsplits ⊢
        exact ⟨Nat.le_refl _, hsplits⟩

/-- In a sorted list the search counts the elements that are not greater. -/
theorem bisectRight_eq_countP (hsorted : elements.Pairwise (· ≤ ·)) (x : α) :
    bisectRight elements x = elements.countP (fun y => y ≤ x) := by
  have hwhole : Splits elements x 0 elements.length := by
    refine ⟨?_, ?_⟩
    · simp
    · simp
  have hspec : bisectRight elements x ≤ elements.length ∧
      Splits elements x (bisectRight elements x) (bisectRight elements x) :=
    bisectFrom_spec hsorted (Nat.sub_le _ _) (Nat.zero_le _) (Nat.le_refl _) hwhole
  rcases hspec with ⟨hend, hbefore, hbehind⟩
  have htake : (elements.take (bisectRight elements x)).countP (fun y => y ≤ x) =
      bisectRight elements x := by
    rw [List.countP_eq_length.mpr (fun y hy => decide_eq_true (hbefore y hy)), List.length_take]
    exact Nat.min_eq_left hend
  have hdrop : (elements.drop (bisectRight elements x)).countP (fun y => y ≤ x) = 0 := by
    rw [List.countP_eq_zero]
    intro y hy hle
    exact absurd (of_decide_eq_true hle) (not_le_of_gt (hbehind y hy))
  conv_rhs => rw [← List.take_append_drop (bisectRight elements x) elements]
  rw [List.countP_append, htake, hdrop, Nat.add_zero]

end Bisect
