import Mathlib.Data.List.Chain
import Mathlib.Tactic.Common

/-!
# Histories

What happened, in order, where each entry is justified by those before it.

Main results:

- Theorem {lit}`justified_append_iff`: what a history may go on with.
- Theorem {lit}`Justified.exists_chain`: an entry goes back to a first one over the entries that
  justify it.
-/

namespace Histories

variable {α : Type*} {ok : List α → α → Prop} {history more : List α} {a : α}

/-- Each entry is justified by what stands before it. -/
def Justified (ok : List α → α → Prop) (history : List α) : Prop :=
  ∀ before a after, history = before ++ a :: after → ok before a

theorem justified_nil : Justified ok [] := by
  intro before a after h
  exact absurd h.symm (List.append_ne_nil_of_right_ne_nil _ (List.cons_ne_nil _ _))

/-- What stands before an entry is justified, too. -/
theorem Justified.of_append (h : Justified ok (history ++ more)) : Justified ok history := by
  intro before a after heq
  exact h before a (after ++ more) (by rw [heq, List.append_assoc, List.cons_append])

theorem Justified.of_mem (h : Justified ok history) (ha : a ∈ history) :
    ∃ before after, history = before ++ a :: after ∧ ok before a := by
  rcases List.append_of_mem ha with ⟨before, after, heq⟩
  exact ⟨before, after, heq, h before a after heq⟩

/-- A history goes on with what it justifies. -/
theorem justified_append_iff :
    Justified ok (history ++ [a]) ↔ Justified ok history ∧ ok history a := by
  constructor
  · intro h
    exact ⟨h.of_append, h history a [] rfl⟩
  · rintro ⟨hhistory, ha⟩ before b after heq
    rcases List.eq_nil_or_concat after with rfl | ⟨rest, c, rfl⟩
    · rcases List.append_inj' heq rfl with ⟨rfl, hab⟩
      cases hab
      exact ha
    · rw [List.concat_eq_append, ← List.cons_append, ← List.append_assoc] at heq
      exact hhistory before b rest (List.append_inj' heq rfl).1

/-- A history goes on with two entries. -/
theorem justified_append_two {b : α} :
    Justified ok (history ++ [a, b]) ↔
      Justified ok history ∧ ok history a ∧ ok (history ++ [a]) b := by
  rw [← and_assoc, ← justified_append_iff, ← justified_append_iff, List.append_assoc]
  rfl

/-- Entries that all hold after what was recorded before them. -/
theorem justified_append (h : Justified ok history)
    (hmore : ∀ before, history <+: before → ∀ a ∈ more, ok before a) :
    Justified ok (history ++ more) := by
  induction more using List.reverseRecOn with
  | nil =>
      rw [List.append_nil]
      exact h
  | append_singleton rest a ih =>
      rw [← List.append_assoc, justified_append_iff]
      refine ⟨ih ?_, ?_⟩
      · intro before hbefore b hb
        exact hmore before hbefore b (List.mem_append_left _ hb)
      · exact hmore _ (List.prefix_append _ _) a (List.mem_append_right _ List.mem_cons_self)

/-- Where an entry is a first one or goes back to an earlier one, it goes back to a first one over
entries that stand in the history in order. -/
theorem Justified.exists_chain {p first : α → Prop} {link : α → α → Prop}
    (h : Justified ok history)
    (hback : ∀ before a, ok before a → p a → first a ∨ ∃ b ∈ before, p b ∧ link b a)
    (ha : a ∈ history) (hp : p a) :
    ∃ chain, (chain ++ [a]).Sublist history ∧ (chain ++ [a]).IsChain link ∧
      (∀ b ∈ chain ++ [a], p b) ∧ ∀ b ∈ (chain ++ [a]).head?, first b := by
  obtain ⟨n, hn⟩ : ∃ n, history.length ≤ n := ⟨_, le_refl _⟩
  induction n generalizing history a with
  | zero =>
      rw [List.eq_nil_of_length_eq_zero (Nat.le_zero.mp hn)] at ha
      cases ha
  | succ n ih =>
      rcases h.of_mem ha with ⟨before, after, rfl, hok⟩
      have hlast : [a].Sublist (a :: after) := by simp
      rcases hback before a hok hp with hfirst | ⟨b, hb, hpb, hlink⟩
      · refine ⟨[], hlast.trans (List.sublist_append_right _ _), .singleton a, ?_, ?_⟩
        · exact List.forall_mem_singleton.mpr hp
        · intro c hc
          cases hc
          exact hfirst
      · have hlength : before.length ≤ n := by
          rw [List.length_append, List.length_cons] at hn
          omega
        rcases ih h.of_append hb hpb hlength with
          ⟨chain, hsub, hchain, hall, hroot⟩
        refine ⟨chain ++ [b], hsub.append hlast, ?_, ?_, ?_⟩
        · rw [List.append_assoc]
          exact List.isChain_append_cons_cons.mpr ⟨hchain, hlink, .singleton a⟩
        · exact List.forall_mem_append.mpr ⟨hall, List.forall_mem_singleton.mpr hp⟩
        · intro c hc
          refine hroot c ?_
          rw [List.head?_append] at hc
          rw [List.head?_append]
          cases chain with
          | nil => exact hc
          | cons d chain => exact hc

end Histories
