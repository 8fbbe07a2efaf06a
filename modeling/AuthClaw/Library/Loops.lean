import Mathlib.Tactic.Common

/-!
# Loops that may not end

A loop is its body: a round leaves with a result or goes on with a state.  It is executed for a
number of rounds and ends when some number of rounds is enough.

Main results:

- Theorem {lit}`Returns.unique`: a loop ends with one result at most.
- Theorem {lit}`returns_of_measure`: a measure that every round lowers ends the loop.
- Theorem {lit}`Returns.post`: what every round keeps holds of the state that the loop leaves in.
- Theorem {lit}`not_returns_of_invariant`: a loop that stays where it goes on never ends.
-/

namespace Loops

variable {S R : Type*}

/-- The result of a loop that leaves within a number of rounds. -/
def loop (body : S → R ⊕ S) : Nat → S → Option R
  | 0, _ => none
  | rounds + 1, s =>
      match body s with
      | .inl r => some r
      | .inr s' => loop body rounds s'

/-- The loop ends with a result. -/
def Returns (body : S → R ⊕ S) (s : S) (r : R) : Prop :=
  ∃ rounds, loop body rounds s = some r

variable {body : S → R ⊕ S}

/-- A round that leaves ends the loop. -/
theorem returns_of_leave {s : S} {r : R} (h : body s = .inl r) : Returns body s r := by
  refine ⟨1, ?_⟩
  rw [loop, h]

/-- A loop ends as it does after a round that goes on. -/
theorem returns_of_next {s s' : S} {r : R} (h : body s = .inr s') (hrest : Returns body s' r) :
    Returns body s r := by
  rcases hrest with ⟨rounds, hrest⟩
  refine ⟨rounds + 1, ?_⟩
  rw [loop, h]
  exact hrest

/-- Induction on the rounds of a loop that ends. -/
theorem Returns.induct {r : R} {motive : S → Prop}
    (leave : ∀ s, body s = .inl r → motive s)
    (next : ∀ s s', body s = .inr s' → Returns body s' r → motive s' → motive s)
    {s : S} (h : Returns body s r) : motive s := by
  rcases h with ⟨rounds, h⟩
  induction rounds generalizing s with
  | zero => cases h
  | succ rounds ih =>
      cases hbody : body s with
      | inl r' =>
          rw [loop, hbody] at h
          cases h
          exact leave s hbody
      | inr s' =>
          rw [loop, hbody] at h
          exact next s s' hbody ⟨rounds, h⟩ (ih h)

/-- A loop ends with one result at most. -/
theorem Returns.unique {s : S} {r r' : R} (h : Returns body s r) (h' : Returns body s r') :
    r = r' := by
  revert h'
  refine h.induct (motive := fun s => Returns body s r' → r = r') ?_ ?_
  · rintro s hbody ⟨rounds, hrounds⟩
    cases rounds with
    | zero => cases hrounds
    | succ rounds =>
        rw [loop, hbody] at hrounds
        exact Option.some.inj hrounds
  · rintro s s' hbody - ih ⟨rounds, hrounds⟩
    cases rounds with
    | zero => cases hrounds
    | succ rounds =>
        rw [loop, hbody] at hrounds
        exact ih ⟨rounds, hrounds⟩

/-- What every round keeps holds of the state that the loop leaves in. -/
theorem Returns.post {Inv : S → Prop} {Post : R → Prop}
    (hnext : ∀ s s', Inv s → body s = .inr s' → Inv s')
    (hleave : ∀ s r, Inv s → body s = .inl r → Post r)
    {s : S} {r : R} (hs : Inv s) (h : Returns body s r) : Post r := by
  revert hs
  refine h.induct (motive := fun s => Inv s → Post r) ?_ ?_
  · intro s hbody hs
    exact hleave s r hs hbody
  · intro s s' hbody _ ih hs
    exact ih (hnext s s' hs hbody)

/-- A measure that every round lowers ends the loop. -/
theorem returns_of_measure (Inv : S → Prop) (measure : S → Nat)
    (hnext : ∀ s s', Inv s → body s = .inr s' → Inv s' ∧ measure s' < measure s)
    {s : S} (hs : Inv s) : ∃ r, Returns body s r := by
  induction hm : measure s using Nat.strongRecOn generalizing s with
  | ind m ih =>
      subst hm
      cases hbody : body s with
      | inl r => exact ⟨r, returns_of_leave hbody⟩
      | inr s' =>
          rcases hnext s s' hs hbody with ⟨hs', hlt⟩
          rcases ih (measure s') hlt hs' rfl with ⟨r, hr⟩
          exact ⟨r, returns_of_next hbody hr⟩

/-- A loop that stays where it goes on never ends. -/
theorem not_returns_of_invariant (Inv : S → Prop)
    (hnext : ∀ s, Inv s → ∃ s', body s = .inr s' ∧ Inv s')
    {s : S} (hs : Inv s) (r : R) : ¬Returns body s r := by
  intro h
  revert hs
  refine h.induct (motive := fun s => Inv s → False) ?_ ?_
  · intro s hbody hs
    rcases hnext s hs with ⟨s', hs', -⟩
    rw [hbody] at hs'
    cases hs'
  · intro s s' hbody _ ih hs
    rcases hnext s hs with ⟨s'', hs'', hinv⟩
    rw [hbody] at hs''
    cases hs''
    exact ih hinv

end Loops
