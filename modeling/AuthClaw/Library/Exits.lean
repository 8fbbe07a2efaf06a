import Mathlib.Tactic.Common

/-!
# Computations that return or raise

What holds of the state when a computation over a state has returned, and what when it has
raised.  The state is not put back where it raises.

Main results:

- Theorem {lit}`Ends.bind`: a sequence, from its parts.
- Theorem {lit}`exitState_of_ends`: the state that is left, whether the computation returns or
  raises.
- Theorem {lit}`Ends.mono`: a weaker condition on either end.
-/

namespace Exits

variable {ε σ α β : Type}

/-- The state when a computation has returned or raised. -/
def exitState (x : EStateM ε σ α) (s : σ) : σ :=
  match x s with
  | .ok _ s' => s'
  | .error _ s' => s'

/-- A call that raises or returns. -/
def raises (e : Option ε) : EStateM ε σ Unit :=
  match e with
  | none => pure ()
  | some e => throw e

/-- The computation returns with the first condition, or raises with the second. -/
def Ends (x : EStateM ε σ α) (s : σ) (P : α → σ → Prop) (Q : σ → Prop) : Prop :=
  match x s with
  | .ok a s' => P a s'
  | .error _ s' => Q s'

variable {x : EStateM ε σ α} {f : α → EStateM ε σ β} {s : σ} {P P' : α → σ → Prop}
  {R : β → σ → Prop} {Q Q' : σ → Prop}

/-- A sequence ends as its second part does, or as its first where that raises. -/
theorem Ends.bind (hx : Ends x s P Q) (hf : ∀ a s', P a s' → Ends (f a) s' R Q) :
    Ends (x >>= f) s R Q := by
  unfold Ends at hx ⊢
  show (match EStateM.bind x f s with | .ok b s' => R b s' | .error _ s' => Q s')
  unfold EStateM.bind
  cases hexit : x s with
  | ok a s' =>
      rw [hexit] at hx
      exact hf a s' hx
  | error e s' =>
      rw [hexit] at hx
      exact hx

theorem Ends.mono (h : Ends x s P Q) (hP : ∀ a s', P a s' → P' a s') (hQ : ∀ s', Q s' → Q' s') :
    Ends x s P' Q' := by
  unfold Ends at h ⊢
  cases hexit : x s with
  | ok a s' =>
      rw [hexit] at h
      exact hP a s' h
  | error e s' =>
      rw [hexit] at h
      exact hQ s' h

theorem ends_pure {a : α} : Ends (pure a : EStateM ε σ α) s P Q ↔ P a s :=
  Iff.rfl

theorem ends_get_bind {f : σ → EStateM ε σ β} : Ends (get >>= f) s R Q ↔ Ends (f s) s R Q :=
  Iff.rfl

theorem ends_modify_bind {g : σ → σ} {f : PUnit → EStateM ε σ β} :
    Ends (modify g >>= f) s R Q ↔ Ends (f ⟨⟩) (g s) R Q :=
  Iff.rfl

/-- A call that raises leaves the state as it was. -/
theorem ends_raises_bind {e : Option ε} {f : Unit → EStateM ε σ β} (hQ : e ≠ none → Q s)
    (h : e = none → Ends (f ()) s R Q) : Ends (raises e >>= f) s R Q := by
  cases e with
  | none => exact h rfl
  | some e => exact hQ (Option.some_ne_none e)

theorem get_bind_apply (f : σ → EStateM ε σ β) : (get >>= f) s = f s s :=
  rfl

/-- A sequence leaves the state of its second part, or of its first where that raises. -/
theorem exitState_bind : exitState (x >>= f) s = match x s with
    | .ok a s' => exitState (f a) s'
    | .error _ s' => s' := by
  unfold exitState
  show (match EStateM.bind x f s with | .ok _ s' => s' | .error _ s' => s') = _
  unfold EStateM.bind
  cases x s with
  | ok a s' => rfl
  | error e s' => rfl

@[simp]
theorem exitState_pure (a : α) : exitState (pure a : EStateM ε σ α) s = s :=
  rfl

theorem exitState_raises (e : Option ε) (f : Unit → EStateM ε σ β) :
    exitState (raises e >>= f) s = if e = none then exitState (f ()) s else s := by
  rw [exitState_bind]
  cases e with
  | none => rfl
  | some e => rfl

theorem exitState_modify_bind (g : σ → σ) (f : PUnit → EStateM ε σ β) :
    exitState (modify g >>= f) s = exitState (f ⟨⟩) (g s) :=
  rfl

theorem exitState_get_bind (f : σ → EStateM ε σ β) :
    exitState (get >>= f) s = exitState (f s) s :=
  rfl

/-- What holds at either end holds of the state that is left. -/
theorem exitState_of_ends (h : Ends x s (fun _ s' => Q s') Q) : Q (exitState x s) := by
  unfold Ends at h
  unfold exitState
  cases hexit : x s with
  | ok a s' =>
      rw [hexit] at h
      exact h
  | error e s' =>
      rw [hexit] at h
      exact h

end Exits
