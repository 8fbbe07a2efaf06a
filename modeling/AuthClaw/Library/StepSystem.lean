import Mathlib.Tactic.Common

/-!
# Step systems

Runs of a partial step function over a list of actions: which actions are
interleaved, and in which order, is the list.  A condition on steps restricts the
runs an invariant is claimed for.

Main results:

- Theorem {lit}`run_append`: a run is a run followed by a run from its last
  state.
- Theorem {lit}`invariant_of_run`: what every allowed step keeps holds in the last
  state of every run of allowed steps.
- Theorem {lit}`relation_of_run`: a preorder every allowed step moves along relates
  both ends of every run of allowed steps.
- Theorem {lit}`always_iff`: what exactly the allowed steps keep holds throughout a run
  exactly when all its steps are allowed.
-/

namespace StepSystem

variable {S A : Type*}

/-- The state after the actions, when each of them is enabled. -/
def run (step : S → A → Option S) : S → List A → Option S
  | s, [] => some s
  | s, a :: as =>
      match step s a with
      | some s' => run step s' as
      | none => none

/-- Every step of the run is taken in a state that allows it. -/
def Respects (step : S → A → Option S) (allowed : S → A → Prop) : S → List A → Prop
  | _, [] => True
  | s, a :: as => allowed s a ∧ ∀ s', step s a = some s' → Respects step allowed s' as

variable {step : S → A → Option S} {allowed : S → A → Prop}

@[simp]
theorem run_nil (s : S) : run step s [] = some s :=
  rfl

/-- A nonempty run is a step and a run from the state it leads to. -/
theorem run_cons_eq_some {s t : S} {a : A} {as : List A} :
    run step s (a :: as) = some t ↔ ∃ s', step s a = some s' ∧ run step s' as = some t := by
  cases h : step s a with
  | none => simp [run, h]
  | some s' => simp [run, h]

/-- Where every action is enabled, every run ends. -/
theorem run_total (h : ∀ s a, ∃ s', step s a = some s') (s : S) (as : List A) :
    ∃ t, run step s as = some t := by
  induction as generalizing s with
  | nil => exact ⟨s, rfl⟩
  | cons a as ih =>
      rcases h s a with ⟨s', hs'⟩
      rcases ih s' with ⟨t, ht⟩
      exact ⟨t, run_cons_eq_some.mpr ⟨s', hs', ht⟩⟩

/-- A run of two lists of actions passes through the state between them. -/
theorem run_append {s t : S} {as bs : List A} :
    run step s (as ++ bs) = some t ↔ ∃ m, run step s as = some m ∧ run step m bs = some t := by
  induction as generalizing s with
  | nil => simp
  | cons a as ih =>
      rw [List.cons_append, run_cons_eq_some]
      constructor
      · rintro ⟨s', hstep, hrun⟩
        rcases ih.mp hrun with ⟨m, hfirst, hsecond⟩
        exact ⟨m, run_cons_eq_some.mpr ⟨s', hstep, hfirst⟩, hsecond⟩
      · rintro ⟨m, hfirst, hsecond⟩
        rcases run_cons_eq_some.mp hfirst with ⟨s', hstep, hrest⟩
        exact ⟨s', hstep, ih.mpr ⟨m, hrest, hsecond⟩⟩

/-- Whether a run respects a decidable condition is decided by executing it. -/
instance decidableRespects [∀ s a, Decidable (allowed s a)] :
    ∀ s as, Decidable (Respects step allowed s as)
  | _, [] => isTrue trivial
  | s, a :: as =>
      match h : step s a with
      | some s' =>
          have := decidableRespects s' as
          decidable_of_iff (allowed s a ∧ Respects step allowed s' as) (by simp [Respects, h])
      | none => decidable_of_iff (allowed s a) (by simp [Respects, h])

/-- Every run respects a condition that always holds. -/
theorem respects_of_forall (h : ∀ s a, allowed s a) (s : S) (as : List A) :
    Respects step allowed s as := by
  induction as generalizing s with
  | nil => trivial
  | cons a as ih => exact ⟨h s a, fun s' _ => ih s'⟩

/-- The condition on a run restricts to each part of it. -/
theorem respects_append {s : S} {as bs : List A} (h : Respects step allowed s (as ++ bs)) :
    Respects step allowed s as ∧
      ∀ m, run step s as = some m → Respects step allowed m bs := by
  induction as generalizing s with
  | nil =>
      refine ⟨trivial, ?_⟩
      intro m hm
      cases hm
      exact h
  | cons a as ih =>
      rcases h with ⟨ha, hrest⟩
      constructor
      · exact ⟨ha, fun s' hs' => (ih (hrest s' hs')).1⟩
      · intro m hm
        rcases run_cons_eq_some.mp hm with ⟨s', hs', hrun⟩
        exact (ih (hrest s' hs')).2 m hrun

/-- Two conditions on a run are one. -/
theorem respects_and {allowed' : S → A → Prop} {s : S} {as : List A}
    (h : Respects step allowed s as) (h' : Respects step allowed' s as) :
    Respects step (fun s a => allowed s a ∧ allowed' s a) s as := by
  induction as generalizing s with
  | nil => trivial
  | cons a as ih => exact ⟨⟨h.1, h'.1⟩, fun s' hs' => ih (h.2 s' hs') (h'.2 s' hs')⟩

/-- What every allowed step keeps holds in the last state of every run of allowed
steps. -/
theorem invariant_of_run {Inv : S → Prop}
    (hstep : ∀ s a s', Inv s → allowed s a → step s a = some s' → Inv s')
    {s t : S} {as : List A} (hinit : Inv s) (hallowed : Respects step allowed s as)
    (hrun : run step s as = some t) : Inv t := by
  induction as generalizing s with
  | nil =>
      cases hrun
      exact hinit
  | cons a as ih =>
      rcases hallowed with ⟨ha, hrest⟩
      rcases run_cons_eq_some.mp hrun with ⟨s', hs', hrun'⟩
      exact ih (hstep s a s' hinit ha hs') (hrest s' hs') hrun'

/-- What every allowed step relates by a preorder is related by every run of allowed
steps. -/
theorem relation_of_run {Inv : S → Prop} {R : S → S → Prop} (hrefl : ∀ s, R s s)
    (htrans : ∀ r s t, R r s → R s t → R r t)
    (hinv : ∀ s a s', Inv s → allowed s a → step s a = some s' → Inv s')
    (hrel : ∀ s a s', Inv s → allowed s a → step s a = some s' → R s s')
    {s t : S} {as : List A} (hinit : Inv s) (hallowed : Respects step allowed s as)
    (hrun : run step s as = some t) : R s t := by
  induction as generalizing s with
  | nil =>
      cases hrun
      exact hrefl _
  | cons a as ih =>
      rcases hallowed with ⟨ha, hrest⟩
      rcases run_cons_eq_some.mp hrun with ⟨s', hs', hrun'⟩
      exact htrans s s' t (hrel s a s' hinit ha hs')
        (ih (hinv s a s' hinit ha hs') (hrest s' hs') hrun')

/-- A property holds before and after every step of a run. -/
def Always (step : S → A → Option S) (P : S → Prop) (s : S) (as : List A) : Prop :=
  ∀ before after t, as = before ++ after → run step s before = some t → P t

/-- A property that every allowed step keeps holds throughout a run of allowed steps. -/
theorem always_of_respects {Inv P : S → Prop} (hP : ∀ s, Inv s → P s)
    (hstep : ∀ s a s', Inv s → allowed s a → step s a = some s' → Inv s')
    {s : S} {as : List A} (hinit : Inv s) (hallowed : Respects step allowed s as) :
    Always step P s as := by
  intro before after t heq hrun
  subst heq
  exact hP t (invariant_of_run hstep hinit (respects_append hallowed).1 hrun)

/-- A property that exactly the allowed steps keep, beside an invariant of the steps that keep
it, holds throughout a run exactly when all its steps are allowed. -/
theorem always_iff {Inv P : S → Prop}
    (hstep : ∀ s a s', Inv s → P s → step s a = some s' →
      (P s' → Inv s') ∧ (P s' ↔ allowed s a))
    {s : S} {as : List A} (hinv : Inv s) (hinit : P s) (hruns : ∃ t, run step s as = some t) :
    Always step P s as ↔ Respects step allowed s as := by
  induction as generalizing s with
  | nil =>
      refine iff_of_true ?_ trivial
      intro before after t heq hrun
      rw [(List.append_eq_nil_iff.mp heq.symm).1] at hrun
      cases hrun
      exact hinit
  | cons a as ih =>
      rcases hruns with ⟨last, hrun⟩
      rcases run_cons_eq_some.mp hrun with ⟨s', hs', hrest⟩
      rcases hstep s a s' hinv hinit hs' with ⟨hinv', hiff⟩
      constructor
      · intro halways
        have hP : P s' := halways [a] as s' rfl (run_cons_eq_some.mpr ⟨s', hs', rfl⟩)
        refine ⟨hiff.mp hP, ?_⟩
        intro t ht
        rw [hs'] at ht
        cases ht
        refine (ih (hinv' hP) hP ⟨last, hrest⟩).mp ?_
        intro before after t heq hbefore
        exact halways (a :: before) after t (by rw [heq]; rfl)
          (run_cons_eq_some.mpr ⟨s', hs', hbefore⟩)
      · rintro ⟨ha, hrespects⟩ before after t heq hbefore
        cases before with
        | nil =>
            cases hbefore
            exact hinit
        | cons first before =>
            rw [List.cons_append] at heq
            injection heq with hfirst htail
            subst hfirst
            rcases run_cons_eq_some.mp hbefore with ⟨t', ht', hbefore'⟩
            rw [hs'] at ht'
            cases ht'
            have hP : P s' := hiff.mpr ha
            exact (ih (hinv' hP) hP ⟨last, hrest⟩).mpr (hrespects s' hs') before after t
              htail hbefore'

end StepSystem
