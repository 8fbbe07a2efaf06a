import AuthClaw.Library.StepSystem

/-!
# A bounded queue and its worker

Items are offered to a queue that refuses them when it is full, and one worker takes them in order
and handles each.  What handling an item gives depends on the item and on the environment.  The
items that were accepted and what was made of them are recorded.

Main results:

- Theorem {lit}`Orderly.run`: in every run the accepted items are those that were handled, the one
  in hand and those in the queue, in this order.
- Theorem {lit}`Orderly.worker_ready_iff`: the worker can go on exactly while an accepted item is
  open.
- Theorem {lit}`Orderly.drained`: a worker that goes on handles whatever is open.
-/

namespace WorkQueue

open StepSystem

variable {α β ε : Type*}

/-- The queue, the item in the worker's hand, and what has happened. -/
structure Line (α β : Type*) where
  queue : List α
  current : Option α
  accepted : List α
  handled : List (α × β)
  refused : List α

/-- Nothing was offered yet. -/
def Line.empty : Line α β :=
  ⟨[], none, [], [], []⟩

/-- What may happen next; the environment decides how an item is handled. -/
inductive Action (α ε : Type*) where
  | offer (a : α)
  | take
  | finish (e : ε)

variable (capacity : Nat) (handle : α → ε → β)

/-- An item is offered. -/
def Line.offer (s : Line α β) (a : α) : Line α β :=
  if s.queue.length < capacity then
    { s with queue := s.queue ++ [a], accepted := s.accepted ++ [a] }
  else { s with refused := s.refused ++ [a] }

/-- One step; the worker takes an item when its hand is free, and then handles it. -/
def step (s : Line α β) : Action α ε → Option (Line α β)
  | .offer a => some (s.offer capacity a)
  | .take =>
      match s.current, s.queue with
      | none, a :: rest => some { s with queue := rest, current := some a }
      | _, _ => none
  | .finish e =>
      match s.current with
      | some a => some { s with current := none, handled := s.handled ++ [(a, handle a e)] }
      | none => none

/-- The accepted items in the order they are handled in, and what was made of them. -/
structure Orderly (s : Line α β) : Prop where
  accepted : s.accepted = s.handled.map Prod.fst ++ s.current.toList ++ s.queue
  handled : ∀ h ∈ s.handled, ∃ e, h.2 = handle h.1 e
  bounded : s.queue.length ≤ capacity

variable {capacity : Nat} {handle : α → ε → β} {s t : Line α β}

theorem orderly_empty : Orderly capacity handle (Line.empty : Line α β) where
  accepted := rfl
  handled := fun _ h => by cases h
  bounded := Nat.zero_le _

/-- A free hand takes the first item of the queue. -/
theorem take_inv (h : step capacity handle s .take = some t) :
    ∃ a rest, s.current = none ∧ s.queue = a :: rest ∧
      t = { s with queue := rest, current := some a } := by
  unfold step at h
  cases hcurrent : s.current with
  | some a => simp [hcurrent] at h
  | none =>
      cases hqueue : s.queue with
      | nil => simp [hcurrent, hqueue] at h
      | cons a rest =>
          simp only [hcurrent, hqueue, Option.some.injEq] at h
          exact ⟨a, rest, rfl, rfl, h.symm⟩

/-- The item in the hand is handled. -/
theorem finish_inv {e : ε} (h : step capacity handle s (.finish e) = some t) :
    ∃ a, s.current = some a ∧
      t = { s with current := none, handled := s.handled ++ [(a, handle a e)] } := by
  unfold step at h
  cases hcurrent : s.current with
  | none => simp [hcurrent] at h
  | some a =>
      simp only [hcurrent, Option.some.injEq] at h
      exact ⟨a, rfl, h.symm⟩

/-- An offer keeps the order. -/
theorem Orderly.offer (h : Orderly capacity handle s) (a : α) :
    Orderly capacity handle (s.offer capacity a) := by
  unfold Line.offer
  by_cases hroom : s.queue.length < capacity
  · rw [if_pos hroom]
    refine ⟨?_, h.handled, ?_⟩
    · change s.accepted ++ [a] = _
      rw [h.accepted, List.append_assoc]
    · change (s.queue ++ [a]).length ≤ capacity
      rw [List.length_append, List.length_singleton]
      omega
  · rw [if_neg hroom]
    exact ⟨h.accepted, h.handled, h.bounded⟩

/-- Every step keeps the order. -/
theorem Orderly.step (h : Orderly capacity handle s) {a : Action α ε}
    (hstep : step capacity handle s a = some t) : Orderly capacity handle t := by
  cases a with
  | offer a =>
      cases hstep
      exact h.offer a
  | take =>
      rcases take_inv hstep with ⟨a, rest, hcurrent, hqueue, rfl⟩
      have hbounded := h.bounded
      rw [hqueue, List.length_cons] at hbounded
      refine ⟨?_, h.handled, Nat.le_of_succ_le hbounded⟩
      rw [h.accepted, hcurrent, hqueue]
      simp
  | finish e =>
      rcases finish_inv hstep with ⟨a, hcurrent, rfl⟩
      refine ⟨?_, ?_, h.bounded⟩
      · rw [h.accepted, hcurrent]
        simp
      · intro x hx
        rcases List.mem_append.mp hx with hx | hx
        · exact h.handled x hx
        · rw [List.mem_singleton.mp hx]
          exact ⟨e, rfl⟩

/-- Every run keeps the order. -/
theorem Orderly.run (h : Orderly capacity handle s) {as : List (Action α ε)}
    (hrun : run (WorkQueue.step capacity handle) s as = some t) : Orderly capacity handle t :=
  invariant_of_run (fun _ _ _ hs _ hstep => hs.step hstep) h
    (respects_of_forall (fun _ _ => trivial) s as) hrun

/-- What was handled is a first part of what was accepted. -/
theorem Orderly.handled_begins (h : Orderly capacity handle s) :
    s.handled.map Prod.fst <+: s.accepted := by
  rw [h.accepted, List.append_assoc]
  exact List.prefix_append _ _

/-- The worker can go on exactly while an accepted item is open. -/
theorem Orderly.worker_ready_iff (h : Orderly capacity handle s) (e : ε) :
    ((WorkQueue.step capacity handle s .take).isSome = true ∨
        (WorkQueue.step capacity handle s (.finish e)).isSome = true) ↔
      s.handled.map Prod.fst ≠ s.accepted := by
  have hopen : s.handled.map Prod.fst = s.accepted ↔ s.current = none ∧ s.queue = [] := by
    rw [h.accepted, List.append_assoc, List.self_eq_append_right, List.append_eq_nil_iff,
      Option.toList_eq_nil_iff]
  rw [ne_eq, hopen]
  unfold WorkQueue.step
  cases s.current with
  | some a => simp
  | none =>
      cases s.queue with
      | nil => simp
      | cons a rest => simp

/-- The action of the worker alone. -/
def Action.isWork : Action α ε → Bool
  | .offer _ => false
  | _ => true

/-- How many steps the worker has to take. -/
def Line.work (s : Line α β) : Nat :=
  2 * s.queue.length + s.current.toList.length

/-- Each step of the worker is one of those it has to take. -/
theorem work_of_step {a : Action α ε} (hwork : a.isWork = true)
    (hstep : WorkQueue.step capacity handle s a = some t) :
    t.work + 1 = s.work ∧ t.accepted = s.accepted := by
  unfold Line.work
  cases a with
  | offer a => cases hwork
  | take =>
      rcases take_inv hstep with ⟨a, rest, hcurrent, hqueue, rfl⟩
      refine ⟨?_, rfl⟩
      rw [hcurrent, hqueue, List.length_cons, Option.toList_some, Option.toList_none]
      simp only [List.length_nil, List.length_singleton]
      omega
  | finish e =>
      rcases finish_inv hstep with ⟨a, hcurrent, rfl⟩
      rw [hcurrent]
      exact ⟨rfl, rfl⟩

/-- A worker that goes on has handled everything after the steps it had to take, whatever the
environment decides. -/
theorem Orderly.drained (h : Orderly capacity handle s) {as : List (Action α ε)}
    (hwork : as.all Action.isWork = true)
    (hrun : StepSystem.run (WorkQueue.step capacity handle) s as = some t) :
    as.length ≤ s.work ∧ (as.length = s.work → t.handled.map Prod.fst = s.accepted) := by
  have hcount : t.work + as.length = s.work ∧ t.accepted = s.accepted := by
    clear h
    induction as generalizing s with
    | nil =>
        cases hrun
        exact ⟨rfl, rfl⟩
    | cons a as ih =>
        rw [List.all_cons, Bool.and_eq_true_iff] at hwork
        rcases run_cons_eq_some.mp hrun with ⟨s', hstep, hrest⟩
        rcases work_of_step hwork.1 hstep with ⟨hone, haccepted⟩
        rcases ih hwork.2 hrest with ⟨hmore, haccepted'⟩
        rw [List.length_cons]
        exact ⟨by omega, haccepted'.trans haccepted⟩
  refine ⟨by omega, ?_⟩
  intro hall
  have hempty : t.work = 0 := by omega
  unfold Line.work at hempty
  have hqueue : t.queue = [] := List.length_eq_zero_iff.mp (by omega)
  have hcurrent : t.current.toList = [] := List.length_eq_zero_iff.mp (by omega)
  rw [← hcount.2, (h.run hrun).accepted, hqueue, hcurrent, List.append_nil, List.append_nil]

end WorkQueue
