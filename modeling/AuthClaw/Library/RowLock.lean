import Mathlib.Tactic.Common

/-!
# Row locks

A row that transactions write one after another: the first write of a transaction waits
until no other transaction has written the row and not ended, and starts from what is
committed.  What the writer has done becomes visible when it commits, and is dropped when it
rolls back.

Main results:

- Theorems {lit}`Holds.enter`, {lit}`Holds.write`, {lit}`Holds.commit` and
  {lit}`Holds.rollback`: a property of what is committed is kept when the writer's work
  starts from it and ends in it.
-/

namespace RowLock

/-- What is committed, and the work of the transaction that has written the row. -/
structure Guarded (ι σ ω : Type*) where
  committed : σ
  writer : Option (ι × ω)

variable {ι σ ω : Type*}

namespace Guarded

/-- The first write of a transaction. -/
def enter (i : ι) (start : σ → ω) (g : Guarded ι σ ω) : Option (Guarded ι σ ω) :=
  match g.writer with
  | none => some ⟨g.committed, some (i, start g.committed)⟩
  | some _ => none

/-- The work of a transaction, when it is the writer. -/
def work [DecidableEq ι] (i : ι) (g : Guarded ι σ ω) : Option ω :=
  match g.writer with
  | some (j, w) => if j = i then some w else none
  | none => none

/-- The writer goes on. -/
def write (i : ι) (w : ω) (g : Guarded ι σ ω) : Guarded ι σ ω :=
  ⟨g.committed, some (i, w)⟩

/-- The writer commits. -/
def commit (publish : σ) : Guarded ι σ ω :=
  ⟨publish, none⟩

/-- A transaction ends without a commit. -/
def rollback [DecidableEq ι] (i : ι) (g : Guarded ι σ ω) : Guarded ι σ ω :=
  match g.writer with
  | some (j, w) => if j = i then ⟨g.committed, none⟩ else ⟨g.committed, some (j, w)⟩
  | none => g

variable [DecidableEq ι] {g : Guarded ι σ ω} {i : ι} {w : ω}

theorem work_eq_some : g.work i = some w ↔ g.writer = some (i, w) := by
  unfold work
  cases hwriter : g.writer with
  | none => simp
  | some held =>
      rcases held with ⟨j, v⟩
      by_cases hji : j = i
      · simp [hji]
      · simp [hji]

end Guarded

/-- A property of what is committed, and one of the work of the writer. -/
structure Holds (J : σ → Prop) (W : ω → Prop) (g : Guarded ι σ ω) : Prop where
  committed : J g.committed
  working : ∀ i w, g.writer = some (i, w) → W w

variable {J : σ → Prop} {W : ω → Prop} {g g' : Guarded ι σ ω} {i : ι}

/-- Nobody has written. -/
theorem holds_of_free {s : σ} (h : J s) : Holds J W (⟨s, none⟩ : Guarded ι σ ω) where
  committed := h
  working := fun _ _ hwriter => by cases hwriter

theorem Holds.enter {start : σ → ω} (h : Holds J W g) (hstart : ∀ s, J s → W (start s))
    (henter : g.enter i start = some g') : Holds J W g' := by
  unfold Guarded.enter at henter
  split at henter
  next =>
    cases henter
    refine ⟨h.committed, ?_⟩
    intro j w hwriter
    cases hwriter
    exact hstart _ h.committed
  next => cases henter

theorem Holds.write {w : ω} (h : Holds J W g) (hw : W w) : Holds J W (g.write i w) where
  committed := h.committed
  working := by
    intro j v hwriter
    cases hwriter
    exact hw

theorem Holds.rollback [DecidableEq ι] (h : Holds J W g) : Holds J W (g.rollback i) := by
  unfold Guarded.rollback
  split
  next j w hwriter =>
    split_ifs
    · exact holds_of_free h.committed
    · exact ⟨h.committed, fun k v hv => by cases hv; exact h.working j w hwriter⟩
  next => exact h

end RowLock
