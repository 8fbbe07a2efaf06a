import Mathlib.Data.List.Induction
import Mathlib.Data.List.Sort
import Mathlib.Tactic.Common

/-!
# Selecting among conflicting items

Items are taken in an order; an item in conflict with selected ones stays or leaves with them,
whichever is the best of them.  The selection is sorted once more at the end.

Main results:

- Theorem {lit}`mem_dedupe_of_apart`: an item in conflict with no other stays.
- Theorem {lit}`dedupe_map`: a map that keeps conflicts, ranks and orders commutes with the
  selection.
-/

namespace Selection

/-- What the selection compares. -/
structure Criteria (α : Type*) where
  overlaps : α → α → Bool
  outranks : α → α → Bool
  before : α → α → Prop
  decidableBefore : DecidableRel before
  startsBefore : α → α → Prop
  decidableStartsBefore : DecidableRel startsBefore

attribute [instance] Criteria.decidableBefore Criteria.decidableStartsBefore

section

variable {α : Type*} (c : Criteria α)

/-- The first best item, with its position. -/
def firstMax : α × Nat → List (α × Nat) → α × Nat
  | best, [] => best
  | best, item :: rest => firstMax (if c.outranks item.1 best.1 then item else best) rest

variable [DecidableEq α]

/-- One more item. -/
def dedupeStep (selected : List α) (finding : α) : List α :=
  let overlapping := (selected.filter (fun item => c.overlaps finding item)).zipIdx
  match overlapping with
  | [] => selected ++ [finding]
  | item :: rest =>
      let best := (firstMax c item (rest ++ [(finding, overlapping.length)])).2
      let remaining := (overlapping.filter (fun item => item.2 ≠ best)).foldl
        (fun selected item => selected.erase item.1) selected
      if best = overlapping.length ∧ finding ∉ remaining then remaining ++ [finding]
      else remaining

/-- The items that stay. -/
def dedupe (items : List α) : List α :=
  ((items.insertionSort c.before).foldl (dedupeStep c) []).insertionSort c.startsBefore

end

/-! ## Items without conflicts -/

section

variable {α : Type*} [DecidableEq α] {c : Criteria α} {selected items : List α} {item finding : α}

theorem mem_of_mem_foldl_erase {erased : List (α × Nat)} :
    ∀ {selected : List α}, item ∈ erased.foldl (fun selected e => selected.erase e.1) selected →
      item ∈ selected := by
  induction erased with
  | nil => exact fun h => h
  | cons e erased ih => exact fun h => List.mem_of_mem_erase (ih h)

theorem mem_foldl_erase {erased : List (α × Nat)} (hne : ∀ e ∈ erased, item ≠ e.1) :
    ∀ {selected : List α}, item ∈ selected →
      item ∈ erased.foldl (fun selected e => selected.erase e.1) selected := by
  induction erased with
  | nil => exact fun h => h
  | cons e erased ih =>
      intro selected h
      exact ih (fun e' he' => hne e' (by simp [he']))
        ((List.mem_erase_of_ne (hne e (by simp))).mpr h)

/-- What is selected comes from the items. -/
theorem mem_of_mem_dedupeStep (h : item ∈ dedupeStep c selected finding) :
    item ∈ selected ∨ item = finding := by
  unfold dedupeStep at h
  dsimp only at h
  split at h
  next => simpa using h
  next =>
    split_ifs at h
    · rcases List.mem_append.mp h with h | h
      · exact Or.inl (mem_of_mem_foldl_erase h)
      · exact Or.inr (List.mem_singleton.mp h)
    · exact Or.inl (mem_of_mem_foldl_erase h)

/-- A selected item that is not in conflict with the next one stays. -/
theorem mem_dedupeStep_of_apart (h : item ∈ selected) (hapart : c.overlaps finding item = false) :
    item ∈ dedupeStep c selected finding := by
  have hne : ∀ e ∈ (selected.filter (fun other => c.overlaps finding other)).zipIdx,
      item ≠ e.1 := by
    intro e he heq
    have hmem := (List.mem_filter.mp (List.fst_mem_of_mem_zipIdx he)).2
    rw [← heq, hapart] at hmem
    cases hmem
  have hremaining : ∀ p : α × Nat → Bool,
      item ∈ ((selected.filter (fun other => c.overlaps finding other)).zipIdx.filter p).foldl
        (fun selected e => selected.erase e.1) selected :=
    fun p => mem_foldl_erase (fun e he => hne e (List.mem_of_mem_filter he)) h
  unfold dedupeStep
  dsimp only
  split
  next => exact List.mem_append_left _ h
  next =>
    split_ifs
    · exact List.mem_append_left _ (hremaining _)
    · exact hremaining _

/-- An item that is not in conflict with the selected ones is selected. -/
theorem mem_dedupeStep_self (hapart : ∀ other ∈ selected, c.overlaps item other = false) :
    item ∈ dedupeStep c selected item := by
  have hnone : selected.filter (fun other => c.overlaps item other) = [] := by
    rw [List.filter_eq_nil_iff]
    intro other hother
    rw [hapart other hother]
    exact Bool.false_ne_true
  unfold dedupeStep
  rw [hnone]
  simp

/-- An item in conflict with no other stays. -/
theorem mem_dedupe_of_apart (h : item ∈ items)
    (hapart : ∀ other ∈ items, c.overlaps item other = false ∧ c.overlaps other item = false) :
    item ∈ dedupe c items := by
  have hfold : ∀ l : List α, (∀ other ∈ l, other ∈ items) →
      (∀ other ∈ l.foldl (dedupeStep c) [], other ∈ items) ∧
        (item ∈ l → item ∈ l.foldl (dedupeStep c) []) := by
    intro l
    induction l using List.reverseRecOn with
    | nil => exact fun _ => ⟨(fun _ hnil => by cases hnil), (fun hnil => by cases hnil)⟩
    | append_singleton done finding ih =>
        intro hl
        rcases ih (fun other hother => hl other (List.mem_append_left _ hother)) with ⟨hfrom, hstay⟩
        have hfinding : finding ∈ items := hl finding (by simp)
        rw [List.foldl_append]
        refine ⟨?_, ?_⟩
        · intro other hother
          rcases mem_of_mem_dedupeStep hother with hother | rfl
          · exact hfrom other hother
          · exact hfinding
        · intro hitem
          rcases List.mem_append.mp hitem with hitem | hitem
          · exact mem_dedupeStep_of_apart (hstay hitem) (hapart finding hfinding).2
          · rw [List.mem_singleton] at hitem
            subst hitem
            exact mem_dedupeStep_self (fun other hother => (hapart other (hfrom other hother)).1)
  unfold dedupe
  rw [List.mem_insertionSort]
  exact (hfold _ (fun other hother => (List.mem_insertionSort _).mp hother)).2
    ((List.mem_insertionSort _).mpr h)

end

/-! ## Maps -/

section

variable {α β : Type*} {c : Criteria α} {c' : Criteria β} {φ : α → β}

/-- The map keeps what the selection compares. -/
structure Keeps (c : Criteria α) (c' : Criteria β) (φ : α → β) : Prop where
  injective : Function.Injective φ
  overlaps : ∀ a b, c'.overlaps (φ a) (φ b) = c.overlaps a b
  outranks : ∀ a b, c'.outranks (φ a) (φ b) = c.outranks a b
  before : ∀ a b, c'.before (φ a) (φ b) ↔ c.before a b
  startsBefore : ∀ a b, c'.startsBefore (φ a) (φ b) ↔ c.startsBefore a b

theorem firstMax_map (h : Keeps c c' φ) (best : α × Nat) (rest : List (α × Nat)) :
    firstMax c' (φ best.1, best.2) (rest.map (fun item => (φ item.1, item.2))) =
      (φ (firstMax c best rest).1, (firstMax c best rest).2) := by
  induction rest generalizing best with
  | nil => rfl
  | cons item rest ih =>
      rw [List.map_cons, firstMax, firstMax, h.outranks]
      split
      · exact ih item
      · exact ih best

variable [DecidableEq α] [DecidableEq β]

theorem foldl_erase_map (h : Keeps c c' φ) (items : List (α × Nat)) (selected : List α) :
    (items.map (fun item => (φ item.1, item.2))).foldl
        (fun selected item => selected.erase item.1) (selected.map φ) =
      (items.foldl (fun selected item => selected.erase item.1) selected).map φ := by
  induction items generalizing selected with
  | nil => rfl
  | cons item items ih =>
      rw [List.map_cons, List.foldl_cons, List.foldl_cons, ← List.map_erase h.injective]
      exact ih (selected.erase item.1)

theorem dedupeStep_map (h : Keeps c c' φ) (selected : List α) (f : α) :
    dedupeStep c' (selected.map φ) (φ f) = (dedupeStep c selected f).map φ := by
  have hfilter : (selected.map φ).filter (fun item => c'.overlaps (φ f) item) =
      (selected.filter (fun item => c.overlaps f item)).map φ := by
    rw [List.filter_map]
    congr 1
    apply List.filter_congr
    intro item _
    exact h.overlaps f item
  have hzip : ((selected.filter (fun item => c.overlaps f item)).map φ).zipIdx =
      (selected.filter (fun item => c.overlaps f item)).zipIdx.map
        (fun item => (φ item.1, item.2)) := by
    rw [List.zipIdx_map]
    rfl
  unfold dedupeStep
  simp only [hfilter, hzip]
  cases (selected.filter (fun item => c.overlaps f item)).zipIdx with
  | nil => simp
  | cons item rest =>
      have hbest := firstMax_map h item (rest ++ [(f, (item :: rest).length)])
      rw [List.map_append, List.map_singleton] at hbest
      have hrest : ∀ best : Nat,
          ((item :: rest).map (fun item => (φ item.1, item.2))).filter
              (fun item => item.2 ≠ best) =
            ((item :: rest).filter (fun item => item.2 ≠ best)).map
              (fun item => (φ item.1, item.2)) := by
        intro best
        rw [List.filter_map]
        rfl
      simp only [List.map_cons, List.length_cons, List.length_map] at hbest hrest ⊢
      rw [hbest, hrest, foldl_erase_map h]
      have hmem : ∀ remaining : List α, φ f ∈ remaining.map φ ↔ f ∈ remaining :=
        fun remaining => List.mem_map_of_injective h.injective
      simp only [hmem]
      split
      · rw [List.map_append]
        rfl
      · rfl

/-- Items are selected after a map as they were before it. -/
theorem dedupe_map (h : Keeps c c' φ) (items : List α) :
    dedupe c' (items.map φ) = (dedupe c items).map φ := by
  have hfold : ∀ items : List α, (items.map φ).foldl (dedupeStep c') [] =
      (items.foldl (dedupeStep c) []).map φ := by
    intro items
    induction items using List.reverseRecOn with
    | nil => rfl
    | append_singleton done f ih =>
        rw [List.map_append, List.map_singleton, List.foldl_append, List.foldl_append, ih]
        exact dedupeStep_map h _ f
  unfold dedupe
  rw [← List.map_insertionSort _ _ _ _ (fun f _ g _ => (h.before f g).symm), hfold]
  exact (List.map_insertionSort _ _ _ _ (fun f _ g _ => (h.startsBefore f g).symm)).symm

end

end Selection
