import Mathlib.Data.List.Nodup
import Mathlib.Tactic.Common

/-!
# Rows of a table

What a statement of a database does to the rows of a table, kept as a list:
{lit}`UPDATE ... WHERE` changes the rows that match, and {lit}`fetchone` takes one of the
rows that match, which one is open where the statement does not order them.

Main results:

- Theorem {lit}`mem_updateWhere`: the rows after an update.
- Theorem {lit}`map_updateWhere`: what an update leaves alone.
-/

namespace Rows

variable {α β : Type*}

/-- `UPDATE ... SET ... WHERE ...`. -/
def updateWhere (p : α → Bool) (f : α → α) (rows : List α) : List α :=
  rows.map (fun r => if p r then f r else r)

section

variable {p : α → Bool} {f : α → α} {rows : List α} {r s : α}

/-- A row after an update was updated or did not match. -/
theorem mem_updateWhere :
    s ∈ updateWhere p f rows ↔ ∃ r ∈ rows, (p r = true ∧ f r = s) ∨ (p r = false ∧ r = s) := by
  unfold updateWhere
  rw [List.mem_map]
  constructor
  · rintro ⟨r, hr, hs⟩
    by_cases hp : p r = true
    · rw [if_pos hp] at hs
      exact ⟨r, hr, Or.inl ⟨hp, hs⟩⟩
    · rw [if_neg hp] at hs
      exact ⟨r, hr, Or.inr ⟨by simpa using hp, hs⟩⟩
  · rintro ⟨r, hr, ⟨hp, hs⟩ | ⟨hp, hs⟩⟩
    · exact ⟨r, hr, by rw [if_pos hp, hs]⟩
    · exact ⟨r, hr, by rw [hp, hs]; rfl⟩

/-- What the update of a matching row keeps is kept throughout the table. -/
theorem map_updateWhere {g : α → β} (h : ∀ r, p r = true → g (f r) = g r) (rows : List α) :
    (updateWhere p f rows).map g = rows.map g := by
  unfold updateWhere
  rw [List.map_map]
  refine List.map_congr_left ?_
  intro r _
  by_cases hp : p r = true
  · simp [hp, h r hp]
  · simp [hp]

/-- An update without a matching row changes nothing. -/
theorem updateWhere_of_none (h : ∀ r ∈ rows, p r = false) : updateWhere p f rows = rows := by
  unfold updateWhere
  refine (List.map_congr_left ?_).trans (List.map_id _)
  intro r hr
  rw [h r hr]
  rfl

/-- An update whose rows match a condition only where they did before does not add to the rows
that match it. -/
theorem countP_updateWhere_le {q : α → Bool} (h : ∀ r, q (f r) = true → q r = true)
    (rows : List α) : (updateWhere p f rows).countP q ≤ rows.countP q := by
  unfold updateWhere
  rw [List.countP_map]
  refine List.countP_mono_left ?_
  intro r _ hq
  by_cases hp : p r = true
  · rw [Function.comp_apply, if_pos hp] at hq
    exact h r hq
  · rwa [Function.comp_apply, if_neg hp] at hq

/-- In a table whose keys differ, a row is found by its key. -/
theorem eq_of_key {key : α → β} (hkeys : (rows.map key).Nodup) (hr : r ∈ rows) (hs : s ∈ rows)
    (h : key r = key s) : r = s :=
  List.inj_on_of_nodup_map hkeys hr hs h

/-- In a table whose keys differ, no later row has the key of a row. -/
theorem key_ne_of_mem_after {key : α → β} {before after : List α} (hkeys : (rows.map key).Nodup)
    (hrows : rows = before ++ r :: after) (hs : s ∈ after) : key s ≠ key r := by
  rw [hrows, List.map_append, List.map_cons] at hkeys
  intro heq
  refine (List.nodup_cons.mp (List.nodup_append.mp hkeys).2.1).1 ?_
  rw [← heq]
  exact List.mem_map_of_mem hs

end

/-- How `fetchone` takes a row of a result that is not ordered. -/
structure Choice (α : Type*) where
  pick : List α → Option α
  pick_mem : ∀ rows r, pick rows = some r → r ∈ rows
  pick_isSome : ∀ rows, rows ≠ [] → (pick rows).isSome = true

namespace Choice

/-- The first row is taken. -/
def first : Choice α where
  pick := List.head?
  pick_mem := fun _ _ h => List.mem_of_head? h
  pick_isSome := by
    intro rows h
    cases rows with
    | nil => exact absurd rfl h
    | cons r rows => rfl

/-- A row that satisfies a condition is taken, where there is one. -/
def preferring (q : α → Bool) : Choice α where
  pick := fun rows => (rows.find? q).or rows.head?
  pick_mem := by
    intro rows r h
    rcases Option.or_eq_some_iff.mp h with h | ⟨-, h⟩
    · exact List.mem_of_find?_eq_some h
    · exact List.mem_of_head? h
  pick_isSome := by
    intro rows h
    cases rows with
    | nil => exact absurd rfl h
    | cons r rows => simp

/-- `fetchone` of the rows that match. -/
def fetch (c : Choice α) (p : α → Bool) (rows : List α) : Option α :=
  c.pick (rows.filter p)

variable {c : Choice α} {p : α → Bool} {rows : List α} {r : α}

theorem fetch_eq_some (h : c.fetch p rows = some r) : r ∈ rows ∧ p r = true :=
  List.mem_filter.mp (c.pick_mem _ r h)

/-- Where a row matches, one is taken. -/
theorem fetch_ne_none (hr : r ∈ rows) (hp : p r = true) : c.fetch p rows ≠ none := by
  have hsome := c.pick_isSome (rows.filter p)
    (List.ne_nil_of_mem (List.mem_filter.mpr ⟨hr, hp⟩))
  exact Option.isSome_iff_ne_none.mp hsome

/-- A row that is preferred and matches is taken, or another such row. -/
theorem preferring_fetch {q : α → Bool} (hr : r ∈ rows) (hp : p r = true) (hq : q r = true) :
    ∃ s, (preferring q).fetch p rows = some s ∧ s ∈ rows ∧ q s = true := by
  have hmem : r ∈ rows.filter p := List.mem_filter.mpr ⟨hr, hp⟩
  cases hfind : (rows.filter p).find? q with
  | none => exact absurd hq (List.find?_eq_none.mp hfind r hmem)
  | some s =>
      refine ⟨s, ?_, List.mem_of_mem_filter (List.mem_of_find?_eq_some hfind),
        List.find?_some hfind⟩
      unfold fetch preferring
      dsimp only
      rw [hfind]
      rfl

end Choice

end Rows
