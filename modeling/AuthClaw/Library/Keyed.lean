import AuthClaw.Library.Rows
import Mathlib.Data.List.Induction

/-!
# Tables with a key

A table whose rows differ in their key is a finite map: a row is found by its key, and each
statement that writes the table is described by what is found after it.

Main results:

- Theorem {lit}`find_insert`, {lit}`find_update` and {lit}`find_upsert`: what is found after
  a statement.
- Theorem {lit}`mem_put`: the rows after a row was put in the place of its key.
- Theorem {lit}`find_ofRows`: of rows that are put one after the other, the last one of a key
  is found.
- Theorem {lit}`lt_above`: the numbers of a sequence are new.
-/

namespace Rows

variable {α β : Type*}

/-- Rows that differ in their key. -/
structure Table (key : α → β) where
  rows : List α
  nodup : (rows.map key).Nodup

namespace Table

variable {key : α → β}

/-- No row. -/
def empty : Table key :=
  ⟨[], List.nodup_nil⟩

/-- `UPDATE ... SET ... WHERE ...`, which leaves the keys alone. -/
def update (p : α → Bool) (f : α → α) (hf : ∀ r, key (f r) = key r) (t : Table key) : Table key :=
  ⟨updateWhere p f t.rows, by
    rw [map_updateWhere (fun r _ => hf r)]
    exact t.nodup⟩

variable [DecidableEq β]

/-- The row of a key. -/
def find (k : β) (t : Table key) : Option α :=
  t.rows.find? (fun r => key r = k)

variable {t t' : Table key} {k : β} {r : α}

/-- A row that is found has the key. -/
theorem find_key (h : t.find k = some r) : key r = k := by
  have hkey := List.find?_some h
  rwa [decide_eq_true_eq] at hkey

theorem find_mem (h : t.find k = some r) : r ∈ t.rows :=
  List.mem_of_find?_eq_some h

theorem find_eq_none : t.find k = none ↔ ∀ r ∈ t.rows, key r ≠ k := by
  unfold find
  rw [List.find?_eq_none]
  simp only [decide_eq_true_eq]

theorem find_eq_some : t.find k = some r ↔ r ∈ t.rows ∧ key r = k := by
  refine ⟨fun h => ⟨find_mem h, find_key h⟩, ?_⟩
  rintro ⟨hr, hk⟩
  cases hfind : t.find k with
  | none => exact absurd hk (find_eq_none.mp hfind r hr)
  | some s => rw [eq_of_key t.nodup (find_mem hfind) hr ((find_key hfind).trans hk.symm)]

@[simp]
theorem find_empty : (empty : Table key).find k = none :=
  rfl

/-- A row with a new key. -/
def append (r : α) (t : Table key) (h : t.find (key r) = none) : Table key :=
  ⟨t.rows ++ [r], by
    rw [List.map_append, List.nodup_append]
    refine ⟨t.nodup, List.nodup_singleton _, ?_⟩
    intro k hk k' hk'
    rcases List.mem_map.mp hk with ⟨s, hs, rfl⟩
    rw [List.map_singleton, List.mem_singleton] at hk'
    rw [hk']
    exact find_eq_none.mp h s hs⟩

theorem find_append {h : t.find (key r) = none} :
    (t.append r h).find k = if k = key r then some r else t.find k := by
  unfold append find
  rw [List.find?_append]
  by_cases hk : k = key r
  · have hnone : t.rows.find? (fun s => key s = k) = none := by
      rw [hk]
      exact h
    rw [if_pos hk, hnone]
    simp [hk]
  · rw [if_neg hk]
    simp [Ne.symm hk]

/-- `INSERT`, of a row whose key is new. -/
def insert (r : α) (t : Table key) : Option (Table key) :=
  if h : t.find (key r) = none then some (t.append r h) else none

theorem find_insert (h : t.insert r = some t') :
    t'.find k = if k = key r then some r else t.find k := by
  unfold insert at h
  split_ifs at h
  cases h
  exact find_append

/-- A row that is inserted is the last. -/
theorem rows_insert (h : t.insert r = some t') : t'.rows = t.rows ++ [r] := by
  unfold insert at h
  split_ifs at h
  cases h
  rfl

/-- A row that is inserted stands beside the others. -/
theorem mem_insert {s : α} (h : t.insert r = some t') : s ∈ t'.rows ↔ s ∈ t.rows ∨ s = r := by
  rw [rows_insert h, List.mem_append, List.mem_singleton]

/-- A row stands under its key. -/
theorem find_eq_ite (h : t.find (key r) = some r) (k : β) :
    t.find k = if k = key r then some r else t.find k := by
  by_cases hk : k = key r
  · rw [if_pos hk, hk, h]
  · rw [if_neg hk]

/-- A row whose key is new is inserted. -/
theorem exists_insert (h : t.find (key r) = none) : ∃ t', t.insert r = some t' :=
  ⟨t.append r h, dif_pos h⟩

/-- The key of a row that is inserted was new. -/
theorem find_of_insert (h : t.insert r = some t') : t.find (key r) = none := by
  unfold insert at h
  split_ifs at h with hnew
  exact hnew

theorem find_update {p : α → Bool} {f : α → α} {hf : ∀ r, key (f r) = key r} :
    (t.update p f hf).find k = (t.find k).map (fun r => if p r then f r else r) := by
  cases hfind : t.find k with
  | none =>
      rw [Option.map_none, find_eq_none]
      intro s hs
      rcases mem_updateWhere.mp hs with ⟨r, hr, ⟨-, rfl⟩ | ⟨-, rfl⟩⟩
      · rw [hf]
        exact find_eq_none.mp hfind r hr
      · exact find_eq_none.mp hfind r hr
  | some r =>
      rcases find_eq_some.mp hfind with ⟨hr, hk⟩
      rw [Option.map_some, find_eq_some]
      by_cases hp : p r = true
      · rw [if_pos hp, hf]
        exact ⟨mem_updateWhere.mpr ⟨r, hr, Or.inl ⟨hp, rfl⟩⟩, hk⟩
      · rw [if_neg hp]
        exact ⟨mem_updateWhere.mpr ⟨r, hr, Or.inr ⟨by simpa using hp, rfl⟩⟩, hk⟩

/-- `INSERT ... ON CONFLICT (key) DO UPDATE`. -/
def upsert (r : α) (f : α → α) (hf : ∀ s, key (f s) = key s) (t : Table key) : Table key :=
  if h : t.find (key r) = none then t.append r h
  else t.update (fun s => key s = key r) f hf

theorem find_upsert {f : α → α} {hf : ∀ s, key (f s) = key s} :
    (t.upsert r f hf).find k =
      if k = key r then some (((t.find (key r)).map f).getD r) else t.find k := by
  unfold upsert
  by_cases hnew : t.find (key r) = none
  · rw [dif_pos hnew, find_append, hnew]
    rfl
  · rw [dif_neg hnew, find_update]
    cases hfind : t.find k with
    | none =>
        have hk : k ≠ key r := by
          rintro rfl
          exact hnew hfind
        rw [if_neg hk]
        rfl
    | some s =>
        by_cases hk : k = key r
        · subst hk
          rw [if_pos rfl, hfind, Option.map_some, if_pos (decide_eq_true (find_key hfind))]
          rfl
        · have hs : ¬ key s = key r := fun hs => hk ((find_key hfind).symm.trans hs)
          simp [hk, hs]

/-- The row takes the place of the one with its key, if any. -/
def put (r : α) (t : Table key) : Table key :=
  ⟨t.rows.filter (fun s => key s ≠ key r) ++ [r], by
    rw [List.map_append, List.nodup_append]
    refine ⟨t.nodup.sublist (List.filter_sublist.map key), List.nodup_singleton _, ?_⟩
    intro k hk k' hk'
    rcases List.mem_map.mp hk with ⟨s, hs, rfl⟩
    rw [List.map_singleton, List.mem_singleton] at hk'
    rw [hk']
    exact of_decide_eq_true (List.mem_filter.mp hs).2⟩

/-- `DELETE ... WHERE key = ...`. -/
def remove (k : β) (t : Table key) : Table key :=
  ⟨t.rows.filter (fun s => key s ≠ k), t.nodup.sublist (List.filter_sublist.map key)⟩

theorem mem_remove {s : α} : s ∈ (t.remove k).rows ↔ s ∈ t.rows ∧ key s ≠ k := by
  unfold remove
  rw [List.mem_filter, decide_eq_true_eq]

/-- A row that stands after a row was put was put, or stood under another key. -/
theorem mem_put {s : α} : s ∈ (t.put r).rows ↔ s = r ∨ s ∈ t.rows ∧ key s ≠ key r := by
  unfold put
  rw [List.mem_append, List.mem_filter, List.mem_singleton, decide_eq_true_eq]
  exact or_comm

theorem find_put : (t.put r).find k = if key r = k then some r else t.find k := by
  by_cases hk : key r = k
  · rw [if_pos hk]
    exact find_eq_some.mpr ⟨mem_put.mpr (Or.inl rfl), hk⟩
  · rw [if_neg hk]
    cases hfind : t.find k with
    | none =>
        refine find_eq_none.mpr ?_
        intro s hs
        rcases mem_put.mp hs with rfl | ⟨hs, -⟩
        · exact hk
        · exact find_eq_none.mp hfind s hs
    | some s =>
        refine find_eq_some.mpr ⟨mem_put.mpr (Or.inr ⟨find_mem hfind, ?_⟩), find_key hfind⟩
        rw [find_key hfind]
        exact fun h => hk h.symm

/-- The table that a list of rows leaves when each is put in its turn. -/
def ofRows (rows : List α) : Table key :=
  rows.foldl (fun t r => t.put r) empty

/-- The last row of a key is the one that is found. -/
theorem find_ofRows (rows : List α) :
    (ofRows rows : Table key).find k = rows.reverse.find? (fun r => key r = k) := by
  unfold ofRows
  induction rows using List.reverseRecOn with
  | nil => rfl
  | append_singleton rows r ih =>
      rw [List.foldl_append, List.foldl_cons, List.foldl_nil, find_put, ih,
        List.reverse_append, List.reverse_singleton, List.singleton_append]
      by_cases hk : key r = k
      · rw [if_pos hk, List.find?_cons_of_pos (by simpa using hk)]
      · rw [if_neg hk, List.find?_cons_of_neg (by simpa using hk)]

end Table

/-- The last element with a property, and those after it. -/
theorem find?_reverse_eq_some_iff {p : α → Bool} {l : List α} {a : α} :
    l.reverse.find? p = some a ↔
      p a = true ∧ ∃ before after, l = before ++ a :: after ∧ ∀ x ∈ after, p x = false := by
  rw [List.find?_eq_some_iff_append]
  refine and_congr_right fun _ => ⟨?_, ?_⟩
  · rintro ⟨before, after, hl, hbefore⟩
    refine ⟨after.reverse, before.reverse, ?_, fun x hx => ?_⟩
    · rw [← List.reverse_reverse l, hl, List.reverse_append, List.reverse_cons,
        List.append_assoc, List.singleton_append]
    · simpa using hbefore x (List.mem_reverse.mp hx)
  · rintro ⟨before, after, hl, hafter⟩
    refine ⟨after.reverse, before.reverse, ?_, fun x hx => ?_⟩
    · rw [hl, List.reverse_append, List.reverse_cons, List.append_assoc, List.singleton_append]
    · simpa using hafter x (List.mem_reverse.mp hx)

/-- A number that is above all of the others. -/
def above (ks : List Int) : Int :=
  ks.foldr max 0 + 1

theorem lt_above {ks : List Int} {k : Int} (h : k ∈ ks) : k < above ks := by
  unfold above
  induction ks with
  | nil => cases h
  | cons j ks ih =>
      rw [List.foldr_cons]
      rcases List.mem_cons.mp h with rfl | h
      · omega
      · have := ih h
        omega

/-- A key that is above those of a table is new. -/
theorem Table.find_eq_none_of_lt {key : α → Int} {t : Table key} {k : Int}
    (h : ∀ r ∈ t.rows, key r < k) : t.find k = none := by
  rw [find_eq_none]
  intro r hr hkey
  have := h r hr
  omega

end Rows
