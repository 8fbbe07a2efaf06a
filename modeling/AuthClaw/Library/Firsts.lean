import Mathlib.Data.Finset.Card
import Mathlib.Tactic.Common

/-!
# Keeping the first element of each key

A loop that keeps an element unless one with its key was seen before.  Keys that are made of
other keys merge what these tell apart.

Main results:

- Theorem {lit}`mem_map_firsts`: every key keeps an element.
- Theorem {lit}`nodup_map_firsts`: no key keeps two.
- Theorem {lit}`firsts_congr`: keys that tell the same elements apart keep the same ones.
- Theorem {lit}`length_firsts_comp_iff`: a key of a key keeps as many exactly when it merges none.
-/

namespace Firsts

variable {α β κ μ : Type} [DecidableEq κ] [DecidableEq μ]

/-- The elements whose key is new, after some keys have been seen. -/
def firstsFrom (key : α → κ) : List κ → List α → List α
  | _, [] => []
  | seen, a :: rest =>
      if key a ∈ seen then firstsFrom key seen rest
      else a :: firstsFrom key (key a :: seen) rest

/-- The first element of each key. -/
def firsts (key : α → κ) (elements : List α) : List α :=
  firstsFrom key [] elements

variable {key : α → κ} {seen : List κ} {elements : List α}

theorem firstsFrom_cons {a : α} :
    firstsFrom key seen (a :: elements) =
      if key a ∈ seen then firstsFrom key seen elements
      else a :: firstsFrom key (key a :: seen) elements :=
  rfl

/-! ## What is kept -/

theorem firstsFrom_sublist : (firstsFrom key seen elements).Sublist elements := by
  induction elements generalizing seen with
  | nil => exact List.Sublist.refl _
  | cons a rest ih =>
      rw [firstsFrom_cons]
      split_ifs
      · exact ih.cons a
      · exact ih.cons_cons a

theorem mem_of_mem_firsts {a : α} (h : a ∈ firsts key elements) : a ∈ elements :=
  firstsFrom_sublist.subset h

/-- A key keeps an element when some element has it and it was not seen. -/
theorem mem_map_firstsFrom {k : κ} :
    k ∈ (firstsFrom key seen elements).map key ↔ k ∈ elements.map key ∧ k ∉ seen := by
  induction elements generalizing seen with
  | nil => simp [firstsFrom]
  | cons a rest ih =>
      rw [firstsFrom_cons]
      by_cases hseen : key a ∈ seen
      · rw [if_pos hseen, ih, List.map_cons, List.mem_cons]
        constructor
        · rintro ⟨hmem, hnew⟩
          exact ⟨Or.inr hmem, hnew⟩
        · rintro ⟨rfl | hmem, hnew⟩
          · exact absurd hseen hnew
          · exact ⟨hmem, hnew⟩
      · rw [if_neg hseen, List.map_cons, List.map_cons, List.mem_cons, List.mem_cons, ih,
          List.mem_cons]
        constructor
        · rintro (rfl | ⟨hmem, hnew⟩)
          · exact ⟨Or.inl rfl, hseen⟩
          · exact ⟨Or.inr hmem, fun hold => hnew (Or.inr hold)⟩
        · rintro ⟨rfl | hmem, hnew⟩
          · exact Or.inl rfl
          · by_cases hsame : k = key a
            · exact Or.inl hsame
            · exact Or.inr ⟨hmem, fun hold => hold.elim hsame hnew⟩

/-- Every key keeps an element. -/
theorem mem_map_firsts {k : κ} : k ∈ (firsts key elements).map key ↔ k ∈ elements.map key := by
  unfold firsts
  rw [mem_map_firstsFrom]
  simp only [List.not_mem_nil, not_false_eq_true, and_true]

theorem nodup_map_firstsFrom : ((firstsFrom key seen elements).map key).Nodup := by
  induction elements generalizing seen with
  | nil => exact List.nodup_nil
  | cons a rest ih =>
      rw [firstsFrom_cons]
      split_ifs
      · exact ih
      · rw [List.map_cons, List.nodup_cons]
        refine ⟨?_, ih⟩
        intro hmem
        exact (mem_map_firstsFrom.mp hmem).2 List.mem_cons_self

/-- No key keeps two elements. -/
theorem nodup_map_firsts : ((firsts key elements).map key).Nodup :=
  nodup_map_firstsFrom

/-- Two kept elements of one key are the same. -/
theorem eq_of_mem_firsts {a b : α} (ha : a ∈ firsts key elements) (hb : b ∈ firsts key elements)
    (h : key a = key b) : a = b :=
  List.inj_on_of_nodup_map nodup_map_firsts ha hb h

/-! ## Other elements and other keys -/

theorem firstsFrom_map {image : β → α} {sources : List β} :
    firstsFrom key seen (sources.map image) =
      (firstsFrom (key ∘ image) seen sources).map image := by
  induction sources generalizing seen with
  | nil => rfl
  | cons b rest ih =>
      rw [List.map_cons, firstsFrom_cons, firstsFrom_cons, Function.comp_apply, ih, ih]
      split_ifs
      · rfl
      · rfl

/-- The first images are the images of the first elements. -/
theorem firsts_map {image : β → α} {sources : List β} :
    firsts key (sources.map image) = (firsts (key ∘ image) sources).map image :=
  firstsFrom_map

theorem filter_firstsFrom {p : κ → Bool} {others : List κ}
    (hseen : ∀ k, p k = true → (k ∈ seen ↔ k ∈ others)) :
    (firstsFrom key seen elements).filter (p ∘ key) =
      firstsFrom key others (elements.filter (p ∘ key)) := by
  induction elements generalizing seen others with
  | nil => rfl
  | cons a rest ih =>
      rw [firstsFrom_cons]
      by_cases hp : (p ∘ key) a = true
      · rw [List.filter_cons_of_pos hp, firstsFrom_cons]
        by_cases hold : key a ∈ seen
        · rw [if_pos hold, if_pos ((hseen _ hp).mp hold)]
          exact ih hseen
        · rw [if_neg hold, if_neg (fun hother => hold ((hseen _ hp).mpr hother)),
            List.filter_cons_of_pos hp]
          refine congrArg (List.cons a) (ih ?_)
          intro k hk
          rw [List.mem_cons, List.mem_cons, hseen k hk]
      · rw [List.filter_cons_of_neg hp]
        by_cases hold : key a ∈ seen
        · rw [if_pos hold]
          exact ih hseen
        · rw [if_neg hold, List.filter_cons_of_neg hp]
          refine ih ?_
          intro k hk
          rw [List.mem_cons, hseen k hk]
          constructor
          · rintro (rfl | hmem)
            · exact absurd hk hp
            · exact hmem
          · exact fun hmem => Or.inr hmem

/-- A part that the keys decide is kept from the part alone. -/
theorem filter_firsts {p : κ → Bool} :
    (firsts key elements).filter (p ∘ key) = firsts key (elements.filter (p ∘ key)) :=
  filter_firstsFrom (fun _ _ => Iff.rfl)

theorem firstsFrom_congr {other : α → μ} {others : List μ}
    (hsame : ∀ a ∈ elements, ∀ b ∈ elements, key a = key b ↔ other a = other b)
    (hseen : ∀ a ∈ elements, key a ∈ seen ↔ other a ∈ others) :
    firstsFrom key seen elements = firstsFrom other others elements := by
  induction elements generalizing seen others with
  | nil => rfl
  | cons a rest ih =>
      have hrest : ∀ a ∈ rest, ∀ b ∈ rest, key a = key b ↔ other a = other b := by
        intro b hb c hc
        exact hsame b (List.mem_cons_of_mem a hb) c (List.mem_cons_of_mem a hc)
      have hfirst := hseen a List.mem_cons_self
      rw [firstsFrom_cons, firstsFrom_cons]
      by_cases hold : key a ∈ seen
      · rw [if_pos hold, if_pos (hfirst.mp hold)]
        exact ih hrest (fun b hb => hseen b (List.mem_cons_of_mem a hb))
      · rw [if_neg hold, if_neg (fun hother => hold (hfirst.mpr hother))]
        refine congrArg (List.cons a) (ih hrest ?_)
        intro b hb
        rw [List.mem_cons, List.mem_cons, hseen b (List.mem_cons_of_mem a hb),
          hsame b (List.mem_cons_of_mem a hb) a List.mem_cons_self]

/-- Keys that tell the same elements apart keep the same ones. -/
theorem firsts_congr {other : α → μ}
    (hsame : ∀ a ∈ elements, ∀ b ∈ elements, key a = key b ↔ other a = other b) :
    firsts key elements = firsts other elements :=
  firstsFrom_congr hsame (fun _ _ => ⟨fun h => absurd h List.not_mem_nil,
    fun h => absurd h List.not_mem_nil⟩)

/-! ## How many are kept -/

/-- As many elements are kept as there are keys. -/
theorem length_firsts : (firsts key elements).length = (elements.map key).toFinset.card := by
  have hsame : (elements.map key).toFinset = ((firsts key elements).map key).toFinset := by
    ext k
    rw [List.mem_toFinset, List.mem_toFinset, mem_map_firsts]
  rw [hsame, List.toFinset_card_of_nodup nodup_map_firsts, List.length_map]

/-- A key of a key keeps as many elements exactly when it merges none. -/
theorem length_firsts_comp_iff {merge : κ → μ} :
    (firsts (merge ∘ key) elements).length = (firsts key elements).length ↔
      ∀ a ∈ elements, ∀ b ∈ elements, merge (key a) = merge (key b) → key a = key b := by
  have himage : (elements.map (merge ∘ key)).toFinset =
      (elements.map key).toFinset.image merge := by
    ext m
    simp only [List.mem_toFinset, List.mem_map, Finset.mem_image, Function.comp_apply,
      exists_exists_and_eq_and]
  rw [length_firsts, length_firsts, himage, Finset.card_image_iff]
  unfold Set.InjOn
  simp only [Finset.mem_coe, List.mem_toFinset, List.mem_map, forall_exists_index, and_imp,
    forall_apply_eq_imp_iff₂]

end Firsts
