import AuthClaw.Library.Regex

/-!
# Expressions on texts that carry more than characters

A matcher sees the elements of a text only through the classes that accept them.  It
therefore finds the same in a text and in a view of it, and a rewriting of the text is
a rewriting of the view.

Main results:

- Theorem {lit}`tokens_map`: a view is scanned like the text.
- Theorem {lit}`map_replaceAll`: the view of a rewritten text is the rewritten view.
- Theorem {lit}`replaceAll_congr`: classes that agree on the text rewrite it alike.
-/

namespace Regex

variable {κ α β : Type} (f : α → β) (acc : κ → β → Bool)

/-- What the classes accept through a view. -/
def through (k : κ) (a : α) : Bool :=
  acc k (f a)

/-- The view of what is matched and what remains. -/
def mapMatch (m : List α × List α) : List β × List β :=
  (m.1.map f, m.2.map f)

/-- The view of the parts that are matched and what remains. -/
def mapParts (m : List (List α) × List α) : List (List β) × List β :=
  (m.1.map (List.map f), m.2.map f)

/-- The view of a token. -/
def Token.map : Token α → Token β
  | .skip a => .skip (f a)
  | .hit us => .hit (us.map (List.map f))

theorem at?_map (k : κ) (a : Option α) : at? acc k (a.map f) = at? (through f acc) k a := by
  cases a with
  | none => rfl
  | some a => rfl

theorem longest_map (k : κ) (rest : List α) :
    longest acc k (rest.map f) = (longest (through f acc) k rest).map (mapMatch f) := by
  induction rest with
  | nil => rfl
  | cons a rest ih =>
      rw [List.map_cons, longest, longest, ih]
      by_cases ha : acc k (f a) = true
      · rw [if_pos ha, if_pos (show through f acc k a = true from ha), List.map_append,
          List.map_map, List.map_map]
        rfl
      · rw [if_neg ha, if_neg (show ¬ through f acc k a = true from ha)]
        rfl

theorem shortest_map (k : κ) (rest : List α) :
    shortest acc k (rest.map f) = (shortest (through f acc) k rest).map (mapMatch f) := by
  induction rest with
  | nil => rfl
  | cons a rest ih =>
      rw [List.map_cons, shortest, shortest, ih]
      by_cases ha : acc k (f a) = true
      · rw [if_pos ha, if_pos (show through f acc k a = true from ha), List.map_cons,
          List.map_map, List.map_map]
        rfl
      · rw [if_neg ha, if_neg (show ¬ through f acc k a = true from ha)]
        rfl

theorem getLast?_map_or (u : List α) (prev : Option α) :
    (u.map f).getLast?.or (prev.map f) = (u.getLast?.or prev).map f := by
  rw [List.getLast?_map]
  cases u.getLast? with
  | none => rfl
  | some a => rfl

/-- A view is matched like the text. -/
theorem run_map (r : Regex κ) (prev : Option α) (rest : List α) :
    run acc r (prev.map f) (rest.map f) = (run (through f acc) r prev rest).map (mapMatch f) := by
  induction r generalizing prev rest with
  | empty => rfl
  | one k =>
      cases rest with
      | nil => rfl
      | cons a rest =>
          rw [List.map_cons, run, run]
          by_cases ha : acc k (f a) = true
          · rw [if_pos ha, if_pos (show through f acc k a = true from ha)]
            rfl
          · rw [if_neg ha, if_neg (show ¬ through f acc k a = true from ha)]
            rfl
  | seq r s ihr ihs =>
      rw [run, run, ihr, List.flatMap_map, List.map_flatMap]
      apply List.flatMap_congr
      rintro ⟨u, later⟩ -
      rw [List.map_map]
      change (run acc s ((u.map f).getLast?.or (prev.map f)) (later.map f)).map _ = _
      rw [getLast?_map_or, ihs, List.map_map]
      apply List.map_congr_left
      rintro ⟨v, last⟩ -
      simp [mapMatch]
  | alt r s ihr ihs => rw [run, run, ihr, ihs, List.map_append]
  | many k greedy =>
      rw [run, run]
      cases greedy with
      | true => exact longest_map f acc k rest
      | false => exact shortest_map f acc k rest
  | boundary k =>
      rw [run, run, List.head?_map, at?_map, at?_map]
      split
      · rfl
      · rfl
  | notBefore k =>
      rw [run, run, List.head?_map, at?_map]
      split
      · rfl
      · rfl
  | notAfter k =>
      rw [run, run, at?_map]
      split
      · rfl
      · rfl

theorem runParts_map (rs : List (Regex κ)) (prev : Option α) (rest : List α) :
    runParts acc rs (prev.map f) (rest.map f) =
      (runParts (through f acc) rs prev rest).map (mapParts f) := by
  induction rs generalizing prev rest with
  | nil => rfl
  | cons r rs ih =>
      rw [runParts, runParts, run_map, List.flatMap_map, List.map_flatMap]
      apply List.flatMap_congr
      rintro ⟨u, later⟩ -
      rw [List.map_map]
      change (runParts acc rs ((u.map f).getLast?.or (prev.map f)) (later.map f)).map _ = _
      rw [getLast?_map_or, ih, List.map_map]
      apply List.map_congr_left
      rintro ⟨vs, last⟩ -
      simp [mapParts, mapMatch]

theorem flatten_map_map (us : List (List α)) :
    (us.map (List.map f)).flatten = us.flatten.map f := by
  rw [List.map_flatten]

theorem tokensFrom_map (pattern : Pattern κ) (n : Nat) (prev : Option α) (rest : List α) :
    tokensFrom acc pattern n (prev.map f) (rest.map f) =
      (tokensFrom (through f acc) pattern n prev rest).map (Token.map f) := by
  induction n generalizing prev rest with
  | zero =>
      rw [tokensFrom, tokensFrom, List.map_map, List.map_map]
      rfl
  | succ n ih =>
      cases rest with
      | nil => rfl
      | cons a rest =>
          have hruns := runParts_map f acc pattern.parts prev (a :: rest)
          rw [List.map_cons] at hruns
          rw [List.map_cons, tokensFrom, tokensFrom, hruns]
          cases runParts (through f acc) pattern.parts prev (a :: rest) with
          | nil =>
              change _ :: tokensFrom acc pattern n ((some a).map f) (rest.map f) = _
              rw [ih]
              rfl
          | cons m ms =>
              change _ :: tokensFrom acc pattern n
                ((m.1.map (List.map f)).flatten.getLast?.or (prev.map f)) (m.2.map f) = _
              rw [flatten_map_map, getLast?_map_or, ih]
              rfl

/-- A view is scanned like the text. -/
theorem tokens_map (pattern : Pattern κ) (text : List α) :
    tokens acc pattern (text.map f) = (tokens (through f acc) pattern text).map (Token.map f) := by
  unfold tokens
  rw [List.length_map]
  exact tokensFrom_map f acc pattern text.length none text

/-- The view of a rewritten text is the rewritten view. -/
theorem map_replaceAll {pattern : Pattern κ} {replacement : List (List α) → List α}
    {replacement' : List (List β) → List β}
    (hreplacement : ∀ us, (replacement us).map f = replacement' (us.map (List.map f)))
    (text : List α) :
    (replaceAll (through f acc) pattern replacement text).map f =
      replaceAll acc pattern replacement' (text.map f) := by
  unfold replaceAll
  rw [tokens_map, List.map_flatMap, List.flatMap_map]
  apply List.flatMap_congr
  intro token _
  cases token with
  | skip a => rfl
  | hit us => exact hreplacement us

variable {f acc}

/-- Classes that agree on the text scan it alike. -/
theorem tokens_congr {acc acc' : κ → α → Bool} {pattern : Pattern κ} {text : List α}
    (h : ∀ a ∈ text, ∀ k, acc k a = acc' k a) :
    tokens acc pattern text = tokens acc' pattern text := by
  have hview : text.attach.map Subtype.val = text := List.attach_map_subtype_val text
  have hsame : through (Subtype.val : {a // a ∈ text} → α) acc = through Subtype.val acc' := by
    funext k a
    exact h a.val a.property k
  rw [← hview, tokens_map, tokens_map, hsame]

/-- Classes that agree on the text rewrite it alike. -/
theorem replaceAll_congr {acc acc' : κ → α → Bool} {pattern : Pattern κ} {text : List α}
    (h : ∀ a ∈ text, ∀ k, acc k a = acc' k a) (replacement : List (List α) → List α) :
    replaceAll acc pattern replacement text = replaceAll acc' pattern replacement text := by
  unfold replaceAll
  rw [tokens_congr h]

end Regex
