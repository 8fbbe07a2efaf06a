import AuthClaw.Library.CharClass
import Mathlib.Data.List.Infix

/-!
# What rewriting with a placeholder keeps out

A pass replaces every match of a pattern by one placeholder.  What is found in the
rewritten text and has no part in the placeholder was in the text before, seen
through any view of its elements.

Main results:

- Theorem {lit}`infix_of_infix_replaceAll`: a word apart from the placeholder was in
  the text before the pass.
- Theorem {lit}`countP_replaceAll_le`: a pass adds no element of a kind the
  placeholder has none of.
- Theorem {lit}`replaceAll_ne_of_occurs`: a pass changes a text in which the pattern
  occurs, when no match can begin like the placeholder.
-/

namespace Regex

variable {κ α β : Type} {acc : κ → α → Bool}

/-! ## Words -/

/-- The word and the placeholder share neither an inner part nor an end. -/
def Apart [DecidableEq β] (word placeholder : List β) : Bool :=
  word.tails.all (fun s =>
      s.isEmpty || !(s.isPrefixOf placeholder || placeholder.isPrefixOf s)) &&
    placeholder.tails.all (fun s => s.isEmpty || !(word.isPrefixOf s || s.isPrefixOf word))

theorem not_prefix_of_apart [DecidableEq β] {word placeholder s rest : List β}
    (h : Apart word placeholder = true) (hs : s <:+ word) (hne : s ≠ []) :
    ¬ s <+: placeholder ++ rest := by
  intro hbegins
  have hall := List.all_eq_true.mp (Bool.and_eq_true_iff.mp h).1 s ((List.mem_tails _ _).mpr hs)
  simp only [Bool.or_eq_true, List.isEmpty_iff, hne, false_or, Bool.not_eq_true',
    Bool.or_eq_false_iff] at hall
  rcases List.prefix_or_prefix_of_prefix hbegins (List.prefix_append placeholder rest) with
    hle | hle
  · rw [List.isPrefixOf_iff_prefix.mpr hle] at hall
    exact Bool.noConfusion hall.1
  · rw [List.isPrefixOf_iff_prefix.mpr hle] at hall
    exact Bool.noConfusion hall.2

theorem not_prefix_of_apart_tail [DecidableEq β] {word placeholder s rest : List β}
    (h : Apart word placeholder = true) (hs : s <:+ placeholder) (hne : s ≠ []) :
    ¬ word <+: s ++ rest := by
  intro hbegins
  have hall := List.all_eq_true.mp (Bool.and_eq_true_iff.mp h).2 s ((List.mem_tails _ _).mpr hs)
  simp only [Bool.or_eq_true, List.isEmpty_iff, hne, false_or, Bool.not_eq_true',
    Bool.or_eq_false_iff] at hall
  rcases List.prefix_or_prefix_of_prefix hbegins (List.prefix_append s rest) with hle | hle
  · rw [List.isPrefixOf_iff_prefix.mpr hle] at hall
    exact Bool.noConfusion hall.1
  · rw [List.isPrefixOf_iff_prefix.mpr hle] at hall
    exact Bool.noConfusion hall.2

/-- The tokens with a placeholder for each match. -/
def withPlaceholder (placeholder : List α) (toks : List (Token α)) : List α :=
  toks.flatMap (fun token =>
    match token with
    | .skip a => [a]
    | .hit _ => placeholder)

theorem replaceAll_eq_withPlaceholder (pattern : Pattern κ) (placeholder text : List α) :
    replaceAll acc pattern (fun _ => placeholder) text =
      withPlaceholder placeholder (tokens acc pattern text) :=
  rfl

section

variable [DecidableEq β] {view : α → β} {word : List β} {placeholder : List α}

/-- The end of a word that begins the rewritten text begins the text. -/
theorem prefix_of_prefix_withPlaceholder (happart : Apart word (placeholder.map view) = true)
    {toks : List (Token α)} {s : List β} (hs : s <:+ word)
    (h : s <+: (withPlaceholder placeholder toks).map view) :
    s <+: (toks.flatMap Token.text).map view := by
  induction toks generalizing s with
  | nil => exact h
  | cons token toks ih =>
      cases s with
      | nil => exact List.nil_prefix
      | cons b s =>
          cases token with
          | skip a =>
              change b :: s <+: view a :: (withPlaceholder placeholder toks).map view at h
              change b :: s <+: view a :: (toks.flatMap Token.text).map view
              rw [List.cons_prefix_cons] at h ⊢
              exact ⟨h.1, ih ((List.suffix_cons b s).trans hs) h.2⟩
          | hit us =>
              change b :: s <+: (placeholder ++ withPlaceholder placeholder toks).map view at h
              rw [List.map_append] at h
              exact absurd h (not_prefix_of_apart happart hs (by simp))

/-- A word apart from the placeholder is in the text when it is in the rewritten
text; the induction is on the tokens. -/
theorem infix_of_infix_withPlaceholder (happart : Apart word (placeholder.map view) = true)
    {toks : List (Token α)} (h : word <:+: (withPlaceholder placeholder toks).map view) :
    word <:+: (toks.flatMap Token.text).map view := by
  induction toks with
  | nil => exact h
  | cons token toks ih =>
      cases token with
      | skip a =>
          change word <:+: view a :: (withPlaceholder placeholder toks).map view at h
          change word <:+: view a :: (toks.flatMap Token.text).map view
          rcases List.infix_cons_iff.mp h with hbegins | hwithin
          · have hsame := @prefix_of_prefix_withPlaceholder α β _ view word placeholder happart
              (.skip a :: toks) word (List.suffix_refl word) hbegins
            exact hsame.isInfix
          · exact List.infix_cons (ih hwithin)
      | hit us =>
          change word <:+: (placeholder ++ withPlaceholder placeholder toks).map view at h
          change word <:+: (us.flatten ++ toks.flatMap Token.text).map view
          rw [List.map_append] at h ⊢
          apply List.infix_append_of_infix_right
          apply ih
          -- the word begins neither inside the placeholder nor at its start
          have hskip : ∀ s : List β, s <:+ placeholder.map view →
              word <:+: s ++ (withPlaceholder placeholder toks).map view →
                word <:+: (withPlaceholder placeholder toks).map view := by
            intro s
            induction s with
            | nil => exact fun _ hwithin => hwithin
            | cons b s ihs =>
                intro hs hwithin
                rw [List.cons_append] at hwithin
                rcases List.infix_cons_iff.mp hwithin with hbegins | hwithin
                · rw [← List.cons_append] at hbegins
                  exact absurd hbegins (not_prefix_of_apart_tail happart hs (by simp))
                · exact ihs ((List.suffix_cons b s).trans hs) hwithin
          exact hskip _ (List.suffix_refl _) h

/-- A word apart from the placeholder was in the text before the pass. -/
theorem infix_of_infix_replaceAll (pattern : Pattern κ)
    (happart : Apart word (placeholder.map view) = true) {text : List α}
    (h : word <:+: (replaceAll acc pattern (fun _ => placeholder) text).map view) :
    word <:+: text.map view := by
  rw [replaceAll_eq_withPlaceholder] at h
  rw [← (@scan_tokens κ α acc pattern text).flatMap_text]
  exact infix_of_infix_withPlaceholder happart h

end

/-! ## Kinds -/

/-- A pass adds no element of a kind the placeholder has none of. -/
theorem countP_replaceAll_le (pattern : Pattern κ) {kind : α → Bool} {placeholder : List α}
    (hnone : placeholder.countP kind = 0) (text : List α) :
    (replaceAll acc pattern (fun _ => placeholder) text).countP kind ≤ text.countP kind := by
  rw [replaceAll_eq_withPlaceholder]
  conv_rhs => rw [← (@scan_tokens κ α acc pattern text).flatMap_text]
  generalize tokens acc pattern text = toks
  induction toks with
  | nil => exact Nat.le_refl _
  | cons token toks ih =>
      cases token with
      | skip a =>
          change (a :: withPlaceholder placeholder toks).countP kind ≤
            (a :: toks.flatMap Token.text).countP kind
          rw [List.countP_cons, List.countP_cons]
          exact Nat.add_le_add_right ih _
      | hit us =>
          change (placeholder ++ withPlaceholder placeholder toks).countP kind ≤
            (us.flatten ++ toks.flatMap Token.text).countP kind
          rw [List.countP_append, List.countP_append, hnone]
          omega

/-! ## Changes -/

/-- A pass changes a text in which the pattern occurs, when the first characters of a
match cannot be those of the placeholder. -/
theorem replaceAll_ne_of_occurs {pattern : Pattern κ} {placeholder text : List α} {n : Nat}
    (hn : n ≤ placeholder.length)
    (hhead : ∀ p us q, MatchesParts acc pattern.parts p us q →
      n ≤ us.flatten.length ∧ us.flatten.take n ≠ placeholder.take n)
    (h : Occurs acc pattern text) :
    replaceAll acc pattern (fun _ => placeholder) text ≠ text := by
  have hhit := (exists_hit_iff pattern text).mpr h
  have hscan := @scan_tokens κ α acc pattern text
  rw [replaceAll_eq_withPlaceholder]
  generalize tokens acc pattern text = toks at hhit hscan
  clear h
  generalize (none : Option α) = prev at hscan
  induction hscan with
  | nil prev =>
      rcases hhit with ⟨us, hmem⟩
      cases hmem
  | @skip prev a rest toks hnone hscan ih =>
      change a :: withPlaceholder placeholder toks ≠ a :: rest
      intro heq
      rw [List.cons.injEq] at heq
      apply ih _ heq.2
      rcases hhit with ⟨us, hmem⟩
      exact ⟨us, by simpa using hmem⟩
  | @hit prev us rest toks hmatch hscan ih =>
      change placeholder ++ withPlaceholder placeholder toks ≠ us.flatten ++ rest
      intro heq
      rcases hhead _ _ _ hmatch with ⟨hlength, hne⟩
      apply hne
      have htake := congrArg (List.take n) heq
      rw [List.take_append_of_le_length hn, List.take_append_of_le_length hlength] at htake
      exact htake.symm

/-! ## Words at the head of a match -/

/-- Every head of the expression begins with one of the words, where `reads` tells
which element a class stands for. -/
def headsRead [DecidableEq β] (reads : κ → Option β) (n : Nat) (words : List (List β))
    (r : Regex κ) : Bool :=
  (r.heads n).all (fun ks => words.any (fun w => (w.map some).isPrefixOf (ks.map reads)))

theorem prefix_of_spells {reads : κ → Option β} {view : α → β}
    (hreads : ∀ k a b, reads k = some b → acc k a = true → view a = b) {ks : List κ} {u : List α}
    (h : Spells acc ks u) {w : List β} (hw : w.map some <+: ks.map reads) :
    w <+: u.map view := by
  induction h generalizing w with
  | nil =>
      rw [List.map_nil, List.prefix_nil, List.map_eq_nil_iff] at hw
      rw [hw]
      exact List.nil_prefix
  | @cons k a ks u ha hspells ih =>
      cases w with
      | nil => exact List.nil_prefix
      | cons b w =>
          rw [List.map_cons, List.map_cons, List.cons_prefix_cons] at hw
          rw [List.map_cons, List.cons_prefix_cons]
          exact ⟨(hreads k a b hw.1.symm ha).symm, ih hw.2⟩

/-- A match of such an expression begins with one of the words. -/
theorem Matches.exists_word [DecidableEq β] {reads : κ → Option β} {view : α → β}
    (hreads : ∀ k a b, reads k = some b → acc k a = true → view a = b) {n : Nat}
    {words : List (List β)} {r : Regex κ} (hheads : headsRead reads n words r = true)
    {p q : Option α} {u : List α} (h : Matches acc r p u q) :
    ∃ w ∈ words, w <+: u.map view := by
  rcases h.exists_head n with ⟨ks, hks, hspells⟩
  have hall := List.all_eq_true.mp hheads ks hks
  rcases List.any_eq_true.mp hall with ⟨w, hw, hbegins⟩
  refine ⟨w, hw, ?_⟩
  have htake := prefix_of_spells hreads hspells (List.isPrefixOf_iff_prefix.mp hbegins)
  rw [List.map_take] at htake
  exact htake.trans (List.take_prefix _ _)

end Regex
