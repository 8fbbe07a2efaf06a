import AuthClaw.Library.Rewriting

/-!
# Matches around placeholders

A pass replaces the matches of a pattern by a bracketed placeholder.  An expression
that does not reach through the brackets matches the rewritten text inside one window:
the text between two matches of the pass, with the placeholders on its two sides.

Main results:

- Theorem {lit}`matches_seqs_append`: a sequence matches part by part.
- Theorem {lit}`occursThen_iff_window`: the windows of a rewritten text have the matches
  that the text has.
- Theorem {lit}`any_isHit_tokens_iff`: a scan makes a hit exactly when its pattern
  occurs.
-/

namespace Regex

variable {κ α : Type} {acc : κ → α → Bool}

/-! ## Matches and what follows them -/

section

variable (acc)

/-- The expression matches somewhere, and what follows has a property. -/
def OccursThen (r : Regex κ) (rest : List α → Prop) (text : List α) : Prop :=
  ∃ before v after, text = before ++ v ++ after ∧
    Matches acc r before.getLast? v after.head? ∧ rest after

end

theorem matches_seqs_cons {r : Regex κ} {rs : List (Regex κ)} {p q : Option α} {u : List α} :
    Matches acc (seqs (r :: rs)) p u q ↔
      ∃ v w, u = v ++ w ∧ Matches acc r p v (w.head?.or q) ∧
        Matches acc (seqs rs) (v.getLast?.or p) w q := by
  cases rs with
  | nil =>
      constructor
      · intro h
        exact ⟨u, [], (List.append_nil u).symm, h, rfl⟩
      · rintro ⟨v, w, rfl, hr, hw⟩
        change w = [] at hw
        subst hw
        rw [List.append_nil]
        exact hr
  | cons s rs => exact Iff.rfl

/-- A sequence matches part by part. -/
theorem matches_seqs_append {rs ss : List (Regex κ)} {p q : Option α} {u : List α} :
    Matches acc (seqs (rs ++ ss)) p u q ↔
      ∃ v w, u = v ++ w ∧ Matches acc (seqs rs) p v (w.head?.or q) ∧
        Matches acc (seqs ss) (v.getLast?.or p) w q := by
  induction rs generalizing p u with
  | nil =>
      constructor
      · intro h
        exact ⟨[], u, rfl, rfl, h⟩
      · rintro ⟨v, w, rfl, hv, hw⟩
        change v = [] at hv
        subst hv
        exact hw
  | cons r rs ih =>
      rw [List.cons_append, matches_seqs_cons]
      constructor
      · rintro ⟨v, x, rfl, hr, hx⟩
        rcases ih.mp hx with ⟨w, y, rfl, hw, hy⟩
        refine ⟨v ++ w, y, by rw [List.append_assoc], ?_, ?_⟩
        · rw [head?_append_or] at hr
          exact matches_seqs_cons.mpr ⟨v, w, rfl, hr, hw⟩
        · rw [getLast?_append_or]
          exact hy
      · rintro ⟨x, y, rfl, hx, hy⟩
        rcases matches_seqs_cons.mp hx with ⟨v, w, rfl, hr, hw⟩
        refine ⟨v, w ++ y, by rw [List.append_assoc], ?_, ?_⟩
        · rw [head?_append_or]
          exact hr
        · rw [getLast?_append_or] at hy
          exact ih.mpr ⟨w, y, rfl, hw, hy⟩

/-! ## Windows -/

/-- The token is a match. -/
def Token.isHit : Token α → Bool
  | .skip _ => false
  | .hit _ => true

/-- The windows of a scan that goes on in the window `current`. -/
def windowsFrom (placeholder : List α) : List α → List (Token α) → List (List α)
  | current, [] => [current]
  | current, .skip a :: toks => windowsFrom placeholder (current ++ [a]) toks
  | current, .hit _ :: toks =>
      (current ++ placeholder) :: windowsFrom placeholder placeholder toks

/-- The texts between the matches of a scan, each with the placeholders beside it. -/
def windows (placeholder : List α) (toks : List (Token α)) : List (List α) :=
  if toks.any Token.isHit then windowsFrom placeholder [] toks else []

/-- A text without the bracket lies on one side of it. -/
theorem split_at_bracket {b v a s t : List α} {c : α} (h : b ++ v ++ a = s ++ c :: t)
    (hc : c ∉ v) :
    (∃ z, s = b ++ v ++ z ∧ a = z ++ c :: t) ∨ ∃ z, b = s ++ c :: z ∧ t = z ++ v ++ a := by
  rcases List.append_eq_append_iff.mp h with ⟨z, hs, ha⟩ | ⟨z, hbv, hct⟩
  · exact Or.inl ⟨z, hs, ha⟩
  · cases z with
    | nil =>
        left
        exact ⟨[], by simpa using hbv.symm, by simpa using hct.symm⟩
    | cons d z =>
        rw [List.cons_append, List.cons.injEq] at hct
        rcases hct with ⟨rfl, rfl⟩
        rcases List.append_eq_append_iff.mp hbv with ⟨y, hs, hvy⟩ | ⟨y, hb, hcy⟩
        · exact absurd (by rw [hvy]; simp) hc
        · cases y with
          | nil =>
              rw [List.nil_append] at hcy
              exact absurd (by rw [← hcy]; simp) hc
          | cons e y =>
              rw [List.cons_append, List.cons.injEq] at hcy
              rcases hcy with ⟨rfl, rfl⟩
              exact Or.inr ⟨y, hb, rfl⟩

theorem head?_append_cons (z t t' : List α) (c : α) :
    (z ++ c :: t).head? = (z ++ c :: t').head? := by
  cases z with
  | nil => rfl
  | cons d z => rfl

theorem getLast?_append_cons (s s' z : List α) (c : α) :
    (s ++ c :: z).getLast? = (s' ++ c :: z).getLast? := by
  rw [List.getLast?_append_cons, List.getLast?_append_cons]

/-- The placeholder has two brackets that the expression does not accept, there is no
room for a match outside of them, and whether a match counts does not depend on what
stands after a placeholder. -/
structure Brackets (acc : κ → α → Bool) (r : Regex κ) (rest : List α → Prop)
    (placeholder pre body post : List α) (x y : α) : Prop where
  parts : placeholder = pre ++ x :: (body ++ y :: post)
  opening : ∀ k ∈ r.classes, acc k x = false
  closing : ∀ k ∈ r.classes, acc k y = false
  shortBefore : pre.length < r.minLength
  shortAfter : post.length < r.minLength
  closed : ∀ z t, rest (z ++ y :: (post ++ t)) → rest (z ++ y :: post)
  extended : ∀ z t, rest z → rest (z ++ t)

/-- A match has no element that the classes of the expression reject. -/
theorem Matches.not_mem {r : Regex κ} {c : α} (hc : ∀ k ∈ r.classes, acc k c = false)
    {p q : Option α} {v : List α} (h : Matches acc r p v q) : c ∉ v := by
  intro hmem
  rcases h.exists_class hmem with ⟨k, hk, hacc⟩
  rw [hc k hk] at hacc
  cases hacc

section

variable {r : Regex κ} {rest : List α → Prop} {placeholder pre body post : List α} {x y : α}

/-- A match in the rewritten text is a match in a window; the induction is on the
tokens, and the brackets of a placeholder decide on which side the match lies. -/
theorem exists_windowFrom_of_occursThen
    (hbr : Brackets acc r rest placeholder pre body post x y) {toks : List (Token α)}
    {current : List α}
    (h : OccursThen acc r rest (current ++ withPlaceholder placeholder toks)) :
    ∃ window ∈ windowsFrom placeholder current toks, OccursThen acc r rest window := by
  induction toks generalizing current with
  | nil =>
      refine ⟨current, List.mem_singleton_self _, ?_⟩
      have hnil : current ++ withPlaceholder placeholder [] = current := List.append_nil current
      rw [hnil] at h
      exact h
  | cons token toks ih =>
      cases token with
      | skip a =>
          apply @ih (current ++ [a])
          rw [List.append_assoc]
          exact h
      | hit us =>
          rcases h with ⟨before, v, after, hsplit, hmatch, hrest⟩
          have hparts := hbr.parts
          have hopening : before ++ v ++ after =
              current ++ pre ++ x :: (body ++ y :: (post ++ withPlaceholder placeholder toks)) := by
            rw [← hsplit]
            change current ++ (placeholder ++ withPlaceholder placeholder toks) = _
            generalize withPlaceholder placeholder toks = later
            rw [hparts]
            simp
          rcases split_at_bracket hopening (hmatch.not_mem hbr.opening) with
            ⟨z, hcurrent, hafter⟩ | ⟨z, hbefore, hclosing⟩
          · -- the match ends before the placeholder's brackets
            refine ⟨current ++ placeholder, List.mem_cons_self, before, v,
              z ++ x :: (body ++ y :: post), ?_, ?_, ?_⟩
            · rw [hparts, ← List.append_assoc, hcurrent, List.append_assoc]
            · rw [hafter, head?_append_cons z _ (body ++ y :: post)] at hmatch
              exact hmatch
            · have hkept := hbr.closed (z ++ x :: body) (withPlaceholder placeholder toks)
              simp only [List.append_assoc, List.cons_append] at hkept
              exact hkept (hafter ▸ hrest)
          · rcases split_at_bracket hclosing.symm (hmatch.not_mem hbr.closing) with
              ⟨z', hbody, hafter⟩ | ⟨z', hz, hout⟩
            · -- the match lies between the brackets
              refine ⟨current ++ placeholder, List.mem_cons_self, before, v,
                z' ++ y :: post, ?_, ?_, ?_⟩
              · rw [hparts, hbefore, hbody]
                simp
              · rw [hafter, head?_append_cons z' _ post] at hmatch
                exact hmatch
              · exact hbr.closed z' _ (hafter ▸ hrest)
            · -- the match begins after the brackets
              have hlater : OccursThen acc r rest
                  (placeholder ++ withPlaceholder placeholder toks) := by
                refine ⟨pre ++ x :: (body ++ y :: z'), v, after, ?_, ?_, hrest⟩
                · generalize withPlaceholder placeholder toks = later at hout
                  rw [hparts, List.append_assoc, List.cons_append, List.append_assoc,
                    List.cons_append, hout]
                  simp
                · rw [hbefore, hz] at hmatch
                  have hlast := getLast?_append_cons (current ++ pre ++ x :: body)
                    (pre ++ x :: body) z' y
                  simp only [List.append_assoc, List.cons_append] at hlast hmatch
                  rw [hlast] at hmatch
                  exact hmatch
              rcases ih hlater with ⟨window, hmem, hoccurs⟩
              exact ⟨window, List.mem_cons_of_mem _ hmem, hoccurs⟩

/-- A match stays one when text is put before a placeholder. -/
theorem occursThen_of_before (hbr : Brackets acc r rest placeholder pre body post x y)
    {later : List α} (h : OccursThen acc r rest (placeholder ++ later)) (current : List α) :
    OccursThen acc r rest (current ++ (placeholder ++ later)) := by
  rcases h with ⟨before, v, after, hsplit, hmatch, hrest⟩
  refine ⟨current ++ before, v, after, by rw [hsplit]; simp, ?_, hrest⟩
  cases before with
  | cons b before =>
      rw [List.getLast?_append_of_ne_nil _ (by simp)]
      exact hmatch
  | nil =>
      -- a match at the start has no room before the brackets
      exfalso
      have hlong := hmatch.minLength_le
      have hshort := hbr.shortBefore
      have hopening : [] ++ v ++ after = pre ++ x :: (body ++ y :: (post ++ later)) := by
        rw [← hsplit, hbr.parts]
        simp
      rcases split_at_bracket hopening (hmatch.not_mem hbr.opening) with ⟨z, hpre, -⟩ | ⟨z, hnil, -⟩
      · rw [hpre, List.length_append, List.length_append] at hshort
        omega
      · simp at hnil

/-- A match stays one when text is put after a placeholder. -/
theorem occursThen_of_after (hbr : Brackets acc r rest placeholder pre body post x y)
    {current : List α} (h : OccursThen acc r rest (current ++ placeholder)) (later : List α) :
    OccursThen acc r rest (current ++ (placeholder ++ later)) := by
  rcases h with ⟨before, v, after, hsplit, hmatch, hrest⟩
  refine ⟨before, v, after ++ later, ?_, ?_, hbr.extended after later hrest⟩
  · rw [← List.append_assoc, hsplit, List.append_assoc]
  · cases after with
    | cons a after => exact hmatch
    | nil =>
        -- a match at the end has no room after the brackets
        exfalso
        have hlong := hmatch.minLength_le
        have hshort := hbr.shortAfter
        have hclosing : before ++ v ++ [] = current ++ pre ++ x :: body ++ y :: post := by
          rw [← hsplit, hbr.parts]
          simp
        rcases split_at_bracket hclosing (hmatch.not_mem hbr.closing) with
          ⟨z, -, hnil⟩ | ⟨z, -, hpost⟩
        · simp at hnil
        · rw [hpost, List.append_nil, List.length_append] at hshort
          omega

/-- A match in a window is a match in the rewritten text. -/
theorem occursThen_of_windowFrom (hbr : Brackets acc r rest placeholder pre body post x y)
    {toks : List (Token α)} {current window : List α}
    (hmem : window ∈ windowsFrom placeholder current toks) (h : OccursThen acc r rest window) :
    OccursThen acc r rest (current ++ withPlaceholder placeholder toks) := by
  induction toks generalizing current with
  | nil =>
      rw [windowsFrom, List.mem_singleton] at hmem
      have hnil : current ++ withPlaceholder placeholder [] = current := List.append_nil current
      rw [hnil, ← hmem]
      exact h
  | cons token toks ih =>
      cases token with
      | skip a =>
          have hlater := ih hmem
          rw [List.append_assoc] at hlater
          exact hlater
      | hit us =>
          change OccursThen acc r rest
            (current ++ (placeholder ++ withPlaceholder placeholder toks))
          rcases List.mem_cons.mp hmem with rfl | hmem
          · exact occursThen_of_after hbr h _
          · exact occursThen_of_before hbr (ih hmem) current

/-- The windows of a rewritten text have the matches that the text has. -/
theorem occursThen_iff_window (hbr : Brackets acc r rest placeholder pre body post x y)
    {toks : List (Token α)} (hhit : toks.any Token.isHit = true) :
    OccursThen acc r rest (withPlaceholder placeholder toks) ↔
      ∃ window ∈ windows placeholder toks, OccursThen acc r rest window := by
  unfold windows
  rw [if_pos hhit]
  constructor
  · exact fun h => @exists_windowFrom_of_occursThen _ _ _ _ _ _ _ _ _ _ _ hbr toks [] h
  · rintro ⟨window, hmem, h⟩
    exact occursThen_of_windowFrom hbr hmem h

end

/-! ## Passes without a match -/

theorem any_isHit_iff {toks : List (Token α)} :
    toks.any Token.isHit = true ↔ ∃ us, Token.hit us ∈ toks := by
  rw [List.any_eq_true]
  constructor
  · rintro ⟨token, hmem, hhit⟩
    cases token with
    | skip a => cases hhit
    | hit us => exact ⟨us, hmem⟩
  · rintro ⟨us, hmem⟩
    exact ⟨.hit us, hmem, rfl⟩

theorem any_isHit_tokens_iff {pattern : Pattern κ} {text : List α} :
    (tokens acc pattern text).any Token.isHit = true ↔ Occurs acc pattern text :=
  any_isHit_iff.trans (exists_hit_iff pattern text)

instance (pattern : Pattern κ) (text : List α) : Decidable (Occurs acc pattern text) :=
  decidable_of_iff _ any_isHit_tokens_iff

end Regex
