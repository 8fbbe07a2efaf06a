import Mathlib.Algebra.GroupWithZero.Nat
import Mathlib.Data.List.Basic
import Mathlib.Tactic.Common

/-!
# Regular expressions with backtracking

Regular expressions over a type of character classes, with the priorities of a
backtracking matcher: an alternative is tried from the left, a greedy repetition
takes as much as it can and a lazy one as little.  Texts are lists over any type
whose elements the classes accept or reject, so that a text may carry more than its
characters.

A pattern is a sequence of parts, which are the groups a replacement can refer to.

Main results:

- Theorem {lit}`mem_run_iff`: the matcher finds exactly the ways to match a prefix.
- Theorem {lit}`scan_tokens`: the scan takes a match wherever there is one.
- Theorem {lit}`exists_hit_iff`: a scan hits exactly when the pattern occurs.
- Theorem {lit}`replaceAll_of_not_occurs`: a text without an occurrence is unchanged.
-/

/-- Regular expressions over the classes `κ`. -/
inductive Regex (κ : Type) where
  | empty
  | one (k : κ)
  | seq (r s : Regex κ)
  | alt (r s : Regex κ)
  | many (k : κ) (greedy : Bool)
  | boundary (k : κ)
  | notBefore (k : κ)
  | notAfter (k : κ)
deriving DecidableEq

namespace Regex

variable {κ α : Type}

/-! ## Derived forms -/

/-- `r?` -/
def opt (r : Regex κ) : Regex κ :=
  .alt r .empty

/-- `r{n}` -/
def pow (r : Regex κ) : Nat → Regex κ
  | 0 => .empty
  | n + 1 => .seq r (pow r n)

/-- `r{0,n}` -/
def upTo (r : Regex κ) : Nat → Regex κ
  | 0 => .empty
  | n + 1 => opt (.seq r (upTo r n))

/-- `r{m,n}` -/
def between (r : Regex κ) (m n : Nat) : Regex κ :=
  .seq (pow r m) (upTo r (n - m))

/-- `[k]{n,}` -/
def atLeast (k : κ) (n : Nat) : Regex κ :=
  .seq (pow (.one k) n) (.many k true)

/-- One after the other. -/
def seqs : List (Regex κ) → Regex κ
  | [] => .empty
  | [r] => r
  | r :: rs => .seq r (seqs rs)

/-- One of several. -/
def alts : List (Regex κ) → Regex κ
  | [] => .empty
  | [r] => r
  | r :: rs => .alt r (alts rs)

/-! ## The matcher -/

section

variable (acc : κ → α → Bool)

/-- The class accepts the neighbour, if there is one. -/
def at? (k : κ) : Option α → Bool
  | none => false
  | some a => acc k a

/-- The ways to take a run of accepted characters, longest first. -/
def longest (k : κ) : List α → List (List α × List α)
  | [] => [([], [])]
  | a :: rest =>
      if acc k a then (longest k rest).map (fun m => (a :: m.1, m.2)) ++ [([], a :: rest)]
      else [([], a :: rest)]

/-- The ways to take a run of accepted characters, shortest first. -/
def shortest (k : κ) : List α → List (List α × List α)
  | [] => [([], [])]
  | a :: rest =>
      if acc k a then ([], a :: rest) :: (shortest k rest).map (fun m => (a :: m.1, m.2))
      else [([], a :: rest)]

/-- The ways to match a prefix of a text after the character `prev`, in the order
the matcher tries them: what is matched and what remains. -/
def run : Regex κ → Option α → List α → List (List α × List α)
  | .empty, _, rest => [([], rest)]
  | .one _, _, [] => []
  | .one k, _, a :: rest => if acc k a then [([a], rest)] else []
  | .seq r s, prev, rest =>
      (run r prev rest).flatMap (fun m =>
        (run s (m.1.getLast?.or prev) m.2).map (fun n => (m.1 ++ n.1, n.2)))
  | .alt r s, prev, rest => run r prev rest ++ run s prev rest
  | .many k greedy, _, rest => if greedy then longest acc k rest else shortest acc k rest
  | .boundary k, prev, rest =>
      if at? acc k prev != at? acc k rest.head? then [([], rest)] else []
  | .notBefore k, _, rest => if at? acc k rest.head? then [] else [([], rest)]
  | .notAfter k, prev, rest => if at? acc k prev then [] else [([], rest)]

/-- The expression matches the text between two neighbours. -/
def Matches : Regex κ → Option α → List α → Option α → Prop
  | .empty, _, u, _ => u = []
  | .one k, _, u, _ => ∃ a, u = [a] ∧ acc k a = true
  | .seq r s, p, u, q =>
      ∃ v w, u = v ++ w ∧ Matches r p v (w.head?.or q) ∧ Matches s (v.getLast?.or p) w q
  | .alt r s, p, u, q => Matches r p u q ∨ Matches s p u q
  | .many k _, _, u, _ => ∀ a ∈ u, acc k a = true
  | .boundary k, p, u, q => u = [] ∧ at? acc k p ≠ at? acc k q
  | .notBefore k, _, u, q => u = [] ∧ at? acc k q = false
  | .notAfter k, p, u, _ => u = [] ∧ at? acc k p = false

variable {acc}

theorem mem_longest_iff {k : κ} {rest u rest' : List α} :
    (u, rest') ∈ longest acc k rest ↔ rest = u ++ rest' ∧ ∀ a ∈ u, acc k a = true := by
  induction rest generalizing u with
  | nil =>
      constructor
      · intro h
        rw [longest, List.mem_singleton, Prod.mk.injEq] at h
        rcases h with ⟨rfl, rfl⟩
        simp
      · rintro ⟨h, -⟩
        have hboth := List.append_eq_nil_iff.mp h.symm
        rw [hboth.1, hboth.2]
        simp [longest]
  | cons a rest ih =>
      unfold longest
      by_cases ha : acc k a = true
      · rw [if_pos ha]
        constructor
        · intro h
          rcases List.mem_append.mp h with h | h
          · rcases List.mem_map.mp h with ⟨⟨v, rest''⟩, hm, heq⟩
            rw [Prod.mk.injEq] at heq
            rcases heq with ⟨rfl, rfl⟩
            rcases ih.mp hm with ⟨hsplit, hall⟩
            refine ⟨by rw [hsplit]; rfl, ?_⟩
            intro b hb
            rcases List.mem_cons.mp hb with rfl | hb
            · exact ha
            · exact hall b hb
          · rw [List.mem_singleton, Prod.mk.injEq] at h
            rcases h with ⟨rfl, rfl⟩
            simp
        · rintro ⟨hsplit, hall⟩
          cases u with
          | nil =>
              apply List.mem_append_right
              simpa using hsplit.symm
          | cons b u =>
              rw [List.cons_append, List.cons.injEq] at hsplit
              rcases hsplit with ⟨rfl, hsplit⟩
              apply List.mem_append_left
              refine List.mem_map.mpr ⟨(u, rest'), ?_, rfl⟩
              exact ih.mpr ⟨hsplit, fun c hc => hall c (by simp [hc])⟩
      · rw [if_neg ha]
        constructor
        · intro h
          rw [List.mem_singleton, Prod.mk.injEq] at h
          rcases h with ⟨rfl, rfl⟩
          simp
        · rintro ⟨hsplit, hall⟩
          cases u with
          | nil => simpa using hsplit.symm
          | cons b u =>
              rw [List.cons_append, List.cons.injEq] at hsplit
              rcases hsplit with ⟨rfl, -⟩
              exact absurd (hall a (by simp)) ha

/-- The two orders try the same runs. -/
theorem mem_shortest_iff {k : κ} {rest : List α} {m : List α × List α} :
    m ∈ shortest acc k rest ↔ m ∈ longest acc k rest := by
  induction rest generalizing m with
  | nil => rfl
  | cons a rest ih =>
      unfold shortest longest
      by_cases ha : acc k a = true
      · rw [if_pos ha, if_pos ha, List.mem_cons, List.mem_append, List.mem_singleton, or_comm]
        simp only [List.mem_map, ih]
      · rw [if_neg ha, if_neg ha]

theorem head?_append_or (u v : List α) (q : Option α) :
    (u ++ v).head?.or q = u.head?.or (v.head?.or q) := by
  cases u with
  | nil => rfl
  | cons a u => rfl

theorem getLast?_append_or (u v : List α) (p : Option α) :
    (u ++ v).getLast?.or p = v.getLast?.or (u.getLast?.or p) := by
  rw [List.getLast?_append, Option.or_assoc]

/-- The matcher finds exactly the ways to match a prefix. -/
theorem mem_run_iff {r : Regex κ} {p : Option α} {rest u rest' : List α} :
    (u, rest') ∈ run acc r p rest ↔ rest = u ++ rest' ∧ Matches acc r p u rest'.head? := by
  induction r generalizing p rest u rest' with
  | empty =>
      simp only [run, Matches, List.mem_singleton, Prod.mk.injEq]
      constructor
      · rintro ⟨rfl, rfl⟩
        simp
      · rintro ⟨rfl, rfl⟩
        simp
  | one k =>
      cases rest with
      | nil =>
          simp only [run, Matches, List.not_mem_nil, false_iff, not_and, not_exists]
          intro hsplit a hu _
          rw [hu] at hsplit
          cases hsplit
      | cons a rest =>
          unfold run Matches
          by_cases ha : acc k a = true
          · rw [if_pos ha, List.mem_singleton, Prod.mk.injEq]
            constructor
            · rintro ⟨rfl, rfl⟩
              exact ⟨rfl, a, rfl, ha⟩
            · rintro ⟨hsplit, b, rfl, -⟩
              rw [List.singleton_append, List.cons.injEq] at hsplit
              rw [hsplit.1, hsplit.2]
              exact ⟨rfl, rfl⟩
          · rw [if_neg ha]
            simp only [List.not_mem_nil, false_iff, not_and, not_exists]
            intro hsplit b hu hb
            rw [hu, List.singleton_append, List.cons.injEq] at hsplit
            rw [hsplit.1] at ha
            exact ha hb
  | seq r s ihr ihs =>
      unfold run Matches
      rw [List.mem_flatMap]
      constructor
      · rintro ⟨⟨v, mid⟩, hv, hmem⟩
        rcases List.mem_map.mp hmem with ⟨⟨w, rest''⟩, hw, heq⟩
        rw [Prod.mk.injEq] at heq
        rcases heq with ⟨rfl, rfl⟩
        rcases ihr.mp hv with ⟨rfl, hr⟩
        rcases ihs.mp hw with ⟨rfl, hs⟩
        refine ⟨by rw [List.append_assoc], v, w, rfl, ?_, hs⟩
        have hnext := head?_append_or w rest'' none
        rw [Option.or_none, Option.or_none] at hnext
        rw [← hnext]
        exact hr
      · rintro ⟨rfl, v, w, rfl, hr, hs⟩
        refine ⟨(v, w ++ rest'), ihr.mpr ⟨by rw [List.append_assoc], ?_⟩, ?_⟩
        · have hnext := head?_append_or w rest' none
          rw [Option.or_none, Option.or_none] at hnext
          rw [hnext]
          exact hr
        · exact List.mem_map.mpr ⟨(w, rest'), ihs.mpr ⟨rfl, hs⟩, rfl⟩
  | alt r s ihr ihs =>
      unfold run Matches
      rw [List.mem_append, ihr, ihs, ← and_or_left]
  | many k greedy =>
      unfold run Matches
      cases greedy with
      | true => exact mem_longest_iff
      | false => exact mem_shortest_iff.trans mem_longest_iff
  | boundary k =>
      unfold run Matches
      by_cases hb : at? acc k p = at? acc k rest.head?
      · rw [if_neg (by simp [hb])]
        simp only [List.not_mem_nil, false_iff, not_and]
        rintro rfl rfl hne
        exact hne hb
      · rw [if_pos (by simpa using hb), List.mem_singleton, Prod.mk.injEq]
        constructor
        · rintro ⟨rfl, rfl⟩
          exact ⟨rfl, rfl, hb⟩
        · rintro ⟨rfl, rfl, -⟩
          exact ⟨rfl, rfl⟩
  | notBefore k =>
      unfold run Matches
      cases hb : at? acc k rest.head? with
      | true =>
          simp only [if_true, List.not_mem_nil, false_iff, not_and]
          rintro rfl rfl hnext
          rw [List.nil_append, hnext] at hb
          cases hb
      | false =>
          simp only [Bool.false_eq_true, if_false, List.mem_singleton, Prod.mk.injEq]
          constructor
          · rintro ⟨rfl, rfl⟩
            exact ⟨rfl, rfl, hb⟩
          · rintro ⟨rfl, rfl, -⟩
            exact ⟨rfl, rfl⟩
  | notAfter k =>
      unfold run Matches
      cases hb : at? acc k p with
      | true => simp
      | false =>
          simp only [Bool.false_eq_true, if_false, List.mem_singleton, Prod.mk.injEq, and_true]
          constructor
          · rintro ⟨rfl, rfl⟩
            exact ⟨rfl, rfl⟩
          · rintro ⟨rfl, rfl⟩
            exact ⟨rfl, rfl⟩

end

/-! ## Patterns -/

/-- The least number of characters an expression matches. -/
def minLength : Regex κ → Nat
  | .empty => 0
  | .one _ => 1
  | .seq r s => minLength r + minLength s
  | .alt r s => min (minLength r) (minLength s)
  | .many _ _ => 0
  | .boundary _ => 0
  | .notBefore _ => 0
  | .notAfter _ => 0

variable {acc : κ → α → Bool}

theorem Matches.minLength_le {r : Regex κ} {p q : Option α} {u : List α}
    (h : Matches acc r p u q) : r.minLength ≤ u.length := by
  induction r generalizing p q u with
  | one k =>
      rcases h with ⟨a, rfl, -⟩
      exact Nat.le_refl 1
  | seq r s ihr ihs =>
      rcases h with ⟨v, w, rfl, hr, hs⟩
      rw [List.length_append]
      exact Nat.add_le_add (ihr hr) (ihs hs)
  | alt r s ihr ihs =>
      rcases h with h | h
      · exact Nat.le_trans (Nat.min_le_left _ _) (ihr h)
      · exact Nat.le_trans (Nat.min_le_right _ _) (ihs h)
  | empty => exact Nat.zero_le _
  | many k greedy => exact Nat.zero_le _
  | boundary k => exact Nat.zero_le _
  | notBefore k => exact Nat.zero_le _
  | notAfter k => exact Nat.zero_le _

/-- A sequence of parts that cannot match the empty text. -/
structure Pattern (κ : Type) where
  parts : List (Regex κ)
  consuming : 1 ≤ (parts.map minLength).sum

/-- A pattern without groups. -/
def Pattern.ofRegex (r : Regex κ) (h : 1 ≤ r.minLength) : Pattern κ where
  parts := [r]
  consuming := by simpa using h

section

variable (acc)

/-- The ways to match the parts, one after the other. -/
def runParts : List (Regex κ) → Option α → List α → List (List (List α) × List α)
  | [], _, rest => [([], rest)]
  | r :: rs, prev, rest =>
      (run acc r prev rest).flatMap (fun m =>
        (runParts rs (m.1.getLast?.or prev) m.2).map (fun n => (m.1 :: n.1, n.2)))

/-- The parts match consecutive texts between two neighbours. -/
def MatchesParts : List (Regex κ) → Option α → List (List α) → Option α → Prop
  | [], _, us, _ => us = []
  | r :: rs, p, us, q =>
      ∃ u vs, us = u :: vs ∧ Matches acc r p u (vs.flatten.head?.or q) ∧
        MatchesParts rs (u.getLast?.or p) vs q

variable {acc}

theorem mem_runParts_iff {rs : List (Regex κ)} {p : Option α} {rest rest' : List α}
    {us : List (List α)} :
    (us, rest') ∈ runParts acc rs p rest ↔
      rest = us.flatten ++ rest' ∧ MatchesParts acc rs p us rest'.head? := by
  induction rs generalizing p rest us rest' with
  | nil =>
      simp only [runParts, MatchesParts, List.mem_singleton, Prod.mk.injEq]
      constructor
      · rintro ⟨rfl, rfl⟩
        simp
      · rintro ⟨rfl, rfl⟩
        simp
  | cons r rs ih =>
      unfold runParts MatchesParts
      rw [List.mem_flatMap]
      constructor
      · rintro ⟨⟨u, mid⟩, hu, hmem⟩
        rcases List.mem_map.mp hmem with ⟨⟨vs, rest''⟩, hvs, heq⟩
        rw [Prod.mk.injEq] at heq
        rcases heq with ⟨rfl, rfl⟩
        rcases mem_run_iff.mp hu with ⟨rfl, hr⟩
        rcases ih.mp hvs with ⟨rfl, hrs⟩
        refine ⟨by rw [List.flatten_cons, List.append_assoc], u, vs, rfl, ?_, hrs⟩
        have hnext := head?_append_or vs.flatten rest'' none
        rw [Option.or_none, Option.or_none] at hnext
        rw [← hnext]
        exact hr
      · rintro ⟨rfl, u, vs, rfl, hr, hrs⟩
        refine ⟨(u, vs.flatten ++ rest'), mem_run_iff.mpr ⟨?_, ?_⟩, ?_⟩
        · rw [List.flatten_cons, List.append_assoc]
        · have hnext := head?_append_or vs.flatten rest' none
          rw [Option.or_none, Option.or_none] at hnext
          rw [hnext]
          exact hr
        · exact List.mem_map.mpr ⟨(vs, rest'), ih.mpr ⟨rfl, hrs⟩, rfl⟩

theorem MatchesParts.minLength_le {rs : List (Regex κ)} {p q : Option α} {us : List (List α)}
    (h : MatchesParts acc rs p us q) : (rs.map minLength).sum ≤ us.flatten.length := by
  induction rs generalizing p us with
  | nil => exact Nat.zero_le _
  | cons r rs ih =>
      rcases h with ⟨u, vs, rfl, hr, hrs⟩
      rw [List.map_cons, List.sum_cons, List.flatten_cons, List.length_append]
      exact Nat.add_le_add hr.minLength_le (ih hrs)

theorem Pattern.ne_nil_of_matches {pattern : Pattern κ} {p q : Option α} {us : List (List α)}
    (h : MatchesParts acc pattern.parts p us q) : us.flatten ≠ [] := by
  intro hnil
  have hle := Nat.le_trans pattern.consuming h.minLength_le
  rw [hnil] at hle
  exact Nat.not_succ_le_zero 0 hle

end

/-! ## Scanning -/

/-- A scanned text: characters outside of matches, and the groups of the matches. -/
inductive Token (α : Type) where
  | skip (a : α)
  | hit (groups : List (List α))
deriving DecidableEq

/-- The text of a token. -/
def Token.text : Token α → List α
  | .skip a => [a]
  | .hit groups => groups.flatten

section

variable (acc)

/-- The scan of a text after the character `prev`; the number bounds the length of
the text. -/
def tokensFrom (pattern : Pattern κ) : Nat → Option α → List α → List (Token α)
  | 0, _, rest => rest.map .skip
  | _ + 1, _, [] => []
  | n + 1, prev, a :: rest =>
      match (runParts acc pattern.parts prev (a :: rest)).head? with
      | some m => .hit m.1 :: tokensFrom pattern n (m.1.flatten.getLast?.or prev) m.2
      | none => .skip a :: tokensFrom pattern n (some a) rest

/-- The scan of a whole text. -/
def tokens (pattern : Pattern κ) (text : List α) : List (Token α) :=
  tokensFrom acc pattern text.length none text

/-- The text with its matches rewritten. -/
def replaceAll (pattern : Pattern κ) (replacement : List (List α) → List α)
    (text : List α) : List α :=
  (tokens acc pattern text).flatMap (fun token =>
    match token with
    | .skip a => [a]
    | .hit groups => replacement groups)

/-- What a scan does: it skips a character only where no match starts. -/
inductive Scan (pattern : Pattern κ) : Option α → List α → List (Token α) → Prop
  | nil (prev : Option α) : Scan pattern prev [] []
  | skip {prev : Option α} {a : α} {rest : List α} {toks : List (Token α)}
      (hnone : ∀ us rest', a :: rest = us.flatten ++ rest' →
        ¬ MatchesParts acc pattern.parts prev us rest'.head?)
      (hscan : Scan pattern (some a) rest toks) : Scan pattern prev (a :: rest) (.skip a :: toks)
  | hit {prev : Option α} {us : List (List α)} {rest : List α} {toks : List (Token α)}
      (hmatch : MatchesParts acc pattern.parts prev us rest.head?)
      (hscan : Scan pattern (us.flatten.getLast?.or prev) rest toks) :
      Scan pattern prev (us.flatten ++ rest) (.hit us :: toks)

variable {acc}

theorem scan_tokensFrom (pattern : Pattern κ) {n : Nat} {prev : Option α} {rest : List α}
    (hlength : rest.length ≤ n) :
    Scan acc pattern prev rest (tokensFrom acc pattern n prev rest) := by
  induction n generalizing prev rest with
  | zero =>
      have hnil : rest = [] := List.eq_nil_of_length_eq_zero (Nat.le_zero.mp hlength)
      subst hnil
      exact Scan.nil prev
  | succ n ih =>
      cases rest with
      | nil => exact Scan.nil prev
      | cons a rest =>
          unfold tokensFrom
          cases hrun : runParts acc pattern.parts prev (a :: rest) with
          | nil =>
              refine Scan.skip ?_ (ih (Nat.le_of_succ_le_succ hlength))
              intro us rest' hsplit hmatch
              have hmem := mem_runParts_iff.mpr ⟨hsplit, hmatch⟩
              rw [hrun] at hmem
              cases hmem
          | cons m ms =>
              rcases m with ⟨us, rest'⟩
              have hmem : (us, rest') ∈ runParts acc pattern.parts prev (a :: rest) := by
                rw [hrun]
                exact List.mem_cons_self
              rcases mem_runParts_iff.mp hmem with ⟨hsplit, hmatch⟩
              have hpos := List.length_pos_of_ne_nil (Pattern.ne_nil_of_matches hmatch)
              have hshorter : rest'.length ≤ n := by
                have hlen := congrArg List.length hsplit
                rw [List.length_append] at hlen
                omega
              rw [hsplit]
              exact Scan.hit hmatch (ih hshorter)

/-- The scan takes a match wherever there is one. -/
theorem scan_tokens (pattern : Pattern κ) (text : List α) :
    Scan acc pattern none text (tokens acc pattern text) :=
  scan_tokensFrom pattern (Nat.le_refl _)

/-- The tokens make up the text. -/
theorem Scan.flatMap_text {pattern : Pattern κ} {prev : Option α} {rest : List α}
    {toks : List (Token α)} (h : Scan acc pattern prev rest toks) :
    toks.flatMap Token.text = rest := by
  induction h with
  | nil prev => rfl
  | skip hnone hscan ih =>
      rw [List.flatMap_cons, ih]
      rfl
  | hit hmatch hscan ih =>
      rw [List.flatMap_cons, ih]
      rfl

/-- Every hit of a scan is a match. -/
theorem Scan.matches_of_mem {pattern : Pattern κ} {prev : Option α} {rest : List α}
    {toks : List (Token α)} (h : Scan acc pattern prev rest toks) {us : List (List α)}
    (hmem : Token.hit us ∈ toks) : ∃ p q, MatchesParts acc pattern.parts p us q := by
  induction h with
  | nil prev => cases hmem
  | skip hnone hscan ih =>
      rcases List.mem_cons.mp hmem with heq | hmem
      · cases heq
      · exact ih hmem
  | hit hmatch hscan ih =>
      rcases List.mem_cons.mp hmem with heq | hmem
      · cases heq
        exact ⟨_, _, hmatch⟩
      · exact ih hmem

/-! ## Occurrences -/

variable (acc)

/-- The pattern matches somewhere in a text that follows the character `prev`. -/
def OccursFrom (pattern : Pattern κ) (prev : Option α) (rest : List α) : Prop :=
  ∃ before us after, rest = before ++ us.flatten ++ after ∧
    MatchesParts acc pattern.parts (before.getLast?.or prev) us after.head?

/-- The pattern matches somewhere in the text. -/
def Occurs (pattern : Pattern κ) (text : List α) : Prop :=
  OccursFrom acc pattern none text

variable {acc}

/-- A scan hits exactly when the pattern occurs. -/
theorem Scan.exists_hit_iff {pattern : Pattern κ} {prev : Option α} {rest : List α}
    {toks : List (Token α)} (h : Scan acc pattern prev rest toks) :
    (∃ us, Token.hit us ∈ toks) ↔ OccursFrom acc pattern prev rest := by
  constructor
  · rintro ⟨us, hmem⟩
    induction h with
    | nil prev => cases hmem
    | @skip prev a rest toks hnone hscan ih =>
        rcases List.mem_cons.mp hmem with heq | hmem
        · cases heq
        · rcases ih hmem with ⟨before, vs, after, rfl, hmatch⟩
          refine ⟨a :: before, vs, after, rfl, ?_⟩
          have hlast := getLast?_append_or [a] before prev
          rw [List.singleton_append] at hlast
          rw [hlast]
          exact hmatch
    | @hit prev vs rest toks hmatch hscan ih =>
        exact ⟨[], vs, rest, rfl, hmatch⟩
  · rintro ⟨before, us, after, hsplit, hmatch⟩
    induction h generalizing before with
    | nil prev =>
        have hnil := List.append_eq_nil_iff.mp hsplit.symm
        exact absurd (List.append_eq_nil_iff.mp hnil.1).2 (Pattern.ne_nil_of_matches hmatch)
    | @skip prev a rest toks hnone hscan ih =>
        cases before with
        | nil => exact absurd hmatch (hnone us after (by simpa using hsplit))
        | cons b before =>
            rw [List.cons_append, List.cons_append, List.cons.injEq] at hsplit
            rcases hsplit with ⟨rfl, hsplit⟩
            have hlast := getLast?_append_or [a] before prev
            rw [List.singleton_append] at hlast
            rw [hlast] at hmatch
            rcases ih before hsplit hmatch with ⟨vs, hmem⟩
            exact ⟨vs, List.mem_cons_of_mem _ hmem⟩
    | @hit prev vs rest toks hfirst hscan ih => exact ⟨vs, List.mem_cons_self⟩

theorem exists_hit_iff (pattern : Pattern κ) (text : List α) :
    (∃ us, Token.hit us ∈ tokens acc pattern text) ↔ Occurs acc pattern text :=
  (scan_tokens pattern text).exists_hit_iff

/-- A text without an occurrence is unchanged. -/
theorem replaceAll_of_not_occurs {pattern : Pattern κ} {text : List α}
    (h : ¬ Occurs acc pattern text) (replacement : List (List α) → List α) :
    replaceAll acc pattern replacement text = text := by
  have htext := (@scan_tokens κ α acc pattern text).flatMap_text
  conv_rhs => rw [← htext]
  unfold replaceAll
  apply List.flatMap_congr
  intro token hmem
  cases token with
  | skip a => rfl
  | hit us => exact absurd ((exists_hit_iff pattern text).mp ⟨us, hmem⟩) h

end

end Regex
