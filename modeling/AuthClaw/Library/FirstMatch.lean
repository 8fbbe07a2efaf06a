import Mathlib.Data.List.Perm.Subperm
import Mathlib.Order.MinMax
import Mathlib.Tactic.Common

/-!
# First-match rules and the maximum over their verdicts

A list of rules answers every question with the verdict of the first rule that
covers it, or with a default, and the answers are combined by a maximum.  When does
the order of the rules matter?

A set of questions is an anchor when every rule that covers one of them gives the
highest verdict to one it covers.  Whatever the order, the first rule that covers a
question of an anchor then gives the highest verdict; without an anchor the lenient
rules can be moved to the front.

Main results:

- Theorem {lit}`exists_le_firstRank_of_anchored`: an anchor settles every order.
- Theorem {lit}`exists_lenient_order`: without one some order stays below.
- Theorem {lit}`outcome_order_independent_iff`: the outcome is the same for every
  order exactly when the order-independent part reaches the highest verdict or there
  is an anchor.
-/

namespace FirstMatch

/-! ## Maxima of lists -/

/-- The maximum of a list of ranks, 0 for the empty list. -/
def maxRank (ranks : List Nat) : Nat :=
  ranks.foldr max 0

@[simp]
theorem maxRank_nil : maxRank [] = 0 :=
  rfl

@[simp]
theorem maxRank_cons (n : Nat) (ranks : List Nat) :
    maxRank (n :: ranks) = max n (maxRank ranks) :=
  rfl

@[simp]
theorem maxRank_append (xs ys : List Nat) :
    maxRank (xs ++ ys) = max (maxRank xs) (maxRank ys) := by
  induction xs with
  | nil => simp
  | cons n xs ih => simp only [List.cons_append, maxRank_cons, ih, max_assoc]

theorem maxRank_le_iff {ranks : List Nat} {n : Nat} :
    maxRank ranks ≤ n ↔ ∀ m ∈ ranks, m ≤ n := by
  induction ranks with
  | nil => simp
  | cons m ranks ih => simp [ih]

theorem le_maxRank {ranks : List Nat} {n : Nat} (h : n ∈ ranks) : n ≤ maxRank ranks :=
  maxRank_le_iff.mp le_rfl n h

/-- A positive bound is reached by an element. -/
theorem le_maxRank_iff {ranks : List Nat} {n : Nat} (hn : 0 < n) :
    n ≤ maxRank ranks ↔ ∃ m ∈ ranks, n ≤ m := by
  induction ranks with
  | nil => simp [Nat.not_le_of_lt hn]
  | cons m ranks ih => simp [ih]

theorem maxRank_lt_iff {ranks : List Nat} {n : Nat} (hn : 0 < n) :
    maxRank ranks < n ↔ ∀ m ∈ ranks, m < n := by
  rw [← not_iff_not, Nat.not_lt, le_maxRank_iff hn]
  simp

theorem maxRank_perm {xs ys : List Nat} (h : xs.Perm ys) : maxRank xs = maxRank ys := by
  apply le_antisymm
  · exact maxRank_le_iff.mpr (fun n hn => le_maxRank (h.mem_iff.mp hn))
  · exact maxRank_le_iff.mpr (fun n hn => le_maxRank (h.mem_iff.mpr hn))

/-! ## First match -/

section

variable {R U : Type*} (covers : U → R → Bool) (rank : U → R → Nat) (unmatched : U → Nat)

/-- The verdict of the first rule that covers the question. -/
def firstRank (rules : List R) (u : U) : Nat :=
  match rules.find? (covers u) with
  | some r => rank u r
  | none => unmatched u

/-- Some rule covers the question. -/
def covered (rules : List R) (u : U) : Bool :=
  rules.any (covers u)

/-- An anchor: each rule that covers one of its questions gives at least `top` to
one it covers, and some rule covers one. -/
def Anchored (rules : List R) (uses : List U) (top : Nat) : Prop :=
  ∃ anchor : List U, anchor ⊆ uses ∧ (∃ u ∈ anchor, covered covers rules u = true) ∧
    ∀ r ∈ rules, ∀ u ∈ anchor, covers u r = true →
      ∃ w ∈ anchor, covers w r = true ∧ top ≤ rank w r

variable {covers rank unmatched}

theorem covered_iff {rules : List R} {u : U} :
    covered covers rules u = true ↔ ∃ r ∈ rules, covers u r = true := by
  unfold covered
  rw [List.any_eq_true]

theorem Anchored.perm {rules rules' : List R} {uses : List U} {top : Nat}
    (h : Anchored covers rank rules uses top) (hperm : rules.Perm rules') :
    Anchored covers rank rules' uses top := by
  rcases h with ⟨anchor, hsub, ⟨u, hu, hcovered⟩, hall⟩
  refine ⟨anchor, hsub, ⟨u, hu, ?_⟩, ?_⟩
  · rcases covered_iff.mp hcovered with ⟨r, hr, hcovers⟩
    exact covered_iff.mpr ⟨r, hperm.mem_iff.mp hr, hcovers⟩
  · intro r hr
    exact hall r (hperm.mem_iff.mpr hr)

/-- An anchor settles every order: the first rule that covers one of its questions
is the first to cover the question it is strict about. -/
theorem exists_le_firstRank_of_anchored {rules : List R} {uses : List U} {top : Nat}
    (h : Anchored covers rank rules uses top) :
    ∃ u ∈ uses, top ≤ firstRank covers rank unmatched rules u := by
  rcases h with ⟨anchor, hsub, ⟨u, hu, hcovered⟩, hall⟩
  have hsome : (rules.find? (fun r => anchor.any (fun w => covers w r))).isSome = true := by
    rcases covered_iff.mp hcovered with ⟨r, hr, hcovers⟩
    rw [List.find?_isSome]
    exact ⟨r, hr, List.any_eq_true.mpr ⟨u, hu, hcovers⟩⟩
  rcases Option.isSome_iff_exists.mp hsome with ⟨r, hfind⟩
  rcases List.find?_eq_some_iff_append.mp hfind with ⟨hr, before, after, hsplit, hbefore⟩
  rcases List.any_eq_true.mp hr with ⟨v, hv, hcovers⟩
  rcases hall r (by rw [hsplit]; simp) v hv hcovers with ⟨w, hw, hwr, htop⟩
  have hfirst : rules.find? (covers w) = some r := by
    rw [List.find?_eq_some_iff_append]
    refine ⟨hwr, before, after, hsplit, ?_⟩
    intro q hq
    have hnone := hbefore q hq
    simp only [Bool.not_eq_eq_eq_not, Bool.not_true, List.any_eq_false] at hnone
    simpa using hnone w hw
  refine ⟨w, hsub hw, ?_⟩
  unfold firstRank
  rw [hfirst]
  exact htop

/-- Without an anchor, rules that are lenient about all open questions can be put
first, one after the other; the induction is on the open questions. -/
theorem exists_lenient_prefix {rules : List R} {uses : List U} {top : Nat}
    (h : ¬ Anchored covers rank rules uses top) (n : Nat) :
    ∀ opens : List U, opens.length ≤ n → opens ⊆ uses →
      ∃ front : List R, front.Nodup ∧ front ⊆ rules ∧
        (∀ r ∈ front, ∃ u ∈ opens, covers u r = true) ∧
        ∀ u ∈ opens, covered covers rules u = true →
          ∃ r, front.find? (covers u) = some r ∧ rank u r < top := by
  induction n with
  | zero =>
      intro opens hlength _
      have hnil : opens = [] := by simpa using hlength
      subst hnil
      exact ⟨[], by simp⟩
  | succ n ih =>
      intro opens hlength hsub
      by_cases hopen : ∃ u ∈ opens, covered covers rules u = true
      · have hlenient : ∃ r ∈ rules, (∃ u ∈ opens, covers u r = true) ∧
            ∀ w ∈ opens, covers w r = true → rank w r < top := by
          by_contra hnone
          apply h
          refine ⟨opens, hsub, hopen, ?_⟩
          intro r hr u hu hcovers
          by_contra hstrict
          apply hnone
          refine ⟨r, hr, ⟨u, hu, hcovers⟩, ?_⟩
          intro w hw hwr
          by_contra htop
          exact hstrict ⟨w, hw, hwr, Nat.le_of_not_lt htop⟩
        rcases hlenient with ⟨r, hr, ⟨u, hu, hcovers⟩, hall⟩
        have hshorter : (opens.filter (fun w => !covers w r)).length ≤ n := by
          have hlt : (opens.filter (fun w => !covers w r)).length < opens.length := by
            rw [List.length_filter_lt_length_iff_exists]
            exact ⟨u, hu, by simp [hcovers]⟩
          omega
        have hopens : opens.filter (fun w => !covers w r) ⊆ uses := by
          intro w hw
          exact hsub (List.mem_filter.mp hw).1
        rcases ih _ hshorter hopens with ⟨front, hnodup, hfront, hcover, hsettled⟩
        refine ⟨r :: front, ?_, ?_, ?_, ?_⟩
        · refine List.nodup_cons.mpr ⟨?_, hnodup⟩
          intro hmem
          rcases hcover r hmem with ⟨w, hw, hwr⟩
          simpa [hwr] using (List.mem_filter.mp hw).2
        · intro q hq
          rcases List.mem_cons.mp hq with rfl | hq
          · exact hr
          · exact hfront hq
        · intro q hq
          rcases List.mem_cons.mp hq with rfl | hq
          · exact ⟨u, hu, hcovers⟩
          · rcases hcover q hq with ⟨w, hw, hwq⟩
            exact ⟨w, (List.mem_filter.mp hw).1, hwq⟩
        · intro w hw hcovered
          by_cases hwr : covers w r = true
          · exact ⟨r, by rw [List.find?_cons_of_pos hwr], hall w hw hwr⟩
          · rw [List.find?_cons_of_neg hwr]
            exact hsettled w (List.mem_filter.mpr ⟨hw, by simpa using hwr⟩) hcovered
      · refine ⟨[], by simp, by simp, by simp, ?_⟩
        intro u hu hcovered
        exact absurd ⟨u, hu, hcovered⟩ hopen

/-- Without an anchor some order stays below `top` on every covered question. -/
theorem exists_lenient_order {rules : List R} {uses : List U} {top : Nat}
    (h : ¬ Anchored covers rank rules uses top) :
    ∃ rules', rules.Perm rules' ∧ ∀ u ∈ uses, covered covers rules u = true →
      firstRank covers rank unmatched rules' u < top := by
  rcases exists_lenient_prefix h uses.length uses le_rfl (List.Subset.refl uses) with
    ⟨front, hnodup, hfront, -, hsettled⟩
  rcases hnodup.subperm hfront with ⟨front', hfront', hsublist⟩
  rcases hsublist.exists_perm_append with ⟨rest, hperm⟩
  refine ⟨front ++ rest, hperm.trans (hfront'.append_right rest), ?_⟩
  intro u hu hcovered
  rcases hsettled u hu hcovered with ⟨r, hfind, hlt⟩
  unfold firstRank
  rw [List.find?_append, hfind]
  exact hlt

/-! ## The outcome -/

variable (covers rank unmatched)

/-- The maximum of a fixed part and of all answers. -/
def outcome (fixed : Nat) (uses : List U) (rules : List R) : Nat :=
  max fixed (maxRank (uses.map (firstRank covers rank unmatched rules)))

/-- What the order of the rules has no part in: the fixed part and the defaults of
the questions no rule covers. -/
def settled (fixed : Nat) (uses : List U) (rules : List R) : Nat :=
  max fixed (maxRank ((uses.filter (fun u => !covered covers rules u)).map unmatched))

/-- The highest verdict of any rule on any question. -/
def highest (fixed : Nat) (uses : List U) (rules : List R) : Nat :=
  max (settled covers unmatched fixed uses rules)
    (maxRank (uses.flatMap (fun u => (rules.filter (covers u)).map (rank u))))

variable {covers rank unmatched}

theorem covered_perm {rules rules' : List R} (hperm : rules.Perm rules') (u : U) :
    covered covers rules u = covered covers rules' u := by
  rw [Bool.eq_iff_iff, covered_iff, covered_iff]
  simp only [hperm.mem_iff]

theorem settled_perm {fixed : Nat} {uses : List U} {rules rules' : List R}
    (hperm : rules.Perm rules') :
    settled covers unmatched fixed uses rules = settled covers unmatched fixed uses rules' := by
  unfold settled
  simp only [covered_perm hperm]

theorem highest_perm {fixed : Nat} {uses : List U} {rules rules' : List R}
    (hperm : rules.Perm rules') :
    highest covers rank unmatched fixed uses rules =
      highest covers rank unmatched fixed uses rules' := by
  unfold highest
  rw [settled_perm hperm]
  congr 1
  apply maxRank_perm
  apply List.Perm.flatMap_left
  intro u _
  exact (hperm.filter _).map _

/-- A question that no rule covers is answered by its default. -/
theorem firstRank_of_not_covered {rules : List R} {u : U}
    (h : covered covers rules u = false) :
    firstRank covers rank unmatched rules u = unmatched u := by
  have hnone : rules.find? (covers u) = none := by
    rw [List.find?_eq_none]
    intro r hr
    unfold covered at h
    rw [List.any_eq_false] at h
    exact h r hr
  unfold firstRank
  rw [hnone]

/-- The answer to a covered question is the verdict of a rule. -/
theorem firstRank_of_covered {rules : List R} {u : U} (h : covered covers rules u = true) :
    ∃ r ∈ rules, covers u r = true ∧ firstRank covers rank unmatched rules u = rank u r := by
  have hsome : (rules.find? (covers u)).isSome = true := by
    rw [List.find?_isSome]
    exact covered_iff.mp h
  rcases Option.isSome_iff_exists.mp hsome with ⟨r, hfind⟩
  refine ⟨r, List.mem_of_find?_eq_some hfind, List.find?_some hfind, ?_⟩
  unfold firstRank
  rw [hfind]

theorem settled_le_outcome {fixed : Nat} {uses : List U} {rules : List R} :
    settled covers unmatched fixed uses rules ≤
      outcome covers rank unmatched fixed uses rules := by
  unfold settled outcome
  apply max_le_max le_rfl
  apply maxRank_le_iff.mpr
  intro n hn
  rcases List.mem_map.mp hn with ⟨u, hu, rfl⟩
  rcases List.mem_filter.mp hu with ⟨hu, huncovered⟩
  have hdefault : firstRank covers rank unmatched rules u = unmatched u :=
    firstRank_of_not_covered (by simpa using huncovered)
  rw [← hdefault]
  exact le_maxRank (List.mem_map_of_mem hu)

/-- The verdict of a rule on a question it covers is at most the highest. -/
theorem rank_le_highest {fixed : Nat} {uses : List U} {rules : List R} {u : U} {r : R}
    (hu : u ∈ uses) (hr : r ∈ rules) (hcovers : covers u r = true) :
    rank u r ≤ highest covers rank unmatched fixed uses rules := by
  unfold highest
  apply le_max_of_le_right
  apply le_maxRank
  exact List.mem_flatMap.mpr
    ⟨u, hu, List.mem_map_of_mem (List.mem_filter.mpr ⟨hr, hcovers⟩)⟩

theorem outcome_le_highest {fixed : Nat} {uses : List U} {rules : List R} :
    outcome covers rank unmatched fixed uses rules ≤
      highest covers rank unmatched fixed uses rules := by
  unfold outcome
  apply max_le
  · exact le_trans (le_max_left _ _) (le_max_left _ _)
  · apply maxRank_le_iff.mpr
    intro n hn
    rcases List.mem_map.mp hn with ⟨u, hu, rfl⟩
    cases hcovered : covered covers rules u with
    | true =>
        rcases @firstRank_of_covered R U covers rank unmatched rules u hcovered with
          ⟨r, hr, hcovers, heq⟩
        rw [heq]
        exact rank_le_highest hu hr hcovers
    | false =>
        rw [firstRank_of_not_covered hcovered]
        refine le_trans (le_trans ?_ (le_max_right _ _)) (le_max_left _ _)
        exact le_maxRank (List.mem_map_of_mem (List.mem_filter.mpr ⟨hu, by simp [hcovered]⟩))

/-- A rule that is put first gives its verdict. -/
theorem exists_perm_firstRank {rules : List R} {u : U} {r : R} (hr : r ∈ rules)
    (hcovers : covers u r = true) :
    ∃ rules', rules.Perm rules' ∧ firstRank covers rank unmatched rules' u = rank u r := by
  rcases List.append_of_mem hr with ⟨before, after, rfl⟩
  refine ⟨r :: (before ++ after), List.perm_middle, ?_⟩
  unfold firstRank
  rw [List.find?_cons_of_pos hcovers]

/-- The outcome is the highest verdict for every order exactly when the
order-independent part reaches it or there is an anchor. -/
theorem outcome_eq_highest_iff (fixed : Nat) (uses : List U) (rules : List R) :
    (∀ rules', rules.Perm rules' → outcome covers rank unmatched fixed uses rules' =
      highest covers rank unmatched fixed uses rules) ↔
      settled covers unmatched fixed uses rules = highest covers rank unmatched fixed uses rules ∨
        Anchored covers rank rules uses (highest covers rank unmatched fixed uses rules) := by
  constructor
  · intro hall
    by_contra hneither
    rw [not_or] at hneither
    rcases hneither with ⟨hsettled, hanchor⟩
    have hlt : settled covers unmatched fixed uses rules <
        highest covers rank unmatched fixed uses rules :=
      lt_of_le_of_ne (le_max_left _ _) hsettled
    rcases @exists_lenient_order R U covers rank unmatched rules uses _ hanchor with
      ⟨rules', hperm, hlenient⟩
    have hbelow : outcome covers rank unmatched fixed uses rules' <
        highest covers rank unmatched fixed uses rules := by
      unfold outcome
      apply max_lt
      · exact lt_of_le_of_lt (le_max_left _ _) hlt
      · apply Nat.lt_of_le_pred (Nat.lt_of_le_of_lt (Nat.zero_le _) hlt)
        apply maxRank_le_iff.mpr
        intro n hn
        rcases List.mem_map.mp hn with ⟨u, hu, rfl⟩
        apply Nat.le_pred_of_lt
        cases hcovered : covered covers rules u with
        | true => exact hlenient u hu hcovered
        | false =>
            rw [firstRank_of_not_covered (by rw [← covered_perm hperm]; exact hcovered)]
            refine lt_of_le_of_lt (le_trans ?_ (le_max_right _ _)) hlt
            exact le_maxRank (List.mem_map_of_mem (List.mem_filter.mpr ⟨hu, by simp [hcovered]⟩))
    rw [hall rules' hperm] at hbelow
    exact lt_irrefl _ hbelow
  · intro h rules' hperm
    apply le_antisymm
    · rw [highest_perm hperm]
      exact outcome_le_highest
    · rcases h with hsettled | hanchor
      · rw [← hsettled, settled_perm hperm]
        exact settled_le_outcome
      · rcases @exists_le_firstRank_of_anchored R U covers rank unmatched rules' uses _
          (hanchor.perm hperm) with ⟨u, hu, htop⟩
        unfold outcome
        exact le_max_of_le_right (le_trans htop (le_maxRank (List.mem_map_of_mem hu)))

/-- An outcome that is the same for every order is the highest verdict. -/
theorem outcome_order_independent_iff (fixed : Nat) (uses : List U) (rules : List R) :
    (∀ rules', rules.Perm rules' → outcome covers rank unmatched fixed uses rules' =
      outcome covers rank unmatched fixed uses rules) ↔
      settled covers unmatched fixed uses rules = highest covers rank unmatched fixed uses rules ∨
        Anchored covers rank rules uses (highest covers rank unmatched fixed uses rules) := by
  rw [← outcome_eq_highest_iff]
  constructor
  · intro hsame
    have htop : outcome covers rank unmatched fixed uses rules =
        highest covers rank unmatched fixed uses rules := by
      apply le_antisymm outcome_le_highest
      apply max_le settled_le_outcome
      apply maxRank_le_iff.mpr
      intro n hn
      rcases List.mem_flatMap.mp hn with ⟨u, hu, hn⟩
      rcases List.mem_map.mp hn with ⟨r, hr, rfl⟩
      rcases List.mem_filter.mp hr with ⟨hr, hcovers⟩
      rcases @exists_perm_firstRank R U covers rank unmatched rules u r hr hcovers with
        ⟨rules', hperm, hfirst⟩
      rw [← hsame rules' hperm, ← hfirst]
      unfold outcome
      exact le_max_of_le_right (le_maxRank (List.mem_map_of_mem hu))
    intro rules' hperm
    rw [hsame rules' hperm, htop]
  · intro hall rules' hperm
    rw [hall rules' hperm, hall rules (List.Perm.refl rules)]

end

end FirstMatch
