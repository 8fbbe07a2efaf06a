import AuthClaw.Library.Selection
import Mathlib.Algebra.Order.Ring.Rat
import Mathlib.Data.List.Induction
import Mathlib.Data.List.Pairwise
import Mathlib.Data.List.Sort
import Mathlib.Tactic.Common

/-!
# Findings of the sensitive-data detector

The spans that the recognizers report, {lit}`_dedupe`, which keeps one of several
overlapping spans, and {lit}`redact`, which replaces the kept ones from the right.

The findings arrive in the order of their starts, so a new finding overlaps at most
one selected finding: the loop keeps the stronger of the two.

Main results:

- Theorem {lit}`dedupeStep_cases`: what one iteration of the loop does.
- Theorem {lit}`separated_dedupe`: the selected findings never overlap.
- Theorem {lit}`redactSpans_eq_weave`: the redacted text is the text between the
  kept spans and their replacements.
-/

namespace AuthClaw.Detection

/-- `SensitiveFinding`, with a valid span. -/
structure SensitiveFinding where
  entityType : String
  start : Nat
  stop : Nat
  value : List Char
  confidence : Rat
  source : String
  valid : start ≤ stop
deriving DecidableEq

namespace SensitiveFinding

/-- `end - start`. -/
def length (f : SensitiveFinding) : Nat :=
  f.stop - f.start

/-- The finding covers the character at a position. -/
def Covers (f : SensitiveFinding) (i : Nat) : Prop :=
  f.start ≤ i ∧ i < f.stop

/-- `not (finding.end <= item.start or finding.start >= item.end)`. -/
def overlaps (f g : SensitiveFinding) : Bool :=
  !(f.stop ≤ g.start || g.stop ≤ f.start)

/-- The order of `sorted`: by start, longest first, most confident first. -/
def sortsBefore (f g : SensitiveFinding) : Prop :=
  f.start < g.start ∨ f.start = g.start ∧
    (g.length < f.length ∨ f.length = g.length ∧ g.confidence ≤ f.confidence)

instance : DecidableRel sortsBefore := by
  intro f g
  unfold sortsBefore
  infer_instance

/-- The key of `max`: confidence, then length. -/
def outranks (f g : SensitiveFinding) : Bool :=
  g.confidence < f.confidence || (g.confidence = f.confidence && g.length < f.length)

theorem overlaps_iff {f g : SensitiveFinding} :
    f.overlaps g = true ↔ g.start < f.stop ∧ f.start < g.stop := by
  simp [overlaps]

theorem overlaps_comm (f g : SensitiveFinding) : f.overlaps g = g.overlaps f := by
  rw [Bool.eq_iff_iff, overlaps_iff, overlaps_iff]
  exact and_comm

theorem start_le_of_sortsBefore {f g : SensitiveFinding} (h : f.sortsBefore g) :
    f.start ≤ g.start := by
  rcases h with h | ⟨h, -⟩
  · exact Nat.le_of_lt h
  · exact Nat.le_of_eq h

instance : Std.Total sortsBefore where
  total f g := by
    unfold sortsBefore
    rcases Nat.lt_trichotomy f.start g.start with h | h | h
    · exact Or.inl (Or.inl h)
    · rcases Nat.lt_trichotomy f.length g.length with hl | hl | hl
      · exact Or.inr (Or.inr ⟨h.symm, Or.inl hl⟩)
      · rcases le_total g.confidence f.confidence with hc | hc
        · exact Or.inl (Or.inr ⟨h, Or.inr ⟨hl, hc⟩⟩)
        · exact Or.inr (Or.inr ⟨h.symm, Or.inr ⟨hl.symm, hc⟩⟩)
      · exact Or.inl (Or.inr ⟨h, Or.inl hl⟩)
    · exact Or.inr (Or.inl h)

instance : IsTrans SensitiveFinding sortsBefore where
  trans f g h hfg hgh := by
    unfold sortsBefore at *
    rcases hfg with hfg | ⟨hfg, hrank⟩
    · left
      rcases hgh with hgh | ⟨hgh, -⟩ <;> omega
    · rcases hgh with hgh | ⟨hgh, hrank'⟩
      · left
        omega
      · right
        refine ⟨hfg.trans hgh, ?_⟩
        rcases hrank with hrank | ⟨hlength, hconfidence⟩
        · left
          rcases hrank' with hrank' | ⟨hrank', -⟩ <;> omega
        · rcases hrank' with hrank' | ⟨hlength', hconfidence'⟩
          · left
            omega
          · exact Or.inr ⟨hlength.trans hlength', hconfidence'.trans hconfidence⟩

end SensitiveFinding

open SensitiveFinding

/-! ## Deduplication -/

/-- `max(..., key=...)` with the position of the first maximal element. -/
def firstMax : SensitiveFinding × Nat → List (SensitiveFinding × Nat) → SensitiveFinding × Nat
  | best, [] => best
  | best, item :: rest => firstMax (if item.1.outranks best.1 then item else best) rest

/-- One iteration of `_dedupe`. -/
def dedupeStep (selected : List SensitiveFinding) (finding : SensitiveFinding) :
    List SensitiveFinding :=
  let overlapping := (selected.filter (fun item => finding.overlaps item)).zipIdx
  match overlapping with
  | [] => selected ++ [finding]
  | item :: rest =>
      let best := (firstMax item (rest ++ [(finding, overlapping.length)])).2
      let remaining := (overlapping.filter (fun item => item.2 ≠ best)).foldl
        (fun selected item => selected.erase item.1) selected
      if best = overlapping.length ∧ finding ∉ remaining then remaining ++ [finding]
      else remaining

/-- `sorted(findings, key=...)`. -/
def sortFindings (findings : List SensitiveFinding) : List SensitiveFinding :=
  findings.insertionSort sortsBefore

/-- The selection after the loop has gone over some findings. -/
def selectedAfter (findings : List SensitiveFinding) : List SensitiveFinding :=
  findings.foldl dedupeStep []

/-- `_dedupe`. -/
def dedupe (findings : List SensitiveFinding) : List SensitiveFinding :=
  (selectedAfter (sortFindings findings)).insertionSort (fun f g => f.start ≤ g.start)

/-- What `_dedupe` compares. -/
def findingCriteria : Selection.Criteria SensitiveFinding where
  overlaps := overlaps
  outranks := outranks
  before := sortsBefore
  decidableBefore := inferInstance
  startsBefore := fun f g => f.start ≤ g.start
  decidableStartsBefore := inferInstance

theorem firstMax_eq_selection (best : SensitiveFinding × Nat)
    (rest : List (SensitiveFinding × Nat)) :
    firstMax best rest = Selection.firstMax findingCriteria best rest := by
  induction rest generalizing best with
  | nil => rfl
  | cons item rest ih => exact ih _

theorem dedupeStep_eq_selection (selected : List SensitiveFinding) (finding : SensitiveFinding) :
    dedupeStep selected finding = Selection.dedupeStep findingCriteria selected finding := by
  unfold dedupeStep Selection.dedupeStep
  have hoverlaps : ∀ item, findingCriteria.overlaps finding item = finding.overlaps item :=
    fun _ => rfl
  simp only [firstMax_eq_selection, hoverlaps]
  cases (selected.filter (fun item => finding.overlaps item)).zipIdx with
  | nil => rfl
  | cons item rest => rfl

theorem dedupe_eq_selection (findings : List SensitiveFinding) :
    dedupe findings = Selection.dedupe findingCriteria findings := by
  have hstep : dedupeStep = Selection.dedupeStep findingCriteria :=
    funext fun selected => funext fun finding => dedupeStep_eq_selection selected finding
  unfold dedupe selectedAfter
  rw [hstep]
  rfl

theorem mem_dedupe {findings : List SensitiveFinding} {f : SensitiveFinding} :
    f ∈ dedupe findings ↔ f ∈ selectedAfter (sortFindings findings) := by
  unfold dedupe
  exact List.mem_insertionSort _

theorem mem_sortFindings {findings : List SensitiveFinding} {f : SensitiveFinding} :
    f ∈ sortFindings findings ↔ f ∈ findings := by
  unfold sortFindings
  exact List.mem_insertionSort _

theorem pairwise_sortFindings (findings : List SensitiveFinding) :
    (sortFindings findings).Pairwise sortsBefore :=
  List.pairwise_insertionSort _ findings

/-- Sorting a part of the sorted findings changes nothing. -/
theorem sortFindings_of_prefix {done findings : List SensitiveFinding}
    (h : done <+: sortFindings findings) : sortFindings done = done :=
  List.Pairwise.insertionSort_eq ((pairwise_sortFindings findings).sublist h.sublist)

/-! ## One iteration -/

/-- The selected findings do not overlap. -/
def Separated (selected : List SensitiveFinding) : Prop :=
  selected.Pairwise (fun f g => f.overlaps g = false)

/-- Every selected finding starts before the next finding of the loop. -/
def StartsBefore (selected : List SensitiveFinding) (finding : SensitiveFinding) : Prop :=
  ∀ item ∈ selected, item.start ≤ finding.start

/-- Two selected findings that reach beyond the start of the next one would overlap. -/
theorem overlapping_le_one {selected : List SensitiveFinding} {finding : SensitiveFinding}
    (hseparated : Separated selected) (hstarts : StartsBefore selected finding) :
    selected.filter (fun item => finding.overlaps item) = [] ∨
      ∃ item ∈ selected, selected.filter (fun item => finding.overlaps item) = [item] := by
  cases hfilter : selected.filter (fun item => finding.overlaps item) with
  | nil => exact Or.inl rfl
  | cons item rest =>
      right
      have hmem : ∀ g ∈ item :: rest, g ∈ selected ∧ finding.overlaps g = true := by
        intro g hg
        rw [← hfilter] at hg
        exact List.mem_filter.mp hg
      refine ⟨item, (hmem item (by simp)).1, ?_⟩
      cases rest with
      | nil => rfl
      | cons other rest =>
          have hpair : Separated (item :: other :: rest) := by
            rw [← hfilter]
            exact hseparated.filter _
          have hdisjoint : item.overlaps other = false :=
            (List.pairwise_cons.mp hpair).1 other (by simp)
          have hitem := hmem item (by simp)
          have hother := hmem other (by simp)
          have hboth : item.overlaps other = true := by
            rw [overlaps_iff]
            have h1 := overlaps_iff.mp hitem.2
            have h2 := overlaps_iff.mp hother.2
            have h3 := hstarts item hitem.1
            have h4 := hstarts other hother.1
            omega
          rw [hboth] at hdisjoint
          cases hdisjoint

/-- The other selected findings do not overlap a selected one. -/
theorem not_overlaps_of_mem_erase {selected : List SensitiveFinding} {item : SensitiveFinding}
    (hseparated : Separated selected) (hitem : item ∈ selected) {other : SensitiveFinding}
    (hother : other ∈ selected.erase item) : other.overlaps item = false := by
  have hsymm : ∀ {f g : SensitiveFinding}, f.overlaps g = false → g.overlaps f = false := by
    intro f g h
    rw [overlaps_comm]
    exact h
  have hperm : Separated (item :: selected.erase item) :=
    ((List.perm_cons_erase hitem).pairwise_iff hsymm).mp hseparated
  exact hsymm ((List.pairwise_cons.mp hperm).1 other hother)

/-- What one iteration does: a finding without overlap is added, a stronger finding
takes the place of the one it overlaps, and a weaker one is dropped. -/
theorem dedupeStep_cases {selected : List SensitiveFinding} {finding : SensitiveFinding}
    (hseparated : Separated selected) (hstarts : StartsBefore selected finding) :
    (∀ item ∈ selected, finding.overlaps item = false) ∧
        dedupeStep selected finding = selected ++ [finding] ∨
      ∃ item ∈ selected, finding.overlaps item = true ∧
        (∀ other ∈ selected.erase item, finding.overlaps other = false) ∧
        (finding.outranks item = true ∧
            dedupeStep selected finding = selected.erase item ++ [finding] ∨
          finding.outranks item = false ∧ dedupeStep selected finding = selected) := by
  rcases overlapping_le_one hseparated hstarts with hnone | ⟨item, hitem, hone⟩
  · left
    refine ⟨?_, ?_⟩
    · intro item hitem
      have hall := List.filter_eq_nil_iff.mp hnone item hitem
      simpa using hall
    · unfold dedupeStep
      rw [hnone]
      rfl
  · right
    have hoverlap : finding.overlaps item = true := by
      have hmem : item ∈ selected.filter (fun item => finding.overlaps item) := by
        rw [hone]
        simp
      exact (List.mem_filter.mp hmem).2
    have hrest : ∀ other ∈ selected.erase item, finding.overlaps other = false := by
      have hfilter : (selected.erase item).filter (fun item => finding.overlaps item) = [] := by
        have hperm := (List.perm_cons_erase hitem).filter (fun item => finding.overlaps item)
        rw [hone, List.filter_cons_of_pos hoverlap] at hperm
        exact List.eq_nil_of_length_eq_zero (by simpa using hperm.length_eq)
      intro other hother
      simpa using List.filter_eq_nil_iff.mp hfilter other hother
    refine ⟨item, hitem, hoverlap, hrest, ?_⟩
    unfold dedupeStep
    rw [hone]
    cases hrank : finding.outranks item with
    | true =>
        left
        refine ⟨rfl, ?_⟩
        have hnotin : finding ∉ selected.erase item := by
          intro hmem
          have hdisjoint := not_overlaps_of_mem_erase hseparated hitem hmem
          rw [hoverlap] at hdisjoint
          cases hdisjoint
        simp [firstMax, hrank, hnotin]
    | false =>
        right
        refine ⟨rfl, ?_⟩
        simp [firstMax, hrank]

theorem mem_of_mem_dedupeStep {selected : List SensitiveFinding} {finding f : SensitiveFinding}
    (hseparated : Separated selected) (hstarts : StartsBefore selected finding)
    (hf : f ∈ dedupeStep selected finding) : f ∈ selected ∨ f = finding := by
  rcases dedupeStep_cases hseparated hstarts with ⟨-, hstep⟩ | ⟨item, -, -, -, hcase⟩
  · rw [hstep] at hf
    simpa using hf
  · rcases hcase with ⟨-, hstep⟩ | ⟨-, hstep⟩
    · rw [hstep] at hf
      rcases List.mem_append.mp hf with hf | hf
      · exact Or.inl (List.mem_of_mem_erase hf)
      · exact Or.inr (by simpa using hf)
    · rw [hstep] at hf
      exact Or.inl hf

theorem separated_append {selected : List SensitiveFinding} {finding : SensitiveFinding}
    (hseparated : Separated selected)
    (hfinding : ∀ item ∈ selected, finding.overlaps item = false) :
    Separated (selected ++ [finding]) := by
  apply List.pairwise_append.mpr
  refine ⟨hseparated, List.pairwise_singleton _ _, ?_⟩
  intro item hitem other hother
  rw [List.mem_singleton] at hother
  subst hother
  rw [overlaps_comm]
  exact hfinding item hitem

/-- An iteration keeps the selected findings apart. -/
theorem separated_dedupeStep {selected : List SensitiveFinding} {finding : SensitiveFinding}
    (hseparated : Separated selected) (hstarts : StartsBefore selected finding) :
    Separated (dedupeStep selected finding) := by
  rcases dedupeStep_cases hseparated hstarts with ⟨hnone, hstep⟩ | ⟨item, hitem, -, hrest, hcase⟩
  · rw [hstep]
    exact separated_append hseparated hnone
  · rcases hcase with ⟨-, hstep⟩ | ⟨-, hstep⟩
    · rw [hstep]
      exact separated_append (hseparated.sublist List.erase_sublist) hrest
    · rw [hstep]
      exact hseparated

/-! ## The loop -/

theorem selectedAfter_append (done : List SensitiveFinding) (finding : SensitiveFinding) :
    selectedAfter (done ++ [finding]) = dedupeStep (selectedAfter done) finding := by
  unfold selectedAfter
  rw [List.foldl_append]
  rfl

/-- After any part of a sorted list the selected findings are apart and come from
that part. -/
theorem selectedAfter_spec {findings : List SensitiveFinding}
    (hsorted : findings.Pairwise sortsBefore) :
    Separated (selectedAfter findings) ∧ ∀ f ∈ selectedAfter findings, f ∈ findings := by
  induction findings using List.reverseRecOn with
  | nil => exact ⟨List.Pairwise.nil, by simp [selectedAfter]⟩
  | append_singleton done finding ih =>
      rcases List.pairwise_append.mp hsorted with ⟨hdone, -, hbefore⟩
      rcases ih hdone with ⟨hseparated, hmem⟩
      have hstarts : StartsBefore (selectedAfter done) finding := by
        intro item hitem
        exact start_le_of_sortsBefore (hbefore item (hmem item hitem) finding (by simp))
      rw [selectedAfter_append]
      refine ⟨separated_dedupeStep hseparated hstarts, ?_⟩
      intro f hf
      rcases mem_of_mem_dedupeStep hseparated hstarts hf with hf | rfl
      · exact List.mem_append_left _ (hmem f hf)
      · simp

/-- An iteration adds the finding at the end, or drops findings. -/
theorem dedupeStep_sublist {selected : List SensitiveFinding} {finding : SensitiveFinding}
    (hseparated : Separated selected) (hstarts : StartsBefore selected finding) :
    (dedupeStep selected finding).Sublist (selected ++ [finding]) := by
  rcases dedupeStep_cases hseparated hstarts with ⟨-, hstep⟩ | ⟨item, -, -, -, hcase⟩
  · rw [hstep]
  · rcases hcase with ⟨-, hstep⟩ | ⟨-, hstep⟩
    · rw [hstep]
      exact List.erase_sublist.append (List.Sublist.refl _)
    · rw [hstep]
      exact List.sublist_append_left _ _

/-- What is selected stands in the order of the loop, each finding at most as often as it was
reported. -/
theorem selectedAfter_sublist {findings : List SensitiveFinding}
    (hsorted : findings.Pairwise sortsBefore) : (selectedAfter findings).Sublist findings := by
  induction findings using List.reverseRecOn with
  | nil => exact List.Sublist.refl _
  | append_singleton done finding ih =>
      rcases List.pairwise_append.mp hsorted with ⟨hdone, -, hbefore⟩
      have hsub := ih hdone
      have hstarts : StartsBefore (selectedAfter done) finding := by
        intro item hitem
        exact start_le_of_sortsBefore (hbefore item (hsub.subset hitem) finding (by simp))
      rw [selectedAfter_append]
      exact (dedupeStep_sublist (selectedAfter_spec hdone).1 hstarts).trans
        (hsub.append (List.Sublist.refl _))

/-- The selection is sorted already. -/
theorem dedupe_eq_selectedAfter (findings : List SensitiveFinding) :
    dedupe findings = selectedAfter (sortFindings findings) := by
  have hsorted := (pairwise_sortFindings findings).sublist
    (selectedAfter_sublist (pairwise_sortFindings findings))
  unfold dedupe
  exact List.Pairwise.insertionSort_eq (hsorted.imp start_le_of_sortsBefore)

theorem dedupe_sublist (findings : List SensitiveFinding) :
    (dedupe findings).Sublist (sortFindings findings) := by
  rw [dedupe_eq_selectedAfter]
  exact selectedAfter_sublist (pairwise_sortFindings findings)

/-- The next finding of a sorted list starts after every selected one. -/
theorem startsBefore_selectedAfter {done : List SensitiveFinding} {finding : SensitiveFinding}
    (hsorted : (done ++ [finding]).Pairwise sortsBefore) :
    StartsBefore (selectedAfter done) finding := by
  rcases List.pairwise_append.mp hsorted with ⟨hdone, -, hbefore⟩
  intro item hitem
  exact start_le_of_sortsBefore
    (hbefore item ((selectedAfter_spec hdone).2 item hitem) finding (by simp))

/-- The kept findings do not overlap. -/
theorem separated_dedupe (findings : List SensitiveFinding) : Separated (dedupe findings) := by
  have hsymm : ∀ {f g : SensitiveFinding}, f.overlaps g = false → g.overlaps f = false := by
    intro f g h
    rw [overlaps_comm]
    exact h
  unfold dedupe
  exact ((List.perm_insertionSort _ _).pairwise_iff hsymm).mpr
    (selectedAfter_spec (pairwise_sortFindings findings)).1

/-! ## Redaction -/

/-- `text[:start] + replacement + text[end:]`. -/
def replaceSpan (text : List Char) (f : SensitiveFinding) (replacement : List Char) : List Char :=
  text.take f.start ++ replacement ++ text.drop f.stop

/-- The loop of `redact` over the kept findings, from the right. -/
def redactSpans (replacementFor : SensitiveFinding → List Char) (text : List Char)
    (kept : List SensitiveFinding) : List Char :=
  (kept.insertionSort (fun f g => g.start ≤ f.start)).foldl
    (fun redacted f => replaceSpan redacted f (replacementFor f)) text

/-- The text from a position on, with the spans of the kept findings replaced. -/
def weave (replacementFor : SensitiveFinding → List Char) (text : List Char) :
    Nat → List SensitiveFinding → List Char
  | i, [] => text.drop i
  | i, f :: rest =>
      (text.drop i).take (f.start - i) ++ replacementFor f ++ weave replacementFor text f.stop rest

theorem weave_cons (replacementFor : SensitiveFinding → List Char) (text : List Char) (i : Nat)
    (f : SensitiveFinding) (rest : List SensitiveFinding) :
    weave replacementFor text i (f :: rest) = (text.drop i).take (f.start - i) ++
      replacementFor f ++ weave replacementFor text f.stop rest :=
  rfl

/-- Each kept span ends before the next one starts. -/
def Ordered (kept : List SensitiveFinding) : Prop :=
  kept.Pairwise (fun f g => f.stop ≤ g.start)

/-- Kept findings that cover a character stand in the order of their spans. -/
theorem ordered_dedupe {findings : List SensitiveFinding}
    (hnonempty : ∀ f ∈ findings, f.start < f.stop) : Ordered (dedupe findings) := by
  have hsorted : (dedupe findings).Pairwise (fun f g => f.start ≤ g.start) := by
    unfold dedupe
    have : Std.Total (fun f g : SensitiveFinding => f.start ≤ g.start) :=
      ⟨fun f g => Nat.le_total f.start g.start⟩
    have : IsTrans SensitiveFinding (fun f g => f.start ≤ g.start) :=
      ⟨fun _ _ _ hfg hgh => Nat.le_trans hfg hgh⟩
    exact List.pairwise_insertionSort _ _
  have hboth := hsorted.and (separated_dedupe findings)
  refine List.Pairwise.imp_of_mem ?_ hboth
  intro f g _ hg hfg
  have hgmem : g ∈ findings := by
    rw [mem_dedupe] at hg
    exact mem_sortFindings.mp ((selectedAfter_spec (pairwise_sortFindings findings)).2 g hg)
  have hlt := hnonempty g hgmem
  have hapart : ¬ (g.start < f.stop ∧ f.start < g.stop) := by
    rw [← overlaps_iff, hfg.2]
    exact Bool.false_ne_true
  have hle := hfg.1
  omega

/-- Replacing from the right leaves the text before the spans alone. -/
theorem foldr_replaceSpan (replacementFor : SensitiveFinding → List Char) {text : List Char}
    {kept : List SensitiveFinding} (hordered : Ordered kept)
    (hlength : ∀ f ∈ kept, f.stop ≤ text.length) {i : Nat} (hi : ∀ f ∈ kept, i ≤ f.start) :
    kept.foldr (fun f redacted => replaceSpan redacted f (replacementFor f)) text =
      text.take i ++ weave replacementFor text i kept := by
  induction kept generalizing i with
  | nil => exact (List.take_append_drop i text).symm
  | cons f rest ih =>
      rcases List.pairwise_cons.mp hordered with ⟨hfirst, hrest⟩
      have hstart : i ≤ f.start := hi f (by simp)
      have hstop : f.stop ≤ text.length := hlength f (by simp)
      have hvalid := f.valid
      rw [List.foldr_cons, ih hrest (fun g hg => hlength g (by simp [hg])) hfirst]
      unfold replaceSpan
      rw [weave_cons, List.take_append_of_le_length (by rw [List.length_take]; omega),
        List.take_take, Nat.min_eq_left hvalid,
        List.drop_append_of_le_length (by rw [List.length_take]; omega), List.drop_take,
        Nat.sub_self, List.take_zero, List.nil_append]
      have hsplit : text.take f.start = text.take i ++ (text.drop i).take (f.start - i) := by
        rw [← List.take_add, Nat.add_sub_cancel' hstart]
      rw [hsplit]
      simp only [List.append_assoc]

/-- Findings that stand in order are taken from the right in the reverse order. -/
theorem descending_of_ordered {kept : List SensitiveFinding} (hordered : Ordered kept)
    (hnonempty : ∀ f ∈ kept, f.start < f.stop) :
    kept.insertionSort (fun f g => g.start ≤ f.start) = kept.reverse := by
  have hsame : kept.reverse.Pairwise (fun f g => g.start ≤ f.start) := by
    rw [List.pairwise_reverse]
    exact hordered.imp (fun {f g} hfg => Nat.le_trans f.valid hfg)
  have : Std.Total (fun f g : SensitiveFinding => g.start ≤ f.start) :=
    ⟨fun f g => Nat.le_total g.start f.start⟩
  have : IsTrans SensitiveFinding (fun f g => g.start ≤ f.start) :=
    ⟨fun _ _ _ hfg hgh => Nat.le_trans hgh hfg⟩
  have hstrict : ∀ f ∈ kept, ∀ g ∈ kept, f.start = g.start → f = g := by
    have hpair : kept.Pairwise (fun f g => f.start = g.start → f = g) := by
      refine List.Pairwise.imp_of_mem ?_ hordered
      intro f g hf _ hfg heq
      have hlt := hnonempty f hf
      omega
    have : Std.Symm (fun f g : SensitiveFinding => f.start = g.start → f = g) :=
      ⟨fun _ _ hfg heq => (hfg heq.symm).symm⟩
    intro f hf g hg
    exact hpair.forall_of_forall (fun _ _ _ => rfl) hf hg
  refine List.Perm.eq_of_pairwise ?_ (List.pairwise_insertionSort _ _) hsame
    ((List.perm_insertionSort _ _).trans (List.reverse_perm kept).symm)
  intro f g hf hg hfg hgf
  rw [List.mem_insertionSort] at hf
  rw [List.mem_reverse] at hg
  exact hstrict f hf g hg (Nat.le_antisymm hgf hfg)

/-- A finding that is sorted before another one and does not overlap it ends before it
starts, or stands at the same place before or after it. -/
theorem stop_le_of_separated {f g : SensitiveFinding} (hbefore : f.sortsBefore g)
    (hapart : f.overlaps g = false) :
    (f.start < g.start → f.stop ≤ g.start) ∧ (f.start = g.start → g.stop ≤ f.start) := by
  have hf := f.valid
  have hg := g.valid
  have hor : ¬ (g.start < f.stop ∧ f.start < g.stop) := by
    rw [← overlaps_iff, hapart]
    exact Bool.false_ne_true
  refine ⟨by omega, ?_⟩
  intro hstart
  have hlength : g.length ≤ f.length := by
    rcases hbefore with hlt | ⟨-, hlt | ⟨heq, -⟩⟩
    · omega
    · exact hlt.le
    · exact heq.ge
  unfold SensitiveFinding.length at hlength
  omega

/-- The findings from the right to the left, those at one place in the order of the loop. -/
def descending (kept : List SensitiveFinding) : List SensitiveFinding :=
  kept.insertionSort (fun f g => g.start ≤ f.start)

theorem mem_descending {kept : List SensitiveFinding} {f : SensitiveFinding} :
    f ∈ descending kept ↔ f ∈ kept :=
  List.mem_insertionSort _

/-- Inserting a finding before those that do not start later. -/
theorem pairwise_orderedInsert_descending {f : SensitiveFinding} {sorted : List SensitiveFinding}
    (hsorted : sorted.Pairwise (fun g h => h.start ≤ g.start))
    (hordered : sorted.Pairwise (fun g h => h.stop ≤ g.start))
    (hbefore : ∀ g ∈ sorted, g.start ≤ f.start → g.stop ≤ f.start)
    (hafter : ∀ g ∈ sorted, f.start < g.start → f.stop ≤ g.start) :
    (sorted.orderedInsert (fun g h => h.start ≤ g.start) f).Pairwise
      (fun g h => h.stop ≤ g.start) := by
  induction sorted with
  | nil => exact List.pairwise_singleton _ _
  | cons g rest ih =>
      rcases List.pairwise_cons.mp hsorted with ⟨hfirst, hrest⟩
      rcases List.pairwise_cons.mp hordered with ⟨hends, hordered'⟩
      rw [List.orderedInsert_cons]
      split_ifs with hplace
      · refine List.pairwise_cons.mpr ⟨?_, hordered⟩
        intro h hh
        rcases List.mem_cons.mp hh with rfl | hh
        · exact hbefore h (by simp) hplace
        · exact hbefore h (by simp [hh]) ((hfirst h hh).trans hplace)
      · refine List.pairwise_cons.mpr ⟨?_, ih hrest hordered'
          (fun h hh => hbefore h (by simp [hh])) (fun h hh => hafter h (by simp [hh]))⟩
        intro h hh
        rcases (List.mem_orderedInsert _).mp hh with rfl | hh
        · exact hafter g (by simp) (Nat.lt_of_not_le hplace)
        · exact hends h hh

/-- Kept findings, empty ones included, do not run into each other from the right. -/
theorem ordered_descending {kept : List SensitiveFinding} (hsorted : kept.Pairwise sortsBefore)
    (hseparated : Separated kept) : Ordered (descending kept).reverse := by
  unfold Ordered
  rw [List.pairwise_reverse]
  induction kept with
  | nil => exact List.Pairwise.nil
  | cons f rest ih =>
      rcases List.pairwise_cons.mp hsorted with ⟨hbefore, hrest⟩
      rcases List.pairwise_cons.mp hseparated with ⟨hapart, hseparated'⟩
      have : Std.Total (fun f g : SensitiveFinding => g.start ≤ f.start) :=
        ⟨fun f g => Nat.le_total g.start f.start⟩
      have : IsTrans SensitiveFinding (fun f g => g.start ≤ f.start) :=
        ⟨fun _ _ _ hfg hgh => Nat.le_trans hgh hfg⟩
      refine pairwise_orderedInsert_descending (List.pairwise_insertionSort _ rest)
        (ih hrest hseparated') ?_ ?_
      · intro g hg hle
        have hg := mem_descending.mp hg
        have hstart := start_le_of_sortsBefore (hbefore g hg)
        exact (stop_le_of_separated (hbefore g hg) (hapart g hg)).2 (Nat.le_antisymm hstart hle)
      · intro g hg hlt
        have hg := mem_descending.mp hg
        exact (stop_le_of_separated (hbefore g hg) (hapart g hg)).1 hlt

/-- The redacted text is the text between the kept spans, empty ones included, and their
replacements. -/
theorem redactSpans_eq_weave_descending (replacementFor : SensitiveFinding → List Char)
    {text : List Char} {kept : List SensitiveFinding} (hsorted : kept.Pairwise sortsBefore)
    (hseparated : Separated kept) (hlength : ∀ f ∈ kept, f.stop ≤ text.length) :
    redactSpans replacementFor text kept =
      weave replacementFor text 0 (descending kept).reverse := by
  have hfoldr := foldr_replaceSpan replacementFor (ordered_descending hsorted hseparated)
    (fun f hf => hlength f (mem_descending.mp (List.mem_reverse.mp hf)))
    (fun _ _ => Nat.zero_le _)
  rw [← List.foldl_reverse, List.reverse_reverse] at hfoldr
  exact hfoldr

/-- The redacted text is the text between the kept spans and their replacements. -/
theorem redactSpans_eq_weave (replacementFor : SensitiveFinding → List Char) {text : List Char}
    {kept : List SensitiveFinding} (hordered : Ordered kept)
    (hnonempty : ∀ f ∈ kept, f.start < f.stop) (hlength : ∀ f ∈ kept, f.stop ≤ text.length) :
    redactSpans replacementFor text kept = weave replacementFor text 0 kept := by
  unfold redactSpans
  rw [descending_of_ordered hordered hnonempty, List.foldl_reverse,
    foldr_replaceSpan replacementFor hordered hlength (fun _ _ => Nat.zero_le _)]
  rfl

end AuthClaw.Detection
