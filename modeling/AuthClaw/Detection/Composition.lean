import AuthClaw.Detection.Detector

/-!
# Redacting two texts apart

Where the recognizers find in two texts what they find in the two together, the
detector redacts the two together as it redacts each: findings on the two sides of the
cut never overlap, so that they are sorted, deduplicated and replaced apart.

Main results:

- Theorem {lit}`insertionSort_eq_append`: two classes of elements are sorted apart when
  one comes before the other.
- Theorem {lit}`dedupe_map_shift`: deduplication does not depend on where a text starts.
- Theorem {lit}`dedupe_of_cut`: findings on the two sides of a cut are deduplicated
  apart.
- Theorem {lit}`redact_append`: two texts in which the same is found are redacted apart.
-/

namespace AuthClaw.Detection

open Regex PythonText SensitiveFinding

/-! ## Sorting apart -/

section

variable {α : Type} {r : α → α → Prop} [DecidableRel r] {left : α → Bool}

theorem orderedInsert_append_left {a : α} {xs ys : List α} (h : ∀ b ∈ ys, r a b) :
    List.orderedInsert r a (xs ++ ys) = List.orderedInsert r a xs ++ ys := by
  induction xs with
  | nil =>
      cases ys with
      | nil => rfl
      | cons b ys => exact List.orderedInsert_cons_of_le r ys (h b (by simp))
  | cons x xs ih =>
      rw [List.cons_append, List.orderedInsert_cons, List.orderedInsert_cons, ih]
      split
      · rfl
      · rfl

theorem orderedInsert_append_right {a : α} {xs ys : List α} (h : ∀ x ∈ xs, ¬ r a x) :
    List.orderedInsert r a (xs ++ ys) = xs ++ List.orderedInsert r a ys := by
  induction xs with
  | nil => rfl
  | cons x xs ih =>
      rw [List.cons_append, List.orderedInsert_of_not_le r _ (h x (by simp)),
        ih (fun y hy => h y (by simp [hy]))]
      rfl

/-- Two classes of elements are sorted apart when one comes before the other. -/
theorem insertionSort_eq_append {l : List α}
    (hlt : ∀ a ∈ l, ∀ b ∈ l, left a = true → left b = false → r a b ∧ ¬ r b a) :
    l.insertionSort r =
      (l.filter left).insertionSort r ++ (l.filter (fun a => !left a)).insertionSort r := by
  induction l with
  | nil => rfl
  | cons a l ih =>
      have hmem : ∀ {p : α → Bool} {b : α}, b ∈ (l.filter p).insertionSort r → b ∈ l ∧ p b = true :=
        fun hb => List.mem_filter.mp ((List.mem_insertionSort r).mp hb)
      rw [List.insertionSort_cons,
        ih (fun b hb c hc => hlt b (List.mem_cons_of_mem a hb) c (List.mem_cons_of_mem a hc))]
      cases ha : left a with
      | true =>
          rw [List.filter_cons_of_pos ha, List.filter_cons_of_neg (by simp [ha]),
            List.insertionSort_cons]
          apply orderedInsert_append_left
          intro b hb
          rcases hmem hb with ⟨hbl, hright⟩
          exact (hlt a (by simp) b (List.mem_cons_of_mem a hbl) ha (by simpa using hright)).1
      | false =>
          rw [List.filter_cons_of_neg (by simp [ha]), List.filter_cons_of_pos (by simp [ha]),
            List.insertionSort_cons]
          apply orderedInsert_append_right
          intro x hx
          rcases hmem hx with ⟨hxl, hleft⟩
          exact (hlt x (List.mem_cons_of_mem a hxl) a (by simp) hleft ha).2

end

/-! ## Shifting -/

/-- The finding in a text with some characters before it. -/
def SensitiveFinding.shift (n : Nat) (f : SensitiveFinding) : SensitiveFinding where
  entityType := f.entityType
  start := n + f.start
  stop := n + f.stop
  value := f.value
  confidence := f.confidence
  source := f.source
  valid := Nat.add_le_add_left f.valid n

section

variable {n : Nat}

theorem length_shift (f : SensitiveFinding) : (f.shift n).length = f.length := by
  change n + f.stop - (n + f.start) = f.stop - f.start
  omega

theorem shift_injective : Function.Injective (SensitiveFinding.shift n) := by
  intro f g h
  cases f
  cases g
  simp only [SensitiveFinding.shift, SensitiveFinding.mk.injEq, Nat.add_left_cancel_iff] at h
  simp only [SensitiveFinding.mk.injEq]
  exact h

theorem overlaps_shift (f g : SensitiveFinding) :
    (f.shift n).overlaps (g.shift n) = f.overlaps g := by
  rw [Bool.eq_iff_iff, overlaps_iff, overlaps_iff]
  change n + g.start < n + f.stop ∧ n + f.start < n + g.stop ↔ _
  omega

theorem outranks_shift (f g : SensitiveFinding) :
    (f.shift n).outranks (g.shift n) = f.outranks g := by
  unfold outranks
  rw [length_shift, length_shift]
  rfl

theorem sortsBefore_shift (f g : SensitiveFinding) :
    (f.shift n).sortsBefore (g.shift n) ↔ f.sortsBefore g := by
  unfold sortsBefore
  rw [length_shift, length_shift]
  change n + f.start < n + g.start ∨ n + f.start = n + g.start ∧ _ ↔ _
  rw [Nat.add_lt_add_iff_left, Nat.add_left_cancel_iff]
  rfl

theorem action_shift (config : SensitivePolicy) (f : SensitiveFinding) :
    (f.shift n).action config = f.action config :=
  rfl

/-- A shift keeps what `_dedupe` compares. -/
theorem keeps_shift (n : Nat) :
    Selection.Keeps findingCriteria findingCriteria (SensitiveFinding.shift n) where
  injective := shift_injective
  overlaps := overlaps_shift
  outranks := outranks_shift
  before := sortsBefore_shift
  startsBefore := fun _ _ => Nat.add_le_add_iff_left

/-- Deduplication does not depend on where a text starts. -/
theorem dedupe_map_shift (findings : List SensitiveFinding) :
    dedupe (findings.map (SensitiveFinding.shift n)) =
      (dedupe findings).map (SensitiveFinding.shift n) := by
  rw [dedupe_eq_selection, dedupe_eq_selection]
  exact Selection.dedupe_map (keeps_shift n) findings

/-! ## Deduplicating apart -/

/-- The finding lies before a position. -/
def endsBefore (n : Nat) (f : SensitiveFinding) : Bool :=
  f.stop ≤ n

/-- Each finding covers a character and does not cross a position. -/
def AsideOf (n : Nat) (findings : List SensitiveFinding) : Prop :=
  ∀ f ∈ findings, f.start < f.stop ∧ (f.stop ≤ n ∨ n ≤ f.start)

theorem dedupeStep_append {xs ys : List SensitiveFinding} {f : SensitiveFinding}
    (hxs : ∀ x ∈ xs, x.start < x.stop ∧ x.stop ≤ n) (hys : ∀ y ∈ ys, n ≤ y.start)
    (hf : n ≤ f.start) : dedupeStep (xs ++ ys) f = xs ++ dedupeStep ys f := by
  have hnotin : ∀ g : SensitiveFinding, n ≤ g.start → g ∉ xs := by
    intro g hg hmem
    have h := hxs g hmem
    omega
  have hfilter : (xs ++ ys).filter (fun item => f.overlaps item) =
      ys.filter (fun item => f.overlaps item) := by
    have hnone : xs.filter (fun item => f.overlaps item) = [] := by
      rw [List.filter_eq_nil_iff]
      intro x hx hoverlap
      have h := overlaps_iff.mp hoverlap
      have h' := hxs x hx
      omega
    rw [List.filter_append, hnone, List.nil_append]
  have herase : ∀ (items : List (SensitiveFinding × Nat)) (ys : List SensitiveFinding),
      (∀ item ∈ items, n ≤ item.1.start) →
        items.foldl (fun selected item => selected.erase item.1) (xs ++ ys) =
          xs ++ items.foldl (fun selected item => selected.erase item.1) ys := by
    intro items
    induction items with
    | nil => exact fun _ _ => rfl
    | cons item items ih =>
        intro ys hitems
        rw [List.foldl_cons, List.foldl_cons,
          List.erase_append_right _ (hnotin item.1 (hitems item (by simp)))]
        exact ih _ (fun other hother => hitems other (by simp [hother]))
  have hoverlapping : ∀ item ∈ (ys.filter (fun item => f.overlaps item)).zipIdx,
      n ≤ item.1.start := by
    intro item hitem
    have hmem := List.fst_mem_of_mem_zipIdx hitem
    exact hys item.1 (List.mem_filter.mp hmem).1
  unfold dedupeStep
  simp only [hfilter]
  cases hzip : (ys.filter (fun item => f.overlaps item)).zipIdx with
  | nil => exact List.append_assoc xs ys [f]
  | cons item rest =>
      rw [hzip] at hoverlapping
      simp only
      rw [herase _ _ (fun item hitem => hoverlapping item (List.mem_filter.mp hitem).1)]
      simp only [List.mem_append, hnotin f hf, false_or]
      split
      · rw [List.append_assoc]
      · rfl

theorem selectedAfter_of_cut {xs ys : List SensitiveFinding}
    (hxs : ∀ x ∈ xs, x.start < x.stop ∧ x.stop ≤ n) (hys : ∀ y ∈ ys, n ≤ y.start)
    (hsortedx : xs.Pairwise sortsBefore) (hsortedy : ys.Pairwise sortsBefore) :
    selectedAfter (xs ++ ys) = selectedAfter xs ++ selectedAfter ys := by
  induction ys using List.reverseRecOn with
  | nil => exact (congrArg selectedAfter (List.append_nil xs)).trans (List.append_nil _).symm
  | append_singleton done f ih =>
      have hdone := (List.pairwise_append.mp hsortedy).1
      rw [← List.append_assoc, selectedAfter_append, selectedAfter_append,
        ih (fun y hy => hys y (List.mem_append_left _ hy)) hdone]
      apply dedupeStep_append
      · exact fun x hx => hxs x ((selectedAfter_spec hsortedx).2 x hx)
      · exact fun y hy => hys y (List.mem_append_left _ ((selectedAfter_spec hdone).2 y hy))
      · exact hys f (by simp)

theorem endsBefore_iff {f : SensitiveFinding} : endsBefore n f = true ↔ f.stop ≤ n :=
  decide_eq_true_iff

theorem asideOf_filter {findings : List SensitiveFinding} (h : AsideOf n findings) :
    (∀ f ∈ findings.filter (endsBefore n), f.start < f.stop ∧ f.stop ≤ n) ∧
      ∀ f ∈ findings.filter (fun f => !endsBefore n f), f.start < f.stop ∧ n ≤ f.start := by
  constructor
  · intro f hf
    rcases List.mem_filter.mp hf with ⟨hmem, hbefore⟩
    exact ⟨(h f hmem).1, endsBefore_iff.mp hbefore⟩
  · intro f hf
    rcases List.mem_filter.mp hf with ⟨hmem, hafter⟩
    refine ⟨(h f hmem).1, ?_⟩
    rcases (h f hmem).2 with hstop | hstart
    · rw [endsBefore_iff.mpr hstop] at hafter
      cases hafter
    · exact hstart

/-- Findings that lie on the two sides of a position are told apart by it. -/
theorem filter_of_sides {xs ys : List SensitiveFinding}
    (hxs : ∀ x ∈ xs, x.start < x.stop ∧ x.stop ≤ n)
    (hys : ∀ y ∈ ys, y.start < y.stop ∧ n ≤ y.start) :
    (xs ++ ys).filter (endsBefore n) = xs ∧
      (xs ++ ys).filter (fun f => !endsBefore n f) = ys := by
  have hleft : ∀ x ∈ xs, endsBefore n x = true := fun x hx => endsBefore_iff.mpr (hxs x hx).2
  have hright : ∀ y ∈ ys, endsBefore n y = false := by
    intro y hy
    have h := hys y hy
    rw [← Bool.not_eq_true, endsBefore_iff]
    omega
  rw [List.filter_append, List.filter_append, List.filter_eq_self.mpr hleft,
    List.filter_eq_nil_iff.mpr (fun y hy => by simp [hright y hy]),
    List.filter_eq_nil_iff.mpr (fun x hx => by simp [hleft x hx]),
    List.filter_eq_self.mpr (fun y hy => by simp [hright y hy])]
  exact ⟨List.append_nil xs, rfl⟩

/-- Findings on the two sides of a cut are deduplicated apart. -/
theorem dedupe_of_cut {findings : List SensitiveFinding} (h : AsideOf n findings) :
    dedupe findings =
      dedupe (findings.filter (endsBefore n)) ++
        dedupe (findings.filter (fun f => !endsBefore n f)) := by
  rcases asideOf_filter h with ⟨hleft, hright⟩
  have hsort : sortFindings findings = sortFindings (findings.filter (endsBefore n)) ++
      sortFindings (findings.filter (fun f => !endsBefore n f)) := by
    apply insertionSort_eq_append
    intro f hf g hg hfleft hgleft
    have hfn := hleft f (List.mem_filter.mpr ⟨hf, hfleft⟩)
    have hgn := hright g (List.mem_filter.mpr ⟨hg, by simpa using hgleft⟩)
    refine ⟨Or.inl (by omega), ?_⟩
    intro hgf
    have hle := start_le_of_sortsBefore hgf
    omega
  have hselectedleft : ∀ f ∈ selectedAfter (sortFindings (findings.filter (endsBefore n))),
      f.start < f.stop ∧ f.stop ≤ n :=
    fun f hf => hleft f (mem_sortFindings.mp
      ((selectedAfter_spec (pairwise_sortFindings _)).2 f hf))
  have hselectedright :
      ∀ f ∈ selectedAfter (sortFindings (findings.filter (fun f => !endsBefore n f))),
        f.start < f.stop ∧ n ≤ f.start :=
    fun f hf => hright f (mem_sortFindings.mp
      ((selectedAfter_spec (pairwise_sortFindings _)).2 f hf))
  have hselected : selectedAfter (sortFindings findings) =
      selectedAfter (sortFindings (findings.filter (endsBefore n))) ++
        selectedAfter (sortFindings (findings.filter (fun f => !endsBefore n f))) := by
    rw [hsort]
    exact selectedAfter_of_cut (fun f hf => hleft f (mem_sortFindings.mp hf))
      (fun f hf => (hright f (mem_sortFindings.mp hf)).2) (pairwise_sortFindings _)
      (pairwise_sortFindings _)
  unfold dedupe
  rw [hselected]
  generalize selectedAfter (sortFindings (findings.filter (endsBefore n))) = xs at hselectedleft
  generalize selectedAfter (sortFindings (findings.filter (fun f => !endsBefore n f))) = ys
    at hselectedright
  -- the last sort, by the start alone, keeps the two sides apart as well
  rcases filter_of_sides hselectedleft hselectedright with ⟨hxs, hys⟩
  have hlast := @insertionSort_eq_append SensitiveFinding (fun f g => f.start ≤ g.start) _
    (endsBefore n) (xs ++ ys) (by
      intro f hf g hg hfleft hgleft
      have hfn := hselectedleft f (hxs ▸ List.mem_filter.mpr ⟨hf, hfleft⟩)
      have hgn := hselectedright g (hys ▸ List.mem_filter.mpr ⟨hg, by simpa using hgleft⟩)
      omega)
  rw [hxs, hys] at hlast
  exact hlast

end

/-! ## Replacing apart -/

section

variable {replacement : SensitiveFinding → List Char} {left right : List Char}

theorem weave_map_shift (j : Nat) {kept : List SensitiveFinding}
    (hshift : ∀ f ∈ kept, replacement (f.shift left.length) = replacement f) :
    weave replacement (left ++ right) (left.length + j)
        (kept.map (SensitiveFinding.shift left.length)) = weave replacement right j kept := by
  induction kept generalizing j with
  | nil =>
      change (left ++ right).drop (left.length + j) = right.drop j
      rw [List.drop_append, List.drop_eq_nil_of_le (Nat.le_add_right _ _), Nat.add_sub_cancel_left,
        List.nil_append]
  | cons f rest ih =>
      rw [List.map_cons, weave_cons, weave_cons, hshift f (by simp)]
      change _ ++ _ ++ weave replacement (left ++ right) (left.length + f.stop) _ = _
      rw [ih f.stop (fun g hg => hshift g (by simp [hg])), List.drop_append,
        List.drop_eq_nil_of_le (Nat.le_add_right _ _), Nat.add_sub_cancel_left, List.nil_append]
      have hstart : (f.shift left.length).start - (left.length + j) = f.start - j := by
        change left.length + f.start - (left.length + j) = f.start - j
        omega
      rw [hstart]

/-- The spans of two texts are replaced apart. -/
theorem weave_append {i : Nat} (hi : i ≤ left.length) {xs ys : List SensitiveFinding}
    (hxs : ∀ f ∈ xs, f.stop ≤ left.length)
    (hshift : ∀ f ∈ ys, replacement (f.shift left.length) = replacement f) :
    weave replacement (left ++ right) i (xs ++ ys.map (SensitiveFinding.shift left.length)) =
      weave replacement left i xs ++ weave replacement right 0 ys := by
  induction xs generalizing i with
  | nil =>
      cases ys with
      | nil =>
          change (left ++ right).drop i = left.drop i ++ right.drop 0
          rw [List.drop_append_of_le_length hi]
          rfl
      | cons f rest =>
          rw [List.nil_append, List.map_cons, weave_cons, weave_cons, hshift f (by simp),
            List.drop_append_of_le_length hi]
          have hrest := @weave_map_shift replacement left right f.stop rest
            (fun g hg => hshift g (by simp [hg]))
          change _ ++ _ ++ weave replacement (left ++ right) (left.length + f.stop) _ = _
          rw [hrest]
          change (left.drop i ++ right).take (left.length + f.start - i) ++ _ ++ _ =
            left.drop i ++ _
          have htake : (left.drop i ++ right).take (left.length + f.start - i) =
              left.drop i ++ right.take f.start := by
            rw [List.take_append, List.length_drop, List.take_of_length_le]
            · congr 2
              omega
            · rw [List.length_drop]
              omega
          rw [htake, List.drop_zero, Nat.sub_zero]
          simp only [List.append_assoc]
  | cons f rest ih =>
      have hstop := hxs f (by simp)
      have hvalid := f.valid
      rw [List.cons_append, weave_cons, weave_cons, ih hstop (fun g hg => hxs g (by simp [hg])),
        List.drop_append_of_le_length hi,
        List.take_append_of_le_length (by rw [List.length_drop]; omega)]
      simp only [List.append_assoc]

end

/-! ## Finding apart -/

theorem findingsFrom_append (p : CustomPattern) (i : Nat) (toks toks' : List (Token Char)) :
    findingsFrom p i (toks ++ toks') =
      findingsFrom p i toks ++ findingsFrom p (i + (toks.flatMap Token.text).length) toks' := by
  induction toks generalizing i with
  | nil => rfl
  | cons token toks ih =>
      rw [List.flatMap_cons, List.length_append, ← Nat.add_assoc]
      cases token with
      | skip a => exact ih (i + 1)
      | hit us => exact congrArg (p.finding i us :: ·) (ih (i + us.flatten.length))

theorem findingsFrom_add (p : CustomPattern) (n i : Nat) (toks : List (Token Char)) :
    findingsFrom p (n + i) toks = (findingsFrom p i toks).map (SensitiveFinding.shift n) := by
  induction toks generalizing i with
  | nil => rfl
  | cons token toks ih =>
      cases token with
      | skip a => exact ih (i + 1)
      | hit us =>
          rw [findingsFrom, findingsFrom, List.map_cons, Nat.add_assoc, ih]
          congr 1
          simp only [CustomPattern.finding, SensitiveFinding.shift, Nat.add_assoc]

/-- What the detector's table and the enterprise's recognizers find in two texts is what
they find in the two together. -/
structure FindsApart (d : Detector) (left right : List Char) : Prop where
  custom : ∀ p ∈ customPatterns, tokens d.unicode.accepts p.pattern (left ++ right) =
    tokens d.unicode.accepts p.pattern left ++ tokens d.unicode.accepts p.pattern right
  enterprise : d.enterpriseFindings (left ++ right) = d.enterpriseFindings left ++
    (d.enterpriseFindings right).map (SensitiveFinding.shift left.length)
  inside : ∀ text ∈ [left, right], ∀ f ∈ d.enterpriseFindings text,
    f.start < f.stop ∧ f.stop ≤ text.length ∧ f.source ≠ "presidio"

instance (d : Detector) (left right : List Char) : Decidable (FindsApart d left right) :=
  decidable_of_iff
    ((∀ p ∈ customPatterns, tokens d.unicode.accepts p.pattern (left ++ right) =
      tokens d.unicode.accepts p.pattern left ++ tokens d.unicode.accepts p.pattern right) ∧
      d.enterpriseFindings (left ++ right) = d.enterpriseFindings left ++
        (d.enterpriseFindings right).map (SensitiveFinding.shift left.length) ∧
      ∀ text ∈ [left, right], ∀ f ∈ d.enterpriseFindings text,
        f.start < f.stop ∧ f.stop ≤ text.length ∧ f.source ≠ "presidio")
    ⟨fun h => ⟨h.1, h.2.1, h.2.2⟩, fun h => ⟨h.custom, h.enterprise, h.inside⟩⟩

section

variable {d : Detector} {left right : List Char}

theorem findingsOf_append {unicode : PyUnicode} {p : CustomPattern}
    (h : tokens unicode.accepts p.pattern (left ++ right) =
      tokens unicode.accepts p.pattern left ++ tokens unicode.accepts p.pattern right) :
    findingsOf unicode p (left ++ right) = findingsOf unicode p left ++
      (findingsOf unicode p right).map (SensitiveFinding.shift left.length) := by
  unfold findingsOf
  rw [h, findingsFrom_append, (@scan_tokens _ _ unicode.accepts p.pattern left).flatMap_text,
    Nat.zero_add, ← findingsFrom_add]
  rfl

/-- The finding covers a character of a text of some length, and is not Presidio's. -/
def Inside (length : Nat) (f : SensitiveFinding) : Prop :=
  f.start < f.stop ∧ f.stop ≤ length ∧ f.source ≠ "presidio"

theorem inside_customFindings {unicode : PyUnicode} {text : List Char} :
    ∀ f ∈ customFindings unicode text, Inside text.length f := by
  intro f hf
  rcases customFindings_spec hf with ⟨p, -, hfp, -, hpos, ⟨front, back, htext, hfront, hvalue⟩, -⟩
  refine ⟨hpos, ?_, ?_⟩
  · rw [htext, List.length_append, List.length_append]
    omega
  · rcases mem_findingsFrom hfp with ⟨front, groups, back, -, rfl⟩
    exact (by decide : "custom" ≠ "presidio")

/-- What is found without Presidio. -/
def Detector.findings (d : Detector) (text : List Char) : List SensitiveFinding :=
  customFindings d.unicode text ++ d.enterpriseFindings text

theorem inspect_eq (text : List Char) : d.inspect text false = dedupe (d.findings text) := by
  unfold Detector.inspect
  rw [if_neg Bool.false_ne_true, List.append_nil]
  rfl

theorem mem_findings_of_mem_inspect {text : List Char} {f : SensitiveFinding}
    (h : f ∈ d.inspect text false) : f ∈ d.findings text := by
  rw [inspect_eq, mem_dedupe] at h
  exact mem_sortFindings.mp ((selectedAfter_spec (pairwise_sortFindings _)).2 f h)

/-- The redacted text is the text between the kept findings and their replacements. -/
theorem redact_eq_weave {text : List Char} (h : ∀ f ∈ d.findings text, Inside text.length f) :
    d.redact text false = weave d.replacement text 0 (d.inspect text false) := by
  have hkept : ∀ f ∈ d.inspect text false, Inside text.length f :=
    fun f hf => h f (mem_findings_of_mem_inspect hf)
  unfold Detector.redact
  simp only
  split
  · rename_i hnil
    rw [hnil]
    rfl
  · apply redactSpans_eq_weave
    · rw [inspect_eq]
      exact ordered_dedupe (fun f hf => (h f hf).1)
    · exact fun f hf => (hkept f hf).1
    · exact fun f hf => (hkept f hf).2.1

/-- What takes the place of a finding does not depend on where it stands. -/
theorem replacement_shift {f : SensitiveFinding} (h : f.source ≠ "presidio") (n : Nat) :
    d.replacement (f.shift n) = d.replacement f := by
  unfold Detector.replacement replacementFor
  rw [action_shift, if_neg h, if_neg (show (f.shift n).source ≠ "presidio" from h)]
  rfl

theorem inside_findings (h : FindsApart d left right) :
    (∀ f ∈ d.findings left, Inside left.length f) ∧
      ∀ f ∈ d.findings right, Inside right.length f := by
  constructor
  · intro f hf
    rcases List.mem_append.mp hf with hf | hf
    · exact inside_customFindings f hf
    · exact h.inside left (by simp) f hf
  · intro f hf
    rcases List.mem_append.mp hf with hf | hf
    · exact inside_customFindings f hf
    · exact h.inside right (by simp) f hf

theorem inside_shift {length : Nat} {f : SensitiveFinding} (h : Inside length f) (n : Nat) :
    (f.shift n).start < (f.shift n).stop ∧ n ≤ (f.shift n).start :=
  ⟨Nat.add_lt_add_left h.1 n, Nat.le_add_right n f.start⟩

/-- The findings of two texts are those of the two together, on the two sides of the
cut. -/
theorem filter_findings (h : FindsApart d left right) :
    (d.findings (left ++ right)).filter (endsBefore left.length) = d.findings left ∧
      (d.findings (left ++ right)).filter (fun f => !endsBefore left.length f) =
        (d.findings right).map (SensitiveFinding.shift left.length) := by
  rcases inside_findings h with ⟨hleft, hright⟩
  have hsides : ∀ {xs ys : List SensitiveFinding}, (∀ f ∈ xs, f ∈ d.findings left) →
      (∀ f ∈ ys, f ∈ d.findings right) →
        (xs ++ ys.map (SensitiveFinding.shift left.length)).filter
            (endsBefore left.length) = xs ∧
          (xs ++ ys.map (SensitiveFinding.shift left.length)).filter
            (fun f => !endsBefore left.length f) =
              ys.map (SensitiveFinding.shift left.length) := by
    intro xs ys hxs hys
    apply filter_of_sides
    · exact fun f hf => ⟨(hleft f (hxs f hf)).1, (hleft f (hxs f hf)).2.1⟩
    · intro f hf
      rcases List.mem_map.mp hf with ⟨g, hg, rfl⟩
      exact inside_shift (hright g (hys g hg)) left.length
  have hpattern : ∀ p ∈ customPatterns, ∀ text, ∀ f ∈ findingsOf d.unicode p text,
      f ∈ d.findings text :=
    fun p hp text f hf => List.mem_append_left _ (List.mem_flatMap.mpr ⟨p, hp, hf⟩)
  have henterprise := @hsides (d.enterpriseFindings left) (d.enterpriseFindings right)
    (fun f hf => List.mem_append_right _ hf) (fun f hf => List.mem_append_right _ hf)
  unfold Detector.findings customFindings
  rw [List.filter_append, List.filter_append, List.filter_flatMap, List.filter_flatMap,
    h.enterprise, henterprise.1, henterprise.2, List.map_append, List.map_flatMap]
  constructor
  · congr 1
    apply List.flatMap_congr
    intro p hp
    rw [findingsOf_append (h.custom p hp)]
    exact (hsides (hpattern p hp left) (hpattern p hp right)).1
  · congr 1
    apply List.flatMap_congr
    intro p hp
    rw [findingsOf_append (h.custom p hp)]
    exact (hsides (hpattern p hp left) (hpattern p hp right)).2

theorem asideOf_findings (h : FindsApart d left right) :
    AsideOf left.length (d.findings (left ++ right)) := by
  rcases inside_findings h with ⟨hleft, hright⟩
  rcases filter_findings h with ⟨hbefore, hafter⟩
  intro f hf
  cases hside : endsBefore left.length f with
  | true =>
      have hmem : f ∈ d.findings left := hbefore ▸ List.mem_filter.mpr ⟨hf, hside⟩
      exact ⟨(hleft f hmem).1, Or.inl (hleft f hmem).2.1⟩
  | false =>
      have hmem : f ∈ (d.findings right).map (SensitiveFinding.shift left.length) :=
        hafter ▸ List.mem_filter.mpr ⟨hf, by simp [hside]⟩
      rcases List.mem_map.mp hmem with ⟨g, hg, rfl⟩
      have hg := inside_shift (hright g hg) left.length
      exact ⟨hg.1, Or.inr hg.2⟩

/-- Two texts in which the same is found are redacted apart. -/
theorem redact_append (h : FindsApart d left right) :
    d.redact (left ++ right) false = d.redact left false ++ d.redact right false := by
  rcases inside_findings h with ⟨hleft, hright⟩
  rcases filter_findings h with ⟨hbefore, hafter⟩
  have hinside : ∀ f ∈ d.findings (left ++ right), Inside (left ++ right).length f := by
    intro f hf
    rw [List.length_append]
    rcases List.mem_append.mp hf with hf | hf
    · have hcustom := inside_customFindings f hf
      rw [List.length_append] at hcustom
      exact hcustom
    · rw [h.enterprise] at hf
      rcases List.mem_append.mp hf with hf | hf
      · have hin := h.inside left (by simp) f hf
        exact ⟨hin.1, Nat.le_trans hin.2.1 (Nat.le_add_right _ _), hin.2.2⟩
      · rcases List.mem_map.mp hf with ⟨g, hg, rfl⟩
        have hin := h.inside right (by simp) g hg
        exact ⟨Nat.add_lt_add_left hin.1 _, Nat.add_le_add_left hin.2.1 _, hin.2.2⟩
  have hinspect : d.inspect (left ++ right) false = d.inspect left false ++
      (d.inspect right false).map (SensitiveFinding.shift left.length) := by
    rw [inspect_eq, inspect_eq, inspect_eq, dedupe_of_cut (asideOf_findings h), hbefore, hafter,
      dedupe_map_shift]
  rw [redact_eq_weave hinside, redact_eq_weave hleft, redact_eq_weave hright, hinspect]
  apply weave_append (Nat.zero_le _)
  · exact fun f hf => (hleft f (mem_findings_of_mem_inspect hf)).2.1
  · exact fun f hf =>
      replacement_shift (hright f (mem_findings_of_mem_inspect hf)).2.2 left.length

end

end AuthClaw.Detection
