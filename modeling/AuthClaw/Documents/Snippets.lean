import AuthClaw.Detection.Shape

/-!
# The snippets of a page's findings

{lit}`_redact_page` redacts a page and notes each finding with a snippet: the 24 characters
before it and the 24 after it, with the finding itself left out.  The snippets are cut from
the text as it was extracted, not from the redacted one.

Main results:

- Theorem {lit}`inspect_reporting`: every list of kept findings is what some detector finds
  in a text that the recognizers of the table pass over.
- Theorem {lit}`snippets_eq_iff_apart`: the snippets tell nothing of the findings exactly when
  no finding reaches into the window around one.
- Theorem {lit}`snippets_tell`: a number next to another.
-/

namespace AuthClaw.Documents

open Detection PythonText Regex CharClass

/-! ## The page -/

/-- `replacement` on both sides of a snippet. -/
def sensitiveMark : List Char :=
  "[SENSITIVE]".toList

/-- The characters of a snippet on each side. -/
def snippetReach : Nat := 24

/-- `_safe_snippet` -/
def safeSnippet (py : PyText) (text : List Char) (start stop : Nat) : String :=
  let before := (text.take start).drop (start - snippetReach)
  let after := (text.take (min text.length (stop + snippetReach))).drop stop
  py.strip (replaceChar '\n' ' ' (String.ofList (before ++ sensitiveMark ++ after)))

/-- What `_redact_page` notes of a finding. -/
structure PageFinding where
  policyFinding : PolicyFinding
  fieldType : String
  page : Nat
  location : String
  start : Nat
  stop : Nat
  source : String
  actionTaken : String
  snippet : String
deriving DecidableEq

section

variable (d : Detector) (text : List Char) (pageNumber : Nat) (source username : String)

/-- The note of a finding. -/
def pageFinding (f : SensitiveFinding) : PageFinding where
  policyFinding := d.toPolicyFinding username f
  fieldType := f.entityType
  page := pageNumber
  location := "page " ++ toString pageNumber ++ ", characters " ++ toString f.start ++ "-" ++
    toString f.stop
  start := f.start
  stop := f.stop
  source := source
  actionTaken := f.action d.config
  snippet := safeSnippet d.py text f.start f.stop

/-- The body of the loop of `_redact_page`. -/
def redactPageStep (done : List Char × List PageFinding) (f : SensitiveFinding) :
    List Char × List PageFinding :=
  (replaceSpan done.1 f (d.replacement f),
    done.2 ++ [pageFinding d text pageNumber source username f])

/-- `_redact_page` -/
def redactPage : List Char × List PageFinding :=
  let findings := d.inspect text true
  let result := (findings.insertionSort (fun f g => g.start ≤ f.start)).foldl
    (redactPageStep d text pageNumber source username) (text, [])
  (result.1, result.2.reverse)

/-- The snippets that a page is noted with. -/
def snippets : List String :=
  (redactPage d text pageNumber source username).2.map PageFinding.snippet

end

/-! ## Two pages -/

/-- The types and the spans of findings. -/
def places (findings : List SensitiveFinding) : List (String × Nat × Nat) :=
  findings.map (fun f => (f.entityType, f.start, f.stop))

/-- Two texts of one length in which a detector finds the same, and which differ only inside
what it finds. -/
structure Twins (d : Detector) (found : List SensitiveFinding) (text other : List Char) :
    Prop where
  length_eq : text.length = other.length
  places_left : places (d.inspect text true) = places found
  places_right : places (d.inspect other true) = places found
  outside : ∀ i, (∀ f ∈ found, ¬ f.Covers i) → text[i]? = other[i]?

/-- Two pages of one length, with the same findings and different only inside these, have
the same snippets. -/
def TellsNothing (length : Nat) (found : List SensitiveFinding) : Prop :=
  ∀ (d : Detector) (text other : List Char) (pageNumber : Nat) (source username : String),
    text.length = length → Twins d found text other →
      snippets d text pageNumber source username = snippets d other pageNumber source username

/-- The snippet of a finding shows the character at a position. -/
def InWindow (f : SensitiveFinding) (i : Nat) : Prop :=
  f.start - snippetReach ≤ i ∧ i < f.start ∨ f.stop ≤ i ∧ i < f.stop + snippetReach

/-- No snippet shows a character of the text inside a finding. -/
def WindowsApart (length : Nat) (found : List SensitiveFinding) : Prop :=
  ∀ f ∈ found, ∀ g ∈ found, ∀ i < length, InWindow f i → ¬ g.Covers i

/-! ## What a snippet shows -/

section

variable {py : PyText} {text other : List Char}

/-- Two texts that agree on a range have the same text there. -/
theorem take_drop_congr {lo hi : Nat} (h : ∀ i, lo ≤ i → i < hi → text[i]? = other[i]?) :
    (text.take hi).drop lo = (other.take hi).drop lo := by
  apply List.ext_getElem?
  intro i
  rw [List.getElem?_drop, List.getElem?_drop, List.getElem?_take, List.getElem?_take]
  split
  · rename_i hi
    exact h (lo + i) (Nat.le_add_right lo i) hi
  · rfl

/-- A snippet shows the text in its window. -/
theorem safeSnippet_congr {f : SensitiveFinding}
    (h : ∀ i, InWindow f i → text[i]? = other[i]?) :
    safeSnippet py text f.start f.stop = safeSnippet py other f.start f.stop := by
  have hbefore : (text.take f.start).drop (f.start - snippetReach) =
      (other.take f.start).drop (f.start - snippetReach) :=
    take_drop_congr (fun i hlo hhi => h i (Or.inl ⟨hlo, hhi⟩))
  have hafter : (text.take (f.stop + snippetReach)).drop f.stop =
      (other.take (f.stop + snippetReach)).drop f.stop :=
    take_drop_congr (fun i hlo hhi => h i (Or.inr ⟨hlo, hhi⟩))
  unfold safeSnippet
  simp only
  rw [Nat.min_comm, ← List.take_eq_take_min, Nat.min_comm, ← List.take_eq_take_min, hbefore,
    hafter]

/-! ## What two pages show -/

theorem foldl_redactPageStep {d : Detector} {pageNumber : Nat} {source username : String}
    {kept : List SensitiveFinding} (done : List Char × List PageFinding) :
    (kept.foldl (redactPageStep d text pageNumber source username) done).2 =
      done.2 ++ kept.map (pageFinding d text pageNumber source username) := by
  induction kept generalizing done with
  | nil => rw [List.foldl_nil, List.map_nil, List.append_nil]
  | cons f rest ih =>
      rw [List.foldl_cons, ih, List.map_cons]
      simp only [redactPageStep, List.append_assoc, List.singleton_append]

/-- The snippets depend on the places of the findings, and on the text in their windows. -/
theorem snippets_eq (d : Detector) (text : List Char) (pageNumber : Nat)
    (source username : String) :
    snippets d text pageNumber source username =
      (((places (d.inspect text true)).insertionSort (fun p q => q.2.1 ≤ p.2.1)).map
        (fun p => safeSnippet d.py text p.2.1 p.2.2)).reverse := by
  have hplaces : ((d.inspect text true).insertionSort (fun f g => g.start ≤ f.start)).map
      (fun f => (f.entityType, f.start, f.stop)) =
      (places (d.inspect text true)).insertionSort (fun p q => q.2.1 ≤ p.2.1) :=
    List.map_insertionSort _ _ _ _ (fun _ _ _ _ => Iff.rfl)
  unfold snippets redactPage
  simp only
  rw [foldl_redactPageStep, List.nil_append, List.map_reverse, List.map_map, ← hplaces,
    List.map_map]
  rfl

/-- Where no window shows a character inside a finding, the snippets tell nothing. -/
theorem tellsNothing_of_windowsApart {length : Nat} {found : List SensitiveFinding}
    (h : WindowsApart length found) : TellsNothing length found := by
  intro d text other pageNumber source username hlength htwins
  rw [snippets_eq, snippets_eq, htwins.places_left, htwins.places_right]
  refine congrArg List.reverse (List.map_congr_left ?_)
  intro p hp
  rw [List.mem_insertionSort] at hp
  rcases List.mem_map.mp hp with ⟨f, hf, rfl⟩
  apply safeSnippet_congr
  intro i hwindow
  by_cases hi : i < length
  · exact htwins.outside i (fun g hg => h f hf g hg i hi hwindow)
  · have hother := htwins.length_eq
    rw [List.getElem?_eq_none (by omega), List.getElem?_eq_none (by omega)]

/-- Two pages with the same snippets have the same one for each finding. -/
theorem safeSnippet_eq_of_snippets_eq {d : Detector} {found : List SensitiveFinding}
    {pageNumber : Nat} {source username : String} (htwins : Twins d found text other)
    (h : snippets d text pageNumber source username = snippets d other pageNumber source username)
    {f : SensitiveFinding} (hf : f ∈ found) :
    safeSnippet d.py text f.start f.stop = safeSnippet d.py other f.start f.stop := by
  rw [snippets_eq, snippets_eq, htwins.places_left, htwins.places_right] at h
  have hmem : (f.entityType, f.start, f.stop) ∈
      (places found).insertionSort (fun p q => q.2.1 ≤ p.2.1) :=
    (List.mem_insertionSort _).mpr (List.mem_map_of_mem hf)
  have hall := List.map_inj_left.mp (List.reverse_injective h)
  exact hall (f.entityType, f.start, f.stop) hmem

/-! ## A page with given findings -/

/-- Findings that are kept already are kept again. -/
theorem dedupe_of_separated {kept : List SensitiveFinding}
    (hsorted : kept.Pairwise SensitiveFinding.sortsBefore) (hseparated : Separated kept) :
    dedupe kept = kept := by
  rw [dedupe_eq_selectedAfter]
  unfold sortFindings
  rw [List.Pairwise.insertionSort_eq hsorted]
  induction kept using List.reverseRecOn with
  | nil => rfl
  | append_singleton done finding ih =>
      have hdone := ih (List.pairwise_append.mp hsorted).1 (List.pairwise_append.mp hseparated).1
      have hstarts := startsBefore_selectedAfter hsorted
      rw [hdone] at hstarts
      rw [selectedAfter_append, hdone]
      rcases dedupeStep_cases (List.pairwise_append.mp hseparated).1 hstarts with
        ⟨-, hstep⟩ | ⟨item, hitem, hoverlap, -⟩
      · exact hstep
      · have hapart := (List.pairwise_append.mp hseparated).2.2 item hitem finding
          List.mem_cons_self
        rw [SensitiveFinding.overlaps_comm, hoverlap] at hapart
        cases hapart

/-- A finding in another text. -/
def quoting (text : List Char) (f : SensitiveFinding) : SensitiveFinding :=
  { f with value := (text.drop f.start).take (f.stop - f.start) }

/-- A detector whose analyzer reports spans in any text. -/
def reporting (d : Detector) (found : List SensitiveFinding) : Detector :=
  { d with
    enterpriseFindings := fun _ => []
    presidioFindings := fun text => found.map (quoting text) }

/-- The characters of texts that the recognizers of the table pass over. -/
def isBlankFor (c : Char) : Bool :=
  c = '!' || c = '~'

/-- The class accepts none of these characters. -/
def passesOver (k : CharClass) : Bool :=
  !k.accepts asciiTables '!' && !k.accepts asciiTables '~'

/-- Every pattern of the table takes a character that is not one of these. -/
theorem one_le_minCount_passesOver {p : CustomPattern} (hp : p ∈ customPatterns) :
    1 ≤ (p.parts.map (minCount passesOver)).sum := by
  have hall : ∀ p ∈ customPatterns, 1 ≤ (p.parts.map (minCount passesOver)).sum := by
    decide +kernel
  exact hall p hp

theorem customFindings_of_passedOver {unicode : PyUnicode} {text : List Char}
    (h : ∀ c ∈ text, isBlankFor c = true) : customFindings unicode text = [] := by
  unfold customFindings
  rw [List.flatMap_eq_nil_iff]
  intro p hp
  rw [findingsOf_eq_nil_iff]
  intro hoccurs
  have hgood : ∀ k c, passesOver k = true → unicode.accepts k c = true →
      (!isBlankFor c) = true := by
    intro k c hk hacc
    unfold passesOver at hk
    rw [Bool.and_eq_true, Bool.not_eq_true', Bool.not_eq_true'] at hk
    cases hblank : isBlankFor c with
    | false => rfl
    | true =>
        unfold isBlankFor at hblank
        rw [Bool.or_eq_true, decide_eq_true_eq, decide_eq_true_eq] at hblank
        rcases hblank with rfl | rfl
        · rw [accepts_ascii (by decide), hk.1] at hacc
          cases hacc
        · rw [accepts_ascii (by decide), hk.2] at hacc
          cases hacc
  have hmin : (p.pattern.parts.map (minCount _)).sum ≤ text.countP _ :=
    Occurs.minCount_le hgood hoccurs
  have hcount := (one_le_minCount_passesOver hp).trans hmin
  have hnone : text.countP (fun c => !isBlankFor c) = 0 := by
    rw [List.countP_eq_zero]
    intro c hc
    rw [h c hc]
    decide
  omega

/-- Every list of kept findings is what a detector finds in a text that the recognizers of
the table pass over. -/
theorem inspect_reporting (d : Detector) {kept : List SensitiveFinding}
    (hsorted : kept.Pairwise SensitiveFinding.sortsBefore) (hseparated : Separated kept)
    {text : List Char} (h : ∀ c ∈ text, isBlankFor c = true) :
    (reporting d kept).inspect text true = kept.map (quoting text) := by
  unfold Detector.inspect
  rw [customFindings_of_passedOver h]
  apply dedupe_of_separated
  · exact List.pairwise_map.mpr hsorted
  · exact List.pairwise_map.mpr hseparated

theorem places_inspect_reporting (d : Detector) (page : List Char) {text : List Char}
    (h : ∀ c ∈ text, isBlankFor c = true) :
    places ((reporting d (d.inspect page true)).inspect text true) =
      places (d.inspect page true) := by
  have hsorted : (d.inspect page true).Pairwise SensitiveFinding.sortsBefore :=
    (pairwise_sortFindings _).sublist (dedupe_sublist _)
  rw [inspect_reporting d hsorted (separated_dedupe _) h]
  unfold places
  rw [List.map_map]
  rfl

/-- A snippet of such a text is shown as it is cut. -/
theorem safeSnippet_of_passedOver (h : ∀ c ∈ text, isBlankFor c = true) (start stop : Nat) :
    safeSnippet py text start stop =
      String.ofList ((text.take start).drop (start - snippetReach) ++ sensitiveMark ++
        (text.take (min text.length (stop + snippetReach))).drop stop) := by
  have hplain : ∀ c ∈ (text.take start).drop (start - snippetReach) ++ sensitiveMark ++
      (text.take (min text.length (stop + snippetReach))).drop stop,
      c.toNat < 128 ∧ asciiSpace c = false ∧ c ≠ '\n' := by
    have hblank : ∀ c, isBlankFor c = true → c.toNat < 128 ∧ asciiSpace c = false ∧ c ≠ '\n' := by
      intro c hc
      unfold isBlankFor at hc
      rw [Bool.or_eq_true, decide_eq_true_eq, decide_eq_true_eq] at hc
      rcases hc with rfl | rfl
      · decide
      · decide
    have hmark : sensitiveMark.all
        (fun c => c.toNat < 128 ∧ asciiSpace c = false ∧ c ≠ '\n') = true := by
      decide
    intro c hc
    rcases List.mem_append.mp hc with hc | hc
    · rcases List.mem_append.mp hc with hc | hc
      · exact hblank c (h c (List.mem_of_mem_take (List.mem_of_mem_drop hc)))
      · exact of_decide_eq_true (List.all_eq_true.mp hmark c hc)
    · exact hblank c (h c (List.mem_of_mem_take (List.mem_of_mem_drop hc)))
  have hreplace : replaceChar '\n' ' ' (String.ofList
      ((text.take start).drop (start - snippetReach) ++ sensitiveMark ++
        (text.take (min text.length (stop + snippetReach))).drop stop)) =
      String.ofList ((text.take start).drop (start - snippetReach) ++ sensitiveMark ++
        (text.take (min text.length (stop + snippetReach))).drop stop) := by
    unfold replaceChar
    rw [String.toList_ofList]
    refine congrArg String.ofList ?_
    conv_rhs => rw [← List.map_id (_ ++ _ ++ _)]
    exact List.map_congr_left (fun c hc => if_neg (hplain c hc).2.2)
  unfold safeSnippet
  simp only
  rw [hreplace]
  apply PyText.strip_eq_self
  intro c hc
  rw [String.toList_ofList] at hc
  rw [py.isSpace_ascii c (hplain c hc).1]
  exact (hplain c hc).2.1

/-- Two such texts with the same snippet agree in its window. -/
theorem window_eq_of_safeSnippet_eq (htext : ∀ c ∈ text, isBlankFor c = true)
    (hother : ∀ c ∈ other, isBlankFor c = true) (hlength : text.length = other.length)
    {f : SensitiveFinding}
    (h : safeSnippet py text f.start f.stop = safeSnippet py other f.start f.stop) {i : Nat}
    (hi : i < text.length) (hwindow : InWindow f i) : text[i]? = other[i]? := by
  rw [safeSnippet_of_passedOver htext, safeSnippet_of_passedOver hother] at h
  have hlists := String.ofList_injective h
  rw [List.append_assoc, List.append_assoc] at hlists
  have hbefore := List.append_inj hlists (by simp [hlength])
  have hafter := List.append_cancel_left hbefore.2
  rcases hwindow with ⟨hlo, hhi⟩ | ⟨hlo, hhi⟩
  · have hat := congrArg (fun l => l[i - (f.start - snippetReach)]?) hbefore.1
    simp only [List.getElem?_drop, List.getElem?_take] at hat
    rwa [Nat.add_sub_cancel' hlo, if_pos hhi, if_pos hhi] at hat
  · have hat := congrArg (fun l => l[i - f.stop]?) hafter
    simp only [List.getElem?_drop, List.getElem?_take] at hat
    rwa [Nat.add_sub_cancel' hlo, if_pos (by omega), if_pos (by omega)] at hat

end

/-- The snippets of a page's findings tell nothing of the text inside the findings exactly
when no finding reaches into the 24 characters before or after another. -/
theorem snippets_eq_iff_apart (d : Detector) (page : List Char) :
    TellsNothing page.length (d.inspect page true) ↔
      WindowsApart page.length (d.inspect page true) := by
  constructor
  · intro htells f hf g hg i hi hwindow hcovers
    -- the two pages differ only in the character of `g` that the snippet of `f` shows
    have htext : ∀ c ∈ List.replicate page.length '!', isBlankFor c = true := by
      intro c hc
      rw [List.eq_of_mem_replicate hc]
      decide
    have hother : ∀ c ∈ (List.replicate page.length '!').set i '~', isBlankFor c = true := by
      intro c hc
      rcases List.mem_or_eq_of_mem_set hc with hc | rfl
      · exact htext c hc
      · decide
    have htwins : Twins (reporting d (d.inspect page true)) (d.inspect page true)
        (List.replicate page.length '!') ((List.replicate page.length '!').set i '~') :=
      { length_eq := List.length_set.symm
        places_left := places_inspect_reporting d page htext
        places_right := places_inspect_reporting d page hother
        outside := by
          intro j houtside
          have hne : i ≠ j := by
            rintro rfl
            exact houtside g hg hcovers
          rw [List.getElem?_set_ne hne] }
    have hsame := htells _ _ _ 0 "" "" List.length_replicate htwins
    have hwindows := window_eq_of_safeSnippet_eq htext hother htwins.length_eq
      (safeSnippet_eq_of_snippets_eq htwins hsame hf)
      (by rw [List.length_replicate]; exact hi) hwindow
    rw [List.getElem?_set_self (by rw [List.length_replicate]; exact hi),
      List.getElem?_replicate, if_pos hi] at hwindows
    exact absurd hwindows (by decide)
  · exact tellsNothing_of_windowsApart

/-- Two account numbers, the second of which stands in the snippet of the first. -/
def twoNumbers : List Char :=
  "ABCDE1234F ABCDE1234G".toList

/-- Two pages that differ in the last character of the second number. -/
theorem snippets_tell :
    ¬ ∀ (d : Detector) (text other : List Char) (pageNumber : Nat) (source username : String),
      Twins d (d.inspect text true) text other →
        snippets d text pageNumber source username =
          snippets d other pageNumber source username := by
  intro h
  have htwins : Twins plainDetector (plainDetector.inspect twoNumbers true) twoNumbers
      (twoNumbers.set 20 'H') :=
    { length_eq := List.length_set.symm
      places_left := rfl
      places_right := by decide +kernel
      outside := by
        intro i houtside
        have hlast : ∃ f ∈ plainDetector.inspect twoNumbers true, f.start ≤ 20 ∧ 20 < f.stop := by
          decide +kernel
        have hne : 20 ≠ i := by
          rintro rfl
          rcases hlast with ⟨f, hf, hcovers⟩
          exact houtside f hf hcovers
        rw [List.getElem?_set_ne hne] }
  have hdiffer : snippets plainDetector twoNumbers 1 "pdf" "ada" ≠
      snippets plainDetector (twoNumbers.set 20 'H') 1 "pdf" "ada" := by
    decide +kernel
  exact hdiffer (h _ _ _ _ _ _ htwins)

end AuthClaw.Documents
