import AuthClaw.Detection.Actions

/-!
# What deduplication leaves in clear

Is every character that some finding asks to replace inside a kept finding that is
replaced?  The loop compares two overlapping findings by confidence and length
alone, and the one it gives up may reach beyond the one it keeps.

Main results:

- Theorem {lit}`covered_dedupeStep_iff`: an iteration keeps every character covered
  exactly when what it gives up is sheltered.
- Theorem {lit}`dedupe_covers_iff`: the loop keeps every character covered
  throughout exactly when each of its iterations does.
- Theorem {lit}`dedupe_uncovers`: a name next to an email address.
-/

namespace AuthClaw.Detection

section

variable (config : SensitivePolicy)

/-- The character at a position lies in a finding that is not allowed. -/
def Replaced (findings : List SensitiveFinding) (i : Nat) : Prop :=
  ∃ f ∈ findings, f.Covers i ∧ f.action config ≠ "allow"

/-- What is detected and not allowed lies in a kept finding that is replaced. -/
def Covered (findings kept : List SensitiveFinding) : Prop :=
  ∀ i, Replaced config findings i → Replaced config kept i

/-- A finding that is given up for another one is allowed or empty, or lies within
the other one, which is replaced. -/
def Shelters (given kept : SensitiveFinding) : Prop :=
  given.action config = "allow" ∨ given.start = given.stop ∨
    kept.start ≤ given.start ∧ given.stop ≤ kept.stop ∧ kept.action config ≠ "allow"

/-- The next iteration gives up sheltered findings only. -/
def StepShelters (selected : List SensitiveFinding) (finding : SensitiveFinding) : Prop :=
  ∀ item ∈ selected, finding.overlaps item = true →
    if finding.outranks item then Shelters config item finding else Shelters config finding item

/-- Every iteration of the loop over the sorted findings gives up sheltered findings
only. -/
def LoopShelters (findings : List SensitiveFinding) : Prop :=
  ∀ done finding, done ++ [finding] <+: sortFindings findings →
    StepShelters config (selectedAfter done) finding

/-- After every iteration the findings seen so far are covered. -/
def CoveredThroughout (findings : List SensitiveFinding) : Prop :=
  ∀ done, done <+: sortFindings findings → Covered config done (dedupe done)

variable {config}

theorem Replaced.mono {findings more : List SensitiveFinding} {i : Nat}
    (h : Replaced config findings i) (hsub : findings ⊆ more) : Replaced config more i := by
  rcases h with ⟨f, hf, hcovers, haction⟩
  exact ⟨f, hsub hf, hcovers, haction⟩

theorem replaced_append {findings more : List SensitiveFinding} {i : Nat} :
    Replaced config (findings ++ more) i ↔
      Replaced config findings i ∨ Replaced config more i := by
  unfold Replaced
  simp only [List.mem_append, or_and_right, exists_or]

/-- Two findings that cover one character overlap. -/
theorem overlaps_of_covers {f g : SensitiveFinding} {i : Nat} (hf : f.Covers i)
    (hg : g.Covers i) : f.overlaps g = true := by
  rw [SensitiveFinding.overlaps_iff]
  exact ⟨Nat.lt_of_le_of_lt hg.1 hf.2, Nat.lt_of_le_of_lt hf.1 hg.2⟩

/-- A sheltered finding is covered by the one that is kept. -/
theorem replaced_of_shelters {given kept : SensitiveFinding}
    (h : Shelters config given kept) {i : Nat} (hi : Replaced config [given] i) :
    Replaced config [kept] i := by
  rcases hi with ⟨f, hf, hcovers, haction⟩
  rw [List.mem_singleton] at hf
  subst hf
  rcases h with hallow | hempty | ⟨hstart, hstop, hkept⟩
  · exact absurd hallow haction
  · have hlt := Nat.lt_of_le_of_lt hcovers.1 hcovers.2
    omega
  · exact ⟨kept, by simp, ⟨Nat.le_trans hstart hcovers.1, Nat.lt_of_lt_of_le hcovers.2 hstop⟩,
      hkept⟩

/-- A finding that is given up and overlaps nothing else that is kept is covered only
when it is sheltered. -/
theorem shelters_of_replaced {given kept : SensitiveFinding} {others : List SensitiveFinding}
    (hothers : ∀ other ∈ others, given.overlaps other = false)
    (h : ∀ i, Replaced config [given] i → Replaced config (others ++ [kept]) i) :
    Shelters config given kept := by
  unfold Shelters
  by_contra hnot
  rw [not_or, not_or] at hnot
  rcases hnot with ⟨haction, hnonempty, hreach⟩
  have hlt : given.start < given.stop := lt_of_le_of_ne given.valid hnonempty
  have hinside : ∀ i, given.Covers i → kept.Covers i ∧ kept.action config ≠ "allow" := by
    intro i hi
    rcases replaced_append.mp (h i ⟨given, by simp, hi, haction⟩) with hother | hkept
    · rcases hother with ⟨other, hmem, hcovers, -⟩
      have hoverlap := overlaps_of_covers hi hcovers
      rw [hothers other hmem] at hoverlap
      cases hoverlap
    · rcases hkept with ⟨f, hf, hcovers, hreplaced⟩
      rw [List.mem_singleton] at hf
      subst hf
      exact ⟨hcovers, hreplaced⟩
  have hfirst := hinside given.start ⟨le_rfl, hlt⟩
  have hlast := hinside (given.stop - 1) ⟨by omega, by omega⟩
  apply hreach
  refine ⟨hfirst.1.1, ?_, hfirst.2⟩
  have hstop := hlast.1.2
  omega

/-- An iteration keeps everything covered exactly when what it gives up is
sheltered. -/
theorem covered_dedupeStep_iff {done selected : List SensitiveFinding}
    {finding : SensitiveFinding} (hcovered : Covered config done selected)
    (hsub : selected ⊆ done) (hseparated : Separated selected)
    (hstarts : StartsBefore selected finding) :
    Covered config (done ++ [finding]) (dedupeStep selected finding) ↔
      StepShelters config selected finding := by
  rcases dedupeStep_cases hseparated hstarts with
    ⟨hnone, hstep⟩ | ⟨item, hitem, hoverlap, hrest, hcase⟩
  · refine iff_of_true ?_ ?_
    · rw [hstep]
      intro i hi
      rcases replaced_append.mp hi with hi | hi
      · exact replaced_append.mpr (Or.inl (hcovered i hi))
      · exact replaced_append.mpr (Or.inr hi)
    · intro item hitem hoverlap
      rw [hnone item hitem] at hoverlap
      cases hoverlap
  · have hshelters : StepShelters config selected finding ↔
        if finding.outranks item then Shelters config item finding
        else Shelters config finding item := by
      constructor
      · intro h
        exact h item hitem hoverlap
      · intro h other hother hboth
        rcases List.mem_cons.mp ((List.perm_cons_erase hitem).mem_iff.mp hother) with rfl | hmem
        · exact h
        · rw [hrest other hmem] at hboth
          cases hboth
    rw [hshelters]
    rcases hcase with ⟨hrank, hstep⟩ | ⟨hrank, hstep⟩
    · rw [if_pos hrank, hstep]
      constructor
      · intro h
        apply @shelters_of_replaced config item finding (selected.erase item)
        · intro other hother
          rw [SensitiveFinding.overlaps_comm]
          exact not_overlaps_of_mem_erase hseparated hitem hother
        · intro i hi
          apply h i
          exact replaced_append.mpr (Or.inl (hi.mono (by simpa using hsub hitem)))
      · intro h i hi
        rcases replaced_append.mp hi with hi | hi
        · rcases hcovered i hi with ⟨f, hf, hcovers, haction⟩
          rcases List.mem_cons.mp ((List.perm_cons_erase hitem).mem_iff.mp hf) with rfl | hf
          · exact replaced_append.mpr
              (Or.inr (replaced_of_shelters h ⟨f, by simp, hcovers, haction⟩))
          · exact replaced_append.mpr (Or.inl ⟨f, hf, hcovers, haction⟩)
        · exact replaced_append.mpr (Or.inr hi)
    · rw [if_neg (by simp [hrank]), hstep]
      constructor
      · intro h
        apply @shelters_of_replaced config finding item (selected.erase item) hrest
        intro i hi
        have hselected := h i (replaced_append.mpr (Or.inr hi))
        refine hselected.mono ?_
        intro f hf
        rcases List.mem_cons.mp ((List.perm_cons_erase hitem).mem_iff.mp hf) with rfl | hf
        · simp
        · simp [hf]
      · intro h i hi
        rcases replaced_append.mp hi with hi | hi
        · exact hcovered i hi
        · exact (replaced_of_shelters h hi).mono (by simpa using hitem)

/-! ## The loop -/

/-- Coverage reads the kept findings as a set. -/
theorem covered_dedupe_iff {findings done : List SensitiveFinding}
    (hdone : done <+: sortFindings findings) :
    Covered config done (dedupe done) ↔ Covered config done (selectedAfter done) := by
  have hsame : ∀ i, Replaced config (dedupe done) i ↔ Replaced config (selectedAfter done) i := by
    intro i
    unfold Replaced
    simp only [mem_dedupe, sortFindings_of_prefix hdone]
  unfold Covered
  simp only [hsame]

/-- The loop keeps everything covered when each of its iterations does; the induction
is on the findings it has gone over. -/
theorem covered_selectedAfter {findings : List SensitiveFinding}
    (h : LoopShelters config findings) :
    ∀ done, done <+: sortFindings findings → Covered config done (selectedAfter done) := by
  intro done
  induction done using List.reverseRecOn with
  | nil =>
      intro _ i hi
      rcases hi with ⟨f, hf, -⟩
      cases hf
  | append_singleton done finding ih =>
      intro hbegins
      have hsorted := (pairwise_sortFindings findings).sublist hbegins.sublist
      have hdone : done <+: sortFindings findings :=
        (List.prefix_append done [finding]).trans hbegins
      have hspec := selectedAfter_spec (List.pairwise_append.mp hsorted).1
      rw [selectedAfter_append]
      exact (covered_dedupeStep_iff (ih hdone) hspec.2 hspec.1
        (startsBefore_selectedAfter hsorted)).mpr (h done finding hbegins)

/-- What the findings cover is covered throughout the loop exactly when every
iteration gives up sheltered findings only; it is then covered at the end. -/
theorem dedupe_covers_iff (config : SensitivePolicy) (findings : List SensitiveFinding) :
    (CoveredThroughout config findings ↔ LoopShelters config findings) ∧
      (LoopShelters config findings → Covered config findings (dedupe findings)) := by
  refine ⟨⟨?_, ?_⟩, ?_⟩
  · intro h done finding hbegins
    have hsorted := (pairwise_sortFindings findings).sublist hbegins.sublist
    have hdone : done <+: sortFindings findings :=
      (List.prefix_append done [finding]).trans hbegins
    have hspec := selectedAfter_spec (List.pairwise_append.mp hsorted).1
    have hbefore := (covered_dedupe_iff hdone).mp (h done hdone)
    have hafter := (covered_dedupe_iff hbegins).mp (h _ hbegins)
    rw [selectedAfter_append] at hafter
    exact (covered_dedupeStep_iff hbefore hspec.2 hspec.1
      (startsBefore_selectedAfter hsorted)).mp hafter
  · intro h done hdone
    exact (covered_dedupe_iff hdone).mpr (covered_selectedAfter h done hdone)
  · intro h i hi
    have hall := covered_selectedAfter h (sortFindings findings) (List.prefix_refl _) i
      (hi.mono (fun f hf => mem_sortFindings.mpr hf))
    rcases hall with ⟨f, hf, hcovers, haction⟩
    exact ⟨f, mem_dedupe.mpr hf, hcovers, haction⟩

end

/-! ## A name next to an address -/

/-- What the detector finds in `name: John Smith@x.io`. -/
def nameAndEmail : List SensitiveFinding :=
  [{ entityType := "email", start := 11, stop := 21, value := "Smith@x.io".toList,
      confidence := 96 / 100, source := "custom", valid := by decide },
    { entityType := "name", start := 6, stop := 16, value := "John Smith".toList,
      confidence := 82 / 100, source := "custom", valid := by decide }]

/-- The email address wins, and the first name stays in clear. -/
theorem dedupe_uncovers :
    ¬ ∀ (config : SensitivePolicy) (findings : List SensitiveFinding),
      Covered config findings (dedupe findings) := by
  intro h
  have hname : Replaced defaultSensitivePolicy nameAndEmail 6 := by
    refine ⟨_, List.mem_cons_of_mem _ (List.mem_singleton.mpr rfl), ⟨?_, ?_⟩, ?_⟩ <;> decide +kernel
  have hkept : ∀ f ∈ dedupe nameAndEmail, f.start = 11 := by
    decide +kernel
  rcases h defaultSensitivePolicy nameAndEmail 6 hname with ⟨f, hf, hcovers, -⟩
  have hstart := hkept f hf
  have hle := hcovers.1
  omega

end AuthClaw.Detection
