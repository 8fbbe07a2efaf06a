import AuthClaw.Redaction.PythonRedactor

/-!
# Which characters a redaction leaves

The redactor is run over characters that carry their position in the text.  Dropping
the positions gives the redactor back, so the positions that come out are those of the
characters left in clear.

Main results:

- Theorem {lit}`map_runPasses`: the passes over cells spell the passes over characters.
- Theorem {lit}`PyPass.leaves_sub`: a pass puts out what it was given and what it writes.
- Theorem {lit}`PyPass.mem_sub_of_rejects`: a pass leaves what none of its classes accepts.
- Theorem {lit}`map_redactTracked`: the redaction with positions spells the redaction.
-/

namespace AuthClaw.Redaction

open Regex CharClass PythonText AuthClaw.Detection AuthClaw.Policy

/-! ## Cells spell characters -/

section

variable {α : Type} (redactor : Redactor) (cells : Cells α)

theorem map_written (text : List Char) : (text.map cells.written).map cells.char = text := by
  rw [List.map_map]
  have hid : cells.char ∘ cells.written = id := funext cells.char_written
  rw [hid, List.map_id]

theorem map_literal (text : String) :
    (cells.literal text).map cells.char = plainCells.literal text := by
  unfold Cells.literal
  rw [map_written]
  exact (List.map_id _).symm

theorem map_starDigits (hidden : Nat) (val : List α) :
    (starDigits redactor cells hidden val).map cells.char =
      starDigits redactor plainCells hidden (val.map cells.char) := by
  induction val generalizing hidden with
  | nil => rfl
  | cons a rest ih =>
      rw [List.map_cons, starDigits, starDigits]
      by_cases ha : redactor.detector.unicode.isDigit (cells.char a) = true
      · rw [if_pos ha, if_pos (show redactor.detector.unicode.isDigit
          (plainCells.char (cells.char a)) = true from ha), List.map_cons, ih]
        by_cases hhidden : hidden = 0
        · rw [if_pos hhidden, if_pos hhidden]
        · rw [if_neg hhidden, if_neg hhidden, cells.char_written]
          rfl
      · rw [if_neg ha, if_neg (show ¬ redactor.detector.unicode.isDigit
          (plainCells.char (cells.char a)) = true from ha), List.map_cons, ih]

theorem map_takeWhile_char (val : List α) :
    (val.takeWhile (fun a => cells.char a ≠ '@')).map cells.char =
      (val.map cells.char).takeWhile (fun c => plainCells.char c ≠ '@') := by
  rw [List.takeWhile_map]
  rfl

theorem map_maskAddress (val : List α) :
    (maskAddress cells val).map cells.char = maskAddress plainCells (val.map cells.char) := by
  have hname := map_takeWhile_char cells val
  have hlength := congrArg List.length hname
  rw [List.length_map] at hlength
  unfold maskAddress
  simp only
  rw [← hlength, ← hname]
  by_cases hlong : 2 < (val.takeWhile (fun a => cells.char a ≠ '@')).length
  · rw [if_pos hlong, if_pos hlong]
    simp only [List.map_append, List.map_take, List.map_drop, List.map_replicate,
      cells.char_written]
    rfl
  · rw [if_neg hlong, if_neg hlong]
    simp only [List.map_append, List.map_drop, List.map_replicate, cells.char_written]
    rfl

theorem map_fallbackRedaction (field : String) (val : List α) :
    (fallbackRedaction cells field val).map cells.char =
      fallbackRedaction plainCells field (val.map cells.char) := by
  unfold fallbackRedaction
  simp only [apply_ite (List.map cells.char), map_literal]

theorem any_at_map (val : List α) :
    (val.map cells.char).any (fun c => plainCells.char c = '@') =
      val.any (fun a => cells.char a = '@') := by
  rw [List.any_map]
  rfl

theorem countP_digits_map (val : List α) :
    (val.map cells.char).countP (fun c => redactor.detector.unicode.isDigit (plainCells.char c)) =
      val.countP (fun a => redactor.detector.unicode.isDigit (cells.char a)) := by
  rw [List.countP_map]
  rfl

theorem map_applyRedaction (field : String) (val : List α) (action : String) :
    (applyRedaction redactor cells field val action).map cells.char =
      applyRedaction redactor plainCells field (val.map cells.char) action := by
  unfold applyRedaction
  have hid : (val.map cells.char).map plainCells.char = val.map cells.char := List.map_id _
  simp only [apply_ite (List.map cells.char), map_literal, map_maskAddress,
    map_fallbackRedaction, map_starDigits, any_at_map, countP_digits_map, List.map_append,
    List.map_drop, List.length_map, hid]

theorem map_replaceNeedle (needle : List Char) (new : List α) (n : Nat) (text : List α) :
    (replaceNeedle cells needle new n text).map cells.char =
      replaceNeedle plainCells needle (new.map cells.char) n (text.map cells.char) := by
  induction n generalizing text with
  | zero => rfl
  | succ n ih =>
      cases text with
      | nil => rfl
      | cons a rest =>
          have hid : ((a :: rest).map cells.char).map plainCells.char =
              (a :: rest).map cells.char := List.map_id _
          rw [List.map_cons] at hid
          rw [List.map_cons, replaceNeedle, replaceNeedle, hid]
          by_cases hbegins : needle.isPrefixOf ((a :: rest).map cells.char) = true
          · rw [if_pos hbegins, if_pos (by simpa using hbegins), List.map_append, ih,
              List.map_drop, List.map_cons]
          · rw [if_neg hbegins, if_neg (by simpa using hbegins), List.map_cons, ih]

theorem getD_map_map (groups : List (List α)) (n : Nat) :
    (groups.map (List.map cells.char)).getD n [] = (groups.getD n []).map cells.char := by
  rw [List.getD_eq_getElem?_getD, List.getD_eq_getElem?_getD, List.getElem?_map]
  cases groups[n]? with
  | none => rfl
  | some group => rfl

/-- What is written for a match over cells spells what is written for its characters. -/
theorem Rewrite.map_apply (rewrite : Rewrite) (groups : List (List α)) :
    (rewrite.apply redactor cells groups).map cells.char =
      rewrite.apply redactor plainCells (groups.map (List.map cells.char)) := by
  cases rewrite with
  | redacted => exact map_literal cells _
  | keepKeyword =>
      simp only [Rewrite.apply]
      rw [List.map_append, List.map_append, map_literal, getD_map_map, getD_map_map]
  | pinDigits =>
      have hid : ((groups.getD 1 []).map cells.char).map plainCells.char =
          (groups.getD 1 []).map cells.char := List.map_id _
      simp only [Rewrite.apply]
      rw [map_replaceNeedle, map_literal, getD_map_map, hid, flatten_map_map, List.length_map]
  | baseline field =>
      simp only [Rewrite.apply]
      rw [map_applyRedaction, flatten_map_map]

theorem PyPass.map_sub (p : PyPass) (text : List α) :
    (p.sub redactor cells text).map cells.char =
      p.sub redactor plainCells (text.map cells.char) :=
  map_replaceAll cells.char redactor.detector.unicode.accepts
    (fun groups => p.rewrite.map_apply redactor cells groups) text

/-- The passes over cells spell the passes over characters. -/
theorem map_runPasses (passes : List PyPass) (text : List α) :
    (runPasses redactor cells passes text).map cells.char =
      runPasses redactor plainCells passes (text.map cells.char) := by
  induction passes generalizing text with
  | nil => rfl
  | cons p rest ih =>
      change (runPasses redactor cells rest (p.sub redactor cells text)).map cells.char = _
      rw [ih, p.map_sub]
      rfl

end

/-! ## What a pass puts out -/

section

variable {α : Type} (redactor : Redactor) (cells : Cells α)

/-- Each cell that comes out was there or is written. -/
def Leaves (val out : List α) : Prop :=
  ∀ a ∈ out, a ∈ val ∨ ∃ c, a = cells.written c

variable {redactor cells}

theorem leaves_written (val : List α) (text : List Char) :
    Leaves cells val (text.map cells.written) := by
  intro a ha
  rcases List.mem_map.mp ha with ⟨c, -, rfl⟩
  exact Or.inr ⟨c, rfl⟩

theorem leaves_literal (val : List α) (text : String) : Leaves cells val (cells.literal text) :=
  leaves_written val text.toList

theorem leaves_replicate (val : List α) (n : Nat) (c : Char) :
    Leaves cells val (List.replicate n (cells.written c)) := by
  intro a ha
  exact Or.inr ⟨c, List.eq_of_mem_replicate ha⟩

theorem leaves_of_subset {val out : List α} (h : out ⊆ val) : Leaves cells val out :=
  fun _ ha => Or.inl (h ha)

theorem Leaves.append {val u v : List α} (hu : Leaves cells val u) (hv : Leaves cells val v) :
    Leaves cells val (u ++ v) := by
  intro a ha
  rcases List.mem_append.mp ha with ha | ha
  · exact hu a ha
  · exact hv a ha

theorem Leaves.trans {val mid out : List α} (hmid : Leaves cells val mid)
    (hout : Leaves cells mid out) : Leaves cells val out := by
  intro a ha
  rcases hout a ha with hmem | hwritten
  · exact hmid a hmem
  · exact Or.inr hwritten

theorem leaves_starDigits (hidden : Nat) (val : List α) :
    Leaves cells val (starDigits redactor cells hidden val) := by
  induction val generalizing hidden with
  | nil => exact leaves_of_subset (List.Subset.refl _)
  | cons b rest ih =>
      intro a ha
      unfold starDigits at ha
      split at ha
      · rcases List.mem_cons.mp ha with rfl | ha
        · split
          · exact Or.inl List.mem_cons_self
          · exact Or.inr ⟨'*', rfl⟩
        · exact (ih _ a ha).imp_left (List.mem_cons_of_mem b)
      · rcases List.mem_cons.mp ha with rfl | ha
        · exact Or.inl List.mem_cons_self
        · exact (ih _ a ha).imp_left (List.mem_cons_of_mem b)

theorem leaves_maskAddress (val : List α) : Leaves cells val (maskAddress cells val) := by
  have hname : val.takeWhile (fun a => cells.char a ≠ '@') ⊆ val :=
    List.takeWhile_subset _
  unfold maskAddress
  simp only
  split
  · apply Leaves.append _ (leaves_of_subset (List.drop_subset _ _))
    apply Leaves.append _ (leaves_of_subset (List.Subset.trans (List.drop_subset _ _) hname))
    exact (leaves_of_subset (List.Subset.trans (List.take_subset _ _) hname)).append
      (leaves_replicate _ _ _)
  · exact (leaves_replicate _ _ _).append (leaves_of_subset (List.drop_subset _ _))

theorem leaves_fallbackRedaction (field : String) (val : List α) :
    Leaves cells val (fallbackRedaction cells field val) := by
  unfold fallbackRedaction
  split_ifs
  · exact leaves_literal val _
  · exact leaves_literal val _
  · exact leaves_literal val _
  · exact leaves_literal val _
  · exact leaves_of_subset (List.Subset.refl _)

theorem leaves_applyRedaction (field : String) (val : List α) (action : String) :
    Leaves cells val (applyRedaction redactor cells field val action) := by
  unfold applyRedaction
  simp only
  split
  · -- mask
    split
    · split
      · exact leaves_maskAddress val
      · exact leaves_literal val _
    · split
      · exact (leaves_literal val _).append (leaves_of_subset (List.drop_subset _ _))
      · split
        · exact leaves_starDigits _ val
        · exact leaves_fallbackRedaction field val
  · split
    · exact leaves_literal val _
    · split
      · -- synthetic
        split_ifs
        · exact leaves_literal val _
        · exact leaves_literal val _
        · exact leaves_literal val _
        · exact leaves_literal val _
        · exact leaves_fallbackRedaction field val
      · exact leaves_fallbackRedaction field val

theorem leaves_replaceNeedle (needle : List Char) (new : String) (n : Nat) (text : List α) :
    Leaves cells text (replaceNeedle cells needle (cells.literal new) n text) := by
  induction n generalizing text with
  | zero => exact leaves_of_subset (List.Subset.refl _)
  | succ n ih =>
      cases text with
      | nil => exact leaves_of_subset (List.Subset.refl _)
      | cons b rest =>
          unfold replaceNeedle
          split
          · apply (leaves_literal _ _).append
            exact (leaves_of_subset (List.drop_subset _ _)).trans (ih _)
          · intro a ha
            rcases List.mem_cons.mp ha with rfl | ha
            · exact Or.inl List.mem_cons_self
            · exact (ih rest a ha).imp_left (List.mem_cons_of_mem b)

theorem getD_subset_flatten (groups : List (List α)) (n : Nat) :
    groups.getD n [] ⊆ groups.flatten := by
  intro a ha
  rw [List.getD_eq_getElem?_getD] at ha
  cases hgroup : groups[n]? with
  | none =>
      rw [hgroup] at ha
      cases ha
  | some group =>
      rw [hgroup] at ha
      exact List.mem_flatten.mpr ⟨group, List.mem_of_getElem? hgroup, ha⟩

theorem Rewrite.leaves_apply (rewrite : Rewrite) (groups : List (List α)) :
    Leaves cells groups.flatten (rewrite.apply redactor cells groups) := by
  cases rewrite with
  | redacted => exact leaves_literal _ _
  | keepKeyword =>
      apply Leaves.append _ (leaves_literal _ _)
      exact (leaves_of_subset (getD_subset_flatten groups 0)).append
        (leaves_of_subset (getD_subset_flatten groups 1))
  | pinDigits => exact leaves_replaceNeedle _ _ _ _
  | baseline field => exact leaves_applyRedaction _ _ _

/-- A pass puts out what it was given and what it writes. -/
theorem PyPass.leaves_sub (p : PyPass) (text : List α) :
    Leaves cells text (p.sub redactor cells text) := by
  intro a ha
  rcases List.mem_flatMap.mp ha with ⟨token, htoken, ha⟩
  have hsub : token.text ⊆ text := by
    intro b hb
    rw [← (@scan_tokens _ _ (through cells.char redactor.detector.unicode.accepts) p.pattern
      text).flatMap_text]
    exact List.mem_flatMap.mpr ⟨token, htoken, hb⟩
  cases token with
  | skip b => exact Or.inl (hsub ha)
  | hit groups => exact (p.rewrite.leaves_apply groups a ha).imp_left (fun hmem => hsub hmem)

theorem leaves_runPasses (passes : List PyPass) (text : List α) :
    Leaves cells text (runPasses redactor cells passes text) := by
  induction passes generalizing text with
  | nil => exact leaves_of_subset (List.Subset.refl _)
  | cons p rest ih => exact (p.leaves_sub text).trans (ih _)

/-- Every class of the pass rejects the character. -/
def PyPass.Rejects (redactor : Redactor) (p : PyPass) (c : Char) : Prop :=
  ∀ r ∈ p.parts, ∀ k ∈ r.classes, redactor.detector.unicode.accepts k c = false

/-- A pass leaves what none of its classes accepts. -/
theorem PyPass.mem_sub_of_rejects {p : PyPass} {text : List α} {a : α}
    (hrejects : p.Rejects redactor (cells.char a)) (ha : a ∈ text) :
    a ∈ p.sub redactor cells text := by
  have hscan := @scan_tokens _ _ (through cells.char redactor.detector.unicode.accepts) p.pattern
    text
  rw [← hscan.flatMap_text] at ha
  rcases List.mem_flatMap.mp ha with ⟨token, htoken, ha⟩
  refine List.mem_flatMap.mpr ⟨token, htoken, ?_⟩
  cases token with
  | skip b => exact ha
  | hit groups =>
      rcases hscan.matches_of_mem htoken with ⟨before, after, hmatch⟩
      rcases hmatch.exists_class ha with ⟨r, hr, k, hk, hacc⟩
      have hnone := hrejects r hr k hk
      exact absurd hacc (by simp [through, hnone])

end

/-! ## Positions -/

/-- A character, with its position if it is one of the text. -/
abbrev Tracked := Option Nat × Char

/-- What the redactor writes has no position. -/
def trackedCells : Cells Tracked where
  char := Prod.snd
  written c := (none, c)
  char_written _ := rfl

/-- The characters of a text with their positions. -/
def track (text : List Char) : List Tracked :=
  text.zipIdx.map (fun a => (some a.2, a.1))

theorem map_track (text : List Char) : (track text).map trackedCells.char = text := by
  unfold track
  rw [List.map_map]
  exact List.zipIdx_map_fst 0 text

section

variable {α : Type} (redactor : Redactor) (cells : Cells α)

/-- `SensitiveDataDetector.redact` over cells. -/
def detectorRedact (usePresidio : Bool) (text : List α) : List α :=
  let findings := redactor.detector.inspect (text.map cells.char) usePresidio
  (findings.insertionSort (fun f g => g.start ≤ f.start)).foldl
    (fun redacted f => redacted.take f.start ++
      (redactor.detector.replacement f).map cells.written ++ redacted.drop f.stop) text

theorem map_replaceSpans (findings : List SensitiveFinding) (text : List α) :
    (findings.foldl (fun redacted f => redacted.take f.start ++
        (redactor.detector.replacement f).map cells.written ++ redacted.drop f.stop)
      text).map cells.char =
      findings.foldl (fun redacted f => replaceSpan redacted f (redactor.detector.replacement f))
        (text.map cells.char) := by
  induction findings generalizing text with
  | nil => rfl
  | cons f rest ih =>
      rw [List.foldl_cons, List.foldl_cons, ih]
      unfold replaceSpan
      rw [List.map_append, List.map_append, map_written, List.map_take, List.map_drop]

theorem map_detectorRedact (usePresidio : Bool) (text : List α) :
    (detectorRedact redactor cells usePresidio text).map cells.char =
      redactor.detector.redact (text.map cells.char) usePresidio := by
  unfold detectorRedact Detector.redact
  simp only
  rw [map_replaceSpans]
  split
  · rename_i hnone
    rw [hnone]
    rfl
  · rfl

/-- `redact_sensitive_data_rich` over the characters with their positions. -/
def redactTracked (policies : List DbPolicy) (usePresidio : Bool) (text : List Char) :
    Except PyError (List Tracked) := do
  let e ← enforcedTypes policies
  .ok (runPasses redactor trackedCells e.passes
    (detectorRedact redactor trackedCells usePresidio (track text)))

/-- The redaction with positions spells the redaction. -/
theorem map_redactTracked (policies : List DbPolicy) (usePresidio : Bool) (text : List Char) :
    (redactTracked redactor policies usePresidio text).map (List.map trackedCells.char) =
      redactSensitiveDataRich redactor policies usePresidio text := by
  unfold redactTracked redactSensitiveDataRich
  cases enforcedTypes policies with
  | error err => rfl
  | ok e =>
      change Except.ok (List.map trackedCells.char _) = Except.ok _
      rw [map_runPasses, map_detectorRedact, map_track]
      rfl

end

end AuthClaw.Redaction
