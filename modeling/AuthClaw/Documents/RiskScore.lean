import AuthClaw.Documents.Pipeline
import Mathlib.Data.List.Count
import Mathlib.Algebra.BigOperators.Group.List.Basic

/-!
# The rating of a document

The findings of a scan may come from an external review, which words the level of a risk as it
likes.  Every finding costs points and is counted by its level; the worst level found is the
severity of the document and bounds its score, and an exposed secret overrides both.

Main results:

- Theorem {lit}`riskScoring_bounds`: the score lies within the bounds of the severity.
- Theorem {lit}`riskScoring_perm`: the order of the findings is of no account.
- Theorem {lit}`riskScoring_mono`: more findings rate no better.
- Theorem {lit}`document_scoring`: these, and that a severe document ends pending approval.
-/

namespace AuthClaw.Documents

open PythonText Rows Exits

/-! ## Findings -/

/-- What the rating reads of a finding. -/
structure ReviewedFinding where
  findingType : Option Json
  matchedPattern : Option Json
  riskLevel : Option String

/-- A finding of the local scanner. -/
def ScanFinding.reviewed (f : ScanFinding) : ReviewedFinding where
  findingType := some (.str f.findingType)
  matchedPattern := some (.str f.matchedPattern)
  riskLevel := some f.riskLevel.name

/-- The text is one of the names. -/
def namedBy (value : Option Json) (names : List String) : Bool :=
  match value with
  | some (.str s) => s ∈ names
  | _ => false

/-- A finding that exposes a secret. -/
def ReviewedFinding.criticalSecret (f : ReviewedFinding) : Bool :=
  namedBy f.findingType ["Secret", "Credentials"] ||
    namedBy f.matchedPattern ["AWS_ACCESS_KEY", "OPENAI_API_KEY", "JWT_TOKEN", "CONN_STRING",
      "S3_PUBLIC_ACCESS_ENABLED"]

/-- The level of a finding; what is no other level counts as low. -/
def ReviewedFinding.level (py : PyText) (f : ReviewedFinding) : RiskLevel :=
  let level := py.upper (f.riskLevel.getD "LOW")
  if level = "CRITICAL" then .critical
  else if level = "HIGH" then .high
  else if level = "MEDIUM" then .medium
  else .low

/-! ## The rating -/

/-- The counters of the loop over the findings. -/
structure RiskTally where
  score : Int
  critical : Nat
  high : Nat
  medium : Nat

/-- The body of the loop. -/
def RiskTally.count (tally : RiskTally) (level : RiskLevel) : RiskTally :=
  match level with
  | .critical => { tally with critical := tally.critical + 1, score := tally.score - 20 }
  | .high => { tally with high := tally.high + 1, score := tally.score - 15 }
  | .medium => { tally with medium := tally.medium + 1, score := tally.score - 8 }
  | .low => { tally with score := tally.score - 3 }

/-- The severity of the counted findings. -/
def RiskTally.severity (tally : RiskTally) : RiskLevel :=
  if 0 < tally.critical then .critical
  else if 0 < tally.high then .high
  else if 0 < tally.medium then .medium
  else .low

/-- The score within the bounds of a severity. -/
def boundScore (severity : RiskLevel) (score : Int) : Int :=
  match severity with
  | .critical => min score 49
  | .high => min score 69
  | .medium => min score 84
  | .low => max score 85

/-- The score and the severity of a document with the findings. -/
def riskScoring (py : PyText) (findings : List ReviewedFinding) : Int × RiskLevel :=
  let tally : RiskTally :=
    findings.foldl (fun tally f => tally.count (f.level py)) ⟨100, 0, 0, 0⟩
  let rated := (boundScore tally.severity (max 0 tally.score), tally.severity)
  if findings.any ReviewedFinding.criticalSecret then (min rated.1 49, .critical) else rated

/-- Levels by severity. -/
def RiskLevel.rank : RiskLevel → Nat
  | .low => 0
  | .medium => 1
  | .high => 2
  | .critical => 3

section

variable {py : PyText} {findings more : List ReviewedFinding}

/-! ## The loop -/

/-- What the findings cost. -/
def cost (py : PyText) (findings : List ReviewedFinding) : Int :=
  (findings.map (fun f => deduction (f.level py))).sum

/-- How many findings are of a level. -/
def countLevel (py : PyText) (level : RiskLevel) (findings : List ReviewedFinding) : Nat :=
  findings.countP (fun f => f.level py = level)

/-- The loop counts the findings of each level and takes off what they cost. -/
theorem foldl_count (tally : RiskTally) :
    findings.foldl (fun (tally : RiskTally) f => tally.count (f.level py)) tally =
      ⟨tally.score - cost py findings, tally.critical + countLevel py .critical findings,
        tally.high + countLevel py .high findings,
        tally.medium + countLevel py .medium findings⟩ := by
  induction findings generalizing tally with
  | nil => simp [cost, countLevel]
  | cons f findings ih =>
      rw [List.foldl_cons, ih]
      simp only [cost, countLevel, List.map_cons, List.sum_cons, List.countP_cons]
      cases hlevel : f.level py <;>
        simp [RiskTally.count, deduction, Int.sub_sub, Nat.add_assoc, Nat.add_comm]

/-- The worst level of the findings. -/
def worstLevel (py : PyText) (findings : List ReviewedFinding) : RiskLevel :=
  RiskTally.severity ⟨0, countLevel py .critical findings, countLevel py .high findings,
    countLevel py .medium findings⟩

/-- The rating, from the worst level, the cost and the secrets. -/
theorem riskScoring_eq :
    riskScoring py findings =
      if findings.any ReviewedFinding.criticalSecret then
        (min (boundScore (worstLevel py findings) (max 0 (100 - cost py findings))) 49, .critical)
      else
        (boundScore (worstLevel py findings) (max 0 (100 - cost py findings)),
          worstLevel py findings) := by
  unfold riskScoring
  rw [foldl_count]
  simp only [RiskTally.severity, worstLevel, Nat.zero_add]

/-! ## Bounds -/

theorem deduction_pos (level : RiskLevel) : 0 < deduction level := by
  cases level <;> decide

theorem cost_nonneg (findings : List ReviewedFinding) : 0 ≤ cost py findings := by
  unfold cost
  induction findings with
  | nil => exact Int.le_refl 0
  | cons f findings ih =>
      rw [List.map_cons, List.sum_cons]
      have := deduction_pos (f.level py)
      omega

/-- A score lies within the bounds of its severity. -/
structure WithinBounds (score : Int) (severity : RiskLevel) : Prop where
  nonneg : 0 ≤ score
  le_hundred : score ≤ 100
  critical : severity = .critical → score ≤ 49
  high : severity = .high → score ≤ 69
  medium : severity = .medium → score ≤ 84
  low : severity = .low → 85 ≤ score

theorem withinBounds_boundScore (severity : RiskLevel) {score : Int} (h0 : 0 ≤ score)
    (h100 : score ≤ 100) : WithinBounds (boundScore severity score) severity := by
  cases severity <;> constructor <;> simp [boundScore] <;> omega

/-- The score lies within the bounds of the severity. -/
theorem riskScoring_bounds (findings : List ReviewedFinding) :
    WithinBounds (riskScoring py findings).1 (riskScoring py findings).2 := by
  have hcost := @cost_nonneg py findings
  have hbounds := withinBounds_boundScore (worstLevel py findings)
    (show 0 ≤ max 0 (100 - cost py findings) by omega) (by omega)
  rw [riskScoring_eq]
  split_ifs
  · constructor <;> simp
    exact hbounds.nonneg
  · exact hbounds

/-! ## Order and number of the findings -/

/-- The order of the findings is of no account. -/
theorem riskScoring_perm (h : findings.Perm more) :
    riskScoring py findings = riskScoring py more := by
  have hcost : cost py findings = cost py more := (h.map _).sum_eq
  have hworst : worstLevel py findings = worstLevel py more := by
    unfold worstLevel countLevel
    rw [h.countP_eq, h.countP_eq, h.countP_eq]
  rw [riskScoring_eq, riskScoring_eq, h.any_eq, hcost, hworst]

theorem cost_mono (h : findings.Sublist more) : cost py findings ≤ cost py more := by
  unfold cost
  induction h with
  | slnil => exact Int.le_refl _
  | cons f _ ih =>
      rw [List.map_cons, List.sum_cons]
      have := deduction_pos (f.level py)
      omega
  | cons_cons f _ ih =>
      rw [List.map_cons, List.map_cons, List.sum_cons, List.sum_cons]
      omega

/-- More findings have no lesser worst level. -/
theorem rank_worstLevel_mono (h : findings.Sublist more) :
    (worstLevel py findings).rank ≤ (worstLevel py more).rank := by
  have hcritical : countLevel py .critical findings ≤ countLevel py .critical more :=
    h.countP_le
  have hhigh : countLevel py .high findings ≤ countLevel py .high more := h.countP_le
  have hmedium : countLevel py .medium findings ≤ countLevel py .medium more := h.countP_le
  unfold worstLevel RiskTally.severity
  dsimp only
  split_ifs <;> simp only [RiskLevel.rank] <;> omega

/-- A graver severity bounds a lower score lower. -/
theorem boundScore_antitone {severity worse : RiskLevel} {score lower : Int}
    (hrank : severity.rank ≤ worse.rank) (hscore : lower ≤ score) :
    boundScore worse lower ≤ boundScore severity score := by
  cases severity <;> cases worse <;> simp only [boundScore, RiskLevel.rank] at hrank ⊢ <;> omega

/-- More findings have no higher score and no lesser severity. -/
theorem riskScoring_mono (h : findings.Sublist more) :
    (riskScoring py more).1 ≤ (riskScoring py findings).1 ∧
      (riskScoring py findings).2.rank ≤ (riskScoring py more).2.rank := by
  have hcost := @cost_mono py _ _ h
  have hrank := @rank_worstLevel_mono py _ _ h
  have hscore := boundScore_antitone hrank
    (show max 0 (100 - cost py more) ≤ max 0 (100 - cost py findings) by omega)
  have hbound : ∀ level : RiskLevel, level.rank ≤ RiskLevel.critical.rank := by
    intro level
    cases level <;> decide
  rw [riskScoring_eq, riskScoring_eq]
  by_cases hsecret : findings.any ReviewedFinding.criticalSecret = true
  · have hsecret' : more.any ReviewedFinding.criticalSecret = true := by
      rcases List.any_eq_true.mp hsecret with ⟨f, hf, hcritical⟩
      exact List.any_eq_true.mpr ⟨f, h.subset hf, hcritical⟩
    rw [if_pos hsecret, if_pos hsecret']
    exact ⟨by dsimp only; omega, Nat.le_refl _⟩
  · rw [if_neg hsecret]
    split_ifs
    · exact ⟨by dsimp only; omega, hbound _⟩
    · exact ⟨hscore, hrank⟩

/-- The findings of the local scanner are rated as the local scan rates them, where the names of
the levels are in upper case. -/
theorem riskScoring_reviewed (hupper : ∀ level : RiskLevel, py.upper level.name = level.name)
    (found : List ScanFinding) :
    riskScoring py (found.map ScanFinding.reviewed) = riskOf found := by
  have hlevel : ∀ f : ScanFinding, f.reviewed.level py = f.riskLevel := by
    intro f
    unfold ReviewedFinding.level ScanFinding.reviewed
    dsimp only
    rw [Option.getD_some, hupper]
    cases f.riskLevel <;> decide
  have hcost : cost py (found.map ScanFinding.reviewed) =
      (found.map (fun f => deduction f.riskLevel)).sum := by
    unfold cost
    rw [List.map_map]
    simp only [Function.comp_def, hlevel]
  have hcount : ∀ level, 0 < countLevel py level (found.map ScanFinding.reviewed) ↔
      found.any (fun f => f.riskLevel = level) = true := by
    intro level
    unfold countLevel
    rw [List.countP_pos_iff, List.any_eq_true]
    simp [hlevel]
  have hsecret : (found.map ScanFinding.reviewed).any ReviewedFinding.criticalSecret =
      found.any ScanFinding.criticalSecret := by
    rw [List.any_map]
    congr 1
    funext f
    simp [ReviewedFinding.criticalSecret, ScanFinding.criticalSecret, ScanFinding.reviewed,
      namedBy]
  rw [riskScoring_eq, hcost, hsecret]
  unfold worstLevel RiskTally.severity riskOf
  simp only [hcount]
  split_ifs <;> rfl

end

/-! ## The end of a scan -/

section

variable (py : PyText) (calls : ScanCalls) (docId : Int) (filename : String)
  (tenantId : Option Int) (findings : List ReviewedFinding)

/-- The scan from the rating on. -/
def finishScan : DocumentRun (Int × RiskLevel × DocumentStatus) := do
  let (score, severity) := riskScoring py findings
  let status ← requestOverride calls docId filename tenantId severity score
  raises calls.results
  if ((← get).documents.find docId).isNone then throw .database
  modify (updateDocument docId tenantId (ratedDocument score severity status)
    (ratedDocument_id score severity status))
  raises calls.endAudit
  modify (DocumentStore.audited tenantId docId "scan_completed"
    (s!"Analysis completed in {calls.durationMs}ms. Risk Score: {score} ({severity.name}). " ++
      s!"Findings Count: {findings.length}"))
  return (score, severity, status)

/-- The document carries the rating of the findings, and waits for an approval if it is severe. -/
def RatedIn (store : DocumentStore) : Prop :=
  ∀ d, store.documents.find docId = some d → tenantMatches tenantId d.tenantId = true →
    (d.riskScore, d.severity) = riskScoring py findings ∧
      (d.severity = .high ∨ d.severity = .critical → d.status = .pendingApproval)

variable {py calls docId filename tenantId findings} {store : DocumentStore}

/-- A severe document gets the status that waits for an approval. -/
theorem ends_requestOverride_status (severity : RiskLevel) (score : Int) :
    Ends (requestOverride calls docId filename tenantId severity score) store
      (fun status s => s.documents = store.documents ∧
        (severity = .high ∨ severity = .critical → status = .pendingApproval))
      (fun s => s.documents = store.documents) := by
  unfold requestOverride
  by_cases hescalates : severity.escalates = true
  · rw [if_pos hescalates]
    refine ends_raises_bind (fun _ => rfl) fun _ => ?_
    rw [ends_modify_bind]
    refine ends_raises_bind (fun _ => rfl) fun _ => ?_
    rw [ends_modify_bind, ends_pure]
    exact ⟨rfl, fun _ => rfl⟩
  · rw [if_neg hescalates]
    refine ends_raises_bind (fun _ => rfl) fun _ => ?_
    rw [ends_modify_bind, ends_pure]
    exact ⟨rfl, fun hsevere => absurd (decide_eq_true hsevere) hescalates⟩

/-- A document is rated by the update. -/
theorem ratedIn_updateDocument {status : DocumentStatus}
    (hstatus : (riskScoring py findings).2 = .high ∨ (riskScoring py findings).2 = .critical →
      status = .pendingApproval) :
    RatedIn py docId tenantId findings (updateDocument docId tenantId
      (ratedDocument (riskScoring py findings).1 (riskScoring py findings).2 status)
      (ratedDocument_id _ _ _) store) := by
  intro d hfind htenant
  unfold updateDocument at hfind
  dsimp only at hfind
  rw [Table.find_update, Option.map_eq_some_iff] at hfind
  rcases hfind with ⟨before, hbefore, rfl⟩
  have hid := Table.find_key hbefore
  by_cases hmatches : tenantMatches tenantId before.tenantId = true
  · rw [if_pos (by simp [hid, hmatches])]
    exact ⟨rfl, hstatus⟩
  · rw [if_neg (by simp [hmatches])] at htenant
    exact absurd htenant hmatches

/-- A scan that returns has rated its document; one that raises has, or has left the documents as
they were. -/
theorem ends_finishScan :
    Ends (finishScan py calls docId filename tenantId findings) store
      (fun _ s => RatedIn py docId tenantId findings s)
      (fun s => s.documents = store.documents ∨ RatedIn py docId tenantId findings s) := by
  unfold finishScan
  dsimp only
  refine Ends.bind ((ends_requestOverride_status _ _).mono (fun _ _ h => h)
    (fun _ h => Or.inl h)) ?_
  rintro status s ⟨hsame, hstatus⟩
  refine ends_raises_bind (fun _ => Or.inl hsame) fun _ => ?_
  rw [ends_get_bind]
  by_cases hnone : (s.documents.find docId).isNone = true
  · rw [if_pos hnone]
    exact Or.inl hsame
  rw [if_neg hnone, ends_modify_bind]
  refine ends_raises_bind (fun _ => Or.inr (ratedIn_updateDocument hstatus)) fun _ => ?_
  rw [ends_modify_bind, ends_pure]
  exact ratedIn_updateDocument hstatus

end

/-- The score of a document lies in 0 to 100 and within the bounds of its severity, whatever the
findings; neither depends on their order; a finding more raises no score and lowers no severity;
and a scan that returns has rated its document, which waits for an approval if it is severe. -/
theorem document_scoring (py : PyText) :
    (∀ findings, WithinBounds (riskScoring py findings).1 (riskScoring py findings).2) ∧
    (∀ findings more : List ReviewedFinding, findings.Perm more →
      riskScoring py findings = riskScoring py more) ∧
    (∀ (before after : List ReviewedFinding) (f : ReviewedFinding),
      (riskScoring py (before ++ f :: after)).1 ≤ (riskScoring py (before ++ after)).1 ∧
        (riskScoring py (before ++ after)).2.rank ≤
          (riskScoring py (before ++ f :: after)).2.rank) ∧
    ∀ (calls : ScanCalls) (docId : Int) (filename : String) (tenantId : Option Int)
      (findings : List ReviewedFinding) (store : DocumentStore),
      Ends (finishScan py calls docId filename tenantId findings) store
        (fun _ s => RatedIn py docId tenantId findings s)
        (fun s => s.documents = store.documents ∨ RatedIn py docId tenantId findings s) :=
  ⟨riskScoring_bounds, fun _ _ h => riskScoring_perm h,
    fun before after f => riskScoring_mono
      ((List.Sublist.refl before).append (List.sublist_cons_self f after)),
    fun _ _ _ _ _ _ => ends_finishScan⟩

end AuthClaw.Documents
