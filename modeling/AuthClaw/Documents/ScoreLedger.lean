import AuthClaw.Documents.ComplianceEvents
import AuthClaw.Library.Keyed

/-!
# The ledger of compliance scores

{lit}`calculate_scores` stores the events of a tenant under their controls, scores each control
of the catalog, and notes in {lit}`compliance_score_changes` each score that is new or differs
from the one it replaces.

Main results:

- Theorems {lit}`scoreOf_eq` and {lit}`scoreOf_antitone`: a score is what the penalties leave
  of 100, and more events leave no more.
- Theorem {lit}`ledgered_persist`: one control keeps the ledger in step with the scores.
- Theorem {lit}`scores_and_ledger`: the ledger is a chain that ends in the stored score, over
  every run.
-/

namespace AuthClaw.Documents

open PythonText Rows

/-! ## Penalties -/

/-- What an event takes from a score. -/
def ComplianceEvent.penalty (event : ComplianceEvent) : Int :=
  if event.impact < 0 then -event.impact else 0

/-- The penalties of some events. -/
def penalties (items : List ComplianceEvent) : Int :=
  (items.map ComplianceEvent.penalty).sum

theorem penalty_nonneg (event : ComplianceEvent) : 0 ≤ event.penalty := by
  unfold ComplianceEvent.penalty
  split_ifs with h
  · omega
  · exact Int.le_refl 0

theorem penalties_nonneg (items : List ComplianceEvent) : 0 ≤ penalties items := by
  unfold penalties
  induction items with
  | nil => exact Int.le_refl 0
  | cons e items ih =>
      rw [List.map_cons, List.sum_cons]
      have := penalty_nonneg e
      omega

/-- The events against a control are those with a penalty. -/
theorem sum_negative (items : List ComplianceEvent) :
    ((items.filter (fun item => item.impact < 0)).map ComplianceEvent.impact).sum =
      -penalties items := by
  unfold penalties
  induction items with
  | nil => rfl
  | cons e items ih =>
      rw [List.map_cons, List.sum_cons, ComplianceEvent.penalty]
      by_cases h : e.impact < 0
      · have hhead : decide (e.impact < 0) = true := decide_eq_true h
        rw [List.filter_cons, if_pos hhead, List.map_cons, List.sum_cons, ih, if_pos h]
        omega
      · have hhead : ¬ decide (e.impact < 0) = true := by simpa using h
        rw [List.filter_cons, if_neg hhead, ih, if_neg h]
        omega

/-- A score is what the penalties leave of 100, and not less than nothing. -/
theorem controlScore_score (control : Control) (items : List ComplianceEvent) :
    (controlScore control items).score = max 0 (100 - penalties items) := by
  have hpenalties := penalties_nonneg items
  unfold controlScore
  dsimp only
  rw [sum_negative]
  omega

/-- More events have no smaller penalties. -/
theorem penalties_mono {items more : List ComplianceEvent} (h : items.Sublist more) :
    penalties items ≤ penalties more := by
  unfold penalties
  induction h with
  | slnil => exact Int.le_refl _
  | cons e _ ih =>
      rw [List.map_cons, List.sum_cons]
      have := penalty_nonneg e
      omega
  | cons_cons e _ ih =>
      rw [List.map_cons, List.map_cons, List.sum_cons, List.sum_cons]
      omega

/-- The score of a control over some events. -/
def scoreOf (py : PyText) (events : List ComplianceEvent) (control : Control) : Int :=
  (controlScore control (evidenceByControl py events control)).score

theorem scoreOf_eq (py : PyText) (events : List ComplianceEvent) {control : Control}
    (hcontrol : control ∈ controlCatalog) :
    scoreOf py events control = max 0 (100 -
      penalties (events.filter (fun event => control ∈ matchingControls py event))) := by
  unfold scoreOf
  rw [controlScore_score, evidenceByControl_eq hcontrol]

/-- More events leave no higher score. -/
theorem scoreOf_antitone (py : PyText) {events more : List ComplianceEvent}
    (h : events.Sublist more) {control : Control} (hcontrol : control ∈ controlCatalog) :
    scoreOf py more control ≤ scoreOf py events control := by
  rw [scoreOf_eq py events hcontrol, scoreOf_eq py more hcontrol]
  have := penalties_mono
    (h.filter (fun event => decide (control ∈ matchingControls py event)))
  omega

/-! ## The tables -/

/-- A row of `compliance_control_evidence`. -/
structure ControlEvidence where
  tenantId : Int
  framework : String
  controlId : String
  event : ComplianceEvent

/-- A row of `compliance_control_scores`. -/
structure StoredScore where
  tenantId : Int
  framework : String
  controlId : String
  score : Int
  status : String
  evidenceCount : Nat
  negativeFindings : Nat
  reason : String
  sourceEvent : String

/-- A row of `compliance_score_changes`. -/
structure ScoreChange where
  tenantId : Int
  framework : String
  controlId : String
  previousScore : Option Int
  currentScore : Int
  reason : String
  sourceEvent : String

/-- What the scores and their changes are kept by. -/
abbrev ScoreKey := Int × String × String

def StoredScore.key (row : StoredScore) : ScoreKey :=
  (row.tenantId, row.framework, row.controlId)

def ScoreChange.key (row : ScoreChange) : ScoreKey :=
  (row.tenantId, row.framework, row.controlId)

def Control.key (tenantId : Int) (control : Control) : ScoreKey :=
  (tenantId, control.framework, control.controlId)

/-- The tables of the scores; `uniq_control_score` makes the scores a table with a key. -/
structure ScoreStore where
  controlEvidence : List ControlEvidence
  scores : Table StoredScore.key
  changes : List ScoreChange

/-- Empty tables. -/
def ScoreStore.empty : ScoreStore :=
  ⟨[], Table.empty, []⟩

/-- The stored score of a control. -/
def ScoreStore.scoreAt (store : ScoreStore) (k : ScoreKey) : Option Int :=
  (store.scores.find k).map StoredScore.score

/-- The entries of the ledger for a control. -/
def ScoreStore.history (store : ScoreStore) (k : ScoreKey) : List ScoreChange :=
  store.changes.filter (fun change => change.key = k)

/-! ## One calculation -/

/-- `map_evidence`: the rows of the tenant are written anew. -/
def mapEvidenceInto (py : PyText) (tenantId : Int) (events : List ComplianceEvent)
    (store : ScoreStore) : ScoreStore :=
  { store with
    controlEvidence := store.controlEvidence.filter (fun row => row.tenantId ≠ tenantId) ++
      events.flatMap (fun event => (matchingControls py event).map (fun control =>
        ⟨tenantId, control.framework, control.controlId, event⟩)) }

/-- The rows of a tenant for a control, as `calculate_scores` reads them. -/
def storedEvidence (tenantId : Int) (store : ScoreStore) (control : Control) :
    List ComplianceEvent :=
  ((store.controlEvidence.filter (fun row => row.tenantId = tenantId)).filter
    (fun row => row.controlId = control.controlId)).map ControlEvidence.event

/-- The row of a scored control. -/
def scoreRow (tenantId : Int) (scored : ControlScore) : StoredScore where
  tenantId := tenantId
  framework := scored.control.framework
  controlId := scored.control.controlId
  score := scored.score
  status := scored.status
  evidenceCount := scored.evidenceCount
  negativeFindings := scored.negativeFindings
  reason := scored.reason
  sourceEvent := scored.sourceEvent

/-- `ON CONFLICT (tenant_id, framework, control_id) DO UPDATE SET ...`. -/
def StoredScore.rescored (row s : StoredScore) : StoredScore :=
  { row with tenantId := s.tenantId, framework := s.framework, controlId := s.controlId }

theorem StoredScore.rescored_key (row s : StoredScore) : (row.rescored s).key = s.key :=
  rfl

/-- The entry of the ledger for a scored control. -/
def scoreChange (tenantId : Int) (scored : ControlScore) (previousScore : Option Int) :
    ScoreChange where
  tenantId := tenantId
  framework := scored.control.framework
  controlId := scored.control.controlId
  previousScore := previousScore
  currentScore := scored.score
  reason := scored.reason
  sourceEvent := scored.sourceEvent

/-- `_persist_control_score`. -/
def persistControlScore (tenantId : Int) (scored : ControlScore) (previousScore : Option Int)
    (store : ScoreStore) : ScoreStore :=
  let row := scoreRow tenantId scored
  { store with
    scores := store.scores.upsert row row.rescored row.rescored_key
    changes := store.changes ++
      if previousScore ≠ some scored.score then [scoreChange tenantId scored previousScore]
      else [] }

/-- The loop of `calculate_scores` over some controls; what was read before it stays as it was
read. -/
def persistScores (tenantId : Int) (scored : Control → ControlScore)
    (previous : Control → Option Int) (controls : List Control) (store : ScoreStore) :
    ScoreStore :=
  controls.foldl (fun store control =>
    persistControlScore tenantId (scored control) (previous control) store) store

/-- `calculate_scores`, with what it stores; the events are those that are collected. -/
def calculateScoresInto (py : PyText) (tenantId : Int) (events : List ComplianceEvent)
    (store : ScoreStore) : ScoreStore :=
  let mapped := mapEvidenceInto py tenantId events store
  persistScores tenantId
    (fun control => controlScore control (storedEvidence tenantId mapped control))
    (fun control => mapped.scoreAt (control.key tenantId)) controlCatalog mapped

/-- Calculations one after the other, each for a tenant and with the events it collects then. -/
def runScores (py : PyText) (calls : List (Int × List ComplianceEvent)) (store : ScoreStore) :
    ScoreStore :=
  calls.foldl (fun store call => calculateScoresInto py call.1 call.2 store) store

/-! ## The ledger -/

/-- Each entry starts from the score of the one before it and changes it; before the first
entry the score is the given one. -/
def ChainedFrom : Option Int → List ScoreChange → Prop
  | _, [] => True
  | last, change :: rest =>
      change.previousScore = last ∧ last ≠ some change.currentScore ∧
        ChainedFrom (some change.currentScore) rest

/-- The score that a ledger ends in. -/
def lastScore (entries : List ScoreChange) : Option Int :=
  entries.getLast?.map ScoreChange.currentScore

/-- The entries of each tenant and control form a chain, which ends in the stored score. -/
def Ledgered (store : ScoreStore) : Prop :=
  ∀ k, ChainedFrom none (store.history k) ∧ lastScore (store.history k) = store.scoreAt k

/-- An entry is appended to a chain that ends in the score it starts from. -/
theorem chainedFrom_append {last : Option Int} {entries : List ScoreChange} {change : ScoreChange}
    (h : ChainedFrom last entries)
    (hprevious : change.previousScore = (lastScore entries).or last)
    (hdiffers : change.previousScore ≠ some change.currentScore) :
    ChainedFrom last (entries ++ [change]) := by
  induction entries generalizing last with
  | nil =>
      have hlast : change.previousScore = last := by simpa [lastScore] using hprevious
      exact ⟨hlast, hlast ▸ hdiffers, trivial⟩
  | cons first rest ih =>
      rcases h with ⟨hfirst, hchanges, hrest⟩
      refine ⟨hfirst, hchanges, ih hrest ?_⟩
      rw [hprevious]
      cases rest with
      | nil => simp [lastScore]
      | cons second rest => simp [lastScore, List.getLast?_cons]

theorem ledgered_empty : Ledgered ScoreStore.empty :=
  fun _ => ⟨trivial, rfl⟩

section

variable {tenantId : Int} {scored : ControlScore} {previousScore : Option Int} {store : ScoreStore}

/-- What is stored after a score was persisted. -/
theorem scoreAt_persist (k : ScoreKey) :
    (persistControlScore tenantId scored previousScore store).scoreAt k =
      if k = scored.control.key tenantId then some scored.score else store.scoreAt k := by
  have hfind : (persistControlScore tenantId scored previousScore store).scores.find k = _ :=
    Table.find_upsert
  unfold ScoreStore.scoreAt
  rw [hfind]
  change Option.map _ (if k = scored.control.key tenantId then _ else _) = _
  by_cases hk : k = scored.control.key tenantId
  · rw [if_pos hk, if_pos hk]
    cases store.scores.find (scoreRow tenantId scored).key with
    | none => rfl
    | some s => rfl
  · rw [if_neg hk, if_neg hk]

/-- What the ledger has after a score was persisted. -/
theorem history_persist (k : ScoreKey) :
    (persistControlScore tenantId scored previousScore store).history k =
      store.history k ++
        if k = scored.control.key tenantId ∧ previousScore ≠ some scored.score then
          [scoreChange tenantId scored previousScore]
        else [] := by
  have hkey : (scoreChange tenantId scored previousScore).key = scored.control.key tenantId := rfl
  unfold ScoreStore.history persistControlScore
  dsimp only
  rw [List.filter_append]
  congr 1
  by_cases hchanged : previousScore ≠ some scored.score
  · rw [if_pos hchanged, List.filter_singleton, hkey]
    by_cases hk : k = scored.control.key tenantId
    · rw [if_pos ⟨hk, hchanged⟩, decide_eq_true hk.symm]
      rfl
    · rw [if_neg (fun hboth => hk hboth.1), decide_eq_false (Ne.symm hk)]
      rfl
  · rw [if_neg hchanged, if_neg (fun hboth => hchanged hboth.2)]
    rfl

/-- One control keeps the ledger in step, when the previous score is the stored one. -/
theorem ledgered_persist (h : Ledgered store)
    (hprevious : previousScore = store.scoreAt (scored.control.key tenantId)) :
    Ledgered (persistControlScore tenantId scored previousScore store) := by
  intro k
  rcases h k with ⟨hchain, hlast⟩
  rw [history_persist, scoreAt_persist]
  by_cases hk : k = scored.control.key tenantId
  · subst hk
    rw [if_pos rfl]
    by_cases hchanged : previousScore ≠ some scored.score
    · rw [if_pos ⟨rfl, hchanged⟩]
      refine ⟨chainedFrom_append hchain ?_ hchanged, ?_⟩
      · rw [hlast, Option.or_none]
        exact hprevious
      · simp [lastScore, scoreChange]
    · rw [if_neg (fun hboth => hchanged hboth.2), List.append_nil]
      refine ⟨hchain, ?_⟩
      rw [hlast, ← hprevious]
      exact not_not.mp hchanged
  · rw [if_neg (fun hboth => hk hboth.1), List.append_nil, if_neg hk]
    exact ⟨hchain, hlast⟩

end

/-! ## One calculation keeps the ledger -/

section

variable {tenantId : Int} {scored : Control → ControlScore} {previous : Control → Option Int}

/-- The loop keeps the ledger in step: the controls differ, so that what was read before the loop
is still what is stored when the turn of a control comes. -/
theorem ledgered_persistScores (hscored : ∀ control, (scored control).control = control)
    {controls : List Control} (hnodup : (controls.map (Control.key tenantId)).Nodup)
    {store : ScoreStore} (h : Ledgered store)
    (hprevious : ∀ control ∈ controls, previous control = store.scoreAt (control.key tenantId)) :
    Ledgered (persistScores tenantId scored previous controls store) := by
  induction controls generalizing store with
  | nil => exact h
  | cons control controls ih =>
      rw [List.map_cons, List.nodup_cons] at hnodup
      have hhead : Ledgered (persistControlScore tenantId (scored control) (previous control)
          store) := by
        apply ledgered_persist h
        rw [hscored]
        exact hprevious control List.mem_cons_self
      apply ih hnodup.2 hhead
      intro other hother
      rw [scoreAt_persist, hscored, if_neg]
      · exact hprevious other (List.mem_cons_of_mem _ hother)
      · exact fun hkey => hnodup.1 (hkey ▸ List.mem_map_of_mem hother)

/-- What the loop leaves of the other scores. -/
theorem scoreAt_persistScores_of_notMem (hscored : ∀ control, (scored control).control = control)
    {controls : List Control} {k : ScoreKey} (hk : k ∉ controls.map (Control.key tenantId))
    (store : ScoreStore) :
    (persistScores tenantId scored previous controls store).scoreAt k = store.scoreAt k := by
  induction controls generalizing store with
  | nil => rfl
  | cons control controls ih =>
      rw [List.map_cons, List.mem_cons, not_or] at hk
      refine (ih hk.2 _).trans ?_
      rw [scoreAt_persist, hscored, if_neg hk.1]

/-- The loop stores the score of each control. -/
theorem scoreAt_persistScores (hscored : ∀ control, (scored control).control = control)
    {controls : List Control} (hnodup : (controls.map (Control.key tenantId)).Nodup)
    {control : Control} (hcontrol : control ∈ controls) (store : ScoreStore) :
    (persistScores tenantId scored previous controls store).scoreAt (control.key tenantId) =
      some (scored control).score := by
  induction controls generalizing store with
  | nil => cases hcontrol
  | cons first controls ih =>
      rw [List.map_cons, List.nodup_cons] at hnodup
      rcases List.mem_cons.mp hcontrol with rfl | hrest
      · refine (scoreAt_persistScores_of_notMem hscored hnodup.1 _).trans ?_
        rw [scoreAt_persist, hscored, if_pos rfl]
      · exact ih hnodup.2 hrest _

end

section

variable {py : PyText} {tenantId : Int} {events : List ComplianceEvent} {store : ScoreStore}

theorem nodup_catalogKeys (tenantId : Int) :
    (controlCatalog.map (Control.key tenantId)).Nodup := by
  have hids := nodup_controlCatalog
  have hmap : controlCatalog.map Control.controlId =
      (controlCatalog.map (Control.key tenantId)).map (fun k => k.2.2) := by
    rw [List.map_map]
    rfl
  rw [hmap] at hids
  exact hids.of_map

/-- The rows that are read back are the events that were mapped. -/
theorem storedEvidence_mapEvidenceInto (control : Control) :
    storedEvidence tenantId (mapEvidenceInto py tenantId events store) control =
      evidenceByControl py events control := by
  have hothers : (store.controlEvidence.filter (fun row => row.tenantId ≠ tenantId)).filter
      (fun row => row.tenantId = tenantId) = [] := by
    rw [List.filter_filter, List.filter_eq_nil_iff]
    intro row _
    simp
  have hown : ((events.flatMap (fun event => (matchingControls py event).map
        (fun c => (⟨tenantId, c.framework, c.controlId, event⟩ : ControlEvidence)))).filter
          (fun row => row.tenantId = tenantId)) =
      events.flatMap (fun event => (matchingControls py event).map
        (fun c => ⟨tenantId, c.framework, c.controlId, event⟩)) := by
    rw [List.filter_eq_self]
    intro row hrow
    rcases List.mem_flatMap.mp hrow with ⟨event, -, hrow⟩
    rcases List.mem_map.mp hrow with ⟨c, -, rfl⟩
    exact decide_eq_true rfl
  unfold storedEvidence mapEvidenceInto evidenceByControl mapEvidence
  dsimp only
  rw [List.filter_append, hothers, hown, List.nil_append]
  simp only [List.filter_flatMap, List.map_flatMap, List.filter_map, List.map_map]
  rfl

/-- A calculation keeps the ledger in step. -/
theorem ledgered_calculateScoresInto (h : Ledgered store) :
    Ledgered (calculateScoresInto py tenantId events store) :=
  ledgered_persistScores (fun _ => rfl) (nodup_catalogKeys tenantId)
    (show Ledgered (mapEvidenceInto py tenantId events store) from h) (fun _ _ => rfl)

/-- A calculation stores the scores of its events. -/
theorem scoreAt_calculateScoresInto {control : Control} (hcontrol : control ∈ controlCatalog) :
    (calculateScoresInto py tenantId events store).scoreAt (control.key tenantId) =
      some (scoreOf py events control) := by
  refine (scoreAt_persistScores (fun _ => rfl) (nodup_catalogKeys tenantId) hcontrol _).trans ?_
  rw [storedEvidence_mapEvidenceInto]
  rfl

/-- A run keeps the ledger in step. -/
theorem ledgered_runScores (calls : List (Int × List ComplianceEvent)) (h : Ledgered store) :
    Ledgered (runScores py calls store) := by
  induction calls generalizing store with
  | nil => exact h
  | cons call calls ih => exact ih (ledgered_calculateScoresInto h)

end

/-- Each score is what the penalties of the events mapped to the control leave of 100; more
events leave no higher score; a calculation stores the scores of its events; and after every run
the entries of each tenant and control form a chain that ends in the stored score. -/
theorem scores_and_ledger (py : PyText) :
    (∀ events, ∀ control ∈ controlCatalog, scoreOf py events control = max 0 (100 -
      penalties (events.filter (fun event => control ∈ matchingControls py event)))) ∧
    (∀ events more : List ComplianceEvent, events.Sublist more → ∀ control ∈ controlCatalog,
      scoreOf py more control ≤ scoreOf py events control) ∧
    ∀ calls : List (Int × List ComplianceEvent),
      Ledgered (runScores py calls ScoreStore.empty) ∧
      ∀ tenantId events, ∀ control ∈ controlCatalog,
        (calculateScoresInto py tenantId events (runScores py calls ScoreStore.empty)).scoreAt
          (control.key tenantId) = some (scoreOf py events control) :=
  ⟨fun events _ hcontrol => scoreOf_eq py events hcontrol,
    fun _ _ hsub _ hcontrol => scoreOf_antitone py hsub hcontrol,
    fun calls => ⟨ledgered_runScores calls ledgered_empty,
      fun _ _ _ hcontrol => scoreAt_calculateScoresInto hcontrol⟩⟩

end AuthClaw.Documents
