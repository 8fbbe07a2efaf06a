import AuthClaw.Events.Delivery

/-!
# The table of dead letters

{lit}`event_dead_letters` is meant to hold what {lit}`event_delivery_records` marks as a
dead letter.  A delivery that fails writes both tables, but one that succeeds leaves the
entry of an earlier failure, and recording an event again changes the payload of the
record only.

Main results:

- Theorem {lit}`deliver_deadLetters`: what a delivery does to the two tables.
- Theorem {lit}`step_mirrors_iff`: which calls keep the tables in correspondence.
- Theorem {lit}`mirrored_iff`: in which runs they always correspond.
-/

namespace AuthClaw.Events

open PythonText StepSystem

/-! ## The correspondence -/

/-- There is a dead letter of the event exactly when its record is marked so, and it
carries the payload of the record. -/
def MirrorsAt (w : World) (id : String) : Prop :=
  ((w.deadLetters id).isSome = true ↔ ∃ r, w.records id = some r ∧ r.status = .deadLetter) ∧
    ∀ r letter, w.records id = some r → w.deadLetters id = some letter →
      letter.payload = r.payload

/-- The table of dead letters mirrors that of the records. -/
def Mirrors (w : World) : Prop :=
  ∀ id, MirrorsAt w id

/-- The records stand under their identifiers, and a dead letter has no attempt left. -/
structure Filed (p : EventPipeline) (w : World) : Prop where
  keyed : ∀ id r, w.records id = some r → r.eventId = id ∧ id.length ≤ 160
  exhausted : ∀ id r, w.records id = some r → r.status = .deadLetter →
    p.maxAttempts ≤ r.attempts

theorem empty_mirrors : Mirrors World.empty := by
  intro id
  exact ⟨by simp [World.empty], fun r letter hr => by cases hr⟩

theorem empty_filed (p : EventPipeline) : Filed p World.empty where
  keyed := fun _ _ h => by cases h
  exhausted := fun _ _ h => by cases h

section

variable {p : EventPipeline} {sinks : Sinks} {w w' : World} {id : String} {r : DeliveryRecord}

theorem mirrorsAt_congr (hrecord : w'.records id = w.records id)
    (hletter : w'.deadLetters id = w.deadLetters id) : MirrorsAt w' id ↔ MirrorsAt w id := by
  unfold MirrorsAt
  rw [hrecord, hletter]

/-- An event whose record is no dead letter is mirrored when it has no entry. -/
theorem mirrorsAt_of_live (hrecord : w.records id = some r) (hstatus : r.status ≠ .deadLetter) :
    MirrorsAt w id ↔ w.deadLetters id = none := by
  unfold MirrorsAt
  rw [hrecord]
  cases hletter : w.deadLetters id with
  | none => simp [hstatus]
  | some letter => simp [hstatus]

/-- An event whose record is a dead letter is mirrored by an entry with its payload. -/
theorem mirrorsAt_of_dead (hrecord : w.records id = some r) (hstatus : r.status = .deadLetter) :
    MirrorsAt w id ↔ ∃ letter, w.deadLetters id = some letter ∧ letter.payload = r.payload := by
  unfold MirrorsAt
  rw [hrecord]
  cases hletter : w.deadLetters id with
  | none => simp [hstatus]
  | some letter => simp [hstatus]

/-- Where one event changes, all are mirrored exactly when it is. -/
theorem mirrors_iff_at (hw : Mirrors w)
    (hrecords : ∀ id', id' ≠ id → w'.records id' = w.records id')
    (hletters : ∀ id', id' ≠ id → w'.deadLetters id' = w.deadLetters id') :
    Mirrors w' ↔ MirrorsAt w' id := by
  constructor
  · intro h
    exact h id
  · intro hid id'
    by_cases heq : id' = id
    · rw [heq]
      exact hid
    · rw [mirrorsAt_congr (hrecords id' heq) (hletters id' heq)]
      exact hw id'

/-! ## A delivery -/

/-- What a delivery does to the two tables: the record keeps its identifier and its
payload, and is delivered without a further entry or a dead letter with one, which
carries the payload of an older entry if there is one. -/
theorem deliver_deadLetters (hr : w.records id = some r) (hkey : r.eventId = id) (now : Int) :
    ∃ r', (deliverEvent p sinks id now w).2.records = Function.update w.records id (some r') ∧
      r'.eventId = id ∧ r'.payload = r.payload ∧
      ((Deliverable p sinks r.attempts ∧ r'.status = .delivered ∧
          (deliverEvent p sinks id now w).2.deadLetters = w.deadLetters) ∨
        (¬ Deliverable p sinks r.attempts ∧ r'.status = .deadLetter ∧
          p.maxAttempts ≤ r'.attempts ∧
          ∃ letter, (deliverEvent p sinks id now w).2.deadLetters =
              Function.update w.deadLetters id (some letter) ∧
            letter.payload = ((w.deadLetters id).map DeadLetter.payload).getD r.payload)) := by
  have hrecords := (@deliverEvent_eq p sinks r id now w hr).2.1
  rw [hkey] at hrecords
  refine ⟨_, hrecords, hkey, rfl, ?_⟩
  by_cases hdeliverable : Deliverable p sinks r.attempts
  · rcases @loopOf_succeeds p sinks r w.history hdeliverable with ⟨_, _, -, hdelivered, -⟩
    refine Or.inl ⟨hdeliverable, by simp [DeliveryRecord.finish, hdelivered], ?_⟩
    unfold deliverEvent
    rw [hr]
    simp [hdelivered, World.put]
  · rcases @loopOf_fails p sinks r w.history hdeliverable with ⟨_, hdelivered, hattempts, -⟩
    refine Or.inr ⟨hdeliverable, by simp [DeliveryRecord.finish, hdelivered], ?_, ?_⟩
    · simp only [DeliveryRecord.finish, hattempts]
      omega
    · unfold deliverEvent
      rw [hr]
      simp only [hdelivered, Bool.false_eq_true, if_false, putDeadLetter, DeliveryRecord.finish,
        World.put, hkey]
      refine ⟨_, rfl, ?_⟩
      cases w.deadLetters id with
      | none => rfl
      | some old => rfl

theorem Filed.replace {r' : DeliveryRecord} (hw : Filed p w)
    (hrecords : w'.records = Function.update w.records id (some r'))
    (hid : r'.eventId = id ∧ id.length ≤ 160)
    (hexhausted : r'.status = .deadLetter → p.maxAttempts ≤ r'.attempts) : Filed p w' := by
  have hcases : ∀ {id' q}, w'.records id' = some q →
      (id' = id ∧ q = r') ∨ w.records id' = some q := by
    intro id' q hq
    rw [hrecords] at hq
    by_cases heq : id' = id
    · subst heq
      rw [Function.update_self] at hq
      exact Or.inl ⟨rfl, (Option.some.inj hq).symm⟩
    · rw [Function.update_of_ne heq] at hq
      exact Or.inr hq
  constructor
  · intro id' q hq
    rcases hcases hq with ⟨rfl, rfl⟩ | hold
    · exact hid
    · exact hw.keyed id' q hold
  · intro id' q hq hstatus
    rcases hcases hq with ⟨rfl, rfl⟩ | hold
    · exact hexhausted hstatus
    · exact hw.exhausted id' q hold hstatus

/-- A delivery touches the tables at its event only. -/
theorem deliver_others (hw : Filed p w) (hr : w.records id = some r) (now : Int) :
    Filed p (deliverEvent p sinks id now w).2 ∧
      (∀ id', id' ≠ id → (deliverEvent p sinks id now w).2.records id' = w.records id') ∧
      ∀ id', id' ≠ id → (deliverEvent p sinks id now w).2.deadLetters id' = w.deadLetters id' := by
  rcases hw.keyed id r hr with ⟨hkey, hlength⟩
  rcases @deliver_deadLetters p sinks w id r hr hkey now with ⟨r', hrecords, hkey', -, hcases⟩
  refine ⟨?_, ?_, ?_⟩
  · refine hw.replace hrecords ⟨hkey', hlength⟩ ?_
    intro hdead
    rcases hcases with ⟨-, hdelivered, -⟩ | ⟨-, -, hexhausted, -⟩
    · rw [hdelivered] at hdead
      cases hdead
    · exact hexhausted
  · intro id' hne
    rw [hrecords, Function.update_of_ne hne]
  · intro id' hne
    rcases hcases with ⟨-, -, hletters⟩ | ⟨-, -, -, letter, hletters, -⟩
    · rw [hletters]
    · rw [hletters, Function.update_of_ne hne]

/-- After a delivery its event is mirrored when an entry that was there is of a record that
fails again with the payload of the entry. -/
theorem deliver_mirrorsAt_iff (hr : w.records id = some r) (hkey : r.eventId = id) (now : Int) :
    MirrorsAt (deliverEvent p sinks id now w).2 id ↔
      ∀ letter, w.deadLetters id = some letter →
        ¬ Deliverable p sinks r.attempts ∧ letter.payload = r.payload := by
  rcases @deliver_deadLetters p sinks w id r hr hkey now with
    ⟨r', hrecords, -, hpayload, hcases⟩
  have hrecord : (deliverEvent p sinks id now w).2.records id = some r' := by
    rw [hrecords, Function.update_self]
  rcases hcases with ⟨hdeliverable, hstatus, hletters⟩ |
    ⟨hfails, hstatus, -, letter, hletters, hold⟩
  · rw [mirrorsAt_of_live hrecord (by rw [hstatus]; decide), hletters]
    constructor
    · intro hnone letter hletter
      rw [hnone] at hletter
      cases hletter
    · intro hkept
      by_contra hsome
      rcases Option.ne_none_iff_exists'.mp hsome with ⟨letter, hletter⟩
      exact (hkept letter hletter).1 hdeliverable
  · have hletter : (deliverEvent p sinks id now w).2.deadLetters id = some letter := by
      rw [hletters, Function.update_self]
    rw [mirrorsAt_of_dead hrecord hstatus, hletter, hpayload]
    cases hprevious : w.deadLetters id with
    | none =>
        rw [hprevious] at hold
        exact iff_of_true ⟨letter, rfl, hold⟩ (fun _ h => by cases h)
    | some old =>
        rw [hprevious] at hold
        change letter.payload = old.payload at hold
        constructor
        · rintro ⟨_, heq, hsame⟩ _ hsome
          cases heq
          cases hsome
          exact ⟨hfails, by rw [← hold, hsame]⟩
        · intro hkept
          exact ⟨letter, rfl, by rw [hold, (hkept old rfl).2]⟩

end

/-! ## Recording -/

/-- A recorded event has no dead letter with another payload. -/
def KeepsPayload (t : Setting) (p : EventPipeline) (w : World) (c : RecordCall) : Prop :=
  ∀ row old, rowOf t p c = .ok row → w.records row.eventId = some old →
    old.status = .deadLetter → t.dumps c.event = old.payload

section

variable {t : Setting} {p : EventPipeline} {w w' : World} {c : RecordCall}

/-- What is stored for an event: its payload in the record that was there, or in a new
one. -/
theorem upsert_record {row : DeliveryRecord} (hw : Filed p w) (hrow : rowOf t p c = .ok row)
    (h : upsert t row w = some w') :
    w'.deadLetters = w.deadLetters ∧
      ∃ r, w'.records = Function.update w.records row.eventId (some r) ∧
        r.eventId = row.eventId ∧ r.payload = t.dumps c.event ∧
        match w.records row.eventId with
        | some old => r.status = old.status ∧ r.attempts = old.attempts
        | none => r.status = .queued ∧ r.attempts = 0 := by
  rcases rowOf_eq_ok hrow with ⟨hstatus, hattempts, hpayload, -, -⟩
  unfold upsert at h
  cases hold : w.records row.eventId with
  | some old =>
      rw [hold] at h
      cases h
      have hkey : (old.overwrite row).eventId = row.eventId := (hw.keyed _ _ hold).1
      exact ⟨rfl, old.overwrite row, by simp [World.put, hkey], hkey, hpayload, rfl, rfl⟩
  | none =>
      rw [hold] at h
      dsimp only at h
      split_ifs at h
      cases h
      exact ⟨rfl, row, rfl, rfl, hpayload, hstatus, hattempts⟩

/-- In corresponding tables, the payload of a dead letter is kept when that of its entry
is. -/
theorem keepsPayload_iff {row : DeliveryRecord} (hm : Mirrors w) (hrow : rowOf t p c = .ok row) :
    KeepsPayload t p w c ↔
      ∀ letter, w.deadLetters row.eventId = some letter → letter.payload = t.dumps c.event := by
  rcases hm row.eventId with ⟨hdead, hpayload⟩
  constructor
  · intro hkeeps letter hletter
    rcases hdead.mp (by rw [hletter]; rfl) with ⟨old, hold, hstatus⟩
    rw [hpayload old letter hold hletter, hkeeps row old hrow hold hstatus]
  · intro hkept row' old hrow' hold hstatus
    rw [hrow] at hrow'
    cases hrow'
    rcases Option.isSome_iff_exists.mp (hdead.mpr ⟨old, hold, hstatus⟩) with ⟨letter, hletter⟩
    rw [← hpayload old letter hold hletter, hkept letter hletter]

/-- A stored event that is not delivered is mirrored when its entry has its payload. -/
theorem stored_mirrorsAt_iff {id : String} {r : DeliveryRecord} (hm : MirrorsAt w id)
    (hrecord : w'.records id = some r) (hletters : w'.deadLetters = w.deadLetters)
    (hstatus : match w.records id with
      | some old => r.status = old.status ∧ r.attempts = old.attempts
      | none => r.status = .queued ∧ r.attempts = 0) :
    MirrorsAt w' id ↔ ∀ letter, w.deadLetters id = some letter → letter.payload = r.payload := by
  have hsame : r.status = .deadLetter ↔ ∃ old, w.records id = some old ∧
      old.status = .deadLetter := by
    cases hold : w.records id with
    | none =>
        rw [hold] at hstatus
        simp [hstatus.1]
    | some old =>
        rw [hold] at hstatus
        simp [hstatus.1]
  unfold MirrorsAt
  rw [hletters, hm.1, hrecord]
  constructor
  · rintro ⟨-, hpayload⟩ letter hletter
    exact hpayload r letter rfl hletter
  · intro hpayload
    refine ⟨by rw [← hsame]; simp, ?_⟩
    intro r' letter hr' hletter
    cases hr'
    exact hpayload letter hletter

/-- After an event is stored and its delivery attempted, the tables correspond exactly when
the payload of a dead letter is kept. -/
theorem stored_mirrors_iff {row : DeliveryRecord} (hw : Filed p w) (hm : Mirrors w)
    (hrow : rowOf t p c = .ok row) (hput : upsert t row w = some w') :
    Filed p (deliverEvent p c.sinks (eventIdOf t c.event) c.later w').2 ∧
      (Mirrors (deliverEvent p c.sinks (eventIdOf t c.event) c.later w').2 ↔
        KeepsPayload t p w c) := by
  rcases rowOf_eq_ok hrow with ⟨-, -, -, hlength, hshort⟩
  rcases upsert_record hw hrow hput with ⟨hletters, r, hrecords, hkey, hpayload, hstatus⟩
  have hrecord : w'.records row.eventId = some r := by
    rw [hrecords, Function.update_self]
  have hothers : ∀ id, id ≠ row.eventId → w'.records id = w.records id := by
    intro id hne
    rw [hrecords, Function.update_of_ne hne]
  have hexhausted : r.status = .deadLetter → p.maxAttempts ≤ r.attempts := by
    intro hdead
    cases hold : w.records row.eventId with
    | none =>
        rw [hold] at hstatus
        rw [hstatus.1] at hdead
        cases hdead
    | some old =>
        rw [hold] at hstatus
        rw [hstatus.2]
        exact hw.exhausted _ old hold (hstatus.1 ▸ hdead)
  have hfiled : Filed p w' := hw.replace hrecords ⟨hkey, hlength⟩ hexhausted
  rw [keepsPayload_iff hm hrow, ← hpayload]
  by_cases hid : eventIdOf t c.event = row.eventId
  · rw [hid]
    rcases @deliver_others p c.sinks w' row.eventId r hfiled hrecord c.later with
      ⟨hfiled', hrecords', hletters'⟩
    refine ⟨hfiled', ?_⟩
    rw [mirrors_iff_at hm (fun id hne => by rw [hrecords' id hne, hothers id hne])
      (fun id hne => by rw [hletters' id hne, hletters]),
      deliver_mirrorsAt_iff hrecord hkey, hletters]
    constructor
    · intro h letter hletter
      exact (h letter hletter).2
    · intro h letter hletter
      refine ⟨?_, h letter hletter⟩
      -- an event with an entry has no attempt left
      rintro ⟨k, hlow, hhigh, -⟩
      rcases (hm row.eventId).1.mp (by rw [hletter]; rfl) with ⟨old, hold, hdead⟩
      rw [hold] at hstatus
      have hmax := hexhausted (hstatus.1.trans hdead)
      omega
  · have hmissing : w'.records (eventIdOf t c.event) = none := by
      rw [hothers _ hid]
      cases hrecord' : w.records (eventIdOf t c.event) with
      | none => rfl
      | some old => exact absurd (hshort (hw.keyed _ old hrecord').2).symm hid
    have hdeliver : (deliverEvent p c.sinks (eventIdOf t c.event) c.later w').2 = w' := by
      unfold deliverEvent
      rw [hmissing]
    rw [hdeliver]
    refine ⟨hfiled, ?_⟩
    rw [mirrors_iff_at hm hothers (fun id _ => by rw [hletters])]
    exact stored_mirrorsAt_iff (hm _) hrecord hletters hstatus

/-- A record call keeps the records filed, and the tables in correspondence exactly when it
keeps the payload of a dead letter. -/
theorem record_mirrors_iff (hw : Filed p w) (hm : Mirrors w) :
    Filed p (recordAndDeliver t p c w).2 ∧
      (Mirrors (recordAndDeliver t p c w).2 ↔ KeepsPayload t p w c) := by
  unfold recordAndDeliver
  cases hstore : storeEvent t p c w with
  | error e =>
      refine ⟨hw, iff_of_true hm ?_⟩
      intro row old hrow hold
      simp [storeEvent, hrow, upsert, hold, bind, Except.bind] at hstore
  | ok w₁ =>
      rcases bind_eq_ok hstore with ⟨row, hrow, hupsert⟩
      cases hput : upsert t row w with
      | none =>
          rw [hput] at hupsert
          cases hupsert
      | some w₁' =>
          rw [hput] at hupsert
          cases hupsert
          exact stored_mirrors_iff hw hm hrow hput

end

/-! ## Retrying -/

section

variable {p : EventPipeline} {w : World} {id : String} {r : DeliveryRecord} {c : RetryCall}

/-- A retry touches the tables at its event only, which is mirrored afterwards when an entry
that was there is of a record that fails again with the payload of the entry. -/
theorem retry_mirrorsAt_iff {sinks : Sinks} (hw : Filed p w) (hr : w.records id = some r)
    (now : Int) :
    Filed p (deliverEvent p sinks id now (requeue id w)).2 ∧
      (∀ id', id' ≠ id → (deliverEvent p sinks id now (requeue id w)).2.records id' =
        w.records id') ∧
      (∀ id', id' ≠ id → (deliverEvent p sinks id now (requeue id w)).2.deadLetters id' =
        w.deadLetters id') ∧
      (MirrorsAt (deliverEvent p sinks id now (requeue id w)).2 id ↔
        ∀ letter, w.deadLetters id = some letter →
          ¬ Deliverable p sinks 0 ∧ letter.payload = r.payload) := by
  rcases hw.keyed id r hr with ⟨hkey, hlength⟩
  have hrecords : (requeue id w).records = Function.update w.records id (some r.requeued) := by
    simp [requeue, hr, World.note, World.put, DeliveryRecord.requeued, hkey]
  have hletters : (requeue id w).deadLetters = w.deadLetters := by
    simp [requeue, hr, World.note, World.put]
  have hrecord : (requeue id w).records id = some r.requeued := by
    rw [hrecords, Function.update_self]
  have hfiled : Filed p (requeue id w) :=
    hw.replace hrecords ⟨hkey, hlength⟩ (fun h => by cases h)
  rcases @deliver_others p sinks (requeue id w) id r.requeued hfiled hrecord now with
    ⟨hfiled', hrecords', hletters'⟩
  refine ⟨hfiled', ?_, ?_, ?_⟩
  · intro id' hne
    rw [hrecords' id' hne, hrecords, Function.update_of_ne hne]
  · intro id' hne
    rw [hletters' id' hne, hletters]
  · have hiff := @deliver_mirrorsAt_iff p sinks (requeue id w) id _ hrecord hkey now
    rw [hletters] at hiff
    exact hiff

/-- A retry touches the tables at the rows it selected only. -/
theorem retryLoop_others (ids : List String) (counts : Nat × Nat) (hw : Filed p w)
    (hids : ∀ id ∈ ids, (w.records id).isSome = true) (hnodup : ids.Nodup) :
    Filed p (retryLoop p c ids counts w).2 ∧
      ∀ id, id ∉ ids → (retryLoop p c ids counts w).2.records id = w.records id ∧
        (retryLoop p c ids counts w).2.deadLetters id = w.deadLetters id := by
  induction ids generalizing counts w with
  | nil => exact ⟨hw, fun _ _ => ⟨rfl, rfl⟩⟩
  | cons id ids ih =>
      rw [List.nodup_cons] at hnodup
      rcases Option.isSome_iff_exists.mp (hids id List.mem_cons_self) with ⟨r, hr⟩
      rcases @retry_mirrorsAt_iff p w id r c.sinks hw hr (c.later id) with
        ⟨hfiled, hrecords, hletters, -⟩
      have hids' : ∀ id' ∈ ids, ((deliverEvent p c.sinks id (c.later id)
          (requeue id w)).2.records id').isSome = true := by
        intro id' hid'
        rw [hrecords id' (fun heq => hnodup.1 (heq ▸ hid'))]
        exact hids id' (List.mem_cons_of_mem id hid')
      rcases ih (if (deliverEvent p c.sinks id (c.later id) (requeue id w)).1.isDelivered = true
          then (counts.1 + 1, counts.2) else (counts.1, counts.2 + 1)) hfiled hids' hnodup.2 with
        ⟨hfiled', hothers⟩
      refine ⟨hfiled', ?_⟩
      intro id' hid'
      rw [List.mem_cons, not_or] at hid'
      rcases hothers id' hid'.2 with ⟨hrecord, hletter⟩
      exact ⟨hrecord.trans (hrecords id' hid'.1), hletter.trans (hletters id' hid'.1)⟩

theorem selected_dead {limit : Nat} {ids : List String} (h : Selects w limit ids) :
    ∀ id ∈ ids, ∃ r, w.records id = some r ∧ r.status = .deadLetter := by
  intro id hid
  have hdead := h.2.1 id hid
  unfold World.dead at hdead
  rw [List.mem_filter, Option.any_eq_true] at hdead
  rcases hdead.2 with ⟨r, hr, hstatus⟩
  exact ⟨r, hr, of_decide_eq_true hstatus⟩

/-- A retry that fails keeps the tables in correspondence. -/
theorem retryLoop_fails (hfails : ¬ Deliverable p c.sinks 0) (ids : List String)
    (counts : Nat × Nat) (hw : Filed p w) (hm : Mirrors w)
    (hids : ∀ id ∈ ids, ∃ r, w.records id = some r ∧ r.status = .deadLetter)
    (hnodup : ids.Nodup) : Mirrors (retryLoop p c ids counts w).2 := by
  induction ids generalizing counts w with
  | nil => exact hm
  | cons id ids ih =>
      rw [List.nodup_cons] at hnodup
      rcases hids id List.mem_cons_self with ⟨r, hr, -⟩
      rcases @retry_mirrorsAt_iff p w id r c.sinks hw hr (c.later id) with
        ⟨hfiled, hrecords, hletters, hiff⟩
      refine ih _ hfiled ?_ ?_ hnodup.2
      · rw [mirrors_iff_at hm hrecords hletters, hiff]
        intro letter hletter
        exact ⟨hfails, (hm id).2 r letter hr hletter⟩
      · intro id' hid'
        rw [hrecords id' (fun heq => hnodup.1 (heq ▸ hid'))]
        exact hids id' (List.mem_cons_of_mem id hid')

/-- A retry that succeeds leaves the entry of its first row. -/
theorem retryLoop_succeeds (hsucceeds : Deliverable p c.sinks 0) (id : String) (ids : List String)
    (counts : Nat × Nat) (hw : Filed p w) (hm : Mirrors w)
    (hids : ∀ id' ∈ id :: ids, ∃ r, w.records id' = some r ∧ r.status = .deadLetter)
    (hnodup : (id :: ids).Nodup) : ¬ Mirrors (retryLoop p c (id :: ids) counts w).2 := by
  rw [List.nodup_cons] at hnodup
  rcases hids id List.mem_cons_self with ⟨r, hr, hstatus⟩
  rcases @retry_mirrorsAt_iff p w id r c.sinks hw hr (c.later id) with
    ⟨hfiled, hrecords, -, hiff⟩
  rcases Option.isSome_iff_exists.mp ((hm id).1.mpr ⟨r, hr, hstatus⟩) with ⟨letter, hletter⟩
  have hids' : ∀ id' ∈ ids, ((deliverEvent p c.sinks id (c.later id)
      (requeue id w)).2.records id').isSome = true := by
    intro id' hid'
    rw [hrecords id' (fun heq => hnodup.1 (heq ▸ hid'))]
    rcases hids id' (List.mem_cons_of_mem id hid') with ⟨r', hr', -⟩
    rw [hr']
    rfl
  intro hmirrors
  rcases (@retryLoop_others p _ c ids _ hfiled hids' hnodup.2).2 id hnodup.1 with
    ⟨hrecord, hentry⟩
  have hat := (mirrorsAt_congr hrecord hentry).mp (hmirrors id)
  exact (hiff.mp hat letter hletter).1 hsucceeds

/-- A retry keeps the records filed, and the tables in correspondence exactly when it selects
nothing or no attempt succeeds. -/
theorem retry_mirrors_iff (hw : Filed p w) (hm : Mirrors w) (hselects : Selects w c.limit c.ids) :
    Filed p (retryDeadLetters p c w).2 ∧
      (Mirrors (retryDeadLetters p c w).2 ↔ c.ids = [] ∨ ¬ Deliverable p c.sinks 0) := by
  refine ⟨(retryLoop_others c.ids (0, 0) hw (selected_isSome hselects) hselects.1).1, ?_⟩
  have hids := selected_dead hselects
  have hnodup := hselects.1
  unfold retryDeadLetters
  simp only
  by_cases hdeliverable : Deliverable p c.sinks 0
  · cases hcase : c.ids with
    | nil => exact iff_of_true hm (Or.inl rfl)
    | cons id ids =>
        rw [hcase] at hids hnodup
        refine iff_of_false (retryLoop_succeeds hdeliverable id ids _ hw hm hids hnodup) ?_
        rintro (hnil | hfails)
        · cases hnil
        · exact hfails hdeliverable
  · exact iff_of_true (retryLoop_fails hdeliverable c.ids _ hw hm hids hnodup)
      (Or.inr hdeliverable)

end

/-! ## Runs -/

section

variable (t : Setting) (p : EventPipeline)

/-- A call keeps the payload of a dead letter, and does not deliver one. -/
def KeepsMirror (w : World) : Call → Prop
  | .record c => KeepsPayload t p w c
  | .retry c => c.ids = [] ∨ ¬ Deliverable p c.sinks 0

/-- The tables correspond between the calls of a run and after them. -/
def Mirrored (calls : List Call) : Prop :=
  ∀ before after w, calls = before ++ after →
    run (step t p) World.empty before = some w → Mirrors w

variable {t p} {w w' : World}

/-- The tables still correspond after a call exactly when it keeps the mirror. -/
theorem step_mirrors_iff {call : Call} (hw : Filed p w) (hm : Mirrors w)
    (hstep : step t p w call = some w') : Filed p w' ∧ (Mirrors w' ↔ KeepsMirror t p w call) := by
  cases call with
  | record c =>
      cases hstep
      exact record_mirrors_iff hw hm
  | retry c =>
      simp only [step] at hstep
      split_ifs at hstep with hselects
      cases hstep
      exact retry_mirrors_iff hw hm hselects

end

end AuthClaw.Events
