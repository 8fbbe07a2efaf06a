import AuthClaw.Events.Pipeline
import AuthClaw.Library.StepSystem

/-!
# Delivering events

A record keeps its attempts when its event is recorded again, whether they failed or the
last one succeeded.  So an exhausted record is not published again, and a delivered one
becomes a dead letter after fewer failures than there are attempts.

Main results:

- Theorem {lit}`deliver_succeeds` and {lit}`deliver_fails`: what a delivery does to records
  that count their failures.
- Theorem {lit}`step_sound` and {lit}`step_allowed`: what an allowed call does, and that
  only such a call does it.
- Theorem {lit}`delivers_iff`: a run delivers what it records while the sinks are healthy,
  and buries nothing too early, exactly when all its calls are allowed.
-/

namespace AuthClaw.Events

open PythonText StepSystem

/-! ## Failures -/

/-- The failed attempts of a record since it was last queued. -/
def failuresSince (id : String) : List Happening → Nat
  | [] => 0
  | .queued q :: h => if q = id then 0 else failuresSince id h
  | .failed q :: h => if q = id then failuresSince id h + 1 else failuresSince id h
  | .published _ _ _ :: h => failuresSince id h
  | .marked _ _ :: h => failuresSince id h

/-- A record is marked a dead letter, whatever it was before, only after that many failed
attempts since it was last queued. -/
def DeadAfterFailures (max : Int) (history : List Happening) : Prop :=
  ∀ id older, (.marked id .deadLetter :: older) <:+ history → max ≤ failuresSince id older

section

variable {max : Int} {h : List Happening}

theorem deadAfterFailures_nil : DeadAfterFailures max [] := by
  intro id older hsuffix
  cases List.suffix_nil.mp hsuffix

theorem deadAfterFailures_cons {x : Happening} (hx : ∀ id, x ≠ .marked id .deadLetter) :
    DeadAfterFailures max (x :: h) ↔ DeadAfterFailures max h := by
  constructor
  · intro hdead id older hsuffix
    exact hdead id older (hsuffix.trans (List.suffix_cons x h))
  · intro hdead id older hsuffix
    rcases List.suffix_cons_iff.mp hsuffix with heq | hsuffix
    · cases heq
      exact absurd rfl (hx id)
    · exact hdead id older hsuffix

theorem deadAfterFailures_dead {id : String} :
    DeadAfterFailures max (.marked id .deadLetter :: h) ↔
      max ≤ failuresSince id h ∧ DeadAfterFailures max h := by
  constructor
  · intro hdead
    refine ⟨hdead id h (List.suffix_refl _), ?_⟩
    intro id' older hsuffix
    exact hdead id' older (hsuffix.trans (List.suffix_cons _ h))
  · rintro ⟨hmax, hdead⟩ id' older hsuffix
    rcases List.suffix_cons_iff.mp hsuffix with heq | hsuffix
    · cases heq
      exact hmax
    · exact hdead id' older hsuffix

theorem deadAfterFailures_of_suffix {older : List Happening} (hdead : DeadAfterFailures max h)
    (hsuffix : older <:+ h) : DeadAfterFailures max older :=
  fun id rest hrest => hdead id rest (hrest.trans hsuffix)

/-- Attempts mark nothing. -/
theorem deadAfterFailures_tries {r : DeliveryRecord} {new : List Happening} {n : Nat}
    (hnew : Tries r new n) : DeadAfterFailures max (new ++ h) ↔ DeadAfterFailures max h := by
  have hentries := hnew.entries
  clear hnew
  induction new with
  | nil => rfl
  | cons x new ih =>
      have hx : ∀ id, x ≠ .marked id .deadLetter := by
        rintro id rfl
        rcases hentries _ List.mem_cons_self with hfailed | ⟨sink, hpublished⟩
        · cases hfailed
        · cases hpublished
      rw [List.cons_append, deadAfterFailures_cons hx]
      exact ih (fun y hy => hentries y (List.mem_cons_of_mem x hy))

/-- Attempts add their failures to those of their record. -/
theorem failuresSince_tries {r : DeliveryRecord} {new : List Happening} {n : Nat}
    (hnew : Tries r new n) (id : String) :
    failuresSince id (new ++ h) = failuresSince id h + if r.eventId = id then n else 0 := by
  induction new generalizing n with
  | nil =>
      rw [← hnew.count]
      simp
  | cons x new ih =>
      have hrest : Tries r new (new.count (.failed r.eventId)) :=
        ⟨fun y hy => hnew.entries y (List.mem_cons_of_mem x hy), rfl⟩
      have hcount := hnew.count
      rcases hnew.entries x List.mem_cons_self with rfl | ⟨sink, rfl⟩
      · rw [List.count_cons_self] at hcount
        rw [List.cons_append, failuresSince, ih hrest, ← hcount]
        split_ifs <;> omega
      · rw [List.count_cons_of_ne (by simp)] at hcount
        rw [List.cons_append, failuresSince, ih hrest, hcount]

end

/-! ## Records that count their failures -/

/-- The records count their failures: so many attempts have failed, and a delivered one
has had an attempt more. -/
structure Counted (p : EventPipeline) (w : World) : Prop where
  keyed : ∀ id r, w.records id = some r → r.eventId = id ∧ id.length ≤ 160
  undelivered : ∀ id r, w.records id = some r → r.status ≠ .delivered →
    r.attempts = failuresSince id w.history
  delivered : ∀ id r, w.records id = some r → r.status = .delivered →
    failuresSince id w.history < r.attempts ∧ r.attempts ≤ p.maxAttempts
  buried : DeadAfterFailures p.maxAttempts w.history

theorem empty_counted (p : EventPipeline) : Counted p World.empty where
  keyed := fun _ _ h => by cases h
  undelivered := fun _ _ h => by cases h
  delivered := fun _ _ h => by cases h
  buried := deadAfterFailures_nil

section

variable {p : EventPipeline} {sinks : Sinks} {w : World} {id : String} {r : DeliveryRecord}

/-- One record is replaced, and nothing happens to the others. -/
theorem Counted.replace {w' : World} {r' : DeliveryRecord} (hw : Counted p w)
    (hid : r'.eventId = id ∧ id.length ≤ 160)
    (hrecords : w'.records = Function.update w.records id (some r'))
    (hothers : ∀ id', id' ≠ id → failuresSince id' w'.history = failuresSince id' w.history)
    (hundelivered : r'.status ≠ .delivered → r'.attempts = failuresSince id w'.history)
    (hdelivered : r'.status = .delivered →
      failuresSince id w'.history < r'.attempts ∧ r'.attempts ≤ p.maxAttempts)
    (hburied : DeadAfterFailures p.maxAttempts w'.history) : Counted p w' := by
  have hcases : ∀ {id' q}, w'.records id' = some q →
      (id' = id ∧ q = r') ∨ (id' ≠ id ∧ w.records id' = some q) := by
    intro id' q hq
    rw [hrecords] at hq
    by_cases heq : id' = id
    · subst heq
      rw [Function.update_self] at hq
      exact Or.inl ⟨rfl, (Option.some.inj hq).symm⟩
    · rw [Function.update_of_ne heq] at hq
      exact Or.inr ⟨heq, hq⟩
  refine ⟨?_, ?_, ?_, hburied⟩
  · intro id' q hq
    rcases hcases hq with ⟨rfl, rfl⟩ | ⟨-, hold⟩
    · exact hid
    · exact hw.keyed id' q hold
  · intro id' q hq hstatus
    rcases hcases hq with ⟨rfl, rfl⟩ | ⟨hne, hold⟩
    · exact hundelivered hstatus
    · rw [hothers id' hne]
      exact hw.undelivered id' q hold hstatus
  · intro id' q hq hstatus
    rcases hcases hq with ⟨rfl, rfl⟩ | ⟨hne, hold⟩
    · exact hdelivered hstatus
    · rw [hothers id' hne]
      exact hw.delivered id' q hold hstatus

theorem Counted.attempts_le (hw : Counted p w) (hr : w.records id = some r) :
    failuresSince id w.history ≤ r.attempts := by
  by_cases hstatus : r.status = .delivered
  · exact (hw.delivered id r hr hstatus).1.le
  · exact (hw.undelivered id r hr hstatus).ge

/-- A record with an attempt left that succeeds is delivered and published. -/
theorem deliver_succeeds (hw : Counted p w) (hr : w.records id = some r)
    (hdeliverable : Deliverable p sinks r.attempts) (now : Int) :
    Counted p (deliverEvent p sinks id now w).2 ∧
      (deliverEvent p sinks id now w).1.isDelivered = true ∧
      ∃ new, (deliverEvent p sinks id now w).2.history = new ++ w.history ∧
        ∀ sink ∈ sinksInUse p sinks r.topic, .published sink id r.payload ∈ new := by
  have hkey := (hw.keyed id r hr).1
  have hle := hw.attempts_le hr
  rcases @loopOf_succeeds p sinks r w.history hdeliverable with
    ⟨failures, new, hmax, hdelivered, hattempts, hhistory, htries, hpublished⟩
  rcases @deliverEvent_eq p sinks r id now w hr with ⟨hresult, hrecords, -, hhistory'⟩
  have hstatus : (r.finish (loopOf p sinks r w.history) now).status = .delivered := by
    simp [DeliveryRecord.finish, hdelivered]
  rw [hstatus] at hresult hhistory'
  rw [hhistory] at hhistory'
  rw [hkey] at hrecords
  have hfailures : ∀ id', failuresSince id' (deliverEvent p sinks id now w).2.history =
      failuresSince id' w.history + if id = id' then failures else 0 := by
    intro id'
    rw [hhistory', failuresSince, failuresSince_tries htries, hkey]
  refine ⟨hw.replace (by simpa using hw.keyed id r hr) hrecords ?_ ?_ ?_ ?_,
    by rw [hresult]; rfl, ?_⟩
  · intro id' hne
    rw [hfailures, if_neg (Ne.symm hne), Nat.add_zero]
  · intro hne
    exact absurd hstatus hne
  · intro _
    rw [hfailures, if_pos rfl]
    simp only [DeliveryRecord.finish, hattempts]
    constructor
    · omega
    · push_cast
      exact hmax
  · rw [hhistory', deadAfterFailures_cons (by simp), deadAfterFailures_tries htries]
    exact hw.buried
  · refine ⟨.marked id .delivered :: new, by rw [hhistory']; rfl, ?_⟩
    intro sink hsink
    rw [← hkey]
    exact List.mem_cons_of_mem _ (hpublished sink hsink)

/-- A record without such an attempt is marked a dead letter, so many failures after it
was last queued. -/
theorem deliver_fails (hw : Counted p w) (hr : w.records id = some r)
    (hdeliverable : ¬ Deliverable p sinks r.attempts) (now : Int) :
    (deliverEvent p sinks id now w).1.isDelivered = false ∧
      ∃ new, Tries r new (p.maxAttempts - r.attempts).toNat ∧
        (deliverEvent p sinks id now w).2.history =
          .marked id .deadLetter :: (new ++ w.history) ∧
        (r.status ≠ .delivered → Counted p (deliverEvent p sinks id now w).2) := by
  have hkey := (hw.keyed id r hr).1
  rcases @loopOf_fails p sinks r w.history hdeliverable with
    ⟨new, hdelivered, hattempts, hhistory, htries⟩
  rcases @deliverEvent_eq p sinks r id now w hr with ⟨hresult, hrecords, -, hhistory'⟩
  have hstatus : (r.finish (loopOf p sinks r w.history) now).status = .deadLetter := by
    simp [DeliveryRecord.finish, hdelivered]
  rw [hstatus] at hresult hhistory'
  rw [hhistory] at hhistory'
  rw [hkey] at hrecords
  refine ⟨by rw [hresult]; rfl, new, htries, hhistory', ?_⟩
  intro hundelivered
  have hcount := hw.undelivered id r hr hundelivered
  have hfailures : ∀ id', failuresSince id' (new ++ w.history) =
      failuresSince id' w.history + if id = id' then (p.maxAttempts - r.attempts).toNat else 0 := by
    intro id'
    rw [failuresSince_tries htries, hkey]
  refine hw.replace (by simpa using hw.keyed id r hr) hrecords ?_ ?_ ?_ ?_
  · intro id' hne
    rw [hhistory', failuresSince, hfailures, if_neg (Ne.symm hne), Nat.add_zero]
  · intro _
    rw [hhistory', failuresSince, hfailures, if_pos rfl]
    simp only [DeliveryRecord.finish, hattempts]
    omega
  · intro hdelivered'
    rw [hstatus] at hdelivered'
    cases hdelivered'
  · rw [hhistory', deadAfterFailures_dead, deadAfterFailures_tries htries, hfailures, if_pos rfl]
    exact ⟨by omega, hw.buried⟩

end

/-! ## Recording -/

/-- The attempts stored for an identifier. -/
def storedAttempts (w : World) (id : String) : Nat :=
  ((w.records id).map DeliveryRecord.attempts).getD 0

/-- The record of an identifier is delivered. -/
def WasDelivered (w : World) (id : String) : Prop :=
  ∃ r, w.records id = some r ∧ r.status = .delivered

/-- The table takes the event of a call under its identifier. -/
def Accepts (t : Setting) (p : EventPipeline) (c : RecordCall) (w : World) : Prop :=
  ∃ row, rowOf t p c = .ok row ∧ row.eventId = eventIdOf t c.event ∧
    ((w.records row.eventId).isSome = true ∨ row.tenantId.all t.tenants = true)

section

variable {t : Setting} {p : EventPipeline} {w w' : World} {c : RecordCall}

/-- The row of a call is new: it is queued, without attempts. -/
theorem rowOf_eq_ok {row : DeliveryRecord} (h : rowOf t p c = .ok row) :
    row.status = .queued ∧ row.attempts = 0 ∧ row.payload = t.dumps c.event ∧
      row.eventId.length ≤ 160 ∧
      ((eventIdOf t c.event).length ≤ 160 → row.eventId = eventIdOf t c.event) := by
  unfold rowOf at h
  split at h
  next => cases h
  next tenantId _ =>
    split at h
    next row' hstored =>
      cases h
      unfold storedRow at hstored
      rcases Option.bind_eq_some_iff.mp hstored with ⟨eventId, hid, hstored⟩
      rcases Option.bind_eq_some_iff.mp hstored with ⟨stream, -, hstored⟩
      rcases Option.bind_eq_some_iff.mp hstored with ⟨topic, -, hstored⟩
      rcases Option.bind_eq_some_iff.mp hstored with ⟨source, -, hstored⟩
      split_ifs at hstored
      cases hstored
      exact ⟨rfl, rfl, rfl, columnText_eq_some hid⟩
    next => cases h

/-- What is stored for an event: its payload, with the attempts and the delivery of the
record that was there. -/
theorem upsert_spec {row : DeliveryRecord} (hw : Counted p w) (hrow : rowOf t p c = .ok row)
    (h : upsert t row w = some w') :
    Counted p w' ∧ (∀ id, id ≠ row.eventId → w'.records id = w.records id) ∧
      (∃ note, w'.history = note ++ w.history) ∧
      ∃ r, w'.records row.eventId = some r ∧ r.payload = t.dumps c.event ∧
        r.attempts = storedAttempts w row.eventId ∧
        (r.status = .delivered ↔ WasDelivered w row.eventId) := by
  rcases rowOf_eq_ok hrow with ⟨hstatus, hattempts, hpayload, hlength, -⟩
  unfold upsert at h
  split at h
  next old hold =>
    cases h
    have hkey : (old.overwrite row).eventId = row.eventId := (hw.keyed _ _ hold).1
    have hrecords : (w.put (old.overwrite row)).records =
        Function.update w.records row.eventId (some (old.overwrite row)) := by
      simp [World.put, hkey]
    refine ⟨?_, ?_, ⟨[], rfl⟩, old.overwrite row, by rw [hrecords, Function.update_self], hpayload,
      ?_, ?_⟩
    · exact hw.replace ⟨hkey, hlength⟩ hrecords (fun _ _ => rfl) (hw.undelivered _ old hold)
        (hw.delivered _ old hold) hw.buried
    · intro id hne
      rw [hrecords, Function.update_of_ne hne]
    · simp [storedAttempts, hold, DeliveryRecord.overwrite]
    · simp [WasDelivered, hold, DeliveryRecord.overwrite]
  next hnone =>
    split_ifs at h with htenant
    cases h
    refine ⟨?_, ?_, ⟨[.queued row.eventId], rfl⟩, row, ?_, hpayload, ?_, ?_⟩
    · refine @Counted.replace p w row.eventId _ row hw ⟨rfl, hlength⟩ rfl ?_ ?_ ?_ ?_
      · intro id hne
        simp [World.note, World.put, failuresSince, Ne.symm hne]
      · intro _
        simp [World.note, World.put, failuresSince, hattempts]
      · intro hdelivered
        rw [hstatus] at hdelivered
        cases hdelivered
      · exact (deadAfterFailures_cons (by simp)).mpr hw.buried
    · intro id hne
      exact Function.update_of_ne hne _ _
    · exact Function.update_self _ _ _
    · simp [storedAttempts, hnone, hattempts]
    · simp [WasDelivered, hnone, hstatus]

/-- An event that is not accepted under its identifier is not delivered. -/
theorem record_rejected (hw : Counted p w) (h : ¬ Accepts t p c w) :
    Counted p (recordAndDeliver t p c w).2 ∧
      ∀ result, (recordAndDeliver t p c w).1 = .ok result → result.isDelivered = false := by
  unfold recordAndDeliver
  cases hstore : storeEvent t p c w with
  | error e => exact ⟨hw, fun _ hresult => by cases hresult⟩
  | ok w' =>
      rcases bind_eq_ok hstore with ⟨row, hrow, hupsert⟩
      cases hput : upsert t row w with
      | none =>
          rw [hput] at hupsert
          cases hupsert
      | some w'' =>
          rw [hput] at hupsert
          cases hupsert
          rcases upsert_spec hw hrow hput with ⟨hw', hothers, -⟩
          have hne : eventIdOf t c.event ≠ row.eventId := by
            intro heq
            refine h ⟨row, hrow, heq.symm, ?_⟩
            unfold upsert at hput
            split at hput
            next old hold => exact Or.inl (by rw [hold]; rfl)
            next =>
              split_ifs at hput with htenant
              exact Or.inr htenant
          have hlong : ¬ (eventIdOf t c.event).length ≤ 160 := fun hlength =>
            hne ((rowOf_eq_ok hrow).2.2.2.2 hlength).symm
          have hmissing : w'.records (eventIdOf t c.event) = none := by
            rw [hothers _ hne]
            cases hrecord : w.records (eventIdOf t c.event) with
            | none => rfl
            | some r => exact absurd (hw.keyed _ r hrecord).2 hlong
          have hdeliver : deliverEvent p c.sinks (eventIdOf t c.event) c.later w' =
              (.missing (eventIdOf t c.event), w') := by
            unfold deliverEvent
            rw [hmissing]
          simp only [hdeliver]
          refine ⟨hw', ?_⟩
          intro result hresult
          cases hresult
          rfl

/-- An accepted event is stored with the attempts and the delivery of the record that was
there, and then delivered. -/
theorem record_accepted (hw : Counted p w) (h : Accepts t p c w) :
    ∃ w' r, Counted p w' ∧ (∃ note, w'.history = note ++ w.history) ∧
      w'.records (eventIdOf t c.event) = some r ∧ r.payload = t.dumps c.event ∧
      r.attempts = storedAttempts w (eventIdOf t c.event) ∧
      (r.status = .delivered ↔ WasDelivered w (eventIdOf t c.event)) ∧
      recordAndDeliver t p c w =
        (.ok (deliverEvent p c.sinks (eventIdOf t c.event) c.later w').1,
          (deliverEvent p c.sinks (eventIdOf t c.event) c.later w').2) := by
  rcases h with ⟨row, hrow, hid, htaken⟩
  have hput : ∃ w', upsert t row w = some w' := by
    unfold upsert
    split
    next => exact ⟨_, rfl⟩
    next hnone =>
      rcases htaken with hsome | htenant
      · rw [hnone] at hsome
        cases hsome
      · rw [if_pos htenant]
        exact ⟨_, rfl⟩
  rcases hput with ⟨w', hput⟩
  rcases upsert_spec hw hrow hput with ⟨hw', -, hnote, r, hrecord, hpayload, hattempts, hstatus⟩
  have hstore : storeEvent t p c w = .ok w' := by
    simp [storeEvent, hrow, hput, bind, Except.bind]
  rw [← hid]
  refine ⟨w', r, hw', hnote, hrecord, hpayload, hattempts, hstatus, ?_⟩
  unfold recordAndDeliver
  rw [hstore, ← hid]

end

/-! ## Retrying -/

section

variable {p : EventPipeline} {w : World} {c : RetryCall}

/-- A record that is queued again has no attempts and no failures. -/
theorem requeue_spec {id : String} {r : DeliveryRecord} (hw : Counted p w)
    (hr : w.records id = some r) :
    Counted p (requeue id w) ∧
      (requeue id w).records = Function.update w.records id (some r.requeued) ∧
      (requeue id w).history = .queued id :: w.history := by
  have hkey : r.requeued.eventId = id := (hw.keyed id r hr).1
  have hrecords : (requeue id w).records = Function.update w.records id (some r.requeued) := by
    simp [requeue, hr, World.note, World.put, hkey]
  have hhistory : (requeue id w).history = .queued id :: w.history := by
    simp [requeue, hr, World.note, World.put]
  refine ⟨hw.replace ⟨hkey, (hw.keyed id r hr).2⟩ hrecords ?_ ?_ ?_ ?_, hrecords, hhistory⟩
  · intro id' hne
    rw [hhistory, failuresSince, if_neg (Ne.symm hne)]
  · intro _
    rw [hhistory, failuresSince, if_pos rfl]
    rfl
  · intro hdelivered
    cases hdelivered
  · rw [hhistory]
    exact (deadAfterFailures_cons (by simp)).mpr hw.buried

/-- A retried record is delivered when some attempt succeeds. -/
theorem retry_spec {id : String} {r : DeliveryRecord} {sinks : Sinks} (hw : Counted p w)
    (hr : w.records id = some r) (now : Int) :
    Counted p (deliverEvent p sinks id now (requeue id w)).2 ∧
      (∀ id', id' ≠ id →
        (deliverEvent p sinks id now (requeue id w)).2.records id' = w.records id') ∧
      ((deliverEvent p sinks id now (requeue id w)).1.isDelivered = true ↔
        Deliverable p sinks 0) ∧
      ∃ new, (deliverEvent p sinks id now (requeue id w)).2.history = new ++ w.history ∧
        (Deliverable p sinks 0 →
          ∀ sink ∈ sinksInUse p sinks r.topic, .published sink id r.payload ∈ new) := by
  rcases requeue_spec hw hr with ⟨hw', hrecords, hhistory⟩
  have hr' : (requeue id w).records id = some r.requeued := by
    rw [hrecords, Function.update_self]
  have hothers : ∀ id', id' ≠ id →
      (deliverEvent p sinks id now (requeue id w)).2.records id' = w.records id' := by
    intro id' hne
    rw [(@deliverEvent_eq p sinks _ id now _ hr').2.1, (hw'.keyed id _ hr').1,
      Function.update_of_ne hne, hrecords, Function.update_of_ne hne]
  by_cases hdeliverable : Deliverable p sinks 0
  · rcases deliver_succeeds (r := r.requeued) hw' hr' hdeliverable now with
      ⟨hcounted, hdelivered, new, hnew, hpublished⟩
    refine ⟨hcounted, hothers, iff_of_true hdelivered hdeliverable, new ++ [.queued id], ?_, ?_⟩
    · rw [hnew, hhistory, List.append_assoc]
      rfl
    · exact fun _ sink hsink => List.mem_append_left _ (hpublished sink hsink)
  · rcases deliver_fails (r := r.requeued) hw' hr' hdeliverable now with
      ⟨hdelivered, new, -, hnew, hcounted⟩
    refine ⟨hcounted (by simp [DeliveryRecord.requeued]), hothers,
      iff_of_false (by rw [hdelivered]; decide) hdeliverable,
      .marked id .deadLetter :: new ++ [.queued id], ?_, fun h => absurd h hdeliverable⟩
    rw [hnew, hhistory]
    simp

/-- A retry delivers all of its rows or none. -/
theorem retryLoop_spec (ids : List String) (counts : Nat × Nat) (hw : Counted p w)
    (hids : ∀ id ∈ ids, (w.records id).isSome = true) (hnodup : ids.Nodup) :
    Counted p (retryLoop p c ids counts w).2 ∧
      (Deliverable p c.sinks 0 →
        (retryLoop p c ids counts w).1 = (counts.1 + ids.length, counts.2)) ∧
      (¬ Deliverable p c.sinks 0 →
        (retryLoop p c ids counts w).1 = (counts.1, counts.2 + ids.length)) ∧
      ∃ new, (retryLoop p c ids counts w).2.history = new ++ w.history ∧
        (Deliverable p c.sinks 0 → ∀ id ∈ ids, ∀ r, w.records id = some r →
          ∀ sink ∈ sinksInUse p c.sinks r.topic, .published sink id r.payload ∈ new) := by
  induction ids generalizing counts w with
  | nil => exact ⟨hw, fun _ => rfl, fun _ => rfl, [], rfl, fun _ _ hid => by cases hid⟩
  | cons id ids ih =>
      rw [List.nodup_cons] at hnodup
      rcases Option.isSome_iff_exists.mp (hids id List.mem_cons_self) with ⟨r, hr⟩
      rcases @retry_spec p w id r c.sinks hw hr (c.later id) with
        ⟨hcounted, hothers, hdelivered, first, hfirst, hpublished⟩
      have hids' : ∀ id' ∈ ids, ((deliverEvent p c.sinks id (c.later id)
          (requeue id w)).2.records id').isSome = true := by
        intro id' hid'
        have hne : id' ≠ id := by
          rintro rfl
          exact hnodup.1 hid'
        rw [hothers id' hne]
        exact hids id' (List.mem_cons_of_mem id hid')
      simp only [retryLoop, List.length_cons]
      rcases ih (if (deliverEvent p c.sinks id (c.later id) (requeue id w)).1.isDelivered = true
          then (counts.1 + 1, counts.2) else (counts.1, counts.2 + 1)) hcounted hids' hnodup.2 with
        ⟨hcounted', hall, hnone, rest, hrest, hpublished'⟩
      refine ⟨hcounted', ?_, ?_, rest ++ first, by rw [hrest, hfirst, List.append_assoc], ?_⟩
      · intro hdeliverable
        rw [hall hdeliverable, if_pos (hdelivered.mpr hdeliverable)]
        simp only [Prod.mk.injEq, and_true]
        omega
      · intro hdeliverable
        rw [hnone hdeliverable, if_neg (fun h => hdeliverable (hdelivered.mp h))]
        simp only [Prod.mk.injEq, true_and]
        omega
      · intro hdeliverable id' hid' r' hr' sink hsink
        rcases List.mem_cons.mp hid' with rfl | htail
        · rw [hr] at hr'
          cases hr'
          exact List.mem_append_right _ (hpublished hdeliverable sink hsink)
        · have hne : id' ≠ id := by
            rintro rfl
            exact hnodup.1 htail
          have hkept := hothers id' hne
          rw [hr'] at hkept
          exact List.mem_append_left _ (hpublished' hdeliverable id' htail r' hkept sink hsink)

end

/-! ## Calls -/

section

variable (t : Setting) (p : EventPipeline)

/-- The sinks take whatever is published. -/
def Healthy (sinks : Sinks) : Prop :=
  ∀ attempt, attemptSucceeds p sinks attempt = true

/-- The event of the call is published, and the call returns that it is delivered. -/
def RecordOutcome (w : World) (c : RecordCall) : Prop :=
  ∃ result topic new, (recordAndDeliver t p c w).1 = .ok result ∧
    result.isDelivered = true ∧ (recordAndDeliver t p c w).2.history = new ++ w.history ∧
    ∀ sink ∈ sinksInUse p c.sinks topic,
      .published sink (eventIdOf t c.event) (t.dumps c.event) ∈ new

/-- The events retried are published, and the call returns that all are delivered. -/
def RetryOutcome (w : World) (c : RetryCall) : Prop :=
  (retryDeadLetters p c w).1 = ⟨c.ids.length, c.ids.length, 0⟩ ∧
    ∃ new, (retryDeadLetters p c w).2.history = new ++ w.history ∧
      ∀ id ∈ c.ids, ∀ r, w.records id = some r →
        ∀ sink ∈ sinksInUse p c.sinks r.topic, .published sink id r.payload ∈ new

/-- A call publishes its events and returns that they are delivered. -/
def Outcome (w : World) : Call → Prop
  | .record c => RecordOutcome t p w c
  | .retry c => RetryOutcome p w c

/-- An event is recorded while an attempt is left, and a delivered one while one of those
left succeeds; a retry needs an attempt at all. -/
def Allowed (w : World) : Call → Prop
  | .record c =>
      (Healthy p c.sinks → Accepts t p c w ∧
        (storedAttempts w (eventIdOf t c.event) : Int) < p.maxAttempts) ∧
      (Accepts t p c w → WasDelivered w (eventIdOf t c.event) →
        Deliverable p c.sinks (storedAttempts w (eventIdOf t c.event)))
  | .retry c => Healthy p c.sinks → c.ids = [] ∨ 0 < p.maxAttempts

/-- A run delivers: a call made while the sinks are healthy publishes its events and
returns that they are delivered, and a record becomes a dead letter only after as many
failed attempts as there are. -/
structure Delivers (calls : List Call) : Prop where
  healthy : ∀ before call after w, calls = before ++ call :: after →
    run (step t p) World.empty before = some w → Healthy p call.sinks → Outcome t p w call
  buried : ∀ w, run (step t p) World.empty calls = some w →
    DeadAfterFailures p.maxAttempts w.history

variable {t p} {w w' : World}

theorem deliverable_of_healthy {sinks : Sinks} {attempts : Nat} (h : Healthy p sinks)
    (hleft : (attempts : Int) < p.maxAttempts) : Deliverable p sinks attempts :=
  ⟨attempts + 1, by omega, by push_cast; omega, h _⟩

theorem selected_isSome {limit : Nat} {ids : List String} (h : Selects w limit ids) :
    ∀ id ∈ ids, (w.records id).isSome = true := by
  intro id hid
  have hdead := h.2.1 id hid
  unfold World.dead at hdead
  rw [List.mem_filter] at hdead
  cases hrecord : w.records id with
  | none =>
      rw [hrecord] at hdead
      cases hdead.2
  | some r => rfl

/-- What an allowed call of `record_and_deliver` does. -/
theorem record_sound {c : RecordCall} (hw : Counted p w) (hallowed : Allowed t p w (.record c)) :
    Counted p (recordAndDeliver t p c w).2 ∧ (Healthy p c.sinks → RecordOutcome t p w c) := by
  rcases hallowed with ⟨hhealthy, hagain⟩
  by_cases haccepts : Accepts t p c w
  · rcases record_accepted hw haccepts with
      ⟨w₁, r, hw₁, ⟨note, hnote⟩, hrecord, hpayload, hattempts, hstatus, heq⟩
    unfold RecordOutcome
    rw [heq]
    by_cases hdeliverable : Deliverable p c.sinks r.attempts
    · rcases deliver_succeeds hw₁ hrecord hdeliverable c.later with
        ⟨hcounted, hdelivered, new, hnew, hpublished⟩
      refine ⟨hcounted, fun _ => ⟨_, r.topic, new ++ note, rfl, hdelivered, ?_, ?_⟩⟩
      · rw [hnew, hnote, List.append_assoc]
      · intro sink hsink
        rw [← hpayload]
        exact List.mem_append_left _ (hpublished sink hsink)
    · rcases deliver_fails hw₁ hrecord hdeliverable c.later with ⟨-, new, -, -, hcounted⟩
      rw [hattempts] at hdeliverable
      refine ⟨hcounted ?_, fun h => ?_⟩
      · intro hdelivered
        exact hdeliverable (hagain haccepts (hstatus.mp hdelivered))
      · exact absurd (deliverable_of_healthy h (hhealthy h).2) hdeliverable
  · exact ⟨(record_rejected hw haccepts).1, fun h => absurd (hhealthy h).1 haccepts⟩

/-- What an allowed call of `retry_dead_letters` does. -/
theorem retry_sound {c : RetryCall} (hw : Counted p w) (hselects : Selects w c.limit c.ids)
    (hallowed : Allowed t p w (.retry c)) :
    Counted p (retryDeadLetters p c w).2 ∧ (Healthy p c.sinks → RetryOutcome p w c) := by
  rcases retryLoop_spec (c := c) c.ids (0, 0) hw (selected_isSome hselects) hselects.1 with
    ⟨hcounted, hall, -, new, hnew, hpublished⟩
  refine ⟨hcounted, fun h => ?_⟩
  unfold RetryOutcome
  simp only [retryDeadLetters]
  rcases hallowed h with hnil | hmax
  · rw [hnil]
    exact ⟨rfl, [], rfl, fun _ hid => by cases hid⟩
  · have hdeliverable : Deliverable p c.sinks 0 := deliverable_of_healthy h hmax
    rw [hall hdeliverable]
    exact ⟨by simp, new, hnew, hpublished hdeliverable⟩

/-- An allowed call keeps the records counting, and has its outcome while the sinks are
healthy. -/
theorem step_sound {call : Call} (hw : Counted p w) (hallowed : Allowed t p w call)
    (hstep : step t p w call = some w') :
    Counted p w' ∧ (Healthy p call.sinks → Outcome t p w call) := by
  cases call with
  | record c =>
      cases hstep
      exact record_sound hw hallowed
  | retry c =>
      simp only [step] at hstep
      split_ifs at hstep with hselects
      cases hstep
      exact retry_sound hw hselects hallowed

/-- A call of `record_and_deliver` that is not allowed misses its outcome or buries a
delivered record too early. -/
theorem record_allowed {c : RecordCall} (hw : Counted p w)
    (houtcome : Healthy p c.sinks → RecordOutcome t p w c)
    (hburied : DeadAfterFailures p.maxAttempts (recordAndDeliver t p c w).2.history) :
    Allowed t p w (.record c) := by
  constructor
  · intro hhealthy
    rcases houtcome hhealthy with ⟨result, topic, new, hresult, hdelivered, -⟩
    by_cases haccepts : Accepts t p c w
    · refine ⟨haccepts, ?_⟩
      rcases record_accepted hw haccepts with ⟨w₁, r, hw₁, -, hrecord, -, hattempts, -, heq⟩
      rw [heq] at hresult
      cases hresult
      by_contra hleft
      have hdeliverable : ¬ Deliverable p c.sinks r.attempts := by
        rintro ⟨k, hlow, hhigh, -⟩
        omega
      rw [(deliver_fails hw₁ hrecord hdeliverable c.later).1] at hdelivered
      cases hdelivered
    · rw [(record_rejected hw haccepts).2 result hresult] at hdelivered
      cases hdelivered
  · intro haccepts hwas
    rcases record_accepted hw haccepts with
      ⟨w₁, r, hw₁, -, hrecord, -, hattempts, hstatus, heq⟩
    rw [heq] at hburied
    rw [← hattempts]
    by_contra hdeliverable
    rcases deliver_fails hw₁ hrecord hdeliverable c.later with ⟨-, new, htries, hnew, -⟩
    rw [hnew, deadAfterFailures_dead, failuresSince_tries htries,
      if_pos (hw₁.keyed _ r hrecord).1] at hburied
    have hcount := hw₁.delivered _ r hrecord (hstatus.mpr hwas)
    omega

/-- A call whose outcome is met and that buries nothing too early is allowed. -/
theorem step_allowed {call : Call} (hw : Counted p w) (hstep : step t p w call = some w')
    (houtcome : Healthy p call.sinks → Outcome t p w call)
    (hburied : DeadAfterFailures p.maxAttempts w'.history) : Allowed t p w call := by
  cases call with
  | record c =>
      cases hstep
      exact record_allowed hw houtcome hburied
  | retry c =>
      simp only [step] at hstep
      split_ifs at hstep with hselects
      intro hhealthy
      by_contra hneither
      rw [not_or] at hneither
      have hdeliverable : ¬ Deliverable p c.sinks 0 := by
        rintro ⟨k, hlow, hhigh, -⟩
        exact hneither.2 (by omega)
      rcases retryLoop_spec (c := c) c.ids (0, 0) hw (selected_isSome hselects) hselects.1 with
        ⟨-, -, hnone, -⟩
      have hresult := (houtcome hhealthy).1
      simp only [retryDeadLetters, hnone hdeliverable, RetryResult.mk.injEq] at hresult
      exact hneither.1 (List.length_eq_zero_iff.mp hresult.2.1.symm)

/-! ## The history -/

theorem deliver_suffix (sinks : Sinks) (id : String) (now : Int) (w : World) :
    w.history <:+ (deliverEvent p sinks id now w).2.history := by
  cases hrecord : w.records id with
  | none =>
      have hmissing : (deliverEvent p sinks id now w).2 = w := by
        unfold deliverEvent
        rw [hrecord]
      exact ⟨[], by rw [hmissing, List.nil_append]⟩
  | some r =>
      rw [(@deliverEvent_eq p sinks r id now w hrecord).2.2.2]
      refine List.IsSuffix.trans ?_ (List.suffix_cons _ _)
      by_cases hdeliverable : Deliverable p sinks r.attempts
      · rcases @loopOf_succeeds p sinks r w.history hdeliverable with
          ⟨_, new, -, -, -, hhistory, -⟩
        exact ⟨new, hhistory.symm⟩
      · rcases @loopOf_fails p sinks r w.history hdeliverable with ⟨new, -, -, hhistory, -⟩
        exact ⟨new, hhistory.symm⟩

theorem record_suffix (c : RecordCall) (w : World) :
    w.history <:+ (recordAndDeliver t p c w).2.history := by
  unfold recordAndDeliver
  cases hstore : storeEvent t p c w with
  | error e => exact List.suffix_refl _
  | ok w' =>
      refine List.IsSuffix.trans ?_ (deliver_suffix _ _ _ _)
      rcases bind_eq_ok hstore with ⟨row, -, hupsert⟩
      unfold upsert at hupsert
      cases hrecord : w.records row.eventId with
      | some old =>
          rw [hrecord] at hupsert
          cases hupsert
          exact List.suffix_refl _
      | none =>
          simp only [hrecord] at hupsert
          split_ifs at hupsert
          cases hupsert
          exact List.suffix_cons _ _

theorem retryLoop_suffix (c : RetryCall) (ids : List String) (counts : Nat × Nat) (w : World) :
    w.history <:+ (retryLoop p c ids counts w).2.history := by
  induction ids generalizing counts w with
  | nil => exact List.suffix_refl _
  | cons id ids ih =>
      have hqueued : w.history <:+ (requeue id w).history := by
        unfold requeue
        split
        next => exact List.suffix_cons _ _
        next => exact List.suffix_refl _
      exact hqueued.trans ((deliver_suffix _ _ _ _).trans (ih _ _))

/-- A call only adds to the history. -/
theorem step_suffix {call : Call} (hstep : step t p w call = some w') :
    w.history <:+ w'.history := by
  cases call with
  | record c =>
      cases hstep
      exact record_suffix c w
  | retry c =>
      simp only [step] at hstep
      split_ifs at hstep
      cases hstep
      exact retryLoop_suffix c c.ids (0, 0) w

theorem run_suffix {calls : List Call} (hrun : run (step t p) w calls = some w') :
    w.history <:+ w'.history := by
  induction calls generalizing w with
  | nil =>
      cases hrun
      exact List.suffix_refl _
  | cons call calls ih =>
      rcases run_cons_eq_some.mp hrun with ⟨v, hstep, hrest⟩
      exact (step_suffix hstep).trans (ih hrest)

/-! ## Runs -/

/-- Allowed calls lead from counting states to counting states. -/
theorem run_counted {calls : List Call} (hw : Counted p w)
    (hrespects : Respects (step t p) (Allowed t p) w calls)
    (hrun : run (step t p) w calls = some w') : Counted p w' :=
  invariant_of_run (fun _ _ _ hcounted hallowed hstep => (step_sound hcounted hallowed hstep).1)
    hw hrespects hrun

/-- The calls of a run are allowed when each has its outcome while the sinks are healthy and
the run buries nothing too early. -/
theorem respects_of_outcomes {calls : List Call} (hw : Counted p w)
    (hrun : run (step t p) w calls = some w')
    (houtcomes : ∀ before call after v, calls = before ++ call :: after →
      run (step t p) w before = some v → Healthy p call.sinks → Outcome t p v call)
    (hburied : DeadAfterFailures p.maxAttempts w'.history) :
    Respects (step t p) (Allowed t p) w calls := by
  induction calls generalizing w with
  | nil => trivial
  | cons call calls ih =>
      rcases run_cons_eq_some.mp hrun with ⟨v, hstep, hrest⟩
      have hallowed : Allowed t p w call := by
        refine step_allowed hw hstep (houtcomes [] call calls w rfl rfl) ?_
        exact deadAfterFailures_of_suffix hburied (run_suffix hrest)
      refine ⟨hallowed, ?_⟩
      intro v' hstep'
      rw [hstep] at hstep'
      cases hstep'
      refine ih (step_sound hw hallowed hstep).1 hrest ?_
      intro before call' after u heq hbefore
      refine houtcomes (call :: before) call' after u (by rw [heq]; rfl) ?_
      exact run_cons_eq_some.mpr ⟨v, hstep, hbefore⟩

end

/-- A setting for the event below. -/
def plainSetting : Setting where
  py := asciiText
  dumps := fun _ => "\x7b\"event_type\": \"gateway_request\", \"request_id\": \"r1\"\x7d"
  sha256 := fun _ => ""
  toInt := fun _ => .error .valueError
  tenants := fun _ => true

/-- The pipeline with its defaults. -/
def plainPipeline : EventPipeline where
  kafkaAuditTopic := "authclaw-audit-events"
  kafkaAnalyticsTopic := "authclaw-analytics-events"
  kafkaDlqTopic := "authclaw-dead-letter-events"
  clickhouseEnabled := true
  maxAttempts := 3

/-- A Kafka that answers every attempt the same way, and no ClickHouse. -/
def kafkaOnly (answer : Option String) : Sinks where
  kafka := { configured := true, required := false, refusal := fun _ => answer }
  clickhouse := { configured := false, required := false, refusal := fun _ => none }

/-- The recording of a gateway request. -/
def recordRequest (sinks : Sinks) : Call :=
  .record {
    event := [("event_type", .str "gateway_request"), ("request_id", .str "r1")]
    stream := "audit"
    now := 0
    later := 1
    sinks := sinks }

end AuthClaw.Events
