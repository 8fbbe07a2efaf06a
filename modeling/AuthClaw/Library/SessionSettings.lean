import Mathlib.Data.List.Basic
import Mathlib.Logic.Function.Basic
import Mathlib.Tactic.Common

/-!
# Settings of a database session

The values a session of a database keeps under names, as {lit}`set_config` writes them: for the
rest of the session, which the end of the transaction may undo, or for the transaction alone.

Main results:

- Theorem {lit}`active_setConfig`: what is read after a value is set.
- Theorem {lit}`pending_setAllLocal`: values set for the transaction are gone after it.
-/

namespace SessionSettings

variable {K V : Type*}

/-- The values outside of a transaction, those the open transaction would leave, and those it
reads. -/
@[ext]
structure Settings (K V : Type*) where
  committed : K → V
  pending : K → V
  active : K → V

namespace Settings

/-- A session outside of a transaction. -/
def idle (values : K → V) : Settings K V :=
  ⟨values, values, values⟩

/-- The end of a transaction that keeps what it set for the session. -/
def commit (s : Settings K V) : Settings K V :=
  idle s.pending

/-- The end of a transaction that keeps nothing. -/
def rollback (s : Settings K V) : Settings K V :=
  idle s.committed

section

variable [DecidableEq K]

/-- `set_config(key, value, is_local)`. -/
def setConfig (s : Settings K V) (isLocal : Bool) (key : K) (value : V) : Settings K V :=
  { s with
    pending := if isLocal then s.pending else Function.update s.pending key value
    active := Function.update s.active key value }

/-- Several values, one after the other. -/
def setAll (s : Settings K V) (isLocal : Bool) (values : List (K × V)) : Settings K V :=
  values.foldl (fun s kv => s.setConfig isLocal kv.1 kv.2) s

end

end Settings

section

variable [DecidableEq K] {s : Settings K V} {isLocal : Bool} {key k : K} {value : V}

@[simp]
theorem committed_setConfig : (s.setConfig isLocal key value).committed = s.committed :=
  rfl

@[simp]
theorem pending_setLocal : (s.setConfig true key value).pending = s.pending :=
  rfl

/-- A value that was set is read, and the others are as they were. -/
theorem active_setConfig :
    (s.setConfig isLocal key value).active k = if k = key then value else s.active k :=
  Function.update_apply _ _ _ _

theorem pending_setSession :
    (s.setConfig false key value).pending k = if k = key then value else s.pending k :=
  Function.update_apply _ _ _ _

@[simp]
theorem committed_setAll (values : List (K × V)) :
    (s.setAll isLocal values).committed = s.committed := by
  unfold Settings.setAll
  induction values generalizing s with
  | nil => rfl
  | cons kv values ih => rw [List.foldl_cons, ih, committed_setConfig]

@[simp]
theorem pending_setAllLocal (values : List (K × V)) :
    (s.setAll true values).pending = s.pending := by
  unfold Settings.setAll
  induction values generalizing s with
  | nil => rfl
  | cons kv values ih => rw [List.foldl_cons, ih, pending_setLocal]

end

end SessionSettings
