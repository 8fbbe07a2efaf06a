import Mathlib.Data.List.Basic
import Mathlib.Logic.Function.Basic

/-!
# Timed caches

A cache keeps one entry for each key, with the time it was put and the time it is fresh until.
An entry that is fresh no more may serve for a while where no new one can be had.  The puts of
a run are a list; a cache holds them when each of its entries is the last one of its key.

Main results:

- Theorem {lit}`holds_put`: a put is held, and the entries of other keys stay.
- Theorems {lit}`lookupFresh_spec` and {lit}`lookupStale_spec`: what a lookup finds was put last.
-/

namespace TimedCache

variable {K V : Type*}

/-- A value, when it was put, and how long it is fresh. -/
structure Entry (V : Type*) where
  value : V
  refreshedAt : Int
  expiresAt : Int

/-- The value of a key, where it is fresh. -/
def lookupFresh (now : Int) (cache : K → Option (Entry V)) (k : K) : Option V :=
  ((cache k).filter (fun e => now < e.expiresAt)).map Entry.value

/-- The value of a key, where it is younger than some age. -/
def lookupStale (age now : Int) (cache : K → Option (Entry V)) (k : K) : Option V :=
  ((cache k).filter (fun e => now - age < e.refreshedAt)).map Entry.value

/-- The entries of some keys are removed. -/
def restrict (kept : K → Bool) (cache : K → Option (Entry V)) (k : K) : Option (Entry V) :=
  if kept k then cache k else none

variable [DecidableEq K]

/-- An entry is put in place of the one that was there. -/
def put (k : K) (e : Entry V) (cache : K → Option (Entry V)) : K → Option (Entry V) :=
  Function.update cache k (some e)

/-- The last entry that was put for a key. -/
def lastPut (puts : List (K × Entry V)) (k : K) : Option (Entry V) :=
  (puts.filter (fun p => p.1 = k)).getLast?.map Prod.snd

/-- Every entry is the last one that was put for its key. -/
def Holds (puts : List (K × Entry V)) (cache : K → Option (Entry V)) : Prop :=
  ∀ k e, cache k = some e → lastPut puts k = some e

variable {puts : List (K × Entry V)} {cache : K → Option (Entry V)} {k : K} {e : Entry V} {v : V}
  {now age : Int}

theorem lastPut_append_self : lastPut (puts ++ [(k, e)]) k = some e := by
  simp [lastPut]

theorem lastPut_append_of_ne {k' : K} (h : k ≠ k') :
    lastPut (puts ++ [(k, e)]) k' = lastPut puts k' := by
  simp [lastPut, h]

/-- What was put last was put. -/
theorem mem_of_lastPut (h : lastPut puts k = some e) : (k, e) ∈ puts := by
  rcases Option.map_eq_some_iff.mp h with ⟨p, hlast, rfl⟩
  have hmem := List.mem_of_getLast? hlast
  rcases List.mem_filter.mp hmem with ⟨hp, hk⟩
  rw [← of_decide_eq_true hk]
  exact hp

theorem holds_empty : Holds puts (fun _ : K => (none : Option (Entry V))) := by
  intro k e h
  cases h

/-- A put is held, and the entries of other keys stay. -/
theorem holds_put (h : Holds puts cache) (k : K) (e : Entry V) :
    Holds (puts ++ [(k, e)]) (put k e cache) := by
  intro k' e' hcache
  unfold put at hcache
  by_cases hk : k' = k
  · subst hk
    rw [Function.update_self] at hcache
    rw [lastPut_append_self]
    exact hcache
  · rw [Function.update_of_ne hk] at hcache
    rw [lastPut_append_of_ne (Ne.symm hk)]
    exact h k' e' hcache

/-- What is left of a cache is held. -/
theorem holds_restrict (h : Holds puts cache) (kept : K → Bool) :
    Holds puts (restrict kept cache) := by
  intro k e hcache
  unfold restrict at hcache
  split_ifs at hcache
  exact h k e hcache

/-- A fresh value was put last. -/
theorem lookupFresh_spec (h : Holds puts cache) (hlookup : lookupFresh now cache k = some v) :
    ∃ e, lastPut puts k = some e ∧ e.value = v ∧ now < e.expiresAt := by
  rcases Option.map_eq_some_iff.mp hlookup with ⟨e, hfound, hv⟩
  rcases Option.filter_eq_some_iff.mp hfound with ⟨hcache, hfresh⟩
  exact ⟨e, h k e hcache, hv, of_decide_eq_true hfresh⟩

/-- A stale value was put last. -/
theorem lookupStale_spec (h : Holds puts cache) (hlookup : lookupStale age now cache k = some v) :
    ∃ e, lastPut puts k = some e ∧ e.value = v ∧ now - age < e.refreshedAt := by
  rcases Option.map_eq_some_iff.mp hlookup with ⟨e, hfound, hv⟩
  rcases Option.filter_eq_some_iff.mp hfound with ⟨hcache, hyoung⟩
  exact ⟨e, h k e hcache, hv, of_decide_eq_true hyoung⟩

end TimedCache
