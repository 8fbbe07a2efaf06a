import Mathlib.Logic.Function.Basic
import Mathlib.Order.Basic
import Mathlib.Tactic.Common

/-!
# Numbered logs

Contents are recorded under numbers, and a log lists what was recorded since a start, the latest
first.  A record may replace what stands under its number.  Nothing is replaced, and the numbers
go up, exactly while each record has a number above all that are in use.

Main results:

- Theorem {lit}`immutable_record_iff`: which records keep the log immutable.
-/

namespace NumberedLog

variable {ν β : Type*}

/-- Each number in use was in use at the start or is in the log. -/
def Known (start current : ν → Option β) (log : List (ν × β)) : Prop :=
  ∀ n b, current n = some b → (∃ b', start n = some b') ∨ ∃ e ∈ log, e.1 = n

variable {start current : ν → Option β} {log : List (ν × β)} {n : ν} {b : β}

theorem known_start : Known start start [] :=
  fun _ b h => Or.inl ⟨b, h⟩

section

variable [DecidableEq ν]

theorem Known.record (h : Known start current log) :
    Known start (Function.update current n (some b)) ((n, b) :: log) := by
  intro m c hm
  by_cases hmn : m = n
  · exact Or.inr ⟨(n, b), List.mem_cons_self, hmn.symm⟩
  · rw [Function.update_of_ne hmn] at hm
    rcases h m c hm with hstart | ⟨e, he, hem⟩
    · exact Or.inl hstart
    · exact Or.inr ⟨e, List.mem_cons_of_mem _ he, hem⟩

end

section

variable [LT ν]

/-- What was recorded is as it was, and each record has a number above all earlier ones. -/
structure Immutable (start current : ν → Option β) (log : List (ν × β)) : Prop where
  kept : ∀ n b, start n = some b → current n = some b
  recorded : ∀ e ∈ log, current e.1 = some e.2
  above : ∀ e ∈ log, ∀ n b, start n = some b → n < e.1
  increasing : log.Pairwise (fun later earlier => earlier.1 < later.1)

theorem immutable_start : Immutable start start [] where
  kept := fun _ _ h => h
  recorded := fun _ he => absurd he List.not_mem_nil
  above := fun _ he => absurd he List.not_mem_nil
  increasing := List.Pairwise.nil

end

variable [Preorder ν] [DecidableEq ν]

/-- A record keeps the log immutable exactly when its number is above all that are in use. -/
theorem immutable_record_iff (h : Immutable start current log) (hknown : Known start current log) :
    Immutable start (Function.update current n (some b)) ((n, b) :: log) ↔
      ∀ m c, current m = some c → m < n := by
  constructor
  · intro hafter m c hm
    rcases hknown m c hm with ⟨b', hstart⟩ | ⟨e, he, rfl⟩
    · exact hafter.above _ List.mem_cons_self m b' hstart
    · exact (List.pairwise_cons.mp hafter.increasing).1 e he
  · intro hbelow
    have hother : ∀ m c, current m = some c →
        Function.update current n (some b) m = some c := by
      intro m c hm
      rw [Function.update_of_ne (hbelow m c hm).ne, hm]
    constructor
    · intro m c hstart
      exact hother m c (h.kept m c hstart)
    · intro e he
      rcases List.mem_cons.mp he with rfl | he
      · exact Function.update_self _ _ _
      · exact hother e.1 e.2 (h.recorded e he)
    · intro e he m c hstart
      rcases List.mem_cons.mp he with rfl | he
      · exact hbelow m c (h.kept m c hstart)
      · exact h.above e he m c hstart
    · refine List.pairwise_cons.mpr ⟨?_, h.increasing⟩
      intro e he
      exact hbelow e.1 e.2 (h.recorded e he)

end NumberedLog
