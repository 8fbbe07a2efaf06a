import Mathlib.Data.List.Basic
import Mathlib.Logic.Function.Basic
import Mathlib.Tactic.Common

/-!
# Expressions with capturing groups

A backtracking matcher that remembers the span of each group, and the successive matches of an
expression in a text.  A group may take no part in a match, match nothing, or be captured by
what only looks ahead of the match.

A state of the matcher lies in the text, and a step never goes back, so that every span it
records is one of the text.

Main results:

- Definition {lit}`finditer`: the matches of an expression, each with spans in the text.
- Theorem {lit}`finditer_chain`: the matches follow each other in the text.
-/

namespace CaptureRegex

/-- An expression over classes of characters. -/
inductive Expr (κ : Type) where
  | empty
  | one (k : κ)
  | seq (r s : Expr κ)
  | alt (r s : Expr κ)
  /-- As many characters of a class as possible. -/
  | many (k : κ)
  | group (n : Nat) (r : Expr κ)
  /-- The expression matches what follows. -/
  | ahead (r : Expr κ)

namespace Expr

variable {κ : Type}

/-- Expressions one after another. -/
def seqs : List (Expr κ) → Expr κ
  | [] => .empty
  | [r] => r
  | r :: rs => .seq r (seqs rs)

/-- The expression or nothing. -/
def opt (r : Expr κ) : Expr κ :=
  .alt r .empty

end Expr

/-- A span of a text of a length. -/
def Span (n : Nat) : Type :=
  { s : Nat × Nat // s.1 ≤ s.2 ∧ s.2 ≤ n }

instance (n : Nat) : DecidableEq (Span n) :=
  inferInstanceAs (DecidableEq { s : Nat × Nat // s.1 ≤ s.2 ∧ s.2 ≤ n })

/-- What is known of one match: its span, those of its groups, and the group that was closed
last. -/
structure Match (n : Nat) where
  span : Span n
  group : Nat → Option (Span n)
  lastindex : Option Nat

/-- Where the matcher is, and what its groups have matched. -/
structure State (n : Nat) where
  pos : Nat
  inside : pos ≤ n
  group : Nat → Option (Span n)
  lastindex : Option Nat

variable {n : Nat}

/-- A state that a matcher has gone on to. -/
abbrev After (st : State n) : Type :=
  { st' : State n // st.pos ≤ st'.pos }

/-- Where the matcher is. -/
def State.stay (st : State n) : After st :=
  ⟨st, Nat.le_refl _⟩

/-- A state after a later one. -/
def After.trans {st : State n} (m : After st) (m' : After m.1) : After st :=
  ⟨m'.1, Nat.le_trans m.2 m'.2⟩

/-- A match from one state to a later one. -/
def State.matchTo (st : State n) (m : After st) : Match n where
  span := ⟨(st.pos, m.1.pos), m.2, m.1.inside⟩
  group := m.1.group
  lastindex := m.1.lastindex

/-- The group closes. -/
def State.close (st : State n) (i : Nat) (m : After st) : After st :=
  ⟨{ m.1 with
      group := Function.update m.1.group i (some ⟨(st.pos, m.1.pos), m.2, m.1.inside⟩)
      lastindex := some i }, m.2⟩

/-- The matcher goes back to where it began to look ahead, with the groups it has found. -/
def State.rewind (st : State n) (m : After st) : After st :=
  ⟨{ m.1 with pos := st.pos, inside := st.inside }, Nat.le_refl _⟩

section

variable {α κ : Type} (accepts : κ → α → Bool) (text : List α)

/-- The next character, when it is of the class. -/
def step (k : κ) (st : State text.length) : Option (After st) :=
  if h : st.pos < text.length then
    if accepts k text[st.pos] then some ⟨{ st with pos := st.pos + 1, inside := h }, Nat.le_succ _⟩
    else none
  else none

/-- As many characters of the class as possible, then fewer. -/
def greedy (k : κ) : Nat → (st : State text.length) → List (After st)
  | 0, st => [st.stay]
  | fuel + 1, st =>
      match step accepts text k st with
      | some m => (greedy k fuel m.1).map m.trans ++ [st.stay]
      | none => [st.stay]

/-- The ways to match from a state, in the order the matcher tries them. -/
def run : Expr κ → (st : State text.length) → List (After st)
  | .empty, st => [st.stay]
  | .one k, st => (step accepts text k st).toList
  | .seq r s, st => (run r st).flatMap (fun m => (run s m.1).map m.trans)
  | .alt r s, st => run r st ++ run s st
  | .many k, st => greedy accepts text k text.length st
  | .group i r, st => (run r st).map (st.close i)
  | .ahead r, st => ((run r st).head?.map st.rewind).toList

/-- A state at a position, before any group. -/
def start (pos : Nat) (h : pos ≤ text.length) : State text.length :=
  ⟨pos, h, fun _ => none, none⟩

/-- The first match at a position; after an empty match there, it has to be longer. -/
def matchAt (r : Expr κ) (pos : Nat) (h : pos ≤ text.length) (advance : Bool) :
    Option (Match text.length) :=
  ((run accepts text r (start text pos h)).find? (fun m => !advance || pos < m.1.pos)).map
    (start text pos h).matchTo

/-- The first match from a position on. -/
def search (r : Expr κ) : Nat → (pos : Nat) → pos ≤ text.length → Bool →
    Option (Match text.length)
  | 0, _, _, _ => none
  | fuel + 1, pos, h, advance =>
      match matchAt accepts text r pos h advance with
      | some m => some m
      | none =>
          if hnext : pos + 1 ≤ text.length then search r fuel (pos + 1) hnext false else none

/-- The matches from a position on, each searched for after the one before it. -/
def matchesFrom (r : Expr κ) : Nat → (pos : Nat) → pos ≤ text.length → Bool →
    List (Match text.length)
  | 0, _, _, _ => []
  | fuel + 1, pos, h, advance =>
      match search accepts text r (text.length + 1) pos h advance with
      | none => []
      | some m =>
          m :: matchesFrom r fuel m.span.1.2 m.span.2.2 (m.span.1.1 = m.span.1.2)

/-- The successive matches of an expression: at each position at most an empty one and then
one that is longer. -/
def finditer (r : Expr κ) : List (Match text.length) :=
  matchesFrom accepts text r (2 * text.length + 2) 0 (Nat.zero_le _) false

variable {accepts text}

/-- A match that is found at a position starts there. -/
theorem matchAt_start {r : Expr κ} {pos : Nat} {h : pos ≤ text.length} {advance : Bool}
    {m : Match text.length} (hm : matchAt accepts text r pos h advance = some m) :
    m.span.1.1 = pos := by
  rcases Option.map_eq_some_iff.mp hm with ⟨reached, -, rfl⟩
  rfl

/-- A match that is searched for starts where the search does, or later. -/
theorem le_search {r : Expr κ} {fuel pos : Nat} {h : pos ≤ text.length} {advance : Bool}
    {m : Match text.length} (hm : search accepts text r fuel pos h advance = some m) :
    pos ≤ m.span.1.1 := by
  induction fuel generalizing pos advance with
  | zero => cases hm
  | succ fuel ih =>
      unfold search at hm
      split at hm
      next m' hat =>
        cases hm
        exact Nat.le_of_eq (matchAt_start hat).symm
      next =>
        split_ifs at hm with hnext
        exact Nat.le_of_succ_le (ih hm)

/-- Each match starts where the one before it ends, or later. -/
theorem matchesFrom_chain {r : Expr κ} {fuel pos : Nat} {h : pos ≤ text.length} {advance : Bool} :
    (∀ m ∈ matchesFrom accepts text r fuel pos h advance, pos ≤ m.span.1.1) ∧
      (matchesFrom accepts text r fuel pos h advance).Pairwise
        (fun m m' => m.span.1.2 ≤ m'.span.1.1) := by
  induction fuel generalizing pos advance with
  | zero => exact ⟨by simp [matchesFrom], List.Pairwise.nil⟩
  | succ fuel ih =>
      unfold matchesFrom
      split
      next => exact ⟨by simp, List.Pairwise.nil⟩
      next m hsearch =>
        have hstart := le_search hsearch
        rcases @ih m.span.1.2 m.span.2.2 (m.span.1.1 = m.span.1.2) with ⟨hlater, hpairwise⟩
        refine ⟨?_, List.pairwise_cons.mpr ⟨hlater, hpairwise⟩⟩
        intro m' hm'
        rcases List.mem_cons.mp hm' with rfl | hm'
        · exact hstart
        · exact Nat.le_trans (Nat.le_trans hstart m.span.2.1) (hlater m' hm')

/-- The matches follow each other in the text. -/
theorem finditer_chain (r : Expr κ) :
    (finditer accepts text r).Pairwise (fun m m' => m.span.1.2 ≤ m'.span.1.1) :=
  matchesFrom_chain.2

end

end CaptureRegex
