import Mathlib.Data.List.Basic
import Mathlib.Tactic.Common

/-!
# Rewriting a text as it arrives

A rewriting of whole texts is run on a text that arrives in pieces.  After each piece
the machine puts out some text and keeps the rest; at the end it puts out what is
left.  The output is the rewritten text when every step is faithful: what it puts out,
followed by the rewriting of what it keeps and of all that is still to come, is the
rewriting of what was pending with all that is still to come.

Main results:

- Theorem {lit}`output_eq`: a run of faithful steps puts out the rewritten text.
- Theorem {lit}`faithful_of_cut`: a step that settles only what lies before a cut is
  faithful.
-/

namespace Streaming

variable {α τ : Type}

section

variable (text : τ → List α) (step : List α → τ → List α × List α)
  (finish : List α → List α)

/-- What a run puts out that goes on with some text pending. -/
def output : List α → List τ → List α
  | pending, [] => finish pending
  | pending, piece :: rest =>
      (step pending piece).1 ++ output (step pending piece).2 rest

/-- What a run keeps after the pieces. -/
def kept (pending : List α) (pieces : List τ) : List α :=
  pieces.foldl (fun pending piece => (step pending piece).2) pending

/-- The text of the pieces. -/
def arriving (pieces : List τ) : List α :=
  pieces.flatMap text

/-- Every step of a run is as it should be, given the text pending, the piece and the
text still to come. -/
def Throughout (good : List α → τ → List α → Prop) : List α → List τ → Prop
  | _, [] => True
  | pending, piece :: rest =>
      good pending piece (arriving text rest) ∧
        Throughout good (step pending piece).2 rest

variable (rewrite : List α → List α)

/-- What a step puts out and what it leaves to be rewritten is the rewriting of what
there was. -/
def Faithful (pending : List α) (piece : τ) (coming : List α) : Prop :=
  (step pending piece).1 ++ rewrite ((step pending piece).2 ++ coming) =
    rewrite (pending ++ text piece ++ coming)

variable {text step finish rewrite}

/-- What a run puts out at its end comes after what the steps put out. -/
theorem output_eq_append (pending : List α) (pieces : List τ) :
    output step finish pending pieces =
      output step (fun _ => []) pending pieces ++ finish (kept step pending pieces) := by
  induction pieces generalizing pending with
  | nil => rfl
  | cons piece rest ih =>
      rw [output, ih, output, List.append_assoc]
      rfl

/-- A run of faithful steps puts out the rewritten text; the induction is on the
pieces. -/
theorem output_eq (hfinish : ∀ pending, finish pending = rewrite pending) {pieces : List τ}
    {pending : List α}
    (h : Throughout text step (Faithful text step rewrite) pending pieces) :
    output step finish pending pieces = rewrite (pending ++ arriving text pieces) := by
  induction pieces generalizing pending with
  | nil =>
      rw [output, hfinish]
      exact congrArg rewrite (List.append_nil pending).symm
  | cons piece rest ih =>
      rcases h with ⟨hstep, hrest⟩
      rw [output, ih hrest]
      unfold Faithful at hstep
      rw [hstep, List.append_assoc]
      rfl

theorem Throughout.imp {good good' : List α → τ → List α → Prop}
    (himp : ∀ pending piece coming, good pending piece coming → good' pending piece coming)
    {pieces : List τ} {pending : List α} (h : Throughout text step good pending pieces) :
    Throughout text step good' pending pieces := by
  induction pieces generalizing pending with
  | nil => trivial
  | cons piece rest ih => exact ⟨himp _ _ _ h.1, ih h.2⟩

end

/-- What is put out and kept of a settled text goes with the rest, when the rewriting
takes the settled text and the rest apart and leaves what is kept alone. -/
theorem faithful_of_cut {rewrite : List α → List α} {settled rest out kept : List α}
    (hcut : rewrite (settled ++ rest) = rewrite settled ++ rewrite rest)
    (hsettled : rewrite settled = out ++ kept)
    (hkept : rewrite (kept ++ rest) = kept ++ rewrite rest) :
    out ++ rewrite (kept ++ rest) = rewrite (settled ++ rest) := by
  rw [hkept, hcut, hsettled, List.append_assoc]

end Streaming
