import AuthClaw.Library.StepSystem
import Mathlib.Data.List.Infix
import Mathlib.Logic.Function.Basic

/-!
# The context of a request

The tenant a task works for is a context variable of {lit}`services/tenant_context.py`.  A block
sets it and keeps a token for each variable it set, which puts the old value back when the block
is left, by its end or by an exception.  The tokens are compared with what blocks mean: the
context of the innermost open block.

Main results:

- Theorem {lit}`frames_leave`: leaving a block drops the innermost of the open blocks.
- Theorem {lit}`block_restores`: a task has its context back after a block, whatever it and the
  other tasks did inside.
-/

namespace AuthClaw.Tenants

open StepSystem

/-! ## Contexts and tokens -/

/-- The context variables. -/
structure RequestContext where
  tenantId : Option String
  requestId : Option String
  tenantRequired : Bool
  authLookup : Bool
deriving DecidableEq

/-- The defaults of the variables. -/
def outsideContext : RequestContext where
  tenantId := none
  requestId := none
  tenantRequired := false
  authLookup := false

/-- What a block resets when it is left. -/
inductive ContextToken where
  /-- The tokens of `tenant_context`. -/
  | tenant (tenantId requestId : Option String) (required : Bool)
  /-- The token of `auth_lookup_context`. -/
  | lookup (authLookup : Bool)

/-- The variables of a block get their old values. -/
def ContextToken.reset (c : RequestContext) : ContextToken → RequestContext
  | .tenant tenantId requestId required =>
      { c with tenantId := tenantId, requestId := requestId, tenantRequired := required }
  | .lookup authLookup => { c with authLookup := authLookup }

/-- A block that a task enters. -/
inductive Block where
  /-- `tenant_context(tenant_id, request_id, required)`, of the text of the tenant. -/
  | tenantContext (tenantId requestId : Option String) (required : Bool)
  /-- `auth_lookup_context()`. -/
  | authLookupContext
deriving DecidableEq

/-- The context inside of a block. -/
def Block.enter (c : RequestContext) : Block → RequestContext
  | .tenantContext tenantId requestId required =>
      { c with
        tenantId := tenantId
        requestId := requestId.filter (fun text => text ≠ "")
        tenantRequired := required }
  | .authLookupContext => { c with authLookup := true }

/-- The tokens a block keeps. -/
def Block.token (c : RequestContext) : Block → ContextToken
  | .tenantContext _ _ _ => .tenant c.tenantId c.requestId c.tenantRequired
  | .authLookupContext => .lookup c.authLookup

/-- A task: its variables, and the tokens of its open blocks, the innermost first. -/
structure Task where
  context : RequestContext
  tokens : List ContextToken

namespace Task

/-- A task outside of every block. -/
def start : Task :=
  ⟨outsideContext, []⟩

def enter (b : Block) (t : Task) : Task :=
  ⟨b.enter t.context, b.token t.context :: t.tokens⟩

/-- The end of the innermost block. -/
def leave (t : Task) : Option Task :=
  match t.tokens with
  | [] => none
  | token :: tokens => some ⟨token.reset t.context, tokens⟩

end Task

/-! ## Open blocks -/

/-- The contexts of the open blocks, the innermost first, and the one outside of them. -/
def framesFrom (c : RequestContext) : List ContextToken → List RequestContext
  | [] => [c]
  | token :: tokens => c :: framesFrom (token.reset c) tokens

def Task.frames (t : Task) : List RequestContext :=
  framesFrom t.context t.tokens

section

variable {t t' : Task} {b : Block}

/-- A token undoes its block. -/
theorem reset_token (c : RequestContext) (b : Block) : (b.token c).reset (b.enter c) = c := by
  cases b with
  | tenantContext tenantId requestId required => rfl
  | authLookupContext => rfl

theorem framesFrom_eq_cons (c : RequestContext) (tokens : List ContextToken) :
    ∃ rest, framesFrom c tokens = c :: rest ∧ rest.length = tokens.length := by
  induction tokens generalizing c with
  | nil => exact ⟨[], rfl, rfl⟩
  | cons token tokens ih =>
      rcases ih (token.reset c) with ⟨rest, hrest, hlength⟩
      refine ⟨_, rfl, ?_⟩
      rw [hrest, List.length_cons, List.length_cons, hlength]

/-- The variables are those of the innermost block. -/
theorem head?_frames (t : Task) : t.frames.head? = some t.context := by
  rcases framesFrom_eq_cons t.context t.tokens with ⟨rest, hrest, -⟩
  unfold Task.frames
  rw [hrest]
  rfl

theorem length_frames (t : Task) : t.frames.length = t.tokens.length + 1 := by
  rcases framesFrom_eq_cons t.context t.tokens with ⟨rest, hrest, hlength⟩
  unfold Task.frames
  rw [hrest, List.length_cons, hlength]

/-- A block is put inside of those that are open. -/
theorem frames_enter (t : Task) (b : Block) :
    (t.enter b).frames = b.enter t.context :: t.frames := by
  show b.enter t.context :: framesFrom ((b.token t.context).reset (b.enter t.context)) t.tokens = _
  rw [reset_token]
  rfl

/-- Leaving a block drops the innermost of those that are open. -/
theorem frames_leave (h : t.leave = some t') : t.frames = t.context :: t'.frames := by
  unfold Task.leave at h
  split at h
  next => cases h
  next token tokens htokens =>
    cases h
    unfold Task.frames
    rw [htokens]
    rfl

end

/-! ## Tasks together -/

/-- What a task does with its blocks. -/
inductive ContextAction (T : Type) where
  | enter (task : T) (block : Block)
  | leave (task : T)

variable {T : Type} [DecidableEq T]

/-- One task enters or leaves a block. -/
def contextStep (tasks : T → Task) : ContextAction T → Option (T → Task)
  | .enter i b => some (Function.update tasks i ((tasks i).enter b))
  | .leave i => (tasks i).leave.map (Function.update tasks i)

/-- A task has more blocks open than before. -/
def DeeperThan (depth : Nat) (i : T) (tasks : T → Task) : Prop :=
  depth < (tasks i).tokens.length

/-- A task leaves no block that was open before. -/
def StaysInside (depth : Nat) (i : T) (tasks : T → Task) (a : ContextAction T) : Prop :=
  ∀ tasks', contextStep tasks a = some tasks' → DeeperThan depth i tasks'

section

variable {tasks tasks' : T → Task} {i : T} {depth : Nat}
  {outer : List RequestContext}

/-- A step of a task that stays inside keeps the blocks outside. -/
theorem contextStep_outer {a : ContextAction T} (h : contextStep tasks a = some tasks')
    (houter : outer <:+ (tasks i).frames) (hlength : outer.length = depth + 1)
    (hdeep : DeeperThan depth i tasks') : outer <:+ (tasks' i).frames := by
  cases a with
  | enter j b =>
      cases h
      by_cases hij : i = j
      · subst hij
        rw [Function.update_self, frames_enter]
        exact houter.trans (List.suffix_cons _ _)
      · rwa [Function.update_of_ne hij]
  | leave j =>
      rcases Option.map_eq_some_iff.mp h with ⟨t', hleave, rfl⟩
      by_cases hij : i = j
      · subst hij
        unfold DeeperThan at hdeep
        rw [Function.update_self] at hdeep ⊢
        have hframes := frames_leave hleave
        rw [hframes] at houter
        rcases List.suffix_cons_iff.mp houter with heq | hsuffix
        · -- all the open blocks would be outside
          have hall := congrArg List.length heq
          rw [List.length_cons, length_frames] at hall
          omega
        · exact hsuffix
      · rwa [Function.update_of_ne hij]

/-- The blocks outside stay open while a task stays inside. -/
theorem run_outer {as : List (ContextAction T)} (hrun : run contextStep tasks as = some tasks')
    (houter : outer <:+ (tasks i).frames) (hlength : outer.length = depth + 1)
    (hinside : Respects contextStep (StaysInside depth i) tasks as) :
    outer <:+ (tasks' i).frames := by
  have hstep : ∀ (tasks : T → Task) a tasks', outer <:+ (tasks i).frames →
      StaysInside depth i tasks a → contextStep tasks a = some tasks' →
      outer <:+ (tasks' i).frames := by
    intro tasks a tasks' houter hstays hstep
    exact contextStep_outer hstep houter hlength (hstays tasks' hstep)
  exact invariant_of_run hstep houter hinside hrun

end

/-- A task has its context back after a block, whatever it and the others did inside. -/
theorem block_restores {before opened closing after : T → Task} {i : T} {b : Block}
    {as : List (ContextAction T)}
    (henter : contextStep before (.enter i b) = some opened)
    (hrun : run contextStep opened as = some closing)
    (hinside : Respects contextStep (StaysInside (before i).tokens.length i) opened as)
    (hbalanced : (closing i).tokens.length = (opened i).tokens.length)
    (hleave : contextStep closing (.leave i) = some after) :
    (after i).context = (before i).context ∧ (after i).frames = (before i).frames := by
  have hopened : opened i = (before i).enter b := by
    cases henter
    exact Function.update_self _ _ _
  have houter : (before i).frames <:+ (opened i).frames := by
    rw [hopened, frames_enter]
    exact List.suffix_cons _ _
  have hsuffix := run_outer hrun houter (length_frames _) hinside
  rcases Option.map_eq_some_iff.mp hleave with ⟨t', hclosing, rfl⟩
  rw [frames_leave hclosing] at hsuffix
  have hlengths : (before i).frames.length = t'.frames.length := by
    have hcounts := congrArg List.length (frames_leave hclosing)
    rw [length_frames, List.length_cons, hbalanced, hopened] at hcounts
    have hone : ((before i).enter b).tokens.length = (before i).tokens.length + 1 := rfl
    have hframes := length_frames (before i)
    omega
  have hframes : t'.frames = (before i).frames := by
    rcases List.suffix_cons_iff.mp hsuffix with heq | hinner
    · have hall := congrArg List.length heq
      rw [List.length_cons] at hall
      omega
    · exact (hinner.eq_of_length hlengths).symm
  rw [Function.update_self]
  refine ⟨?_, hframes⟩
  have hhead := congrArg List.head? hframes
  rw [head?_frames, head?_frames] at hhead
  exact Option.some_inj.mp hhead

/-- A task that enters a block while another one does. -/
theorem block_restores_example : ∃ after : Bool → Task,
    run contextStep (fun _ => Task.start) [.enter true (.tenantContext (some "7") none true),
      .enter false .authLookupContext, .leave true] = some after ∧
      (after true).context = outsideContext :=
  ⟨_, rfl, (@block_restores Bool _ (fun _ => Task.start) _ _ _ true
    (.tenantContext (some "7") none true) [.enter false .authLookupContext]
    rfl rfl ⟨fun tasks' h => by cases h; exact Nat.zero_lt_one, fun _ _ => trivial⟩ rfl rfl).1⟩

end AuthClaw.Tenants
