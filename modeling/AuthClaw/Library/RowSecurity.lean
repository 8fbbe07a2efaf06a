import Mathlib.Data.List.Basic
import Mathlib.Tactic.Common

/-!
# Row security

Statements on a table with a policy: rows that the policy does not show are as if they were not
there, and a statement that would write a row the policy does not accept fails.

Main results:

- Theorem {lit}`perform_result`: a statement returns rows that are shown.
- Theorem {lit}`perform_hidden`: a statement leaves the rows alone that are not shown.
- Theorem {lit}`perform_congr`: what a statement does depends on the rows that are shown.
-/

namespace RowSecurity

variable {E R : Type*}

/-- A policy of a table: the rows it shows, `USING`, and those it lets a statement write,
`WITH CHECK`, by the environment of the session. -/
structure RowPolicy (E R : Type*) where
  shows : E → R → Bool
  accepts : E → R → Bool

/-- A statement on a table. -/
inductive RowStatement (R : Type*) where
  | select (p : R → Bool)
  | insert (row : R)
  | update (p : R → Bool) (f : R → R)
  | delete (p : R → Bool)

/-- A row after an update; `none` where the policy does not accept it. -/
def updateRow (policy : RowPolicy E R) (env : E) (p : R → Bool) (f : R → R) (row : R) : Option R :=
  if policy.shows env row && p row then
    if policy.accepts env (f row) then some (f row) else none
  else some row

/-- The rows a statement returns and those it leaves; `none` where it fails. -/
def perform (policy : RowPolicy E R) (env : E) (rows : List R) :
    RowStatement R → Option (List R × List R)
  | .select p => some (rows.filter (fun row => policy.shows env row && p row), rows)
  | .insert row => if policy.accepts env row then some ([], rows ++ [row]) else none
  | .update p f => (rows.mapM (updateRow policy env p f)).map (fun rows => ([], rows))
  | .delete p => some ([], rows.filter (fun row => !(policy.shows env row && p row)))

/-- A policy that shows what it lets a statement write. -/
def RowPolicy.ShowsAccepted (policy : RowPolicy E R) (env : E) : Prop :=
  ∀ row, policy.accepts env row = true → policy.shows env row = true

/-- The rows a policy shows. -/
def RowPolicy.shown (policy : RowPolicy E R) (env : E) (rows : List R) : List R :=
  rows.filter (policy.shows env)

/-- The rows a policy does not show. -/
def RowPolicy.hidden (policy : RowPolicy E R) (env : E) (rows : List R) : List R :=
  rows.filter (fun row => !policy.shows env row)

section

variable {policy : RowPolicy E R} {env : E} {p : R → Bool} {f : R → R} {row row' : R}
  {rows rows' result : List R} {statement : RowStatement R}

theorem updateRow_of_hidden (h : policy.shows env row = false) :
    updateRow policy env p f row = some row := by
  unfold updateRow
  rw [h, Bool.false_and]
  rfl

/-- An update shows the rows that were shown. -/
theorem shows_updateRow (hpolicy : policy.ShowsAccepted env)
    (h : updateRow policy env p f row = some row') :
    policy.shows env row' = policy.shows env row := by
  unfold updateRow at h
  split at h
  next hmatch =>
    split at h
    next haccepts =>
      cases h
      rw [hpolicy _ haccepts, (Bool.and_eq_true_iff.mp hmatch).1]
    next => cases h
  next =>
    cases h
    rfl

/-- The rows after an update, in two parts. -/
theorem filter_mapM_updateRow (hpolicy : policy.ShowsAccepted env)
    (h : rows.mapM (updateRow policy env p f) = some rows') :
    (policy.shown env rows).mapM (updateRow policy env p f) = some (policy.shown env rows') ∧
      policy.hidden env rows' = policy.hidden env rows := by
  unfold RowPolicy.shown RowPolicy.hidden
  induction rows generalizing rows' with
  | nil =>
      cases h
      exact ⟨rfl, rfl⟩
  | cons row rows ih =>
      rw [List.mapM_cons] at h
      rcases Option.bind_eq_some_iff.mp h with ⟨row', hrow, hrest⟩
      rcases Option.bind_eq_some_iff.mp hrest with ⟨rest, hrows, hcons⟩
      cases hcons
      rcases ih hrows with ⟨hshown, hhidden⟩
      have hshows := shows_updateRow hpolicy hrow
      cases hrowShows : policy.shows env row with
      | true =>
          rw [hrowShows] at hshows
          rw [List.filter_cons_of_pos hrowShows, List.filter_cons_of_pos hshows, List.mapM_cons,
            hrow, hshown, List.filter_cons_of_neg (by rw [hshows]; exact Bool.false_ne_true),
            List.filter_cons_of_neg (by rw [hrowShows]; exact Bool.false_ne_true)]
          exact ⟨rfl, hhidden⟩
      | false =>
          rw [updateRow_of_hidden hrowShows] at hrow
          cases hrow
          rw [List.filter_cons_of_neg (by rw [hrowShows]; exact Bool.false_ne_true),
            List.filter_cons_of_neg (by rw [hrowShows]; exact Bool.false_ne_true),
            List.filter_cons_of_pos (by rw [hrowShows]; rfl),
            List.filter_cons_of_pos (by rw [hrowShows]; rfl), hhidden]
          exact ⟨hshown, rfl⟩

/-- An update fails on the rows that are shown alone. -/
theorem mapM_updateRow_isSome (policy : RowPolicy E R) (env : E) (p : R → Bool) (f : R → R)
    (rows : List R) :
    (rows.mapM (updateRow policy env p f)).isSome =
      ((policy.shown env rows).mapM (updateRow policy env p f)).isSome := by
  unfold RowPolicy.shown
  induction rows with
  | nil => rfl
  | cons row rows ih =>
      cases hrow : policy.shows env row with
      | true =>
          rw [List.filter_cons_of_pos hrow, List.mapM_cons, List.mapM_cons]
          cases updateRow policy env p f row with
          | none => rfl
          | some row' =>
              show (rows.mapM (updateRow policy env p f) >>= fun rest => _).isSome =
                (((rows.filter (policy.shows env)).mapM (updateRow policy env p f)) >>=
                  fun rest => _).isSome
              revert ih
              cases rows.mapM (updateRow policy env p f) <;>
                cases (rows.filter (policy.shows env)).mapM (updateRow policy env p f) <;>
                  intro ih <;> first | rfl | exact ih
      | false =>
          rw [List.filter_cons_of_neg (by rw [hrow]; exact Bool.false_ne_true), ← ih,
            List.mapM_cons, updateRow_of_hidden hrow]
          cases rows.mapM (updateRow policy env p f) <;> rfl

theorem updateRow_isSome : (updateRow policy env p f row).isSome = true ↔
    (policy.shows env row = true → p row = true → policy.accepts env (f row) = true) := by
  unfold updateRow
  cases policy.shows env row <;> cases p row <;> cases policy.accepts env (f row) <;> simp

/-- An update takes place when all the rows it would leave are accepted. -/
theorem perform_update_isSome : (perform policy env rows (.update p f)).isSome = true ↔
    ∀ row ∈ rows, policy.shows env row = true → p row = true →
      policy.accepts env (f row) = true := by
  rw [perform, Option.isSome_map]
  induction rows with
  | nil => exact iff_of_true rfl (fun _ hrow => nomatch hrow)
  | cons row rows ih =>
      rw [List.forall_mem_cons, ← ih, ← updateRow_isSome, List.mapM_cons]
      cases updateRow policy env p f row with
      | none => exact iff_of_false Bool.false_ne_true (fun h => Bool.false_ne_true h.1)
      | some row' =>
          cases rows.mapM (updateRow policy env p f) with
          | none => exact iff_of_false Bool.false_ne_true (fun h => Bool.false_ne_true h.2)
          | some rows' => exact iff_of_true rfl ⟨rfl, rfl⟩

/-- An update that takes place changes the rows it is for. -/
theorem perform_update_eq_some (h : perform policy env rows (.update p f) = some (result, rows')) :
    result = [] ∧
      rows' = rows.map (fun row => if policy.shows env row && p row then f row else row) := by
  rcases Option.map_eq_some_iff.mp h with ⟨left, hrows, heq⟩
  cases heq
  refine ⟨rfl, ?_⟩
  clear h
  induction rows generalizing rows' with
  | nil =>
      cases hrows
      rfl
  | cons row rows ih =>
      rw [List.mapM_cons] at hrows
      rcases Option.bind_eq_some_iff.mp hrows with ⟨row', hrow, hrest⟩
      rcases Option.bind_eq_some_iff.mp hrest with ⟨rest, hleft, hcons⟩
      cases hcons
      rw [List.map_cons, ← ih hleft]
      refine congrArg (· :: rest) ?_
      unfold updateRow at hrow
      split at hrow
      next hmatch =>
        rw [if_pos hmatch]
        split at hrow
        next =>
          cases hrow
          rfl
        next => cases hrow
      next hmatch =>
        rw [if_neg hmatch]
        cases hrow
        rfl

/-- An update of rows that are shown, and stay accepted. -/
theorem perform_update_accepted (hshows : ∀ row ∈ rows, p row = true → policy.shows env row = true)
    (haccepts : ∀ row ∈ rows, p row = true → policy.accepts env (f row) = true) :
    perform policy env rows (.update p f) =
      some ([], rows.map (fun row => if p row then f row else row)) := by
  have hsome := perform_update_isSome.mpr (fun row hrow _ hp => haccepts row hrow hp)
  rcases Option.isSome_iff_exists.mp hsome with ⟨⟨result, rows'⟩, hdone⟩
  rcases perform_update_eq_some hdone with ⟨rfl, rfl⟩
  rw [hdone]
  refine congrArg (fun rows => some ([], rows)) (List.map_congr_left ?_)
  intro row hrow
  cases hp : p row with
  | true => rw [hshows row hrow hp, Bool.true_and]
  | false => rw [Bool.and_false]

theorem mem_of_select (h : perform policy env rows (.select p) = some (result, rows'))
    (hrow : row ∈ result) : row ∈ rows ∧ p row = true := by
  rcases Prod.mk.inj (Option.some_inj.mp h) with ⟨rfl, -⟩
  rcases List.mem_filter.mp hrow with ⟨hmem, hmatch⟩
  exact ⟨hmem, (Bool.and_eq_true_iff.mp hmatch).2⟩

/-- A selection of rows that are shown. -/
theorem perform_select_shown (hshows : ∀ row ∈ rows, p row = true → policy.shows env row = true) :
    perform policy env rows (.select p) = some (rows.filter p, rows) := by
  refine congrArg (fun result => some (result, rows)) (List.filter_congr ?_)
  intro row hrow
  cases hp : p row with
  | true => rw [hshows row hrow hp, Bool.true_and]
  | false => rw [Bool.and_false]

section

variable {R' : Type*} {policy' : RowPolicy E R'} {g : R → R'}

/-- A selection of rows that are seen as others. -/
theorem perform_select_map (hshows : ∀ row, policy'.shows env (g row) = policy.shows env row)
    (q : R' → Bool) :
    perform policy' env (rows.map g) (.select q) =
      (perform policy env rows (.select (fun row => q (g row)))).map
        (fun done => (done.1.map g, done.2.map g)) := by
  refine congrArg (fun result => some (result, rows.map g)) ?_
  rw [List.filter_map]
  refine congrArg (List.map g) (List.filter_congr ?_)
  intro row _
  exact congrArg (· && q (g row)) (hshows row)

/-- An update of rows that are seen as others. -/
theorem perform_update_map {f' : R' → R'}
    (hshows : ∀ row, policy'.shows env (g row) = policy.shows env row)
    (haccepts : ∀ row, policy'.accepts env (g row) = policy.accepts env row)
    (hf : ∀ row, f' (g row) = g (f row)) (q : R' → Bool) :
    perform policy' env (rows.map g) (.update q f') =
      (perform policy env rows (.update (fun row => q (g row)) f)).map
        (fun done => (done.1.map g, done.2.map g)) := by
  have hrow : ∀ row, updateRow policy' env q f' (g row) =
      (updateRow policy env (fun row => q (g row)) f row).map g := by
    intro row
    unfold updateRow
    rw [hshows, hf, haccepts]
    split <;> [split <;> rfl; rfl]
  rw [perform, perform, Option.map_map]
  induction rows with
  | nil => rfl
  | cons row rows ih =>
      rw [List.map_cons, List.mapM_cons, List.mapM_cons, hrow]
      cases updateRow policy env (fun row => q (g row)) f row with
      | none => rfl
      | some row' =>
          revert ih
          show Option.map _ (List.mapM _ (rows.map g)) = Option.map _ (List.mapM _ rows) →
            Option.map _ (List.mapM _ (rows.map g) >>= fun rest => some (g row' :: rest)) =
              Option.map _ (List.mapM _ rows >>= fun rest => some (row' :: rest))
          cases List.mapM (updateRow policy' env q f') (rows.map g) <;>
            cases List.mapM (updateRow policy env (fun row => q (g row)) f) rows <;>
              intro ih
          · rfl
          · cases ih
          · cases ih
          · have hrest := congrArg Prod.snd (Option.some_inj.mp ih)
            exact congrArg (fun rest => some ([], g row' :: rest)) hrest

end

/-- A statement returns rows of the table that are shown. -/
theorem perform_result (h : perform policy env rows statement = some (result, rows')) :
    ∀ row ∈ result, row ∈ rows ∧ policy.shows env row = true := by
  intro row hrow
  cases statement with
  | select p =>
      cases h
      rcases List.mem_filter.mp hrow with ⟨hmem, hshows⟩
      exact ⟨hmem, (Bool.and_eq_true_iff.mp hshows).1⟩
  | insert new =>
      rw [perform] at h
      split at h
      next => cases h; cases hrow
      next => cases h
  | update p f =>
      rcases Option.map_eq_some_iff.mp h with ⟨_, -, heq⟩
      cases heq
      cases hrow
  | delete p =>
      cases h
      cases hrow

/-- A statement leaves the rows alone that are not shown. -/
theorem perform_hidden (hpolicy : policy.ShowsAccepted env)
    (h : perform policy env rows statement = some (result, rows')) :
    policy.hidden env rows' = policy.hidden env rows := by
  cases statement with
  | select p =>
      cases h
      rfl
  | insert new =>
      rw [perform] at h
      split at h
      next haccepts =>
        cases h
        unfold RowPolicy.hidden
        rw [List.filter_append, List.filter_cons_of_neg (by rw [hpolicy _ haccepts]; decide)]
        exact List.append_nil _
      next => cases h
  | update p f =>
      rcases Option.map_eq_some_iff.mp h with ⟨_, hrows, heq⟩
      cases heq
      exact (filter_mapM_updateRow hpolicy hrows).2
  | delete p =>
      cases h
      unfold RowPolicy.hidden
      rw [List.filter_filter]
      refine List.filter_congr ?_
      intro row _
      cases policy.shows env row <;> rfl

/-- What a statement does to the rows that are shown depends on them. -/
theorem perform_shown (hpolicy : policy.ShowsAccepted env) :
    (perform policy env rows statement).map (fun done => (done.1, policy.shown env done.2)) =
      perform policy env (policy.shown env rows) statement := by
  unfold RowPolicy.shown
  cases statement with
  | select p =>
      show some (_, _) = some (_, _)
      rw [List.filter_filter]
      refine congrArg (fun result => some (result, _)) (List.filter_congr ?_)
      intro row _
      cases policy.shows env row <;> cases p row <;> rfl
  | insert new =>
      rw [perform, perform]
      split
      next haccepts =>
        rw [Option.map_some, List.filter_append, List.filter_cons_of_pos (hpolicy _ haccepts)]
        rfl
      next => rfl
  | update p f =>
      rw [perform, perform]
      cases hrows : rows.mapM (updateRow policy env p f) with
      | none =>
          have hsome := mapM_updateRow_isSome policy env p f rows
          rw [hrows] at hsome
          unfold RowPolicy.shown at hsome
          have hnone : (rows.filter (policy.shows env)).mapM (updateRow policy env p f) = none :=
            Option.not_isSome_iff_eq_none.mp (by rw [← hsome]; exact Bool.false_ne_true)
          rw [hnone]
          rfl
      | some rows' =>
          have hshown := (filter_mapM_updateRow hpolicy hrows).1
          unfold RowPolicy.shown at hshown
          rw [hshown]
          rfl
  | delete p =>
      show some (_, _) = some (_, _)
      rw [List.filter_filter, List.filter_filter]
      refine congrArg (fun rows => some ([], rows)) (List.filter_congr ?_)
      intro row _
      cases policy.shows env row <;> cases p row <;> rfl

/-- Tables that show the same rows are the same to a statement. -/
theorem perform_congr (hpolicy : policy.ShowsAccepted env)
    (h : policy.shown env rows = policy.shown env rows') :
    (perform policy env rows statement).map (fun done => (done.1, policy.shown env done.2)) =
      (perform policy env rows' statement).map
        (fun done => (done.1, policy.shown env done.2)) := by
  rw [perform_shown hpolicy, perform_shown hpolicy, h]

end

end RowSecurity
